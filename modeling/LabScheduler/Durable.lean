import LabScheduler.Placement

namespace LabScheduler

def kPersistenceFormatVersion : UInt32 := 1

structure DurableState where
  formatVersion : UInt32 := 1
  epoch : CoordinatorEpoch := {}
  limits : Limits := {}
  defaultWeights : RankingWeights := RankingWeights.default
  idCounter : UInt64 := 0
  resources : List ResourceRecord := []
  requests : List StoredRequest := []
  placements : List PlacementRecord := []
  reservations : List ReservationRecord := []
  integrityNote : Text := []

def insertUnique {kind : IdKind} (seen : List (StrongId kind)) (id : StrongId kind) (what : Text) : Check := do
  check (id.value ≠ 0) .corruptPersistence (ascii "persisted " ++ what ++ ascii " identity is null")
  check (id ∉ seen) .duplicateIdentity
    (ascii "persisted " ++ what ++ ascii " identity is duplicated: " ++ id.toText)

/-- A record loop of `validate_durable_state`: the identity, then the rest of the record. -/
def validateUnique {α : Type} {kind : IdKind} (identity : α → StrongId kind) (what : Text) (test : α → Check) :
    List (StrongId kind) → List α → Check
  | _, [] => .ok ()
  | seen, record :: rest => do
    insertUnique seen (identity record) what
    test record
    validateUnique identity what test (identity record :: seen) rest

theorem validateUnique_ok {α : Type} {kind : IdKind} {identity : α → StrongId kind} {what : Text}
    {test : α → Check} {seen : List (StrongId kind)} {records : List α} :
    validateUnique identity what test seen records = .ok () ↔
      (∀ record ∈ records,
        (identity record).value ≠ 0 ∧ identity record ∉ seen ∧ test record = .ok ()) ∧
        (records.map identity).Nodup := by
  induction records generalizing seen with
  | nil => simp [validateUnique]
  | cons record rest ih =>
    simp only [validateUnique, insertUnique, check_bind_ok, check_ok, ih, List.mem_cons, List.map_cons,
      List.nodup_cons, List.mem_map, not_or]
    constructor
    · intro valid
      obtain ⟨⟨named, fresh⟩, tested, others, distinct⟩ := valid
      refine ⟨fun other member => ?_, ?_, distinct⟩
      · rcases member with rfl | later
        · exact ⟨named, fresh, tested⟩
        · obtain ⟨named, ⟨-, fresh⟩, tested⟩ := others other later
          exact ⟨named, fresh, tested⟩
      · intro duplicate
        obtain ⟨other, later, same⟩ := duplicate
        exact (others other later).2.1.1 same
    · intro valid
      obtain ⟨all, unique, distinct⟩ := valid
      obtain ⟨named, fresh, tested⟩ := all record (.inl rfl)
      refine ⟨⟨named, fresh⟩, tested, fun other later => ?_, distinct⟩
      obtain ⟨named, fresh, tested⟩ := all other (.inr later)
      exact ⟨named, ⟨fun same => unique ⟨other, later, same⟩, fresh⟩, tested⟩

def validatePlacement (durable : DurableState) (placement : PlacementRecord) : Check := do
  check (placement.generation.value ≠ 0) .corruptPersistence (ascii "persisted placement generation is null")
  check (placement.request ∈ durable.requests.map StoredRequest.id) .corruptPersistence
    (ascii "persisted placement references an unknown scheduling request")
  check (placement.resources ≠ []) .corruptPersistence (ascii "persisted placement has no selected resources")
  forM placement.resources fun selected => do
    check (selected.resource ∈ durable.resources.map fun resource => resource.id) .corruptPersistence
      (ascii "persisted placement references an unknown resource")
    check (selected.generation.value ≠ 0) .corruptPersistence
      (ascii "persisted placement resource generation is null")

/-- `claimed_slots`; a resource without an entry has claimed nothing. -/
abbrev ClaimedSlots := ResourceId → Nat

def ClaimedSlots.add (claimed : ClaimedSlots) (claim : ReservationClaim) : ClaimedSlots :=
  fun resource => if resource = claim.resource then claimed resource + claim.slots.toNat else claimed resource

def validateClaim (durable : DurableState) (active : Bool) (claimed : ClaimedSlots)
    (claim : ReservationClaim) : Except Status ClaimedSlots :=
  match durable.resources.find? fun resource => resource.id = claim.resource with
  | none => fail .corruptPersistence (ascii "persisted reservation claims an unknown resource")
  | some resource => do
    check (claim.slots ≠ 0) .corruptPersistence (ascii "persisted reservation claims zero slots")
    if active then
      let claimed := claimed.add claim
      check (claimed claim.resource ≤ resource.capacity.slots.toNat) .corruptPersistence
        (ascii "persisted active reservations exceed resource capacity")
      return claimed
    else return claimed

def validateClaims (durable : DurableState) (active : Bool) : ClaimedSlots → List ReservationClaim →
    Except Status ClaimedSlots
  | claimed, [] => .ok claimed
  | claimed, claim :: rest => do
    let claimed ← validateClaim durable active claimed claim
    validateClaims durable active claimed rest

def validateReservationHeader (durable : DurableState) (reservation : ReservationRecord) : Check := do
  check (reservation.lease.value ≠ 0) .corruptPersistence
    (ascii "persisted reservation lease identity is null")
  check (reservation.claims ≠ []) .corruptPersistence (ascii "persisted reservation has no claims")
  check (reservation.placement ∈ durable.placements.map PlacementRecord.id) .corruptPersistence
    (ascii "persisted reservation references an unknown placement")

def validateReservations (durable : DurableState) : List ReservationId → ClaimedSlots →
    List ReservationRecord → Except Status ClaimedSlots
  | _, claimed, [] => .ok claimed
  | seen, claimed, reservation :: rest => do
    insertUnique seen reservation.id (ascii "reservation")
    validateReservationHeader durable reservation
    let claimed ← validateClaims durable (reservation.state == .active) claimed reservation.claims
    validateReservations durable (reservation.id :: seen) claimed rest

def validateDurableState (durable : DurableState) : Check := do
  check (durable.formatVersion = kPersistenceFormatVersion) .corruptPersistence
    (ascii "unsupported durable state format version")
  check (durable.epoch.value ≠ 0) .corruptPersistence (ascii "persisted coordinator epoch is null")
  check (durable.resources.length ≤ durable.limits.maxPersistenceRecords.toNat ∧
      durable.requests.length ≤ durable.limits.maxPersistenceRecords.toNat ∧
      durable.placements.length ≤ durable.limits.maxPersistenceRecords.toNat ∧
      durable.reservations.length ≤ durable.limits.maxPersistenceRecords.toNat) .corruptPersistence
    (ascii "persisted record count exceeds the configured bound")
  validateUnique (fun resource : ResourceRecord => resource.id) (ascii "resource")
    (fun resource => validateResourceRecord resource durable.limits) [] durable.resources
  validateUnique StoredRequest.id (ascii "scheduling request")
    (fun stored => validateScheduleRequest stored.request durable.limits) [] durable.requests
  validateUnique PlacementRecord.id (ascii "placement") (validatePlacement durable) [] durable.placements
  let claimed ← validateReservations durable [] (fun _ => 0) durable.reservations
  forM durable.resources fun resource =>
    check (resource.reservedSlots.toNat = claimed resource.id) .corruptPersistence
      (ascii "persisted reserved capacity does not match the active reservation claims")

theorem validateReservations_distinct {durable : DurableState} {seen : List ReservationId}
    {claimed result : ClaimedSlots} {reservations : List ReservationRecord}
    (valid : validateReservations durable seen claimed reservations = .ok result) :
    (∀ reservation ∈ reservations, reservation.id ∉ seen) ∧ (reservations.map ReservationRecord.id).Nodup := by
  induction reservations generalizing seen claimed with
  | nil => simp
  | cons reservation rest ih =>
    simp only [validateReservations, insertUnique, check_bind_ok, check_ok] at valid
    obtain ⟨⟨-, fresh⟩, -, others⟩ := valid
    obtain ⟨_, -, later⟩ := except_bind_ok.mp others
    obtain ⟨away, distinct⟩ := ih later
    refine ⟨fun other member => ?_, List.nodup_cons.mpr ⟨fun duplicate => ?_, distinct⟩⟩
    · rcases List.mem_cons.mp member with rfl | there
      · exact fresh
      · exact fun earlier => away other there (List.mem_cons_of_mem _ earlier)
    · obtain ⟨other, there, same⟩ := List.mem_map.mp duplicate
      exact away other there (same ▸ List.mem_cons_self)

theorem validateDurableState_reservations {durable : DurableState}
    (valid : validateDurableState durable = .ok ()) :
    (durable.reservations.map ReservationRecord.id).Nodup := by
  simp only [validateDurableState, check_bind_ok] at valid
  obtain ⟨-, -, -, -, -, -, others⟩ := valid
  obtain ⟨claimed, accepted, -⟩ := except_bind_ok.mp others
  exact (validateReservations_distinct accepted).2

theorem validateDurableState_resources {durable : DurableState} (valid : validateDurableState durable = .ok ()) :
    (durable.resources.map fun resource => resource.id).Nodup := by
  simp only [validateDurableState, check_bind_ok, validateUnique_ok] at valid
  obtain ⟨-, -, -, ⟨-, distinct⟩, -⟩ := valid
  exact distinct

theorem validateDurableState_requests {durable : DurableState} (valid : validateDurableState durable = .ok ()) :
    (durable.requests.map StoredRequest.id).Nodup := by
  simp only [validateDurableState, check_bind_ok, validateUnique_ok] at valid
  obtain ⟨-, -, -, -, ⟨-, distinct⟩, -⟩ := valid
  exact distinct

theorem validateDurableState_ok {durable : DurableState} (valid : validateDurableState durable = .ok ()) :
    (∀ resource ∈ durable.resources, validateResourceRecord resource durable.limits = .ok ()) ∧
      (∀ stored ∈ durable.requests, validateScheduleRequest stored.request durable.limits = .ok ()) ∧
      (∀ placement ∈ durable.placements, validatePlacement durable placement = .ok ()) ∧
      (durable.placements.map PlacementRecord.id).Nodup := by
  simp only [validateDurableState, check_bind_ok, validateUnique_ok] at valid
  obtain ⟨-, -, -, ⟨resources, -⟩, ⟨requests, -⟩, ⟨placements, distinct⟩, -⟩ := valid
  exact ⟨fun resource member => (resources resource member).2.2,
    fun stored member => (requests stored member).2.2,
    fun placement member => (placements placement member).2.2, distinct⟩

end LabScheduler
