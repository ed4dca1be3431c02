import LabScheduler.Engine.Capacity

namespace LabScheduler

open Foundation

/-- The slots a reservation holds on a resource: none unless it is active. -/
def ReservationRecord.claimedOn (reservation : ReservationRecord) (id : ResourceId) : Nat :=
  if reservation.state = .active then claimedSum reservation.claims id else 0

/-- The slots all active reservations hold on a resource. -/
def claimedSlotsOn (reservations : ReservationTable) (id : ResourceId) : Nat :=
  reservations.total fun reservation => reservation.claimedOn id

structure Ledger (state : SchedulerState) : Prop extends Fits state where
  booked : ∀ resource ∈ state.resources.entries,
    resource.reservedSlots.toNat = claimedSlotsOn state.reservations resource.id
  registered : ∀ reservation ∈ state.reservations.entries, reservation.state = .active →
    ∀ claim ∈ reservation.claims, state.resources.find? claim.resource ≠ none

structure SameSlots (after before : ResourceRecord) : Prop where
  id : after.id = before.id
  reserved : after.reservedSlots = before.reservedSlots

theorem SameSlots.refl (resource : ResourceRecord) : SameSlots resource resource := ⟨rfl, rfl⟩

theorem ResourceRecord.loseIncarnation_slots (worker : WorkerId) (boot : WorkerBootId)
    (resource : ResourceRecord) : SameSlots (resource.loseIncarnation worker boot) resource := by
  unfold loseIncarnation
  split
  · exact ⟨rfl, rfl⟩
  · exact .refl resource

theorem Ledger.kept {state after : SchedulerState} (ledger : Ledger state) (fits : Fits after)
    (records : ∀ resource ∈ after.resources.entries, ∃ earlier ∈ state.resources.entries,
      SameSlots resource earlier)
    (present : ∀ id, after.resources.find? id = none → state.resources.find? id = none)
    (reservations : after.reservations = state.reservations) : Ledger after := by
  refine ⟨fits, fun resource member => ?_, ?_⟩
  · obtain ⟨earlier, there, same⟩ := records resource member
    rw [same.reserved, same.id, reservations]
    exact ledger.booked earlier there
  · intro reservation member active claim claimed absent
    rw [reservations] at member
    exact ledger.registered reservation member active claim claimed (present _ absent)

theorem ReservationRecord.claimedOn_close (reservation : ReservationRecord) (target : PlacementState)
    (detail : Text) (id : ResourceId) : (reservation.close target detail).claimedOn id = 0 :=
  if_neg (closedState_ne_active target)

theorem claimedSlotsOn_close {reservations : ReservationTable} {reservation : ReservationRecord}
    (found : reservations.find? reservation.id = some reservation) (active : reservation.state = .active)
    (target : PlacementState) (detail : Text) (id : ResourceId) :
    claimedSlotsOn (reservations.set (reservation.close target detail)) id +
      claimedSum reservation.claims id = claimedSlotsOn reservations id := by
  have there : reservations.find? (reservation.close target detail).id = some reservation := found
  have total : claimedSlotsOn (reservations.set (reservation.close target detail)) id +
      reservation.claimedOn id = claimedSlotsOn reservations id +
        (reservation.close target detail).claimedOn id := Table.total_set_found there _
  have before : reservation.claimedOn id = claimedSum reservation.claims id := if_pos active
  rw [ReservationRecord.claimedOn_close, before] at total
  exact total

theorem Ledger.close {state after : SchedulerState} {reservation : ReservationRecord} (ledger : Ledger state)
    (fits : Fits after) (found : state.reservations.find? reservation.id = some reservation)
    (active : reservation.state = .active)
    (resources : after.resources = reservation.claims.foldl releaseClaim state.resources)
    (reservations : ∃ target detail,
      after.reservations = state.reservations.set (reservation.close target detail)) :
    Ledger after := by
  obtain ⟨target, detail, reservations⟩ := reservations
  refine ⟨fits, fun resource member => ?_, fun other member open' claim claimed => ?_⟩
  · have there := Table.find?_of_mem member
    rw [resources, releaseClaims_find?, Option.map_eq_some_iff] at there
    obtain ⟨before, there, rfl⟩ := there
    have closed := claimedSlotsOn_close found active target detail before.id
    rw [giveBackAll_slots, ledger.booked before (Table.mem_of_find? there), ResourceRecord.giveBackAll_id,
      reservations]
    omega
  · rw [reservations] at member
    rw [resources, releaseClaims_find?]
    rcases Table.mem_set.mp member with rfl | ⟨there, -⟩
    · exact absurd open' (closedState_ne_active target)
    · have present := ledger.registered other there open' claim claimed
      simpa using present

theorem Ledger.change {state after : SchedulerState} (change : Change state after) (ledger : Ledger state) :
    Ledger after := by
  have fits : Fits after := .change change ledger.toFits
  cases change with
  | books resources _ _ reservations =>
    refine ledger.kept fits (fun resource member => ⟨resource, resources ▸ member, .refl resource⟩) ?_ reservations
    intro id absent
    rwa [resources] at absent
  | invalidate worker boot =>
    refine ledger.kept fits (fun resource member => ?_) (fun id absent => ?_) rfl
    · simp only [invalidateResources, Table.mem_mapEntries] at member
      obtain ⟨earlier, there, rfl⟩ := member
      exact ⟨earlier, there, ResourceRecord.loseIncarnation_slots worker boot earlier⟩
    · simpa [invalidateResources, Table.find?_mapEntries] using absent
  | @retire record found unreserved =>
    refine ledger.kept fits (fun resource member => ?_) (fun id absent => ?_) rfl
    · rcases Table.mem_set.mp member with rfl | ⟨there, -⟩
      · exact ⟨record, Table.mem_of_find? found, rfl, rfl⟩
      · exact ⟨resource, there, .refl resource⟩
    · change (state.resources.set record.retire).find? id = none at absent
      rw [Table.find?_set] at absent
      split at absent
      · cases absent
      · exact absent
  | @finish placement target detail found live closed =>
    rcases closeReservation_cases state (placement.finish target detail (state.transitionSequence + 1)) target with
      ⟨same, -⟩ | ⟨reservation, there, active, same⟩
    · refine ledger.kept fits (fun resource member => ⟨resource, ?_, .refl resource⟩) (fun id absent => ?_) ?_
      · simpa only [endPlacement, same] using member
      · simpa only [endPlacement, same] using absent
      · simp only [endPlacement, same]
    · have found : state.reservations.find? reservation.id = some reservation := Table.key_of_find? there ▸ there
      exact ledger.close fits found active (by simp only [endPlacement, same])
        ⟨_, _, by simp only [endPlacement, same]; rfl⟩
  | mark =>
    exact ledger.kept fits (fun resource member => ⟨resource, member, .refl resource⟩) (fun _ absent => absent) rfl
  | complete =>
    exact ledger.kept fits (fun resource member => ⟨resource, member, .refl resource⟩) (fun _ absent => absent) rfl

theorem Ledger.unclaimed {state : SchedulerState} (ledger : Ledger state) {id : ResourceId}
    (absent : state.resources.find? id = none) : claimedSlotsOn state.reservations id = 0 := by
  refine Table.total_eq_zero fun reservation member => ?_
  unfold ReservationRecord.claimedOn
  split
  · rename_i active
    refine claimedSum_eq_zero fun claim claimed same => ?_
    exact ledger.registered reservation member active claim claimed (same ▸ absent)
  · rfl

theorem Ledger.register {state : SchedulerState} {record : ResourceRecord} {limits : Limits}
    (ledger : Ledger state) (absent : state.resources.find? record.id = none)
    (unreserved : record.reservedSlots = 0) (valid : validateResourceRecord record limits = .ok ()) :
    Ledger { state with resources := state.resources.emplace record } := by
  refine ⟨.register unreserved valid ledger.toFits, fun resource member => ?_,
    fun reservation member active claim claimed => ?_⟩
  · rcases Table.mem_emplace member with rfl | there
    · rw [unreserved]
      exact (ledger.unclaimed absent).symm
    · exact ledger.booked resource there
  · have present := ledger.registered reservation member active claim claimed
    change (state.resources.emplace record).find? claim.resource ≠ none
    rw [Table.find?_emplace]
    split
    · exact nofun
    · exact present

theorem Ledger.publish {mid : SchedulerState} {advertisement : ResourceAdvertisement} {live : ResourceRecord}
    (ledger : Ledger mid) (found : mid.resources.find? advertisement.id = some live)
    (accepted : publishLiveChecks (normalizeAdvertisement advertisement) live = .ok ()) :
    Ledger (publishWrite mid advertisement live) := by
  have same : live.id = advertisement.id := ResourceTable.id_of_find? found
  refine ⟨.publish accepted ledger.toFits, fun resource member => ?_,
    fun reservation member active claim claimed => ?_⟩
  · rcases Table.mem_set.mp member with rfl | ⟨there, -⟩
    · change live.reservedSlots.toNat = claimedSlotsOn mid.reservations advertisement.id
      rw [← same]
      exact ledger.booked live (Table.mem_of_find? found)
    · exact ledger.booked resource there
  · have present := ledger.registered reservation member active claim claimed
    change (mid.resources.set _).find? claim.resource ≠ none
    rw [Table.find?_set]
    split
    · exact nofun
    · exact present

theorem Ledger.recover {durable : DurableState} {before after : SchedulerState}
    (rebuilt : Rebuilt durable before after) (valid : validateDurableState durable = .ok ()) : Ledger after := by
  refine ⟨.recover rebuilt valid, fun resource member => ?_, fun reservation member active => ?_⟩
  · rw [rebuilt.unreserved member]
    refine (Table.total_eq_zero fun reservation there => ?_).symm
    exact if_neg (rebuilt.not_active there)
  · exact absurd active (rebuilt.not_active member)

theorem Ledger.commit {state after : SchedulerState} {request : ScheduleRequest} {limits : Limits}
    {selection : List CandidateResource} {selected : List SelectedResource} {claims : List ReservationClaim}
    {reservation : ReservationRecord} (ledger : Ledger state) (fits : Fits after)
    (reasons : 1 ≤ limits.maxRejectionReasonsPerEntry) (chosen : Chosen state request limits selection)
    (booked : Booked state.resources (selection.zip request.requirements) after.resources selected claims)
    (active : reservation.state = .active) (claimed : reservation.claims = claims)
    (absent : state.reservations.find? reservation.id = none)
    (reservations : after.reservations = state.reservations.emplace reservation) : Ledger after := by
  have set : after.reservations = state.reservations.set reservation :=
    reservations.trans (Table.emplace_fresh absent)
  have held (id : ResourceId) : claimedSlotsOn after.reservations id =
      claimedSlotsOn state.reservations id + claimedSum claims id := by
    have total : claimedSlotsOn (state.reservations.set reservation) id =
        claimedSlotsOn state.reservations id + reservation.claimedOn id := Table.total_set_fresh absent _
    have own : reservation.claimedOn id = claimedSum claims id := claimed ▸ if_pos active
    rw [set, total, own]
  refine ⟨fits, fun resource member => ?_, fun other member open' claim claimed' => ?_⟩
  · have there := Table.find?_of_mem member
    rw [booked.find?, Option.map_eq_some_iff] at there
    obtain ⟨before, there, rfl⟩ := there
    have earlier := Table.mem_of_find? there
    obtain ⟨-, taken⟩ := chosen.takes ledger.toFits reasons booked earlier
    rw [taken, ResourceRecord.takeAll_id, held, ledger.booked before earlier]
  · have present : state.resources.find? claim.resource ≠ none := by
      rw [set] at member
      rcases Table.mem_set.mp member with rfl | ⟨there, -⟩
      · rw [claimed] at claimed'
        exact booked.registered claimed'
      · exact ledger.registered other there open' claim claimed'
    rw [booked.find?]
    simpa using present

theorem Ledger.requestWrite {state after : SchedulerState} (write : RequestWrite state after)
    (ledger : Ledger state) : Ledger after := by
  cases write <;> exact ⟨⟨ledger.fits⟩, ledger.booked, ledger.registered⟩

theorem Ledger.scheduled {state : SchedulerState} {config : EngineConfig} {ids : IdGenerator}
    {stored : StoredRequest} {generation : PlacementGeneration} {reassignments : UInt32}
    {scheduled : Scheduled} (result : ScheduleResult state config ids stored generation reassignments scheduled)
    (ledger : Ledger state) (reasons : 1 ≤ config.limits.maxRejectionReasonsPerEntry)
    (absent : scheduled.ids = ids.commitIds.2 →
      state.reservations.find? ids.commitIds.1.reservation = none) : Ledger scheduled.state := by
  have fits : Fits scheduled.state := .scheduled result ledger.toFits reasons
  cases result with
  | noPlacement => exact ⟨fits, ledger.booked, ledger.registered⟩
  | refused => exact ledger
  | broken chosen loop =>
    obtain ⟨booked, succeeds⟩ := chosen.commits ledger.toFits reasons
    rw [loop] at succeeds
    cases succeeds
  | placed chosen loop committed decided room resources_after requests_after placements_after
      reservations_after =>
    have booked := commitLoop_ok loop
    rw [← resources_after] at booked
    refine ledger.commit fits reasons chosen booked rfl rfl ?_ reservations_after
    rw [committed]
    exact absent rfl

theorem Ledger.step {engine : Engine} {operation : Operation} (ledger : Ledger engine.state)
    (reasons : 1 ≤ engine.config.limits.maxRejectionReasonsPerEntry) (fresh : engine.DrawsFresh operation) :
    Ledger (engine.step operation).1.state := by
  refine Engine.step_preserves Ledger.change Ledger.requestWrite ?_ ?_ ?_ ?_ ledger
  · intro advertisement mid record _ registers ledger
    exact ledger.register registers.absent registers.unreserved registers.valid
  · intro advertisement mid live _ publishes ledger
    exact ledger.publish publishes.found publishes.accepted
  · intro call calls ledger
    exact Ledger.scheduled scheduleLocked_result ledger reasons fun commits =>
      (calls.draws_fresh fresh commits).2
  · intro durable _ accepted
    exact Ledger.recover (rebuildState_rebuilt accepted) (importChecks_ok accepted).1

theorem Ledger.fresh (config : EngineConfig) : Ledger (Engine.fresh config).state := by
  refine ⟨.fresh config, fun _ member => ?_, fun _ member => ?_⟩
  all_goals exact absurd member List.not_mem_nil

theorem Ledger.runs {config : EngineConfig} {operations : List Operation}
    (reasons : 1 ≤ config.limits.maxRejectionReasonsPerEntry)
    (fresh : Guarded Engine.step Engine.DrawsFresh (Engine.fresh config) operations) :
    Ledger ((Engine.fresh config).runs operations).state := by
  apply Engine.runs_preserve _ fresh (Ledger.fresh config)
  intro engine operation same ledger draws
  exact ledger.step (same ▸ reasons) draws

/-- Giving the claims back one after the other never meets the clamp. -/
def Unclamped (resources : ResourceTable) (claims : List ReservationClaim) : Prop :=
  ∀ done claim later resource, claims = done ++ claim :: later →
    (done.foldl releaseClaim resources).find? claim.resource = some resource →
    claim.slots ≤ resource.reservedSlots

theorem Ledger.unclamped {state : SchedulerState} (ledger : Ledger state) {reservation : ReservationRecord}
    (member : reservation ∈ state.reservations.entries) (active : reservation.state = .active) :
    Unclamped state.resources reservation.claims := by
  intro done claim later resource split found
  rw [releaseClaims_find?, Option.map_eq_some_iff] at found
  obtain ⟨before, there, rfl⟩ := found
  have same : before.id = claim.resource := ResourceTable.id_of_find? there
  have held : reservation.claimedOn before.id ≤ claimedSlotsOn state.reservations before.id :=
    Table.weight_le_total member fun other => other.claimedOn before.id
  have own : reservation.claimedOn before.id = claimedSum reservation.claims before.id := if_pos active
  have booked := ledger.booked before (Table.mem_of_find? there)
  rw [own, split, claimedSum_append, claimedSum_cons, if_pos same.symm] at held
  rw [UInt32.le_iff_toNat_le, giveBackAll_slots]
  omega

/-- The capacity ledger of every reachable state, and of every state an operation passes through: a
    termination is always made from a state `mid` that changes lead to. -/
theorem capacity_ledger {config : EngineConfig} {operations : List Operation} (working : config.limits.Working)
    (fresh : Guarded Engine.step Engine.DrawsFresh (Engine.fresh config) operations) :
    (∀ mid, Changes ((Engine.fresh config).runs operations).state mid →
      (∀ resource ∈ mid.resources.entries,
        resource.reservedSlots.toNat = claimedSlotsOn mid.reservations resource.id ∧
        resource.advertisedOccupancy.toNat + resource.reservedSlots.toNat ≤ resource.capacity.slots.toNat ∧
        resource.totalOccupancy.toNat =
          resource.advertisedOccupancy.toNat + resource.reservedSlots.toNat) ∧
      ∀ reservation ∈ mid.reservations.entries, reservation.state = .active →
        Unclamped mid.resources reservation.claims) ∧
    ∀ operation call, ((Engine.fresh config).runs operations).Calls operation call →
      (∀ requirement candidate resource,
        Eligible call.state call.stored.request config.limits requirement candidate resource →
        (resource.totalOccupancy + candidate.slots).toNat =
          resource.totalOccupancy.toNat + candidate.slots.toNat) ∧
      ∀ candidate ∈ (searchPlacements call.state call.stored.request config.limits
          (buildPlans call.state call.stored.request config.limits)).candidates,
        ∃ booked, (commitLoop call.state.resources
          (candidate.selection.zip call.stored.request.requirements)).2 = .ok booked := by
  have ledger := Ledger.runs working.reasons fresh
  constructor
  · intro mid within
    have ledger : Ledger mid := within.preserve Ledger.change ledger
    refine ⟨fun resource member => ?_, fun reservation member active => ledger.unclamped member active⟩
    have fits := ledger.fits resource member
    exact ⟨ledger.booked resource member, fits, totalOccupancy_toNat fits⟩
  · intro operation call calls
    have ledger : Ledger call.state := calls.preserve Ledger.change Ledger.requestWrite ledger
    constructor
    · intro requirement candidate resource eligible
      have room := eligible.room ledger.toFits working.reasons
      have total := totalOccupancy_toNat (ledger.fits resource (Table.mem_of_find? eligible.found))
      have bound := resource.capacity.slots.toNat_lt
      rw [UInt32.toNat_add]
      omega
    · intro candidate member
      exact (searchPlacements_allChosen _ _ _ candidate member).commits ledger.toFits working.reasons

theorem capacity_ledger_bench :
    ∃ resource ∈ ((Engine.fresh {}).runs Bench.start).state.resources.entries,
      resource.totalOccupancy.toNat = resource.advertisedOccupancy.toNat + resource.reservedSlots.toNat := by
  have ledger := @capacity_ledger {} Bench.start ⟨by decide, by decide⟩ ⟨by decide, by decide, trivial⟩
  have registered : ((Engine.fresh {}).runs Bench.start).state.resources.entries ≠ [] := by decide +kernel
  obtain ⟨resource, member⟩ := List.exists_mem_of_ne_nil _ registered
  exact ⟨resource, member, ((ledger.1 _ .refl).1 resource member).2.2⟩

end LabScheduler
