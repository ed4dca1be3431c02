import LabScheduler.Engine.Termination

namespace LabScheduler

open Foundation

/-- The claims of a list on one resource. -/
def countClaims (claims : List ReservationClaim) (id : ResourceId) : Nat :=
  claims.countP fun claim => claim.resource = id

/-- The claims active reservations hold on a resource. -/
def claimsOn (reservations : ReservationTable) (id : ResourceId) : Nat :=
  reservations.total fun reservation =>
    if reservation.state = .active then countClaims reservation.claims id else 0

structure HoldsExclusively (reservations : ReservationTable) (claim : ReservationClaim) : Prop where
  exclusive : claim.exclusive
  held : ∃ reservation ∈ reservations.entries, reservation.state = .active ∧ claim ∈ reservation.claims

structure Exclusive (state : SchedulerState) : Prop where
  sole : ∀ claim, HoldsExclusively state.reservations claim → claimsOn state.reservations claim.resource = 1
  full : ∀ claim, HoldsExclusively state.reservations claim → ∀ resource ∈ state.resources.entries,
    resource.id = claim.resource → resource.sharing = .shared →
      resource.advertisedOccupancy.toNat + claim.slots.toNat = resource.capacity.slots.toNat
  single : ∀ resource ∈ state.resources.entries, resource.sharing = .exclusive →
    claimsOn state.reservations resource.id ≤ 1

theorem countClaims_pos {claims : List ReservationClaim} {claim : ReservationClaim} (member : claim ∈ claims) :
    0 < countClaims claims claim.resource :=
  List.countP_pos_iff.mpr ⟨claim, member, by simp⟩

theorem countClaims_eq_zero {claims : List ReservationClaim} {id : ResourceId}
    (none : ∀ claim ∈ claims, claim.resource ≠ id) : countClaims claims id = 0 := by
  rw [countClaims, List.countP_eq_zero]
  intro claim member same
  exact none claim member (of_decide_eq_true same)

theorem countClaims_of_nodup {claims : List ReservationClaim} {claim : ReservationClaim}
    (distinct : (claims.map ReservationClaim.resource).Nodup) (member : claim ∈ claims) :
    countClaims claims claim.resource = 1 := by
  have counted : countClaims claims claim.resource =
      (claims.map ReservationClaim.resource).count claim.resource := by
    rw [countClaims, List.count, List.countP_map]
    congr
  rw [counted]
  exact List.count_eq_one_of_mem distinct (List.mem_map_of_mem member)

theorem claimsOn_pos {reservations : ReservationTable} {reservation : ReservationRecord}
    {claim : ReservationClaim} (member : reservation ∈ reservations.entries) (active : reservation.state = .active)
    (claimed : claim ∈ reservation.claims) : 0 < claimsOn reservations claim.resource := by
  have own := countClaims_pos claimed
  have share : (if reservation.state = .active then countClaims reservation.claims claim.resource else 0) ≤
      claimsOn reservations claim.resource :=
    Table.weight_le_total member fun other =>
      if other.state = .active then countClaims other.claims claim.resource else 0
  rw [if_pos active] at share
  omega

theorem claimsOn_eq_zero {state : SchedulerState} (paired : Paired state) {id : ResourceId}
    (free : claimedSlotsOn state.reservations id = 0) : claimsOn state.reservations id = 0 := by
  refine Table.total_eq_zero fun reservation member => ?_
  by_cases active : reservation.state = .active
  · rw [if_pos active]
    refine countClaims_eq_zero fun claim claimed same => ?_
    have share : reservation.claimedOn id ≤ claimedSlotsOn state.reservations id :=
      Table.weight_le_total member fun other => other.claimedOn id
    have own : reservation.claimedOn id = claimedSum reservation.claims id := if_pos active
    have part := claimedSum_ge claimed
    have positive := paired.claim_slots member active claimed
    rw [same] at part
    omega
  · rw [if_neg active]

theorem claimsOn_close {reservations : ReservationTable} {reservation : ReservationRecord}
    (found : reservations.find? reservation.id = some reservation) (target : PlacementState) (detail : Text)
    (id : ResourceId) :
    claimsOn (reservations.set (reservation.close target detail)) id ≤ claimsOn reservations id := by
  let weight (other : ReservationRecord) : Nat :=
    if other.state = .active then countClaims other.claims id else 0
  have there : reservations.find? (reservation.close target detail).id = some reservation := found
  have total : (reservations.set (reservation.close target detail)).total weight + weight reservation =
      reservations.total weight + weight (reservation.close target detail) := Table.total_set_found there weight
  have none : weight (reservation.close target detail) = 0 := if_neg (closedState_ne_active target)
  change (reservations.set (reservation.close target detail)).total weight ≤ reservations.total weight
  omega

theorem claimsOn_commit {reservations : ReservationTable} {reservation : ReservationRecord}
    (absent : reservations.find? reservation.id = none) (active : reservation.state = .active) (id : ResourceId) :
    claimsOn (reservations.set reservation) id =
      claimsOn reservations id + countClaims reservation.claims id := by
  have total : claimsOn (reservations.set reservation) id = claimsOn reservations id +
      if reservation.state = .active then countClaims reservation.claims id else 0 :=
    Table.total_set_fresh absent _
  rw [total, if_pos active]

theorem Change.claimsOn_le {state after : SchedulerState} (change : Change state after) (id : ResourceId) :
    claimsOn after.reservations id ≤ claimsOn state.reservations id := by
  rcases change.reservations_cases with same | ⟨reservation, target, detail, found, -, closed⟩
  · rw [same]
  · rw [closed]
    exact claimsOn_close found target detail id

theorem Change.holdsExclusively {state after : SchedulerState} (change : Change state after)
    {claim : ReservationClaim} (holds : HoldsExclusively after.reservations claim) : HoldsExclusively state.reservations claim := by
  obtain ⟨exclusive, reservation, member, active, claimed⟩ := holds
  obtain ⟨before, there, -, progresses⟩ := change.reservations.of_mem member
  have same := progresses.active active
  rw [same] at active claimed
  exact ⟨exclusive, before, there, active, claimed⟩

theorem HoldsExclusively.counted {reservations : ReservationTable} {claim : ReservationClaim}
    (holds : HoldsExclusively reservations claim) : 0 < claimsOn reservations claim.resource := by
  obtain ⟨-, reservation, member, active, claimed⟩ := holds
  exact claimsOn_pos member active claimed

namespace Exclusive

variable {state after : SchedulerState}

theorem change (change : Change state after) (exclusive : Exclusive state) : Exclusive after := by
  refine ⟨fun claim holds => ?_, fun claim holds resource member named shared => ?_,
    fun resource member mode => ?_⟩
  · have before := exclusive.sole claim (change.holdsExclusively holds)
    have fewer := change.claimsOn_le claim.resource
    have some := holds.counted
    omega
  · obtain ⟨before, there, -, lapses⟩ := change.resources.of_mem member
    rw [lapses.id] at named
    rw [lapses.sharing] at shared
    rw [lapses.advertised, lapses.capacity]
    exact exclusive.full claim (change.holdsExclusively holds) before there named shared
  · obtain ⟨before, there, -, lapses⟩ := change.resources.of_mem member
    have fewer := change.claimsOn_le resource.id
    rw [lapses.sharing] at mode
    have one := exclusive.single before there mode
    rw [lapses.id] at fewer ⊢
    omega

theorem write (write : RequestWrite state after) (exclusive : Exclusive state) : Exclusive after := by
  have stay {later : SchedulerState} (resources : later.resources = state.resources)
      (reservations : later.reservations = state.reservations) : Exclusive later := by
    constructor
    · rw [reservations]
      exact exclusive.sole
    · rw [resources, reservations]
      exact exclusive.full
    · rw [resources, reservations]
      exact exclusive.single
  cases write <;> exact stay rfl rfl

theorem register {record : ResourceRecord} (ledger : Ledger state) (paired : Paired state)
    (absent : state.resources.find? record.id = none) (exclusive : Exclusive state) :
    Exclusive { state with resources := state.resources.emplace record } := by
  have none := claimsOn_eq_zero paired (ledger.unclaimed absent)
  refine ⟨exclusive.sole, fun claim holds resource member named shared => ?_, fun resource member mode => ?_⟩
  · rcases Table.mem_emplace member with rfl | there
    · have some := holds.counted
      rw [← named] at some
      change 0 < claimsOn state.reservations resource.id at some
      omega
    · exact exclusive.full claim holds resource there named shared
  · rcases Table.mem_emplace member with rfl | there
    · change claimsOn state.reservations resource.id ≤ 1
      omega
    · exact exclusive.single resource there mode

end Exclusive

/-- What a publication must not do to a resource that carries claims: enlarge what is free beside an
    exclusive claim, or turn a resource exclusive that carries several. -/
def RespectsClaims (mid : SchedulerState) (advertisement : ResourceAdvertisement) : Prop :=
  (advertisement.sharing = .shared → ∀ claim, HoldsExclusively mid.reservations claim →
    claim.resource = advertisement.id →
      advertisement.advertisedOccupancy.toNat + claim.slots.toNat = advertisement.capacity.slots.toNat) ∧
  (advertisement.sharing = .exclusive → claimsOn mid.reservations advertisement.id ≤ 1)

def Engine.PublishesRespectfully (engine : Engine) : Operation → Prop
  | .publishResourceState advertisement =>
    ∀ mid live, Publishes engine.state engine.config advertisement mid live → RespectsClaims mid advertisement
  | _ => True

namespace Exclusive

variable {state after : SchedulerState}

theorem publish {advertisement : ResourceAdvertisement} {live : ResourceRecord}
    (respects : RespectsClaims state advertisement) (exclusive : Exclusive state) :
    Exclusive (publishWrite state advertisement live) := by
  refine ⟨exclusive.sole, fun claim holds resource member named shared => ?_, fun resource member mode => ?_⟩
  · rcases Table.mem_set.mp member with rfl | ⟨there, -⟩
    · have named : advertisement.id = claim.resource := named
      exact respects.1 shared claim holds named.symm
    · exact exclusive.full claim holds resource there named shared
  · rcases Table.mem_set.mp member with rfl | ⟨there, -⟩
    · exact respects.2 mode
    · exact exclusive.single resource there mode

theorem recover {durable : DurableState} (rebuilt : Rebuilt durable state after) : Exclusive after := by
  have none (claim : ReservationClaim) : ¬ HoldsExclusively after.reservations claim := by
    intro holds
    obtain ⟨-, reservation, member, active, -⟩ := holds
    exact rebuilt.not_active member active
  refine ⟨fun claim holds => absurd holds (none claim), fun claim holds => absurd holds (none claim),
    fun resource member mode => ?_⟩
  have empty : claimsOn after.reservations resource.id = 0 :=
    Table.total_eq_zero fun reservation there => if_neg (rebuilt.not_active there)
  omega

end Exclusive

theorem Eligible.exclusive {state : SchedulerState} {request : ScheduleRequest} {limits : Limits}
    {requirement : ResourceRequirement} {candidate : CandidateResource} {resource : ResourceRecord}
    (eligible : Eligible state request limits requirement candidate resource)
    (reasons : 1 ≤ limits.maxRejectionReasonsPerEntry) (alone : candidate.exclusive) :
    candidate.slots = resource.capacity.slots ∧ resource.totalOccupancy = 0 := by
  obtain ⟨-, claimed, exclusively⟩ := eligible.claims
  rw [exclusively] at alone
  obtain ⟨-, passed⟩ := evaluateResource_eligible reasons eligible.eligible
  have test := passed (claimsExclusively request requirement resource && resource.totalOccupancy != 0,
    .exclusivityConflict) (by simp [hardTests])
  constructor
  · rw [claimed]
    exact if_pos alone
  · simpa [alone] using test

theorem Eligible.shared {state : SchedulerState} {request : ScheduleRequest} {limits : Limits}
    {requirement : ResourceRequirement} {candidate : CandidateResource} {resource : ResourceRecord}
    (eligible : Eligible state request limits requirement candidate resource)
    (together : candidate.exclusive = false) : resource.sharing = .shared := by
  obtain ⟨-, -, exclusively⟩ := eligible.claims
  rw [exclusively] at together
  cases mode : resource.sharing with
  | shared => rfl
  | exclusive => simp [claimsExclusively, mode] at together

theorem Chosen.meets {state : SchedulerState} {request : ScheduleRequest} {limits : Limits}
    {selection : List CandidateResource} {selected : List SelectedResource} {claims : List ReservationClaim}
    {resources : ResourceTable} (chosen : Chosen state request limits selection) (ledger : Ledger state)
    (reasons : 1 ≤ limits.maxRejectionReasonsPerEntry)
    (booked : Booked state.resources (selection.zip request.requirements) resources selected claims)
    {claim : ReservationClaim} (member : claim ∈ claims) :
    ∃ resource ∈ state.resources.entries, resource.id = claim.resource ∧
      resource.advertisedOccupancy.toNat + resource.reservedSlots.toNat + claim.slots.toNat ≤
        resource.capacity.slots.toNat ∧
      (claim.exclusive = true → claim.slots = resource.capacity.slots) ∧
      (claim.exclusive = false → resource.sharing = .shared) := by
  obtain ⟨candidate, picked, made⟩ := forall₂_mem_left (booked.claimsFor chosen.length) member
  obtain ⟨requirement, -, resource, eligible⟩ := forall₂_mem_left chosen.eligible picked
  obtain ⟨named, -, -⟩ := eligible.claims
  have room := eligible.room ledger.toFits reasons
  rw [made.slots, made.exclusive, made.resource]
  exact ⟨resource, Table.mem_of_find? eligible.found, named.symm, room,
    fun alone => (eligible.exclusive reasons alone).1, eligible.shared⟩

namespace Exclusive

variable {state after : SchedulerState}

theorem apart {claim fresh : ReservationClaim} {resource : ResourceRecord} (exclusive : Exclusive state)
    (ledger : Ledger state) (paired : Paired state) (member : resource ∈ state.resources.entries)
    (holds : HoldsExclusively state.reservations claim) (named : resource.id = claim.resource)
    (positive : 0 < fresh.slots.toNat)
    (room : resource.advertisedOccupancy.toNat + resource.reservedSlots.toNat + fresh.slots.toNat ≤
      resource.capacity.slots.toNat)
    (whole : fresh.exclusive = true → fresh.slots = resource.capacity.slots)
    (shared : fresh.exclusive = false → resource.sharing = .shared) : False := by
  have full := exclusive.full claim holds resource member named
  obtain ⟨-, reservation, there, active, claimed⟩ := holds
  have share : reservation.claimedOn claim.resource ≤ claimedSlotsOn state.reservations claim.resource :=
    Table.weight_le_total there fun other => other.claimedOn claim.resource
  have own : reservation.claimedOn claim.resource = claimedSum reservation.claims claim.resource := if_pos active
  have part := claimedSum_ge claimed
  have held := paired.claim_slots there active claimed
  have booked := ledger.booked resource member
  rw [named] at booked
  cases mode : fresh.exclusive with
  | true =>
    have whole := congrArg UInt32.toNat (whole mode)
    omega
  | false =>
    have full := full (shared mode)
    omega

section Commit

variable {request : ScheduleRequest} {limits : Limits} {selection : List CandidateResource}
  {selected : List SelectedResource} {claims : List ReservationClaim} {reservation : ReservationRecord}

theorem commit (exclusive : Exclusive state) (ledger : Ledger state) (paired : Paired state)
    (reasons : 1 ≤ limits.maxRejectionReasonsPerEntry) (chosen : Chosen state request limits selection)
    (booked : Booked state.resources (selection.zip request.requirements) after.resources selected claims)
    (positive : ∀ claim ∈ claims, 0 < claim.slots.toNat)
    (active : reservation.state = .active) (claimed : reservation.claims = claims)
    (absent : state.reservations.find? reservation.id = none)
    (reservations : after.reservations = state.reservations.set reservation) : Exclusive after := by
  have distinct := booked.distinct chosen.length chosen.distinct
  have counted (id : ResourceId) : claimsOn after.reservations id =
      claimsOn state.reservations id + countClaims claims id := by
    rw [reservations, claimsOn_commit absent active, claimed]
  have holders {claim : ReservationClaim} (holds : HoldsExclusively after.reservations claim) :
      (claim ∈ claims ∧ claim.exclusive) ∨ HoldsExclusively state.reservations claim := by
    obtain ⟨alone, other, member, open', within⟩ := holds
    rw [reservations] at member
    rcases Table.mem_set.mp member with rfl | ⟨earlier, -⟩
    · exact .inl ⟨claimed ▸ within, alone⟩
    · exact .inr ⟨alone, other, earlier, open', within⟩
  have untouched {claim : ReservationClaim} (holds : HoldsExclusively state.reservations claim) :
      countClaims claims claim.resource = 0 := by
    refine countClaims_eq_zero fun fresh member same => ?_
    obtain ⟨resource, there, named, room, whole, shared⟩ := chosen.meets ledger reasons booked member
    exact exclusive.apart ledger paired there holds (named.trans same) (positive fresh member) room whole shared
  -- A new exclusive claim finds its resource unclaimed.
  have alone {claim : ReservationClaim} (member : claim ∈ claims) (mode : claim.exclusive = true) :
      ∃ resource ∈ state.resources.entries, resource.id = claim.resource ∧
        resource.advertisedOccupancy.toNat + claim.slots.toNat = resource.capacity.slots.toNat ∧
        claimsOn after.reservations claim.resource = 1 := by
    obtain ⟨resource, there, named, room, whole, -⟩ := chosen.meets ledger reasons booked member
    have whole := congrArg UInt32.toNat (whole mode)
    have slots := ledger.booked resource there
    rw [named] at slots
    have free : claimedSlotsOn state.reservations claim.resource = 0 := by omega
    have none := claimsOn_eq_zero paired free
    have one := countClaims_of_nodup distinct member
    have sum := counted claim.resource
    exact ⟨resource, there, named, by omega, by omega⟩
  have earlier {resource : ResourceRecord} (member : resource ∈ after.resources.entries) :
      ∃ before ∈ state.resources.entries, resource = before.takeAll claims := by
    have there := Table.find?_of_mem member
    rw [booked.find?, Option.map_eq_some_iff] at there
    obtain ⟨before, there, same⟩ := there
    exact ⟨before, Table.mem_of_find? there, same.symm⟩
  refine ⟨fun claim holds => ?_, fun claim holds resource member named shared => ?_,
    fun resource member mode => ?_⟩
  · rcases holders holds with ⟨fresh, mode⟩ | old
    · obtain ⟨-, -, -, -, one⟩ := alone fresh mode
      exact one
    · rw [counted, untouched old, exclusive.sole claim old]
  · obtain ⟨before, there, rfl⟩ := earlier member
    rw [ResourceRecord.takeAll_eq] at named shared ⊢
    rcases holders holds with ⟨fresh, mode⟩ | old
    · obtain ⟨resource, here, same, full, -⟩ := alone fresh mode
      have equal : before = resource := Table.eq_of_key_eq there here (named.trans same.symm)
      rw [equal]
      exact full
    · exact exclusive.full claim old before there named shared
  · obtain ⟨before, there, rfl⟩ := earlier member
    rw [ResourceRecord.takeAll_eq] at mode ⊢
    change claimsOn after.reservations before.id ≤ 1
    by_cases named : ∃ claim ∈ claims, claim.resource = before.id
    · obtain ⟨claim, fresh, same⟩ := named
      obtain ⟨resource, here, key, -, -, shared⟩ := chosen.meets ledger reasons booked fresh
      have equal : before = resource := Table.eq_of_key_eq there here (same.symm.trans key.symm)
      cases sharing : claim.exclusive with
      | true =>
        obtain ⟨-, -, -, -, one⟩ := alone fresh sharing
        rw [← same]
        omega
      | false =>
        have open' := shared sharing
        rw [← equal] at open'
        have mode : before.sharing = .exclusive := mode
        rw [open'] at mode
        cases mode
    · have none : countClaims claims before.id = 0 :=
        countClaims_eq_zero fun claim member same => named ⟨claim, member, same⟩
      have one := exclusive.single before there mode
      have sum := counted before.id
      omega

end Commit

theorem scheduled {config : EngineConfig} {ids : IdGenerator} {stored : StoredRequest}
    {generation : PlacementGeneration} {reassignments : UInt32} {scheduled : Scheduled}
    (result : ScheduleResult state config ids stored generation reassignments scheduled)
    (exclusive : Exclusive state) (sound : Sound state) (recorded : stored ∈ state.requests.entries)
    (reasons : 1 ≤ config.limits.maxRejectionReasonsPerEntry)
    (unused : state.reservations.find? ids.commitIds.1.reservation = none) : Exclusive scheduled.state := by
  cases result with
  | noPlacement => exact ⟨exclusive.sole, exclusive.full, exclusive.single⟩
  | refused => exact exclusive
  | broken chosen loop =>
    obtain ⟨booked, succeeds⟩ := chosen.commits sound.ledger.toFits reasons
    rw [loop] at succeeds
    cases succeeds
  | @placed selection resources selected claims placement decision after chosen loop committed decided room
      resources_after requests_after placements_after reservations_after =>
    have booked := commitLoop_ok loop
    rw [← resources_after] at booked
    let reservation := newReservation state placement claims
    have names : placement.reservation = ids.commitIds.1.reservation := by rw [committed]; rfl
    have absent : state.reservations.find? reservation.id = none := by
      rw [← names] at unused
      exact unused
    have reservations : after.reservations = state.reservations.set reservation := by
      rw [reservations_after, Table.emplace_fresh absent]
    have positive : ∀ claim ∈ claims, 0 < claim.slots.toNat := by
      intro claim member
      obtain ⟨candidate, picked, made⟩ := forall₂_mem_left (booked.claimsFor chosen.length) member
      have some := chosen.slots sound.validated recorded picked
      rw [made.slots]
      exact UInt32.lt_iff_toNat_lt.mp (UInt32.pos_iff_ne_zero.mpr some)
    exact exclusive.commit sound.ledger sound.paired reasons chosen booked positive rfl rfl absent reservations

theorem move {engine : Engine} {operation : Operation} (move : Move engine operation state after)
    (exclusive : Exclusive state) (sound : Sound state)
    (reasons : 1 ≤ engine.config.limits.maxRejectionReasonsPerEntry) (draws : engine.DrawsUnused operation)
    (publishes : engine.PublishesRespectfully operation) : Exclusive after := by
  cases move with
  | change change => exact .change change exclusive
  | write write => exact .write write exclusive
  | register registers => exact .register sound.ledger sound.paired registers.absent exclusive
  | publish same written =>
    subst same
    exact .publish (publishes _ _ written) exclusive
  | schedule calls =>
    have recorded := Table.mem_of_find? calls.recorded
    have unused := calls.unused draws
    exact exclusive.scheduled scheduleLocked_result sound recorded reasons unused.2.1
  | recover _ accepted => exact .recover (rebuildState_rebuilt accepted)

theorem passes {engine : Engine} {operation : Operation} (passes : engine.Passes operation state)
    (exclusive : Exclusive engine.state) (sound : Sound engine.state)
    (reasons : 1 ≤ engine.config.limits.maxRejectionReasonsPerEntry) (draws : engine.DrawsUnused operation)
    (publishes : engine.PublishesRespectfully operation) : Exclusive state := by
  induction passes with
  | refl => exact exclusive
  | tail before move ih =>
    have sofar := Engine.Passes.sound before sound reasons draws
    exact ih.move move sofar reasons draws publishes

theorem step {engine : Engine} {operation : Operation} (exclusive : Exclusive engine.state)
    (sound : Sound engine.state) (reasons : 1 ≤ engine.config.limits.maxRejectionReasonsPerEntry)
    (draws : engine.DrawsUnused operation) (publishes : engine.PublishesRespectfully operation) :
    Exclusive (engine.step operation).1.state :=
  Exclusive.passes (engine.passes_step operation) exclusive sound reasons draws publishes

theorem fresh (config : EngineConfig) : Exclusive (Engine.fresh config).state := by
  refine ⟨fun claim holds => ?_, fun claim holds => ?_, fun _ member => absurd member List.not_mem_nil⟩
  all_goals
    obtain ⟨-, reservation, member, -⟩ := holds
    exact absurd member List.not_mem_nil

theorem runs {config : EngineConfig} {operations : List Operation}
    (reasons : 1 ≤ config.limits.maxRejectionReasonsPerEntry)
    (guarded : Guarded Engine.step
      (fun engine operation => engine.DrawsUnused operation ∧ engine.PublishesRespectfully operation)
      (Engine.fresh config) operations) : Exclusive ((Engine.fresh config).runs operations).state := by
  have both := Sound.runs_beside reasons (fun _ _ allowed => allowed.1)
    (fun _ _ reasons sound sofar allowed => Exclusive.step sofar sound reasons allowed.1 allowed.2) guarded
    (.fresh config)
  exact both.2

end Exclusive

/-- No resource is double booked beside an exclusive claim, or while it is exclusive, as long as no
    publication makes room beside such a claim. -/
theorem exclusive_never_shared {config : EngineConfig} {operations : List Operation}
    (reasons : 1 ≤ config.limits.maxRejectionReasonsPerEntry)
    (guarded : Guarded Engine.step
      (fun engine operation => engine.DrawsUnused operation ∧ engine.PublishesRespectfully operation)
      (Engine.fresh config) operations) :
    let state := ((Engine.fresh config).runs operations).state
    (∀ reservation ∈ state.reservations.entries, reservation.state = .active →
      ∀ claim ∈ reservation.claims, claim.exclusive → claimsOn state.reservations claim.resource = 1) ∧
    ∀ resource ∈ state.resources.entries, resource.sharing = .exclusive →
      claimsOn state.reservations resource.id ≤ 1 := by
  intro state
  have exclusive : Exclusive state := Exclusive.runs reasons guarded
  refine ⟨fun reservation member active claim claimed alone => ?_, exclusive.single⟩
  exact exclusive.sole claim ⟨alone, reservation, member, active, claimed⟩

def Bench.alone : List Operation :=
  [.registerResource Bench.advertisement, .submitRequest { Bench.request 5 1 with exclusive := true }]

theorem exclusive_never_shared_bench :
    let state := ((Engine.fresh {}).runs Bench.alone).state
    ∀ reservation ∈ state.reservations.entries, reservation.state = .active →
      ∀ claim ∈ reservation.claims, claim.exclusive → claimsOn state.reservations claim.resource = 1 :=
  (@exclusive_never_shared {} Bench.alone (by decide) ⟨⟨by decide, trivial⟩, ⟨by decide, trivial⟩, trivial⟩).1

/-- The bench then grows by a slot, and another request takes that. -/
def Bench.enlarged : List Operation :=
  Bench.alone ++ [.publishResourceState { Bench.advertisement with capacity := { slots := 3 } },
    .submitRequest (Bench.request 6 2)]

theorem publication_shares_exclusive_claim :
    let state := ((Engine.fresh {}).runs Bench.enlarged).state
    ¬ ∀ reservation ∈ state.reservations.entries, reservation.state = .active →
      ∀ claim ∈ reservation.claims, claim.exclusive → claimsOn state.reservations claim.resource = 1 := by
  decide

end LabScheduler
