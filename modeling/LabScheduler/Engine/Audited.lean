import LabScheduler.Engine.Accounting
import LabScheduler.Engine.Exclusivity
import LabScheduler.Engine.Vouched

namespace LabScheduler

open Foundation

section Records

variable {engine : Engine} {operation : Operation} {state after : SchedulerState}

/-- Every placement there has ever been names a stored request and registered resources, each once and with slots. -/
def Registry (state : SchedulerState) : Prop := ∀ placement ∈ state.placements.entries, placement.Registered state

/-- The selections that an accepted durable state brings have slots, each on a resource of its own. -/
def Engine.ImportsRegistered (engine : Engine) : Operation → Prop
  | .importState durable => importChecks engine.state durable = .ok () → ∀ placement ∈ durable.placements,
      (∀ selected ∈ placement.resources, selected.slots ≠ 0) ∧
        (placement.resources.map SelectedResource.resource).Nodup
  | _ => True

theorem PlacementRecord.Registered.later {before placement : PlacementRecord} (registered : before.Registered state)
    (terms : placement.terms = before.terms) (remembers : Remembers state after) : placement.Registered after := by
  have request := congrArg PlacementRecord.request terms
  have resources := congrArg PlacementRecord.resources terms
  have request : placement.request = before.request := request
  have resources : placement.resources = before.resources := resources
  obtain ⟨selects, asked, selected, distinct⟩ := registered
  rw [← resources] at selects selected distinct
  rw [← request] at asked
  exact ⟨selects, remembers.requests asked,
    fun one member => ⟨remembers.resources (selected one member).1, (selected one member).2⟩, distinct⟩

namespace Registry

theorem evolve (registry : Registry state) (remembers : Remembers state after)
    (placements : Table.Evolves PlacementRecord.Progresses state.placements after.placements) : Registry after := by
  intro placement member
  obtain ⟨before, there, -, progresses⟩ := placements.of_mem member
  exact (registry before there).later progresses.terms remembers

theorem kept (registry : Registry state) (remembers : Remembers state after)
    (placements : after.placements = state.placements) : Registry after :=
  registry.evolve remembers (.of_eq PlacementRecord.Progresses.refl placements)

theorem scheduled {call : SchedulingCall} (registry : Registry call.state)
    (recorded : call.state.requests.find? call.stored.id = some call.stored)
    (paired : Paired (call.scheduled engine.config engine.ids).state) :
    Registry (call.scheduled engine.config engine.ids).state := by
  have remembers := call.remembers engine.config engine.ids
  have result : ScheduleResult call.state engine.config engine.ids call.stored call.generation call.reassignments
    (call.scheduled engine.config engine.ids) := scheduleLocked_result
  generalize call.scheduled engine.config engine.ids = scheduled at result remembers paired
  cases result with
  | noPlacement => exact registry.kept remembers rfl
  | refused => exact registry.kept remembers rfl
  | broken => exact registry.kept remembers rfl
  | @placed _ _ _ _ placement _ after chosen loop committed decided room resources_after requests_after placements_after =>
    intro other member
    have there := member
    rw [placements_after] at there
    rcases Table.mem_emplace there with rfl | before
    · have live : placementStateIsLive other.state := by
        rw [committed]
        rfl
      obtain ⟨reservation, -, -, backs⟩ := paired.backed other member live
      have asked : other.request = call.stored.id := by
        rw [committed]
        rfl
      refine ⟨backs.nonempty, ?_, fun selected picked => ⟨paired.registered other member live selected picked, ?_⟩,
        backs.distinct⟩
      · rw [asked]
        apply remembers.requests
        rw [recorded]
        nofun
      · obtain ⟨claim, claimed, agrees⟩ := forall₂_mem_right backs.agree picked
        have positive := backs.slots claim claimed
        rw [agrees.slots] at positive
        intro none
        rw [none] at positive
        exact absurd positive (by decide)
    · exact (registry other before).later rfl remembers

theorem move (move : Move engine operation state after) (registry : Registry state) (paired : Paired after)
    (imports : engine.ImportsRegistered operation) : Registry after := by
  cases move with
  | change change => exact registry.evolve ⟨change.resources.present, change.requests.present⟩ change.placements
  | write write =>
    have remembers := write.remembers
    cases write <;> exact registry.kept remembers rfl
  | register => exact registry.kept ⟨find?_emplace_present, fun present => present⟩ rfl
  | publish => exact registry.kept ⟨find?_set_present, fun present => present⟩ rfl
  | schedule calls => exact registry.scheduled calls.recorded paired
  | @recover durable _ same accepted =>
    subst same
    have rebuilt := rebuildState_rebuilt accepted
    have valid := (validateDurableState_ok (importChecks_ok accepted).1).2.2.1
    intro placement member
    obtain ⟨persisted, listed, terms⟩ := rebuilt.placement_terms member
    refine (recovered_placement ?_ ?_ (valid persisted listed) terms).mpr (imports accepted persisted listed)
    · intro id there
      obtain ⟨resource, known, rfl⟩ := List.mem_map.mp there
      exact rebuildState_resource _ known
    · intro id there
      obtain ⟨stored, known, rfl⟩ := List.mem_map.mp there
      exact rebuildState_request _ known

theorem passes (passes : engine.Passes operation state) (registry : Registry engine.state) (sound : Sound engine.state)
    (reasons : 1 ≤ engine.config.limits.maxRejectionReasonsPerEntry) (draws : engine.DrawsUnused operation)
    (imports : engine.ImportsRegistered operation) : Registry state := by
  induction passes with
  | refl => exact registry
  | tail before move ih =>
    have sofar := Engine.Passes.sound before sound reasons draws
    exact ih.move move (move.sound sofar reasons draws).paired imports

end Registry

def UnitsLive (state : SchedulerState) : Prop := ∀ entry ∈ state.unitCurrent.entries, ∃ placement,
  state.placements.find? entry.2 = some placement ∧ placementStateIsLive placement.state ∧ placement.unit = entry.1

theorem clearUnit_spares {units : UnitTable} {placement : PlacementRecord} {entry : UnitKey × PlacementId}
    (member : entry ∈ (clearUnit units placement).entries) :
    entry ∈ units.entries ∧ (entry.1 = placement.unit → entry.2 ≠ placement.id) := by
  unfold clearUnit at member
  split at member
  · rename_i absent
    exact ⟨member, fun same => absurd same (Table.find?_eq_none.mp absent entry member)⟩
  · rename_i current found
    split at member
    · obtain ⟨there, apart⟩ := Table.mem_erase.mp member
      exact ⟨there, fun same => absurd same apart⟩
    · rename_i other
      refine ⟨member, fun same => ?_⟩
      have mine := Table.find?_of_mem member
      rw [same, found] at mine
      cases mine
      exact other

namespace UnitsLive

theorem kept (units : UnitsLive state) (placements : after.placements = state.placements)
    (unitCurrent : after.unitCurrent = state.unitCurrent) : UnitsLive after := by
  unfold UnitsLive
  rw [placements, unitCurrent]
  exact units

theorem rewrite {placement rewritten : PlacementRecord} (units : UnitsLive state)
    (found : state.placements.find? placement.id = some placement)
    (placements : after.placements = state.placements.set rewritten) (unitCurrent : after.unitCurrent = state.unitCurrent)
    (terms : rewritten.terms = placement.terms) (live : placementStateIsLive rewritten.state) : UnitsLive after := by
  have id := congrArg PlacementRecord.id terms
  have unit := congrArg PlacementRecord.unit terms
  have id : rewritten.id = placement.id := id
  have unit : rewritten.unit = placement.unit := unit
  intro entry member
  rw [unitCurrent] at member
  obtain ⟨named, there, running, same⟩ := units entry member
  rw [placements, Table.find?_set]
  split
  · rename_i hit
    rw [← hit, id, found] at there
    cases there
    exact ⟨rewritten, rfl, live, unit.trans same⟩
  · exact ⟨named, there, running, same⟩

theorem finish {placement : PlacementRecord} {target : PlacementState} {detail : Text} (units : UnitsLive state)
    (found : state.placements.find? placement.id = some placement) :
    UnitsLive (endPlacement state placement target detail) := by
  let ended := placement.finish target detail (state.transitionSequence + 1)
  intro entry member
  obtain ⟨there, apart⟩ := @clearUnit_spares _ ended _ member
  obtain ⟨named, known, running, unit⟩ := units entry there
  have differs : ended.id ≠ entry.2 := by
    intro same
    have same : placement.id = entry.2 := same
    rw [← same, found] at known
    cases known
    exact apart unit.symm same.symm
  exact ⟨named, (Table.find?_set_ne _ differs).trans known, running, unit⟩

theorem change (change : Change state after) (units : UnitsLive state) : UnitsLive after := by
  cases change with
  | books _ _ placements _ unitCurrent => exact units.kept placements unitCurrent
  | invalidate => exact units.kept rfl rfl
  | retire => exact units.kept rfl rfl
  | finish detail found => exact units.finish found
  | mark detail found live stays => exact units.rewrite found rfl rfl rfl stays
  | complete detail found live => exact units.rewrite found rfl rfl rfl live

theorem scheduled {call : SchedulingCall} {config : EngineConfig} {ids : IdGenerator} (units : UnitsLive call.state)
    (unused : call.state.placements.find? ids.commitIds.1.placement = none) :
    UnitsLive (call.scheduled config ids).state := by
  have result : ScheduleResult call.state config ids call.stored call.generation call.reassignments
    (call.scheduled config ids) := scheduleLocked_result
  generalize call.scheduled config ids = scheduled at result
  cases result with
  | noPlacement => exact units
  | refused => exact units
  | broken => exact units
  | @placed _ _ _ _ placement _ after chosen loop committed decided room resources_after requests_after placements_after
      reservations_after unitCurrent_after =>
    have absent : call.state.placements.find? placement.id = none := by
      rw [committed]
      exact unused
    intro entry member
    rw [placements_after, Table.emplace_fresh absent]
    rw [unitCurrent_after] at member
    rcases Table.mem_set.mp member with rfl | ⟨there, -⟩
    · refine ⟨placement, Table.find?_set_self .., ?_, ?_⟩
      · rw [committed]
        rfl
      · rw [committed]
        rfl
    · obtain ⟨named, known, running, unit⟩ := units entry there
      have differs : placement.id ≠ entry.2 := by
        intro same
        rw [← same, absent] at known
        cases known
      exact ⟨named, (Table.find?_set_ne _ differs).trans known, running, unit⟩

theorem step {engine : Engine} {operation : Operation} (units : UnitsLive engine.state)
    (draws : engine.DrawsUnused operation) : UnitsLive (engine.step operation).1.state := by
  refine Engine.step_preserves UnitsLive.change ?_ ?_ ?_ ?_ ?_ units
  · intro state after write units
    cases write <;> exact units.kept rfl rfl
  · exact fun _ _ units => units.kept rfl rfl
  · exact fun _ _ units => units.kept rfl rfl
  · intro call calls units
    exact units.scheduled (calls.unused draws).1
  · intro durable _ accepted entry member
    obtain ⟨-, -, -, none, -⟩ := importChecks_ok accepted
    rw [(rebuildState_rebuilt accepted).unitCurrent] at member
    obtain ⟨placement, there, -⟩ := units entry member
    have there := Table.mem_of_find? there
    rw [none] at there
    cases there

end UnitsLive

/-- There are fewer resources than a 32-bit count can tell apart. -/
def FewResources (state : SchedulerState) : Prop := state.resources.size < 2 ^ 32

namespace FewResources

theorem within (few : FewResources state)
    (known : ∀ resource ∈ after.resources.entries, resource.id ∈ state.resources.keys) : FewResources after := by
  have bound : after.resources.size ≤ state.resources.keys.length := Table.size_le_of_keys known
  have length : state.resources.keys.length = state.resources.size := List.length_map _
  unfold FewResources at few ⊢
  omega

theorem evolve (few : FewResources state)
    (resources : Table.Evolves ResourceRecord.Lapses state.resources after.resources) : FewResources after := by
  refine few.within fun resource member => ?_
  obtain ⟨before, there, same, -⟩ := resources.of_mem member
  exact List.mem_map.mpr ⟨before, there, same⟩

theorem step {engine : Engine} {operation : Operation} (few : FewResources engine.state) :
    FewResources (engine.step operation).1.state := by
  refine Engine.step_preserves (fun change few => few.evolve change.resources) ?_ ?_ ?_ ?_ ?_ few
  · intro state after write few
    cases write <;> exact few
  · intro advertisement mid record _ registers _
    have known : ∀ resource ∈ mid.resources.entries, resource.id ∈ engine.state.resources.keys := by
      intro resource member
      obtain ⟨before, there, same, -⟩ := registers.changes.resources.of_mem member
      exact List.mem_map.mpr ⟨before, there, same⟩
    have accepted := registers.accepted
    simp only [registerChecks, check_bind_ok, check_ok] at accepted
    have room := accepted.2.2.1
    have before : mid.resources.size ≤ engine.state.resources.keys.length := Table.size_le_of_keys known
    have length : engine.state.resources.keys.length = engine.state.resources.size := List.length_map _
    have grows : (mid.resources.emplace record).size ≤ mid.resources.size + 1 := Table.size_emplace_le ..
    have bound := engine.config.limits.maxResources.toNat_lt
    change (mid.resources.emplace record).size < 2 ^ 32
    omega
  · intro advertisement mid live _ publishes few
    refine few.within fun resource member => ?_
    rcases Table.mem_set.mp member with rfl | ⟨there, -⟩
    · exact Table.mem_keys publishes.found
    · exact List.mem_map_of_mem there
  · intro call calls few
    have result : ScheduleResult call.state engine.config engine.ids call.stored call.generation call.reassignments
      (call.scheduled engine.config engine.ids) := scheduleLocked_result
    obtain ⟨turns, selected, claims, booked⟩ := result.booked
    refine few.within fun resource member => ?_
    obtain ⟨before, there, reserved, rfl⟩ := booked.of_mem member
    exact List.mem_map.mpr ⟨before, there, rfl⟩
  · intro durable _ accepted
    have known : ∀ resource ∈ (rebuildState engine.state durable).state.resources.entries,
        resource.id ∈ durable.resources.map fun resource => resource.id := by
      intro resource member
      obtain ⟨persisted, listed, rfl⟩ := (rebuildState_rebuilt accepted).resources resource member
      exact List.mem_map.mpr ⟨persisted, listed, (recoveredResource_id ..).symm⟩
    have bound := Table.size_le_of_keys known
    have valid := (importChecks_ok accepted).1
    simp only [validateDurableState, check_bind_ok, check_ok] at valid
    have few := valid.2.2.1.1
    have small := durable.limits.maxPersistenceRecords.toNat_lt
    rw [List.length_map] at bound
    change (rebuildState engine.state durable).state.resources.size < 2 ^ 32
    omega

end FewResources

abbrev Unretired (state : SchedulerState) : Prop :=
  LiveSelections (fun _ resource _ => resource.lifecycle ≠ .retired) state

theorem Unretired.step {engine : Engine} {operation : Operation} (unretired : Unretired engine.state)
    (sound : Sound engine.state) (reasons : 1 ≤ engine.config.limits.maxRejectionReasonsPerEntry) :
    Unretired (engine.step operation).1.state := by
  refine LiveSelections.step ?_ unretired sound ?_ ?_
  · intro id before after selected open' rebooked
    rw [← rebooked] at open'
    exact open'
  · intro placement _ _ _ _ call calls selected _ candidate requirement resource pick
    obtain ⟨-, passed⟩ := evaluateResource_eligible reasons pick.eligible
    have test := passed (resource.lifecycle == .retired, .resourceRetired) (by simp [hardTests])
    exact beq_eq_false_iff_ne.mp test
  · intros
    intro retired
    cases retired

end Records

section Totals

theorem countClaims_cons (claim : ReservationClaim) (rest : List ReservationClaim) (id : ResourceId) :
    countClaims (claim :: rest) id = (if claim.resource = id then 1 else 0) + countClaims rest id := by
  unfold countClaims
  rw [List.countP_cons, Nat.add_comm]
  simp

theorem addClaims_eq (claims : List ReservationClaim) (ledger : ResourceId → ResourceLedger) (id : ResourceId) :
    claims.foldl ResourceLedger.addClaim ledger id =
      ⟨(ledger id).claimedSlots + UInt32.ofNat (claimedSum claims id),
        (ledger id).activeClaims + UInt32.ofNat (countClaims claims id)⟩ := by
  induction claims generalizing ledger with
  | nil => simp [claimedSum, countClaims]
  | cons claim rest ih =>
    rw [List.foldl_cons, ih, claimedSum_cons, countClaims_cons]
    by_cases same : claim.resource = id
    · simp [ResourceLedger.addClaim, same, UInt32.ofNat_add, UInt32.add_assoc]
    · simp [ResourceLedger.addClaim, same, Ne.symm same]

theorem addReservations_eq (reservations : List ReservationRecord) (ledger : ResourceId → ResourceLedger)
    (id : ResourceId) :
    reservations.foldl
        (fun ledger reservation =>
          if reservation.state = .active then reservation.claims.foldl ResourceLedger.addClaim ledger else ledger)
        ledger id =
      ⟨(ledger id).claimedSlots + UInt32.ofNat (reservations.map fun reservation => reservation.claimedOn id).sum,
        (ledger id).activeClaims + UInt32.ofNat (reservations.map fun reservation =>
          if reservation.state = .active then countClaims reservation.claims id else 0).sum⟩ := by
  induction reservations generalizing ledger with
  | nil => simp
  | cons reservation rest ih =>
    rw [List.foldl_cons, ih]
    by_cases active : reservation.state = .active
    · simp [active, addClaims_eq, ReservationRecord.claimedOn, UInt32.ofNat_add, UInt32.add_assoc]
    · simp [active, ReservationRecord.claimedOn]

theorem buildLedger_eq (state : SchedulerState) (id : ResourceId) :
    buildLedger state id =
      ⟨UInt32.ofNat (claimedSlotsOn state.reservations id), UInt32.ofNat (claimsOn state.reservations id)⟩ := by
  refine (addReservations_eq _ _ id).trans ?_
  simp [claimedSlotsOn, claimsOn, Table.total]

theorem countClaims_le {claims : List ReservationClaim} (slots : ∀ claim ∈ claims, 0 < claim.slots.toNat)
    (id : ResourceId) : countClaims claims id ≤ claimedSum claims id := by
  induction claims with
  | nil => exact Nat.zero_le _
  | cons claim rest ih =>
    obtain ⟨first, others⟩ := List.forall_mem_cons.mp slots
    have later := ih others
    rw [countClaims_cons, claimedSum_cons]
    split <;> omega

theorem claimsOn_le {state : SchedulerState} (paired : Paired state) (id : ResourceId) :
    claimsOn state.reservations id ≤ claimedSlotsOn state.reservations id := by
  refine List.sum_le_sum fun reservation member => ?_
  unfold ReservationRecord.claimedOn
  split
  · rename_i active
    exact countClaims_le (fun claim claimed => paired.claim_slots member active claimed) id
  · exact Nat.le_refl _

theorem sumU64 {α : Type} (items : List α) (weight : α → UInt32) (few : items.length < 2 ^ 32) :
    (items.foldl (fun total item => total + (weight item).toUInt64) 0).toNat =
      (items.map fun item => (weight item).toNat).sum := by
  have exact' (items : List α) (total : UInt64)
      (small : total.toNat + (items.map fun item => (weight item).toNat).sum < 2 ^ 64) :
      (items.foldl (fun total item => total + (weight item).toUInt64) total).toNat =
        total.toNat + (items.map fun item => (weight item).toNat).sum := by
    induction items generalizing total with
    | nil => rfl
    | cons item rest ih =>
      rw [List.map_cons, List.sum_cons] at small ⊢
      have next : (total + (weight item).toUInt64).toNat = total.toNat + (weight item).toNat := by
        rw [UInt64.toNat_add, UInt32.toNat_toUInt64, Nat.mod_eq_of_lt (by omega)]
      rw [List.foldl_cons, ih _ (by omega), next, Nat.add_assoc]
  have bound : (items.map fun item => (weight item).toNat).sum ≤ items.length * (2 ^ 32 - 1) := by
    clear few exact'
    induction items with
    | nil => exact Nat.zero_le _
    | cons item rest ih =>
      have small := (weight item).toNat_lt
      rw [List.map_cons, List.sum_cons, List.length_cons, Nat.add_mul, Nat.one_mul]
      omega
  refine (exact' items 0 ?_).trans (Nat.zero_add _)
  have zero : (0 : UInt64).toNat = 0 := rfl
  have product : items.length * (2 ^ 32 - 1) ≤ (2 ^ 32 - 1) * (2 ^ 32 - 1) := Nat.mul_le_mul_right _ (by omega)
  omega

end Totals

section Audit

theorem Sound.ledgered {state : SchedulerState} (sound : Sound state) {resource : ResourceRecord}
    (member : resource ∈ state.resources.entries) :
    (buildLedger state resource.id).claimedSlots = resource.reservedSlots ∧
      (buildLedger state resource.id).activeClaims.toNat = claimsOn state.reservations resource.id := by
  have booked := sound.ledger.booked resource member
  have fewer := claimsOn_le sound.paired resource.id
  have bound := resource.reservedSlots.toNat_lt
  rw [buildLedger_eq, ← booked]
  refine ⟨UInt32.ofNat_toNat, ?_⟩
  change (UInt32.ofNat _).toNat = _
  rw [UInt32.toNat_ofNat', Nat.mod_eq_of_lt (by omega)]

structure Auditable (state : SchedulerState) : Prop where
  sound : Sound state
  exclusive : Exclusive state
  vouched : Vouched state
  unretired : Unretired state
  registry : Registry state
  units : UnitsLive state
  few : FewResources state

variable {state : SchedulerState}

theorem Auditable.reserved (auditable : Auditable state) {resource : ResourceRecord}
    (member : resource ∈ state.resources.entries) (reserved : resource.reservedSlots ≠ 0) :
    resource.dynamicAuthoritative ∧ resource.lifecycle ≠ .retired := by
  have positive : 0 < resource.reservedSlots := UInt32.pos_iff_ne_zero.mpr reserved
  obtain ⟨placement, placed, live, selected, picked, same⟩ := auditable.sound.selected member positive
  have found : state.resources.find? selected.resource = some resource := same ▸ Table.find?_of_mem member
  exact ⟨auditable.vouched placement placed live selected picked resource found,
    auditable.unretired placement placed live selected picked resource found⟩

theorem Auditable.totals (auditable : Auditable state) : ¬ capacityTotal state < claimedTotal state := by
  have few : state.resources.entries.length < 2 ^ 32 := auditable.few
  rw [UInt64.not_lt, UInt64.le_iff_toNat_le, claimedTotal, capacityTotal,
    sumU64 _ (fun resource => resource.reservedSlots) few, sumU64 _ (fun resource => resource.capacity.slots) few]
  refine List.sum_le_sum fun resource member => ?_
  have fits := auditable.sound.ledger.fits resource member
  omega

/-- Such a state passes every check, unless a counter has come round to null. -/
theorem Auditable.passes (auditable : Auditable state) :
    (validateInvariants state).allOk = true ↔ ∀ resource ∈ state.resources.entries,
      ¬ (resource.generation.isNull ∨ resource.healthGeneration.isNull ∨ resource.capacityGeneration.isNull) := by
  have paired := auditable.sound.paired
  have capacity : (capacityCheck state).ok = true := capacityCheck_ok.mpr auditable.sound.ledger.fits
  have reserved : (reservedSlotsCheck state).ok = true :=
    reservedSlotsCheck_ok.mpr fun resource member => (auditable.sound.ledgered member).1
  have exclusive : (exclusiveCheck state).ok = true := by
    refine exclusiveCheck_ok.mpr fun resource member => ?_
    obtain ⟨claimed, count⟩ := auditable.sound.ledgered member
    constructor
    · rintro ⟨mode, several⟩
      have single := auditable.exclusive.single resource member mode
      rw [UInt32.lt_iff_toNat_lt, count] at several
      exact absurd several (Nat.not_lt.mpr single)
    · rintro ⟨-, above⟩
      have fits := auditable.sound.ledger.fits resource member
      rw [claimed, UInt32.lt_iff_toNat_lt] at above
      omega
  have live : (livePlacementsCheck state).ok = true := by
    refine livePlacementsCheck_ok.mpr fun placement member live => ?_
    obtain ⟨reservation, found, active, backs⟩ := paired.backed placement member live
    exact ⟨reservation, found, active, backs.holder, backs.generation⟩
  have active : (activeReservationsCheck state).ok = true := by
    refine activeReservationsCheck_ok.mpr fun reservation member active => ?_
    obtain ⟨placement, found, live, names⟩ := paired.held reservation member active
    obtain ⟨own, there, -, backs⟩ := paired.backed placement (Table.mem_of_find? found) live
    rw [names, Table.find?_of_mem member] at there
    cases there
    refine ⟨placement, found, live, backs.generation.symm, fun none => backs.nonempty ?_⟩
    have count := backs.agree.length_eq
    rw [none] at count
    exact List.length_eq_zero_iff.mp count.symm
  have registered : (placementsCheck state).ok = true := placementsCheck_ok.mpr auditable.registry
  have units : (unitsCheck state).ok = true := by
    refine unitsCheck_ok.mpr fun entry member => ?_
    obtain ⟨placement, found, running, -⟩ := auditable.units entry member
    exact ⟨placement, found, running⟩
  have stale : (staleAuthorityCheck state).ok = true := by
    refine staleAuthorityCheck_ok.mpr fun resource member held => ?_
    obtain ⟨authoritative, -⟩ := auditable.reserved member held.2
    rw [held.1] at authoritative
    cases authoritative
  simp only [InvariantReport.allOk_iff, validateInvariants, List.forall_mem_cons, List.not_mem_nil, false_implies,
    implies_true, and_true, capacity, reserved, exclusive, live, active, registered, units, stale, true_and,
    countersCheck_ok, auditable.totals, not_false_eq_true]
  refine forall₂_congr fun resource member => and_iff_left fun retired => ?_
  exact (auditable.reserved member retired.2).2 retired.1

/-- What the audit asks of a step: it draws unused identities, books vouched resources only, publishes nothing that
    makes room beside an exclusive claim, and imports no selection without slots. -/
structure Engine.StaysAuditable (engine : Engine) (operation : Operation) : Prop where
  vouches : engine.Vouches operation
  publishes : engine.PublishesRespectfully operation
  imports : engine.ImportsRegistered operation

theorem Auditable.step {engine : Engine} {operation : Operation} (auditable : Auditable engine.state)
    (reasons : 1 ≤ engine.config.limits.maxRejectionReasonsPerEntry) (stays : engine.StaysAuditable operation) :
    Auditable (engine.step operation).1.state := by
  obtain ⟨sound, exclusive, vouched, unretired, registry, units, few⟩ := auditable
  have draws := stays.vouches.unused
  have passes := engine.passes_step operation
  exact ⟨passes.sound sound reasons draws, exclusive.step sound reasons draws stays.publishes,
    vouched.step sound reasons stays.vouches, unretired.step sound reasons,
    .passes passes registry sound reasons draws stays.imports, units.step draws, few.step⟩

theorem Auditable.fresh (config : EngineConfig) : Auditable (Engine.fresh config).state := by
  refine ⟨.fresh config, .fresh config, fun _ member => ?_, fun _ member => ?_, fun _ member => ?_, fun _ member => ?_,
    Nat.two_pow_pos 32⟩
  all_goals exact absurd member List.not_mem_nil

end Audit

end LabScheduler
