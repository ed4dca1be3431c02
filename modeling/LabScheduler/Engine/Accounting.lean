import LabScheduler.Engine.Fencing

namespace LabScheduler

open Foundation

structure InvariantCheck where
  name : Text := []
  ok : Bool := true
  detail : Text := []

structure InvariantReport where
  checks : List InvariantCheck := []

def InvariantReport.allOk (report : InvariantReport) : Bool := report.checks.all InvariantCheck.ok

structure ResourceLedger where
  claimedSlots : UInt32 := 0
  activeClaims : UInt32 := 0

def ResourceLedger.addClaim (ledger : ResourceId → ResourceLedger) (claim : ReservationClaim) :
    ResourceId → ResourceLedger :=
  fun resource =>
    if resource = claim.resource then
      ⟨(ledger resource).claimedSlots + claim.slots, (ledger resource).activeClaims + 1⟩
    else ledger resource

/-- The ledger has an entry for each resource with an active claim; the others claim nothing. -/
def buildLedger (state : SchedulerState) : ResourceId → ResourceLedger :=
  state.reservations.entries.foldl
    (fun ledger reservation =>
      if reservation.state = .active then reservation.claims.foldl ResourceLedger.addClaim ledger else ledger)
    fun _ => {}

namespace InvariantCheck

def faultIf (check : InvariantCheck) (violated : Prop) [Decidable violated] (detail : Text) : InvariantCheck :=
  if violated then { check with ok := false, detail := check.detail ++ detail } else check

@[simp] theorem faultIf_ok (check : InvariantCheck) (violated : Prop) [Decidable violated] (detail : Text) :
    (check.faultIf violated detail).ok = true ↔ check.ok = true ∧ ¬ violated := by
  unfold faultIf
  split <;> simp [*]

theorem foldl_ok {α : Type} {body : InvariantCheck → α → InvariantCheck} {good : α → Prop}
    (each : ∀ check item, (body check item).ok = true ↔ check.ok = true ∧ good item) (items : List α)
    (check : InvariantCheck) : (items.foldl body check).ok = true ↔ check.ok = true ∧ ∀ item ∈ items, good item := by
  induction items generalizing check with
  | nil => simp
  | cons item rest ih =>
    rw [List.foldl_cons, ih, each, List.forall_mem_cons, and_assoc]

theorem foldl_passes {α : Type} {body : InvariantCheck → α → InvariantCheck} {good : α → Prop} {items : List α}
    {check : InvariantCheck} (each : ∀ check item, (body check item).ok = true ↔ check.ok = true ∧ good item)
    (fresh : check.ok = true) : (items.foldl body check).ok = true ↔ ∀ item ∈ items, good item := by
  rw [foldl_ok each, fresh]
  exact and_iff_right rfl

end InvariantCheck

open InvariantCheck

def capacityCheck (state : SchedulerState) : InvariantCheck :=
  state.resources.entries.foldl
    (fun check resource =>
      let occupancy := resource.advertisedOccupancy.toUInt64 + resource.reservedSlots.toUInt64
      check.faultIf (resource.capacity.slots.toUInt64 < occupancy)
        (resource.id.toText ++ ascii " occupancy " ++ decimalU64 occupancy ++ ascii " exceeds capacity " ++
          decimalU32 resource.capacity.slots ++ ascii "; "))
    { name := ascii "capacity_never_negative_or_over_committed" }

def reservedSlotsCheck (state : SchedulerState) : InvariantCheck :=
  state.resources.entries.foldl
    (fun check resource =>
      let claimed := (buildLedger state resource.id).claimedSlots
      check.faultIf (claimed ≠ resource.reservedSlots)
        (resource.id.toText ++ ascii " mirrored " ++ decimalU32 resource.reservedSlots ++ ascii " != ledger " ++
          decimalU32 claimed ++ ascii "; "))
    { name := ascii "reserved_slots_match_active_claims" }

def exclusiveCheck (state : SchedulerState) : InvariantCheck :=
  state.resources.entries.foldl
    (fun check resource =>
      let ledger := buildLedger state resource.id
      (check.faultIf (resource.sharing = .exclusive ∧ 1 < ledger.activeClaims)
        (resource.id.toText ++ ascii " has " ++ decimalU32 ledger.activeClaims ++ ascii " active claims; ")).faultIf
        (1 < ledger.activeClaims ∧ resource.capacity.slots < ledger.claimedSlots)
        (resource.id.toText ++ ascii " over claimed; "))
    { name := ascii "exclusive_resources_have_at_most_one_claim" }

def livePlacementsCheck (state : SchedulerState) : InvariantCheck :=
  state.placements.entries.foldl
    (fun check placement =>
      if placementStateIsLive placement.state then
        match state.reservations.find? placement.reservation with
        | none => check.faultIf True (placement.id.toText ++ ascii " references a missing reservation; ")
        | some reservation =>
          (check.faultIf (reservation.state ≠ .active)
            (placement.id.toText ++ ascii " references a non-active reservation; ")).faultIf
            (reservation.placement ≠ placement.id ∨ reservation.placementGeneration ≠ placement.generation)
            (placement.id.toText ++ ascii " reservation binding mismatch; ")
      else check)
    { name := ascii "live_placements_reference_active_reservations" }

def activeReservationsCheck (state : SchedulerState) : InvariantCheck :=
  state.reservations.entries.foldl
    (fun check reservation =>
      if reservation.state = .active then
        match state.placements.find? reservation.placement with
        | none => check.faultIf True (reservation.id.toText ++ ascii " references a missing placement; ")
        | some placement =>
          ((check.faultIf (placementStateIsLive placement.state = false)
            (reservation.id.toText ++ ascii " backs a non-live placement; ")).faultIf
            (placement.generation ≠ reservation.placementGeneration)
            (reservation.id.toText ++ ascii " generation mismatch; ")).faultIf
            (reservation.claims = []) (reservation.id.toText ++ ascii " has no claims; ")
      else check)
    { name := ascii "active_reservations_reference_live_placements" }

def placementsCheck (state : SchedulerState) : InvariantCheck :=
  state.placements.entries.foldl
    (fun check placement =>
      let asked :=
        (check.faultIf (placement.resources = []) (placement.id.toText ++ ascii " selects no resources; ")).faultIf
          (state.requests.find? placement.request = none)
          (placement.id.toText ++ ascii " references an unknown request; ")
      let selects :=
        placement.resources.foldl
          (fun check selected =>
            (check.faultIf (state.resources.find? selected.resource = none)
              (placement.id.toText ++ ascii " references an unknown resource; ")).faultIf
              (selected.slots = 0) (placement.id.toText ++ ascii " claims zero slots; "))
          asked
      let ids := sortIds (placement.resources.map SelectedResource.resource)
      selects.faultIf (¬ ids.IsChain (· ≠ ·)) (placement.id.toText ++ ascii " selects a resource twice; "))
    { name := ascii "placements_reference_registered_resources_and_requests" }

def unitsCheck (state : SchedulerState) : InvariantCheck :=
  state.unitCurrent.entries.foldl
    (fun check entry =>
      match state.placements.find? entry.2 with
      | none => check.faultIf True (ascii "unit map references a missing placement; ")
      | some placement =>
        check.faultIf (placementStateIsLive placement.state = false)
          (ascii "unit map references a non-live placement; "))
    { name := ascii "one_current_placement_per_schedulable_unit" }

def claimedTotal (state : SchedulerState) : UInt64 :=
  state.resources.entries.foldl (fun total resource => total + resource.reservedSlots.toUInt64) 0

def capacityTotal (state : SchedulerState) : UInt64 :=
  state.resources.entries.foldl (fun total resource => total + resource.capacity.slots.toUInt64) 0

def countersCheck (state : SchedulerState) : InvariantCheck :=
  let check : InvariantCheck := state.resources.entries.foldl
    (fun check resource =>
      (check.faultIf
        (resource.generation.isNull ∨ resource.healthGeneration.isNull ∨ resource.capacityGeneration.isNull)
        (resource.id.toText ++ ascii " has a null generation; ")).faultIf
        (resource.lifecycle = .retired ∧ resource.reservedSlots ≠ 0)
        (resource.id.toText ++ ascii " is retired but still reserved; "))
    { name := ascii "resource_counters_are_monotonic_and_bounded" }
  check.faultIf (capacityTotal state < claimedTotal state)
    (ascii "aggregate reserved capacity exceeds aggregate capacity; ")

def staleAuthorityCheck (state : SchedulerState) : InvariantCheck :=
  state.resources.entries.foldl
    (fun check resource =>
      check.faultIf (resource.dynamicAuthoritative = false ∧ resource.reservedSlots ≠ 0)
        (resource.id.toText ++ ascii " holds reserved capacity while its evidence is not authoritative; "))
    { name := ascii "stale_authority_cannot_hold_reserved_capacity" }

def validateInvariants (state : SchedulerState) : InvariantReport :=
  { checks :=
      [capacityCheck state, reservedSlotsCheck state, exclusiveCheck state, livePlacementsCheck state,
        activeReservationsCheck state, placementsCheck state, unitsCheck state, countersCheck state,
        staleAuthorityCheck state] }

section Passes

variable {state : SchedulerState}

theorem ResourceRecord.occupancy_fits (resource : ResourceRecord) :
    ¬ (resource.capacity.slots.toUInt64 < resource.advertisedOccupancy.toUInt64 + resource.reservedSlots.toUInt64) ↔
      resource.advertisedOccupancy.toNat + resource.reservedSlots.toNat ≤ resource.capacity.slots.toNat := by
  have advertised := resource.advertisedOccupancy.toNat_lt
  have reserved := resource.reservedSlots.toNat_lt
  rw [UInt64.not_lt, UInt64.le_iff_toNat_le, UInt64.toNat_add, UInt32.toNat_toUInt64, UInt32.toNat_toUInt64,
    UInt32.toNat_toUInt64, Nat.mod_eq_of_lt (by omega)]

theorem capacityCheck_ok : (capacityCheck state).ok = true ↔ ∀ resource ∈ state.resources.entries,
    resource.advertisedOccupancy.toNat + resource.reservedSlots.toNat ≤ resource.capacity.slots.toNat :=
  foldl_passes (fun _ resource => (faultIf_ok ..).trans (and_congr_right' resource.occupancy_fits)) rfl

theorem reservedSlotsCheck_ok : (reservedSlotsCheck state).ok = true ↔ ∀ resource ∈ state.resources.entries,
    (buildLedger state resource.id).claimedSlots = resource.reservedSlots :=
  foldl_passes (fun _ _ => (faultIf_ok ..).trans (and_congr_right' not_not)) rfl

theorem exclusiveCheck_ok : (exclusiveCheck state).ok = true ↔ ∀ resource ∈ state.resources.entries,
    ¬ (resource.sharing = .exclusive ∧ 1 < (buildLedger state resource.id).activeClaims) ∧
      ¬ (1 < (buildLedger state resource.id).activeClaims ∧
        resource.capacity.slots < (buildLedger state resource.id).claimedSlots) :=
  foldl_passes (fun _ _ => by rw [faultIf_ok, faultIf_ok, and_assoc]) rfl

def PlacementRecord.BackedBy (placement : PlacementRecord) (reservation : ReservationRecord) : Prop :=
  reservation.state = .active ∧ reservation.placement = placement.id ∧
    reservation.placementGeneration = placement.generation

theorem livePlacementsCheck_ok : (livePlacementsCheck state).ok = true ↔ ∀ placement ∈ state.placements.entries,
    placementStateIsLive placement.state → ∃ reservation,
      state.reservations.find? placement.reservation = some reservation ∧ placement.BackedBy reservation := by
  refine foldl_passes (fun check placement => ?_) rfl
  by_cases live : placementStateIsLive placement.state = true
  · rw [if_pos live]
    cases found : state.reservations.find? placement.reservation with
    | none => simp [live]
    | some reservation => simp [live, PlacementRecord.BackedBy, and_assoc]
  · rw [if_neg live]
    simp [live]

theorem activeReservationsCheck_ok : (activeReservationsCheck state).ok = true ↔
    ∀ reservation ∈ state.reservations.entries, reservation.state = .active → ∃ placement,
      state.placements.find? reservation.placement = some placement ∧ placementStateIsLive placement.state ∧
        placement.generation = reservation.placementGeneration ∧ reservation.claims ≠ [] := by
  refine foldl_passes (fun check reservation => ?_) rfl
  by_cases active : reservation.state = .active
  · rw [if_pos active]
    cases found : state.placements.find? reservation.placement with
    | none => simp [active]
    | some placement => simp [active, and_assoc]
  · rw [if_neg active]
    simp [active]

theorem sortIds_distinct {kind : IdKind} (ids : List (StrongId kind)) :
    (sortIds ids).IsChain (· ≠ ·) ↔ ids.Nodup := by
  have sorted : (sortIds ids).Pairwise (· ≤ ·) := List.pairwise_insertionSort (· ≤ ·) ids
  have distinct : (sortIds ids).Nodup ↔ ids.Nodup := (List.perm_insertionSort (· ≤ ·) ids).nodup_iff
  rw [← distinct]
  constructor
  · intro apart
    have rises : (sortIds ids).IsChain (· < ·) :=
      List.isChain_iff_getElem.mpr fun i bound =>
        lt_of_le_of_ne (List.isChain_iff_getElem.mp sorted.isChain i bound) (List.isChain_iff_getElem.mp apart i bound)
    exact (List.isChain_iff_pairwise.mp rises).imp fun below => below.ne
  · intro apart
    exact apart.isChain

/-- The placement names a stored request and registered resources, each once and with slots. -/
structure PlacementRecord.Registered (state : SchedulerState) (placement : PlacementRecord) : Prop where
  selects : placement.resources ≠ []
  request : state.requests.find? placement.request ≠ none
  resources : ∀ selected ∈ placement.resources,
    state.resources.find? selected.resource ≠ none ∧ selected.slots ≠ 0
  distinct : (placement.resources.map SelectedResource.resource).Nodup

theorem placementsCheck_ok : (placementsCheck state).ok = true ↔
    ∀ placement ∈ state.placements.entries, placement.Registered state := by
  refine foldl_passes (fun check placement => ?_) rfl
  have selects : ∀ start : InvariantCheck, (placement.resources.foldl
      (fun check selected =>
        (check.faultIf (state.resources.find? selected.resource = none)
          (placement.id.toText ++ ascii " references an unknown resource; ")).faultIf
          (selected.slots = 0) (placement.id.toText ++ ascii " claims zero slots; "))
      start).ok = true ↔ start.ok = true ∧ ∀ selected ∈ placement.resources,
        state.resources.find? selected.resource ≠ none ∧ selected.slots ≠ 0 := by
    intro start
    exact foldl_ok (fun _ _ => by rw [faultIf_ok, faultIf_ok, and_assoc]) _ _
  rw [faultIf_ok, not_not, sortIds_distinct, selects, faultIf_ok, faultIf_ok]
  constructor
  · intro passed
    obtain ⟨⟨⟨⟨before, some⟩, asked⟩, resources⟩, distinct⟩ := passed
    exact ⟨before, some, asked, resources, distinct⟩
  · intro passed
    obtain ⟨before, some, asked, resources, distinct⟩ := passed
    exact ⟨⟨⟨⟨before, some⟩, asked⟩, resources⟩, distinct⟩

theorem unitsCheck_ok : (unitsCheck state).ok = true ↔ ∀ entry ∈ state.unitCurrent.entries, ∃ placement,
    state.placements.find? entry.2 = some placement ∧ placementStateIsLive placement.state := by
  refine foldl_passes (fun check entry => ?_) rfl
  cases found : state.placements.find? entry.2 with
  | none => simp
  | some placement => simp

theorem countersCheck_ok : (countersCheck state).ok = true ↔
    (∀ resource ∈ state.resources.entries,
      ¬ (resource.generation.isNull ∨ resource.healthGeneration.isNull ∨ resource.capacityGeneration.isNull) ∧
        ¬ (resource.lifecycle = .retired ∧ resource.reservedSlots ≠ 0)) ∧
      ¬ capacityTotal state < claimedTotal state := by
  unfold countersCheck
  rw [faultIf_ok]
  exact and_congr_left' (foldl_passes (fun _ _ => by rw [faultIf_ok, faultIf_ok, and_assoc]) rfl)

theorem staleAuthorityCheck_ok : (staleAuthorityCheck state).ok = true ↔ ∀ resource ∈ state.resources.entries,
    ¬ (resource.dynamicAuthoritative = false ∧ resource.reservedSlots ≠ 0) :=
  foldl_passes (fun _ _ => faultIf_ok ..) rfl

theorem InvariantReport.allOk_iff (report : InvariantReport) :
    report.allOk = true ↔ ∀ check ∈ report.checks, check.ok = true := List.all_eq_true

end Passes

theorem claimedTotal_unreserved {state : SchedulerState}
    (unreserved : ∀ resource ∈ state.resources.entries, resource.reservedSlots = 0) : claimedTotal state = 0 := by
  refine List.foldlRecOn (motive := fun total => total = 0) _ _ rfl fun total none resource member => ?_
  rw [none, unreserved resource member]
  rfl

theorem buildLedger_inactive {state : SchedulerState}
    (inactive : ∀ reservation ∈ state.reservations.entries, reservation.state ≠ .active) (id : ResourceId) :
    buildLedger state id = {} := by
  have same : buildLedger state = fun _ => {} := by
    refine List.foldlRecOn (motive := fun ledger : ResourceId → ResourceLedger => ledger = fun _ => {}) _ _ rfl
      fun ledger none reservation member => ?_
    rw [none, if_neg (inactive reservation member)]
  rw [same]

def VacantUnits (state : SchedulerState) : Prop := state.placements.entries = [] → state.unitCurrent.entries = []

namespace VacantUnits

variable {state after : SchedulerState}

theorem kept (vacant : VacantUnits state) (placements : after.placements.entries = [] → state.placements.entries = [])
    (units : after.unitCurrent = state.unitCurrent) : VacantUnits after := by
  intro none
  rw [units]
  exact vacant (placements none)

theorem change (change : Change state after) (vacant : VacantUnits state) : VacantUnits after := by
  have placements : after.placements.entries = [] → state.placements.entries = [] := fun none => by
    by_contra some
    exact change.placements.toExtends.nonempty some none
  cases change with
  | books _ _ _ _ units _ => exact vacant.kept placements units
  | invalidate worker boot => exact vacant.kept placements rfl
  | retire found unreserved => exact vacant.kept placements rfl
  | finish detail found live closed =>
    exact fun none => absurd (placements none) (List.ne_nil_of_mem (Table.mem_of_find? found))
  | mark detail found live stays => exact vacant.kept placements rfl
  | complete detail found live => exact vacant.kept placements rfl

theorem scheduled {call : SchedulingCall} (config : EngineConfig) (ids : IdGenerator) (vacant : VacantUnits call.state) :
    VacantUnits (call.scheduled config ids).state := by
  have result : ScheduleResult call.state config ids call.stored call.generation call.reassignments
    (call.scheduled config ids) := scheduleLocked_result
  generalize call.scheduled config ids = scheduled at result
  cases result with
  | noPlacement => exact vacant
  | refused => exact vacant
  | broken => exact vacant
  | placed chosen loop committed decided room resources_after requests_after placements_after =>
    intro none
    rw [placements_after] at none
    exact absurd none (Table.emplace_ne_nil _ _)

theorem step {engine : Engine} (operation : Operation) (vacant : VacantUnits engine.state) :
    VacantUnits (engine.step operation).1.state := by
  refine Engine.step_preserves VacantUnits.change ?_ ?_ ?_ ?_ ?_ vacant
  · intro state after write vacant
    cases write with
    | enroll => exact vacant
    | rewrite => exact vacant
  · exact fun _ _ vacant => vacant
  · exact fun _ _ vacant => vacant
  · intro call calls vacant
    exact VacantUnits.scheduled engine.config engine.ids vacant
  · intro durable _ accepted none
    obtain ⟨-, -, -, placements, -⟩ := importChecks_ok accepted
    rw [(rebuildState_rebuilt accepted).unitCurrent]
    exact vacant placements

theorem runs (config : EngineConfig) (operations : List Operation) :
    VacantUnits ((Engine.fresh config).runs operations).state := by
  have fresh : VacantUnits (Engine.fresh config).state := fun _ => rfl
  exact Engine.runs_always (fun _ operation sofar => VacantUnits.step operation sofar) fresh

end VacantUnits

/-- The conditions of the audit that `validate_durable_state` does not make. -/
structure DurableState.Auditable (durable : DurableState) : Prop where
  generations : ∀ resource ∈ durable.resources, resource.generation.value ≠ 0xffffffffffffffff ∧
    resource.healthGeneration.value ≠ 0 ∧ resource.capacityGeneration.value ≠ 0
  slots : ∀ placement ∈ durable.placements, ∀ selected ∈ placement.resources, selected.slots ≠ 0
  distinct : ∀ placement ∈ durable.placements, (placement.resources.map SelectedResource.resource).Nodup

theorem forall_filled_iff {κ α β : Type} [LinearOrder κ] {key : α → κ} {table : Table key} {items : List β}
    {identity : β → κ} {makes : β → α → Prop} {good : α → Prop} {fine : β → Prop}
    (come : ∀ a ∈ table.entries, ∃ item ∈ items, makes item a)
    (present : ∀ item ∈ items, table.find? (identity item) ≠ none)
    (named : ∀ item a, makes item a → key a = identity item) (distinct : (items.map identity).Nodup)
    (same : ∀ item ∈ items, ∀ a, makes item a → (good a ↔ fine item)) :
    (∀ a ∈ table.entries, good a) ↔ ∀ item ∈ items, fine item := by
  constructor
  · intro all item listed
    obtain ⟨a, found⟩ := Option.ne_none_iff_exists'.mp (present item listed)
    obtain ⟨origin, there, made⟩ := come a (Table.mem_of_find? found)
    have one : origin = item := List.inj_on_of_nodup_map distinct there listed
      ((named origin a made).symm.trans (Table.key_of_find? found))
    rw [one] at made
    exact (same item listed a made).mp (all a (Table.mem_of_find? found))
  · intro all a member
    obtain ⟨item, listed, made⟩ := come a member
    exact (same item listed a made).mpr (all item listed)

section Recovered

variable {durable : DurableState} {before after : SchedulerState} {config : EngineConfig} {kind detail : Text}

theorem recoveredResource_generations (epoch : CoordinatorEpoch) (persisted : ResourceRecord) :
    let record := recoveredResource epoch persisted
    ¬ (record.generation.isNull ∨ record.healthGeneration.isNull ∨ record.capacityGeneration.isNull) ↔
      persisted.generation.value ≠ 0xffffffffffffffff ∧ persisted.healthGeneration.value ≠ 0 ∧
        persisted.capacityGeneration.value ≠ 0 := by
  intro record
  have fields : record.generation = persisted.generation.bump ∧ record.healthGeneration = persisted.healthGeneration ∧
      record.capacityGeneration = persisted.capacityGeneration := by
    unfold record recoveredResource
    extract_lets opened
    split <;> exact ⟨rfl, rfl, rfl⟩
  obtain ⟨generation, health, capacity⟩ := fields
  have wraps := persisted.generation.bump_wraps
  rw [generation, health, capacity]
  simp only [StrongId.isNull_iff, not_or, wraps, ne_eq]

theorem validatePlacement_known {placement : PlacementRecord} (valid : validatePlacement durable placement = .ok ()) :
    placement.resources ≠ [] ∧ placement.request ∈ durable.requests.map StoredRequest.id ∧
      ∀ selected ∈ placement.resources, selected.resource ∈ durable.resources.map fun resource => resource.id := by
  simp only [validatePlacement, check_bind_ok, check_ok, check_forM_ok] at valid
  obtain ⟨-, request, selects, resources⟩ := valid
  exact ⟨selects, request, fun selected member => (resources selected member).1⟩

theorem recovered_placement {persisted placement : PlacementRecord}
    (resources : ∀ id ∈ durable.resources.map fun resource => resource.id, after.resources.find? id ≠ none)
    (requests : ∀ id ∈ durable.requests.map StoredRequest.id, after.requests.find? id ≠ none)
    (valid : validatePlacement durable persisted = .ok ()) (terms : placement.terms = persisted.terms) :
    placement.Registered after ↔ (∀ selected ∈ persisted.resources, selected.slots ≠ 0) ∧
      (persisted.resources.map SelectedResource.resource).Nodup := by
  obtain ⟨some, asked, selected⟩ := validatePlacement_known valid
  have resourcesSame := congrArg PlacementRecord.resources terms
  have requestSame := congrArg PlacementRecord.request terms
  have same : placement.resources = persisted.resources := resourcesSame
  have request : placement.request = persisted.request := requestSame
  constructor
  · intro registered
    obtain ⟨-, -, slots, distinct⟩ := registered
    rw [same] at slots distinct
    exact ⟨fun one member => (slots one member).2, distinct⟩
  · intro fine
    obtain ⟨slots, distinct⟩ := fine
    constructor
    case selects => rwa [same]
    case request =>
      rw [request]
      exact requests _ asked
    case resources =>
      rw [same]
      exact fun one member => ⟨resources _ (selected one member), slots one member⟩
    case distinct => rwa [same]

end Recovered

theorem Rebuilt.audited {durable : DurableState} {before after : SchedulerState} (rebuilt : Rebuilt durable before after)
    (valid : validateDurableState durable = .ok ()) (units : after.unitCurrent.entries = []) :
    (validateInvariants after).allOk = true ↔
      (∀ placement ∈ after.placements.entries, placement.Registered after) ∧
        ∀ resource ∈ after.resources.entries,
          ¬ (resource.generation.isNull ∨ resource.healthGeneration.isNull ∨ resource.capacityGeneration.isNull) := by
  have unreserved (resource : ResourceRecord) (member : resource ∈ after.resources.entries) :
      resource.reservedSlots = 0 := rebuilt.unreserved member
  have inactive (reservation : ReservationRecord) (member : reservation ∈ after.reservations.entries) :
      reservation.state ≠ .active := rebuilt.not_active member
  have ledger (id : ResourceId) : buildLedger after id = {} := buildLedger_inactive inactive id
  have fits : Fits after := .recover rebuilt valid
  have capacity : (capacityCheck after).ok = true := capacityCheck_ok.mpr fits.fits
  have reserved : (reservedSlotsCheck after).ok = true := by
    refine reservedSlotsCheck_ok.mpr fun resource member => ?_
    rw [ledger, unreserved resource member]
  have exclusive : (exclusiveCheck after).ok = true := by
    refine exclusiveCheck_ok.mpr fun resource member => ?_
    rw [ledger]
    exact ⟨fun shared => absurd shared.2 (by decide), fun shared => absurd shared.1 (by decide)⟩
  have live : (livePlacementsCheck after).ok = true := by
    refine livePlacementsCheck_ok.mpr fun placement member live => ?_
    rw [rebuilt.not_live member] at live
    cases live
  have active : (activeReservationsCheck after).ok = true :=
    activeReservationsCheck_ok.mpr fun reservation member active => absurd active (inactive reservation member)
  have unit : (unitsCheck after).ok = true := by
    refine unitsCheck_ok.mpr fun entry member => ?_
    rw [units] at member
    cases member
  have stale : (staleAuthorityCheck after).ok = true :=
    staleAuthorityCheck_ok.mpr fun resource member held => held.2 (unreserved resource member)
  have total := claimedTotal_unreserved unreserved
  simp only [InvariantReport.allOk_iff, validateInvariants, List.forall_mem_cons, List.not_mem_nil, false_implies,
    implies_true, and_true, capacity, reserved, exclusive, live, active, unit, stale, true_and, placementsCheck_ok,
    countersCheck_ok]
  refine and_congr_right' ?_
  rw [total, and_iff_left UInt64.not_lt_zero]
  refine forall₂_congr fun resource member => and_iff_left fun retired => retired.2 (unreserved resource member)

theorem rebuildState_audited {state : SchedulerState} {durable : DurableState}
    (accepted : importChecks state durable = .ok ()) (units : state.unitCurrent.entries = []) :
    (validateInvariants (rebuildState state durable).state).allOk = true ↔ durable.Auditable := by
  have rebuilt := rebuildState_rebuilt accepted
  obtain ⟨valid, -⟩ := importChecks_ok accepted
  obtain ⟨-, -, placements, distinctPlacements⟩ := validateDurableState_ok valid
  have distinctResources := validateDurableState_resources valid
  have vacant : (rebuildState state durable).state.unitCurrent.entries = [] := by
    rw [rebuilt.unitCurrent]
    exact units
  have resources : ∀ id ∈ durable.resources.map fun resource => resource.id,
      (rebuildState state durable).state.resources.find? id ≠ none := by
    intro id member
    obtain ⟨persisted, listed, rfl⟩ := List.mem_map.mp member
    exact rebuildState_resource state listed
  have requests : ∀ id ∈ durable.requests.map StoredRequest.id,
      (rebuildState state durable).state.requests.find? id ≠ none := by
    intro id member
    obtain ⟨persisted, listed, rfl⟩ := List.mem_map.mp member
    exact rebuildState_request state listed
  rw [rebuilt.audited valid vacant]
  have persisted (placement : PlacementRecord)
      (member : placement ∈ (rebuildState state durable).state.placements.entries) :
      ∃ persisted ∈ durable.placements, placement.terms = persisted.terms := rebuilt.placement_terms member
  have named (persisted placement : PlacementRecord) (terms : placement.terms = persisted.terms) :
      placement.id = persisted.id := by
    have same := congrArg PlacementRecord.id terms
    exact same
  have registered := forall_filled_iff persisted (fun persisted listed => rebuildState_placement state listed)
    named distinctPlacements
    fun persisted listed placement terms => recovered_placement resources requests (placements persisted listed) terms
  have generations := forall_filled_iff (rebuilt.resources) (fun persisted listed => rebuildState_resource state listed)
    (fun persisted record made => made ▸ recoveredResource_id ..) distinctResources
    fun persisted listed record made => made ▸ recoveredResource_generations _ persisted
  rw [registered, generations]
  constructor
  · intro both
    obtain ⟨selections, generations⟩ := both
    exact ⟨generations, fun placement listed => (selections placement listed).1,
      fun placement listed => (selections placement listed).2⟩
  · intro auditable
    obtain ⟨generations, slots, distinct⟩ := auditable
    exact ⟨fun placement listed => ⟨slots placement listed, distinct placement listed⟩, generations⟩

theorem import_audited {config : EngineConfig} {operations : List Operation} {durable : DurableState}
    (accepted : importChecks ((Engine.fresh config).runs operations).state durable = .ok ()) :
    let recovered := (((Engine.fresh config).runs operations).step (.importState durable)).1.state
    (validateInvariants recovered).allOk = true ↔ durable.Auditable := by
  have vacant := VacantUnits.runs config operations
  generalize (Engine.fresh config).runs operations = engine at accepted vacant
  obtain ⟨kind, detail, ids, restored⟩ := engine.step_import accepted
  obtain ⟨-, -, -, placements, -⟩ := importChecks_ok accepted
  have audited := rebuildState_audited accepted (vacant placements)
  rw [restored]
  exact audited

theorem import_audited_bench :
    (validateInvariants ((Engine.fresh {}).step (.importState (Bench.durable [Bench.completed 11 9]))).1.state).allOk :=
  (@import_audited {} [] (Bench.durable [Bench.completed 11 9]) (by decide)).mpr
    ⟨by decide, by decide, by decide⟩

/-- A completed placement that selects one resource twice, without a slot. -/
def Bench.doubled : DurableState :=
  Bench.durable [{ Bench.completed 11 9 with
    resources := [{ resource := ⟨7⟩, generation := ⟨1⟩, slots := 0 }, { resource := ⟨7⟩, generation := ⟨1⟩, slots := 0 }] }]

theorem doubled_accepted :
    validateDurableState Bench.doubled = .ok () ∧
      (validateInvariants ((Engine.fresh {}).step (.importState Bench.doubled)).1.state).allOk = false := by
  decide

end LabScheduler
