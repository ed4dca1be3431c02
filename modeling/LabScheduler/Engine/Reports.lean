import LabScheduler.Engine.Audited
import LabScheduler.Engine.Leasing

namespace LabScheduler

open Foundation

structure ResourceAccounting where
  resource : ResourceId := {}
  resourceClass : ResourceClass := .worker
  name : Text := []
  capacitySlots : UInt32 := 0
  capacityMemoryBytes : UInt64 := 0
  advertisedOccupancy : UInt32 := 0
  reservedSlots : UInt32 := 0
  activeReservations : UInt32 := 0
  lifecycle : ResourceLifecycle := .registered
  dynamicAuthoritative : Bool := false
  generation : UInt64 := 0

structure AccountingReport where
  epoch : CoordinatorEpoch := {}
  placementsRecorded : UInt64 := 0
  activePlacements : UInt64 := 0
  requestsRecorded : UInt64 := 0
  reservationsRecorded : UInt64 := 0
  activeReservations : UInt64 := 0
  totalCapacitySlots : UInt64 := 0
  totalReservedSlots : UInt64 := 0
  resources : List ResourceAccounting := []

/-- The ledger has claims on a resource exactly if it has an entry for it, so that no entry reads as no claim. -/
def resourceAccounting (ledger : ResourceId → ResourceLedger) (resource : ResourceRecord) : ResourceAccounting :=
  { resource := resource.id
    resourceClass := resource.resourceClass
    name := resource.name
    capacitySlots := resource.capacity.slots
    capacityMemoryBytes := resource.capacity.memoryBytes
    advertisedOccupancy := resource.advertisedOccupancy
    reservedSlots := resource.reservedSlots
    activeReservations := (ledger resource.id).activeClaims
    lifecycle := resource.lifecycle
    dynamicAuthoritative := resource.dynamicAuthoritative
    generation := resource.generation.value }

def AccountingReport.addResource (ledger : ResourceId → ResourceLedger) (report : AccountingReport)
    (resource : ResourceRecord) : AccountingReport :=
  { report with
    totalCapacitySlots := report.totalCapacitySlots + resource.capacity.slots.toUInt64
    totalReservedSlots := report.totalReservedSlots + resource.reservedSlots.toUInt64
    resources := report.resources ++ [resourceAccounting ledger resource] }

def accounting (state : SchedulerState) : AccountingReport :=
  let report : AccountingReport :=
    { epoch := state.epoch
      placementsRecorded := UInt64.ofNat state.placements.size
      requestsRecorded := UInt64.ofNat state.requests.size
      reservationsRecorded := UInt64.ofNat state.reservations.size }
  let report := state.placements.entries.foldl
    (fun report placement =>
      if placementStateIsLive placement.state then
        { report with activePlacements := report.activePlacements + 1 }
      else report) report
  let report := state.reservations.entries.foldl
    (fun report reservation =>
      if reservation.state = .active then
        { report with activeReservations := report.activeReservations + 1 }
      else report) report
  state.resources.entries.foldl (AccountingReport.addResource (buildLedger state)) report

section Closed

theorem AccountingReport.addPlacements (placements : List PlacementRecord) (report : AccountingReport) :
    placements.foldl
        (fun report placement =>
          if placementStateIsLive placement.state then
            { report with activePlacements := report.activePlacements + 1 }
          else report) report =
      { report with
        activePlacements := report.activePlacements +
          UInt64.ofNat (placements.countP fun placement => placementStateIsLive placement.state) } := by
  induction placements generalizing report with
  | nil => simp
  | cons placement rest ih =>
    rw [List.foldl_cons, ih]
    by_cases live : placementStateIsLive placement.state
    · simp [live, UInt64.ofNat_add, UInt64.add_assoc, UInt64.add_comm]
    · simp [live]

theorem AccountingReport.addReservations (reservations : List ReservationRecord) (report : AccountingReport) :
    reservations.foldl
        (fun report reservation =>
          if reservation.state = .active then
            { report with activeReservations := report.activeReservations + 1 }
          else report) report =
      { report with
        activeReservations := report.activeReservations +
          UInt64.ofNat (reservations.countP fun reservation => reservation.state = .active) } := by
  induction reservations generalizing report with
  | nil => simp
  | cons reservation rest ih =>
    rw [List.foldl_cons, ih]
    by_cases active : reservation.state = .active
    · simp [active, UInt64.ofNat_add, UInt64.add_assoc, UInt64.add_comm]
    · simp [active]

theorem AccountingReport.addResources (ledger : ResourceId → ResourceLedger) (resources : List ResourceRecord)
    (report : AccountingReport) :
    resources.foldl (addResource ledger) report =
      { report with
        totalCapacitySlots := resources.foldl (fun total resource => total + resource.capacity.slots.toUInt64)
          report.totalCapacitySlots
        totalReservedSlots := resources.foldl (fun total resource => total + resource.reservedSlots.toUInt64)
          report.totalReservedSlots
        resources := report.resources ++ resources.map (resourceAccounting ledger) } := by
  induction resources generalizing report with
  | nil => simp
  | cons resource rest ih =>
    rw [List.foldl_cons, ih]
    simp [addResource]

theorem accounting_eq (state : SchedulerState) :
    accounting state =
      { epoch := state.epoch
        placementsRecorded := UInt64.ofNat state.placements.size
        activePlacements :=
          UInt64.ofNat (state.placements.entries.countP fun placement => placementStateIsLive placement.state)
        requestsRecorded := UInt64.ofNat state.requests.size
        reservationsRecorded := UInt64.ofNat state.reservations.size
        activeReservations :=
          UInt64.ofNat (state.reservations.entries.countP fun reservation => reservation.state = .active)
        totalCapacitySlots := capacityTotal state
        totalReservedSlots := claimedTotal state
        resources := state.resources.entries.map (resourceAccounting (buildLedger state)) } := by
  unfold accounting
  simp only [AccountingReport.addPlacements, AccountingReport.addReservations, AccountingReport.addResources]
  simp [capacityTotal, claimedTotal]

end Closed

section Balance

variable {state : SchedulerState}

theorem sum_swap {α β : Type} (items : List α) (others : List β) (weight : α → β → ℕ) :
    (items.map fun item => (others.map fun other => weight item other).sum).sum =
      (others.map fun other => (items.map fun item => weight item other).sum).sum := by
  simpa using Multiset.sum_map_sum_map (items : Multiset α) (others : Multiset β) (f := weight)

theorem granted_total {placement : PlacementRecord}
    (registered : ∀ selected ∈ placement.resources, state.resources.find? selected.resource ≠ none) :
    (state.resources.entries.map fun resource => placement.granted resource.id).sum =
      (placement.resources.map fun selected => selected.slots.toNat).sum := by
  simp only [PlacementRecord.granted_apply]
  rw [sum_swap]
  refine congrArg List.sum (List.map_congr_left fun selected picked => ?_)
  have known : selected.resource ∈ state.resources.keys.toFinset := by
    cases found : state.resources.find? selected.resource with
    | none => exact absurd found (registered selected picked)
    | some resource => exact List.mem_toFinset.mpr (Table.mem_keys found)
  have keys : (state.resources.keys.map fun id => if selected.resource = id then selected.slots.toNat else 0).sum =
      selected.slots.toNat := by
    rw [← List.sum_toFinset _ state.resources.keys_nodup, Finset.sum_ite_eq, if_pos known]
  rwa [Table.keys, List.map_map] at keys

/-- What is reserved altogether is what the live placements have selected. -/
theorem Sound.reserved_total (sound : Sound state) (few : FewResources state) :
    (claimedTotal state).toNat = state.placements.total fun placement =>
      if placementStateIsLive placement.state then (placement.resources.map fun selected => selected.slots.toNat).sum
      else 0 := by
  rw [claimedTotal, sumU64 _ (fun resource => resource.reservedSlots) few]
  have rows : state.resources.entries.map (fun resource => resource.reservedSlots.toNat) =
      state.resources.entries.map fun resource => (state.placements.entries.map fun placement =>
        if placementStateIsLive placement.state then placement.granted resource.id else 0).sum := by
    refine List.map_congr_left fun resource member => ?_
    rw [← sound.taken member, SchedulerState.taken_eq]
    rfl
  rw [rows, sum_swap]
  refine Table.total_congr fun placement member => ?_
  by_cases live : placementStateIsLive placement.state
  · simp only [live, if_true]
    exact granted_total (sound.paired.registered placement member live)
  · simp [live]

theorem Paired.claims (paired : Paired state) (id : ResourceId) :
    claimsOn state.reservations id = state.placements.entries.countP fun placement =>
      placementStateIsLive placement.state ∧ id ∈ placement.resources.map SelectedResource.resource := by
  have counted : state.placements.total (fun placement => if placementStateIsLive placement.state then
      (placement.resources.map SelectedResource.resource).count id else 0) = claimsOn state.reservations id := by
    refine paired.matches.total_eq fun placement member live reservation found => ?_
    obtain ⟨own, there, -, backs⟩ := paired.backed placement member live
    rw [there] at found
    cases found
    have same : reservation.claims.map ReservationClaim.resource = placement.resources.map SelectedResource.resource :=
      forall₂_map_eq backs.agree fun agrees => agrees.resource
    rw [← same, countClaims, List.count, List.countP_map]
    rfl
  rw [← counted, ← Table.total_one]
  refine Table.total_congr fun placement member => ?_
  by_cases live : placementStateIsLive placement.state
  · obtain ⟨reservation, -, -, backs⟩ := paired.backed placement member live
    simp only [live, if_true, true_and]
    exact backs.distinct.count
  · simp [live]

end Balance

/-- After every run the books balance: as many placements are active as reservations, what is reserved is what the live
    placements have selected, and no row nor the whole goes beyond the capacity. -/
theorem accounting_balances {config : EngineConfig} {operations : List Operation}
    (reasons : 1 ≤ config.limits.maxRejectionReasonsPerEntry)
    (guarded : Guarded Engine.step Engine.DrawsUnused (Engine.fresh config) operations) :
    let state := ((Engine.fresh config).runs operations).state
    let report := accounting state
    report.activePlacements = report.activeReservations ∧
      (report.totalReservedSlots.toNat = state.placements.total fun placement =>
        if placementStateIsLive placement.state then (placement.resources.map fun selected => selected.slots.toNat).sum
        else 0) ∧
      report.totalReservedSlots.toNat + (report.resources.map fun row => row.advertisedOccupancy.toNat).sum ≤
        report.totalCapacitySlots.toNat ∧
      report.resources.map ResourceAccounting.resource = state.resources.keys ∧
      ∀ row ∈ report.resources, row.reservedSlots.toNat = state.leases.taken row.resource ∧
        row.advertisedOccupancy.toNat + row.reservedSlots.toNat ≤ row.capacitySlots.toNat ∧
        row.activeReservations.toNat = state.placements.entries.countP fun placement =>
          placementStateIsLive placement.state ∧ row.resource ∈ placement.resources.map SelectedResource.resource := by
  intro state report
  obtain ⟨sound, few⟩ : Sound state ∧ FewResources state :=
    Sound.runs_beside reasons (fun _ _ draws => draws) (fun _ _ _ _ few _ => few.step) guarded (Nat.two_pow_pos 32)
  have closed : report = _ := accounting_eq state
  rw [closed]
  have matched := sound.paired.matches.count_eq
  simp only [Bool.decide_eq_true] at matched
  refine ⟨congrArg UInt64.ofNat matched, sound.reserved_total few, ?_, ?_, ?_⟩
  · have rows : ((state.resources.entries.map (resourceAccounting (buildLedger state))).map fun row =>
        row.advertisedOccupancy.toNat) = state.resources.entries.map fun resource =>
          resource.advertisedOccupancy.toNat := by
      rw [List.map_map]
      rfl
    dsimp only
    rw [rows, claimedTotal, capacityTotal, sumU64 _ (fun resource => resource.reservedSlots) few,
      sumU64 _ (fun resource => resource.capacity.slots) few, ← List.sum_map_add]
    refine List.sum_le_sum fun resource member => ?_
    have fits := sound.ledger.fits resource member
    omega
  · exact List.map_map
  · intro row member
    obtain ⟨resource, known, rfl⟩ := List.mem_map.mp member
    refine ⟨(sound.taken known).symm, sound.ledger.fits resource known, ?_⟩
    rw [← sound.paired.claims]
    exact (sound.ledgered known).2

theorem accounting_balances_bench :
    let report := accounting ((Engine.fresh {}).runs Bench.start).state
    report.activePlacements = 1 ∧ report.totalReservedSlots = 1 ∧ report.activePlacements = report.activeReservations := by
  have draws : Guarded Engine.step Engine.DrawsUnused (Engine.fresh {}) Bench.start :=
    ⟨by decide +kernel, by decide +kernel, trivial⟩
  exact ⟨by decide +kernel, by decide +kernel, (accounting_balances (by decide) draws).1⟩

end LabScheduler
