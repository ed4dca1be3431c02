import LabScheduler.Engine.Fencing

namespace LabScheduler

open Foundation

structure Tops (value : UInt64) (values : List UInt64) : Prop where
  member : value ∈ values
  above : ∀ other ∈ values, other ≤ value

theorem IdFloor.observe_tops {kind : IdKind} {floor : IdFloor} {values : List UInt64} (tops : Tops floor.value values)
    (id : StrongId kind) : Tops (floor.observe id).value (values ++ [id.value]) := by
  unfold IdFloor.observe
  split
  · rename_i below
    refine ⟨by simp, fun other member => ?_⟩
    rcases List.mem_append.mp member with earlier | here
    · exact UInt64.le_trans (tops.above other earlier) (UInt64.le_of_lt below)
    · rw [List.mem_singleton.mp here]
  · rename_i reached
    refine ⟨List.mem_append_left _ tops.member, fun other member => ?_⟩
    rcases List.mem_append.mp member with earlier | here
    · exact tops.above other earlier
    · rw [List.mem_singleton.mp here]
      exact UInt64.not_lt.mp reached

def observedRequest (stored : StoredRequest) : List UInt64 :=
  [stored.request.id.value, stored.request.experiment.value, stored.request.experimentGeneration.value,
    stored.request.trial.value]

def observedPlacement (placement : PlacementRecord) : List UInt64 :=
  [placement.id.value, placement.request.value, placement.decision.value, placement.reservation.value,
    placement.lease.value]

def observedReservation (reservation : ReservationRecord) : List UInt64 :=
  [reservation.id.value, reservation.lease.value, reservation.placement.value]

/-- A worker and its boot identity are observed with the first resource that brings the worker back. -/
def observedResources (known : List WorkerId) : List ResourceRecord → List UInt64
  | [] => []
  | resource :: rest =>
    if resource.worker.isNull ∨ resource.worker ∈ known then resource.id.value :: observedResources known rest
    else
      resource.id.value :: resource.worker.value :: resource.boot.value ::
        observedResources (resource.worker :: known) rest

/-- The values `import_state` observes, in an engine that knows the workers. -/
def DurableState.observed (durable : DurableState) (known : List WorkerId) : List UInt64 :=
  durable.idCounter :: observedResources known durable.resources ++ durable.requests.flatMap observedRequest ++
    durable.placements.flatMap observedPlacement ++ durable.reservations.flatMap observedReservation

theorem foldl_tops {β : Type} {turn : Recovery → β → Recovery} {observed : β → List UInt64}
    (turns : ∀ recovery item values, Tops recovery.floor.value values →
      Tops (turn recovery item).floor.value (values ++ observed item))
    (items : List β) {recovery : Recovery} {values : List UInt64} (tops : Tops recovery.floor.value values) :
    Tops (items.foldl turn recovery).floor.value (values ++ items.flatMap observed) := by
  induction items generalizing recovery values with
  | nil => simpa using tops
  | cons item rest ih =>
    rw [List.flatMap_cons, ← List.append_assoc]
    exact ih (turns recovery item values tops)

theorem recoverRequest_tops (recovery : Recovery) (persisted : StoredRequest) (values : List UInt64)
    (tops : Tops recovery.floor.value values) :
    Tops (recoverRequest recovery persisted).floor.value (values ++ observedRequest persisted) := by
  have first := IdFloor.observe_tops tops persisted.request.id
  have second := IdFloor.observe_tops first persisted.request.experiment
  have third := IdFloor.observe_tops second persisted.request.experimentGeneration
  have fourth := IdFloor.observe_tops third persisted.request.trial
  have each : values ++ observedRequest persisted = values ++ [persisted.request.id.value] ++
      [persisted.request.experiment.value] ++ [persisted.request.experimentGeneration.value] ++
      [persisted.request.trial.value] := by simp [observedRequest]
  rw [each]
  exact fourth

theorem recoverPlacement_tops (recovery : Recovery) (persisted : PlacementRecord) (values : List UInt64)
    (tops : Tops recovery.floor.value values) :
    Tops (recoverPlacement recovery persisted).floor.value (values ++ observedPlacement persisted) := by
  have first := IdFloor.observe_tops tops persisted.id
  have second := IdFloor.observe_tops first persisted.request
  have third := IdFloor.observe_tops second persisted.decision
  have fourth := IdFloor.observe_tops third persisted.reservation
  have fifth := IdFloor.observe_tops fourth persisted.lease
  have floor : (recoverPlacement recovery persisted).floor = ((((recovery.floor.observe persisted.id).observe
      persisted.request).observe persisted.decision).observe persisted.reservation).observe persisted.lease := by
    unfold recoverPlacement
    extract_lets floor preserved sequence placement
    split <;> rfl
  rw [floor]
  simpa [observedPlacement] using fifth

theorem recoverReservation_tops (recovery : Recovery) (persisted : ReservationRecord) (values : List UInt64)
    (tops : Tops recovery.floor.value values) :
    Tops (recoverReservation recovery persisted).floor.value (values ++ observedReservation persisted) := by
  have first := IdFloor.observe_tops tops persisted.id
  have second := IdFloor.observe_tops first persisted.lease
  have third := IdFloor.observe_tops second persisted.placement
  have each : values ++ observedReservation persisted = values ++ [persisted.id.value] ++ [persisted.lease.value] ++
      [persisted.placement.value] := by simp [observedReservation]
  rw [each]
  exact third

theorem recoverWorker_known {recovery : Recovery} {record : ResourceRecord}
    (known : recovery.state.workers.find? record.worker ≠ none) : recoverWorker recovery record = recovery := by
  obtain ⟨entry, found⟩ := Option.ne_none_iff_exists'.mp known
  unfold recoverWorker
  rw [found]

theorem recoverWorker_new {recovery : Recovery} {record : ResourceRecord}
    (absent : recovery.state.workers.find? record.worker = none) :
    ∃ restored : WorkerRecord, restored.id = record.worker ∧
      (recoverWorker recovery record).state.workers = recovery.state.workers.emplace restored ∧
      (recoverWorker recovery record).floor = (recovery.floor.observe record.worker).observe record.boot := by
  unfold recoverWorker
  rw [absent]
  exact ⟨_, rfl, rfl, rfl⟩

def Knows (recovery : Recovery) (known : List WorkerId) : Prop :=
  ∀ id, recovery.state.workers.find? id ≠ none ↔ id ∈ known

theorem recoverOwner_tops {recovery : Recovery} {known : List WorkerId} {values : List UInt64}
    (knows : Knows recovery known) (tops : Tops recovery.floor.value values) (record : ResourceRecord) :
    if record.worker.isNull ∨ record.worker ∈ known then
      Knows (recoverOwner recovery record) known ∧ Tops (recoverOwner recovery record).floor.value values
    else
      Knows (recoverOwner recovery record) (record.worker :: known) ∧
        Tops (recoverOwner recovery record).floor.value (values ++ [record.worker.value] ++ [record.boot.value]) := by
  by_cases static : record.worker.isNull = true
  · have skips : recoverOwner recovery record = recovery := if_pos static
    rw [if_pos (.inl static), skips]
    exact ⟨knows, tops⟩
  · let opened : Recovery :=
      { recovery with
        report :=
          { recovery.report with
            resourcesRequiringRevalidation := recovery.report.resourcesRequiringRevalidation ++ [record.id] } }
    have owner : recoverOwner recovery record = recoverWorker opened record := if_neg static
    rw [owner]
    by_cases there : record.worker ∈ known
    · have known : opened.state.workers.find? record.worker ≠ none := (knows record.worker).mpr there
      rw [if_pos (.inr there), recoverWorker_known known]
      exact ⟨knows, tops⟩
    · have absent : opened.state.workers.find? record.worker = none := by
        by_contra found
        exact there ((knows record.worker).mp found)
      obtain ⟨restored, named, workers, floor⟩ := recoverWorker_new absent
      rw [if_neg (not_or.mpr ⟨static, there⟩), floor]
      refine ⟨fun id => ?_, IdFloor.observe_tops (IdFloor.observe_tops tops record.worker) record.boot⟩
      rw [workers, Table.find?_emplace, named, List.mem_cons]
      by_cases same : record.worker = id
      · simp [same]
      · rw [if_neg same]
        exact (knows id).trans (or_iff_right (Ne.symm same)).symm

theorem recoverResource_tops {recovery : Recovery} {known : List WorkerId} {values : List UInt64}
    (knows : Knows recovery known) (tops : Tops recovery.floor.value values) (persisted : ResourceRecord) :
    let recovered := recoverResource recovery persisted
    if persisted.worker.isNull ∨ persisted.worker ∈ known then
      Knows recovered known ∧ Tops recovered.floor.value (values ++ [persisted.id.value])
    else
      Knows recovered (persisted.worker :: known) ∧
        Tops recovered.floor.value (values ++ [persisted.id.value] ++ [persisted.worker.value] ++
          [persisted.boot.value]) := by
  have worker := recoveredResource_worker recovery.state.epoch persisted
  have boot := recoveredResource_boot recovery.state.epoch persisted
  have id := recoveredResource_id recovery.state.epoch persisted
  have first := IdFloor.observe_tops tops (recoveredResource recovery.state.epoch persisted).id
  let opened : Recovery :=
    { recovery with floor := recovery.floor.observe (recoveredResource recovery.state.epoch persisted).id }
  have knows : Knows opened known := knows
  have owned := recoverOwner_tops knows first (recoveredResource recovery.state.epoch persisted)
  rw [worker, boot] at owned
  rw [← id]
  exact owned

theorem recoverResources_tops (resources : List ResourceRecord) {recovery : Recovery} {known : List WorkerId}
    {values : List UInt64} (knows : Knows recovery known) (tops : Tops recovery.floor.value values) :
    Tops (resources.foldl recoverResource recovery).floor.value (values ++ observedResources known resources) := by
  induction resources generalizing recovery known values with
  | nil => simpa [observedResources] using tops
  | cons persisted rest ih =>
    have turn := recoverResource_tops knows tops persisted
    rw [observedResources]
    split at turn
    · rename_i skipped
      obtain ⟨knows, tops⟩ := turn
      rw [if_pos skipped]
      have each : values ++ persisted.id.value :: observedResources known rest =
          values ++ [persisted.id.value] ++ observedResources known rest := by simp
      rw [each]
      exact ih knows tops
    · rename_i brought
      obtain ⟨knows, tops⟩ := turn
      rw [if_neg brought]
      have each : values ++ persisted.id.value :: persisted.worker.value :: persisted.boot.value ::
            observedResources (persisted.worker :: known) rest =
          values ++ [persisted.id.value] ++ [persisted.worker.value] ++ [persisted.boot.value] ++
            observedResources (persisted.worker :: known) rest := by simp
      rw [each]
      exact ih knows tops

theorem rebuildState_tops (state : SchedulerState) (durable : DurableState) :
    Tops (rebuildState state durable).floor.value (durable.observed state.workers.keys) := by
  have knows : Knows (openRecovery state durable) state.workers.keys := fun id => Table.mem_keys_iff.symm
  have opened : Tops (openRecovery state durable).floor.value [durable.idCounter] :=
    ⟨List.mem_singleton.mpr rfl, fun other member => by
      rw [List.mem_singleton.mp member]
      exact UInt64.le_refl _⟩
  have resources := recoverResources_tops durable.resources knows opened
  have requests := foldl_tops recoverRequest_tops durable.requests resources
  have placements := foldl_tops recoverPlacement_tops durable.placements requests
  exact foldl_tops recoverReservation_tops durable.reservations placements

/-- The identities of each type that the records hold, among those the engine issues. -/
def DurableState.identities (durable : DurableState) : (kind : IdKind) → List (StrongId kind)
  | .decision => durable.placements.map PlacementRecord.decision
  | .placement =>
    durable.placements.map PlacementRecord.id ++ durable.reservations.map ReservationRecord.placement ++
      durable.requests.map StoredRequest.currentPlacement
  | .reservation =>
    durable.placements.map PlacementRecord.reservation ++ durable.reservations.map ReservationRecord.id
  | .lease => durable.placements.map PlacementRecord.lease ++ durable.reservations.map ReservationRecord.lease
  | _ => []

inductive Engine.Issues (engine : Engine) (operation : Operation) : (kind : IdKind) → StrongId kind → Prop
  | decision {call : SchedulingCall} (calls : engine.Calls operation call) :
    Issues engine operation .decision (engine.ids.next .decision).1
  | placement {call : SchedulingCall} (calls : engine.Calls operation call)
      (commits : (engine.step operation).1.ids = engine.ids.commitIds.2) :
    Issues engine operation .placement engine.ids.commitIds.1.placement
  | reservation {call : SchedulingCall} (calls : engine.Calls operation call)
      (commits : (engine.step operation).1.ids = engine.ids.commitIds.2) :
    Issues engine operation .reservation engine.ids.commitIds.1.reservation
  | lease {call : SchedulingCall} (calls : engine.Calls operation call)
      (commits : (engine.step operation).1.ids = engine.ids.commitIds.2) :
    Issues engine operation .lease engine.ids.commitIds.1.lease

/-- An operation that may schedule finds the four identities of a commit below the end of the generator. -/
def Engine.HasIdentities (engine : Engine) (operation : Operation) : Prop :=
  operation.schedules → engine.ids.counter.toNat + 4 < 2 ^ 64

instance (engine : Engine) (operation : Operation) : Decidable (engine.HasIdentities operation) :=
  inferInstanceAs (Decidable (_ → _))

/-- The increments behind a recovery do not wrap, and the placements its requests name are observed. -/
structure DurableState.LeavesIdentities (durable : DurableState) (known : List WorkerId) : Prop where
  observed : ∀ value ∈ durable.observed known, value ≠ 0xffffffffffffffff
  current : ∀ stored ∈ durable.requests, ∃ value ∈ durable.observed known,
    stored.currentPlacement.value.toNat ≤ value.toNat + 1

theorem observed_placement {durable : DurableState} {known : List WorkerId} {value : UInt64}
    (member : value ∈ durable.placements.flatMap observedPlacement) : value ∈ durable.observed known := by
  simp only [DurableState.observed, List.mem_append]
  exact .inl (.inr member)

theorem observed_reservation {durable : DurableState} {known : List WorkerId} {value : UInt64}
    (member : value ∈ durable.reservations.flatMap observedReservation) : value ∈ durable.observed known := by
  simp only [DurableState.observed, List.mem_append]
  exact .inr member

theorem DurableState.identity_observed {durable : DurableState} (known : List WorkerId) {kind : IdKind}
    {id : StrongId kind} (member : id ∈ durable.identities kind) :
    id.value ∈ durable.observed known ∨ ∃ stored ∈ durable.requests, id.value = stored.currentPlacement.value := by
  have placed {placement : PlacementRecord} {value : UInt64} (listed : placement ∈ durable.placements)
      (named : value ∈ observedPlacement placement) : value ∈ durable.observed known :=
    observed_placement (List.mem_flatMap.mpr ⟨placement, listed, named⟩)
  have reserved {reservation : ReservationRecord} {value : UInt64} (listed : reservation ∈ durable.reservations)
      (named : value ∈ observedReservation reservation) : value ∈ durable.observed known :=
    observed_reservation (List.mem_flatMap.mpr ⟨reservation, listed, named⟩)
  cases kind with
  | decision =>
    obtain ⟨placement, listed, rfl⟩ := List.mem_map.mp member
    exact .inl (placed listed (by simp [observedPlacement]))
  | placement =>
    simp only [DurableState.identities, List.mem_append, List.mem_map] at member
    rcases member with (⟨placement, listed, rfl⟩ | ⟨reservation, listed, rfl⟩) | ⟨stored, listed, rfl⟩
    · exact .inl (placed listed (by simp [observedPlacement]))
    · exact .inl (reserved listed (by simp [observedReservation]))
    · exact .inr ⟨stored, listed, rfl⟩
  | reservation =>
    simp only [DurableState.identities, List.mem_append, List.mem_map] at member
    rcases member with ⟨placement, listed, rfl⟩ | ⟨reservation, listed, rfl⟩
    · exact .inl (placed listed (by simp [observedPlacement]))
    · exact .inl (reserved listed (by simp [observedReservation]))
  | lease =>
    simp only [DurableState.identities, List.mem_append, List.mem_map] at member
    rcases member with ⟨placement, listed, rfl⟩ | ⟨reservation, listed, rfl⟩
    · exact .inl (placed listed (by simp [observedPlacement]))
    · exact .inl (reserved listed (by simp [observedReservation]))
  | _ => cases member

theorem Engine.step_generator (engine : Engine) (operation : Operation) :
    (engine.step operation).1.ids = engine.ids ∨
      (∃ durable, operation = .importState durable ∧ importChecks engine.state durable = .ok ()) ∨
      ∃ call, engine.Calls operation call := by
  cases operation with
  | submitRequest request =>
    rcases submitRequest_cases engine request with ⟨-, same⟩ | ⟨call, calls, -⟩
    · exact .inl same
    · exact .inr (.inr ⟨call, calls⟩)
  | reassignPlacement placement generation epoch reason =>
    rcases @reassignPlacement_cases engine placement generation epoch reason _ rfl with ⟨same, -⟩ | ⟨call, calls, -⟩
    · exact .inl same
    · exact .inr (.inr ⟨call, calls⟩)
  | preemptPlacement placement generation epoch reason =>
    rcases @preemptPlacement_cases engine placement generation epoch reason _ rfl with
      ⟨same, -⟩ | ⟨record, stored, -, same, -⟩ | ⟨call, calls, -⟩
    · exact .inl same
    · exact .inl same
    · exact .inr (.inr ⟨call, calls⟩)
  | importState durable =>
    cases checked : importChecks engine.state durable with
    | error status =>
      left
      change (importState engine.state engine.config engine.ids durable).2.1 = _
      unfold LabScheduler.importState
      rw [checked]
    | ok _ => exact .inr (.inl ⟨durable, rfl, checked⟩)
  | _ => exact .inl rfl

theorem importState_generator {engine : Engine} {durable : DurableState}
    (accepted : importChecks engine.state durable = .ok ()) :
    (engine.step (.importState durable)).1.ids =
      engine.ids.observe ((rebuildState engine.state durable).floor.value + 1) := by
  change (importState engine.state engine.config engine.ids durable).2.1 = _
  unfold LabScheduler.importState
  rw [accepted]

theorem IdGenerator.le_observe (ids : IdGenerator) (value : UInt64) :
    ids.counter ≤ (ids.observe value).counter ∧ value ≤ (ids.observe value).counter := by
  unfold IdGenerator.observe
  split
  · rename_i below
    exact ⟨UInt64.le_of_lt below, UInt64.le_refl _⟩
  · rename_i reached
    exact ⟨UInt64.le_refl _, UInt64.not_lt.mp reached⟩

theorem IdGenerator.commitIds_toNat {ids : IdGenerator} (room : ids.counter.toNat + 4 < 2 ^ 64) :
    ids.commitIds.1.decision.value.toNat = ids.counter.toNat + 1 ∧
      ids.commitIds.1.placement.value.toNat = ids.counter.toNat + 2 ∧
      ids.commitIds.1.reservation.value.toNat = ids.counter.toNat + 3 ∧
      ids.commitIds.1.lease.value.toNat = ids.counter.toNat + 4 ∧
      ids.commitIds.2.counter.toNat = ids.counter.toNat + 4 := by
  have one : (1 : UInt64).toNat = 1 := rfl
  simp only [IdGenerator.commitIds, IdGenerator.next, IdGenerator.nextValue, UInt64.toNat_add, one]
  omega

theorem Engine.Calls.counter {engine : Engine} {operation : Operation} {call : SchedulingCall}
    (calls : engine.Calls operation call) (room : engine.ids.counter.toNat + 4 < 2 ^ 64) :
    engine.ids.counter.toNat < (engine.step operation).1.ids.counter.toNat ∧
      (engine.step operation).1.ids.counter.toNat ≤ engine.ids.counter.toNat + 4 := by
  obtain ⟨-, -, -, -, drawn⟩ := IdGenerator.commitIds_toNat room
  have one : (1 : UInt64).toNat = 1 := rfl
  rcases calls.draws with once | commit
  · have next : engine.ids.nextValue.counter.toNat = engine.ids.counter.toNat + 1 := by
      change (engine.ids.counter + 1).toNat = _
      rw [UInt64.toNat_add]
      omega
    rw [once, next]
    omega
  · rw [commit, drawn]
    omega

theorem Engine.step_counter {engine : Engine} {operation : Operation} (room : engine.HasIdentities operation) :
    engine.ids.counter.toNat ≤ (engine.step operation).1.ids.counter.toNat := by
  rcases engine.step_generator operation with same | ⟨durable, rfl, accepted⟩ | ⟨call, calls⟩
  · rw [same]
  · rw [importState_generator accepted]
    exact UInt64.le_iff_toNat_le.mp (engine.ids.le_observe _).1
  · exact (calls.counter (room calls.schedules)).1.le

theorem Engine.Issues.above {engine : Engine} {operation : Operation} {kind : IdKind} {id : StrongId kind}
    (issues : engine.Issues operation kind id) (room : engine.HasIdentities operation) :
    engine.ids.counter.toNat < id.value.toNat := by
  have schedules : operation.schedules := by
    cases issues with
    | decision calls => exact calls.schedules
    | placement calls _ => exact calls.schedules
    | reservation calls _ => exact calls.schedules
    | lease calls _ => exact calls.schedules
  obtain ⟨decision, placement, reservation, lease, -⟩ := IdGenerator.commitIds_toNat (room schedules)
  cases issues with
  | decision calls =>
    change _ < engine.ids.commitIds.1.decision.value.toNat
    omega
  | placement calls _ => omega
  | reservation calls _ => omega
  | lease calls _ => omega

theorem Engine.runs_counter {engine : Engine} {operations : List Operation} {value : Nat}
    (guarded : Guarded Engine.step Engine.HasIdentities engine operations) (above : value ≤ engine.ids.counter.toNat) :
    value ≤ (engine.runs operations).ids.counter.toNat := by
  let holds (engine : Engine) : Prop := value ≤ engine.ids.counter.toNat
  have each (engine : Engine) (operation : Operation) (sofar : holds engine) (room : engine.HasIdentities operation) :
      holds (engine.step operation).1 := le_trans sofar (Engine.step_counter room)
  exact run_invariant each guarded above

theorem Engine.hasIdentities_of_few {engine : Engine} {operations : List Operation} (occupied : Occupied engine.state)
    (room : engine.ids.counter.toNat + 4 * operations.length < 2 ^ 64) :
    Guarded Engine.step Engine.HasIdentities engine operations := by
  induction operations generalizing engine with
  | nil => trivial
  | cons operation rest ih =>
    rw [List.length_cons] at room
    have here : engine.HasIdentities operation := fun _ => by omega
    have slow : (engine.step operation).1.ids.counter.toNat ≤ engine.ids.counter.toNat + 4 := by
      rcases engine.step_generator operation with same | ⟨durable, rfl, accepted⟩ | ⟨call, calls⟩
      · rw [same]
        omega
      · exact absurd accepted (occupied.refuses durable)
      · exact (calls.counter (by omega)).2
    exact ⟨here, ih (occupied.step operation) (by omega)⟩

/-- The counter is above every identity of the history that the engine may issue again. -/
theorem recovery_counter {engine : Engine} {durable : DurableState}
    (accepted : importChecks engine.state durable = .ok ())
    (leaves : durable.LeavesIdentities engine.state.workers.keys) {kind : IdKind} {id : StrongId kind}
    (member : id ∈ durable.identities kind) :
    id.value.toNat ≤ (engine.step (.importState durable)).1.ids.counter.toNat := by
  have tops := rebuildState_tops engine.state durable
  have last : (0xffffffffffffffff : UInt64).toNat = 2 ^ 64 - 1 := rfl
  have one : (1 : UInt64).toNat = 1 := rfl
  have below := (rebuildState engine.state durable).floor.value.toNat_lt
  have short : (rebuildState engine.state durable).floor.value.toNat ≠ 2 ^ 64 - 1 := fun full =>
    leaves.observed _ tops.member (UInt64.toNat_inj.mp (full.trans last.symm))
  rw [importState_generator accepted]
  have raised := UInt64.le_iff_toNat_le.mp
    (engine.ids.le_observe ((rebuildState engine.state durable).floor.value + 1)).2
  rw [UInt64.toNat_add, one, Nat.mod_eq_of_lt (by omega)] at raised
  rcases durable.identity_observed engine.state.workers.keys member with seen | ⟨stored, listed, same⟩
  · have within := UInt64.le_iff_toNat_le.mp (tops.above _ seen)
    omega
  · obtain ⟨value, seen, close⟩ := leaves.current stored listed
    have within := UInt64.le_iff_toNat_le.mp (tops.above _ seen)
    rw [same]
    omega

/-- Neither the epoch nor the floor is kept from wrapping by `import_state`, and the placement that a request
    names is not observed. -/
theorem recovery_issues_unused {engine : Engine} {durable : DurableState}
    (accepted : importChecks engine.state durable = .ok ()) :
    let recovered := (engine.step (.importState durable)).1
    (recovered.state.epoch.isNull = false ∧ durable.epoch < recovered.state.epoch ↔
        durable.epoch.value ≠ 0xffffffffffffffff) ∧
      (durable.LeavesIdentities engine.state.workers.keys → ∀ operations operation,
        Guarded Engine.step Engine.HasIdentities recovered operations →
        (recovered.runs operations).HasIdentities operation →
        ∀ kind id, (recovered.runs operations).Issues operation kind id →
          id.isNull = false ∧ id ∉ durable.identities kind) := by
  intro recovered
  constructor
  · have epoch : recovered.state.epoch = durable.epoch.bump := by
      obtain ⟨kind, detail, ids, restored⟩ := engine.step_import accepted
      have state : recovered = _ := restored
      rw [state]
      exact rebuildState_epoch ..
    rw [epoch]
    exact durable.epoch.bump_advances
  · intro leaves operations operation guarded room kind id issues
    have above := issues.above room
    constructor
    · refine Bool.eq_false_iff.mpr fun null => ?_
      rw [StrongId.isNull_iff.mp null] at above
      exact Nat.not_lt_zero _ above
    · intro member
      have reached := Engine.runs_counter guarded (recovery_counter accepted leaves member)
      omega

theorem recovery_issues_unused_bench :
    let recovered := ((Engine.fresh {}).step (.importState (Bench.durable [Bench.completed 11 9]))).1
    let placement := recovered.ids.commitIds.1.placement
    placement.isNull = false ∧ placement ∉ (Bench.durable [Bench.completed 11 9]).identities .placement := by
  have below : ((Bench.durable [Bench.completed 11 9]).observed (Engine.fresh {}).state.workers.keys).all
      (fun value => value != 0xffffffffffffffff) = true := by decide
  have leaves : (Bench.durable [Bench.completed 11 9]).LeavesIdentities (Engine.fresh {}).state.workers.keys := by
    refine ⟨fun value member => by simpa using List.all_eq_true.mp below value member, fun stored listed => ?_⟩
    obtain rfl := List.mem_singleton.mp listed
    exact ⟨0, by decide, by decide⟩
  exact (@recovery_issues_unused (Engine.fresh {}) (Bench.durable [Bench.completed 11 9]) (by decide)).2 leaves []
    (.submitRequest (Bench.request 6 2)) trivial (by decide) .placement _ (.placement (.submit (by decide)) (by decide))

/-- The last lease identity there is, and reservation 4. -/
def Bench.saturated : DurableState :=
  { Bench.durable [Bench.completed 11 4] with
    reservations :=
      [{ id := ⟨4⟩, lease := ⟨0xffffffffffffffff⟩, placement := ⟨11⟩, state := .released
         claims := [{ resource := ⟨7⟩, slots := 1 }] }] }

/-- The floor wraps to zero, the generator stays at its seed, and the first commit draws reservation 4 again. -/
theorem saturated_reservation_issued :
    let recovered := ((Engine.fresh {}).step (.importState Bench.saturated)).1
    importChecks (Engine.fresh {}).state Bench.saturated = .ok () ∧
      ∃ id, recovered.Issues (.submitRequest (Bench.request 6 2)) .reservation id ∧
        id ∈ Bench.saturated.identities .reservation := by
  intro recovered
  refine ⟨by decide, recovered.ids.commitIds.1.reservation, ?_, by decide⟩
  exact .reservation (.submit (by decide)) (by decide)

end LabScheduler
