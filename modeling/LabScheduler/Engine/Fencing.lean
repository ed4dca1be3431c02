import LabScheduler.Engine.Frames
import LabScheduler.Engine.Passes

namespace LabScheduler

open Foundation

def SameEpoch (state after : SchedulerState) : Prop := after.epoch = state.epoch

theorem sameEpoch_wideFrame : WideFrame SameEpoch where
  refl _ := rfl
  trans first second := second.trans first
  audit _ _ _ _ := rfl
  ended _ _ _ _ _ := rfl
  marked _ _ _ _ _ _ := rfl
  completed _ _ _ _ _ _ := rfl
  requests _ _ _ := rfl
  scheduled call config ids := by
    have result : ScheduleResult call.state config ids call.stored call.generation call.reassignments
      (call.scheduled config ids) := scheduleLocked_result
    generalize call.scheduled config ids = scheduled at result
    cases result with
    | noPlacement => rfl
    | refused => rfl
    | broken => rfl
    | placed _ _ _ _ _ _ _ _ _ _ _ epoch_after => exact epoch_after
  records _ _ _ _ := rfl
  shutdown _ := rfl

def Operation.carries : Operation → Option CoordinatorEpoch
  | .markAssigned _ _ epoch _ | .markRunning _ _ epoch _ | .reassignPlacement _ _ epoch _
  | .preemptPlacement _ _ epoch _ | .cancelPlacement _ _ epoch _ => some epoch
  | .reportCompletion claim => some claim.epoch
  | _ => none

theorem checkEpoch_ok {state : SchedulerState} {epoch : CoordinatorEpoch} (accepted : checkEpoch state epoch = .ok ()) :
    epoch = state.epoch := by
  simp only [checkEpoch, check_bind_ok, check_ok] at accepted
  exact accepted.2

section Checks

variable {state : SchedulerState} {placement : PlacementId} {generation : PlacementGeneration}
  {epoch : CoordinatorEpoch} {record : PlacementRecord}

theorem markChecks_epoch {boot : WorkerBootId} (accepted : markChecks state placement generation epoch boot = .ok record) :
    epoch = state.epoch := by
  simp only [markChecks, check_bind_ok] at accepted
  exact checkEpoch_ok accepted.2.2.1

theorem assignChecks_epoch {boot : WorkerBootId}
    (accepted : assignChecks state placement generation epoch boot = .ok record) : epoch = state.epoch := by
  obtain ⟨_, checked, -⟩ := except_bind_ok.mp accepted
  exact markChecks_epoch checked

theorem replaceChecks_epoch {word : Text} (accepted : replaceChecks state placement generation epoch word = .ok record) :
    epoch = state.epoch := by
  simp only [replaceChecks, check_bind_ok] at accepted
  exact checkEpoch_ok accepted.2.1

theorem reassignChecks_epoch (accepted : reassignChecks state placement generation epoch = .ok record) :
    epoch = state.epoch := by
  obtain ⟨_, checked, -⟩ := except_bind_ok.mp accepted
  exact replaceChecks_epoch checked

theorem preemptChecks_epoch (accepted : preemptChecks state placement generation epoch = .ok record) :
    epoch = state.epoch := by
  obtain ⟨_, checked, -⟩ := except_bind_ok.mp accepted
  exact replaceChecks_epoch checked

theorem completionChecks_epoch {claim : CompletionClaim} (accepted : completionChecks state claim record = .ok ()) :
    claim.epoch = state.epoch := by
  simp only [completionChecks, check_bind_ok] at accepted
  exact checkEpoch_ok accepted.1

end Checks

/-- An operation that carries another epoch than the current one changes nothing. -/
theorem Engine.step_fenced {engine : Engine} {operation : Operation} {epoch : CoordinatorEpoch}
    (carries : operation.carries = some epoch) (stale : epoch ≠ engine.state.epoch) :
    (engine.step operation).1 = engine := by
  cases operation with
  | markAssigned placement generation carried boot =>
    cases carries
    have same : (markAssigned engine.state engine.config placement generation epoch boot).1 = engine.state := by
      unfold LabScheduler.markAssigned
      split
      · rfl
      · rename_i accepted
        exact absurd (assignChecks_epoch accepted) stale
    exact congrArg (fun state => { engine with state := state }) same
  | markRunning placement generation carried boot =>
    cases carries
    have same : (markRunning engine.state engine.config placement generation epoch boot).1 = engine.state := by
      unfold LabScheduler.markRunning
      split
      · rfl
      · rename_i accepted
        exact absurd (markChecks_epoch accepted) stale
    exact congrArg (fun state => { engine with state := state }) same
  | reportCompletion claim =>
    cases carries
    have same : (reportCompletion engine.state engine.config claim).1 = engine.state := by
      unfold LabScheduler.reportCompletion
      split
      · rfl
      · split
        · rfl
        · split
          · rfl
          · rename_i accepted
            exact absurd (completionChecks_epoch accepted) stale
    exact congrArg (fun state => { engine with state := state }) same
  | cancelPlacement placement generation carried reason =>
    cases carries
    have same : (cancelPlacement engine.state engine.config placement generation epoch reason).1 = engine.state := by
      unfold LabScheduler.cancelPlacement
      split
      · rfl
      · split
        · rfl
        · rename_i accepted
          exact absurd (checkEpoch_ok accepted) stale
    exact congrArg (fun state => { engine with state := state }) same
  | reassignPlacement placement generation carried reason =>
    cases carries
    have same : ∃ result, reassignPlacement engine.state engine.config engine.ids placement generation epoch reason =
        ⟨engine.state, engine.ids, result⟩ := by
      unfold LabScheduler.reassignPlacement
      split
      · exact ⟨_, rfl⟩
      · rename_i accepted
        exact absurd (reassignChecks_epoch accepted) stale
    obtain ⟨result, same⟩ := same
    exact congrArg (fun outcome => { engine with state := outcome.state, ids := outcome.ids }) same
  | preemptPlacement placement generation carried reason =>
    cases carries
    have same : ∃ result, preemptPlacement engine.state engine.config engine.ids placement generation epoch reason =
        ⟨engine.state, engine.ids, result⟩ := by
      unfold LabScheduler.preemptPlacement
      split
      · exact ⟨_, rfl⟩
      · rename_i accepted
        exact absurd (preemptChecks_epoch accepted) stale
    obtain ⟨result, same⟩ := same
    exact congrArg (fun outcome => { engine with state := outcome.state, ids := outcome.ids }) same
  | _ => cases carries

def Occupied (state : SchedulerState) : Prop :=
  state.resources.entries ≠ [] ∨ state.requests.entries ≠ [] ∨ state.placements.entries ≠ [] ∨
    state.reservations.entries ≠ []

namespace Occupied

variable {state after : SchedulerState}

theorem of_request {stored : StoredRequest} (found : state.requests.find? stored.id = some stored) : Occupied state :=
  .inr (.inl (List.ne_nil_of_mem (Table.mem_of_find? found)))

theorem refuses (occupied : Occupied state) (durable : DurableState) : importChecks state durable ≠ .ok () := by
  intro accepted
  obtain ⟨-, resources, requests, placements, reservations⟩ := importChecks_ok accepted
  rcases occupied with some | some | some | some
  · exact absurd resources some
  · exact absurd requests some
  · exact absurd placements some
  · exact absurd reservations some

theorem change (change : Change state after) (occupied : Occupied state) : Occupied after := by
  rcases occupied with some | some | some | some
  · exact .inl (change.resources.toExtends.nonempty some)
  · exact .inr (.inl (change.requests.toExtends.nonempty some))
  · exact .inr (.inr (.inl (change.placements.toExtends.nonempty some)))
  · exact .inr (.inr (.inr (change.reservations.toExtends.nonempty some)))

theorem write (write : RequestWrite state after) : Occupied after := by
  cases write with
  | @enroll stored limits absent valid =>
    have here : (state.requests.emplace stored).find? stored.id = some stored := by
      rw [Table.find?_emplace, absent]
      exact if_pos rfl
    exact .of_request here
  | @rewrite stored rewritten found same =>
    have here : (state.requests.set rewritten).find? rewritten.id = some rewritten := Table.find?_set_self ..
    exact .of_request here

theorem scheduled {call : SchedulingCall} (config : EngineConfig) (ids : IdGenerator) (occupied : Occupied call.state) :
    Occupied (call.scheduled config ids).state := by
  obtain ⟨placements, reservations⟩ := call.extends_tables config ids
  rcases occupied with some | some | some | some
  · exact .inl ((call.rebooks config ids).toExtends.nonempty some)
  · have result : ScheduleResult call.state config ids call.stored call.generation call.reassignments
      (call.scheduled config ids) := scheduleLocked_result
    generalize call.scheduled config ids = scheduled at result
    have written (stored : StoredRequest) : (call.state.requests.set stored).entries ≠ [] :=
      List.ne_nil_of_mem (Table.mem_of_find? (Table.find?_set_self call.state.requests stored))
    cases result with
    | noPlacement => exact .inr (.inl (written _))
    | refused => exact .inr (.inl some)
    | broken => exact .inr (.inl some)
    | placed chosen loop committed decided room resources_after requests_after =>
      right
      left
      rw [requests_after]
      exact written _
  · exact .inr (.inr (.inl (placements.nonempty some)))
  · exact .inr (.inr (.inr (reservations.nonempty some)))

theorem step {engine : Engine} (operation : Operation) (occupied : Occupied engine.state) :
    Occupied (engine.step operation).1.state := by
  refine Engine.step_preserves Occupied.change (fun write _ => Occupied.write write) ?_ ?_ ?_ ?_ occupied
  · intro advertisement mid record _ registers _
    have here : (mid.resources.emplace record).find? record.id = some record := by
      rw [Table.find?_emplace, registers.absent]
      exact if_pos rfl
    exact .inl (List.ne_nil_of_mem (Table.mem_of_find? here))
  · intro advertisement mid live _ publishes _
    have here := Table.find?_set_self mid.resources (publishedRecord mid.epoch (normalizeAdvertisement advertisement) live)
    exact .inl (List.ne_nil_of_mem (Table.mem_of_find? here))
  · intro call calls occupied
    exact occupied.scheduled ..
  · intro durable _ accepted
    exact absurd accepted (occupied.refuses durable)

end Occupied

/-- Nothing that carries the epoch, or an earlier one, changes the engine in any later run. -/
def Engine.Fences (engine : Engine) (epoch : CoordinatorEpoch) : Prop :=
  ∀ operations operation carried, operation.carries = some carried → carried ≤ epoch →
    ((engine.runs operations).step operation).1 = engine.runs operations

/-- Once the tables are occupied no recovery is accepted, and the epoch only rises. -/
theorem Engine.step_raises {engine : Engine} (operation : Operation) (occupied : Occupied engine.state) :
    engine.state.epoch ≤ (engine.step operation).1.state.epoch := by
  by_cases leaves : leavesEpoch operation
  · have same : SameEpoch engine.state (engine.step operation).1.state := step_wideFrame sameEpoch_wideFrame leaves
    exact same.ge
  · cases operation with
    | adoptEpoch epoch =>
      change engine.state.epoch ≤ (adoptEpoch engine.state engine.config epoch).1.epoch
      unfold LabScheduler.adoptEpoch
      split
      · exact le_refl _
      · rename_i accepted
        simp only [adoptEpochChecks, check_bind_ok, check_ok] at accepted
        exact accepted.2.le
    | importState durable =>
      change engine.state.epoch ≤ (importState engine.state engine.config engine.ids durable).1.epoch
      unfold LabScheduler.importState
      split
      · exact le_refl _
      · rename_i accepted
        exact absurd accepted (occupied.refuses durable)
    | _ => exact absurd rfl leaves

theorem Occupied.fences {engine : Engine} {epoch : CoordinatorEpoch} (occupied : Occupied engine.state)
    (advanced : epoch < engine.state.epoch) : engine.Fences epoch := by
  let holds (state : SchedulerState) : Prop := Occupied state ∧ epoch < state.epoch
  intro operations operation carried carries stale
  have each (engine : Engine) (operation : Operation) (sofar : holds engine.state) :
      holds (engine.step operation).1.state :=
    ⟨sofar.1.step operation, lt_of_lt_of_le sofar.2 (Engine.step_raises operation sofar.1)⟩
  have initial : holds engine.state := ⟨occupied, advanced⟩
  have kept : holds (engine.runs operations).state := Engine.runs_always each initial
  exact Engine.step_fenced carries (lt_of_le_of_lt stale kept.2).ne

theorem Engine.Calls.draws {engine : Engine} {operation : Operation} {call : SchedulingCall}
    (calls : engine.Calls operation call) :
    (engine.step operation).1.ids = engine.ids.nextValue ∨ (engine.step operation).1.ids = engine.ids.commitIds.2 := by
  rw [calls.step_ids]
  have result : ScheduleResult call.state engine.config engine.ids call.stored call.generation call.reassignments
    (call.scheduled engine.config engine.ids) := scheduleLocked_result
  generalize call.scheduled engine.config engine.ids = scheduled at result
  cases result with
  | noPlacement => exact .inl rfl
  | refused => exact .inl rfl
  | broken => exact .inr rfl
  | placed => exact .inr rfl

theorem Engine.Calls.step_ne {engine : Engine} {operation : Operation} {call : SchedulingCall}
    (calls : engine.Calls operation call) : (engine.step operation).1 ≠ engine := by
  intro same
  have bound := engine.ids.counter.toNat_lt
  have one : (1 : UInt64).toNat = 1 := rfl
  rcases calls.draws with once | commit
  · rw [same] at once
    have counter : engine.ids.counter = engine.ids.counter + 1 := congrArg IdGenerator.counter once
    have numbers := congrArg UInt64.toNat counter
    rw [UInt64.toNat_add] at numbers
    omega
  · rw [same] at commit
    have counter : engine.ids.counter = engine.ids.counter + 1 + 1 + 1 + 1 := congrArg IdGenerator.counter commit
    have numbers := congrArg UInt64.toNat counter
    simp only [UInt64.toNat_add] at numbers
    omega

def DurableState.Occupied (durable : DurableState) : Prop :=
  durable.resources ≠ [] ∨ durable.requests ≠ [] ∨ durable.placements ≠ [] ∨ durable.reservations ≠ []

/-- What a recovery restores: the history, and none of the authority. -/
structure Restores (durable : DurableState) (state : SchedulerState) : Prop where
  epoch : state.epoch.value.toNat = durable.epoch.value.toNat + 1
  live : ∀ placement ∈ state.placements.entries, placementStateIsLive placement.state = false
  active : ∀ reservation ∈ state.reservations.entries, reservation.state ≠ .active
  reserved : ∀ resource ∈ state.resources.entries, resource.reservedSlots = 0
  authority : ∀ resource ∈ state.resources.entries, resource.worker.isNull = false →
    resource.dynamicAuthoritative = false
  resources : ∀ id, id ∈ state.resources.keys ↔ id ∈ durable.resources.map fun resource => resource.id
  requests : ∀ id, id ∈ state.requests.keys ↔ id ∈ durable.requests.map StoredRequest.id
  placements : ∀ id, id ∈ state.placements.keys ↔ id ∈ durable.placements.map PlacementRecord.id
  reservations : ∀ id, id ∈ state.reservations.keys ↔ id ∈ durable.reservations.map ReservationRecord.id
  submitted : ∀ persisted ∈ durable.requests, ∃ stored, state.requests.find? persisted.id = some stored ∧
    stored.request = persisted.request
  ended : ∀ persisted ∈ durable.placements, placementStateIsLive persisted.state = false →
    state.placements.find? persisted.id = some persisted
  closed : ∀ persisted ∈ durable.reservations, persisted.state ≠ .active →
    state.reservations.find? persisted.id = some persisted

theorem Restores.pushAudit {durable : DurableState} {state : SchedulerState} (restores : Restores durable state)
    (config : EngineConfig) (kind detail : Text) : Restores durable (pushAudit state config kind detail) := by
  cases restores
  constructor <;> assumption

theorem entries_ne_nil_iff {κ α β : Type} [LinearOrder κ] {key : α → κ} {table : Table key} {identity : β → κ}
    {items : List β} (same : ∀ k, k ∈ table.keys ↔ k ∈ items.map identity) : table.entries ≠ [] ↔ items ≠ [] := by
  have members : table.entries.map key ≠ [] ↔ items.map identity ≠ [] := by
    rw [← List.length_pos_iff, List.length_pos_iff_exists_mem, ← List.length_pos_iff, List.length_pos_iff_exists_mem]
    exact exists_congr same
  simpa using members

theorem Restores.occupied {durable : DurableState} {state : SchedulerState} (restores : Restores durable state) :
    Occupied state ↔ durable.Occupied :=
  or_congr (entries_ne_nil_iff restores.resources)
    (or_congr (entries_ne_nil_iff restores.requests)
      (or_congr (entries_ne_nil_iff restores.placements) (entries_ne_nil_iff restores.reservations)))

theorem mem_keys_rebuilt {κ α β : Type} [LinearOrder κ] {key : α → κ} {table : Table key} {identity : β → κ}
    {items : List β} (come : ∀ a ∈ table.entries, ∃ item ∈ items, key a = identity item)
    (present : ∀ item ∈ items, table.find? (identity item) ≠ none) (k : κ) :
    k ∈ table.keys ↔ k ∈ items.map identity := by
  constructor
  · intro member
    obtain ⟨a, there, rfl⟩ := List.mem_map.mp member
    obtain ⟨item, listed, same⟩ := come a there
    exact List.mem_map.mpr ⟨item, listed, same.symm⟩
  · intro member
    obtain ⟨item, listed, rfl⟩ := List.mem_map.mp member
    obtain ⟨a, found⟩ := Option.ne_none_iff_exists'.mp (present item listed)
    exact Table.mem_keys found

theorem rebuildState_restores {state : SchedulerState} {durable : DurableState}
    (accepted : importChecks state durable = .ok ()) (room : durable.epoch.value.toNat + 1 < 2 ^ 64) :
    Restores durable (rebuildState state durable).state := by
  have rebuilt := rebuildState_rebuilt accepted
  obtain ⟨valid, -⟩ := importChecks_ok accepted
  have distinctRequests := validateDurableState_requests valid
  have distinctPlacements := (validateDurableState_ok valid).2.2.2
  have distinctReservations := validateDurableState_reservations valid
  constructor
  case epoch =>
    rw [rebuildState_epoch]
    change (durable.epoch.value + 1).toNat = _
    rw [UInt64.toNat_add]
    have one : (1 : UInt64).toNat = 1 := rfl
    omega
  case live => exact fun placement member => rebuilt.not_live member
  case active => exact fun reservation member => rebuilt.not_active member
  case reserved => exact fun resource member => rebuilt.unreserved member
  case authority =>
    intro resource member owned
    obtain ⟨persisted, -, rfl⟩ := rebuilt.resources resource member
    rw [recoveredResource_worker] at owned
    simp only [recoveredResource, owned, Bool.false_eq_true, if_false]
  case resources =>
    refine mem_keys_rebuilt (fun resource member => ?_) fun persisted listed => rebuildState_resource state listed
    obtain ⟨persisted, listed, rfl⟩ := rebuilt.resources resource member
    exact ⟨persisted, listed, recoveredResource_id ..⟩
  case requests =>
    refine mem_keys_rebuilt (fun stored member => ?_) fun persisted listed => rebuildState_request state listed
    obtain ⟨persisted, listed, rfl⟩ := rebuilt.requests stored member
    exact ⟨persisted, listed, congrArg ScheduleRequest.id (recoveredRequest_request persisted)⟩
  case placements =>
    refine mem_keys_rebuilt (fun placement member => ?_) fun persisted listed => rebuildState_placement state listed
    obtain ⟨persisted, listed, terms⟩ := rebuilt.placement_terms member
    have same := congrArg PlacementRecord.id terms
    exact ⟨persisted, listed, same⟩
  case reservations =>
    refine mem_keys_rebuilt (fun reservation member => ?_) fun persisted listed => rebuildState_reservation state listed
    obtain ⟨persisted, listed, rfl⟩ := rebuilt.reservations reservation member
    exact ⟨persisted, listed, recoveredReservation_id persisted⟩
  case submitted =>
    intro persisted listed
    obtain ⟨stored, found⟩ := Option.ne_none_iff_exists'.mp (rebuildState_request state listed)
    obtain ⟨origin, there, rfl⟩ := rebuilt.requests stored (Table.mem_of_find? found)
    have named : (recoveredRequest origin).id = persisted.id := Table.key_of_find? found
    have same : origin.id = persisted.id :=
      (congrArg ScheduleRequest.id (recoveredRequest_request origin)).symm.trans named
    have equal := List.inj_on_of_nodup_map distinctRequests there listed same
    exact ⟨_, found, equal ▸ recoveredRequest_request origin⟩
  case ended => exact fun persisted listed closed => rebuildState_ended state accepted listed closed
  case closed =>
    intro persisted listed closed
    obtain ⟨reservation, found⟩ := Option.ne_none_iff_exists'.mp (rebuildState_reservation state listed)
    obtain ⟨origin, there, rfl⟩ := rebuilt.reservations reservation (Table.mem_of_find? found)
    have named : (recoveredReservation origin).id = persisted.id := Table.key_of_find? found
    have equal := List.inj_on_of_nodup_map distinctReservations there listed
      ((recoveredReservation_id origin).symm.trans named)
    rw [found, equal]
    exact congrArg some (if_neg closed)

theorem Engine.step_import {engine : Engine} {durable : DurableState}
    (accepted : importChecks engine.state durable = .ok ()) :
    ∃ kind detail ids, (engine.step (.importState durable)).1 =
      { engine with state := pushAudit (rebuildState engine.state durable).state engine.config kind detail, ids := ids } := by
  have result : ∃ kind detail ids report, importState engine.state engine.config engine.ids durable =
      (pushAudit (rebuildState engine.state durable).state engine.config kind detail, ids, .ok report) := by
    unfold LabScheduler.importState
    rw [accepted]
    exact ⟨_, _, _, _, rfl⟩
  obtain ⟨kind, detail, ids, report, result⟩ := result
  refine ⟨kind, detail, ids, ?_⟩
  change { engine with
    state := (importState engine.state engine.config engine.ids durable).1
    ids := (importState engine.state engine.config engine.ids durable).2.1 } = _
  rw [result]

theorem Engine.reassignment_calls {engine : Engine} {placement : PlacementRecord} {stored : StoredRequest}
    {epoch : CoordinatorEpoch} (found : engine.state.placements.find? placement.id = some placement)
    (closed : placement.state = .reassignmentRequired) (named : placement.id.validate = .ok ())
    (current : checkEpoch engine.state epoch = .ok ())
    (recorded : engine.state.requests.find? placement.request = some stored)
    (budget : placement.reassignmentCount < stored.request.maxReassignments) :
    ∃ call, engine.Calls (.reassignPlacement placement.id {} epoch []) call := by
  have checked : reassignChecks engine.state placement.id {} epoch = .ok placement := by
    have first : replaceChecks engine.state placement.id {} epoch (ascii "reassignment") = .ok placement := by
      simp only [replaceChecks, check_bind_ok, found]
      exact ⟨named, current, check_ok.mpr (.inl rfl), rfl⟩
    refine except_bind_ok.mpr ⟨placement, first, ?_⟩
    simp only [check_bind_ok, check_ok]
    exact ⟨.inr closed, rfl⟩
  have still : replaceTermination engine.state placement .reassignmentRequired []
      (ascii "reassigned by controller") = engine.state := by
    unfold replaceTermination terminatePlacement
    rw [closed]
    rfl
  have kept : (replaceTermination engine.state placement .reassignmentRequired []
      (ascii "reassigned by controller")).requests.find? placement.request = some stored := by
    rw [still]
    exact recorded
  exact ⟨_, .reassign checked kept budget⟩

theorem Engine.runs_pair (engine : Engine) (first second : Operation) :
    engine.runs [first, second] = ((engine.step first).1.step second).1 := rfl

/-- A history of one placement that is to be reassigned, under the last epoch there is. -/
def Bench.superseded : DurableState :=
  { Bench.durable [{ Bench.completed 11 9 with state := .reassignmentRequired }] with epoch := ⟨0xffffffffffffffff⟩ }

theorem superseded_placement {engine : Engine} (accepted : importChecks engine.state Bench.superseded = .ok ()) :
    ∃ placement, (rebuildState engine.state Bench.superseded).state.placements.find? ⟨11⟩ = some placement ∧
      placement.state = .reassignmentRequired ∧ placement.request = ⟨5⟩ ∧ placement.reassignmentCount = 0 := by
  have listed : { Bench.completed 11 9 with state := .reassignmentRequired } ∈ Bench.superseded.placements :=
    List.mem_singleton.mpr rfl
  obtain ⟨placement, found⟩ := Option.ne_none_iff_exists'.mp (rebuildState_placement engine.state listed)
  refine ⟨placement, found, ?_⟩
  obtain ⟨persisted, listed, shape⟩ := (rebuildState_rebuilt accepted).placements placement (Table.mem_of_find? found)
  cases List.mem_singleton.mp listed
  rcases shape with ⟨-, rfl⟩ | ⟨sequence, rfl⟩
  · exact ⟨rfl, rfl, rfl⟩
  · exact ⟨rfl, rfl, rfl⟩

theorem superseded_request {engine : Engine} (accepted : importChecks engine.state Bench.superseded = .ok ()) :
    ∃ stored, (rebuildState engine.state Bench.superseded).state.requests.find? ⟨5⟩ = some stored ∧
      stored.request.maxReassignments = (Bench.request 5 1).maxReassignments := by
  have submitted : { request := Bench.request 5 1, state := .completed } ∈ Bench.superseded.requests :=
    List.mem_singleton.mpr rfl
  obtain ⟨stored, recorded⟩ := Option.ne_none_iff_exists'.mp (rebuildState_request engine.state submitted)
  refine ⟨stored, recorded, ?_⟩
  obtain ⟨persisted, listed, rfl⟩ := (rebuildState_rebuilt accepted).requests stored (Table.mem_of_find? recorded)
  cases List.mem_singleton.mp listed
  rfl

theorem superseded_epoch (state : SchedulerState) : (rebuildState state Bench.superseded).state.epoch = ⟨0⟩ := by
  rw [rebuildState_epoch]
  rfl

theorem Engine.step_adopt {engine : Engine} {epoch : CoordinatorEpoch} (valid : epoch.validate = .ok ())
    (advances : engine.state.epoch < epoch) :
    (engine.step (.adoptEpoch epoch)).1.state.epoch = epoch ∧
      (engine.step (.adoptEpoch epoch)).1.state.placements = engine.state.placements ∧
      (engine.step (.adoptEpoch epoch)).1.state.requests = engine.state.requests := by
  have adopted : adoptEpochChecks engine.state epoch = .ok () := by
    simp only [adoptEpochChecks, check_bind_ok, check_ok]
    exact ⟨valid, advances⟩
  have state : (engine.step (.adoptEpoch epoch)).1.state = (adoptEpoch engine.state engine.config epoch).1 := rfl
  rw [state]
  unfold adoptEpoch
  rw [adopted]
  exact ⟨rfl, rfl, rfl⟩

theorem Engine.reassigned_anew {engine : Engine} {placement : PlacementRecord} {stored : StoredRequest}
    (zero : engine.state.epoch = ⟨0⟩) (found : engine.state.placements.find? placement.id = some placement)
    (closed : placement.state = .reassignmentRequired) (named : placement.id.validate = .ok ())
    (recorded : engine.state.requests.find? placement.request = some stored)
    (budget : placement.reassignmentCount < stored.request.maxReassignments) :
    ((engine.step (.adoptEpoch ⟨1⟩)).1.step (.reassignPlacement placement.id {} ⟨1⟩ [])).1 ≠
      (engine.step (.adoptEpoch ⟨1⟩)).1 := by
  have advances : engine.state.epoch < ⟨1⟩ := by
    rw [zero]
    decide
  have valid : (⟨1⟩ : CoordinatorEpoch).validate = .ok () := by decide
  obtain ⟨epoch, placements, requests⟩ := engine.step_adopt valid advances
  have current : checkEpoch (engine.step (.adoptEpoch ⟨1⟩)).1.state ⟨1⟩ = .ok () := by
    simp only [checkEpoch, check_bind_ok, check_ok, epoch]
    exact ⟨valid, trivial⟩
  have here : (engine.step (.adoptEpoch ⟨1⟩)).1.state.placements.find? placement.id = some placement := by
    rw [placements]
    exact found
  have there : (engine.step (.adoptEpoch ⟨1⟩)).1.state.requests.find? placement.request = some stored := by
    rw [requests]
    exact recorded
  obtain ⟨call, calls⟩ := Engine.reassignment_calls here closed named current there budget
  exact calls.step_ne

/-- After an import that left epoch 0 behind, a placement to be reassigned is reassigned under epoch 1. -/
theorem Engine.reimport_reassigns {engine : Engine} {durable : DurableState} {placement : PlacementRecord}
    {stored : StoredRequest} {recovery : SchedulerState} {kind detail : Text} {ids : IdGenerator}
    (restored : (engine.step (.importState durable)).1 =
      { engine with state := pushAudit recovery engine.config kind detail, ids := ids })
    (zero : recovery.epoch = ⟨0⟩) (found : recovery.placements.find? placement.id = some placement)
    (closed : placement.state = .reassignmentRequired) (named : placement.id = ⟨11⟩)
    (recorded : recovery.requests.find? placement.request = some stored)
    (budget : placement.reassignmentCount < stored.request.maxReassignments) :
    ∃ operations, ((engine.runs operations).step (.reassignPlacement ⟨11⟩ {} ⟨1⟩ [])).1 ≠ engine.runs operations := by
  have valid : placement.id.validate = .ok () := by
    rw [named]
    decide
  refine ⟨[.importState durable, .adoptEpoch ⟨1⟩], ?_⟩
  rw [← named, Engine.runs_pair, restored]
  exact Engine.reassigned_anew zero found closed valid recorded budget

theorem superseded_reassigns {engine : Engine} (accepted : importChecks engine.state Bench.superseded = .ok ()) :
    ∃ operations, ((engine.runs operations).step (.reassignPlacement ⟨11⟩ {} ⟨1⟩ [])).1 ≠ engine.runs operations := by
  obtain ⟨kind, detail, ids, restored⟩ := engine.step_import accepted
  obtain ⟨placement, found, closed, asked, count⟩ := superseded_placement accepted
  obtain ⟨stored, recorded, budget⟩ := superseded_request accepted
  have zero := superseded_epoch engine.state
  have named : placement.id = ⟨11⟩ := Table.key_of_find? found
  rw [← named] at found
  rw [← asked] at recorded
  have room : placement.reassignmentCount < stored.request.maxReassignments := by
    rw [count, budget]
    decide
  exact Engine.reimport_reassigns restored zero found closed named recorded room

theorem importChecks_of_vacant {state : SchedulerState} {durable : DurableState} (vacant : ¬ Occupied state)
    (valid : validateDurableState durable = .ok ()) : importChecks state durable = .ok () := by
  simp only [Occupied, not_or, not_not] at vacant
  simp [importChecks, Table.isEmpty, valid, vacant]

theorem validateDurableState_positive {durable : DurableState} (valid : validateDurableState durable = .ok ()) :
    (⟨1⟩ : CoordinatorEpoch) ≤ durable.epoch := by
  simp only [validateDurableState, check_bind_ok, check_ok] at valid
  have positive : durable.epoch.value ≠ 0 := valid.2.1
  change 1 ≤ durable.epoch.value
  have one : (1 : UInt64).toNat = 1 := rfl
  rw [UInt64.le_iff_toNat_le, one]
  exact Nat.pos_of_ne_zero fun zero => positive (UInt64.toNat_inj.mp zero)

/-- `import_state` sets the epoch without asking that it advances; only occupied tables keep a second
    recovery out. -/
theorem recovery_fences {engine : Engine} {durable : DurableState}
    (accepted : importChecks engine.state durable = .ok ()) (room : durable.epoch.value.toNat < 2 ^ 64 - 1) :
    let recovered := (engine.step (.importState durable)).1
    Restores durable recovered.state ∧ (recovered.Fences durable.epoch ↔ durable.Occupied) := by
  obtain ⟨kind, detail, ids, restored⟩ := engine.step_import accepted
  have space : durable.epoch.value.toNat + 1 < 2 ^ 64 := by omega
  have restores := (rebuildState_restores accepted space).pushAudit engine.config kind detail
  have advanced : durable.epoch < (pushAudit (rebuildState engine.state durable).state engine.config kind detail).epoch := by
    have next := restores.epoch
    change durable.epoch.value < _
    rw [UInt64.lt_iff_toNat_lt, next]
    omega
  rw [restored]
  generalize pushAudit (rebuildState engine.state durable).state engine.config kind detail = state at restores advanced
  refine ⟨restores, fun fences => ?_, fun occupied => (restores.occupied.mpr occupied).fences advanced⟩
  by_contra vacant
  -- Nothing was restored, so the tables still admit a recovery.
  have valid : validateDurableState Bench.superseded = .ok () := by decide
  have again : importChecks state Bench.superseded = .ok () :=
    importChecks_of_vacant (restores.occupied.not.mpr vacant) valid
  have positive := validateDurableState_positive (importChecks_ok accepted).1
  obtain ⟨operations, moved⟩ := @superseded_reassigns { engine with state := state, ids := ids } again
  exact moved (fences operations _ ⟨1⟩ rfl positive)

/-- The coordinator was killed while the bench was reserved. -/
def Bench.interrupted : DurableState :=
  let engine := (Engine.fresh {}).runs Bench.start
  exportState engine.state engine.config engine.ids

theorem recovery_fences_bench :
    let recovered := ((Engine.fresh {}).step (.importState Bench.interrupted)).1
    Bench.interrupted.reservations.map ReservationRecord.state = [.active] ∧
      recovered.state.reservations.entries.map ReservationRecord.state = [.revoked] ∧
      Restores Bench.interrupted recovered.state ∧ recovered.Fences ⟨1⟩ := by
  obtain ⟨restores, fences⟩ := @recovery_fences (Engine.fresh {}) Bench.interrupted (by decide) (by decide)
  exact ⟨by decide, by decide, restores, fences.mpr (.inl (by decide))⟩

/-- Histories without a record under epoch 5, and with the placement to be reassigned under epoch 1. -/
def Bench.emptied : DurableState := { epoch := ⟨5⟩ }

def Bench.outdated : DurableState := { Bench.superseded with epoch := ⟨1⟩ }

/-- The first recovery sets the epoch to 6 and leaves the tables empty, the second sets it back to 2. -/
theorem outdated_recovery_accepted :
    let recovered := ((Engine.fresh {}).step (.importState Bench.emptied)).1
    let lowered := recovered.runs [.importState Bench.outdated]
    importChecks (Engine.fresh {}).state Bench.emptied = .ok () ∧ recovered.state.epoch = ⟨6⟩ ∧
      lowered.state.epoch = ⟨2⟩ ∧ (⟨2⟩ : CoordinatorEpoch) ≤ Bench.emptied.epoch ∧
      (lowered.step (.reassignPlacement ⟨11⟩ {} ⟨2⟩ [])).1.ids.counter ≠ lowered.ids.counter := by
  decide

end LabScheduler
