import LabScheduler.Cluster.Overtaking
import LabScheduler.Engine.Refused

namespace LabScheduler

open Foundation

/-- What `export_state` returns, apart from the counter of the generator. -/
def Engine.recorded (engine : Engine) : DurableState := { engine.exported with idCounter := 0 }

theorem Engine.recorded_eq {engine after : Engine} (config : after.config = engine.config) :
    after.recorded = engine.recorded ↔ SameRecords engine.state after.state := by
  constructor
  · intro same
    constructor
    · exact congrArg DurableState.epoch same
    · exact Table.ext_entries (congrArg DurableState.resources same)
    · exact Table.ext_entries (congrArg DurableState.requests same)
    · exact Table.ext_entries (congrArg DurableState.placements same)
    · exact Table.ext_entries (congrArg DurableState.reservations same)
  · intro same
    obtain ⟨epoch, resources, requests, placements, reservations⟩ := same
    unfold recorded exported exportState
    rw [config, epoch, resources, requests, placements, reservations]

section Flags

variable {correlation : UInt64}

theorem resourceAnswer_mutated (resource : ResourceId) (result : Except Status ResourceRecord) :
    (resourceAnswer correlation resource result).mutated = result.isOk := by
  cases result <;> rfl

theorem decisionAnswer_mutated (workload : Text) (result : Except Status Decision) :
    (decisionAnswer correlation workload result).mutated = result.isOk := by
  cases result <;> rfl

theorem reassignmentAnswer_mutated (message : CancelPlacementMessage) (result : Except Status ReassignmentReport) :
    (reassignmentAnswer correlation message result).mutated = result.isOk := by
  cases result <;> rfl

end Flags

def Message.Slips (engine : Engine) (message : Message) : Prop :=
  ∃ operation, message.operation = some operation ∧ engine.Slips operation

/-- A branch that leaves the flag unset while the records change. -/
def Message.Unsaved (config : CoordinatorConfig) (engine : Engine) (correlation : UInt64) (message : Message) : Prop :=
  (message.handle config engine correlation).2.mutated = false ∧
    ¬ SameRecords engine.state (message.handle config engine correlation).1.state

section Branches

variable {config : CoordinatorConfig} {engine : Engine} {correlation : UInt64}

theorem Message.slips_iff {message : Message} {operation : Operation} (asks : message.operation = some operation) :
    message.Slips engine ↔ engine.Slips operation := by
  constructor
  · intro slips
    obtain ⟨other, same, slips⟩ := slips
    cases asks.symm.trans same
    exact slips
  · exact fun slips => ⟨operation, asks, slips⟩

theorem Message.unsaved_direct {message : Message} (none : message.operation = none)
    (kept : (message.handle config engine correlation).1 = engine) :
    message.Unsaved config engine correlation ↔ message.Slips engine := by
  unfold Unsaved
  rw [kept]
  refine iff_of_false (fun both => both.2 (.refl _)) fun slips => ?_
  obtain ⟨operation, some, -⟩ := slips
  exact nomatch none.symm.trans some

/-- A branch of an operation that never slips: refused, it leaves the state as it was. -/
theorem Message.unsaved_refused {message : Message} {operation : Operation} (asks : message.operation = some operation)
    (never : ¬ engine.Slips operation)
    (refused : (message.handle config engine correlation).2.mutated = false →
      (message.handle config engine correlation).1.state = engine.state) :
    message.Unsaved config engine correlation ↔ message.Slips engine := by
  rw [slips_iff asks]
  refine iff_of_false (fun both => ?_) never
  obtain ⟨unflagged, changed⟩ := both
  rw [refused unflagged] at changed
  exact changed (.refl _)

theorem Message.unsaved_hello (message : HelloMessage) :
    (Message.hello message).Unsaved config engine correlation ↔ (Message.hello message).Slips engine := by
  rw [slips_iff rfl]
  have refused := @workerConnected_same engine.state engine.config message.worker message.boot
  constructor
  · intro both
    obtain ⟨accepted, displaces⟩ := refused.mp both.2
    exact .connected accepted displaces
  · intro slips
    cases slips with
    | connected accepted displaces => exact ⟨rfl, refused.mpr ⟨accepted, displaces⟩⟩

theorem Message.unsaved_register (advertisement : ResourceAdvertisement) :
    (Message.registerResource advertisement).Unsaved config engine correlation ↔
      (Message.registerResource advertisement).Slips engine := by
  rw [slips_iff rfl]
  have refused := @registerResource_refused engine.state engine.config advertisement
  rw [← @resourceAnswer_mutated correlation advertisement.id] at refused
  refine refused.trans ⟨fun all => .registered all.1 all.2.1 all.2.2, fun slips => ?_⟩
  cases slips with
  | registered accepted displaces invalid => exact ⟨accepted, displaces, invalid⟩

theorem Message.unsaved_publish (advertisement : ResourceAdvertisement) :
    (Message.publishState advertisement).Unsaved config engine correlation ↔
      (Message.publishState advertisement).Slips engine := by
  rw [slips_iff rfl]
  have refused := @publishResourceState_refused engine.state engine.config advertisement
  rw [← @resourceAnswer_mutated correlation advertisement.id] at refused
  refine refused.trans ⟨.published, fun slips => ?_⟩
  cases slips with
  | published slips => exact slips

theorem Message.unsaved_submit (request : ScheduleRequest) :
    (Message.scheduleRequest request).Unsaved config engine correlation ↔
      (Message.scheduleRequest request).Slips engine := by
  rw [slips_iff rfl]
  have refused := @submitRequest_refused engine request
  rw [← @decisionAnswer_mutated correlation request.workload] at refused
  refine refused.trans ⟨fun slips => ?_, fun slips => ?_⟩
  · obtain ⟨call, resources, calls, stuck⟩ := slips
    exact .submitted calls stuck
  · cases slips with
    | submitted calls stuck => exact ⟨_, _, calls, stuck⟩

theorem Message.unsaved_reassign (message : CancelPlacementMessage) :
    (Message.reassign message).Unsaved config engine correlation ↔ (Message.reassign message).Slips engine := by
  rw [slips_iff rfl]
  have refused := @reassignPlacement_refused engine message.placement message.generation message.epoch message.reason
  rw [← @reassignmentAnswer_mutated correlation message] at refused
  refine refused.trans ⟨fun slips => ?_, fun slips => ?_⟩
  · rcases slips with ⟨record, stops⟩ | ⟨record, call, resources, found, calls, stuck, changed⟩
    · exact .stopped stops
    · exact .reassigned found calls stuck changed
  · cases slips with
    | stopped stops => exact .inl ⟨_, stops⟩
    | reassigned found calls stuck changed => exact .inr ⟨_, _, _, found, calls, stuck, changed⟩

theorem Message.unsaved_preempt (message : CancelPlacementMessage) :
    (Message.preempt message).Unsaved config engine correlation ↔ (Message.preempt message).Slips engine := by
  rw [slips_iff rfl]
  have refused := @preemptPlacement_refused engine message.placement message.generation message.epoch message.reason
  rw [← @reassignmentAnswer_mutated correlation message] at refused
  refine refused.trans ⟨fun slips => ?_, fun slips => ?_⟩
  · obtain ⟨call, resources, calls, stuck⟩ := slips
    exact .preempted calls stuck
  · cases slips with
    | preempted calls stuck => exact ⟨_, _, calls, stuck⟩

theorem placementAnswer_refused {message : AuthorityMessage} {result : Except Status PlacementRecord}
    (unflagged : (placementAnswer correlation message result).mutated = false) : ∃ status, result = .error status := by
  cases result with
  | error status => exact ⟨status, rfl⟩
  | ok record => cases unflagged

end Branches

theorem Message.unsaved_iff (config : CoordinatorConfig) (engine : Engine) (correlation : UInt64)
    (message : Message) : message.Unsaved config engine correlation ↔ message.Slips engine := by
  cases message with
  | hello message => exact unsaved_hello message
  | registerResource advertisement => exact unsaved_register advertisement
  | publishState advertisement => exact unsaved_publish advertisement
  | scheduleRequest request => exact unsaved_submit request
  | reassign message => exact unsaved_reassign message
  | preempt message => exact unsaved_preempt message
  | retireResource message =>
    refine unsaved_refused rfl nofun fun unflagged => ?_
    exact retireResource_refused message.resource message.generation
      ((resourceAnswer_mutated message.resource _).symm.trans unflagged)
  | assignAck message =>
    refine unsaved_refused rfl nofun fun unflagged => ?_
    obtain ⟨status, failed⟩ := placementAnswer_refused unflagged
    exact markAssigned_refused failed
  | running message =>
    refine unsaved_refused rfl nofun fun unflagged => ?_
    obtain ⟨status, failed⟩ := placementAnswer_refused unflagged
    exact markRunning_refused failed
  | completion claim =>
    exact unsaved_refused rfl nofun fun unflagged => reportCompletion_refused unflagged
  | cancelPlacement message =>
    exact unsaved_refused rfl nofun fun unflagged => cancelPlacement_refused (of_decide_eq_false unflagged)
  | cancelRequest message =>
    refine unsaved_refused rfl nofun fun unflagged => ?_
    exact cancelRequest_refused message.request message.reason (of_decide_eq_false unflagged)
  | disconnectWorker message =>
    refine unsaved_refused rfl nofun fun unflagged => ?_
    exact markWorkerLost_refused message.worker message.boot message.detail (of_decide_eq_false unflagged)
  | inspect | saveState | shutdown | refused | other => exact unsaved_direct rfl rfl

/-- Handling a frame that changes the records is followed by a save of them, unless the operation it asks for
    slips. -/
theorem frame_saved_iff (server : CoordinatorServer) (persists : server.persists = true) (connection : Nat)
    (frame : FrameView)
    (ready : (server.connections connection).serving ∧ (server.connections connection).todo.isEmpty) :
    ((server.receive connection frame).1.engine.recorded ≠ server.engine.recorded →
        .save server.config.statePath ∈ ((server.receive connection frame).1.connections connection).todo) ↔
      ¬ frame.message.Slips server.engine := by
  obtain ⟨engine, handled⟩ : ∃ engine, engine =
    (frame.message.handle server.config server.engine frame.correlation).1 := ⟨_, rfl⟩
  obtain ⟨answer, answered⟩ : ∃ answer, answer =
    (frame.message.handle server.config server.engine frame.correlation).2 := ⟨_, rfl⟩
  have left : (server.receive connection frame).1.engine = engine := by
    simp only [CoordinatorServer.receive, if_pos ready, handled]
  have todo : ((server.receive connection frame).1.connections connection).todo =
      answer.actions ++ if answer.mutated then [.save server.config.statePath] else [] := by
    simp only [CoordinatorServer.receive, if_pos ready, CoordinatorServer.update, Function.update_self,
      Connection.hears_todo, persists, Bool.and_true, answered]
  have config : engine.config = server.engine.config := by
    rw [handled, Message.handle_engine]
    exact Engine.runs_config ..
  have unsaved := frame.message.unsaved_iff server.config server.engine frame.correlation
  rw [Message.Unsaved, ← handled, ← answered] at unsaved
  rw [left, todo, ne_eq, Engine.recorded_eq config, ← unsaved]
  constructor
  · intro saved slips
    obtain ⟨unflagged, changed⟩ := slips
    have member := saved changed
    rw [unflagged, if_neg Bool.false_ne_true, List.append_nil] at member
    cases asks : frame.message.operation with
    | none =>
      have kept := (@Message.handle_direct server.config server.engine frame.correlation frame.message asks).1
      rw [handled, kept] at changed
      exact changed (.refl _)
    | some operation =>
      rw [answered] at member
      exact Message.handle_unsaved asks member
  · intro kept changed
    have flagged : answer.mutated = true := by
      apply Bool.eq_true_of_not_eq_false
      exact fun unflagged => kept ⟨unflagged, changed⟩
    rw [flagged, if_pos rfl]
    exact List.mem_append_right _ List.mem_cons_self

theorem frame_saved_bench :
    .save (ascii "state") ∈ (((Bench.coordinator.runs [.accept]).receive 1 (Bench.registration 7)).1.connections 1).todo := by
  have changed : ((Bench.coordinator.runs [.accept]).receive 1 (Bench.registration 7)).1.engine.recorded ≠
      (Bench.coordinator.runs [.accept]).engine.recorded := by
    intro same
    have registered : (((Bench.coordinator.runs [.accept]).receive 1 (Bench.registration 7)).1.engine.recorded.resources.map
        (·.id)) ≠ (Bench.coordinator.runs [.accept]).engine.recorded.resources.map (·.id) := by decide +kernel
    exact registered (congrArg (fun durable => durable.resources.map (·.id)) same)
  refine (frame_saved_iff (Bench.coordinator.runs [.accept]) rfl 1 (Bench.registration 7) ⟨rfl, rfl⟩).mpr ?_ changed
  intro slips
  obtain ⟨operation, asks, slips⟩ := slips
  cases asks
  cases slips with
  | registered accepted displaces invalid => exact nomatch displaces.1

/-- A connection registers a resource of worker 21 under its first boot, and saves. -/
def Bench.served : List Turn :=
  [.accept, .receive 1 { correlation := 1, message := .registerResource (Bench.owned 1) }, .act 1, .act 1, .act 1]

def Bench.rebooted : FrameView := { correlation := 2, message := .hello { worker := ⟨21⟩, boot := ⟨2⟩ } }

def Bench.answers : Action → Bool
  | .save _ => false
  | _ => true

/-- A hello takes the resource from the first boot, and no save follows. -/
theorem hello_unsaved :
    (Bench.coordinator.runs Bench.served).persists = true ∧
      (((Bench.coordinator.runs Bench.served).connections 1).serving ∧
        ((Bench.coordinator.runs Bench.served).connections 1).todo.isEmpty) ∧
      ((Bench.coordinator.runs Bench.served).receive 1 Bench.rebooted).1.engine.recorded ≠
        (Bench.coordinator.runs Bench.served).engine.recorded ∧
      .save (ascii "state") ∉
        (((Bench.coordinator.runs Bench.served).receive 1 Bench.rebooted).1.connections 1).todo := by
  refine ⟨by decide +kernel, by decide +kernel, ?_, ?_⟩
  · intro same
    have lost : ((Bench.coordinator.runs Bench.served).receive 1 Bench.rebooted).1.engine.recorded.resources.map
        (·.generation) ≠ (Bench.coordinator.runs Bench.served).engine.recorded.resources.map (·.generation) := by
      decide +kernel
    exact lost (congrArg (fun durable => durable.resources.map (·.generation)) same)
  · intro member
    have replies : (((Bench.coordinator.runs Bench.served).receive 1 Bench.rebooted).1.connections 1).todo.all
        Bench.answers = true := by decide +kernel
    cases List.all_eq_true.mp replies _ member

end LabScheduler
