import LabScheduler.Cluster.Incarnations
import LabScheduler.Cluster.Ownership
import LabScheduler.Engine.Sequences

namespace LabScheduler

open Foundation

def Engine.workload (engine : Engine) (request : ScheduleRequestId) : Option Text :=
  (engine.state.requests.find? request).map fun stored => stored.request.workload

section Backing

variable {engine : Engine} {operation : Operation} {decision : Decision}

theorem Engine.step_requests (present : ∀ durable, operation ≠ .importState durable) :
    Table.Extends StoredRequest.Keeps engine.state.requests (engine.step operation).1.state.requests := by
  let since (state : SchedulerState) : Prop :=
    Table.Extends StoredRequest.Keeps engine.state.requests state.requests
  have transitive {a b c : StoredRequest} (first : a.Keeps b) (second : b.Keeps c) : a.Keeps c := second.trans first
  have initial : since engine.state := .refl StoredRequest.Keeps.refl _
  suffices after : since (engine.step operation).1.state from after
  refine Engine.step_preserves ?_ ?_ (fun _ _ sofar => sofar) (fun _ _ sofar => sofar) ?_ ?_ initial
  case refine_1 =>
    intro state after change sofar
    exact sofar.trans transitive change.requests.toExtends
  case refine_2 =>
    intro state after write sofar
    cases write with
    | enroll => exact sofar.trans transitive (.emplace StoredRequest.Keeps.refl ..)
    | @rewrite stored rewritten found same =>
      have named : rewritten.id = stored.id := congrArg ScheduleRequest.id same
      have written := Table.Evolves.set StoredRequest.Keeps.refl (named ▸ found) same
      exact sofar.trans transitive written.toExtends
  case refine_3 =>
    intro call calls sofar
    have scheduled := call.resubmits engine.config engine.ids calls.recorded
    exact sofar.trans transitive (scheduled.toExtends.mono StoredRequest.Resubmits.request)
  case refine_4 =>
    intro durable is
    exact absurd is (present durable)

theorem Engine.step_workload {request : ScheduleRequestId} {workload : Text}
    (present : ∀ durable, operation ≠ .importState durable) (recorded : engine.workload request = some workload) :
    (engine.step operation).1.workload request = some workload := by
  obtain ⟨stored, found, demands⟩ := Option.map_eq_some_iff.mp recorded
  obtain ⟨later, there, same⟩ := (Engine.step_requests present).later found
  unfold Engine.workload
  rw [there, Option.map_some, same, demands]

theorem SchedulingCall.scheduled_request {call : SchedulingCall} {config : EngineConfig} {ids : IdGenerator}
    (result : (call.scheduled config ids).result = .ok decision) (placed : decision.outcome = .placed) :
    ∃ stored, (call.scheduled config ids).state.requests.find? decision.placement.request = some stored ∧
      stored.request = call.stored.request := by
  have shape : ScheduleResult call.state config ids call.stored call.generation call.reassignments
    (call.scheduled config ids) := scheduleLocked_result
  generalize call.scheduled config ids = scheduled at result shape
  cases shape with
  | noPlacement outcome =>
    cases result
    rw [outcome] at placed
    cases placed
  | refused => cases result
  | broken => cases result
  | placed chosen loop committed decided room resources_after requests_after =>
    cases result
    have made : decision.placement.request = call.stored.id := by
      rw [decided.2, committed]
      rfl
    rw [made, requests_after]
    exact ⟨_, Table.find?_set_self .., rfl⟩

theorem Engine.step_backed (decided : (engine.step operation).2.decided = some decision)
    (placed : decision.outcome = .placed) :
    decision.authority = authorityEnvelope decision.placement ∧
      ∃ call workload, engine.Calls operation call ∧ call.stored.request.workload = workload ∧
        (engine.step operation).1.workload decision.placement.request = some workload := by
  obtain ⟨call, calls, result⟩ := Engine.step_decided decided placed
  obtain ⟨stored, found, same⟩ := SchedulingCall.scheduled_request result placed
  refine ⟨scheduleLocked_authority result placed, call, _, calls, rfl, ?_⟩
  unfold Engine.workload
  rw [calls.step_same.requests, found, Option.map_some, same]

end Backing

/-- What a thread still has to do: only a push sends an assignment, under the envelope of its placement, with the
    workload of the request or with none. -/
def Action.Backed (engine : Engine) : Action → Prop
  | .send type _ payload => type ≠ .assign ∧ ∀ message, payload ≠ .assign message
  | .pushAssignment _ decision workload => decision.outcome = .placed →
    decision.authority = authorityEnvelope decision.placement ∧
      ∃ demanded, engine.workload decision.placement.request = some demanded ∧ (workload = demanded ∨ workload = [])
  | _ => True

theorem Action.Backed.step {engine : Engine} {operation : Operation} {action : Action}
    (present : ∀ durable, operation ≠ .importState durable) (backed : action.Backed engine) :
    action.Backed (engine.step operation).1 := by
  cases action with
  | pushAssignment correlation decision workload =>
    intro placed
    obtain ⟨enveloped, demanded, recorded, same⟩ := backed placed
    exact ⟨enveloped, demanded, Engine.step_workload present recorded, same⟩
  | send => exact backed
  | _ => trivial

section Handling

variable {config : CoordinatorConfig} {engine : Engine} {correlation : UInt64} {message : Message}

theorem decisionAnswer_backed {request : ScheduleRequest} {action : Action}
    (member : action ∈ (decisionAnswer correlation request.workload
      (submitRequest engine.state engine.config engine.ids request).result).actions) :
    action.Backed (engine.step (.submitRequest request)).1 := by
  unfold decisionAnswer at member
  split at member
  · rename_i decision result
    simp only [List.mem_cons, List.not_mem_nil, or_false] at member
    rcases member with rfl | rfl
    · simp [Action.Backed]
    · intro placed
      have decided : (engine.step (.submitRequest request)).2.decided = some decision := by
        show (Reply.decision (submitRequest engine.state engine.config engine.ids request).result).decided = _
        rw [result]
        rfl
      obtain ⟨enveloped, call, workload, calls, demands, recorded⟩ := Engine.step_backed decided placed
      refine ⟨enveloped, workload, recorded, .inl ?_⟩
      cases calls
      exact demands
  · rw [List.mem_singleton.mp member]
    simp [Action.Backed]

theorem reassignmentAnswer_backed {cancel : CancelPlacementMessage} {operation : Operation}
    {result : Except Status ReassignmentReport} (returned : (engine.step operation).2 = .reassignment result)
    {action : Action} (member : action ∈ (reassignmentAnswer correlation cancel result).actions) :
    action.Backed (engine.step operation).1 := by
  unfold reassignmentAnswer at member
  split at member
  · rename_i report
    rcases List.mem_cons.mp member with rfl | pushed
    · simp [Action.Backed]
    · split at pushed
      · rw [List.mem_singleton.mp pushed]
        intro placed
        have decided : (engine.step operation).2.decided = some report.decision := by
          rw [returned]
          rfl
        obtain ⟨enveloped, call, workload, calls, demands, recorded⟩ := Engine.step_backed decided placed
        exact ⟨enveloped, workload, recorded, .inr rfl⟩
      · cases pushed
  · rw [List.mem_singleton.mp member]
    simp [Action.Backed]

theorem resourceAnswer_backed {resource : ResourceId} {result : Except Status ResourceRecord} {action : Action}
    (member : action ∈ (resourceAnswer correlation resource result).actions) : action.Backed engine := by
  unfold resourceAnswer at member
  split at member
  all_goals
    rw [List.mem_singleton.mp member]
    simp [Action.Backed]

theorem placementAnswer_backed {authority : AuthorityMessage} {result : Except Status PlacementRecord} {action : Action}
    (member : action ∈ (placementAnswer correlation authority result).actions) : action.Backed engine := by
  unfold placementAnswer at member
  split at member
  all_goals
    rw [List.mem_singleton.mp member]
    simp [Action.Backed]

theorem Message.handle_backed {action : Action}
    (member : action ∈ (message.handle config engine correlation).2.actions) :
    action.Backed (message.handle config engine correlation).1 := by
  have sent {type : MessageType} {payload : Payload} {engine : Engine}
      (other : type ≠ .assign ∧ ∀ message, payload ≠ .assign message)
      (member : action ∈ [Action.send type correlation payload]) : action.Backed engine := by
    rw [List.mem_singleton.mp member]
    exact other
  cases message with
  | scheduleRequest request => exact decisionAnswer_backed member
  | reassign cancel =>
    have returned : (engine.step (.reassignPlacement cancel.placement cancel.generation cancel.epoch cancel.reason)).2 =
        .reassignment _ := rfl
    exact reassignmentAnswer_backed returned member
  | preempt cancel =>
    have returned : (engine.step (.preemptPlacement cancel.placement cancel.generation cancel.epoch cancel.reason)).2 =
        .reassignment _ := rfl
    exact reassignmentAnswer_backed returned member
  | registerResource => exact resourceAnswer_backed member
  | publishState => exact resourceAnswer_backed member
  | retireResource => exact resourceAnswer_backed member
  | assignAck => exact placementAnswer_backed member
  | running => exact placementAnswer_backed member
  | saveState path =>
    simp only [Message.handle, Message.operation, Message.directAnswer, List.mem_cons, List.not_mem_nil,
      or_false] at member
    rcases member with rfl | rfl
    · trivial
    · trivial
  | shutdown =>
    simp only [Message.handle, Message.operation, Message.directAnswer, shutdownAnswer, List.mem_cons,
      List.not_mem_nil, or_false] at member
    rcases member with rfl | rfl
    · simp [Action.Backed]
    · trivial
  | _ => exact sent (by simp) member

end Handling

namespace CoordinatorServer

def Backed (server : CoordinatorServer) : Prop :=
  ∀ connection, ∀ action ∈ (server.connections connection).todo, action.Backed server.engine

section Threads

variable {server after : CoordinatorServer}

theorem Backed.turn {turned : Nat} {changed : Connection} (backed : server.Backed)
    (connections : after.connections = Function.update server.connections turned changed)
    (engine : ∀ action : Action, action.Backed server.engine → action.Backed after.engine)
    (todo : ∀ action ∈ changed.todo, action.Backed after.engine) : after.Backed := by
  intro connection action member
  rw [connections] at member
  by_cases same : connection = turned
  · subst same
    rw [Function.update_self] at member
    exact todo action member
  · rw [Function.update_of_ne same] at member
    exact engine action (backed connection action member)

theorem Backed.rest {turned : Nat} {changed : Connection} (backed : server.Backed)
    (connections : after.connections = Function.update server.connections turned changed)
    (engine : after.engine = server.engine)
    (todo : ∀ action ∈ changed.todo, action ∈ (server.connections turned).todo ∨ ∃ path, action = .save path) :
    after.Backed := by
  refine backed.turn connections (fun action before => engine ▸ before) fun action member => ?_
  rw [engine]
  rcases todo action member with before | ⟨path, rfl⟩
  · exact backed turned action before
  · trivial

theorem save_backed {connection : Nat} {target : Text} {rest : List Action} (backed : server.Backed)
    (fewer : ∀ action ∈ rest, action ∈ (server.connections connection).todo) :
    (server.save connection target rest).1.Backed := by
  have left (action : Action) (member : action ∈ rest) :
      action ∈ (server.connections connection).todo ∨ ∃ path, action = .save path := .inl (fewer action member)
  cases held : (server.connections connection).snapshot with
  | none =>
    by_cases empty : target = []
    · simp only [save, held, if_pos empty]
      exact backed.rest rfl rfl left
    · simp only [save, held, if_neg empty]
      exact backed.rest rfl rfl fun action member => .inl member
  | some snapshot =>
    simp only [save, held]
    exact backed.rest rfl rfl left

theorem receive_backed (backed : server.Backed) (connection : Nat) (frame : FrameView) :
    (server.receive connection frame).1.Backed := by
  simp only [receive]
  split
  · refine backed.turn rfl ?_ ?_
    · intro action before
      show action.Backed (frame.message.handle server.config server.engine frame.correlation).1
      cases asks : frame.message.operation with
      | none =>
        rw [(Message.handle_direct asks).1]
        exact before
      | some operation =>
        have present : ∀ durable, operation ≠ .importState durable := by
          intro durable same
          have leaves := Message.operation_leaves asks
          rw [same] at leaves
          cases leaves
        simp only [Message.handle, asks]
        exact before.step present
    · intro action member
      rw [Connection.hears_todo] at member
      rcases List.mem_append.mp member with answered | saved
      · exact Message.handle_backed answered
      · split at saved
        · rw [List.mem_singleton.mp saved]
          trivial
        · cases saved
  · exact backed

theorem step_backed (backed : server.Backed) (turn : Turn) : (server.step turn).1.Backed := by
  cases turn with
  | accept =>
    simp only [step]
    split
    · exact backed
    · exact backed.rest rfl rfl fun action member => by cases member
  | receive connection frame => exact receive_backed backed connection frame
  | act connection =>
    have fewer {action : Action} {rest : List Action} (busy : (server.connections connection).todo = action :: rest)
        (other : Action) (member : other ∈ rest) : other ∈ (server.connections connection).todo := by
      rw [busy]
      exact List.mem_cons_of_mem _ member
    simp only [step, act]
    split
    · exact backed
    · rename_i busy
      exact backed.rest rfl rfl fun action member => .inl (fewer busy action member)
    · rename_i busy
      exact backed.rest rfl rfl fun action member => .inl (fewer busy action member)
    · rename_i busy
      exact save_backed backed (fewer busy)
    · rename_i busy
      exact backed.rest rfl rfl fun action member => .inl (fewer busy action member)
    · rename_i busy
      exact backed.rest rfl rfl fun action member => .inl (fewer busy action member)
  | failSave connection status =>
    simp only [step, failSave]
    split
    · rename_i busy held
      refine backed.rest rfl rfl fun action member => .inl ?_
      rw [busy]
      exact List.mem_cons_of_mem _ member
    · exact backed
  | hangUp connection =>
    simp only [step, hangUp]
    split
    · split
      · refine backed.turn rfl (fun action before => before.step fun durable same => by cases same) ?_
        intro action member
        split at member
        · rw [List.mem_singleton.mp member]
          trivial
        · cases member
      · exact backed.rest rfl rfl fun action member => .inl member
    · exact backed
  | finish =>
    simp only [step, finish]
    split
    · refine backed.rest rfl rfl fun action member => ?_
      split at member
      · cases member
      · exact .inr ⟨_, List.mem_singleton.mp member⟩
    · exact backed

theorem Backed.run (backed : server.Backed) (turns : List Turn) : (server.runs turns).Backed := by
  have always : Guarded step (fun _ _ => True) server turns := guarded_of_forall (fun _ _ => trivial) server turns
  exact run_invariant (fun server turn backed _ => step_backed backed turn) always backed

theorem start_backed {config : CoordinatorConfig} {disk : Disk} (started : start config disk = .ok server) :
    server.Backed := by
  intro connection action member
  rw [start_server started] at member
  cases member

/-- An assignment that the turn sends: the push of its thread, and the peer that is found for it. -/
structure Pushes (server : CoordinatorServer) (turn : Turn) (decision : Decision) (workload : Text) (peer : Nat) :
    Prop where
  due : ∃ connection correlation rest, turn = .act connection ∧
    (server.connections connection).todo = .pushAssignment correlation decision workload :: rest
  placed : decision.outcome = .placed
  owned : decision.placement.worker.isNull = false
  found : server.findWorkerPeer decision.placement.worker = some peer
  encoded : server.config.codec.encodes (.assign ⟨decision.authority, workload⟩) = true

theorem sent_assign {turn : Turn} {frame : Sent} {message : AssignMessage} (backed : server.Backed)
    (sent : .sent frame ∈ (server.step turn).2) (assigns : frame.payload = .assign message) :
    ∃ decision workload, server.Pushes turn decision workload frame.recipient ∧
      message = ⟨decision.authority, workload⟩ := by
  cases step_shown sent with
  | sends busy puts encoded =>
    cases puts with
    | reply type correlation payload =>
      have first := backed _ (.send type correlation payload) (by rw [busy]; exact List.mem_cons_self)
      exact absurd assigns (first.2 message)
    | @push correlation decision workload peer placed owned found =>
      refine ⟨decision, workload, ⟨⟨_, _, _, rfl, busy⟩, placed, owned, found, encoded⟩, ?_⟩
      exact (Payload.assign.inj assigns).symm
    | saved => cases assigns
    | shutdown => cases assigns

theorem Pushes.sends {turn : Turn} {decision : Decision} {workload : Text} {peer : Nat}
    (pushes : server.Pushes turn decision workload peer) :
    ∃ frame, .sent frame ∈ (server.step turn).2 ∧ frame.recipient = peer ∧
      frame.payload = .assign ⟨decision.authority, workload⟩ := by
  obtain ⟨⟨connection, correlation, rest, same, busy⟩, placed, owned, found, encoded⟩ := pushes
  subst same
  have placing : ¬ (decision.outcome ≠ .placed ∨ decision.placement.worker.isNull) := by
    rw [placed, owned]
    simp
  simp only [step, act, busy, assignment, if_neg placing, found, send, if_pos encoded]
  exact ⟨_, List.mem_singleton_self _, rfl, rfl⟩

theorem findWorkerPeer_announced {worker : WorkerId} {peer : Nat} (found : server.findWorkerPeer worker = some peer) :
    (server.connections peer).announced = some (worker, (server.connections peer).boot) := by
  have serves := List.find?_some found
  simp only [Bool.and_eq_true, beq_iff_eq] at serves
  obtain ⟨⟨-, speaks⟩, named⟩ := serves
  unfold Connection.announced
  rw [if_pos speaks, named]

/-- An assignment reaches a connection that announced its incarnation, with the workload of its request. -/
@[mk_iff] structure Reaches (server : CoordinatorServer) (frame : Sent) (message : AssignMessage) : Prop where
  incarnation : (server.connections frame.recipient).announced =
    some (message.authority.worker, message.authority.workerBoot)
  workload : server.engine.workload message.authority.request = some message.workload

def AssignsRight (server : CoordinatorServer) (turn : Turn) : Prop :=
  ∀ frame message, .sent frame ∈ (server.step turn).2 → frame.payload = .assign message →
    server.Reaches frame message

/-- The first peer that serves the worker of a placement to push is of its incarnation, and nothing is pushed without
    a workload for a request that has one. -/
def Assignable (server : CoordinatorServer) (turn : Turn) : Prop :=
  ∀ decision workload peer, server.Pushes turn decision workload peer →
    (server.connections peer).boot = decision.placement.workerBoot ∧
      (workload = [] → server.engine.workload decision.placement.request = some [])

theorem assignsRight_iff (backed : server.Backed) (turn : Turn) :
    server.AssignsRight turn ↔ server.Assignable turn := by
  have authorized {decision : Decision} {workload : Text} {peer : Nat}
      (pushes : server.Pushes turn decision workload peer) :
      decision.authority = authorityEnvelope decision.placement ∧ ∃ demanded,
        server.engine.workload decision.placement.request = some demanded ∧ (workload = demanded ∨ workload = []) := by
    obtain ⟨⟨connection, correlation, rest, same, busy⟩, placed, -, -, -⟩ := pushes
    have first := backed connection (.pushAssignment correlation decision workload)
      (by rw [busy]; exact List.mem_cons_self)
    exact first placed
  constructor
  · intro right decision workload peer pushes
    obtain ⟨enveloped, -⟩ := authorized pushes
    obtain ⟨frame, sent, recipient, carried⟩ := pushes.sends
    have reaches := right frame _ sent carried
    have incarnation := reaches.incarnation
    have demands := reaches.workload
    rw [enveloped] at incarnation demands
    rw [recipient, findWorkerPeer_announced pushes.found] at incarnation
    refine ⟨congrArg Prod.snd (Option.some.inj incarnation), fun empty => ?_⟩
    rw [← empty]
    exact demands
  · intro assignable frame message sent assigns
    obtain ⟨decision, workload, pushes, same⟩ := sent_assign backed sent assigns
    obtain ⟨enveloped, demanded, recorded, either⟩ := authorized pushes
    obtain ⟨boot, unloaded⟩ := assignable decision workload frame.recipient pushes
    subst same
    constructor
    · show (server.connections frame.recipient).announced =
        some (decision.authority.worker, decision.authority.workerBoot)
      rw [enveloped, findWorkerPeer_announced pushes.found, boot]
      rfl
    · show server.engine.workload decision.authority.request = some workload
      rw [enveloped]
      rcases either with same | empty
      · rw [same]
        exact recorded
      · rw [empty]
        exact unloaded empty

end Threads

end CoordinatorServer

/-- In every run, every assignment reaches a connection that announced the incarnation of its placement, with the
    workload of its request, if and only if every push finds such a peer first and has that workload. -/
theorem assignments_reach {config : CoordinatorConfig} {disk : Disk} {server : CoordinatorServer}
    (started : CoordinatorServer.start config disk = .ok server) (turns : List Turn) :
    Guarded CoordinatorServer.step CoordinatorServer.AssignsRight server turns ↔
      Guarded CoordinatorServer.step CoordinatorServer.Assignable server turns := by
  exact guarded_congr (fun server turn backed => CoordinatorServer.step_backed backed turn)
    (fun server turn backed => CoordinatorServer.assignsRight_iff backed turn) (CoordinatorServer.start_backed started)

def Event.assignment : Event → Option (Sent × AssignMessage)
  | .sent frame =>
    match frame.payload with
    | .assign message => some (frame, message)
    | _ => none
  | _ => none

theorem Event.assignment_some {event : Event} {frame : Sent} {message : AssignMessage} :
    event.assignment = some (frame, message) ↔ event = .sent frame ∧ frame.payload = .assign message := by
  unfold Event.assignment
  constructor
  · intro assigns
    split at assigns
    · split at assigns
      · rename_i carried
        cases assigns
        exact ⟨rfl, carried⟩
      · cases assigns
    · cases assigns
  · rintro ⟨rfl, carried⟩
    simp only [carried]

namespace CoordinatorServer

instance (server : CoordinatorServer) (frame : Sent) (message : AssignMessage) :
    Decidable (server.Reaches frame message) :=
  decidable_of_iff (_ ∧ _) (server.reaches_iff frame message).symm

theorem assignsRight_iff_all {server : CoordinatorServer} {turn : Turn} :
    server.AssignsRight turn ↔
      ∀ sent ∈ (server.step turn).2.filterMap Event.assignment, server.Reaches sent.1 sent.2 := by
  constructor
  · intro right sent member
    obtain ⟨event, shown, assigns⟩ := List.mem_filterMap.mp member
    obtain ⟨rfl, carried⟩ := Event.assignment_some.mp assigns
    exact right _ _ shown carried
  · intro all frame message shown carried
    exact all (frame, message) (List.mem_filterMap.mpr ⟨_, shown, Event.assignment_some.mpr ⟨rfl, carried⟩⟩)

instance (server : CoordinatorServer) (turn : Turn) : Decidable (server.AssignsRight turn) :=
  decidable_of_iff _ assignsRight_iff_all.symm

end CoordinatorServer

namespace Bench

def unfiled : CoordinatorConfig := { codec := { encodes := fun _ => true, decodes := fun _ _ => .ok () } }

def scheduler : CoordinatorServer :=
  { config := unfiled, engine := Engine.fresh { limits := unfiled.limits }, disk := fun _ => none }

def demand : FrameView := { correlation := 3, message := .scheduleRequest { request 5 1 with workload := ascii "job" } }

/-- A worker announces itself and registers its resource, and a request is placed there. -/
def placing (connection : Nat) (boot : UInt64) : List Turn :=
  [.accept, .receive connection (greeting boot), .act connection,
    .receive connection { correlation := 2, message := .registerResource (owned boot) }, .act connection,
    .receive connection demand, .act connection]

/-- A worker comes back under a second boot while its first connection is still open. -/
def returned : List Turn := [.accept, .receive 1 (greeting 1), .act 1] ++ placing 2 2

def replaced : List Turn :=
  let order : CancelPlacementMessage := { placement := ⟨3⟩, generation := ⟨1⟩, epoch := ⟨1⟩ }
  placing 1 1 ++ [.act 1, .receive 1 { correlation := 4, message := .reassign order }, .act 1]

end Bench

theorem assignments_reach_bench :
    (((Bench.scheduler.runs (Bench.placing 1 1)).step (.act 1)).2.filterMap Event.assignment).length = 1 ∧
      Guarded CoordinatorServer.step CoordinatorServer.AssignsRight Bench.scheduler (Bench.placing 1 1 ++ [.act 1]) ∧
      Guarded CoordinatorServer.step CoordinatorServer.Assignable Bench.scheduler (Bench.placing 1 1 ++ [.act 1]) := by
  have right : Guarded CoordinatorServer.step CoordinatorServer.AssignsRight Bench.scheduler
      (Bench.placing 1 1 ++ [.act 1]) := by decide +kernel
  have started : CoordinatorServer.start Bench.unfiled (fun _ => none) = .ok Bench.scheduler := rfl
  exact ⟨by decide +kernel, right, (assignments_reach started _).mp right⟩

/-- The assignment for the second boot goes to the connection of the first, and the one of a replacement carries no
    workload. -/
theorem assignments_astray :
    CoordinatorServer.start Bench.unfiled (fun _ => none) = .ok Bench.scheduler ∧
      ¬ Guarded CoordinatorServer.step CoordinatorServer.AssignsRight Bench.scheduler (Bench.returned ++ [.act 2]) ∧
      ¬ Guarded CoordinatorServer.step CoordinatorServer.AssignsRight Bench.scheduler (Bench.replaced ++ [.act 1]) :=
  ⟨rfl, by decide +kernel, by decide +kernel⟩

end LabScheduler
