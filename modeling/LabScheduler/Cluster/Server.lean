import LabScheduler.Cluster.Answers
import Mathlib.Logic.Function.Basic

namespace LabScheduler

open Foundation

/-- An exported state on its way to the file. The ticket counts the exports before it, the version the
    operations it contains. -/
structure Snapshot where
  path : Text
  state : DurableState
  ticket : Nat
  version : Nat

/-- A peer, and the thread that serves it between two frames. `change` counts the operations up to the mutation that
    the last frame made, and `owes` repeats it until its state is exported. -/
structure Connection where
  serving : Bool := false
  worker : WorkerId := {}
  boot : WorkerBootId := {}
  isWorker : Bool := false
  todo : List Action := []
  snapshot : Option Snapshot := none
  saved : Status := {}
  change : Option Nat := none
  owes : Option Nat := none

def Connection.alive (connection : Connection) : Bool := connection.serving || !connection.todo.isEmpty

def Connection.hears (connection : Connection) : Message → Connection
  | .hello message => { connection with worker := message.worker, boot := message.boot, isWorker := true }
  | _ => connection

section Hears

variable (connection : Connection) (message : Message)

@[simp] theorem Connection.hears_serving : (connection.hears message).serving = connection.serving := by
  cases message <;> rfl

@[simp] theorem Connection.hears_todo : (connection.hears message).todo = connection.todo := by
  cases message <;> rfl

@[simp] theorem Connection.hears_snapshot : (connection.hears message).snapshot = connection.snapshot := by
  cases message <;> rfl

@[simp] theorem Connection.hears_change : (connection.hears message).change = connection.change := by
  cases message <;> rfl

@[simp] theorem Connection.hears_owes : (connection.hears message).owes = connection.owes := by
  cases message <;> rfl

end Hears

abbrev Disk := Text → Option DurableState

structure Sent where
  recipient : Nat
  type : MessageType
  correlation : UInt64
  epoch : CoordinatorEpoch
  payload : Payload
  change : Option Nat

inductive Event
  | sent (frame : Sent)
  | issued (authority : AuthorityEnvelope)
  | wrote (snapshot : Snapshot)

/-- A coordinator process. Connection 0 is the thread that runs `run`; the others are counted as accepted. The
    last three fields are history: the operations so far, the number of exports, and what the process has last
    written to its state file. -/
structure CoordinatorServer where
  config : CoordinatorConfig
  engine : Engine
  connections : Nat → Connection := fun _ => {}
  accepted : Nat := 1
  shutdownRequested : Bool := false
  finished : Bool := false
  disk : Disk
  performed : List Operation := []
  exports : Nat := 0
  filed : Option Snapshot := none

inductive Turn
  | accept
  | receive (connection : Nat) (frame : FrameView)
  | act (connection : Nat)
  | failSave (connection : Nat) (status : Status)
  | hangUp (connection : Nat)
  | finish

namespace CoordinatorServer

/-- `start`, up to the listener. -/
def start (config : CoordinatorConfig) (disk : Disk) : Except Status CoordinatorServer :=
  let engine := Engine.fresh config.engine
  if config.statePath = [] then .ok { config := config, engine := engine, disk := disk }
  else
    match disk config.statePath with
    | none => .ok { config := config, engine := engine, disk := disk }
    | some durable =>
      match config.codec.decodes config.limits durable with
      | .error status => .error status
      | .ok () =>
        match importState engine.state engine.config engine.ids durable with
        | (_, _, .error status) => .error status
        | (state, ids, .ok _) =>
          .ok { config := config, engine := { engine with state := state, ids := ids }, disk := disk }

variable (server : CoordinatorServer)

def peers : List Nat := List.range server.accepted

def findWorkerPeer (worker : WorkerId) : Option Nat :=
  server.peers.find? fun peer =>
    (server.connections peer).alive && (server.connections peer).isWorker &&
      (server.connections peer).worker == worker

def workerPeers : List Nat :=
  server.peers.filter fun peer => (server.connections peer).alive && (server.connections peer).isWorker

def update (connection : Nat) (changed : Connection) : CoordinatorServer :=
  { server with connections := Function.update server.connections connection changed }

/-- A frame as `Peer::send` puts it out, if its payload was encoded. -/
def send (connection recipient : Nat) (type : MessageType) (correlation : UInt64) (payload : Payload) : List Event :=
  if server.config.codec.encodes payload then
    [.sent ⟨recipient, type, correlation, server.engine.state.epoch, payload, (server.connections connection).change⟩]
  else []

def assignment (connection : Nat) (correlation : UInt64) (decision : Decision) (workload : Text) : List Event :=
  if decision.outcome ≠ .placed ∨ decision.placement.worker.isNull then []
  else
    match server.findWorkerPeer decision.placement.worker with
    | none => []
    | some peer => server.send connection peer .assign correlation (.assign ⟨decision.authority, workload⟩)

def savedAnswer (path : Text) (saved : Status) : StateAckMessage :=
  let state := server.engine.state
  { path := path
    epoch := state.epoch
    resources := lengthU32 state.resources.entries
    requests := lengthU32 state.requests.entries
    placements := lengthU32 state.placements.entries
    reservations := lengthU32 state.reservations.entries
    code := saved.code
    detail := saved.message }

/-- `save_state` exports under the lock of the engine, and writes under that of the file. -/
def save (connection : Nat) (path : Text) (rest : List Action) : CoordinatorServer × List Event :=
  let thread := server.connections connection
  match thread.snapshot with
  | none =>
    if path = [] then
      (server.update connection
        { thread with
          todo := rest
          saved := ⟨.invalidArgument, ascii "no persistence path configured"⟩
          owes := none }, [])
    else
      let snapshot : Snapshot :=
        { path := path
          state := exportState server.engine.state server.engine.config server.engine.ids
          ticket := server.exports
          version := server.performed.length }
      let exported := server.update connection { thread with snapshot := some snapshot, owes := none }
      ({ exported with exports := server.exports + 1 }, [])
  | some snapshot =>
    let written := server.update connection { thread with todo := rest, snapshot := none, saved := {} }
    ({ written with
        disk := Function.update server.disk snapshot.path (some snapshot.state)
        filed := if snapshot.path = server.config.statePath then some snapshot else server.filed },
      [.wrote snapshot])

def act (connection : Nat) : CoordinatorServer × List Event :=
  let thread := server.connections connection
  match thread.todo with
  | [] => (server, [])
  | .send type correlation payload :: rest =>
    (server.update connection { thread with todo := rest },
      server.send connection connection type correlation payload)
  | .pushAssignment correlation decision workload :: rest =>
    (server.update connection { thread with todo := rest },
      server.assignment connection correlation decision workload)
  | .save path :: rest => server.save connection path rest
  | .answerSave correlation path :: rest =>
    (server.update connection { thread with todo := rest },
      server.send connection connection .stateAck correlation (.stateAck (server.savedAnswer path thread.saved)))
  | .pushShutdown :: rest =>
    ({ server.update connection { thread with todo := rest } with shutdownRequested := true },
      server.workerPeers.flatMap fun peer =>
        server.send connection peer .shutdown 0 (.stateAck { detail := ascii "coordinator shutting down" }))

def failSave (connection : Nat) (status : Status) : CoordinatorServer :=
  let thread := server.connections connection
  match thread.todo, thread.snapshot with
  | .save _ :: rest, some _ => server.update connection { thread with todo := rest, snapshot := none, saved := status }
  | _, _ => server

def persists : Bool := server.config.persistOnMutation && !server.config.statePath.isEmpty

def receive (connection : Nat) (frame : FrameView) : CoordinatorServer × List Event :=
  let thread := server.connections connection
  if thread.serving ∧ thread.todo.isEmpty then
    let (engine, answer) := frame.message.handle server.config server.engine frame.correlation
    let performed := server.performed ++ frame.message.operation.toList
    let saves := answer.mutated && server.persists
    let thread :=
      { thread with
        todo := answer.actions ++ if saves then [Action.save server.config.statePath] else []
        change := if answer.mutated then some performed.length else none
        owes := if saves then some performed.length else none }
    ({ server.update connection (thread.hears frame.message) with engine := engine, performed := performed },
      match answer.decided with
      | none => []
      | some decision => if decision.outcome = .placed then [.issued decision.authority] else [])
  else (server, [])

/-- The connection has ended: an announced worker is lost, and the thread ends. -/
def hangUp (connection : Nat) : CoordinatorServer :=
  let thread := server.connections connection
  if thread.serving ∧ thread.todo.isEmpty then
    if thread.isWorker ∧ ¬ thread.worker.isNull ∧ ¬ thread.boot.isNull then
      let operation := Operation.markWorkerLost thread.worker thread.boot (ascii "worker connection ended")
      let performed := server.performed ++ [operation]
      let thread :=
        { thread with
          serving := false
          todo := if server.persists then [.save server.config.statePath] else []
          change := some performed.length
          owes := if server.persists then some performed.length else none }
      { server.update connection thread with engine := (server.engine.step operation).1, performed := performed }
    else server.update connection { thread with serving := false }
  else server

/-- After a shutdown, and when no connection is left, `run` saves a last time. -/
def finish : CoordinatorServer :=
  if server.shutdownRequested ∧ ¬ server.finished ∧
      server.peers.all fun peer => !(server.connections peer).alive then
    let thread := server.connections 0
    { server.update 0
        { thread with
          todo := if server.config.statePath.isEmpty then [] else [.save server.config.statePath] } with
      finished := true }
  else server

def step (server : CoordinatorServer) : Turn → CoordinatorServer × List Event
  | .accept =>
    if server.finished then (server, [])
    else ({ server.update server.accepted { serving := true } with accepted := server.accepted + 1 }, [])
  | .receive connection frame => server.receive connection frame
  | .act connection => server.act connection
  | .failSave connection status => (server.failSave connection status, [])
  | .hangUp connection => (server.hangUp connection, [])
  | .finish => (server.finish, [])

abbrev runs (server : CoordinatorServer) (moves : List Turn) : CoordinatorServer := run step server moves

/-- What the process does to the outside: frames, envelopes and writes, in order. -/
def trace (server : CoordinatorServer) (moves : List Turn) : List Event := (replies step server moves).flatten

theorem save_config (server : CoordinatorServer) (connection : Nat) (target : Text) (rest : List Action) :
    (server.save connection target rest).1.config = server.config := by
  cases held : (server.connections connection).snapshot with
  | none =>
    by_cases empty : target = []
    · simp only [save, held, if_pos empty]
      rfl
    · simp only [save, held, if_neg empty]
      rfl
  | some snapshot =>
    simp only [save, held]
    rfl

theorem step_config (server : CoordinatorServer) (turn : Turn) : (server.step turn).1.config = server.config := by
  cases turn with
  | accept =>
    simp only [step]
    split <;> rfl
  | receive connection frame =>
    simp only [step, receive]
    split <;> rfl
  | act connection =>
    simp only [step, act]
    split
    case h_4 => exact server.save_config ..
    all_goals rfl
  | failSave connection status =>
    simp only [step, failSave]
    split <;> rfl
  | hangUp connection =>
    simp only [step, hangUp]
    split
    · split <;> rfl
    · rfl
  | finish =>
    simp only [step, finish]
    split <;> rfl

def frame (connection recipient : Nat) (type : MessageType) (correlation : UInt64) (payload : Payload) : Sent :=
  ⟨recipient, type, correlation, server.engine.state.epoch, payload, (server.connections connection).change⟩

inductive Sends (connection : Nat) : Action → Sent → Prop
  | reply (type : MessageType) (correlation : UInt64) (payload : Payload) :
    Sends connection (.send type correlation payload) (server.frame connection connection type correlation payload)
  | push {correlation : UInt64} {decision : Decision} {workload : Text} {peer : Nat}
      (placed : decision.outcome = .placed) (owned : decision.placement.worker.isNull = false)
      (found : server.findWorkerPeer decision.placement.worker = some peer) :
    Sends connection (.pushAssignment correlation decision workload)
      (server.frame connection peer .assign correlation (.assign ⟨decision.authority, workload⟩))
  | saved (correlation : UInt64) (path : Text) :
    Sends connection (.answerSave correlation path)
      (server.frame connection connection .stateAck correlation
        (.stateAck (server.savedAnswer path (server.connections connection).saved)))
  | shutdown (peer : Nat) :
    Sends connection .pushShutdown
      (server.frame connection peer .shutdown 0 (.stateAck { detail := ascii "coordinator shutting down" }))

/-- What a turn shows: a frame is answered by an envelope at most, and an action puts out frames or writes. -/
inductive Shows : Turn → Event → Prop
  | issues {connection : Nat} {frame : FrameView} {decision : Decision}
      (decided : (frame.message.handle server.config server.engine frame.correlation).2.decided = some decision)
      (placed : decision.outcome = .placed) : Shows (.receive connection frame) (.issued decision.authority)
  | sends {connection : Nat} {action : Action} {rest : List Action} {frame : Sent}
      (busy : (server.connections connection).todo = action :: rest) (puts : server.Sends connection action frame)
      (encoded : server.config.codec.encodes frame.payload = true) : Shows (.act connection) (.sent frame)
  | writes {connection : Nat} {target : Text} {rest : List Action} {snapshot : Snapshot}
      (busy : (server.connections connection).todo = .save target :: rest)
      (held : (server.connections connection).snapshot = some snapshot) : Shows (.act connection) (.wrote snapshot)

theorem step_shown {server : CoordinatorServer} {turn : Turn} {event : Event} (member : event ∈ (server.step turn).2) :
    server.Shows turn event := by
  have sent {connection recipient : Nat} {type : MessageType} {correlation : UInt64} {payload : Payload}
      (member : event ∈ server.send connection recipient type correlation payload) :
      event = .sent (server.frame connection recipient type correlation payload) ∧
        server.config.codec.encodes payload = true := by
    unfold send at member
    split at member
    · rename_i encoded
      exact ⟨List.mem_singleton.mp member, encoded⟩
    · cases member
  cases turn with
  | accept =>
    simp only [step] at member
    split at member <;> cases member
  | receive connection frame =>
    simp only [step, receive] at member
    split at member
    · dsimp only at member
      split at member
      · cases member
      · rename_i decision decided
        split at member
        · rename_i placed
          rw [List.mem_singleton.mp member]
          exact .issues decided placed
        · cases member
    · cases member
  | act connection =>
    simp only [step, act] at member
    split at member
    · cases member
    · rename_i busy
      obtain ⟨rfl, encoded⟩ := sent member
      exact .sends busy (.reply ..) encoded
    · rename_i busy
      unfold assignment at member
      split at member
      · cases member
      · rename_i placing
        obtain ⟨placed, owned⟩ := not_or.mp placing
        split at member
        · cases member
        · rename_i peer found
          obtain ⟨rfl, encoded⟩ := sent member
          exact .sends busy (.push (not_not.mp placed) (Bool.eq_false_iff.mpr owned) found) encoded
    · rename_i busy
      unfold save at member
      extract_lets thread at member
      split at member
      · split at member <;> cases member
      · rename_i held
        rw [List.mem_singleton.mp member]
        exact .writes busy held
    · rename_i busy
      obtain ⟨rfl, encoded⟩ := sent member
      exact .sends busy (.saved ..) encoded
    · rename_i busy
      obtain ⟨peer, -, member⟩ := List.mem_flatMap.mp member
      obtain ⟨rfl, encoded⟩ := sent member
      exact .sends busy (.shutdown peer) encoded
  | failSave | hangUp | finish => cases member

section Started

variable {config : CoordinatorConfig} {disk : Disk} {server : CoordinatorServer}
  (started : start config disk = .ok server)

include started

theorem start_server : server = { config := config, engine := server.engine, disk := disk } := by
  unfold start at started
  by_cases empty : config.statePath = []
  · simp only [if_pos empty] at started
    cases started
    rfl
  simp only [if_neg empty] at started
  split at started
  · cases started
    rfl
  · split at started
    · cases started
    · split at started
      · cases started
      · cases started
        rfl

end Started

end CoordinatorServer

end LabScheduler
