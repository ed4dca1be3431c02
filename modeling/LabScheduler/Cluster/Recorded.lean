import LabScheduler.Cluster.Server
import LabScheduler.Engine.Lives

namespace LabScheduler

open Foundation

/-- The snapshot is the state after the first operations, as many as its version says. -/
def Snapshot.Of (engine : Engine) (performed : List Operation) (snapshot : Snapshot) : Prop :=
  snapshot.version ≤ performed.length ∧ snapshot.state = (engine.runs (performed.take snapshot.version)).exported

theorem Snapshot.Of.append {engine : Engine} {performed : List Operation} {snapshot : Snapshot}
    (taken : snapshot.Of engine performed) (more : List Operation) : snapshot.Of engine (performed ++ more) := by
  obtain ⟨within, state⟩ := taken
  constructor
  · rw [List.length_append]
    omega
  · rw [List.take_append_of_le_length within]
    exact state

theorem Message.handle_engine (config : CoordinatorConfig) (engine : Engine) (correlation : UInt64)
    (message : Message) :
    (message.handle config engine correlation).1 = engine.runs message.operation.toList := by
  unfold Message.handle
  cases message.operation with
  | none => rfl
  | some operation => rfl

namespace CoordinatorServer

structure Recorded (path : Text) (engine : Engine) (before : Option DurableState) (server : CoordinatorServer) :
    Prop where
  named : server.config.statePath = path
  ran : server.engine = engine.runs server.performed
  held : ∀ connection snapshot, (server.connections connection).snapshot = some snapshot →
    snapshot.Of engine server.performed
  filed : ∀ snapshot, server.filed = some snapshot →
    server.disk path = some snapshot.state ∧ snapshot.Of engine server.performed
  unfiled : server.filed = none → server.disk path = before

section Steps

variable {path : Text} {engine : Engine} {before : Option DurableState} {server : CoordinatorServer}

theorem Recorded.turn (recorded : Recorded path engine before server) {after : CoordinatorServer} {connection : Nat}
    {changed : Connection} {more : List Operation}
    (connections : after.connections = Function.update server.connections connection changed)
    (config : after.config = server.config) (ran : after.engine = server.engine.runs more)
    (performed : after.performed = server.performed ++ more) (disk : after.disk = server.disk)
    (filed : after.filed = server.filed)
    (holding : ∀ snapshot, changed.snapshot = some snapshot → snapshot.Of engine server.performed) :
    Recorded path engine before after := by
  constructor
  case named => rw [config, recorded.named]
  case ran =>
    rw [ran, performed, recorded.ran]
    exact (run_append engine server.performed more).symm
  case held =>
    intro other held found
    rw [connections] at found
    rw [performed]
    by_cases same : other = connection
    · rw [same, Function.update_self] at found
      exact (holding held found).append more
    · rw [Function.update_of_ne same] at found
      exact (recorded.held other held found).append more
  case filed =>
    intro written found
    rw [filed] at found
    rw [disk, performed]
    obtain ⟨there, taken⟩ := recorded.filed written found
    exact ⟨there, taken.append more⟩
  case unfiled =>
    intro nothing
    rw [filed] at nothing
    rw [disk]
    exact recorded.unfiled nothing

theorem Recorded.stay (recorded : Recorded path engine before server) {after : CoordinatorServer} {connection : Nat}
    {changed : Connection} (connections : after.connections = Function.update server.connections connection changed)
    (config : after.config = server.config) (same : after.engine = server.engine)
    (performed : after.performed = server.performed) (disk : after.disk = server.disk)
    (filed : after.filed = server.filed)
    (holding : ∀ snapshot, changed.snapshot = some snapshot → snapshot.Of engine server.performed) :
    Recorded path engine before after := by
  have ran : after.engine = server.engine.runs [] := same
  exact recorded.turn connections config ran (performed.trans (List.append_nil _).symm) disk filed holding

theorem save_recorded (recorded : Recorded path engine before server) (connection : Nat) (target : Text)
    (rest : List Action) : Recorded path engine before (server.save connection target rest).1 := by
  cases held : (server.connections connection).snapshot with
  | none =>
    by_cases empty : target = []
    · simp only [save, held, if_pos empty]
      exact recorded.stay rfl rfl rfl rfl rfl rfl fun _ found => by cases found
    · simp only [save, held, if_neg empty]
      refine recorded.stay rfl rfl rfl rfl rfl rfl ?_
      intro snapshot found
      cases found
      constructor
      · exact Nat.le_refl _
      · rw [List.take_length, ← recorded.ran]
        rfl
  | some snapshot =>
    simp only [save, held]
    have taken := recorded.held connection snapshot held
    obtain ⟨named, ran, kept, filed, unfiled⟩ := recorded
    constructor
    case named => exact named
    case ran => exact ran
    case held =>
      intro other another found
      change (Function.update server.connections connection _ other).snapshot = some another at found
      by_cases same : other = connection
      · rw [same, Function.update_self] at found
        cases found
      · rw [Function.update_of_ne same] at found
        exact kept other another found
    case filed =>
      intro written found
      change (if snapshot.path = server.config.statePath then some snapshot else server.filed) = some written at found
      change Function.update server.disk snapshot.path (some snapshot.state) path = _ ∧ _
      by_cases ours : snapshot.path = server.config.statePath
      · rw [if_pos ours] at found
        cases found
        have there : path = snapshot.path := named.symm.trans ours.symm
        rw [there, Function.update_self]
        exact ⟨rfl, taken⟩
      · rw [if_neg ours] at found
        rw [Function.update_of_ne fun same => ours (same.symm.trans named.symm)]
        exact filed written found
    case unfiled =>
      intro nothing
      change (if snapshot.path = server.config.statePath then some snapshot else server.filed) = none at nothing
      change Function.update server.disk snapshot.path (some snapshot.state) path = before
      by_cases ours : snapshot.path = server.config.statePath
      · rw [if_pos ours] at nothing
        cases nothing
      · rw [if_neg ours] at nothing
        rw [Function.update_of_ne fun same => ours (same.symm.trans named.symm)]
        exact unfiled nothing

theorem Recorded.step (recorded : Recorded path engine before server) (turn : Turn) :
    Recorded path engine before (server.step turn).1 := by
  have kept (connection : Nat) : ∀ snapshot, (server.connections connection).snapshot = some snapshot →
      snapshot.Of engine server.performed := recorded.held connection
  cases turn with
  | accept =>
    simp only [CoordinatorServer.step]
    split
    · exact recorded
    · exact recorded.stay rfl rfl rfl rfl rfl rfl fun _ found => by cases found
  | receive connection frame =>
    simp only [CoordinatorServer.step, receive]
    split
    · refine recorded.turn rfl rfl ?_ rfl rfl rfl ?_
      · exact Message.handle_engine ..
      · intro snapshot found
        rw [Connection.hears_snapshot] at found
        exact kept connection snapshot found
    · exact recorded
  | act connection =>
    simp only [CoordinatorServer.step, act]
    split
    · exact recorded
    · exact recorded.stay rfl rfl rfl rfl rfl rfl (kept connection)
    · exact recorded.stay rfl rfl rfl rfl rfl rfl (kept connection)
    · exact save_recorded recorded ..
    · exact recorded.stay rfl rfl rfl rfl rfl rfl (kept connection)
    · exact recorded.stay rfl rfl rfl rfl rfl rfl (kept connection)
  | failSave connection status =>
    simp only [CoordinatorServer.step, failSave]
    split
    · exact recorded.stay rfl rfl rfl rfl rfl rfl fun _ found => by cases found
    · exact recorded
  | hangUp connection =>
    simp only [CoordinatorServer.step, hangUp]
    split
    · split
      · exact recorded.turn rfl rfl rfl rfl rfl rfl (kept connection)
      · exact recorded.stay rfl rfl rfl rfl rfl rfl (kept connection)
    · exact recorded
  | finish =>
    simp only [CoordinatorServer.step, finish]
    split
    · exact recorded.stay rfl rfl rfl rfl rfl rfl (kept 0)
    · exact recorded

end Steps

section Started

variable {config : CoordinatorConfig} {disk : Disk} {server : CoordinatorServer}
  (started : start config disk = .ok server)

include started

theorem start_recorded : Recorded config.statePath server.engine (disk config.statePath) server := by
  have same := start_server started
  constructor
  case named => rw [same]
  case ran =>
    rw [same]
    rfl
  case held =>
    intro connection snapshot found
    rw [same] at found
    cases found
  case filed =>
    intro snapshot found
    rw [same] at found
    cases found
  case unfiled =>
    intro _
    rw [same]

end Started

end CoordinatorServer

end LabScheduler
