import LabScheduler.Cluster.Server
import LabScheduler.Foundation.Saves
import LabScheduler.Foundation.Simulation

namespace LabScheduler

open Foundation

def Snapshot.toExport (snapshot : Snapshot) : Export := ⟨snapshot.ticket, snapshot.version⟩

def Connection.held (path : Text) (connection : Connection) : Option Export :=
  (connection.snapshot.filter fun snapshot => snapshot.path = path).map Snapshot.toExport

def Event.written (path : Text) : Event → Option Export
  | .wrote snapshot => if snapshot.path = path then some snapshot.toExport else none
  | .sent _ | .issued _ => none

/-- A thread holds a snapshot only in the middle of its save, and owes one only to the state file. -/
structure Connection.Orderly (path : Text) (connection : Connection) : Prop where
  holding : ∀ snapshot, connection.snapshot = some snapshot →
    connection.owes = none ∧ ∃ rest, connection.todo = .save snapshot.path :: rest
  owing : ∀ version, connection.owes = some version →
    path ≠ [] ∧ .save path ∈ connection.todo ∧ ∀ other, .save other ∈ connection.todo → other = path

namespace Connection.Orderly

variable {path : Text} {connection : Connection}

theorem elsewhere (orderly : connection.Orderly path) {target : Text}
    {rest : List Action} (busy : connection.todo = .save target :: rest) (other : target = [] ∨ target ≠ path) :
    connection.owes = none := by
  by_contra some
  obtain ⟨version, found⟩ := Option.ne_none_iff_exists'.mp some
  obtain ⟨named, -, all⟩ := orderly.owing version found
  have same : target = path := all target (busy ▸ List.mem_cons_self)
  rcases other with empty | away
  · exact named (same.symm.trans empty)
  · exact away same

theorem free (owes : connection.owes = none)
    (snapshot : connection.snapshot = none) : connection.Orderly path := by
  constructor
  · intro held found
    rw [snapshot] at found
    cases found
  · intro version found
    rw [owes] at found
    cases found

end Connection.Orderly

namespace CoordinatorServer

def saves (server : CoordinatorServer) : Saves Nat :=
  { version := server.performed.length
    exports := server.exports
    owes := fun connection => (server.connections connection).owes
    pending := fun connection => (server.connections connection).held server.config.statePath
    file := server.filed.map Snapshot.toExport }

structure Orderly (path : Text) (server : CoordinatorServer) : Prop where
  file : server.config.statePath = path
  started : 0 < server.accepted
  unused : ∀ connection, server.accepted ≤ connection → server.connections connection = {}
  threads : ∀ connection, (server.connections connection).Orderly path

def saveMoves (server : CoordinatorServer) (connection : Nat) (path : Text) : List (Saves.Move Nat) :=
  match (server.connections connection).snapshot with
  | none => if path = [] then [] else if path = server.config.statePath then [.take connection] else [.pass]
  | some snapshot => if snapshot.path = server.config.statePath then [.put connection] else []

def moves (server : CoordinatorServer) : Turn → List (Saves.Move Nat)
  | .accept => []
  | .receive connection frame =>
    let thread := server.connections connection
    if thread.serving ∧ thread.todo.isEmpty then
      match frame.message.operation with
      | none => []
      | some _ =>
        let (_, answer) := frame.message.handle server.config server.engine frame.correlation
        if answer.mutated && server.persists then [.mutate connection] else [.change]
    else []
  | .act connection =>
    match (server.connections connection).todo with
    | .save path :: _ => server.saveMoves connection path
    | _ => []
  | .failSave connection _ =>
    match (server.connections connection).todo, (server.connections connection).snapshot with
    | .save _ :: _, some snapshot => if snapshot.path = server.config.statePath then [.drop connection] else []
    | _, _ => []
  | .hangUp connection =>
    let thread := server.connections connection
    if thread.serving ∧ thread.todo.isEmpty then
      if thread.isWorker ∧ ¬ thread.worker.isNull ∧ ¬ thread.boot.isNull then
        if server.persists then [.mutate connection] else [.change]
      else []
    else []
  | .finish => []

section Threads

variable {path : Text} {server : CoordinatorServer}

theorem Orderly.idle (orderly : Orderly path server) {connection : Nat}
    (idle : (server.connections connection).todo.isEmpty) :
    (server.connections connection).snapshot = none ∧ (server.connections connection).owes = none := by
  have nothing : (server.connections connection).todo = [] := List.isEmpty_iff.mp idle
  obtain ⟨holding, owing⟩ := orderly.threads connection
  constructor
  · by_contra some
    obtain ⟨snapshot, found⟩ := Option.ne_none_iff_exists'.mp some
    obtain ⟨-, rest, busy⟩ := holding snapshot found
    rw [nothing] at busy
    cases busy
  · by_contra some
    obtain ⟨version, found⟩ := Option.ne_none_iff_exists'.mp some
    have busy := (owing version found).2.1
    rw [nothing] at busy
    cases busy

theorem Orderly.turn (orderly : Orderly path server) {after : CoordinatorServer} {connection : Nat}
    {changed : Connection} (connections : after.connections = Function.update server.connections connection changed)
    (config : after.config = server.config) (accepted : after.accepted = server.accepted)
    (inside : connection < server.accepted) (thread : changed.Orderly path) : Orderly path after := by
  obtain ⟨file, started, unused, threads⟩ := orderly
  constructor
  case file => rw [config, file]
  case started => rwa [accepted]
  case unused =>
    intro other outside
    rw [accepted] at outside
    rw [connections, Function.update_of_ne (by omega)]
    exact unused other outside
  case threads =>
    intro other
    rw [connections]
    by_cases same : other = connection
    · subst same
      rw [Function.update_self]
      exact thread
    · rw [Function.update_of_ne same]
      exact threads other

theorem Orderly.inside (orderly : Orderly path server) {connection : Nat}
    (busy : (server.connections connection).todo ≠ [] ∨ (server.connections connection).serving = true) :
    connection < server.accepted := by
  by_contra outside
  rw [orderly.unused connection (by omega)] at busy
  rcases busy with todo | serving
  · exact todo rfl
  · cases serving

theorem saves_turn {after : CoordinatorServer} {connection : Nat} {changed : Connection}
    (connections : after.connections = Function.update server.connections connection changed)
    (config : after.config = server.config) :
    after.saves.owes = Function.update server.saves.owes connection changed.owes ∧
      after.saves.pending =
        Function.update server.saves.pending connection (changed.held server.config.statePath) := by
  constructor
  · funext other
    change (after.connections other).owes = _
    rw [connections]
    by_cases same : other = connection
    · subst same
      rw [Function.update_self, Function.update_self]
    · rw [Function.update_of_ne same, Function.update_of_ne same]
      rfl
  · funext other
    change (after.connections other).held after.config.statePath = _
    rw [connections, config]
    by_cases same : other = connection
    · subst same
      rw [Function.update_self, Function.update_self]
    · rw [Function.update_of_ne same, Function.update_of_ne same]
      rfl

theorem paid_owes {connection : Nat} (paid : (server.connections connection).owes = none) :
    Function.update server.saves.owes connection none = server.saves.owes := by
  have none : server.saves.owes connection = none := paid
  rw [← none]
  exact Function.update_eq_self _ _

theorem free_pending {connection : Nat} (free : (server.connections connection).snapshot = none) :
    server.saves.pending connection = none ∧
      Function.update server.saves.pending connection none = server.saves.pending := by
  have none : server.saves.pending connection = none := by
    change (server.connections connection).held server.config.statePath = none
    unfold Connection.held
    rw [free]
    rfl
  refine ⟨none, ?_⟩
  rw [← none]
  exact Function.update_eq_self _ _

theorem away_pending {connection : Nat} {snapshot : Snapshot}
    (held : (server.connections connection).snapshot = some snapshot)
    (away : ¬ snapshot.path = server.config.statePath) : server.saves.pending connection = none ∧
      Function.update server.saves.pending connection none = server.saves.pending := by
  have none : server.saves.pending connection = none := by
    change (server.connections connection).held server.config.statePath = none
    unfold Connection.held
    rw [held, Option.filter_some, if_neg (by simp [away])]
    rfl
  refine ⟨none, ?_⟩
  rw [← none]
  exact Function.update_eq_self _ _

theorem saves_stay {after : CoordinatorServer} {connection : Nat} {changed : Connection}
    (connections : after.connections = Function.update server.connections connection changed)
    (config : after.config = server.config) (performed : after.performed = server.performed)
    (exports : after.exports = server.exports) (filed : after.filed = server.filed)
    (owes : changed.owes = (server.connections connection).owes)
    (snapshot : changed.snapshot = (server.connections connection).snapshot) : after.saves = server.saves := by
  obtain ⟨sameOwes, samePending⟩ := saves_turn connections config
  have held : changed.held server.config.statePath =
      (server.connections connection).held server.config.statePath := by
    unfold Connection.held
    rw [snapshot]
  have owesStay : after.saves.owes = server.saves.owes := by
    rw [sameOwes, owes]
    exact Function.update_eq_self connection server.saves.owes
  have pendingStay : after.saves.pending = server.saves.pending := by
    rw [samePending, held]
    exact Function.update_eq_self connection server.saves.pending
  have version : after.saves.version = server.saves.version := congrArg List.length performed
  have file : after.saves.file = server.saves.file := congrArg (Option.map Snapshot.toExport) filed
  exact Saves.ext version exports owesStay pendingStay file

/-- A move of the coordinator follows the moves of the threads that save. -/
structure Follows (path : Text) (server : CoordinatorServer) (result : CoordinatorServer × List Event)
    (made : List (Saves.Move Nat)) : Prop where
  orderly : Orderly path result.1
  saves : result.1.saves = run Saves.step server.saves made
  shows : result.2.filterMap (Event.written path) = (replies Saves.step server.saves made).flatten

theorem Follows.nothing (orderly : Orderly path server) : Follows path server (server, []) [] := ⟨orderly, rfl, rfl⟩

theorem Follows.turn (orderly : Orderly path server) {after : CoordinatorServer} {events : List Event}
    {connection : Nat} {changed : Connection} {made : List (Saves.Move Nat)}
    (connections : after.connections = Function.update server.connections connection changed)
    (config : after.config = server.config) (accepted : after.accepted = server.accepted)
    (inside : connection < server.accepted) (thread : changed.Orderly path)
    (saves : run Saves.step server.saves made =
      { version := after.performed.length
        exports := after.exports
        owes := Function.update server.saves.owes connection changed.owes
        pending := Function.update server.saves.pending connection (changed.held server.config.statePath)
        file := after.filed.map Snapshot.toExport })
    (shows : events.filterMap (Event.written path) = (replies Saves.step server.saves made).flatten) :
    Follows path server (after, events) made := by
  refine ⟨orderly.turn connections config accepted inside thread, ?_, shows⟩
  obtain ⟨owes, pending⟩ := saves_turn connections config
  rw [saves]
  exact Saves.ext rfl rfl owes pending rfl

theorem send_unwritten (connection recipient : Nat) (type : MessageType) (correlation : UInt64) (payload : Payload) :
    (server.send connection recipient type correlation payload).filterMap (Event.written path) = [] := by
  unfold send
  split <;> rfl

theorem assignment_unwritten (connection : Nat) (correlation : UInt64) (decision : Decision) (workload : Text) :
    (server.assignment connection correlation decision workload).filterMap (Event.written path) = [] := by
  unfold assignment
  split
  · rfl
  · split
    · rfl
    · exact send_unwritten ..

theorem Follows.pop (orderly : Orderly path server) {connection : Nat} {action : Action} {rest : List Action}
    (busy : (server.connections connection).todo = action :: rest) (other : ∀ path, action ≠ .save path)
    {events : List Event} (unwritten : events.filterMap (Event.written path) = []) {requested : Bool} :
    Follows path server
      ({ server.update connection { server.connections connection with todo := rest } with
        shutdownRequested := requested }, events) [] := by
  have thread : Connection.Orderly path { server.connections connection with todo := rest } := by
    obtain ⟨holding, owing⟩ := orderly.threads connection
    constructor
    · intro snapshot found
      obtain ⟨-, tail, same⟩ := holding snapshot found
      rw [busy] at same
      cases same
      exact absurd rfl (other snapshot.path)
    · intro version found
      obtain ⟨named, there, all⟩ := owing version found
      rw [busy] at there all
      refine ⟨named, ?_, fun other member => all other (List.mem_cons_of_mem _ member)⟩
      rcases List.mem_cons.mp there with same | later
      · exact absurd same.symm (other path)
      · exact later
  have inside := orderly.inside (.inl (busy ▸ List.cons_ne_nil _ _))
  exact ⟨orderly.turn rfl rfl rfl inside thread, saves_stay rfl rfl rfl rfl rfl rfl rfl, unwritten⟩

theorem export_follows (orderly : Orderly path server) {connection : Nat} {target : Text} {rest : List Action}
    (busy : (server.connections connection).todo = .save target :: rest) (named : target ≠ [])
    (free : (server.connections connection).snapshot = none) :
    Follows path server (server.save connection target rest)
      (if target = server.config.statePath then [.take connection] else [.pass]) := by
  have inside := orderly.inside (.inl (busy ▸ List.cons_ne_nil _ _))
  simp only [save, free, if_neg named]
  generalize taken : (⟨target, exportState server.engine.state server.engine.config server.engine.ids, server.exports,
    server.performed.length⟩ : Snapshot) = snapshot
  have thread : Connection.Orderly path
      { server.connections connection with snapshot := some snapshot, owes := none } := by
    constructor
    · intro other found
      cases found
      rw [← taken]
      exact ⟨rfl, rest, busy⟩
    · intro version found
      cases found
  obtain ⟨pending, same⟩ := free_pending free
  by_cases ours : target = server.config.statePath
  · rw [if_pos ours]
    have held : Connection.held server.config.statePath
        { server.connections connection with snapshot := some snapshot, owes := none } =
          some ⟨server.exports, server.performed.length⟩ := by
      have there : snapshot.path = server.config.statePath := by
        rw [← taken]
        exact ours
      unfold Connection.held
      rw [Option.filter_some, if_pos (decide_eq_true there), ← taken]
      rfl
    have after := Saves.step_take pending
    refine .turn orderly rfl rfl rfl inside thread ?_ ?_
    · rw [run_cons, run_nil, after, held]
      rfl
    · rw [replies, replies, after]
      rfl
  · rw [if_neg ours]
    have held : Connection.held server.config.statePath
        { server.connections connection with snapshot := some snapshot, owes := none } = none := by
      have away : ¬ snapshot.path = server.config.statePath := by
        rw [← taken]
        exact ours
      unfold Connection.held
      rw [Option.filter_some, if_neg (by simp [away])]
      rfl
    have paid := (orderly.threads connection).elsewhere busy (.inr (orderly.file ▸ ours))
    refine .turn orderly rfl rfl rfl inside thread ?_ rfl
    rw [run_cons, run_nil, held, paid_owes paid, same]
    rfl

theorem write_follows (orderly : Orderly path server) {connection : Nat} {target : Text} {rest : List Action}
    (busy : (server.connections connection).todo = .save target :: rest) {snapshot : Snapshot}
    (held : (server.connections connection).snapshot = some snapshot) :
    Follows path server (server.save connection target rest)
      (if snapshot.path = server.config.statePath then [.put connection] else []) := by
  have inside := orderly.inside (.inl (busy ▸ List.cons_ne_nil _ _))
  obtain ⟨paid, tail, same⟩ := (orderly.threads connection).holding snapshot held
  simp only [save, held]
  have thread : Connection.Orderly path
      { server.connections connection with todo := rest, snapshot := none, saved := {} } := .free paid rfl
  have owes := paid_owes paid
  have none : Connection.held server.config.statePath
      { server.connections connection with todo := rest, snapshot := none, saved := {} } = none := rfl
  by_cases ours : snapshot.path = server.config.statePath
  · rw [if_pos ours, if_pos ours]
    have pending : server.saves.pending connection = some snapshot.toExport := by
      change (server.connections connection).held server.config.statePath = _
      unfold Connection.held
      rw [held, Option.filter_some, if_pos (decide_eq_true ours)]
      rfl
    have after := Saves.step_put pending
    refine .turn orderly rfl rfl rfl inside thread ?_ ?_
    · rw [run_cons, run_nil, after, none, paid, owes]
      rfl
    · have written : Event.written path (.wrote snapshot) = some snapshot.toExport := if_pos (ours.trans orderly.file)
      rw [replies, replies, after, List.filterMap_cons, written]
      rfl
  · rw [if_neg ours, if_neg ours]
    have same := (away_pending held ours).2
    refine .turn orderly rfl rfl rfl inside thread ?_ ?_
    · rw [run_nil, none, paid, owes, same]
      rfl
    · have unwritten : Event.written path (.wrote snapshot) = .none := if_neg (orderly.file ▸ ours)
      rw [List.filterMap_cons, unwritten]
      rfl

theorem save_follows (orderly : Orderly path server) {connection : Nat} {target : Text} {rest : List Action}
    (busy : (server.connections connection).todo = .save target :: rest) :
    Follows path server (server.save connection target rest) (server.saveMoves connection target) := by
  have inside := orderly.inside (.inl (busy ▸ List.cons_ne_nil _ _))
  cases held : (server.connections connection).snapshot with
  | none =>
    by_cases empty : target = []
    · have paid := (orderly.threads connection).elsewhere busy (.inl empty)
      have result : server.save connection target rest =
          (server.update connection
            { server.connections connection with
              todo := rest
              saved := ⟨.invalidArgument, ascii "no persistence path configured"⟩
              owes := none }, []) := by
        simp only [save, held, if_pos empty]
      have made : server.saveMoves connection target = [] := by
        simp only [saveMoves, held, if_pos empty]
      rw [result, made]
      have thread : Connection.Orderly path
          { server.connections connection with
            todo := rest
            saved := ⟨.invalidArgument, ascii "no persistence path configured"⟩
            owes := none } := .free rfl held
      exact ⟨orderly.turn rfl rfl rfl inside thread, saves_stay rfl rfl rfl rfl rfl paid.symm rfl, rfl⟩
    · have made : server.saveMoves connection target =
          if target = server.config.statePath then [.take connection] else [.pass] := by
        simp only [saveMoves, held, if_neg empty]
      rw [made]
      exact export_follows orderly busy empty held
  | some snapshot =>
    have made : server.saveMoves connection target =
        if snapshot.path = server.config.statePath then [.put connection] else [] := by
      simp only [saveMoves, held]
    rw [made]
    exact write_follows orderly busy held

theorem Orderly.due (orderly : Orderly path server) {changed : Connection} {actions : List Action}
    (persists : server.persists = true) (unsaved : ∀ target, .save target ∉ actions)
    (todo : changed.todo = actions ++ [.save server.config.statePath]) (snapshot : changed.snapshot = none) :
    changed.Orderly path := by
  have named : path ≠ [] := by
    intro empty
    have file := orderly.file
    simp [CoordinatorServer.persists, file, empty] at persists
  constructor
  · intro held found
    rw [snapshot] at found
    cases found
  · intro version _
    rw [todo, orderly.file]
    refine ⟨named, List.mem_append_right _ List.mem_cons_self, fun other member => ?_⟩
    rcases List.mem_append.mp member with answered | last
    · exact absurd answered (unsaved other)
    · cases List.mem_singleton.mp last
      rfl

theorem performed_follows (orderly : Orderly path server) {after : CoordinatorServer} {events : List Event}
    {connection : Nat} {changed : Connection} {actions : List Action} {mutated : Bool}
    (ready : (server.connections connection).serving ∧ (server.connections connection).todo.isEmpty)
    (connections : after.connections = Function.update server.connections connection changed)
    (config : after.config = server.config) (accepted : after.accepted = server.accepted)
    (performed : after.performed.length = server.performed.length + 1) (exports : after.exports = server.exports)
    (filed : after.filed = server.filed) (snapshot : changed.snapshot = (server.connections connection).snapshot)
    (todo : changed.todo = actions ++ if mutated && server.persists then [.save server.config.statePath] else [])
    (owes : changed.owes = if mutated && server.persists then some after.performed.length else none)
    (unsaved : ∀ target, .save target ∉ actions) (unwritten : events.filterMap (Event.written path) = []) :
    Follows path server (after, events)
      (if mutated && server.persists then [.mutate connection] else [.change]) := by
  obtain ⟨free, paid⟩ := orderly.idle ready.2
  have inside := orderly.inside (.inr ready.1)
  have empty : changed.snapshot = none := snapshot.trans free
  have nothing : changed.held server.config.statePath = none := by
    unfold Connection.held
    rw [empty]
    rfl
  obtain ⟨pending, same⟩ := free_pending free
  by_cases due : (mutated && server.persists) = true
  · rw [if_pos due] at todo owes ⊢
    have persists : server.persists = true := (Bool.and_eq_true_iff.mp due).2
    have after := Saves.step_mutate (s := server.saves) ⟨paid, pending⟩
    refine .turn orderly connections config accepted inside (orderly.due persists unsaved todo empty) ?_ ?_
    · rw [run_cons, run_nil, after, nothing, same, owes, performed, exports, filed]
      rfl
    · rw [replies, replies, after]
      exact unwritten
  · rw [if_neg due] at todo owes ⊢
    refine .turn orderly connections config accepted inside (.free owes empty) ?_ unwritten
    rw [run_cons, run_nil, nothing, same, owes, paid_owes paid, performed, exports, filed]
    rfl

theorem decided_unwritten (answer : Answer) : List.filterMap (Event.written path)
    (match answer.decided with
      | none => []
      | some decision => if decision.outcome = .placed then [.issued decision.authority] else []) = [] := by
  split
  · rfl
  · split <;> rfl

theorem receive_follows (orderly : Orderly path server) (connection : Nat) (frame : FrameView) :
    Follows path server (server.receive connection frame) (server.moves (.receive connection frame)) := by
  by_cases ready : (server.connections connection).serving ∧ (server.connections connection).todo.isEmpty
  case neg =>
    simp only [receive, moves, if_neg ready]
    exact .nothing orderly
  obtain ⟨free, paid⟩ := orderly.idle ready.2
  have inside := orderly.inside (.inr ready.1)
  simp only [receive, moves, if_pos ready]
  cases asks : frame.message.operation with
  | none =>
    have direct := (@Message.handle_direct server.config server.engine frame.correlation frame.message asks).2
    simp only [direct]
    refine .turn orderly rfl rfl rfl inside (.free ?_ ?_) ?_ (decided_unwritten _)
    · simp
    · simp [free]
    · have owes := paid_owes paid
      have pending := (free_pending free).2
      simp only [Bool.false_and, Bool.false_eq_true, ↓reduceIte, Connection.held, Connection.hears_owes,
        Connection.hears_snapshot, free, Option.filter_none, Option.map_none, owes, pending, Option.toList_none,
        List.append_nil]
      rfl
  | some operation =>
    have unsaved (target : Text) :=
      @Message.handle_unsaved server.config server.engine frame.correlation frame.message operation asks target
    refine performed_follows orderly ready rfl rfl rfl ?_ rfl rfl ?_ ?_ ?_ unsaved (decided_unwritten _)
    · simp
    · simp
    · simp
    · simp

theorem act_follows (orderly : Orderly path server) (connection : Nat) :
    Follows path server (server.act connection) (server.moves (.act connection)) := by
  cases busy : (server.connections connection).todo with
  | nil =>
    simp only [act, moves, busy]
    exact .nothing orderly
  | cons action rest =>
    cases action with
    | send type correlation payload =>
      simp only [act, moves, busy]
      exact .pop orderly busy (fun _ same => by cases same) (send_unwritten ..)
    | pushAssignment correlation decision workload =>
      simp only [act, moves, busy]
      exact .pop orderly busy (fun _ same => by cases same) (assignment_unwritten ..)
    | save target =>
      simp only [act, moves, busy]
      exact save_follows orderly busy
    | answerSave correlation target =>
      simp only [act, moves, busy]
      exact .pop orderly busy (fun _ same => by cases same) (send_unwritten ..)
    | pushShutdown =>
      simp only [act, moves, busy]
      refine .pop orderly busy (fun _ same => by cases same) ?_
      rw [List.filterMap_flatMap]
      apply List.flatMap_eq_nil_iff.mpr
      intro peer _
      exact send_unwritten ..

theorem failSave_follows (orderly : Orderly path server) (connection : Nat) (status : Status) :
    Follows path server (server.failSave connection status, []) (server.moves (.failSave connection status)) := by
  cases held : (server.connections connection).snapshot with
  | none =>
    have still : server.failSave connection status = server := by
      simp only [failSave, held]
      split <;> trivial
    have made : server.moves (.failSave connection status) = [] := by
      simp only [moves, held]
      split <;> trivial
    rw [still, made]
    exact .nothing orderly
  | some snapshot =>
    obtain ⟨paid, rest, busy⟩ := (orderly.threads connection).holding snapshot held
    have inside := orderly.inside (.inl (busy ▸ List.cons_ne_nil _ _))
    have owes := paid_owes paid
    simp only [failSave, moves, busy, held]
    by_cases ours : snapshot.path = server.config.statePath
    · rw [if_pos ours]
      refine .turn orderly rfl rfl rfl inside (.free paid rfl) ?_ rfl
      rw [run_cons, run_nil, paid, owes]
      rfl
    · rw [if_neg ours]
      have same := (away_pending held ours).2
      refine .turn orderly rfl rfl rfl inside (.free paid rfl) ?_ rfl
      rw [run_nil, paid, owes]
      exact Saves.ext rfl rfl rfl same.symm rfl

theorem hangUp_follows (orderly : Orderly path server) (connection : Nat) :
    Follows path server (server.hangUp connection, []) (server.moves (.hangUp connection)) := by
  by_cases ready : (server.connections connection).serving ∧ (server.connections connection).todo.isEmpty
  case neg =>
    simp only [hangUp, moves, if_neg ready]
    exact .nothing orderly
  simp only [hangUp, moves, if_pos ready]
  split
  · have follows := fun after changed => @performed_follows path server orderly after [] connection changed [] true ready
    simp only [Bool.true_and, List.nil_append] at follows
    refine follows _ _ rfl rfl rfl ?_ rfl rfl rfl rfl rfl (fun _ member => absurd member List.not_mem_nil) rfl
    exact List.length_append
  · obtain ⟨free, paid⟩ := orderly.idle ready.2
    have inside := orderly.inside (.inr ready.1)
    have thread : Connection.Orderly path { server.connections connection with serving := false } := .free paid free
    exact ⟨orderly.turn rfl rfl rfl inside thread, saves_stay rfl rfl rfl rfl rfl rfl rfl, rfl⟩

theorem accept_follows (orderly : Orderly path server) :
    Follows path server (server.step .accept) (server.moves .accept) := by
  simp only [step, moves]
  split
  · exact .nothing orderly
  have before := orderly.unused server.accepted (Nat.le_refl _)
  refine ⟨?_, ?_, rfl⟩
  · constructor
    case file => exact orderly.file
    case started => exact Nat.succ_pos _
    case unused =>
      intro other outside
      have away : other ≠ server.accepted := by
        intro same
        rw [same] at outside
        exact absurd outside (Nat.not_succ_le_self _)
      refine (Function.update_of_ne away _ _).trans (orderly.unused other ?_)
      exact (Nat.le_succ _).trans outside
    case threads =>
      intro other
      by_cases same : other = server.accepted
      · subst same
        change Connection.Orderly path (Function.update server.connections server.accepted { serving := true } _)
        rw [Function.update_self]
        exact .free rfl rfl
      · change Connection.Orderly path (Function.update server.connections server.accepted { serving := true } other)
        rw [Function.update_of_ne same]
        exact orderly.threads other
  · exact saves_stay rfl rfl rfl rfl rfl (by rw [before]) (by rw [before])

theorem finish_follows (orderly : Orderly path server) :
    Follows path server (server.finish, []) (server.moves .finish) := by
  simp only [finish, moves]
  split
  case isFalse => exact .nothing orderly
  case isTrue ended =>
    have first := orderly.started
    have quiet := List.all_eq_true.mp ended.2.2 0 (List.mem_range.mpr first)
    have idle : (server.connections 0).todo.isEmpty := by
      unfold Connection.alive at quiet
      cases busy : (server.connections 0).todo.isEmpty with
      | true => rfl
      | false => simp [busy] at quiet
    obtain ⟨free, paid⟩ := orderly.idle idle
    refine ⟨orderly.turn rfl rfl rfl first (.free paid free), saves_stay rfl rfl rfl rfl rfl rfl rfl, rfl⟩

/-- The coordinator follows the threads that save. -/
theorem simulates (path : Text) :
    Simulates step Saves.step (Orderly path) saves moves (List.filterMap (Event.written path)) := by
  have follows (server : CoordinatorServer) (turn : Turn) (orderly : Orderly path server) :
      Follows path server (server.step turn) (server.moves turn) := by
    cases turn with
    | accept => exact accept_follows orderly
    | receive connection frame => exact receive_follows orderly connection frame
    | act connection => exact act_follows orderly connection
    | failSave connection status => exact failSave_follows orderly connection status
    | hangUp connection => exact hangUp_follows orderly connection
    | finish => exact finish_follows orderly
  constructor
  case keeps => exact fun server turn orderly => (follows server turn orderly).orderly
  case commutes => exact fun server turn orderly => (follows server turn orderly).saves
  case shows => exact fun server turn orderly => (follows server turn orderly).shows

end Threads

section Started

variable {config : CoordinatorConfig} {disk : Disk} {server : CoordinatorServer}
  (started : start config disk = .ok server)

include started

theorem start_orderly : Orderly config.statePath server := by
  have same := start_server started
  constructor
  case file => rw [same]
  case started =>
    rw [same]
    exact Nat.one_pos
  case unused =>
    intro connection _
    rw [same]
  case threads =>
    intro connection
    rw [same]
    exact .free rfl rfl

theorem start_saves : server.saves = {} := by
  rw [start_server started]
  rfl

end Started

end CoordinatorServer

end LabScheduler
