import LabScheduler.Cluster.Recorded
import LabScheduler.Cluster.Saving

namespace LabScheduler

open Foundation

namespace CoordinatorServer

/-- A write to the state file, while no other thread still holds an older export to it. -/
def InTurn (server : CoordinatorServer) : Turn → Prop
  | .act connection => ∀ other held waiting, other ≠ connection →
      (server.connections connection).held server.config.statePath = some held →
      (server.connections other).held server.config.statePath = some waiting → held.ticket < waiting.ticket
  | _ => True

def Saved (server : CoordinatorServer) : Prop :=
  ∀ connection target, .save target ∉ (server.connections connection).todo

def writes (server : CoordinatorServer) (turns : List Turn) : List Export :=
  (server.trace turns).filterMap (Event.written server.config.statePath)

def Succeeds (turns : List Turn) : Prop := ∀ connection status, Turn.failSave connection status ∉ turns

/-- The file never goes back, and in the end it holds the state after every mutation that was to be saved. -/
structure SavesForward (server : CoordinatorServer) (turns : List Turn) : Prop where
  ascending : (server.writes turns).Pairwise fun older newer => older.ticket < newer.ticket
  complete : Succeeds turns → (server.runs turns).Saved → ∀ first rest, turns = first ++ rest →
    ∀ connection version, ((server.runs first).connections connection).owes = some version →
      ∃ count, version ≤ count ∧ (server.runs turns).disk server.config.statePath =
        some (server.engine.runs ((server.runs turns).performed.take count)).exported

section Threads

variable {path : Text} {server : CoordinatorServer}

theorem moves_act (orderly : Orderly path server) {connection : Nat} {held : Export}
    (holding : (server.connections connection).held server.config.statePath = some held) :
    server.moves (.act connection) = [.put connection] := by
  unfold Connection.held at holding
  cases found : (server.connections connection).snapshot with
  | none =>
    rw [found] at holding
    cases holding
  | some snapshot =>
    obtain ⟨-, rest, busy⟩ := (orderly.threads connection).holding snapshot found
    by_cases ours : snapshot.path = server.config.statePath
    · simp only [moves, busy, saveMoves, found, if_pos ours]
    · rw [found, Option.filter_some, if_neg (by simp [ours])] at holding
      cases holding

theorem moves_cases (server : CoordinatorServer) (turn : Turn) : server.moves turn = [] ∨
    ∃ move, server.moves turn = [move] ∧ (∀ connection, move = .put connection → turn = .act connection) ∧
      ∀ connection, move = .drop connection → ∃ status, turn = .failSave connection status := by
  cases turn with
  | accept => exact .inl rfl
  | receive connection frame =>
    simp only [moves]
    split
    · split
      · exact .inl rfl
      · split
        · exact .inr ⟨_, rfl, by simp, by simp⟩
        · exact .inr ⟨_, rfl, by simp, by simp⟩
    · exact .inl rfl
  | act connection =>
    simp only [moves]
    split
    · unfold saveMoves
      split
      · split
        · exact .inl rfl
        · split
          · exact .inr ⟨_, rfl, by simp, by simp⟩
          · exact .inr ⟨_, rfl, by simp, by simp⟩
      · split
        · refine .inr ⟨_, rfl, fun other same => ?_, by simp⟩
          cases same
          rfl
        · exact .inl rfl
    · exact .inl rfl
  | failSave connection status =>
    simp only [moves]
    split
    · split
      · refine .inr ⟨_, rfl, by simp, fun other same => ?_⟩
        cases same
        exact ⟨status, rfl⟩
      · exact .inl rfl
    · exact .inl rfl
  | hangUp connection =>
    simp only [moves]
    split
    · split
      · split
        · exact .inr ⟨_, rfl, by simp, by simp⟩
        · exact .inr ⟨_, rfl, by simp, by simp⟩
      · exact .inl rfl
    · exact .inl rfl
  | finish => exact .inl rfl

theorem inTurn_iff (orderly : Orderly path server) (turn : Turn) :
    Guarded Saves.step Saves.InTurn server.saves (server.moves turn) ↔ server.InTurn turn := by
  constructor
  · intro guarded
    cases turn with
    | act connection =>
      intro other held waiting away holding pending
      rw [moves_act orderly holding] at guarded
      exact guarded.1 other held waiting away holding pending
    | _ => trivial
  · intro turns
    rcases server.moves_cases turn with nothing | ⟨move, one, puts, -⟩
    · rw [nothing]
      trivial
    · rw [one]
      refine ⟨?_, trivial⟩
      cases move with
      | put connection =>
        rw [puts connection rfl] at turns
        exact turns
      | _ => trivial

theorem succeeds_undropped {turns : List Turn} (succeeds : Succeeds turns) (connection : Nat) :
    .drop connection ∉ runMoves step moves server turns := by
  induction turns generalizing server with
  | nil => exact List.not_mem_nil
  | cons turn rest ih =>
    intro made
    rcases List.mem_append.mp made with here | later
    · rcases server.moves_cases turn with nothing | ⟨move, one, -, drops⟩
      · rw [nothing] at here
        cases here
      · rw [one] at here
        obtain ⟨status, same⟩ := drops connection (List.mem_singleton.mp here).symm
        exact succeeds connection status (same ▸ List.mem_cons_self)
    · exact ih (fun connection status member => succeeds connection status (List.mem_cons_of_mem _ member)) later

theorem quiet (orderly : Orderly path server) {connection : Nat}
    (finished : ∀ target, .save target ∉ (server.connections connection).todo) :
    server.saves.owes connection = none ∧ server.saves.pending connection = none := by
  obtain ⟨holding, owing⟩ := orderly.threads connection
  constructor
  · by_contra some
    obtain ⟨version, found⟩ := Option.ne_none_iff_exists'.mp some
    exact finished path (owing version found).2.1
  · refine (free_pending ?_).1
    by_contra some
    obtain ⟨snapshot, found⟩ := Option.ne_none_iff_exists'.mp some
    obtain ⟨-, rest, busy⟩ := holding snapshot found
    exact finished snapshot.path (busy ▸ List.mem_cons_self)

/-- As long as every write keeps its turn, the file is older than what is still held. -/
structure Steady (path : Text) (server : CoordinatorServer) : Prop where
  orderly : Orderly path server
  sound : Saves.Sound server.saves
  current : Saves.Current server.saves

theorem Steady.run (steady : Steady path server) {turns : List Turn} (inTurn : Guarded step InTurn server turns) :
    Steady path (server.runs turns) := by
  obtain ⟨orderly, sound, current⟩ := steady
  have guarded := ((simulates path).guarded orderly turns fun _ turn orderly => inTurn_iff orderly turn).mpr inTurn
  obtain ⟨kept, follows⟩ := (simulates path).run orderly turns
  obtain ⟨still, ahead⟩ := Saves.run_current sound current guarded
  rw [← follows] at still ahead
  exact ⟨kept, still, ahead⟩

theorem Steady.due (steady : Steady path server) {turns : List Turn} (inTurn : Guarded step InTurn server turns)
    (succeeds : Succeeds turns) {connection version : Nat} (due : server.saves.Due connection version) :
    (server.runs turns).saves.Due connection version := by
  obtain ⟨orderly, sound, current⟩ := steady
  have guarded := ((simulates path).guarded orderly turns fun _ turn orderly => inTurn_iff orderly turn).mpr inTurn
  rw [((simulates path).run orderly turns).2]
  exact Saves.run_due due sound current guarded (succeeds_undropped succeeds)

/-- Once the thread has finished its save, the file holds the state after the change it was for. -/
theorem settled {engine : Engine} {before : Option DurableState} (recorded : Recorded path engine before server)
    {connection version : Nat} (due : server.saves.Due connection version)
    (quiet : server.saves.owes connection = none ∧ server.saves.pending connection = none) :
    ∃ count, version ≤ count ∧ server.disk path = some (engine.runs (server.performed.take count)).exported := by
  obtain ⟨written, file, within⟩ := due.settled quiet.1 quiet.2
  obtain ⟨snapshot, filed, rfl⟩ := Option.map_eq_some_iff.mp file
  obtain ⟨there, -, state⟩ := recorded.filed snapshot filed
  rw [state] at there
  exact ⟨snapshot.version, within, there⟩

theorem Recorded.run {engine : Engine} {before : Option DurableState} (recorded : Recorded path engine before server)
    (turns : List Turn) : Recorded path engine before (server.runs turns) := by
  induction turns generalizing server with
  | nil => exact recorded
  | cons turn rest ih => exact ih (recorded.step turn)

end Threads

section Runs

variable {config : CoordinatorConfig} {disk : Disk} {server : CoordinatorServer}
  (started : start config disk = .ok server) (turns : List Turn)

include started

theorem start_path : server.config.statePath = config.statePath := (start_orderly started).file

theorem start_steady : Steady config.statePath server := by
  constructor
  case orderly => exact start_orderly started
  case sound =>
    rw [start_saves started]
    exact .start
  case current =>
    rw [start_saves started]
    exact .start

theorem writes_eq : server.writes turns =
    (replies Saves.step server.saves (runMoves step moves server turns)).flatten := by
  have orderly := start_orderly started
  unfold writes trace
  rw [orderly.file, List.filterMap_flatten]
  exact (simulates config.statePath).trace orderly turns

theorem ascending_iff : (server.writes turns).Pairwise (fun older newer => older.ticket < newer.ticket) ↔
    Guarded Saves.step Saves.Forward server.saves (runMoves step moves server turns) := by
  rw [writes_eq started, Saves.forward_iff_ascending, start_saves started, ← List.isChain_iff_pairwise]
  rfl

theorem turns_iff : Guarded Saves.step Saves.InTurn server.saves (runMoves step moves server turns) ↔
    Guarded step InTurn server turns := by
  exact (simulates config.statePath).guarded (start_orderly started) turns fun _ turn orderly => inTurn_iff orderly turn

theorem savesForward (inTurn : Guarded step InTurn server turns) : SavesForward server turns := by
  have guarded := (turns_iff started turns).mpr inTurn
  rw [start_saves started] at guarded
  constructor
  case ascending =>
    rw [ascending_iff started, start_saves started]
    exact Saves.forward_of_inTurn .start .start guarded
  case complete =>
    intro succeeds saved first rest same connection version owes
    subst same
    obtain ⟨before, after⟩ := guarded_append.mp inTurn
    have steady := (start_steady started).run before
    have due : (server.runs first).saves.Due connection version := .inl owes
    have later := steady.due after (fun connection status member => succeeds connection status
      (List.mem_append_right _ member)) due
    have recorded := (start_recorded started).run (first ++ rest)
    have orderly := ((simulates config.statePath).run (start_orderly started) (first ++ rest)).1
    have whole : server.runs (first ++ rest) = (server.runs first).runs rest := run_append server first rest
    rw [← whole] at later
    have result := settled recorded later (quiet orderly (saved connection))
    rw [start_path started]
    exact result

/-- When every write succeeds and every thread has finished, a save out of turn has taken the file back. -/
theorem inTurn_of_ascending (succeeds : Succeeds turns) (saved : (server.runs turns).Saved)
    (ascending : (server.writes turns).Pairwise fun older newer => older.ticket < newer.ticket) :
    Guarded step InTurn server turns := by
  rw [ascending_iff started] at ascending
  rw [← turns_iff started]
  obtain ⟨orderly, follows⟩ := (simulates config.statePath).run (start_orderly started) turns
  refine Saves.inTurn_of_forward ?_ ascending (succeeds_undropped succeeds) ?_
  · rw [start_saves started]
    exact .start
  · intro connection
    rw [← follows]
    exact (quiet orderly (saved connection)).2

theorem saved_of_idle
    (idle : (server.runs turns).peers.all fun peer => ((server.runs turns).connections peer).todo.isEmpty) :
    (server.runs turns).Saved := by
  intro connection target member
  have orderly := ((simulates config.statePath).run (start_orderly started) turns).1
  have inside := orderly.inside (.inl (List.ne_nil_of_mem member))
  have nothing := List.all_eq_true.mp idle connection (List.mem_range.mpr inside)
  rw [List.isEmpty_iff.mp nothing] at member
  cases member

end Runs

end CoordinatorServer

/-- Whatever the turns of the threads, the state file only goes forward as long as no write overtakes an older
    export, and in a run that finishes its saves it goes back as soon as one does. -/
theorem saves_forward (config : CoordinatorConfig) (disk : Disk) (server : CoordinatorServer)
    (started : CoordinatorServer.start config disk = .ok server) (turns : List Turn) :
    (Guarded CoordinatorServer.step CoordinatorServer.InTurn server turns → server.SavesForward turns) ∧
      (CoordinatorServer.Succeeds turns → (server.runs turns).Saved →
        (server.SavesForward turns ↔ Guarded CoordinatorServer.step CoordinatorServer.InTurn server turns)) := by
  have forward := CoordinatorServer.savesForward started turns
  refine ⟨forward, fun succeeds saved => ⟨fun holds => ?_, forward⟩⟩
  exact CoordinatorServer.inTurn_of_ascending started turns succeeds saved holds.ascending

namespace Bench

/-- A coordinator that saves to one file; what it reads and sends is well formed. -/
def coordination : CoordinatorConfig :=
  { statePath := ascii "state", codec := { encodes := fun _ => true, decodes := fun _ _ => .ok () } }

def coordinator : CoordinatorServer :=
  { config := coordination, engine := Engine.fresh { limits := coordination.limits }, disk := fun _ => none }

def registration (resource : UInt64) : FrameView :=
  { correlation := 1, message := .registerResource { advertisement with id := ⟨resource⟩ } }

/-- The first connection exports before the second one registers its resource, and writes after it. -/
def overtaken : List Turn :=
  [.accept, .accept, .receive 1 (registration 7), .act 1, .act 1, .receive 2 (registration 8), .act 2, .act 2, .act 2,
    .act 1]

/-- The same with each save finished before the next. -/
def serial : List Turn :=
  [.accept, .accept, .receive 1 (registration 7), .act 1, .act 1, .act 1, .receive 2 (registration 8), .act 2, .act 2,
    .act 2]

end Bench

theorem saves_forward_bench : Bench.coordinator.SavesForward Bench.serial ∧
    Guarded CoordinatorServer.step CoordinatorServer.InTurn Bench.coordinator Bench.serial := by
  have started : CoordinatorServer.start Bench.coordination (fun _ => none) = .ok Bench.coordinator := rfl
  have succeeds : CoordinatorServer.Succeeds Bench.serial := by simp [CoordinatorServer.Succeeds, Bench.serial]
  have saved := CoordinatorServer.saved_of_idle started Bench.serial (by decide +kernel)
  have inTurn := CoordinatorServer.inTurn_of_ascending started Bench.serial succeeds saved (by decide +kernel)
  obtain ⟨forward, exact⟩ := saves_forward Bench.coordination _ Bench.coordinator started Bench.serial
  exact ⟨forward inTurn, (exact succeeds saved).mp (forward inTurn)⟩

/-- The older export is written last, and the file loses a mutation that was saved. -/
theorem overtaken_save_authoritative :
    CoordinatorServer.start Bench.coordination (fun _ => none) = .ok Bench.coordinator ∧
      CoordinatorServer.Succeeds Bench.overtaken ∧ (Bench.coordinator.runs Bench.overtaken).Saved ∧
      (Bench.coordinator.writes Bench.overtaken).map Export.version = [2, 1] ∧
      ¬ Bench.coordinator.SavesForward Bench.overtaken ∧
      ((Bench.coordinator.runs Bench.overtaken).disk (ascii "state")).map
        (fun durable => durable.resources.map (·.id)) = some [⟨7⟩] ∧
      (Bench.coordinator.runs Bench.overtaken).engine.state.resources.entries.map (·.id) = [⟨7⟩, ⟨8⟩] := by
  have started : CoordinatorServer.start Bench.coordination (fun _ => none) = .ok Bench.coordinator := rfl
  refine ⟨started, ?_, ?_, ?_, ?_, ?_, ?_⟩
  · simp [CoordinatorServer.Succeeds, Bench.overtaken]
  · exact CoordinatorServer.saved_of_idle started Bench.overtaken (by decide +kernel)
  · decide +kernel
  · intro forward
    have descending : ¬ (Bench.coordinator.writes Bench.overtaken).Pairwise fun older newer =>
        older.ticket < newer.ticket := by decide +kernel
    exact descending forward.ascending
  · decide +kernel
  · decide +kernel

end LabScheduler
