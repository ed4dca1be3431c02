import LabScheduler.Cluster.Loading
import LabScheduler.Cluster.Overtaking

namespace LabScheduler

open Foundation

def Sent.acknowledges (frame : Sent) : Bool :=
  match frame.type, frame.payload with
  | .resourceAck, .resourceAck message => message.code = .ok
  | .decision, .decision _ => true
  | .lifecycleAck, .lifecycleAck message => message.code = .ok
  | .completionAck, .completionAck message => message.accepted
  | .stateAck, .stateAck message => message.code = .ok
  | _, _ => false

/-- The mutation of a thread is the one it had made, or it owes its save. -/
def Connection.Marks (before after : Connection) : Prop :=
  ∀ version, after.change = some version → before.change = some version ∨ after.owes = some version

theorem Connection.Marks.of_eq {before after : Connection} (same : after.change = before.change) :
    before.Marks after := by
  intro version change
  rw [same] at change
  exact .inl change

namespace CoordinatorServer

/-- The next `start` succeeds on the bytes of the files, and what it loads contains the first operations. -/
def Keeps (server : CoordinatorServer) (turns : List Turn) (version : Nat) : Prop :=
  ∃ count, version ≤ count ∧ startFrom server.config (server.runs turns).disk.files =
    .ok ((Engine.fresh server.config.engine).step
      (.importState (server.engine.runs ((server.runs turns).performed.take count)).exported)).1

/-- The mutation that a thread has made is in the file, or on its way there. -/
def Owing (server : CoordinatorServer) : Prop :=
  ∀ connection version, (server.connections connection).change = some version → server.saves.Due connection version

section Threads

variable {path : Text} {server : CoordinatorServer}

theorem turn_threads {after : CoordinatorServer} {turned : Nat} {changed : Connection}
    {holds : Connection → Connection → Prop}
    (connections : after.connections = Function.update server.connections turned changed)
    (thread : holds (server.connections turned) changed) (others : ∀ connection, holds connection connection)
    (connection : Nat) : holds (server.connections connection) (after.connections connection) := by
  rw [connections]
  by_cases same : connection = turned
  · subst same
    rw [Function.update_self]
    exact thread
  · rw [Function.update_of_ne same]
    exact others _

theorem marks_step (persists : server.persists = true) (turn : Turn) (connection : Nat) :
    (server.connections connection).Marks ((server.step turn).1.connections connection) := by
  have still (connection : Connection) : connection.Marks connection := .of_eq rfl
  cases turn with
  | accept =>
    simp only [step]
    split
    · exact still _
    · exact turn_threads rfl (fun _ change => by cases change) still connection
  | receive turned frame =>
    simp only [step, receive]
    split
    · refine turn_threads rfl ?_ still connection
      intro version change
      right
      rw [Connection.hears_change] at change
      rw [Connection.hears_owes, persists, Bool.and_true]
      exact change
    · exact still _
  | act turned =>
    simp only [step, act]
    split
    · exact still _
    · exact turn_threads rfl (.of_eq rfl) still connection
    · exact turn_threads rfl (.of_eq rfl) still connection
    case h_4 target rest busy =>
      cases held : (server.connections turned).snapshot with
      | none =>
        by_cases empty : target = []
        · simp only [save, held, if_pos empty]
          exact turn_threads rfl (.of_eq rfl) still connection
        · simp only [save, held, if_neg empty]
          exact turn_threads rfl (.of_eq rfl) still connection
      | some snapshot =>
        simp only [save, held]
        exact turn_threads rfl (.of_eq rfl) still connection
    · exact turn_threads rfl (.of_eq rfl) still connection
    · exact turn_threads rfl (.of_eq rfl) still connection
  | failSave turned status =>
    simp only [step, failSave]
    split
    · exact turn_threads rfl (.of_eq rfl) still connection
    · exact still _
  | hangUp turned =>
    simp only [step, hangUp]
    split
    · split
      · refine turn_threads rfl ?_ still connection
        intro version change
        exact .inr change
      · exact turn_threads rfl (.of_eq rfl) still connection
    · exact still _
  | finish =>
    simp only [step, finish]
    split
    · exact turn_threads rfl (.of_eq rfl) still connection
    · exact still _

theorem step_owing (steady : Steady path server) (persists : server.persists = true) (owing : server.Owing)
    {turn : Turn} (inTurn : server.InTurn turn) (succeeds : Succeeds [turn]) : (server.step turn).1.Owing := by
  intro connection version change
  rcases marks_step persists turn connection version change with before | owes
  · have guarded : Guarded step InTurn server [turn] := ⟨inTurn, trivial⟩
    have due := steady.due guarded succeeds (owing connection version before)
    exact due
  · exact .inl owes

theorem sent_change {turn : Turn} {frame : Sent} (sent : .sent frame ∈ (server.step turn).2)
    (acknowledges : frame.acknowledges = true) :
    frame.change = (server.connections frame.recipient).change := by
  cases step_shown sent with
  | sends busy puts encoded =>
    cases puts with
    | reply => rfl
    | saved => rfl
    | push => simp [Sent.acknowledges, CoordinatorServer.frame] at acknowledges
    | shutdown => simp [Sent.acknowledges, CoordinatorServer.frame] at acknowledges

/-- The mutation of each success reply so far is in the file, or on its way there. -/
def Answered (server : CoordinatorServer) (events : List Event) : Prop :=
  ∀ frame, .sent frame ∈ events → frame.acknowledges = true → ∀ version, frame.change = some version →
    server.saves.Due frame.recipient version

theorem run_answered (steady : Steady path server) (persists : server.persists = true) (owing : server.Owing)
    {turns : List Turn} (inTurn : Guarded step InTurn server turns) (succeeds : Succeeds turns) {past : List Event}
    (answered : server.Answered past) : (server.runs turns).Answered (past ++ server.trace turns) := by
  induction turns generalizing server past with
  | nil =>
    rw [show server.trace [] = [] from rfl, List.append_nil]
    exact answered
  | cons turn rest ih =>
    obtain ⟨here, later⟩ := inTurn
    have first : Guarded step InTurn server [turn] := ⟨here, trivial⟩
    have head : Succeeds [turn] := fun connection status member =>
      succeeds connection status (List.mem_singleton.mp member ▸ List.mem_cons_self)
    have tail : Succeeds rest := fun connection status member =>
      succeeds connection status (List.mem_cons_of_mem _ member)
    have goesOn : (server.step turn).1.persists = true := by
      unfold CoordinatorServer.persists
      rw [server.step_config turn]
      exact persists
    have now : (server.step turn).1.Answered (past ++ (server.step turn).2) := by
      intro frame sent acknowledges version change
      have due : server.saves.Due frame.recipient version := by
        rcases List.mem_append.mp sent with before | new
        · exact answered frame before acknowledges version change
        · rw [sent_change new acknowledges] at change
          exact owing frame.recipient version change
      have kept := steady.due first head due
      exact kept
    have result := ih (steady.run first) goesOn (step_owing steady persists owing here head) later tail now
    rw [List.append_assoc] at result
    exact result

end Threads

end CoordinatorServer

/-- Whatever the turns, as long as no write fails or overtakes an older export, and what is in the file at the end can
    be read: a mutation whose success reply was sent is in what the next start loads, by the time its connection has
    finished its save. -/
theorem acknowledged_kept (config : CoordinatorConfig) (disk : Disk) (server : CoordinatorServer)
    (started : CoordinatorServer.start config disk = .ok server) (persists : server.persists = true)
    (turns : List Turn) (succeeds : CoordinatorServer.Succeeds turns)
    (inTurn : Guarded CoordinatorServer.step CoordinatorServer.InTurn server turns) (frame : Sent)
    (sent : .sent frame ∈ server.trace turns) (acknowledges : frame.acknowledges = true) (version : Nat)
    (change : frame.change = some version)
    (finished : ∀ target, .save target ∉ ((server.runs turns).connections frame.recipient).todo)
    (readable : ∀ durable, (server.runs turns).disk config.statePath = some durable → Restorable config.limits durable) :
    server.Keeps turns version := by
  have steady := CoordinatorServer.start_steady started
  have owing : server.Owing := by
    intro connection version change
    rw [CoordinatorServer.start_server started] at change
    cases change
  have nothing : server.Answered [] := fun frame sent => nomatch sent
  have answered := CoordinatorServer.run_answered steady persists owing inTurn succeeds nothing
  have due := answered frame sent acknowledges version change
  have orderly := (steady.run inTurn).orderly
  have recorded := (CoordinatorServer.start_recorded started).run turns
  obtain ⟨count, within, held⟩ := CoordinatorServer.settled recorded due (CoordinatorServer.quiet orderly finished)
  have same : server.config = config := by rw [CoordinatorServer.start_server started]
  have named : config.statePath ≠ [] := by
    intro none
    have empty : server.config.statePath.isEmpty = false := by
      simpa using (Bool.and_eq_true_iff.mp persists).2
    rw [same, none] at empty
    cases empty
  refine ⟨count, within, ?_⟩
  rw [same]
  exact CoordinatorServer.startFrom_some named held (readable _ held)

theorem Event.exists_of_any {events : List Event} {version : Nat}
    (found : events.any fun event =>
      match event with
      | .sent frame => frame.acknowledges && frame.change == some version
      | _ => false) :
    ∃ frame, .sent frame ∈ events ∧ frame.acknowledges = true ∧ frame.change = some version := by
  obtain ⟨event, member, holds⟩ := List.any_eq_true.mp found
  cases event with
  | sent frame =>
    obtain ⟨acknowledges, change⟩ := Bool.and_eq_true_iff.mp holds
    exact ⟨frame, member, acknowledges, beq_iff_eq.mp change⟩
  | issued authority => cases holds
  | wrote snapshot => cases holds

namespace Bench

/-- What the two saves leave: the bench, and another like it. -/
def saved : DurableState :=
  { epoch := ⟨1⟩, idCounter := 1
    resources := [7, 8].map fun id => registeredRecord ⟨1⟩ { advertisement with id := ⟨id⟩ } }

theorem saved_loadable : Loadable {} saved := by
  constructor
  case format => rfl
  case fits =>
    refine ⟨fair, by decide, ?_, by decide, ?_, by decide, ?_, by decide, ?_⟩
    · refine List.forall_mem_map.mpr fun id _ => ⟨bare_fits rfl (fun _ member => ?_) (listed_nil _), ?_⟩
      · exact absurd member List.not_mem_nil
      · exact Nat.le_of_ble_eq_true rfl
    all_goals exact fun _ member => absurd member List.not_mem_nil
  case canonical =>
    refine ⟨List.forall_mem_map.mpr fun id _ => ⟨List.Pairwise.nil, fun _ present => ?_⟩, fun _ member => ?_⟩
    · exact absurd present (Option.not_mem_none _)
    · exact absurd member List.not_mem_nil
  case size => decide +kernel

theorem saved_restorable : Restorable {} saved where
  toLoadable := saved_loadable
  note := by decide
  room := by decide
  valid := by decide +kernel

end Bench

theorem acknowledged_kept_bench : Bench.coordinator.Keeps Bench.serial 2 := by
  have started : CoordinatorServer.start Bench.coordination (fun _ => none) = .ok Bench.coordinator := rfl
  have succeeds : CoordinatorServer.Succeeds Bench.serial := by simp [CoordinatorServer.Succeeds, Bench.serial]
  have saved := CoordinatorServer.saved_of_idle started Bench.serial (by decide +kernel)
  have inTurn := CoordinatorServer.inTurn_of_ascending started Bench.serial succeeds saved (by decide +kernel)
  have replied : ∃ frame, .sent frame ∈ Bench.coordinator.trace Bench.serial ∧ frame.acknowledges = true ∧
      frame.change = some 2 := Event.exists_of_any (by decide +kernel)
  have readable (durable : DurableState)
      (held : (Bench.coordinator.runs Bench.serial).disk (ascii "state") = some durable) : Restorable {} durable := by
    have there : (Bench.coordinator.runs Bench.serial).disk (ascii "state") = some Bench.saved := rfl
    exact Option.some.inj (there.symm.trans held) ▸ Bench.saved_restorable
  obtain ⟨frame, sent, acknowledges, change⟩ := replied
  exact acknowledged_kept _ _ _ started rfl Bench.serial succeeds inTurn frame sent acknowledges 2 change
    (saved frame.recipient) readable

/-- The process is killed between its reply and its save. -/
def Bench.killed : List Turn := [.accept, .receive 1 (Bench.registration 7), .act 1]

/-- The registration was acknowledged, and there is no state file: the next start knows no resource. -/
theorem acknowledged_mutation_lost :
    CoordinatorServer.start Bench.coordination (fun _ => none) = .ok Bench.coordinator ∧
      Bench.coordinator.persists = true ∧ CoordinatorServer.Succeeds Bench.killed ∧
      (∃ frame, .sent frame ∈ Bench.coordinator.trace Bench.killed ∧ frame.acknowledges = true ∧
        frame.change = some 1) ∧
      (Bench.coordinator.runs Bench.killed).disk (ascii "state") = none ∧
      ¬ Bench.coordinator.Keeps Bench.killed 1 := by
  have missing : (Bench.coordinator.runs Bench.killed).disk (ascii "state") = none := by
    apply Option.isNone_iff_eq_none.mp
    decide +kernel
  refine ⟨rfl, rfl, ?_, Event.exists_of_any (by decide +kernel), missing, ?_⟩
  · simp [CoordinatorServer.Succeeds, Bench.killed]
  · intro keeps
    obtain ⟨count, within, loads⟩ := keeps
    have all : (Bench.coordinator.runs Bench.killed).performed.take count =
        (Bench.coordinator.runs Bench.killed).performed := List.take_of_length_le within
    have fresh : CoordinatorServer.startFrom Bench.coordination (Bench.coordinator.runs Bench.killed).disk.files =
        .ok (Engine.fresh {}) := CoordinatorServer.startFrom_none (.inr missing)
    have same := Except.ok.inj (fresh.symm.trans loads)
    rw [all] at same
    have counts := congrArg (fun engine => engine.state.resources.entries.length) same
    revert counts
    decide +kernel

end LabScheduler
