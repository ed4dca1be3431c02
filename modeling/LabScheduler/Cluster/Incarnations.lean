import LabScheduler.Foundation.Numbered
import LabScheduler.Engine.Fencing
import LabScheduler.Cluster.Overtaking

namespace LabScheduler

open Foundation

def Event.epoch : Event → Option CoordinatorEpoch
  | .sent frame => some frame.epoch
  | .issued authority => some authority.epoch
  | .wrote _ => none

/-- A process that has started, and its turns until it was killed. -/
structure CoordinatorProcess where
  server : CoordinatorServer
  turns : List Turn

namespace CoordinatorProcess

variable (process : CoordinatorProcess)

def trace : List Event := process.server.trace process.turns

def epoch : CoordinatorEpoch := process.server.engine.state.epoch

/-- The epochs of the frames it sent and of the envelopes it issued. -/
def epochs : List CoordinatorEpoch := process.trace.filterMap Event.epoch

def Speaks : Prop := process.epochs ≠ []

end CoordinatorProcess

def CoordinatorProcess.Saves (path : Text) (process : CoordinatorProcess) : Prop :=
  ∃ snapshot, .wrote snapshot ∈ process.trace ∧ snapshot.path = path

/-- The processes of the starts that succeed, each on the disk that the one before it left. -/
def processes (path : Text) : Disk → List (CoordinatorConfig × List Turn) → List CoordinatorProcess
  | _, [] => []
  | disk, (config, turns) :: rest =>
    match CoordinatorServer.start { config with statePath := path } disk with
    | .error _ => processes path disk rest
    | .ok server => ⟨server, turns⟩ :: processes path (server.runs turns).disk rest

section Operations

variable {config : CoordinatorConfig} {engine : Engine} {correlation : UInt64} {message : Message}

theorem Message.operation_leaves {operation : Operation} (asks : message.operation = some operation) :
    Engine.leavesEpoch operation := by
  cases message <;> cases asks <;> rfl

theorem Message.handle_decided {decision : Decision}
    (decided : (message.handle config engine correlation).2.decided = some decision) :
    ∃ operation, message.operation = some operation ∧ (engine.step operation).2.envelope = decision.envelope := by
  unfold Message.handle at decided
  cases asks : message.operation with
  | none =>
    rw [asks] at decided
    cases message with
    | inspect | saveState | shutdown | refused | other => cases decided
    | _ => cases asks
  | some operation =>
    rw [asks] at decided
    refine ⟨operation, rfl, ?_⟩
    change (message.answer config correlation (engine.step operation).1.state.epoch (engine.step operation).2).decided =
      some decision at decided
    generalize (engine.step operation).2 = reply at decided
    unfold Message.answer at decided
    split at decided
    case h_5 =>
      unfold decisionAnswer at decided
      split at decided
      · cases decided
        rfl
      · cases decided
    case h_11 | h_12 =>
      unfold reassignmentAnswer at decided
      split at decided
      · cases decided
        rfl
      · cases decided
    case h_2 | h_3 | h_4 =>
      unfold resourceAnswer at decided
      split at decided <;> cases decided
    case h_6 | h_7 =>
      unfold placementAnswer at decided
      split at decided <;> cases decided
    all_goals cases decided

end Operations

theorem replaceTermination_epoch (state : SchedulerState) (record : PlacementRecord) {target : PlacementState}
    (reason fallback : Text) (closed : placementStateIsLive target = false) :
    (replaceTermination state record target reason fallback).epoch = state.epoch :=
  sameEpoch_wideFrame.toFrame.terminate state record _ closed

theorem Engine.Calls.epoch {engine : Engine} {operation : Operation} {call : SchedulingCall}
    (calls : engine.Calls operation call) : call.state.epoch = engine.state.epoch := by
  cases calls with
  | submit => exact sameEpoch_wideFrame.toFrame.admits ..
  | reassign => exact replaceTermination_epoch _ _ _ _ rfl
  | preempt => exact replaceTermination_epoch _ _ _ _ rfl

theorem Engine.step_envelope_epoch {engine : Engine} {operation : Operation} {authority : AuthorityEnvelope}
    (handed : (engine.step operation).2.envelope = some authority) : authority.epoch = engine.state.epoch := by
  obtain ⟨call, decision, calls, decided, envelope⟩ := Engine.step_envelope handed
  obtain ⟨placed, rfl⟩ := Decision.envelope_some envelope
  have enveloped := scheduleLocked_authority decided placed
  have result : ScheduleResult call.state engine.config engine.ids call.stored call.generation call.reassignments
    (call.scheduled engine.config engine.ids) := scheduleLocked_result
  have same : call.state.epoch = engine.state.epoch := calls.epoch
  generalize call.scheduled engine.config engine.ids = scheduled at decided result
  cases result with
  | noPlacement outcome =>
    cases decided
    rw [outcome] at placed
    cases placed
  | refused => cases decided
  | broken => cases decided
  | placed _ _ committed both =>
    cases decided
    rw [enveloped, both.2, committed]
    exact same

theorem Engine.runs_epoch {engine : Engine} {operations : List Operation}
    (leaves : ∀ operation ∈ operations, Engine.leavesEpoch operation) :
    (engine.runs operations).state.epoch = engine.state.epoch := by
  induction operations generalizing engine with
  | nil => rfl
  | cons operation rest ih =>
    have here : (engine.step operation).1.state.epoch = engine.state.epoch :=
      Engine.step_wideFrame sameEpoch_wideFrame (leaves operation List.mem_cons_self)
    have later : ∀ other ∈ rest, Engine.leavesEpoch other :=
      fun other member => leaves other (List.mem_cons_of_mem _ member)
    exact (ih later).trans here

theorem importState_epoch {state after : SchedulerState} {config : EngineConfig} {ids drawn : IdGenerator}
    {durable : DurableState} {report : RecoveryReport}
    (restored : importState state config ids durable = (after, drawn, .ok report)) :
    durable.epoch.value ≠ 0 ∧ after.epoch = durable.epoch.bump := by
  unfold importState at restored
  split at restored
  · cases restored
  · rename_i accepted
    cases restored
    constructor
    · simp only [importChecks, check_bind_ok] at accepted
      have valid := accepted.1
      simp only [validateDurableState, check_bind_ok, check_ok] at valid
      exact valid.2.1
    · exact rebuildState_epoch ..

namespace CoordinatorServer

variable {server : CoordinatorServer}

theorem step_shows {turn : Turn} {event : Event} {epoch : CoordinatorEpoch} (member : event ∈ (server.step turn).2)
    (shows : event.epoch = some epoch) : epoch = server.engine.state.epoch := by
  cases step_shown member with
  | issues decided placed =>
    cases shows
    obtain ⟨operation, -, handed⟩ := Message.handle_decided decided
    rw [Decision.envelope, if_pos placed] at handed
    exact Engine.step_envelope_epoch handed
  | sends busy puts encoded =>
    cases shows
    cases puts <;> rfl
  | writes => cases shows

theorem step_performed (server : CoordinatorServer) (turn : Turn) :
    ∃ more, (server.step turn).1.performed = server.performed ++ more ∧
      (server.step turn).1.engine = server.engine.runs more ∧ ∀ operation ∈ more, Engine.leavesEpoch operation := by
  have nothing : ∃ more, server.performed = server.performed ++ more ∧ server.engine = server.engine.runs more ∧
      ∀ operation ∈ more, Engine.leavesEpoch operation :=
    ⟨[], (List.append_nil _).symm, rfl, fun _ member => absurd member List.not_mem_nil⟩
  cases turn with
  | accept =>
    simp only [step]
    split <;> exact nothing
  | receive connection frame =>
    simp only [step, receive]
    split
    · refine ⟨frame.message.operation.toList, rfl, Message.handle_engine .., fun operation member => ?_⟩
      exact Message.operation_leaves (Option.mem_toList.mp member)
    · exact nothing
  | act connection =>
    simp only [step, act]
    split
    case h_4 =>
      unfold save
      extract_lets thread
      split
      · split <;> exact nothing
      · exact nothing
    all_goals exact nothing
  | failSave connection status =>
    simp only [step, failSave]
    split <;> exact nothing
  | hangUp connection =>
    simp only [step, hangUp]
    split
    · split
      · refine ⟨[_], rfl, rfl, fun operation member => ?_⟩
        rw [List.mem_singleton.mp member]
        rfl
      · exact nothing
    · exact nothing
  | finish =>
    simp only [step, finish]
    split <;> exact nothing

theorem step_filed (server : CoordinatorServer) (turn : Turn) :
    (server.step turn).1.filed ≠ none ↔
      server.filed ≠ none ∨
        ∃ snapshot, .wrote snapshot ∈ (server.step turn).2 ∧ snapshot.path = server.config.statePath := by
  have unwritten {after : Option Snapshot} {events : List Event} (kept : after = server.filed)
      (silent : ∀ snapshot, .wrote snapshot ∉ events) :
      after ≠ none ↔
        server.filed ≠ none ∨ ∃ snapshot, .wrote snapshot ∈ events ∧ snapshot.path = server.config.statePath := by
    rw [kept]
    apply (or_iff_left _).symm
    intro wrote
    obtain ⟨snapshot, member, -⟩ := wrote
    exact silent snapshot member
  have quiet {events : List Event} (none : events = []) : ∀ snapshot, .wrote snapshot ∉ events := by
    intro snapshot member
    rw [none] at member
    exact absurd member List.not_mem_nil
  have spoken {connection : Nat} {action : Action} {rest : List Action}
      (busy : (server.connections connection).todo = action :: rest) (unsaved : ∀ target, action ≠ .save target) :
      ∀ snapshot, .wrote snapshot ∉ (server.step (.act connection)).2 := by
    intro snapshot member
    cases step_shown member with
    | writes saving held =>
      rw [busy] at saving
      exact unsaved _ (List.cons.inj saving).1
  cases turn with
  | accept =>
    simp only [step]
    split <;> exact unwritten rfl (quiet rfl)
  | receive connection frame =>
    have kept : (server.receive connection frame).1.filed = server.filed := by
      simp only [receive]
      split <;> rfl
    apply unwritten kept
    intro snapshot member
    cases step_shown member
  | act connection =>
    cases busy : (server.connections connection).todo with
    | nil =>
      simp only [step, act, busy]
      exact unwritten rfl (quiet rfl)
    | cons action rest =>
      cases action with
      | save target =>
        simp only [step, act, busy]
        unfold save
        extract_lets thread
        split
        · split <;> exact unwritten rfl (quiet rfl)
        · rename_i snapshot held
          by_cases ours : snapshot.path = server.config.statePath
          · apply iff_of_true
            · show (if snapshot.path = server.config.statePath then some snapshot else server.filed) ≠ none
              rw [if_pos ours]
              exact Option.some_ne_none _
            · exact .inr ⟨snapshot, List.mem_singleton.mpr rfl, ours⟩
          · show (if snapshot.path = server.config.statePath then some snapshot else server.filed) ≠ none ↔ _
            rw [if_neg ours]
            apply (or_iff_left _).symm
            intro wrote
            obtain ⟨other, member, there⟩ := wrote
            cases List.mem_singleton.mp member
            exact ours there
      | send | pushAssignment | answerSave | pushShutdown =>
        have kept : (server.act connection).1.filed = server.filed := by
          simp only [act, busy]
          rfl
        apply unwritten kept
        apply spoken busy
        intro target same
        cases same
  | failSave connection status =>
    simp only [step, failSave]
    split <;> exact unwritten rfl (quiet rfl)
  | hangUp connection =>
    simp only [step, hangUp]
    split
    · split <;> exact unwritten rfl (quiet rfl)
    · exact unwritten rfl (quiet rfl)
  | finish =>
    simp only [step, finish]
    split <;> exact unwritten rfl (quiet rfl)

section Runs

variable (server) (turns : List Turn)

theorem run_performed (fresh : server.performed = []) :
    ∀ operation ∈ (server.runs turns).performed, Engine.leavesEpoch operation := by
  let leaves (server : CoordinatorServer) : Prop := ∀ operation ∈ server.performed, Engine.leavesEpoch operation
  have preserved : ∀ server turn, leaves server → True → leaves (server.step turn).1 := by
    intro server turn sofar _ operation member
    obtain ⟨more, performed, -, new⟩ := server.step_performed turn
    rw [performed] at member
    rcases List.mem_append.mp member with early | late
    · exact sofar operation early
    · exact new operation late
  have initial : leaves server := by
    intro operation member
    rw [fresh] at member
    cases member
  exact run_invariant preserved (guarded_of_forall (fun _ _ => trivial) server turns) initial

theorem step_epoch (turn : Turn) : (server.step turn).1.engine.state.epoch = server.engine.state.epoch := by
  obtain ⟨more, -, ran, leaves⟩ := server.step_performed turn
  rw [ran]
  exact Engine.runs_epoch leaves

theorem trace_cons (turn : Turn) :
    server.trace (turn :: turns) = (server.step turn).2 ++ (server.step turn).1.trace turns := rfl

theorem run_filed : (server.runs turns).filed ≠ none ↔
    server.filed ≠ none ∨ ∃ snapshot, .wrote snapshot ∈ server.trace turns ∧ snapshot.path = server.config.statePath := by
  induction turns generalizing server with
  | nil =>
    apply (or_iff_left _).symm
    intro wrote
    obtain ⟨snapshot, member, -⟩ := wrote
    cases member
  | cons turn rest ih =>
    have later := ih (server.step turn).1
    have here := server.step_filed turn
    rw [server.step_config turn] at later
    show ((server.step turn).1.runs rest).filed ≠ none ↔ _
    rw [later, here, or_assoc, trace_cons]
    apply or_congr_right
    constructor
    · intro wrote
      rcases wrote with ⟨snapshot, member, there⟩ | ⟨snapshot, member, there⟩
      · exact ⟨snapshot, List.mem_append_left _ member, there⟩
      · exact ⟨snapshot, List.mem_append_right _ member, there⟩
    · intro wrote
      obtain ⟨snapshot, member, there⟩ := wrote
      rcases List.mem_append.mp member with early | late
      · exact .inl ⟨snapshot, early, there⟩
      · exact .inr ⟨snapshot, late, there⟩

/-- Whatever a process shows, it shows under the epoch it has started with. -/
theorem run_shows {event : Event} {epoch : CoordinatorEpoch} (member : event ∈ server.trace turns)
    (shows : event.epoch = some epoch) : epoch = server.engine.state.epoch := by
  induction turns generalizing server with
  | nil => cases member
  | cons turn rest ih =>
    rw [trace_cons] at member
    rcases List.mem_append.mp member with here | later
    · exact step_shows here shows
    · exact (ih (server.step turn).1 later).trans (server.step_epoch turn)

end Runs

section Started

variable {config : CoordinatorConfig} {disk : Disk} (started : start config disk = .ok server)

include started

theorem started_filed (turns : List Turn) : (server.runs turns).filed ≠ none ↔
    ∃ snapshot, .wrote snapshot ∈ server.trace turns ∧ snapshot.path = config.statePath := by
  have filed := server.run_filed turns
  have same := start_server started
  have unfiled : server.filed = none := by rw [same]
  have path : server.config.statePath = config.statePath := by rw [same]
  rw [unfiled, path] at filed
  rw [filed]
  apply or_iff_right
  exact fun some => some rfl

theorem started_saved {turns : List Turn}
    (wrote : ∃ snapshot, .wrote snapshot ∈ server.trace turns ∧ snapshot.path = config.statePath) :
    ∃ durable, (server.runs turns).disk config.statePath = some durable ∧
      durable.epoch = server.engine.state.epoch := by
  have recorded := (start_recorded started).run turns
  have fresh : server.performed = [] := by rw [start_server started]
  obtain ⟨snapshot, found⟩ := Option.ne_none_iff_exists'.mp ((started_filed started turns).mpr wrote)
  obtain ⟨there, within, state⟩ := recorded.filed snapshot found
  refine ⟨snapshot.state, there, ?_⟩
  rw [state]
  show (server.engine.runs ((server.runs turns).performed.take snapshot.version)).state.epoch = _
  apply Engine.runs_epoch
  intro operation member
  exact server.run_performed turns fresh operation (List.mem_of_mem_take member)

theorem started_unsaved {turns : List Turn}
    (silent : ¬ ∃ snapshot, .wrote snapshot ∈ server.trace turns ∧ snapshot.path = config.statePath) :
    (server.runs turns).disk config.statePath = disk config.statePath := by
  have recorded := (start_recorded started).run turns
  apply recorded.unfiled
  by_contra some
  exact silent ((started_filed started turns).mp some)

end Started

/-- The epoch of a process is the one next to that of its state file. -/
theorem start_epoch {config : CoordinatorConfig} {disk : Disk} {server : CoordinatorServer}
    (started : start config disk = .ok server) (named : config.statePath ≠ []) :
    match disk config.statePath with
    | none => server.engine.state.epoch = ⟨1⟩
    | some durable => durable.epoch.value ≠ 0 ∧ server.engine.state.epoch = durable.epoch.bump := by
  simp only [start, if_neg named] at started
  cases found : disk config.statePath with
  | none =>
    rw [found] at started
    cases started
    rfl
  | some durable =>
    simp only [found] at started
    split at started
    · cases started
    · split at started
      · cases started
      · rename_i state ids report restored
        cases started
        exact importState_epoch restored

end CoordinatorServer

def CoordinatorEpoch.number (epoch : CoordinatorEpoch) : Nat :=
  if epoch.value = 0 then 2 ^ 64 else epoch.value.toNat

theorem CoordinatorEpoch.number_injective : Function.Injective CoordinatorEpoch.number := by
  intro epoch other same
  apply StrongId.value_injective
  apply UInt64.toNat_inj.mp
  have bound := epoch.value.toNat_lt
  have limit := other.value.toNat_lt
  unfold number at same
  split at same
  · rename_i zero
    split at same
    · rename_i another
      rw [zero, another]
    · omega
  · split at same
    · omega
    · exact same

theorem CoordinatorEpoch.number_bump {epoch : CoordinatorEpoch} (some : epoch.value ≠ 0) :
    CoordinatorEpoch.number epoch.bump = epoch.number + 1 := by
  have bound := epoch.value.toNat_lt
  have wraps := epoch.bump_wraps
  have sum : epoch.bump.value.toNat = (epoch.value.toNat + 1) % 2 ^ 64 := UInt64.toNat_add ..
  unfold number
  rw [if_neg some]
  by_cases full : epoch.value = 0xffffffffffffffff
  · rw [if_pos (wraps.mpr full), full]
    rfl
  · rw [if_neg fun zero => full (wraps.mp zero), sum]
    have below : epoch.value.toNat ≠ 2 ^ 64 - 1 := fun top => full (UInt64.toNat_inj.mp top)
    omega

def storedNumber (path : Text) (disk : Disk) : Nat :=
  match disk path with
  | none => 0
  | some durable => durable.epoch.number

theorem processes_numbered {path : Text} (named : path ≠ []) (disk : Disk)
    (starts : List (CoordinatorConfig × List Turn)) :
    Numbered (fun process : CoordinatorProcess => process.epoch.number) (CoordinatorProcess.Saves path)
      (storedNumber path disk) (processes path disk starts) := by
  induction starts generalizing disk with
  | nil => exact .nil _
  | cons first rest ih =>
    obtain ⟨config, turns⟩ := first
    unfold processes
    split
    · exact ih disk
    · rename_i server started
      have next := CoordinatorServer.start_epoch started named
      have number : CoordinatorEpoch.number server.engine.state.epoch = storedNumber path disk + 1 := by
        unfold storedNumber
        cases found : disk path with
        | none =>
          simp only [found] at next
          rw [next]
          rfl
        | some durable =>
          simp only [found] at next
          rw [next.2]
          exact CoordinatorEpoch.number_bump next.1
      have later := ih (server.runs turns).disk
      by_cases wrote : CoordinatorProcess.Saves path ⟨server, turns⟩
      · refine Numbered.stored number wrote ?_
        obtain ⟨durable, there, epoch⟩ := CoordinatorServer.started_saved started wrote
        have left : storedNumber path (server.runs turns).disk = storedNumber path disk + 1 := by
          unfold storedNumber
          rw [there]
          exact (congrArg CoordinatorEpoch.number epoch).trans number
        rw [← left]
        exact later
      · refine Numbered.unstored number wrote ?_
        have left : storedNumber path (server.runs turns).disk = storedNumber path disk := by
          unfold storedNumber
          rw [CoordinatorServer.started_unsaved started wrote]
        rw [← left]
        exact later

theorem CoordinatorProcess.disjoint_iff (first second : CoordinatorProcess) :
    List.Disjoint first.epochs second.epochs ↔
      (first.Speaks → second.Speaks → first.epoch.number ≠ second.epoch.number) := by
  have single (process : CoordinatorProcess) : ∀ epoch ∈ process.epochs, epoch = process.epoch := by
    intro epoch member
    obtain ⟨event, shown, shows⟩ := List.mem_filterMap.mp member
    exact process.server.run_shows process.turns shown shows
  constructor
  · intro disjoint one other same
    obtain ⟨epoch, member⟩ := List.exists_mem_of_ne_nil _ one
    obtain ⟨another, there⟩ := List.exists_mem_of_ne_nil _ other
    have equal : epoch = another := by
      rw [single first epoch member, single second another there]
      exact CoordinatorEpoch.number_injective same
    rw [← equal] at there
    exact disjoint member there
  · intro apart epoch member there
    apply apart (List.ne_nil_of_mem member) (List.ne_nil_of_mem there)
    rw [← single first epoch member, ← single second epoch there]

/-- No two processes on one state file use the same epoch if and only if, between any two that speak, one has saved to
    the file. -/
theorem epochs_unique (path : Text) (named : path ≠ []) (disk : Disk)
    (starts : List (CoordinatorConfig × List Turn)) :
    (processes path disk starts).Pairwise (fun first second => List.Disjoint first.epochs second.epochs) ↔
      StoredBetween (CoordinatorProcess.Saves path) CoordinatorProcess.Speaks (processes path disk starts) := by
  have numbered := processes_numbered named disk starts
  rw [← numbered.distinct_iff]
  apply List.Pairwise.iff
  intro first second
  exact first.disjoint_iff second

def Bench.greeted : List Turn :=
  [.accept, .receive 1 { correlation := 1, message := .hello { worker := ⟨21⟩, boot := ⟨1⟩ } }, .act 1]

theorem epochs_unique_bench :
    StoredBetween (CoordinatorProcess.Saves (ascii "state")) CoordinatorProcess.Speaks
      (processes (ascii "state") (fun _ => none) [(Bench.coordination, Bench.serial), (Bench.coordination, Bench.greeted)]) := by
  have named : ascii "state" ≠ [] := by decide
  apply (epochs_unique (ascii "state") named _ _).mp
  have epochs : (processes (ascii "state") (fun _ => none)
      [(Bench.coordination, Bench.serial), (Bench.coordination, Bench.greeted)]).map CoordinatorProcess.epochs =
        [[⟨1⟩, ⟨1⟩], [⟨2⟩]] := by decide +kernel
  apply List.pairwise_map.mp
  rw [epochs]
  apply List.pairwise_pair.mpr
  intro epoch early late
  have first : epoch = ⟨1⟩ := by simpa using early
  have second : epoch = ⟨2⟩ := List.mem_singleton.mp late
  cases first.symm.trans second

/-- A process that is killed before a save is followed by one of the same epoch. -/
theorem epoch_reused :
    ¬ (processes (ascii "state") (fun _ => none)
      [(Bench.coordination, Bench.greeted), (Bench.coordination, Bench.greeted)]).Pairwise
        (fun first second => List.Disjoint first.epochs second.epochs) := by
  intro unique
  have epochs : (processes (ascii "state") (fun _ => none)
      [(Bench.coordination, Bench.greeted), (Bench.coordination, Bench.greeted)]).map CoordinatorProcess.epochs =
        [[⟨1⟩], [⟨1⟩]] := by decide +kernel
  have apart := List.pairwise_map.mpr unique
  rw [epochs] at apart
  have disjoint := List.pairwise_pair.mp apart
  exact disjoint List.mem_cons_self List.mem_cons_self

end LabScheduler
