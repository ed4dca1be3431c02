import LabScheduler.Engine.Frames
import LabScheduler.Engine.Loss
import LabScheduler.Foundation.Stamped

namespace LabScheduler

open Foundation

/-- A change of state that draws `n` transition sequence numbers for the placements. -/
abbrev Transitions (n : Nat) (state after : SchedulerState) : Prop :=
  Stamping PlacementRecord.transitionSequence (fun placement => placementStateIsLive placement.state = true)
    state.placements state.transitionSequence n after.placements after.transitionSequence

/-- At most `n` of them. -/
def FewTransitions (n : Nat) (state after : SchedulerState) : Prop := ∃ m ≤ n, Transitions m state after

namespace FewTransitions

variable {state after : SchedulerState} {n m : Nat}

theorem none (state : SchedulerState) (n : Nat) : FewTransitions n state state := ⟨0, Nat.zero_le n, .done⟩

theorem mono (few : FewTransitions n state after) (more : n ≤ m) : FewTransitions m state after := by
  obtain ⟨count, below, transitions⟩ := few
  exact ⟨count, below.trans more, transitions⟩

theorem trans {a b c : SchedulerState} (first : FewTransitions n a b) (second : FewTransitions m b c) :
    FewTransitions (n + m) a c := by
  obtain ⟨i, within, transitions⟩ := first
  obtain ⟨j, within', transitions'⟩ := second
  exact ⟨i + j, Nat.add_le_add within within', transitions.trans transitions'⟩

theorem same {later : SchedulerState} (few : FewTransitions n state after)
    (placements : later.placements = after.placements)
    (sequence : later.transitionSequence = after.transitionSequence) : FewTransitions n state later := by
  obtain ⟨count, below, transitions⟩ := few
  refine ⟨count, below, ?_⟩
  unfold Transitions
  rw [placements, sequence]
  exact transitions

end FewTransitions

section Terminations

variable {state : SchedulerState} {placement : PlacementRecord} {target : PlacementState}

theorem terminatePlacement_transitions (detail : Text) (found : state.placements.find? placement.id = some placement) :
    FewTransitions (if placementStateIsLive placement.state then 1 else 0) state
      (terminatePlacement state placement target detail).1 := by
  unfold terminatePlacement
  by_cases live : placementStateIsLive placement.state
  · rw [if_pos live, if_pos live]
    exact ⟨1, le_refl 1, .restamp .done found live rfl⟩
  · rw [if_neg live, if_neg live]
    exact .none state 0

theorem markPlacement_transitions (detail : Text) (found : state.placements.find? placement.id = some placement)
    (live : placementStateIsLive placement.state) :
    FewTransitions 1 state (markPlacement state placement target detail).1 :=
  ⟨1, le_refl 1, .restamp .done found live rfl⟩

end Terminations

section Loops

variable {β : Type} {turn : SchedulerState × β → PlacementId → SchedulerState × β} {picks : PlacementRecord → Bool}

def Picked (picks : PlacementRecord → Bool) (state : SchedulerState) (id : PlacementId) : Bool :=
  (state.placements.find? id).any picks

theorem transitions_foldl
    (each : ∀ progress id, FewTransitions (if Picked picks progress.1 id then 1 else 0) progress.1
      (turn progress id).1)
    (changes : ∀ progress id, Changes progress.1 (turn progress id).1)
    (lasting : ∀ before after : PlacementRecord, before.Progresses after → picks after = true → picks before = true)
    (ids : List PlacementId) (progress : SchedulerState × β) :
    FewTransitions (ids.countP (Picked picks progress.1)) progress.1 (ids.foldl turn progress).1 := by
  induction ids generalizing progress with
  | nil => exact .none progress.1 0
  | cons id rest ih =>
    have later := ih (turn progress id)
    have fewer : rest.countP (Picked picks (turn progress id).1) ≤ rest.countP (Picked picks progress.1) := by
      apply List.countP_mono_left
      intro other _ picked
      obtain ⟨after, found, holds⟩ := (Option.any_eq_true _ _).mp picked
      obtain ⟨before, there, progresses⟩ := (changes progress id).placements.earlier found
      exact (Option.any_eq_true _ _).mpr ⟨before, there, lasting before after progresses holds⟩
    rw [List.foldl_cons, List.countP_cons, Nat.add_comm]
    exact (each progress id).trans (later.mono fewer)

theorem countP_picked (picks : PlacementRecord → Bool) (state : SchedulerState) :
    state.placements.keys.countP (Picked picks state) = state.placements.entries.countP picks := by
  unfold Table.keys
  rw [List.countP_map]
  apply List.countP_congr
  intro placement member
  simp only [Function.comp_apply, Picked, Table.find?_of_mem member, Option.any_some]

end Loops

def SchedulerState.losses (state : SchedulerState) (worker : WorkerId) (boot : WorkerBootId) : Nat :=
  state.placements.entries.countP (takes worker boot (state.heldBy (worker, boot)))

theorem losePlacement_transitions (worker : WorkerId) (boot : WorkerBootId) (affected : List ResourceId)
    (progress : SchedulerState × ResourceLossReport) (id : PlacementId) :
    FewTransitions (if Picked (takes worker boot affected) progress.1 id then 1 else 0) progress.1
      (losePlacement worker boot affected progress id).1 := by
  unfold losePlacement
  cases found : progress.1.placements.find? id with
  | none => exact .none progress.1 _
  | some placement =>
    have key : placement.id = id := Table.key_of_find? found
    simp only [Picked, found, Option.any_some]
    unfold takes
    by_cases taken : (placementStateIsLive placement.state && placement.touches worker boot affected) = true
    · rw [if_pos taken, if_pos taken]
      have live := (Bool.and_eq_true_iff.mp taken).1
      have ended := @terminatePlacement_transitions _ _ .reassignmentRequired
        (ascii "resource incarnation lost; reassignment required") (key ▸ found)
      rw [if_pos live] at ended
      exact ended
    · rw [if_neg taken, if_neg taken]
      exact .none progress.1 0

theorem takes_lasting (worker : WorkerId) (boot : WorkerBootId) (affected : List ResourceId)
    (before after : PlacementRecord) (progresses : before.Progresses after)
    (taken : takes worker boot affected after = true) : takes worker boot affected before = true := by
  obtain ⟨live, touches⟩ := Bool.and_eq_true_iff.mp taken
  apply Bool.and_eq_true_iff.mpr
  refine ⟨progresses.live live, ?_⟩
  have same : after.terms.touches worker boot affected = before.terms.touches worker boot affected := by
    rw [progresses.terms]
  exact same.symm.trans touches

theorem invalidateWorkerIncarnation_transitions (state : SchedulerState) (config : EngineConfig) (worker : WorkerId)
    (boot : WorkerBootId) (detail : Text) :
    FewTransitions (state.losses worker boot) state
      (invalidateWorkerIncarnation state config worker boot detail).1 := by
  unfold invalidateWorkerIncarnation SchedulerState.losses
  extract_lets affected report
  have loop := transitions_foldl (losePlacement_transitions worker boot affected)
    (losePlacement_changes worker boot affected) (takes_lasting worker boot affected) state.placements.keys
    (invalidateResources state worker boot, report)
  have counted : state.placements.keys.countP
      (Picked (takes worker boot affected) (invalidateResources state worker boot)) =
        state.placements.entries.countP (takes worker boot (state.heldBy (worker, boot))) :=
    countP_picked (takes worker boot affected) state
  rw [← counted]
  have started : FewTransitions (state.placements.keys.countP
      (Picked (takes worker boot affected) (invalidateResources state worker boot))) state _ := loop
  have disconnected (state : SchedulerState) : (disconnectWorker state worker boot detail).transitionSequence =
      state.transitionSequence := by
    unfold disconnectWorker
    split
    · rfl
    · split <;> rfl
  refine started.same ?_ ?_
  · exact (disconnectWorker_tables _ worker boot detail).2.2
  · exact disconnected _

def SchedulerState.displaced (state : SchedulerState) (worker : WorkerId) (boot : WorkerBootId) : Nat :=
  match state.workers.find? worker with
  | none => 0
  | some record => if record.boot = boot then 0 else state.losses worker record.boot

theorem enterIncarnation_sequence (state : SchedulerState) (worker : WorkerId) (boot : WorkerBootId) :
    (enterIncarnation state worker boot).transitionSequence = state.transitionSequence := by
  unfold enterIncarnation
  split <;> rfl

theorem adoptWorkerIncarnation_transitions (state : SchedulerState) (config : EngineConfig) (worker : WorkerId)
    (boot : WorkerBootId) (detail : Text) :
    FewTransitions (state.displaced worker boot) state
      (adoptWorkerIncarnation state config worker boot detail).1 := by
  unfold adoptWorkerIncarnation SchedulerState.displaced
  cases found : state.workers.find? worker with
  | none => exact (FewTransitions.none state 0).same rfl rfl
  | some record =>
    by_cases same : record.boot = boot
    · simp only [if_pos same]
      exact (FewTransitions.none state 0).same rfl rfl
    · simp only [if_neg same]
      have lost := invalidateWorkerIncarnation_transitions state config worker record.boot detail
      generalize invalidateWorkerIncarnation state config worker record.boot detail = left at lost ⊢
      exact lost.same (enterIncarnation_tables left.1 worker boot).2.2 (enterIncarnation_sequence left.1 worker boot)

/-- The test by which `cancel_request` picks a placement. -/
def PlacementRecord.cancelledWith (request : ScheduleRequestId) (placement : PlacementRecord) : Bool :=
  placement.request == request && placementStateIsLive placement.state

theorem cancelTurn_transitions (request : ScheduleRequestId) (reason : Text)
    (progress : SchedulerState × CancellationReport) (id : PlacementId) :
    FewTransitions (if Picked (PlacementRecord.cancelledWith request) progress.1 id then 1 else 0) progress.1
      (cancelTurn request reason progress id).1 := by
  unfold cancelTurn
  cases found : progress.1.placements.find? id with
  | none => exact .none progress.1 _
  | some placement =>
    have key : placement.id = id := Table.key_of_find? found
    simp only [Picked, found, Option.any_some, PlacementRecord.cancelledWith, Bool.and_eq_true, beq_iff_eq]
    by_cases picked : placement.request = request ∧ placementStateIsLive placement.state
    · rw [if_pos picked, if_pos picked]
      have ended := @terminatePlacement_transitions _ _ .cancelled
        (reasonOr reason (ascii "request cancelled by controller")) (key ▸ found)
      rw [if_pos picked.2] at ended
      exact ended
    · rw [if_neg picked, if_neg picked]
      exact .none progress.1 0

theorem cancelledWith_lasting (request : ScheduleRequestId) (before after : PlacementRecord)
    (progresses : before.Progresses after) (picked : after.cancelledWith request = true) :
    before.cancelledWith request = true := by
  unfold PlacementRecord.cancelledWith at picked ⊢
  rw [Bool.and_eq_true, beq_iff_eq] at picked ⊢
  obtain ⟨made, live⟩ := picked
  exact ⟨progresses.request.symm.trans made, progresses.live live⟩

namespace Engine

def granted {α : Type} (checks : Except Status α) (count : α → Nat) : Nat :=
  match checks with
  | .error _ => 0
  | .ok value => count value

def endings (engine : Engine) : Operation → Nat
  | .workerConnected worker boot => granted (workerChecks worker boot) fun _ => engine.state.displaced worker boot
  | .workerDisconnected worker boot _ | .markWorkerLost worker boot _ =>
    granted (lostChecks engine.state worker boot) fun _ => engine.state.losses worker boot
  | .registerResource advertisement =>
    granted (registerChecks engine.state engine.config advertisement) fun _ =>
      if advertisement.worker.isNull then 0 else engine.state.displaced advertisement.worker advertisement.boot
  | .publishResourceState advertisement =>
    granted (publishChecks engine.state engine.config advertisement) fun record =>
      if record.worker.isNull = false ∧ record.boot ≠ advertisement.boot then
        engine.state.displaced advertisement.worker advertisement.boot
      else 0
  | .markAssigned placement generation epoch boot =>
    granted (assignChecks engine.state placement generation epoch boot) fun _ => 1
  | .markRunning placement generation epoch boot =>
    granted (markChecks engine.state placement generation epoch boot) fun _ => 1
  | .reportCompletion claim =>
    match engine.state.placements.find? claim.placement with
    | none => 0
    | some record => granted (completionChecks engine.state claim record) fun _ => 1
  | .reassignPlacement placement generation epoch _ =>
    granted (reassignChecks engine.state placement generation epoch) fun record =>
      if placementStateIsLive record.state then 1 else 0
  | .preemptPlacement placement generation epoch _ =>
    granted (preemptChecks engine.state placement generation epoch) fun _ => 1
  | .cancelPlacement placement generation epoch _ =>
    granted (checkEpoch engine.state epoch) fun _ =>
      match engine.state.placements.find? placement with
      | none => 0
      | some record =>
        if (generation.isNull ∨ record.generation = generation) ∧ placementStateIsLive record.state then 1 else 0
  | .cancelRequest request _ =>
    match engine.state.requests.find? request with
    | none => 0
    | some _ => engine.state.placements.entries.countP (PlacementRecord.cancelledWith request)
  | _ => 0

end Engine

section Operations

variable {engine : Engine}

theorem adoptOwner_transitions (state : SchedulerState) (config : EngineConfig) (advertisement : ResourceAdvertisement) :
    FewTransitions (if advertisement.worker.isNull then 0 else
        state.displaced advertisement.worker advertisement.boot) state (adoptOwner state config advertisement) := by
  unfold adoptOwner
  by_cases unowned : advertisement.worker.isNull
  · rw [if_pos unowned, if_pos unowned]
    exact .none state 0
  · rw [if_neg unowned, if_neg unowned]
    exact adoptWorkerIncarnation_transitions ..

theorem adoptPublisher_transitions (state : SchedulerState) (config : EngineConfig)
    (advertisement : ResourceAdvertisement) (record : ResourceRecord) :
    FewTransitions (if record.worker.isNull = false ∧ record.boot ≠ advertisement.boot then
        state.displaced advertisement.worker advertisement.boot else 0) state
      (adoptPublisher state config advertisement record) := by
  unfold adoptPublisher
  by_cases moved : record.worker.isNull = false ∧ record.boot ≠ advertisement.boot
  · rw [if_pos moved, if_pos moved]
    exact adoptWorkerIncarnation_transitions ..
  · rw [if_neg moved, if_neg moved]
    exact .none state 0

theorem registerResource_transitions (advertisement : ResourceAdvertisement) :
    FewTransitions (engine.endings (.registerResource advertisement)) engine.state
      (registerResource engine.state engine.config advertisement).1 := by
  cases accepted : registerChecks engine.state engine.config advertisement with
  | error status =>
    simp only [registerResource, accepted]
    exact .none engine.state _
  | ok =>
    have adopted : FewTransitions (engine.endings (.registerResource advertisement)) engine.state
        (adoptOwner engine.state engine.config (normalizeAdvertisement advertisement)) := by
      simp only [Engine.endings, Engine.granted, accepted]
      exact adoptOwner_transitions ..
    generalize engine.endings (.registerResource advertisement) = count at adopted ⊢
    simp only [registerResource, accepted]
    split
    · exact adopted
    · exact adopted.same rfl rfl

theorem publishResourceState_transitions (advertisement : ResourceAdvertisement) :
    FewTransitions (engine.endings (.publishResourceState advertisement)) engine.state
      (publishResourceState engine.state engine.config advertisement).1 := by
  cases accepted : publishChecks engine.state engine.config advertisement with
  | error status =>
    simp only [publishResourceState, accepted]
    exact .none engine.state _
  | ok record =>
    have adopted : FewTransitions (engine.endings (.publishResourceState advertisement)) engine.state
        (adoptPublisher engine.state engine.config (normalizeAdvertisement advertisement) record) := by
      simp only [Engine.endings, Engine.granted, accepted]
      exact adoptPublisher_transitions ..
    generalize engine.endings (.publishResourceState advertisement) = count at adopted ⊢
    simp only [publishResourceState, accepted]
    split
    · exact adopted
    · split
      · exact adopted
      · split
        · exact adopted.same rfl rfl
        · exact adopted.same rfl rfl

theorem markWorkerLost_transitions (worker : WorkerId) (boot : WorkerBootId) (detail : Text) :
    FewTransitions (engine.endings (.markWorkerLost worker boot detail)) engine.state
      (markWorkerLost engine.state engine.config worker boot detail).1 := by
  cases accepted : lostChecks engine.state worker boot with
  | error status =>
    simp only [markWorkerLost, accepted]
    exact .none engine.state _
  | ok =>
    simp only [markWorkerLost, Engine.endings, Engine.granted, accepted]
    exact invalidateWorkerIncarnation_transitions ..

theorem workerConnected_transitions (worker : WorkerId) (boot : WorkerBootId) :
    FewTransitions (engine.endings (.workerConnected worker boot)) engine.state
      (workerConnected engine.state engine.config worker boot).1 := by
  cases accepted : workerChecks worker boot with
  | error status =>
    simp only [workerConnected, accepted]
    exact .none engine.state _
  | ok =>
    simp only [workerConnected, Engine.endings, Engine.granted, accepted]
    exact adoptWorkerIncarnation_transitions ..

theorem markAssigned_transitions (placement : PlacementId) (generation : PlacementGeneration) (epoch : CoordinatorEpoch)
    (boot : WorkerBootId) :
    FewTransitions (engine.endings (.markAssigned placement generation epoch boot)) engine.state
      (markAssigned engine.state engine.config placement generation epoch boot).1 := by
  cases accepted : assignChecks engine.state placement generation epoch boot with
  | error status =>
    simp only [markAssigned, accepted]
    exact .none engine.state _
  | ok record =>
    obtain ⟨_, checked, rest⟩ := except_bind_ok.mp accepted
    simp at rest
    obtain ⟨-, rfl⟩ := rest
    obtain ⟨found, live⟩ := markChecks_ok checked
    simp only [markAssigned, Engine.endings, Engine.granted, accepted]
    exact (markPlacement_transitions _ found live).same rfl rfl

theorem markRunning_transitions (placement : PlacementId) (generation : PlacementGeneration) (epoch : CoordinatorEpoch)
    (boot : WorkerBootId) :
    FewTransitions (engine.endings (.markRunning placement generation epoch boot)) engine.state
      (markRunning engine.state engine.config placement generation epoch boot).1 := by
  cases accepted : markChecks engine.state placement generation epoch boot with
  | error status =>
    simp only [markRunning, accepted]
    exact .none engine.state _
  | ok record =>
    obtain ⟨found, live⟩ := markChecks_ok accepted
    simp only [markRunning, Engine.endings, Engine.granted, accepted]
    exact (markPlacement_transitions _ found live).same rfl rfl

theorem reportCompletion_transitions (claim : CompletionClaim) :
    FewTransitions (engine.endings (.reportCompletion claim)) engine.state
      (reportCompletion engine.state engine.config claim).1 := by
  unfold reportCompletion
  split
  · exact .none engine.state _
  · split
    · exact .none engine.state _
    · rename_i record found
      split
      · exact .none engine.state _
      · rename_i accepted
        extract_lets noted written
        have live : placementStateIsLive record.state := completionChecks_live accepted
        have key : record.id = claim.placement := Table.key_of_find? found
        simp only [Engine.endings, Engine.granted, found, accepted, terminatePlacement, if_pos (show
          placementStateIsLive noted.state from live)]
        generalize (if claim.succeeded then PlacementState.completed else .failed) = target
        generalize (if claim.succeeded then ascii "completion reported by worker"
          else ascii "failure reported by worker") = detail
        let ended := noted.finish target detail (engine.state.transitionSequence + 1)
        have once : FewTransitions 1 engine.state
            { engine.state with
              transitionSequence := engine.state.transitionSequence + 1
              placements := engine.state.placements.set ended } :=
          ⟨1, le_refl 1, .restamp .done (key ▸ found) live rfl⟩
        have same : (engine.state.placements.set noted).set ended = engine.state.placements.set ended :=
          Table.set_set rfl
        exact once.same same rfl

theorem cancelPlacement_transitions (placement : PlacementId) (generation : PlacementGeneration)
    (epoch : CoordinatorEpoch) (reason : Text) :
    FewTransitions (engine.endings (.cancelPlacement placement generation epoch reason)) engine.state
      (cancelPlacement engine.state engine.config placement generation epoch reason).1 := by
  unfold cancelPlacement
  split
  · exact .none engine.state _
  · split
    · exact .none engine.state _
    · rename_i current
      split
      · exact .none engine.state _
      · rename_i record found
        extract_lets report
        have key : record.id = placement := Table.key_of_find? found
        split
        · exact .none engine.state _
        · rename_i named
          split
          · exact .none engine.state _
          · split
            · rename_i live
              have meant : generation.isNull ∨ record.generation = generation := by
                by_cases null : generation.isNull
                · exact .inl null
                · right
                  by_contra other
                  exact named ⟨Bool.eq_false_iff.mpr null, other⟩
              have ended := @terminatePlacement_transitions _ _ .cancelled
                (reasonOr reason (ascii "cancelled by controller")) (key ▸ found)
              rw [if_pos live] at ended
              simp only [Engine.endings, Engine.granted, found, current]
              rw [if_pos ⟨meant, live⟩]
              exact ended.same rfl rfl
            · exact .none engine.state _

theorem cancelRequest_transitions (request : ScheduleRequestId) (reason : Text) :
    FewTransitions (engine.endings (.cancelRequest request reason)) engine.state
      (cancelRequest engine.state engine.config request reason).1 := by
  unfold cancelRequest
  split
  · exact .none engine.state _
  · split
    · exact .none engine.state _
    · rename_i stored found
      have loop := transitions_foldl (cancelTurn_transitions request reason) (cancelTurn_changes request reason)
        (cancelledWith_lasting request) engine.state.placements.keys (engine.state, { request := request })
      rw [countP_picked] at loop
      simp only [Engine.endings, found]
      have closed (state : SchedulerState) (detail : Text) :
          (closeRequest state request detail).placements = state.placements ∧
            (closeRequest state request detail).transitionSequence = state.transitionSequence := by
        unfold closeRequest
        split
        · exact ⟨rfl, rfl⟩
        · exact ⟨rfl, rfl⟩
      exact loop.same (closed _ _).1 (closed _ _).2

end Operations

end LabScheduler
