import LabScheduler.Engine.Releases

namespace LabScheduler

open Foundation

def Reply.completedPlacements : Reply → List PlacementId
  | .completion outcome => if outcome.accepted then [outcome.placement] else []
  | _ => []

theorem reportCompletion_accepted {state : SchedulerState} {config : EngineConfig} {claim : CompletionClaim}
    (accepted : (reportCompletion state config claim).2.accepted) :
    ∃ before after, state.placements.find? claim.placement = some before ∧
      placementStateIsLive before.state ∧
      (reportCompletion state config claim).2.placement = claim.placement ∧
      (reportCompletion state config claim).1.placements.find? claim.placement = some after ∧
      placementStateIsLive after.state = false := by
  unfold reportCompletion at accepted ⊢
  split at accepted
  · cases accepted
  · rename_i valid
    split at accepted
    · cases accepted
    · rename_i record found
      split at accepted
      · cases accepted
      · rename_i checked
        have live := completionChecks_live checked
        have key := Table.key_of_find? found
        simp only [found]
        let noted := record.recordCompletion claim.detail
        let target : PlacementState := if claim.succeeded then .completed else .failed
        let ended := noted.finish target
          (if claim.succeeded then ascii "completion reported by worker" else ascii "failure reported by worker")
          (state.transitionSequence + 1)
        have running : placementStateIsLive noted.state := live
        have closed : placementStateIsLive target = false := by
          unfold target
          split <;> rfl
        refine ⟨record, ended, rfl, live, trivial, ?_, closed⟩
        change (terminatePlacement _ noted target _).1.placements.find? claim.placement = some ended
        unfold terminatePlacement
        rw [if_pos running]
        change ((state.placements.set noted).set ended).find? claim.placement = some ended
        rw [Table.find?_set]
        exact if_pos key

def Operation.refused : Operation → Reply → Prop
  | .reportCompletion _, .completion outcome => outcome.accepted = false
  | .cancelPlacement .., .cancellation report => report.status.code ≠ .ok
  | .markAssigned .., .placement (.error _) => True
  | .markRunning .., .placement (.error _) => True
  | _, _ => False

theorem reportCompletion_refused {state : SchedulerState} {config : EngineConfig} {claim : CompletionClaim}
    (refused : (reportCompletion state config claim).2.accepted = false) :
    (reportCompletion state config claim).1 = state := by
  unfold reportCompletion at refused ⊢
  split at refused
  · rfl
  · split at refused
    · simp [*]
    · split at refused
      · simp [*]
      · cases refused

theorem cancelPlacement_refused {state : SchedulerState} {config : EngineConfig} {placement : PlacementId}
    {generation : PlacementGeneration} {epoch : CoordinatorEpoch} {reason : Text}
    (refused : (cancelPlacement state config placement generation epoch reason).2.status.code ≠ .ok) :
    (cancelPlacement state config placement generation epoch reason).1 = state := by
  unfold cancelPlacement at refused ⊢
  split at refused
  · rfl
  · split at refused
    · simp [*]
    · split at refused
      · simp [*]
      · extract_lets report at refused
        split at refused
        · simp [*]
        · split at refused
          · simp [*]
          · split at refused
            · exact absurd rfl refused
            · simp [*]

theorem markAssigned_refused {state : SchedulerState} {config : EngineConfig} {placement : PlacementId}
    {generation : PlacementGeneration} {epoch : CoordinatorEpoch} {workerBoot : WorkerBootId} {status : Status}
    (refused : (markAssigned state config placement generation epoch workerBoot).2 = .error status) :
    (markAssigned state config placement generation epoch workerBoot).1 = state := by
  unfold markAssigned at refused ⊢
  split at refused
  · rfl
  · cases refused

theorem markRunning_refused {state : SchedulerState} {config : EngineConfig} {placement : PlacementId}
    {generation : PlacementGeneration} {epoch : CoordinatorEpoch} {workerBoot : WorkerBootId} {status : Status}
    (refused : (markRunning state config placement generation epoch workerBoot).2 = .error status) :
    (markRunning state config placement generation epoch workerBoot).1 = state := by
  unfold markRunning at refused ⊢
  split at refused
  · rfl
  · cases refused

inductive Refusal : Operation → Reply → Prop
  | completion {claim : CompletionClaim} {outcome : CompletionOutcome} (refused : outcome.accepted = false) :
    Refusal (.reportCompletion claim) (.completion outcome)
  | cancellation {placement : PlacementId} {generation : PlacementGeneration} {epoch : CoordinatorEpoch}
      {reason : Text} {report : CancellationReport} (refused : report.status.code ≠ .ok) :
    Refusal (.cancelPlacement placement generation epoch reason) (.cancellation report)
  | assigned {placement : PlacementId} {generation : PlacementGeneration} {epoch : CoordinatorEpoch}
      {workerBoot : WorkerBootId} {status : Status} :
    Refusal (.markAssigned placement generation epoch workerBoot) (.placement (.error status))
  | running {placement : PlacementId} {generation : PlacementGeneration} {epoch : CoordinatorEpoch}
      {workerBoot : WorkerBootId} {status : Status} :
    Refusal (.markRunning placement generation epoch workerBoot) (.placement (.error status))

theorem Engine.step_refused (engine : Engine) (operation : Operation)
    (refusal : Refusal operation (engine.step operation).2) : (engine.step operation).1 = engine := by
  have unchanged {state : SchedulerState} (same : state = engine.state) : { engine with state := state } = engine :=
    congrArg (fun state => { engine with state := state }) same
  generalize answer : (engine.step operation).2 = reply at refusal
  cases refusal with
  | completion refused =>
    injection answer with same
    subst same
    exact unchanged (reportCompletion_refused refused)
  | cancellation refused =>
    injection answer with same
    subst same
    exact unchanged (cancelPlacement_refused refused)
  | assigned =>
    injection answer with same
    exact unchanged (markAssigned_refused same)
  | running =>
    injection answer with same
    exact unchanged (markRunning_refused same)

theorem Sound.runs {config : EngineConfig} {operations : List Operation}
    (reasons : 1 ≤ config.limits.maxRejectionReasonsPerEntry)
    (guarded : Guarded Engine.step Engine.DrawsUnused (Engine.fresh config) operations) :
    Sound ((Engine.fresh config).runs operations).state := by
  apply Engine.runs_preserve _ guarded (Sound.fresh config)
  intro engine operation same sound draws
  exact (engine.passes_step operation).sound sound (same ▸ reasons) draws

/-- The lists of all replies so far, and what they say of the state. -/
structure Settled (past : List Reply) (state : SchedulerState) : Prop where
  paired : Validated state ∧ Paired state
  closed : (past.flatMap Reply.closedReservations).Nodup
  inactive : ∀ id ∈ past.flatMap Reply.closedReservations, ∃ reservation,
    state.reservations.find? id = some reservation ∧ reservation.state ≠ .active
  completed : (past.flatMap Reply.completedPlacements).Nodup
  ended : ∀ id ∈ past.flatMap Reply.completedPlacements, ∃ placement,
    state.placements.find? id = some placement ∧ placementStateIsLive placement.state = false

/-- A reply accepts the completion of at most one placement, live before and ended after. -/
theorem Engine.step_completed (engine : Engine) (operation : Operation) :
    (engine.step operation).2.completedPlacements.Nodup ∧
      ∀ id ∈ (engine.step operation).2.completedPlacements,
        (∃ placement, engine.state.placements.find? id = some placement ∧ placementStateIsLive placement.state) ∧
        ∃ placement, (engine.step operation).1.state.placements.find? id = some placement ∧
          placementStateIsLive placement.state = false := by
  cases operation with
  | reportCompletion claim =>
    change (Reply.completion (reportCompletion engine.state engine.config claim).2).completedPlacements.Nodup ∧
      ∀ id ∈ (Reply.completion (reportCompletion engine.state engine.config claim).2).completedPlacements, _
    unfold Reply.completedPlacements
    by_cases accepted : (reportCompletion engine.state engine.config claim).2.accepted
    · obtain ⟨before, after, found, live, names, there, closed⟩ := reportCompletion_accepted accepted
      simp only [if_pos accepted, names]
      refine ⟨List.nodup_singleton _, fun id member => ?_⟩
      rw [List.mem_singleton.mp member]
      exact ⟨⟨before, found, live⟩, after, there, closed⟩
    · simp only [if_neg accepted]
      exact ⟨.nil, nofun⟩
  | _ => exact ⟨.nil, nofun⟩

theorem Settled.step {past : List Reply} {engine : Engine} {operation : Operation}
    (settled : Settled past engine.state) (draws : engine.DrawsUnused operation) :
    Settled (past ++ [(engine.step operation).2]) (engine.step operation).1.state := by
  obtain ⟨⟨validated, paired⟩, closed, inactive, completed, ended⟩ := settled
  have kept := engine.step_kept operation
  obtain ⟨distinct, were, are⟩ := engine.step_closedBy operation paired
  obtain ⟨single, accepted⟩ := engine.step_completed operation
  refine ⟨⟨validated.step operation, paired.step validated draws⟩, ?_, fun id member => ?_, ?_,
    fun id member => ?_⟩
  · rw [List.flatMap_append, List.flatMap_singleton]
    refine List.nodup_append.mpr ⟨closed, distinct, ?_⟩
    intro id earlier other later same
    subst same
    obtain ⟨reservation, there, not⟩ := inactive id earlier
    exact not (were id later reservation there)
  · rw [List.flatMap_append, List.flatMap_singleton] at member
    rcases List.mem_append.mp member with earlier | later
    · obtain ⟨reservation, there, not⟩ := inactive id earlier
      exact ⟨reservation, kept.frozen_reservation there not, not⟩
    · exact are id later
  · rw [List.flatMap_append, List.flatMap_singleton]
    refine List.nodup_append.mpr ⟨completed, single, ?_⟩
    intro id earlier other later same
    subst same
    obtain ⟨placement, there, not⟩ := ended id earlier
    obtain ⟨⟨before, found, live⟩, -⟩ := accepted id later
    rw [there] at found
    cases found
    rw [not] at live
    cases live
  · rw [List.flatMap_append, List.flatMap_singleton] at member
    rcases List.mem_append.mp member with earlier | later
    · obtain ⟨placement, there, not⟩ := ended id earlier
      exact ⟨placement, kept.frozen_placement there not, not⟩
    · exact (accepted id later).2

theorem Settled.runs {config : EngineConfig} {operations : List Operation}
    (guarded : Guarded Engine.step Engine.DrawsUnused (Engine.fresh config) operations) :
    Settled (replies Engine.step (Engine.fresh config) operations) ((Engine.fresh config).runs operations).state := by
  let holds (past : List Reply) (engine : Engine) : Prop := Settled past engine.state
  have initial : holds [] (Engine.fresh config) :=
    ⟨⟨.fresh config, .fresh config⟩, .nil, nofun, .nil, nofun⟩
  have kept : holds ([] ++ replies Engine.step (Engine.fresh config) operations)
      ((Engine.fresh config).runs operations) :=
    history_invariant (fun past engine operation sofar draws => Settled.step sofar draws) guarded initial
  rwa [List.nil_append] at kept

/-- A placement that ended, and the reservation it named, at the end of the run that goes on. -/
def Frozen (state after : SchedulerState) : Prop :=
  ∀ placement ∈ state.placements.entries, placementStateIsLive placement.state = false →
    after.placements.find? placement.id = some placement ∧
    ∀ reservation, state.reservations.find? placement.reservation = some reservation →
      after.reservations.find? placement.reservation = some reservation

theorem Paired.frozen {engine : Engine} (paired : Paired engine.state) (operations : List Operation) :
    Frozen engine.state (engine.runs operations).state := by
  have kept := engine.runs_kept operations
  intro placement member closed
  refine ⟨kept.frozen_placement (Table.find?_of_mem member) closed, fun reservation found => ?_⟩
  apply kept.frozen_reservation found
  intro active
  have live := (paired.live_iff member).mpr ⟨reservation, found, active⟩
  rw [closed] at live
  cases live

/-- Every placement ends at most once, whatever traffic races for it, and gives back the slots it claimed, as long as
    every commit draws identities that are not in use. -/
theorem placements_end_once {config : EngineConfig} {operations : List Operation}
    (reasons : 1 ≤ config.limits.maxRejectionReasonsPerEntry)
    (guarded : Guarded Engine.step Engine.DrawsUnused (Engine.fresh config) operations) :
    (∀ first second, operations = first ++ second →
      Frozen ((Engine.fresh config).runs first).state ((Engine.fresh config).runs operations).state) ∧
    (∀ first operation second, operations = first ++ operation :: second →
      let engine := (Engine.fresh config).runs first
      let after := (engine.step operation).1
      (∀ placement ∈ engine.state.placements.entries, placementStateIsLive placement.state →
        (∃ later, after.state.placements.find? placement.id = some later ∧ placementStateIsLive later.state) ∨
          engine.EndsOnce operation placement.id after.state ∧
            ∃ reservation, engine.state.reservations.find? placement.reservation = some reservation ∧
              reservation.state = .active ∧ Returns engine.state after.state reservation) ∧
      (Refusal operation (engine.step operation).2 → after = engine)) ∧
    ((replies Engine.step (Engine.fresh config) operations).flatMap Reply.closedReservations).Nodup ∧
    ((replies Engine.step (Engine.fresh config) operations).flatMap Reply.completedPlacements).Nodup := by
  have settled := Settled.runs guarded
  refine ⟨fun first second split => ?_, fun first operation second split => ?_, settled.closed, settled.completed⟩
  · rw [split] at guarded ⊢
    have whole : (Engine.fresh config).runs (first ++ second) = ((Engine.fresh config).runs first).runs second :=
      run_append ..
    rw [whole]
    exact (Paired.runs (guarded_append.mp guarded).1).2.frozen second
  · rw [split] at guarded
    obtain ⟨before, draws, -⟩ := guarded_append.mp guarded
    have sound := Sound.runs reasons before
    intro engine after
    refine ⟨fun placement member live => ?_, engine.step_refused operation⟩
    have same := (Engine.fresh config).runs_config first
    have enough : 1 ≤ engine.config.limits.maxRejectionReasonsPerEntry := same ▸ reasons
    have passes := engine.passes_step operation
    have found : engine.state.placements.find? placement.id = some placement := Table.find?_of_mem member
    rcases passes.ends sound enough draws found live with running | ends
    · exact .inl running
    · obtain ⟨ended, there, closed⟩ := ends.closed
      exact .inr ⟨ends, sound.gives_back (passes.sound sound enough draws) (engine.step_kept operation)
        (passes.remembers (calm_of_occupied (List.ne_nil_of_mem member))) member live there closed⟩

theorem placements_end_once_bench :
    let engine := (Engine.fresh {}).runs Bench.start
    let after := (engine.step (.cancelPlacement ⟨3⟩ ⟨1⟩ ⟨1⟩ [])).1
    engine.EndsOnce (.cancelPlacement ⟨3⟩ ⟨1⟩ ⟨1⟩ []) ⟨3⟩ after.state ∧
      ∃ reservation, engine.state.reservations.find? ⟨4⟩ = some reservation ∧ reservation.state = .active ∧
        Returns engine.state after.state reservation := by
  have guarded : Guarded Engine.step Engine.DrawsUnused (Engine.fresh {})
      (Bench.start ++ [.cancelPlacement ⟨3⟩ ⟨1⟩ ⟨1⟩ []]) := ⟨by decide, by decide, by decide, trivial⟩
  have ends := ((@placements_end_once {} _ (by decide) guarded).2.1 Bench.start _ [] rfl).1
  obtain ⟨placement, member, live, id, reservation, closed⟩ :
      ∃ placement ∈ ((Engine.fresh {}).runs Bench.start).state.placements.entries,
        placementStateIsLive placement.state ∧ placement.id = ⟨3⟩ ∧ placement.reservation = ⟨4⟩ ∧
        ((((Engine.fresh {}).runs Bench.start).step
          (.cancelPlacement ⟨3⟩ ⟨1⟩ ⟨1⟩ [])).1.state.placements.find? placement.id).all
            fun later => !placementStateIsLive later.state := by decide
  intro engine after
  rcases ends placement member live with ⟨later, found, running⟩ | ⟨once, returns⟩
  · rw [found] at closed
    simp [running] at closed
  · rw [id] at once
    rw [reservation] at returns
    exact ⟨once, returns⟩

/-- The highest identity there is, on a lease: the floor of the recovery wraps to zero, and the
    generator starts over among the recovered records. -/
def Bench.exhausted : DurableState :=
  { Bench.durable [Bench.completed 11 4] with
    reservations :=
      [{ id := ⟨4⟩, lease := ⟨0xffffffffffffffff⟩, placement := ⟨11⟩, state := .released
         claims := [{ resource := ⟨7⟩, slots := 1 }] }] }

/-- The new placement is given the released reservation 4. Its end closes nothing and returns no slot. -/
theorem released_reservation_reused :
    let engine := (Engine.fresh {}).runs [.importState Bench.exhausted, .submitRequest (Bench.request 6 2)]
    let after := (engine.step (.cancelPlacement ⟨3⟩ {} ⟨2⟩ [])).1
    ∃ placement ∈ engine.state.placements.entries, placementStateIsLive placement.state ∧
      (after.state.placements.find? placement.id).any (fun later => !placementStateIsLive later.state) ∧
      (engine.state.reservations.find? placement.reservation).any (fun held => held.state == .released) ∧
      ∀ resource ∈ engine.state.resources.entries,
        resource.reservedSlots = 1 ∧ after.state.resources.find? resource.id = some resource := by
  decide

end LabScheduler
