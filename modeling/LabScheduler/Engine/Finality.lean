import LabScheduler.Engine.Calls
import LabScheduler.Engine.Commit
import LabScheduler.Engine.Rebuilt

namespace LabScheduler

open Foundation

def RequestState.isFinal : RequestState → Bool
  | .completed | .failed | .cancelled => true
  | .submitted | .placed | .noPlacement => false

/-- No live placement is the current one of a request that has ended, and none is nameless: the end of
    a placement then leaves such a request alone. -/
structure Detached (state : SchedulerState) : Prop where
  named : ∀ placement ∈ state.placements.entries, placementStateIsLive placement.state → placement.id ≠ {}
  apart : ∀ stored ∈ state.requests.entries, stored.state.isFinal →
    ∀ placement ∈ state.placements.entries, placementStateIsLive placement.state →
      placement.request = stored.id → placement.id ≠ stored.currentPlacement

namespace Detached

variable {state after : SchedulerState}

theorem evolve (detached : Detached state)
    (placements : Table.Evolves PlacementRecord.Progresses state.placements after.placements)
    (requests : ∀ stored ∈ after.requests.entries, stored ∈ state.requests.entries ∨
      stored.state.isFinal = false ∨ stored.currentPlacement = {}) : Detached after := by
  have named : ∀ placement ∈ after.placements.entries, placementStateIsLive placement.state → placement.id ≠ {} := by
    intro placement member live
    obtain ⟨before, there, -, progresses⟩ := placements.of_mem member
    rw [progresses.id]
    exact detached.named before there (progresses.live live)
  refine ⟨named, fun stored recorded final placement member live made => ?_⟩
  rcases requests stored recorded with there | running | released
  · obtain ⟨before, earlier, -, progresses⟩ := placements.of_mem member
    rw [progresses.id]
    exact detached.apart stored there final before earlier (progresses.live live) (progresses.request ▸ made)
  · rw [running] at final
    cases final
  · rw [released]
    exact named placement member live

theorem change (change : Change state after) (detached : Detached state) : Detached after := by
  apply detached.evolve change.placements
  intro stored member
  cases change with
  | books _ requests => exact .inl (requests ▸ member)
  | invalidate => exact .inl member
  | retire => exact .inl member
  | @finish placement target detail found live closed =>
    let ended := placement.finish target detail (state.transitionSequence + 1)
    have member : stored ∈ (settleRequest state.requests ended target).entries := member
    unfold settleRequest at member
    split at member
    · exact .inl member
    · split at member
      · rcases Table.mem_set.mp member with rfl | ⟨there, -⟩
        · refine .inr (.inr ?_)
          cases target <;> rfl
        · exact .inl there
      · exact .inl member
  | mark => exact .inl member
  | complete => exact .inl member

theorem rewrite {stored : StoredRequest} (detached : Detached state)
    (released : stored.state.isFinal = false ∨ stored.currentPlacement = {}) :
    Detached { state with requests := state.requests.set stored } := by
  refine detached.evolve (.refl PlacementRecord.Progresses.refl _) fun other member => ?_
  rcases Table.mem_set.mp member with rfl | ⟨there, -⟩
  · exact .inr released
  · exact .inl there

theorem close {request : ScheduleRequestId} {detail : Text} (detached : Detached state) :
    Detached (closeRequest state request detail) := by
  unfold closeRequest
  split
  · exact detached
  · exact detached.rewrite (.inr rfl)

theorem admitted {config : EngineConfig} {request : ScheduleRequest} (detached : Detached state) :
    Detached (admitRequest state config request) := by
  refine detached.evolve (.refl PlacementRecord.Progresses.refl _) fun stored member => ?_
  rcases Table.mem_emplace member with rfl | there
  · exact .inr (.inl rfl)
  · exact .inl there

theorem reopen {stored : StoredRequest} (detached : Detached state) : Detached (reopenRequest state stored) :=
  detached.rewrite (.inl rfl)

theorem stay (detached : Detached state) (requests : after.requests = state.requests)
    (placements : after.placements = state.placements) : Detached after := by
  apply detached.evolve (.of_eq PlacementRecord.Progresses.refl placements)
  intro stored member
  exact .inl (requests ▸ member)

theorem recover {durable : DurableState} (accepted : importChecks state durable = .ok ()) :
    Detached (rebuildState state durable).state := by
  have rebuilt := rebuildState_rebuilt accepted
  have none : ∀ placement ∈ (rebuildState state durable).state.placements.entries,
      ¬ placementStateIsLive placement.state := by
    intro placement member
    simp [rebuilt.not_live member]
  constructor
  · intro placement member live
    exact absurd live (none placement member)
  · intro stored _ _ placement member live
    exact absurd live (none placement member)

theorem scheduled {config : EngineConfig} {ids : IdGenerator} {stored : StoredRequest}
    {generation : PlacementGeneration} {reassignments : UInt32} {scheduled : Scheduled} (detached : Detached state)
    (result : ScheduleResult state config ids stored generation reassignments scheduled)
    (named : scheduled.ids = ids.commitIds.2 → ids.commitIds.1.placement ≠ {}) : Detached scheduled.state := by
  cases result with
  | @noPlacement decision outcome =>
    let failed : StoredRequest :=
      { stored with state := .noPlacement, currentPlacement := {}, detail := decision.failureDetail }
    have written : Detached { state with requests := state.requests.set failed } := detached.rewrite (.inl rfl)
    exact written.stay rfl rfl
  | refused => exact detached
  | broken => exact detached.stay rfl rfl
  | @placed selection resources selected claims placement decision after chosen loop committed decided room
      resources_after requests_after placements_after =>
    have drawn : placement.id ≠ {} := by
      rw [committed]
      exact named rfl
    have asked : placement.request = stored.id := by
      rw [committed]
      rfl
    constructor
    · intro other member live
      rw [placements_after] at member
      rcases Table.mem_emplace member with rfl | there
      · exact drawn
      · exact detached.named other there live
    · intro record member final other there live made
      rw [requests_after] at member
      rw [placements_after] at there
      rcases Table.mem_set.mp member with rfl | ⟨before, differs⟩
      · cases final
      · rcases Table.mem_emplace there with rfl | earlier
        · exact absurd (made.symm.trans asked) differs
        · exact detached.apart record before final other earlier live made

end Detached

def Engine.reopens (engine : Engine) : Operation → Bool
  | .cancelRequest request _ =>
    match engine.state.requests.find? request with
    | none => false
    | some stored => stored.state == .completed || stored.state == .failed
  | .reassignPlacement placement generation epoch _ =>
    match reassignChecks engine.state placement generation epoch with
    | .error _ => false
    | .ok record =>
      match engine.state.requests.find? record.request with
      | none => false
      | some stored =>
        stored.state.isFinal && decide (record.reassignmentCount < stored.request.maxReassignments)
  | .preemptPlacement placement generation epoch _ =>
    match preemptChecks engine.state placement generation epoch with
    | .error _ => false
    | .ok record =>
      match engine.state.requests.find? record.request with
      | none => false
      | some stored => stored.state.isFinal
  | _ => false

def Engine.DrawsNamed (engine : Engine) (operation : Operation) : Prop :=
  (engine.step operation).1.ids = engine.ids.commitIds.2 → engine.ids.commitIds.1.placement ≠ {}

instance (engine : Engine) (operation : Operation) : Decidable (engine.DrawsNamed operation) :=
  inferInstanceAs (Decidable (_ → _))

structure Engine.LeavesEnded (engine : Engine) (operation : Operation) : Prop where
  reopens : engine.reopens operation = false
  named : engine.DrawsNamed operation

theorem Detached.step {engine : Engine} {operation : Operation} (detached : Detached engine.state)
    (named : engine.DrawsNamed operation) : Detached (engine.step operation).1.state := by
  refine Engine.step_keeps Detached.change ?_ ?_ (fun _ _ => Detached.close) ?_ ?_ ?_ ?_ detached
  · intro request _ _ detached
    exact detached.admitted
  · intro placement generation epoch reason record stored _ preempts detached
    have found := (preemptChecks_ok preempts.accepted).1
    have ended : Detached (replaceTermination engine.state record .preempted reason
        (ascii "preempted to free a constrained resource")) :=
      replaceTermination_preserve Detached.change found rfl detached
    exact ended.reopen
  · intro advertisement mid record _ _ detached
    exact detached.stay rfl rfl
  · intro advertisement mid live _ _ detached
    exact detached.stay rfl rfl
  · intro call calls detached
    exact detached.scheduled scheduleLocked_result fun commits => named (calls.step_ids.trans commits)
  · intro durable _ accepted
    exact .recover accepted

/-- Request `id` stays in the state it ended in, with no placement beyond those of `past`. -/
structure Ended (past : PlacementTable) (id : ScheduleRequestId) (final : RequestState)
    (state : SchedulerState) : Prop extends Detached state where
  request : ∃ stored, state.requests.find? id = some stored ∧ stored.state = final
  placements : ∀ placement ∈ state.placements.entries, placement.request = id →
    ∃ before ∈ past.entries, before.id = placement.id

namespace Ended

variable {past : PlacementTable} {id : ScheduleRequestId} {final : RequestState} {state after : SchedulerState}

theorem rewrite {stored : StoredRequest} (ended : Ended past id final state)
    (detached : Detached { state with requests := state.requests.set stored })
    (other : stored.id = id → stored.state = final) :
    Ended past id final { state with requests := state.requests.set stored } := by
  refine ⟨detached, ?_, ended.placements⟩
  by_cases same : stored.id = id
  · exact ⟨stored, same ▸ Table.find?_set_self .., other same⟩
  · obtain ⟨kept, found, holds⟩ := ended.request
    exact ⟨kept, (Table.find?_set_ne _ same).trans found, holds⟩

theorem stay (ended : Ended past id final state) (requests : after.requests = state.requests)
    (placements : after.placements = state.placements) : Ended past id final after :=
  ⟨ended.toDetached.stay requests placements, requests ▸ ended.request, placements ▸ ended.placements⟩

theorem change (isFinal : final.isFinal) (change : Change state after) (ended : Ended past id final state) :
    Ended past id final after := by
  refine ⟨ended.toDetached.change change, ?_, fun placement member made => ?_⟩
  · obtain ⟨stored, found, holds⟩ := ended.request
    cases change with
    | books _ requests => exact ⟨stored, requests ▸ found, holds⟩
    | invalidate => exact ⟨stored, found, holds⟩
    | retire => exact ⟨stored, found, holds⟩
    | @finish placement target detail there live closed =>
      let last := placement.finish target detail (state.transitionSequence + 1)
      refine ⟨stored, ?_, holds⟩
      change (settleRequest state.requests last target).find? id = some stored
      unfold settleRequest
      split
      · exact found
      · rename_i settled asked
        have named := Table.key_of_find? asked
        split
        · rename_i current
          have differs : settled.id ≠ id := by
            -- The live placement would be the current one of a request that has ended.
            intro same
            have equal : placement.request = id := named.symm.trans same
            have asked : state.requests.find? placement.request = some settled := asked
            rw [equal, found] at asked
            cases asked
            have final : stored.state.isFinal := holds ▸ isFinal
            exact ended.apart stored (Table.mem_of_find? found) final placement (Table.mem_of_find? there) live
              (equal.trans (Table.key_of_find? found).symm) current.symm
          have same : (settled.settle target last.detail).id = settled.id := by
            cases target <;> rfl
          exact (Table.find?_set_ne _ (same ▸ differs)).trans found
        · exact found
    | mark => exact ⟨stored, found, holds⟩
    | complete => exact ⟨stored, found, holds⟩
  · obtain ⟨before, there, -, progresses⟩ := change.placements.of_mem member
    obtain ⟨earlier, known, same⟩ := ended.placements before there (progresses.request ▸ made)
    exact ⟨earlier, known, same.trans progresses.id.symm⟩

theorem scheduled {config : EngineConfig} {ids : IdGenerator} {stored : StoredRequest}
    {generation : PlacementGeneration} {reassignments : UInt32} {scheduled : Scheduled}
    (ended : Ended past id final state) (other : stored.id ≠ id)
    (result : ScheduleResult state config ids stored generation reassignments scheduled)
    (named : scheduled.ids = ids.commitIds.2 → ids.commitIds.1.placement ≠ {}) :
    Ended past id final scheduled.state := by
  have detached := ended.toDetached.scheduled result named
  cases result with
  | @noPlacement decision outcome =>
    obtain ⟨kept, found, holds⟩ := ended.request
    let failed : StoredRequest :=
      { stored with state := .noPlacement, currentPlacement := {}, detail := decision.failureDetail }
    have differs : failed.id ≠ id := other
    exact ⟨detached, ⟨kept, (Table.find?_set_ne _ differs).trans found, holds⟩, ended.placements⟩
  | refused => exact ended
  | broken => exact ended.stay rfl rfl
  | @placed selection resources selected claims placement decision after chosen loop committed decided room
      resources_after requests_after placements_after =>
    have asked : placement.request = stored.id := by
      rw [committed]
      rfl
    refine ⟨detached, ?_, fun made member named => ?_⟩
    · obtain ⟨kept, found, holds⟩ := ended.request
      refine ⟨kept, ?_, holds⟩
      change after.requests.find? id = some kept
      rw [requests_after, Table.find?_set_ne _ (by exact other)]
      exact found
    · have member : made ∈ after.placements.entries := member
      rw [placements_after] at member
      rcases Table.mem_emplace member with rfl | there
      · exact absurd (asked.symm.trans named) other
      · exact ended.placements made there named

end Ended

section Steps

variable {past : PlacementTable} {id : ScheduleRequestId} {final : RequestState} {engine : Engine}
  {operation : Operation} {call : SchedulingCall}

theorem Engine.LeavesEnded.reassign {placement : PlacementId} {generation : PlacementGeneration}
    {epoch : CoordinatorEpoch} {reason : Text} {record : PlacementRecord} {stored : StoredRequest}
    (leaves : engine.LeavesEnded (.reassignPlacement placement generation epoch reason))
    (accepted : reassignChecks engine.state placement generation epoch = .ok record)
    (found : engine.state.requests.find? record.request = some stored)
    (budget : record.reassignmentCount < stored.request.maxReassignments) : stored.state.isFinal = false := by
  have kept := leaves.reopens
  simp only [Engine.reopens, accepted, found, budget, decide_true, Bool.and_true] at kept
  exact kept

theorem Engine.LeavesEnded.preempt {placement : PlacementId} {generation : PlacementGeneration}
    {epoch : CoordinatorEpoch} {reason : Text} {record : PlacementRecord} {stored : StoredRequest}
    (leaves : engine.LeavesEnded (.preemptPlacement placement generation epoch reason))
    (accepted : preemptChecks engine.state placement generation epoch = .ok record)
    (found : engine.state.requests.find? record.request = some stored) : stored.state.isFinal = false := by
  have kept := leaves.reopens
  simp only [Engine.reopens, accepted, found] at kept
  exact kept

theorem replaceTermination_request {state : SchedulerState} {record : PlacementRecord} {target : PlacementState}
    {reason fallback : Text} {stored : StoredRequest} (found : state.placements.find? record.id = some record)
    (closed : placementStateIsLive target = false)
    (recorded : (replaceTermination state record target reason fallback).requests.find? record.request =
      some stored) :
    ∃ before, state.requests.find? record.request = some before ∧ stored.request = before.request := by
  have changes : Changes state (replaceTermination state record target reason fallback) :=
    replaceTermination_changes found closed
  obtain ⟨before, there, keeps⟩ := changes.requests.earlier recorded
  exact ⟨before, there, keeps⟩

theorem Ended.call_differs (ended : Ended past id final engine.state) (isFinal : final.isFinal)
    (leaves : engine.LeavesEnded operation) (calls : engine.Calls operation call) : call.stored.id ≠ id := by
  obtain ⟨kept, there, holds⟩ := ended.request
  have keptFinal : kept.state.isFinal := holds ▸ isFinal
  intro same
  cases calls with
  | submit accepted =>
    obtain ⟨-, absent, -⟩ := submitChecks_ok accepted
    have same : (normalizeScheduleRequest _).id = id := same
    rw [same, there] at absent
    cases absent
  | @reassign placement generation epoch reason record stored accepted recorded budget =>
    obtain ⟨before, found, keeps⟩ := replaceTermination_request (reassignChecks_ok accepted).1 rfl recorded
    have asked : record.request = id := (Table.key_of_find? recorded).symm.trans same
    have running := leaves.reassign accepted found (keeps ▸ budget)
    rw [asked, there] at found
    cases found
    rw [keptFinal] at running
    cases running
  | @preempt placement generation epoch reason record stored accepted recorded allowed budget =>
    obtain ⟨before, found, -⟩ := replaceTermination_request (preemptChecks_ok accepted).1 rfl recorded
    have asked : record.request = id := (Table.key_of_find? recorded).symm.trans same
    have running := leaves.preempt accepted found
    rw [asked, there] at found
    cases found
    rw [keptFinal] at running
    cases running

theorem Ended.step (ended : Ended past id final engine.state) (isFinal : final.isFinal)
    (leaves : engine.LeavesEnded operation) : Ended past id final (engine.step operation).1.state := by
  have initial := ended
  refine Engine.step_keeps (Ended.change isFinal) ?_ ?_ ?_ ?_ ?_ ?_ ?_ ended
  · intro request _ accepted ended
    obtain ⟨-, absent, -⟩ := submitChecks_ok accepted
    obtain ⟨kept, found, holds⟩ := ended.request
    have differs : (normalizeScheduleRequest request).id ≠ id := fun same => by
      rw [same, found] at absent
      cases absent
    refine ⟨ended.toDetached.admitted, ⟨kept, ?_, holds⟩, ended.placements⟩
    exact (Table.find?_emplace _ _ _).trans (by simp [differs, found, submittedRequest, StoredRequest.id])
  · intro placement generation epoch reason record stored same preempts sofar
    subst same
    have found := (preemptChecks_ok preempts.accepted).1
    have left : Ended past id final (replaceTermination engine.state record .preempted reason
        (ascii "preempted to free a constrained resource")) :=
      replaceTermination_preserve (Ended.change isFinal) found rfl sofar
    refine left.rewrite left.toDetached.reopen fun same => ?_
    obtain ⟨before, asked, -⟩ := replaceTermination_request found rfl preempts.recorded
    have running := leaves.preempt preempts.accepted asked
    obtain ⟨kept, there, holds⟩ := initial.request
    have named : record.request = id := (Table.key_of_find? preempts.recorded).symm.trans same
    rw [named, there] at asked
    cases asked
    rw [holds, isFinal] at running
    cases running
  · intro state request reason detail same _ sofar
    subst same
    have detached : Detached (closeRequest state request detail) := sofar.toDetached.close
    cases found : state.requests.find? request with
    | none =>
      simp only [closeRequest, found]
      exact sofar
    | some closed =>
      simp only [closeRequest, found] at detached ⊢
      refine sofar.rewrite detached fun same => ?_
      obtain ⟨kept, there, holds⟩ := initial.request
      have named : request = id := (Table.key_of_find? found).symm.trans same
      have left := leaves.reopens
      simp only [Engine.reopens, named, there, holds, Bool.or_eq_false_iff, beq_eq_false_iff_ne] at left
      cases final with
      | cancelled => rfl
      | completed => exact absurd rfl left.1
      | failed => exact absurd rfl left.2
      | submitted | placed | noPlacement => cases isFinal
  · intro advertisement mid record _ _ sofar
    exact sofar.stay rfl rfl
  · intro advertisement mid live _ _ sofar
    exact sofar.stay rfl rfl
  · intro call calls sofar
    have differs := initial.call_differs isFinal leaves calls
    exact sofar.scheduled differs scheduleLocked_result fun commits => leaves.named (calls.step_ids.trans commits)
  · intro durable _ accepted
    obtain ⟨-, -, none, -⟩ := importChecks_ok accepted
    obtain ⟨kept, found, -⟩ := initial.request
    have member := Table.mem_of_find? found
    rw [none] at member
    cases member

end Steps

/-- While nothing reopens a request that has ended and no commit draws a null identity, such a request
    stays in the state it ended in, and no placement is made for it. -/
theorem terminal_requests_final {config : EngineConfig} {first second : List Operation}
    (guarded : Guarded Engine.step Engine.LeavesEnded (Engine.fresh config) (first ++ second))
    {id : ScheduleRequestId} {stored : StoredRequest}
    (found : ((Engine.fresh config).runs first).state.requests.find? id = some stored)
    (isFinal : stored.state.isFinal) :
    let before := ((Engine.fresh config).runs first).state
    let after := ((Engine.fresh config).runs (first ++ second)).state
    (∃ later, after.requests.find? id = some later ∧ later.state = stored.state) ∧
      ∀ placement ∈ after.placements.entries, placement.request = id →
        ∃ earlier ∈ before.placements.entries, earlier.id = placement.id := by
  intro before after
  obtain ⟨begun, continued⟩ := guarded_append.mp guarded
  have detached : Detached before := by
    have fresh : Detached (Engine.fresh config).state := by
      constructor
      all_goals exact fun _ member => absurd member List.not_mem_nil
    exact Engine.runs_preserve (fun _ _ _ sofar leaves => Detached.step sofar leaves.named) begun fresh
  have initial : Ended before.placements id stored.state before :=
    ⟨detached, ⟨stored, found, rfl⟩, fun placement member _ => ⟨placement, member, rfl⟩⟩
  have kept : Ended before.placements id stored.state (((Engine.fresh config).runs first).runs second).state :=
    Engine.runs_preserve (fun _ _ _ sofar leaves => Ended.step sofar isFinal leaves) continued initial
  have same : (Engine.fresh config).runs (first ++ second) = ((Engine.fresh config).runs first).runs second :=
    run_append ..
  rw [← same] at kept
  exact ⟨kept.request, kept.placements⟩

/-- The first placement of the bench is reassigned, and its request cancelled. -/
def Bench.cancelled : List Operation :=
  Bench.start ++ [.reassignPlacement ⟨3⟩ {} ⟨1⟩ [], .cancelRequest ⟨5⟩ []]

theorem terminal_requests_final_bench :
    let after := ((Engine.fresh {}).runs (Bench.cancelled ++ [.cancelRequest ⟨5⟩ []])).state
    ∃ later, after.requests.find? ⟨5⟩ = some later ∧ later.state = .cancelled := by
  intro after
  have guarded : Guarded Engine.step Engine.LeavesEnded (Engine.fresh {})
      (Bench.cancelled ++ [.cancelRequest ⟨5⟩ []]) :=
    ⟨⟨rfl, by decide⟩, ⟨rfl, by decide⟩, ⟨by decide, by decide⟩, ⟨by decide, by decide⟩,
      ⟨by decide, by decide⟩, trivial⟩
  have ended : (((Engine.fresh {}).runs Bench.cancelled).state.requests.find? ⟨5⟩).map StoredRequest.state =
      some .cancelled := by decide
  obtain ⟨stored, found, cancelled⟩ := Option.map_eq_some_iff.mp ended
  have kept := @terminal_requests_final {} Bench.cancelled [.cancelRequest ⟨5⟩ []] guarded ⟨5⟩ stored found
    (cancelled ▸ rfl)
  rw [cancelled] at kept
  exact kept.1

/-- The first placement is reassigned once more, and the cancelled request has a placement again. -/
theorem cancelled_request_placed_again :
    let before := ((Engine.fresh {}).runs Bench.cancelled).state
    let after := ((Engine.fresh {}).runs (Bench.cancelled ++ [.reassignPlacement ⟨3⟩ {} ⟨1⟩ []])).state
    (¬ ∀ stored ∈ before.requests.entries, stored.state.isFinal →
      ∀ later ∈ after.requests.entries, later.id = stored.id → later.state = stored.state) ∧
    ¬ ∀ stored ∈ before.requests.entries, stored.state.isFinal →
      ∀ placement ∈ after.placements.entries, placement.request = stored.id →
        ∃ earlier ∈ before.placements.entries, earlier.id = placement.id := by
  decide

end LabScheduler
