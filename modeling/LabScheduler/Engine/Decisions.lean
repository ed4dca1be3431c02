import LabScheduler.Engine.Fencing
import LabScheduler.Engine.Frames

namespace LabScheduler

open Foundation

/-- The envelope of a recorded decision is not kept. The loop over the placements takes the first that names it. -/
def getDecision (state : SchedulerState) (decision : DecisionId) : Except Status Decision := do
  decision.validate
  match state.decisions.find? decision with
  | none => .error ⟨.notFound, ascii "no such decision: " ++ decision.toText⟩
  | some explanation =>
    let out : Decision :=
      { id := decision
        outcome := explanation.outcome
        failure := explanation.failure
        failureDetail := explanation.failureDetail
        explanation := explanation }
    if explanation.outcome = .placed ∧ explanation.selected ≠ [] then
      match state.placements.entries.find? fun placement => placement.decision = decision with
      | some placement => .ok { out with placement := placement }
      | none => .ok out
    else .ok out

section Recorded

structure Decision.Explained (decision : Decision) : Prop where
  id : decision.explanation.decision = decision.id
  outcome : decision.explanation.outcome = decision.outcome
  failure : decision.explanation.failure = decision.failure
  failureDetail : decision.explanation.failureDetail = decision.failureDetail

inductive RecordResult (state : SchedulerState) (ids : IdGenerator) : Scheduled → Prop
  | unanswered {scheduled : Scheduled} {status : Status} (result : scheduled.result = .error status)
      (decisions : scheduled.state.decisions = state.decisions)
      (placements : scheduled.state.placements = state.placements) : RecordResult state ids scheduled
  | noPlacement {scheduled : Scheduled} {decision : Decision} (result : scheduled.result = .ok decision)
      (explained : decision.Explained) (id : decision.id = ids.commitIds.1.decision)
      (outcome : decision.outcome = .noPlacement) (bare : decision.placement = {})
      (decisions : scheduled.state.decisions = state.decisions.emplace decision.explanation)
      (placements : scheduled.state.placements = state.placements) : RecordResult state ids scheduled
  | placed {scheduled : Scheduled} {decision : Decision} (result : scheduled.result = .ok decision)
      (explained : decision.Explained) (id : decision.id = ids.commitIds.1.decision)
      (outcome : decision.outcome = .placed) (named : decision.placement.id = ids.commitIds.1.placement)
      (decider : decision.placement.decision = ids.commitIds.1.decision)
      (selected : decision.explanation.selected = decision.placement.resources)
      (decisions : scheduled.state.decisions = state.decisions.emplace decision.explanation)
      (placements : scheduled.state.placements = state.placements.emplace decision.placement) :
    RecordResult state ids scheduled

variable {state : SchedulerState} {config : EngineConfig} {ids : IdGenerator} {stored : StoredRequest}
  {generation : PlacementGeneration} {reassignments : UInt32}

theorem commitPlacement_recorded {ranked : List RankingCandidate} {best : RankingCandidate}
    {explanation : Explanation} (id : explanation.decision = ids.commitIds.1.decision) :
    RecordResult state ids
      (commitPlacement state config ids stored generation reassignments explanation ranked best) := by
  unfold commitPlacement
  extract_lets request
  cases commitLoop state.resources (best.selection.zip request.requirements) with
  | mk resources taken =>
    cases taken with
    | error status => exact .unanswered rfl rfl rfl
    | ok both =>
      refine .placed rfl ⟨id, rfl, rfl, rfl⟩ rfl rfl rfl rfl rfl ?_ ?_
      all_goals
        simp only [pushAudit, installPlacement, serveTenant]
        split <;> rfl

theorem scheduleLocked_recorded :
    RecordResult state ids (scheduleLocked state config ids stored generation reassignments) := by
  unfold scheduleLocked
  extract_lets request limits
  simp only [IdGenerator.next, IdGenerator.nextValue]
  split
  · exact .noPlacement rfl ⟨rfl, rfl, rfl, rfl⟩ rfl rfl rfl rfl rfl
  · split
    · exact .noPlacement rfl ⟨rfl, rfl, rfl, rfl⟩ rfl rfl rfl rfl rfl
    · split
      · exact .unanswered rfl rfl rfl
      · exact commitPlacement_recorded rfl

end Recorded

section Remembered

abbrev RemembersDecisions (before after : SchedulerState) : Prop :=
  Table.Extends Eq before.decisions after.decisions

theorem RemembersDecisions.of_eq {before after : SchedulerState} (same : after.decisions = before.decisions) :
    RemembersDecisions before after := by
  unfold RemembersDecisions
  rw [same]
  exact .refl Eq.refl _

theorem SchedulingCall.remembers_decisions (call : SchedulingCall) (config : EngineConfig) (ids : IdGenerator) :
    RemembersDecisions call.state (call.scheduled config ids).state := by
  have result : RecordResult call.state ids (call.scheduled config ids) := scheduleLocked_recorded
  generalize call.scheduled config ids = scheduled at result
  cases result with
  | unanswered _ decisions => exact .of_eq decisions
  | noPlacement _ _ _ _ _ decisions =>
    unfold RemembersDecisions
    rw [decisions]
    exact .emplace Eq.refl ..
  | placed _ _ _ _ _ _ _ decisions =>
    unfold RemembersDecisions
    rw [decisions]
    exact .emplace Eq.refl ..

theorem remembersDecisions_frame : WideFrame RemembersDecisions where
  refl _ := .of_eq rfl
  trans := Table.Extends.trans Eq.trans
  audit _ _ _ _ := .of_eq rfl
  ended _ _ _ _ _ := .of_eq rfl
  marked _ _ _ _ _ _ := .of_eq rfl
  completed _ _ _ _ _ _ := .of_eq rfl
  requests _ _ _ := .of_eq rfl
  scheduled := SchedulingCall.remembers_decisions
  records _ _ _ _ := .of_eq rfl
  shutdown _ := .of_eq rfl

theorem Engine.step_remembersDecisions {engine : Engine} (operation : Operation) (occupied : Occupied engine.state) :
    RemembersDecisions engine.state (engine.step operation).1.state := by
  by_cases leaves : leavesEpoch operation
  · exact step_wideFrame remembersDecisions_frame leaves
  · cases operation with
    | adoptEpoch epoch =>
      change RemembersDecisions engine.state (adoptEpoch engine.state engine.config epoch).1
      unfold LabScheduler.adoptEpoch
      split <;> exact .of_eq rfl
    | importState durable =>
      change RemembersDecisions engine.state (importState engine.state engine.config engine.ids durable).1
      unfold LabScheduler.importState
      split
      · exact .of_eq rfl
      · rename_i accepted
        exact absurd accepted (occupied.refuses durable)
    | _ => exact absurd rfl leaves

theorem Engine.Calls.decisions {engine : Engine} {operation : Operation} {call : SchedulingCall}
    (calls : engine.Calls operation call) : call.state.decisions = engine.state.decisions := by
  cases calls with
  | submit => rfl
  | reassign =>
    unfold replaceTermination terminatePlacement
    split <;> rfl
  | preempt =>
    unfold reopenRequest replaceTermination terminatePlacement
    split <;> rfl

end Remembered

/-- An operation that may schedule finds the identities of a decision and of its placement unused. -/
def Engine.DrawsDecision (engine : Engine) (operation : Operation) : Prop :=
  operation.schedules → engine.ids.commitIds.1.decision.value ≠ 0 ∧
    engine.state.decisions.find? engine.ids.commitIds.1.decision = none ∧
    engine.state.placements.find? engine.ids.commitIds.1.placement = none ∧
    ∀ placement ∈ engine.state.placements.entries, placement.decision ≠ engine.ids.commitIds.1.decision

instance (engine : Engine) (operation : Operation) : Decidable (engine.DrawsDecision operation) :=
  inferInstanceAs (Decidable (_ → _))

structure Decided (made : Decision) (state : SchedulerState) : Prop where
  occupied : Occupied state
  recorded : state.decisions.find? made.id = some made.explanation
  decider : made.outcome = .placed → made.placement.decision = made.id
  placed : made.outcome = .placed → ∃ current, state.placements.find? made.placement.id = some current ∧
    made.placement.Progresses current
  named : ∀ placement ∈ state.placements.entries, placement.decision = made.id →
    made.outcome = .placed ∧ placement.id = made.placement.id

namespace Decided

variable {engine : Engine} {operation : Operation} {made : Decision} {state after : SchedulerState}

theorem of_call {call : SchedulingCall} (calls : engine.Calls operation call) (draws : engine.DrawsDecision operation)
    (result : (call.scheduled engine.config engine.ids).result = .ok made) :
    made.Explained ∧ Decided made (call.scheduled engine.config engine.ids).state := by
  obtain ⟨-, unrecorded, unplaced, unnamed⟩ := draws calls.schedules
  have occupied := (Occupied.of_request calls.recorded).scheduled engine.config engine.ids
  have left : RecordResult call.state engine.ids (call.scheduled engine.config engine.ids) := scheduleLocked_recorded
  have before (placement : PlacementRecord) (member : placement ∈ call.state.placements.entries) :
      placement.decision ≠ engine.ids.commitIds.1.decision := by
    obtain ⟨earlier, there, -, progresses⟩ := calls.placements.of_mem member
    have decision := congrArg PlacementRecord.decision progresses.terms
    change placement.decision = earlier.decision at decision
    rw [decision]
    exact unnamed earlier there
  rw [← calls.decisions] at unrecorded
  have absent := calls.placements.absent unplaced
  generalize call.scheduled engine.config engine.ids = scheduled at left result occupied
  cases left with
  | unanswered failed =>
    rw [failed] at result
    cases result
  | noPlacement answered explained id outcome bare decisions placements =>
    rw [answered] at result
    cases result
    have unplaced : made.outcome ≠ .placed := by
      rw [outcome]
      nofun
    refine ⟨explained, occupied, ?_, fun placed => absurd placed unplaced, fun placed => absurd placed unplaced,
      fun placement member named => ?_⟩
    · rw [decisions, Table.find?_emplace, explained.id, id, unrecorded]
      exact if_pos rfl
    · rw [placements] at member
      rw [id] at named
      exact absurd named (before placement member)
  | placed answered explained id outcome own decider selected decisions placements =>
    rw [answered] at result
    cases result
    refine ⟨explained, occupied, ?_, fun _ => decider.trans id.symm, fun _ => ⟨made.placement, ?_, .refl _⟩,
      fun placement member named => ?_⟩
    · rw [decisions, Table.find?_emplace, explained.id, id, unrecorded]
      exact if_pos rfl
    · rw [placements, Table.find?_emplace, own, absent]
      exact if_pos rfl
    · rw [placements] at member
      rw [id] at named
      rcases Table.mem_emplace member with rfl | there
      · exact ⟨outcome, rfl⟩
      · exact absurd named (before placement there)

theorem step (decided : Decided made engine.state) (draws : engine.DrawsDecision operation) :
    Decided made (engine.step operation).1.state := by
  obtain ⟨occupied, recorded, decider, placed, named⟩ := decided
  refine ⟨occupied.step operation, ?_, decider, fun outcome => ?_, ?_⟩
  · obtain ⟨explanation, found, rfl⟩ := (Engine.step_remembersDecisions operation occupied).later recorded
    exact found
  · obtain ⟨current, found, progresses⟩ := placed outcome
    obtain ⟨later, there, more⟩ := (engine.step_kept operation).placements.later found
    exact ⟨later, there, progresses.trans more⟩
  · let names (state : SchedulerState) : Prop := ∀ placement ∈ state.placements.entries,
      placement.decision = made.id → made.outcome = .placed ∧ placement.id = made.placement.id
    have all : names (engine.step operation).1.state := by
      refine Engine.step_preserves ?_ ?_ (fun _ _ names => names) (fun _ _ names => names) ?_ ?_ named
      · intro state after change names placement member same
        obtain ⟨earlier, there, -, progresses⟩ := change.placements.of_mem member
        have decision := congrArg PlacementRecord.decision progresses.terms
        have decision : placement.decision = earlier.decision := decision
        rw [progresses.id]
        exact names earlier there (decision.symm.trans same)
      · intro state after write names
        cases write <;> exact names
      · intro call calls names placement member same
        obtain ⟨-, unrecorded, -⟩ := draws calls.schedules
        have left : RecordResult call.state engine.ids (call.scheduled engine.config engine.ids) :=
          scheduleLocked_recorded
        generalize call.scheduled engine.config engine.ids = scheduled at left member
        cases left with
        | unanswered _ _ placements => exact names placement (placements ▸ member) same
        | noPlacement _ _ _ _ _ _ placements => exact names placement (placements ▸ member) same
        | placed _ _ _ _ _ decider _ _ placements =>
          rw [placements] at member
          rcases Table.mem_emplace member with rfl | there
          · rw [← decider, same, recorded] at unrecorded
            cases unrecorded
          · exact names placement there same
      · intro durable _ accepted
        exact absurd accepted (occupied.refuses durable)
    exact all

theorem recalled (decided : Decided made state) (explained : made.Explained) (drawn : made.id.value ≠ 0) :
    ∃ current, getDecision state made.id = .ok { made with placement := current, authority := {} } ∧
      if made.outcome = .placed ∧ made.explanation.selected ≠ [] then
        state.placements.find? made.placement.id = some current ∧ made.placement.Progresses current
      else current = {} := by
  obtain ⟨-, recorded, decider, placed, named⟩ := decided
  obtain ⟨id, outcome, failure, failureDetail⟩ := explained
  have valid : made.id.validate = .ok () := StrongId.validate_ok.mpr drawn
  simp only [getDecision, valid, recorded, outcome, failure, failureDetail]
  by_cases shown : made.outcome = .placed ∧ made.explanation.selected ≠ []
  · obtain ⟨current, found, progresses⟩ := placed shown.1
    have decision := congrArg PlacementRecord.decision progresses.terms
    have decision : current.decision = made.placement.decision := decision
    have first : (state.placements.entries.find? fun placement => placement.decision = made.id) = some current := by
      cases search : state.placements.entries.find? fun placement => placement.decision = made.id with
      | none =>
        have other := List.find?_eq_none.mp search current (Table.mem_of_find? found)
        exact absurd (decision.trans (decider shown.1)) (of_decide_eq_false (Bool.eq_false_iff.mpr other))
      | some placement =>
        have member := List.mem_of_find?_eq_some search
        have names := List.find?_some search
        rw [decide_eq_true_eq] at names
        obtain ⟨-, same⟩ := named placement member names
        have there := Table.find?_of_mem member
        rw [same, found] at there
        exact there.symm
    refine ⟨current, ?_, ?_⟩
    · rw [if_pos shown, first]
      rfl
    · rw [if_pos shown]
      exact ⟨found, progresses⟩
  · refine ⟨{}, ?_, ?_⟩
    · rw [if_neg shown]
      rfl
    · rw [if_neg shown]

end Decided

/-- Once an operation has answered with a decision, whatever follows, that decision is answered again whenever it is
    asked for: the outcome, the reasons and the explanation as they were, and the placement as far as it has come. -/
theorem decision_recalled {engine : Engine} {operation : Operation} {later : List Operation} {made : Decision}
    (decided : (engine.step operation).2.decided = some made) (answered : made.id ≠ {})
    (guarded : Guarded Engine.step Engine.DrawsDecision engine (operation :: later)) :
    let state := (engine.runs (operation :: later)).state
    ∃ current, getDecision state made.id = .ok { made with placement := current, authority := {} } ∧
      if made.outcome = .placed ∧ made.explanation.selected ≠ [] then
        state.placements.find? made.placement.id = some current ∧ made.placement.Progresses current
      else current = {} := by
  intro state
  obtain ⟨draws, guarded⟩ := guarded
  have drawn : made.id.value ≠ 0 := fun zero => answered (congrArg StrongId.mk zero)
  obtain ⟨call, calls, result⟩ := Engine.step_made decided fun none => answered (none ▸ rfl)
  obtain ⟨explained, left⟩ := Decided.of_call calls draws result
  have first : Decided made (engine.step operation).1.state := by
    rcases calls.step_audited with same | ⟨kind, detail, audited⟩
    · rw [same]
      exact left
    · rw [audited]
      exact ⟨left.occupied, left.recorded, left.decider, left.placed, left.named⟩
  have last : Decided made ((engine.step operation).1.runs later).state :=
    Engine.runs_preserve (fun _ _ _ sofar draws => sofar.step draws) guarded first
  exact last.recalled explained drawn

namespace Bench

/-- The bench is there, and one slot of it is asked for. -/
def asked : Engine × Reply := ((Engine.fresh {}).runs [.registerResource advertisement]).step (.submitRequest (request 5 1))

theorem asked_decides : asked.2.decided.isSome := by decide +kernel

/-- The decision that the request is answered with. -/
def verdict : Decision := asked.2.decided.get asked_decides

end Bench

theorem decision_recalled_bench :
    let state := (Bench.asked.1.runs [.cancelRequest ⟨5⟩ []]).state
    ∃ current, getDecision state Bench.verdict.id = .ok { Bench.verdict with placement := current, authority := {} } ∧
      state.placements.find? Bench.verdict.placement.id = some current := by
  intro state
  have decided : Bench.asked.2.decided = some Bench.verdict := (Option.some_get Bench.asked_decides).symm
  have guarded : Guarded Engine.step Engine.DrawsDecision
      ((Engine.fresh {}).runs [.registerResource Bench.advertisement])
      [.submitRequest (Bench.request 5 1), .cancelRequest ⟨5⟩ []] :=
    ⟨by decide +kernel, by decide +kernel, trivial⟩
  have shown : Bench.verdict.outcome = .placed ∧ Bench.verdict.explanation.selected ≠ [] := by decide +kernel
  obtain ⟨current, recalled, there⟩ := decision_recalled decided (by decide +kernel) guarded
  rw [if_pos shown] at there
  exact ⟨current, recalled, there.1⟩

end LabScheduler
