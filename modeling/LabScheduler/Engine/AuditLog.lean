import LabScheduler.Engine.Frames
import LabScheduler.Engine.Restarts
import LabScheduler.Foundation.Journal

namespace LabScheduler

open Foundation

def SchedulerState.journal (state : SchedulerState) : Journal AuditRecord UInt64 := ⟨state.audit, state.auditSequence⟩

/-- The log of the coordinator moves on by `added`. -/
abbrev Logs (added : List AuditRecord) (state after : SchedulerState) : Prop :=
  Journal.Grows AuditRecord.sequence (· + 1) added state.journal after.journal

abbrev Logging (state after : SchedulerState) : Prop := ∃ added, Logs added state after

section Steps

variable {state after : SchedulerState}

theorem Logging.of_eq (audit : after.audit = state.audit) (sequence : after.auditSequence = state.auditSequence) :
    Logging state after := by
  have same : after.journal = state.journal := congrArg₂ Journal.mk audit sequence
  refine ⟨[], ?_⟩
  unfold Logs
  rw [same]
  exact .refl _

theorem Logging.refl (state : SchedulerState) : Logging state state := .of_eq rfl rfl

theorem Logging.trans {a b c : SchedulerState} (first : Logging a b) (second : Logging b c) : Logging a c := by
  obtain ⟨added, first⟩ := first
  obtain ⟨more, second⟩ := second
  exact ⟨added ++ more, first.trans second⟩

theorem pushAudit_logs (state : SchedulerState) (config : EngineConfig) (kind detail : Text) :
    Logging state (pushAudit state config kind detail) := by
  by_cases recorded : config.recordAudit
  · refine ⟨[⟨state.auditSequence + 1, kind, detail⟩], ⟨rfl, trivial⟩, ?_, ?_⟩
    · simp only [SchedulerState.journal, pushAudit, recorded, if_true]
      rfl
    · simp only [SchedulerState.journal, pushAudit, recorded, if_true]
      exact List.drop_suffix _ _
  · apply Logging.of_eq
    all_goals simp only [pushAudit, recorded, Bool.false_eq_true, if_false]

theorem commitPlacement_logs {config : EngineConfig} {ids : IdGenerator} {stored : StoredRequest}
    {generation : PlacementGeneration} {reassignments : UInt32} {explanation : Explanation}
    {ranked : List RankingCandidate} {best : RankingCandidate} :
    Logging state (commitPlacement state config ids stored generation reassignments explanation ranked best).state := by
  unfold commitPlacement
  extract_lets request
  cases commitLoop state.resources (best.selection.zip request.requirements) with
  | mk resources taken =>
    cases taken with
    | error status => exact .of_eq rfl rfl
    | ok both =>
      refine .trans (.of_eq ?_ ?_) (pushAudit_logs ..)
      all_goals
        simp only [installPlacement, serveTenant]
        split <;> rfl

theorem SchedulingCall.logs (call : SchedulingCall) (config : EngineConfig) (ids : IdGenerator) :
    Logging call.state (call.scheduled config ids).state := by
  unfold SchedulingCall.scheduled scheduleLocked
  extract_lets request limits
  simp only [IdGenerator.next, IdGenerator.nextValue]
  split
  · exact .of_eq rfl rfl
  · split
    · exact .of_eq rfl rfl
    · split
      · exact .refl _
      · exact commitPlacement_logs

theorem logging_frame : WideFrame Logging where
  refl := .refl
  trans := .trans
  audit := pushAudit_logs
  ended _ _ _ _ _ := .of_eq rfl rfl
  marked _ _ _ _ _ _ := .of_eq rfl rfl
  completed _ _ _ _ _ _ := .of_eq rfl rfl
  requests _ _ _ := .of_eq rfl rfl
  scheduled call config ids := call.logs config ids
  records _ _ _ _ := .of_eq rfl rfl
  shutdown _ := .of_eq rfl rfl

end Steps

theorem Engine.step_logs (engine : Engine) (operation : Operation) :
    Logging engine.state (engine.step operation).1.state := by
  cases operation with
  | adoptEpoch epoch =>
    change Logging engine.state (adoptEpoch engine.state engine.config epoch).1
    unfold LabScheduler.adoptEpoch
    split
    · exact .refl _
    · exact .trans (.of_eq rfl rfl) (pushAudit_logs ..)
  | importState durable =>
    change Logging engine.state (importState engine.state engine.config engine.ids durable).1
    unfold LabScheduler.importState
    split
    · exact .refl _
    · refine .trans (.of_eq ?_ ?_) (pushAudit_logs ..)
      all_goals rw [rebuildState_state]
  | _ => exact Engine.step_wideFrame logging_frame rfl

theorem Engine.runs_logs (engine : Engine) (operations : List Operation) :
    Logging engine.state (engine.runs operations).state := by
  induction operations generalizing engine with
  | nil => exact .refl _
  | cons operation rest ih => exact (engine.step_logs operation).trans (ih (engine.step operation).1)

theorem iterate_successor (steps : Nat) (start : UInt64) : (· + 1)^[steps] start = start + UInt64.ofNat steps := by
  induction steps generalizing start with
  | zero => exact (UInt64.add_zero start).symm
  | succ steps ih =>
    rw [Function.iterate_succ_apply, ih, UInt64.ofNat_add, UInt64.add_comm (UInt64.ofNat steps), UInt64.add_assoc]
    rfl

/-- There is one history, numbered from one on without a gap, that only grows. At any time the log is an end of it,
    and the last number given is its length, so that no two readings of the log differ on a record. -/
theorem audit_log_is_tail (config : EngineConfig) (earlier later : List Operation) :
    let before := ((Engine.fresh config).runs earlier).state
    let after := ((Engine.fresh config).runs (earlier ++ later)).state
    ∃ past added, Successive AuditRecord.sequence (· + 1) 0 (past ++ added) ∧
      before.audit <:+ past ∧ before.auditSequence = UInt64.ofNat past.length ∧
      after.audit <:+ past ++ added ∧ after.auditSequence = UInt64.ofNat (past ++ added).length ∧
      ((past ++ added).length < 2 ^ 64 → ∀ record ∈ before.audit, ∀ other ∈ after.audit,
        record.sequence = other.sequence → record = other) := by
  intro before after
  obtain ⟨past, first⟩ := (Engine.fresh config).runs_logs earlier
  obtain ⟨added, second⟩ : Logging before after := by
    have split : after = (((Engine.fresh config).runs earlier).runs later).state :=
      congrArg Engine.state (run_append ..)
    rw [split]
    exact Engine.runs_logs ..
  have whole := first.trans second
  have numbers (history : List AuditRecord) : (· + 1)^[history.length] (0 : UInt64) = UInt64.ofNat history.length :=
    (iterate_successor ..).trans (UInt64.zero_add _)
  refine ⟨past, added, whole.numbered, first.kept, first.last.trans (numbers past), whole.kept,
    whole.last.trans (numbers _), fun short record here other there same => ?_⟩
  refine whole.numbered.eq_of_number (fun i j first second equal => ?_) ?_ (whole.kept.subset there) same
  · rw [iterate_successor, iterate_successor] at equal
    have equal := congrArg UInt64.toNat (UInt64.add_right_inj _ |>.mp equal)
    rw [UInt64.toNat_ofNat', UInt64.toNat_ofNat', Nat.mod_eq_of_lt (by omega), Nat.mod_eq_of_lt (by omega)] at equal
    exact Nat.succ.inj equal
  · exact List.mem_append_left _ (first.kept.subset here)

end LabScheduler
