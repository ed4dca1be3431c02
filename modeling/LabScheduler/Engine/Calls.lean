import LabScheduler.Engine.Changes

namespace LabScheduler

open Foundation Relation

/-- A write to the request table by an operation itself, outside `terminate_placement` and
    `schedule_locked`. -/
inductive RequestWrite : SchedulerState → SchedulerState → Prop
  | enroll {state : SchedulerState} {stored : StoredRequest} {limits : Limits}
      (absent : state.requests.find? stored.id = none)
      (valid : validateScheduleRequest stored.request limits = .ok ()) :
    RequestWrite state
      { state with requests := state.requests.emplace stored, requestSequence := state.requestSequence + 1 }
  | rewrite {state : SchedulerState} {stored rewritten : StoredRequest}
      (found : state.requests.find? stored.id = some stored) (same : rewritten.request = stored.request) :
    RequestWrite state { state with requests := state.requests.set rewritten }

/-- The arguments of a call of `schedule_locked`. -/
structure SchedulingCall where
  state : SchedulerState
  stored : StoredRequest
  generation : PlacementGeneration
  reassignments : UInt32

def SchedulingCall.scheduled (call : SchedulingCall) (config : EngineConfig) (ids : IdGenerator) : Scheduled :=
  scheduleLocked call.state config ids call.stored call.generation call.reassignments

/-- The call of `schedule_locked` that submitting `request` to `engine` makes. -/
def Engine.submission (engine : Engine) (request : ScheduleRequest) : SchedulingCall :=
  ⟨admitRequest engine.state engine.config (normalizeScheduleRequest request),
    submittedRequest engine.state (normalizeScheduleRequest request), {}, 0⟩

/-- The operations that call `schedule_locked`, and the call each makes. -/
inductive Engine.Calls (engine : Engine) : Operation → SchedulingCall → Prop
  | submit {request : ScheduleRequest}
      (accepted : submitChecks engine.state engine.config (normalizeScheduleRequest request) = .ok ()) :
    Calls engine (.submitRequest request)
      ⟨admitRequest engine.state engine.config (normalizeScheduleRequest request),
        submittedRequest engine.state (normalizeScheduleRequest request), {}, 0⟩
  | reassign {placement : PlacementId} {generation : PlacementGeneration} {epoch : CoordinatorEpoch}
      {reason : Text} {record : PlacementRecord} {stored : StoredRequest}
      (accepted : reassignChecks engine.state placement generation epoch = .ok record)
      (recorded : (replaceTermination engine.state record .reassignmentRequired reason
        (ascii "reassigned by controller")).requests.find? record.request = some stored)
      (budget : record.reassignmentCount < stored.request.maxReassignments) :
    Calls engine (.reassignPlacement placement generation epoch reason)
      ⟨replaceTermination engine.state record .reassignmentRequired reason
          (ascii "reassigned by controller"),
        stored, record.generation.bump, record.reassignmentCount + 1⟩
  | preempt {placement : PlacementId} {generation : PlacementGeneration} {epoch : CoordinatorEpoch}
      {reason : Text} {record : PlacementRecord} {stored : StoredRequest}
      (accepted : preemptChecks engine.state placement generation epoch = .ok record)
      (recorded : (replaceTermination engine.state record .preempted reason
        (ascii "preempted to free a constrained resource")).requests.find? record.request = some stored)
      (allowed : stored.request.allowPreemption)
      (budget : record.reassignmentCount < stored.request.maxReassignments) :
    Calls engine (.preemptPlacement placement generation epoch reason)
      ⟨reopenRequest (replaceTermination engine.state record .preempted reason
          (ascii "preempted to free a constrained resource")) stored,
        { stored with state := .submitted }, record.generation.bump, record.reassignmentCount + 1⟩

/-- The operations that may enter `schedule_locked`. -/
def Operation.schedules : Operation → Bool
  | .submitRequest .. | .reassignPlacement .. | .preemptPlacement .. => true
  | _ => false

theorem Engine.Calls.schedules {engine : Engine} {operation : Operation} {call : SchedulingCall}
    (calls : engine.Calls operation call) : operation.schedules := by
  cases calls <;> rfl

theorem replaceChecks_ok {state : SchedulerState} {placement : PlacementId}
    {generation : PlacementGeneration} {epoch : CoordinatorEpoch} {word : Text} {record : PlacementRecord}
    (accepted : replaceChecks state placement generation epoch word = .ok record) :
    state.placements.find? placement = some record := by
  unfold replaceChecks at accepted
  simp only [check_bind_ok] at accepted
  obtain ⟨-, -, accepted⟩ := accepted
  split at accepted
  · cases accepted
  · rename_i found
    simp at accepted
    exact accepted.2 ▸ found

theorem reassignChecks_found {state : SchedulerState} {placement : PlacementId}
    {generation : PlacementGeneration} {epoch : CoordinatorEpoch} {record : PlacementRecord}
    (accepted : reassignChecks state placement generation epoch = .ok record) :
    state.placements.find? placement = some record := by
  obtain ⟨_, checked, rest⟩ := except_bind_ok.mp accepted
  simp at rest
  obtain ⟨-, rfl⟩ := rest
  exact replaceChecks_ok checked

theorem reassignChecks_ok {state : SchedulerState} {placement : PlacementId}
    {generation : PlacementGeneration} {epoch : CoordinatorEpoch} {record : PlacementRecord}
    (accepted : reassignChecks state placement generation epoch = .ok record) :
    state.placements.find? record.id = some record ∧
      (placementStateIsLive record.state ∨ record.state = .reassignmentRequired) := by
  obtain ⟨_, checked, rest⟩ := except_bind_ok.mp accepted
  simp at rest
  obtain ⟨able, rfl⟩ := rest
  have found := replaceChecks_ok checked
  exact ⟨Table.key_of_find? found ▸ found, able⟩

theorem preemptChecks_ok {state : SchedulerState} {placement : PlacementId}
    {generation : PlacementGeneration} {epoch : CoordinatorEpoch} {record : PlacementRecord}
    (accepted : preemptChecks state placement generation epoch = .ok record) :
    state.placements.find? record.id = some record ∧ placementStateIsLive record.state := by
  obtain ⟨_, checked, rest⟩ := except_bind_ok.mp accepted
  simp at rest
  obtain ⟨live, rfl⟩ := rest
  have found := replaceChecks_ok checked
  exact ⟨Table.key_of_find? found ▸ found, live⟩

theorem replaceTermination_changes {state : SchedulerState} {record : PlacementRecord}
    {target : PlacementState} {reason fallback : Text}
    (found : state.placements.find? record.id = some record)
    (closed : placementStateIsLive target = false) :
    Changes state (replaceTermination state record target reason fallback) :=
  terminatePlacement_changes _ found closed

theorem replaceTermination_live {state : SchedulerState} {record : PlacementRecord} {target : PlacementState}
    {reason fallback : Text} (live : placementStateIsLive record.state) :
    replaceTermination state record target reason fallback =
      endPlacement state record target (reasonOr reason fallback) := by
  unfold replaceTermination terminatePlacement
  rw [if_pos live]

theorem replaceTermination_closed {state : SchedulerState} {record : PlacementRecord} {target : PlacementState}
    {reason fallback : Text} (closed : placementStateIsLive record.state = false) :
    replaceTermination state record target reason fallback = state := by
  unfold replaceTermination terminatePlacement
  rw [if_neg (by simp [closed])]

/-- No placement made for `request` is live. -/
def Idle (state : SchedulerState) (request : ScheduleRequestId) : Prop :=
  ∀ placement ∈ state.placements.entries, placement.request = request →
    placementStateIsLive placement.state = false

/-- The turn for `id` leaves nothing live there that was made for `request`. -/
theorem cancelTurn_closes (request : ScheduleRequestId) (reason : Text)
    (progress : SchedulerState × CancellationReport) (id : PlacementId) {placement : PlacementRecord}
    (found : (cancelTurn request reason progress id).1.placements.find? id = some placement)
    (made : placement.request = request) : placementStateIsLive placement.state = false := by
  unfold cancelTurn at found
  split at found
  · rename_i absent
    rw [absent] at found
    cases found
  · rename_i record there
    have named := Table.key_of_find? there
    by_cases live : placementStateIsLive record.state
    · by_cases same : record.request = request
      · rw [if_pos ⟨same, live⟩] at found
        simp only [terminatePlacement, live, if_true, endPlacement] at found
        rw [Table.find?_set] at found
        have written := (if_pos named).symm.trans found
        cases written
        rfl
      · rw [if_neg fun both => same both.1, there] at found
        cases found
        exact absurd made same
    · rw [if_neg fun both => live both.2, there] at found
      cases found
      simpa using live

theorem cancelLoop_closes (request : ScheduleRequestId) (reason : Text) (ids : List PlacementId)
    (progress : SchedulerState × CancellationReport) {placement : PlacementRecord}
    (found : (ids.foldl (cancelTurn request reason) progress).1.placements.find? placement.id = some placement)
    (turned : placement.id ∈ ids) (made : placement.request = request) :
    placementStateIsLive placement.state = false := by
  induction ids generalizing progress with
  | nil => cases turned
  | cons id rest ih =>
    rcases List.mem_cons.mp turned with same | later
    · -- The turn for this placement comes first, and the later ones revive nothing.
      have others := changes_foldl (cancelTurn_changes request reason) rest (cancelTurn request reason progress id)
      obtain ⟨before, there, progresses⟩ := others.placements.earlier found
      have closed := cancelTurn_closes request reason progress id (same ▸ there) (progresses.request ▸ made)
      rw [progresses.frozen closed]
      exact closed
    · exact ih _ found later

theorem cancelLoop_idle (state : SchedulerState) (request : ScheduleRequestId) (reason : Text)
    (report : CancellationReport) :
    Idle (state.placements.keys.foldl (cancelTurn request reason) (state, report)).1 request := by
  have loop := changes_foldl (cancelTurn_changes request reason) state.placements.keys (state, report)
  intro placement member made
  obtain ⟨before, there, named, -⟩ := loop.placements.of_mem member
  have turned : placement.id ∈ state.placements.keys := List.mem_map.mpr ⟨before, there, named⟩
  exact cancelLoop_closes request reason _ _ (Table.find?_of_mem member) turned made

theorem cancelRequest_cases (state : SchedulerState) (config : EngineConfig) (request : ScheduleRequestId)
    (reason : Text) :
    Changes state (cancelRequest state config request reason).1 ∨
      ∃ mid detail, Changes state mid ∧ Idle mid request ∧
        Changes (closeRequest mid request detail) (cancelRequest state config request reason).1 := by
  unfold cancelRequest
  split
  · exact .inl .refl
  · split
    · exact .inl .refl
    · have loop := changes_foldl (cancelTurn_changes request reason) state.placements.keys
        (state, { request := request })
      exact .inr ⟨_, _, loop, cancelLoop_idle state request reason _, .books rfl rfl rfl rfl rfl (.same rfl) ⟨rfl, rfl⟩⟩

theorem submitRequest_cases (engine : Engine) (request : ScheduleRequest) :
    (submitRequest engine.state engine.config engine.ids request).state = engine.state ∧
        (submitRequest engine.state engine.config engine.ids request).ids = engine.ids ∨
      ∃ call, engine.Calls (.submitRequest request) call ∧
        submitRequest engine.state engine.config engine.ids request =
          ⟨(call.scheduled engine.config engine.ids).state, (call.scheduled engine.config engine.ids).ids,
            (call.scheduled engine.config engine.ids).result⟩ := by
  unfold submitRequest
  extract_lets normalized
  split
  · exact .inl ⟨rfl, rfl⟩
  · rename_i accepted
    exact .inr ⟨_, .submit accepted, rfl⟩

/-- The operation stops short of scheduling, or it makes a call and adds at most an audit record. -/
theorem reassignPlacement_cases {engine : Engine} {placement : PlacementId}
    {generation : PlacementGeneration} {epoch : CoordinatorEpoch} {reason : Text}
    {outcome : Outcome ReassignmentReport}
    (result : reassignPlacement engine.state engine.config engine.ids placement generation epoch reason =
      outcome) :
    (outcome.ids = engine.ids ∧ Changes engine.state outcome.state) ∨
      ∃ call, engine.Calls (.reassignPlacement placement generation epoch reason) call ∧
        outcome.ids = (call.scheduled engine.config engine.ids).ids ∧
        Changes (call.scheduled engine.config engine.ids).state outcome.state := by
  unfold reassignPlacement at result
  split at result
  · subst result
    exact .inl ⟨rfl, .refl⟩
  · rename_i record accepted
    obtain ⟨found, -⟩ := reassignChecks_ok accepted
    extract_lets terminated at result
    have ended : Changes engine.state terminated := replaceTermination_changes found rfl
    split at result
    · subst result
      exact .inl ⟨rfl, ended⟩
    · rename_i stored recorded
      split at result
      · subst result
        exact .inl ⟨rfl, ended⟩
      · rename_i budget
        refine .inr ⟨_, .reassign accepted recorded (by simpa using budget), ?_⟩
        extract_lets scheduled at result
        split at result
        · subst result
          exact ⟨rfl, .refl⟩
        · extract_lets report at result
          split at result
          · subst result
            exact ⟨rfl, .books rfl rfl rfl rfl rfl (.same rfl) ⟨rfl, rfl⟩⟩
          · subst result
            exact ⟨rfl, .refl⟩

structure Preempts (engine : Engine) (placement : PlacementId) (generation : PlacementGeneration)
    (epoch : CoordinatorEpoch) (reason : Text) (record : PlacementRecord) (stored : StoredRequest) : Prop where
  accepted : preemptChecks engine.state placement generation epoch = .ok record
  recorded : (replaceTermination engine.state record .preempted reason
    (ascii "preempted to free a constrained resource")).requests.find? record.request = some stored

theorem preemptPlacement_cases {engine : Engine} {placement : PlacementId}
    {generation : PlacementGeneration} {epoch : CoordinatorEpoch} {reason : Text}
    {outcome : Outcome ReassignmentReport}
    (result : preemptPlacement engine.state engine.config engine.ids placement generation epoch reason =
      outcome) :
    (outcome.ids = engine.ids ∧ Changes engine.state outcome.state) ∨
      (∃ record stored, Preempts engine placement generation epoch reason record stored ∧
        outcome.ids = engine.ids ∧
        outcome.state = reopenRequest (replaceTermination engine.state record .preempted reason
          (ascii "preempted to free a constrained resource")) stored) ∨
      ∃ call, engine.Calls (.preemptPlacement placement generation epoch reason) call ∧
        outcome.ids = (call.scheduled engine.config engine.ids).ids ∧
        Changes (call.scheduled engine.config engine.ids).state outcome.state := by
  unfold preemptPlacement at result
  split at result
  · subst result
    exact .inl ⟨rfl, .refl⟩
  · rename_i record accepted
    obtain ⟨found, -⟩ := preemptChecks_ok accepted
    extract_lets terminated report at result
    have ended : Changes engine.state terminated := replaceTermination_changes found rfl
    split at result
    · subst result
      exact .inl ⟨rfl, ended⟩
    · rename_i stored recorded
      extract_lets reopened submitted scheduled at result
      split at result
      · subst result
        exact .inr (.inl ⟨record, stored, ⟨accepted, recorded⟩, rfl, rfl⟩)
      · rename_i able
        simp only [not_or, Bool.not_eq_false, UInt32.not_le] at able
        refine .inr (.inr ⟨_, .preempt accepted recorded able.1 able.2, ?_⟩)
        split at result
        · subst result
          exact ⟨rfl, .refl⟩
        · subst result
          exact ⟨rfl, .books rfl rfl rfl rfl rfl (.same rfl) ⟨rfl, rfl⟩⟩

theorem submitChecks_ok {state : SchedulerState} {config : EngineConfig} {request : ScheduleRequest}
    (accepted : submitChecks state config request = .ok ()) :
    validateScheduleRequest request config.limits = .ok () ∧ state.requests.find? request.id = none ∧
      checkUnit state request.unit = .ok () := by
  simp only [submitChecks, check_bind_ok, check_ok, Option.isNone_iff_eq_none] at accepted
  obtain ⟨valid, -, -, absent, -, free⟩ := accepted
  exact ⟨valid, absent, free⟩

theorem admitRequest_write {state : SchedulerState} {config : EngineConfig} {request : ScheduleRequest}
    (accepted : submitChecks state config request = .ok ()) :
    ∃ mid, RequestWrite state mid ∧ Changes mid (admitRequest state config request) := by
  obtain ⟨valid, absent, -⟩ := submitChecks_ok accepted
  have admitted : RequestWrite state
      { state with
        requests := state.requests.emplace (submittedRequest state request)
        requestSequence := state.requestSequence + 1 } := .enroll absent valid
  exact ⟨_, admitted, .books rfl rfl rfl rfl rfl (.same rfl) ⟨rfl, rfl⟩⟩

theorem reopenRequest_write {state : SchedulerState} {id : ScheduleRequestId} {stored : StoredRequest}
    (found : state.requests.find? id = some stored) : RequestWrite state (reopenRequest state stored) := by
  have here : state.requests.find? stored.id = some stored := Table.key_of_find? found ▸ found
  exact .rewrite here rfl

section Rule

variable {invariant : SchedulerState → Prop} {engine : Engine} {operation : Operation}
  (changed : ∀ {state after}, Change state after → invariant state → invariant after)

include changed

theorem replaceTermination_preserve {record : PlacementRecord} {target : PlacementState} {reason fallback : Text}
    (found : engine.state.placements.find? record.id = some record)
    (closed : placementStateIsLive target = false) (initial : invariant engine.state) :
    invariant (replaceTermination engine.state record target reason fallback) :=
  (replaceTermination_changes found closed).preserve changed initial

/-- What the changes, the three writes to the request table, and the one registration, publication,
    scheduling call or recovery of an operation preserve, the operation preserves. -/
theorem Engine.step_keeps
    (submitted : ∀ {request}, operation = .submitRequest request →
      submitChecks engine.state engine.config (normalizeScheduleRequest request) = .ok () →
      invariant engine.state →
      invariant (admitRequest engine.state engine.config (normalizeScheduleRequest request)))
    (reopened : ∀ {placement generation epoch reason record stored},
      operation = .preemptPlacement placement generation epoch reason →
      Preempts engine placement generation epoch reason record stored →
      invariant engine.state → invariant (reopenRequest (replaceTermination engine.state record .preempted reason
        (ascii "preempted to free a constrained resource")) stored))
    (closed : ∀ {state request reason detail}, operation = .cancelRequest request reason →
      Idle state request → invariant state → invariant (closeRequest state request detail))
    (registered : ∀ {advertisement mid record}, operation = .registerResource advertisement →
      Registers engine.state engine.config advertisement mid record → invariant mid →
      invariant { mid with resources := mid.resources.emplace record })
    (published : ∀ {advertisement mid live}, operation = .publishResourceState advertisement →
      Publishes engine.state engine.config advertisement mid live → invariant mid →
      invariant (publishWrite mid advertisement live))
    (called : ∀ {call}, engine.Calls operation call → invariant call.state →
      invariant (call.scheduled engine.config engine.ids).state)
    (recovered : ∀ {durable}, operation = .importState durable →
      importChecks engine.state durable = .ok () → invariant (rebuildState engine.state durable).state)
    (initial : invariant engine.state) : invariant (engine.step operation).1.state := by
  have changes {after} (chain : Changes engine.state after) : invariant after := chain.preserve changed initial
  have booked {state : SchedulerState} (kind detail : Text) (holds : invariant state) :
      invariant (pushAudit state engine.config kind detail) := by
    have change : Change state (pushAudit state engine.config kind detail) := .books rfl rfl rfl rfl rfl (.same rfl) ⟨rfl, rfl⟩
    exact changed change holds
  have scheduled {call} (calls : engine.Calls operation call) :
      invariant (call.scheduled engine.config engine.ids).state := by
    apply called calls
    cases calls with
    | submit accepted => exact submitted rfl accepted initial
    | reassign accepted recorded => exact replaceTermination_preserve changed (reassignChecks_ok accepted).1 rfl initial
    | preempt accepted recorded => exact reopened rfl ⟨accepted, recorded⟩ initial
  cases operation with
  | adoptEpoch epoch => exact changes (adoptEpoch_changes ..)
  | beginShutdown => exact changes (beginShutdown_changes ..)
  | workerConnected worker boot => exact changes (workerConnected_changes ..)
  | workerDisconnected worker boot detail => exact changes (markWorkerLost_changes ..)
  | markWorkerLost worker boot detail => exact changes (markWorkerLost_changes ..)
  | registerResource advertisement =>
    rcases registerResource_cases engine.state engine.config advertisement with
      chain | ⟨mid, record, registers, result⟩
    · exact changes chain
    · change invariant (registerResource engine.state engine.config advertisement).1
      rw [result]
      exact booked _ _ (registered rfl registers (changes registers.changes))
  | publishResourceState advertisement =>
    rcases publishResourceState_cases engine.state engine.config advertisement with
      chain | ⟨mid, live, publishes, chain⟩
    · exact changes chain
    · exact chain.preserve changed (published rfl publishes (changes publishes.changes))
  | retireResource resource expectedGeneration => exact changes (retireResource_changes ..)
  | submitRequest request =>
    rcases submitRequest_cases engine request with ⟨same, -⟩ | ⟨call, calls, result⟩
    · change invariant (submitRequest engine.state engine.config engine.ids request).state
      rw [same]
      exact initial
    · change invariant (submitRequest engine.state engine.config engine.ids request).state
      rw [result]
      exact scheduled calls
  | markAssigned placement generation epoch workerBoot => exact changes (markAssigned_changes ..)
  | markRunning placement generation epoch workerBoot => exact changes (markRunning_changes ..)
  | reportCompletion claim => exact changes (reportCompletion_changes ..)
  | reassignPlacement placement generation epoch reason =>
    rcases reassignPlacement_cases rfl with ⟨-, chain⟩ | ⟨call, calls, -, chain⟩
    · exact changes chain
    · exact chain.preserve changed (scheduled calls)
  | preemptPlacement placement generation epoch reason =>
    rcases preemptPlacement_cases rfl with ⟨-, chain⟩ | ⟨record, stored, preempts, -, result⟩ |
      ⟨call, calls, -, chain⟩
    · exact changes chain
    · change invariant (preemptPlacement engine.state engine.config engine.ids _ _ _ _).state
      rw [result]
      exact reopened rfl preempts initial
    · exact chain.preserve changed (scheduled calls)
  | cancelPlacement placement generation epoch reason => exact changes (cancelPlacement_changes ..)
  | cancelRequest request reason =>
    rcases cancelRequest_cases engine.state engine.config request reason with
      chain | ⟨mid, detail, before, idle, chain⟩
    · exact changes chain
    · exact chain.preserve changed (closed rfl idle (changes before))
  | importState durable =>
    change invariant (importState engine.state engine.config engine.ids durable).1
    unfold importState
    split
    · exact initial
    · rename_i accepted
      exact booked _ _ (recovered rfl accepted)
  | exportState => exact initial

section Writes

variable (written : ∀ {state after}, RequestWrite state after → invariant state → invariant after)

include written

omit changed in
theorem closeRequest_preserve {state : SchedulerState} {request : ScheduleRequestId} {detail : Text}
    (initial : invariant state) : invariant (closeRequest state request detail) := by
  unfold closeRequest
  split
  · exact initial
  · rename_i stored found
    have here : state.requests.find? stored.id = some stored := Table.key_of_find? found ▸ found
    exact written (.rewrite here rfl) initial

theorem admitRequest_preserve {state : SchedulerState} {config : EngineConfig} {request : ScheduleRequest}
    (accepted : submitChecks state config request = .ok ()) (initial : invariant state) :
    invariant (admitRequest state config request) := by
  obtain ⟨mid, write, rest⟩ := admitRequest_write accepted
  exact rest.preserve changed (written write initial)

theorem Preempts.preserve {placement : PlacementId} {generation : PlacementGeneration}
    {epoch : CoordinatorEpoch} {reason : Text} {record : PlacementRecord} {stored : StoredRequest}
    (preempts : Preempts engine placement generation epoch reason record stored)
    (initial : invariant engine.state) :
    invariant (reopenRequest (replaceTermination engine.state record .preempted reason
      (ascii "preempted to free a constrained resource")) stored) := by
  apply written (reopenRequest_write preempts.recorded)
  exact replaceTermination_preserve changed (preemptChecks_ok preempts.accepted).1 rfl initial

theorem Engine.Calls.preserve {call : SchedulingCall} (calls : engine.Calls operation call)
    (initial : invariant engine.state) : invariant call.state := by
  cases calls with
  | submit accepted => exact admitRequest_preserve changed written accepted initial
  | reassign accepted recorded => exact replaceTermination_preserve changed (reassignChecks_ok accepted).1 rfl initial
  | preempt accepted recorded => exact Preempts.preserve changed written ⟨accepted, recorded⟩ initial

/-- The rule for an invariant that no write to the request table touches. -/
theorem Engine.step_preserves
    (registered : ∀ {advertisement mid record}, operation = .registerResource advertisement →
      Registers engine.state engine.config advertisement mid record → invariant mid →
      invariant { mid with resources := mid.resources.emplace record })
    (published : ∀ {advertisement mid live}, operation = .publishResourceState advertisement →
      Publishes engine.state engine.config advertisement mid live → invariant mid →
      invariant (publishWrite mid advertisement live))
    (called : ∀ {call}, engine.Calls operation call → invariant call.state →
      invariant (call.scheduled engine.config engine.ids).state)
    (recovered : ∀ {durable}, operation = .importState durable →
      importChecks engine.state durable = .ok () → invariant (rebuildState engine.state durable).state)
    (initial : invariant engine.state) : invariant (engine.step operation).1.state :=
  Engine.step_keeps changed (fun _ accepted => admitRequest_preserve changed written accepted)
    (fun _ preempts => Preempts.preserve changed written preempts)
    (fun _ _ => closeRequest_preserve written) registered published called recovered initial

end Writes

end Rule

namespace Engine.Calls

variable {engine : Engine} {operation : Operation} {call : SchedulingCall}

theorem step_ids (calls : engine.Calls operation call) :
    (engine.step operation).1.ids = (call.scheduled engine.config engine.ids).ids := by
  cases calls with
  | @submit request accepted =>
    change (submitRequest engine.state engine.config engine.ids request).ids = _
    unfold submitRequest
    simp only [accepted]
    rfl
  | @reassign placement generation epoch reason record stored accepted recorded budget =>
    change (reassignPlacement engine.state engine.config engine.ids placement generation epoch reason).ids = _
    unfold reassignPlacement
    simp only [accepted, recorded, UInt32.not_le.mpr budget, if_false, SchedulingCall.scheduled]
    split
    · rfl
    · split <;> rfl
  | @preempt placement generation epoch reason record stored accepted recorded allowed budget =>
    change (preemptPlacement engine.state engine.config engine.ids placement generation epoch reason).ids = _
    unfold preemptPlacement
    simp only [accepted, recorded, allowed, UInt32.not_le.mpr budget, or_self, if_false, SchedulingCall.scheduled,
      Bool.true_eq_false]
    split <;> rfl

theorem step_audited (calls : engine.Calls operation call) :
    (engine.step operation).1.state = (call.scheduled engine.config engine.ids).state ∨
      ∃ kind detail, (engine.step operation).1.state =
        pushAudit (call.scheduled engine.config engine.ids).state engine.config kind detail := by
  cases calls with
  | submit accepted =>
    left
    simp only [Engine.step, Engine.draw, submitRequest, accepted, SchedulingCall.scheduled]
  | reassign accepted recorded budget =>
    have able := UInt32.not_le.mpr budget
    simp only [Engine.step, Engine.draw, reassignPlacement, accepted, recorded, if_neg able, SchedulingCall.scheduled]
    split
    · exact .inl rfl
    · split
      · exact .inr ⟨_, _, rfl⟩
      · exact .inl rfl
  | preempt accepted recorded allowed budget =>
    have able := not_or.mpr ⟨Bool.not_eq_false _ ▸ allowed, UInt32.not_le.mpr budget⟩
    simp only [Engine.step, Engine.draw, preemptPlacement, accepted, recorded, if_neg able, SchedulingCall.scheduled]
    split
    · exact .inl rfl
    · exact .inr ⟨_, _, rfl⟩

theorem step_changes (calls : engine.Calls operation call) :
    Changes (call.scheduled engine.config engine.ids).state (engine.step operation).1.state := by
  rcases calls.step_audited with same | ⟨kind, detail, audited⟩
  · rw [same]
  · rw [audited]
    exact .books rfl rfl rfl rfl rfl (.same rfl) ⟨rfl, rfl⟩

theorem recorded (calls : engine.Calls operation call) :
    call.state.requests.find? call.stored.id = some call.stored := by
  cases calls with
  | submit accepted =>
    obtain ⟨-, absent, -⟩ := submitChecks_ok accepted
    exact (Table.find?_emplace _ _ _).trans (by simp [absent, submittedRequest, StoredRequest.id])
  | reassign accepted recorded => exact Table.key_of_find? recorded ▸ recorded
  | preempt accepted recorded => exact Table.find?_set_self ..

theorem placements (calls : engine.Calls operation call) :
    Table.Evolves PlacementRecord.Progresses engine.state.placements call.state.placements := by
  let since (state : SchedulerState) : Prop :=
    Table.Evolves PlacementRecord.Progresses engine.state.placements state.placements
  have changed {state after} (change : Change state after) (sofar : since state) : since after :=
    sofar.trans PlacementRecord.Progresses.trans change.placements
  have written {state after} (write : RequestWrite state after) (sofar : since state) : since after := by
    cases write <;> exact sofar
  exact calls.preserve changed written (.refl PlacementRecord.Progresses.refl _)

theorem reservations (calls : engine.Calls operation call) :
    Table.Evolves ReservationRecord.Progresses engine.state.reservations call.state.reservations := by
  let since (state : SchedulerState) : Prop :=
    Table.Evolves ReservationRecord.Progresses engine.state.reservations state.reservations
  have changed {state after} (change : Change state after) (sofar : since state) : since after :=
    sofar.trans ReservationRecord.Progresses.trans change.reservations
  have written {state after} (write : RequestWrite state after) (sofar : since state) : since after := by
    cases write <;> exact sofar
  exact calls.preserve changed written (.refl ReservationRecord.Progresses.refl _)

end Engine.Calls

theorem Engine.step_config (engine : Engine) (operation : Operation) :
    (engine.step operation).1.config = engine.config := by
  cases operation <;> rfl

theorem Engine.runs_config (engine : Engine) (operations : List Operation) :
    (engine.runs operations).config = engine.config := by
  induction operations generalizing engine with
  | nil => rfl
  | cons operation rest ih => exact (ih _).trans (engine.step_config operation)

section Runs

variable {engine : Engine} {operations : List Operation} {invariant : SchedulerState → Prop}

theorem Engine.runs_preserve {ok : Engine → Operation → Prop}
    (preserved : ∀ later operation, later.config = engine.config → invariant later.state → ok later operation →
      invariant (later.step operation).1.state)
    (guarded : Guarded Engine.step ok engine operations) (initial : invariant engine.state) :
    invariant (engine.runs operations).state := by
  let holds (later : Engine) : Prop := later.config = engine.config ∧ invariant later.state
  have kept : holds (engine.runs operations) := by
    refine run_invariant (fun later operation sofar allowed => ?_) guarded ⟨rfl, initial⟩
    obtain ⟨same, here⟩ := sofar
    exact ⟨(later.step_config operation).trans same, preserved later operation same here allowed⟩
  exact kept.2

theorem Engine.runs_always
    (preserved : ∀ later operation, invariant later.state → invariant (Engine.step later operation).1.state)
    (initial : invariant engine.state) : invariant (engine.runs operations).state := by
  have free : Guarded Engine.step (fun _ _ => True) engine operations := guarded_of_forall (fun _ _ => trivial) _ _
  exact Engine.runs_preserve (fun later operation _ here _ => preserved later operation here) free initial

end Runs

def Decision.envelope (decision : Decision) : Option AuthorityEnvelope :=
  if decision.outcome = .placed then some decision.authority else none

def Reply.envelope : Reply → Option AuthorityEnvelope
  | .decision (.ok made) => made.envelope
  | .reassignment (.ok report) => report.decision.envelope
  | _ => none

theorem Decision.envelope_some {decision : Decision} {authority : AuthorityEnvelope}
    (handed : decision.envelope = some authority) : decision.outcome = .placed ∧ decision.authority = authority := by
  unfold envelope at handed
  split at handed
  · rename_i placed
    cases handed
    exact ⟨placed, rfl⟩
  · cases handed

theorem reassignReport_decision (report : ReassignmentReport) (decision : Decision) :
    (reassignReport report decision).decision = decision := by
  unfold reassignReport
  split <;> rfl

theorem preemptReport_decision (report : ReassignmentReport) (decision : Decision) :
    (preemptReport report decision).decision = decision := by
  unfold preemptReport
  split <;> rfl

def Reply.decided : Reply → Option Decision
  | .decision (.ok made) => some made
  | .reassignment (.ok report) => some report.decision
  | _ => none

theorem Reply.envelope_decided (reply : Reply) : reply.envelope = reply.decided.bind Decision.envelope := by
  unfold Reply.envelope Reply.decided
  split <;> rfl

theorem Engine.step_made {engine : Engine} {operation : Operation} {decision : Decision}
    (decided : (engine.step operation).2.decided = some decision) (made : decision ≠ {}) :
    ∃ call, engine.Calls operation call ∧ (call.scheduled engine.config engine.ids).result = .ok decision := by
  cases operation with
  | submitRequest request =>
    cases accepted : submitChecks engine.state engine.config (normalizeScheduleRequest request) with
    | error status =>
      simp only [Engine.step, Engine.draw, submitRequest, accepted] at decided
      cases decided
    | ok =>
      refine ⟨_, .submit accepted, ?_⟩
      simp only [Engine.step, Engine.draw, submitRequest, accepted] at decided
      unfold SchedulingCall.scheduled
      generalize scheduleLocked _ engine.config engine.ids _ _ _ = scheduled at decided ⊢
      cases result : scheduled.result with
      | error status =>
        rw [result] at decided
        cases decided
      | ok reached =>
        rw [result] at decided
        cases decided
        rfl
  | reassignPlacement placement generation epoch reason =>
    change (Reply.reassignment (reassignPlacement engine.state engine.config engine.ids placement generation epoch
      reason).result).decided = some decision at decided
    unfold reassignPlacement at decided
    split at decided
    · cases decided
    · rename_i record accepted
      extract_lets ended at decided
      split at decided
      · cases decided
      · rename_i stored recorded
        split at decided
        · cases decided
        · rename_i budget
          extract_lets scheduled at decided
          refine ⟨_, .reassign accepted recorded (UInt32.not_le.mp budget), ?_⟩
          split at decided
          · cases decided
          · rename_i reached result
            extract_lets report at decided
            have same : report.decision = reached := reassignReport_decision ..
            have returned : some report.decision = some decision := by
              split at decided <;> exact decided
            rw [same] at returned
            cases returned
            exact result
  | preemptPlacement placement generation epoch reason =>
    change (Reply.reassignment (preemptPlacement engine.state engine.config engine.ids placement generation epoch
      reason).result).decided = some decision at decided
    unfold preemptPlacement at decided
    split at decided
    · cases decided
    · rename_i record accepted
      extract_lets ended report at decided
      split at decided
      · cases decided
        exact absurd rfl made
      · rename_i stored recorded
        extract_lets reopened submitted scheduled at decided
        split at decided
        · cases decided
          exact absurd rfl made
        · rename_i able
          simp only [not_or, Bool.not_eq_false, UInt32.not_le] at able
          refine ⟨_, .preempt accepted recorded able.1 able.2, ?_⟩
          split at decided
          · cases decided
          · rename_i reached result
            have same : (preemptReport report reached).decision = reached := preemptReport_decision ..
            have returned : some (preemptReport report reached).decision = some decision := decided
            rw [same] at returned
            cases returned
            exact result
  | _ => cases decided

theorem Engine.step_decided {engine : Engine} {operation : Operation} {decision : Decision}
    (decided : (engine.step operation).2.decided = some decision) (placed : decision.outcome = .placed) :
    ∃ call, engine.Calls operation call ∧ (call.scheduled engine.config engine.ids).result = .ok decision := by
  refine Engine.step_made decided fun none => ?_
  rw [none] at placed
  cases placed

theorem Engine.step_envelope {engine : Engine} {operation : Operation} {authority : AuthorityEnvelope}
    (handed : (engine.step operation).2.envelope = some authority) :
    ∃ call decision, engine.Calls operation call ∧
      (call.scheduled engine.config engine.ids).result = .ok decision ∧ decision.envelope = some authority := by
  rw [Reply.envelope_decided, Option.bind_eq_some_iff] at handed
  obtain ⟨decision, decided, enveloped⟩ := handed
  obtain ⟨call, calls, result⟩ := Engine.step_decided decided (Decision.envelope_some enveloped).1
  exact ⟨call, decision, calls, result, enveloped⟩

/-- Whenever the operation commits, the identities it draws are not in the tables yet. -/
def Engine.DrawsFresh (engine : Engine) (operation : Operation) : Prop :=
  (engine.step operation).1.ids = engine.ids.commitIds.2 →
    engine.state.placements.find? engine.ids.commitIds.1.placement = none ∧
      engine.state.reservations.find? engine.ids.commitIds.1.reservation = none

instance (engine : Engine) (operation : Operation) : Decidable (engine.DrawsFresh operation) :=
  inferInstanceAs (Decidable (_ → _))

theorem Engine.Calls.draws_fresh {engine : Engine} {operation : Operation} {call : SchedulingCall}
    (calls : engine.Calls operation call) (fresh : engine.DrawsFresh operation)
    (commits : (call.scheduled engine.config engine.ids).ids = engine.ids.commitIds.2) :
    call.state.placements.find? engine.ids.commitIds.1.placement = none ∧
      call.state.reservations.find? engine.ids.commitIds.1.reservation = none := by
  obtain ⟨placement, reservation⟩ := fresh (calls.step_ids.trans commits)
  exact ⟨calls.placements.absent placement, calls.reservations.absent reservation⟩

end LabScheduler
