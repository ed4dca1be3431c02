import LabScheduler.Engine.Audited
import LabScheduler.Engine.Leasing

namespace LabScheduler

open Foundation

def Asked (state : SchedulerState) : Prop := ∀ placement ∈ state.placements.entries,
  placementStateIsLive placement.state → state.requests.find? placement.request ≠ none

/-- The request is cancelled, and no placement made for it is live. -/
structure Withdrawn (state : SchedulerState) (request : ScheduleRequestId) : Prop where
  idle : Idle state request
  cancelled : ∃ stored, state.requests.find? request = some stored ∧ stored.state = .cancelled ∧
    stored.currentPlacement = {}

/-- What is live in `after` was live before, for the same request. -/
def Subsides (state after : SchedulerState) : Prop := ∀ placement ∈ after.placements.entries,
  placementStateIsLive placement.state → ∃ before ∈ state.placements.entries,
    placementStateIsLive before.state ∧ before.request = placement.request

section Moves

variable {engine : Engine} {operation : Operation} {config : EngineConfig} {state after : SchedulerState}
  {request : ScheduleRequestId}

theorem Asked.kept (asked : Asked state) (subsides : Subsides state after)
    (present : ∀ {id}, state.requests.find? id ≠ none → after.requests.find? id ≠ none) : Asked after := by
  intro placement member live
  obtain ⟨before, there, running, same⟩ := subsides placement member live
  exact same ▸ present (asked before there running)

theorem Idle.kept (idle : Idle state request) (subsides : Subsides state after) : Idle after request := by
  intro placement member made
  by_contra running
  obtain ⟨before, there, live, same⟩ := subsides placement member (by simpa using running)
  rw [idle before there (same.trans made)] at live
  cases live

theorem Subsides.of_eq (same : after.placements = state.placements) : Subsides state after := by
  intro placement member live
  exact ⟨placement, same ▸ member, live, rfl⟩

theorem Subsides.trans {later : SchedulerState} (first : Subsides state after) (second : Subsides after later) :
    Subsides state later := by
  intro placement member live
  obtain ⟨middle, there, running, same⟩ := second placement member live
  obtain ⟨before, known, ran, request⟩ := first middle there running
  exact ⟨before, known, ran, request.trans same⟩

theorem Change.subsides (change : Change state after) : Subsides state after := by
  intro placement member live
  obtain ⟨before, there, -, progresses⟩ := change.placements.of_mem member
  exact ⟨before, there, progresses.live live, progresses.request.symm⟩

theorem Asked.step (asked : Asked engine.state) : Asked (engine.step operation).1.state := by
  refine @Engine.step_preserves Asked _ _ ?_ ?_ ?_ ?_ ?_ ?_ asked
  · intro state after change asked
    exact asked.kept change.subsides change.requests.present
  · intro state after write asked
    exact asked.kept (.of_eq (by cases write <;> rfl)) write.remembers.requests
  · intro advertisement mid record _ _ asked
    exact asked
  · intro advertisement mid live _ _ asked
    exact asked
  · intro call calls asked
    have remembers := call.remembers engine.config engine.ids
    have recorded := calls.recorded
    have result : ScheduleResult call.state engine.config engine.ids call.stored call.generation call.reassignments
      (call.scheduled engine.config engine.ids) := scheduleLocked_result
    generalize call.scheduled engine.config engine.ids = scheduled at result remembers
    cases result with
    | noPlacement => exact asked.kept (.of_eq rfl) remembers.requests
    | refused => exact asked
    | broken => exact asked
    | placed chosen loop committed decided room resources_after requests_after placements_after =>
      intro placement member live
      apply remembers.requests
      rw [placements_after] at member
      rcases Table.mem_emplace member with rfl | there
      · have named : placement.request = call.stored.id := committed ▸ rfl
        rw [named, recorded]
        exact Option.some_ne_none _
      · exact asked placement there live
  · intro durable _ accepted placement member live
    rw [(rebuildState_rebuilt accepted).not_live member] at live
    cases live

theorem Change.requests_idle (change : Change state after) (idle : Idle state request) :
    after.requests.find? request = state.requests.find? request := by
  cases change with
  | books _ requests => rw [requests]
  | invalidate => rfl
  | retire => rfl
  | @finish placement target detail found live closed =>
    have other : placement.request ≠ request := by
      intro same
      rw [idle placement (Table.mem_of_find? found) same] at live
      cases live
    change (settleRequest state.requests _ target).find? request = _
    unfold settleRequest
    split
    · rfl
    · rename_i stored there
      split
      · apply Table.find?_set_ne
        have named : (stored.settle target detail).id = stored.id := by cases target <;> rfl
        exact fun same => other ((Table.key_of_find? there).symm.trans (named.symm.trans same))
      · rfl
  | mark => rfl
  | complete => rfl

theorem Withdrawn.change (withdrawn : Withdrawn state request) (change : Change state after) :
    Withdrawn after request := by
  refine ⟨withdrawn.idle.kept change.subsides, ?_⟩
  rw [change.requests_idle withdrawn.idle]
  exact withdrawn.cancelled

theorem closeRequest_placements (state : SchedulerState) (request : ScheduleRequestId) (detail : Text) :
    (closeRequest state request detail).placements = state.placements := by
  unfold closeRequest
  split <;> rfl

theorem closeRequest_cancels {detail : Text} (present : state.requests.find? request ≠ none) :
    ∃ stored, (closeRequest state request detail).requests.find? request = some stored ∧ stored.state = .cancelled ∧
      stored.currentPlacement = {} := by
  obtain ⟨stored, found⟩ := Option.ne_none_iff_exists'.mp present
  have named : stored.id = request := Table.key_of_find? found
  let cancelled : StoredRequest := { stored with state := .cancelled, currentPlacement := {}, detail := detail }
  have there : (state.requests.set cancelled).find? cancelled.id = some cancelled := Table.find?_set_self ..
  unfold closeRequest
  rw [found]
  exact ⟨cancelled, named ▸ there, rfl, rfl⟩

theorem Withdrawn.close {other : ScheduleRequestId} {detail : Text} (withdrawn : Withdrawn state request) :
    Withdrawn (closeRequest state other detail) request := by
  refine ⟨withdrawn.idle.kept (.of_eq (closeRequest_placements ..)), ?_⟩
  by_cases same : other = request
  · obtain ⟨stored, found, -⟩ := withdrawn.cancelled
    subst same
    apply closeRequest_cancels
    rw [found]
    exact Option.some_ne_none _
  · unfold closeRequest
    split
    · exact withdrawn.cancelled
    · rename_i stored found
      let cancelled : StoredRequest := { stored with state := .cancelled, currentPlacement := {}, detail := detail }
      have key : cancelled.id ≠ request := fun named => same ((Table.key_of_find? found).symm.trans named)
      obtain ⟨own, there, closed⟩ := withdrawn.cancelled
      exact ⟨own, (Table.find?_set_ne _ key).trans there, closed⟩

theorem Withdrawn.step (withdrawn : Withdrawn engine.state request) (quiet : operation.schedules = false) :
    Withdrawn (engine.step operation).1.state request := by
  refine @Engine.step_keeps (fun state => Withdrawn state request) _ _ ?_ ?_ ?_ ?_ ?_ ?_ ?_ ?_ withdrawn
  · intro state after change withdrawn
    exact withdrawn.change change
  · rintro asked rfl
    cases quiet
  · rintro placement generation epoch reason record stored rfl
    cases quiet
  · intro state other reason detail _ _ withdrawn
    exact withdrawn.close
  · intro advertisement mid record _ _ withdrawn
    exact ⟨withdrawn.idle, withdrawn.cancelled⟩
  · intro advertisement mid live _ _ withdrawn
    exact ⟨withdrawn.idle, withdrawn.cancelled⟩
  · intro call calls
    rw [calls.schedules] at quiet
    cases quiet
  · intro durable _ accepted
    obtain ⟨stored, found, -⟩ := withdrawn.cancelled
    obtain ⟨-, -, requests, -⟩ := importChecks_ok accepted
    have member := Table.mem_of_find? found
    rw [requests] at member
    cases member

theorem Subsides.step {before : SchedulerState} (subsides : Subsides before engine.state)
    (quiet : operation.schedules = false) : Subsides before (engine.step operation).1.state := by
  refine @Engine.step_preserves (Subsides before) _ _ ?_ ?_ ?_ ?_ ?_ ?_ subsides
  · intro state after change subsides
    exact subsides.trans change.subsides
  · intro state after write subsides
    exact subsides.trans (.of_eq (by cases write <;> rfl))
  · intro advertisement mid record _ _ subsides
    exact subsides
  · intro advertisement mid live _ _ subsides
    exact subsides
  · intro call calls
    rw [calls.schedules] at quiet
    cases quiet
  · intro durable _ accepted placement member live
    rw [(rebuildState_rebuilt accepted).not_live member] at live
    cases live

theorem Engine.Passes.present (passes : engine.Passes operation state)
    (present : engine.state.requests.find? request ≠ none) : state.requests.find? request ≠ none := by
  have calm : ∀ durable, operation = .importState durable → importChecks engine.state durable ≠ .ok () := by
    intro durable _ accepted
    obtain ⟨stored, found⟩ := Option.ne_none_iff_exists'.mp present
    obtain ⟨-, -, requests, -⟩ := importChecks_ok accepted
    have member := Table.mem_of_find? found
    rw [requests] at member
    cases member
  exact (passes.remembers calm).requests present

theorem cancelRequest_withdraws {reason : Text} (known : request.validate = .ok ())
    (present : state.requests.find? request ≠ none) :
    Withdrawn (cancelRequest state config request reason).1 request := by
  obtain ⟨stored, found⟩ := Option.ne_none_iff_exists'.mp present
  unfold cancelRequest
  rw [known, found]
  dsimp only
  generalize report : ({ request := request } : CancellationReport) = begun
  have idle := cancelLoop_idle state request reason begun
  have loop := changes_foldl (cancelTurn_changes request reason) state.placements.keys (state, begun)
  refine ⟨idle.kept (.of_eq (closeRequest_placements ..)), closeRequest_cancels (loop.requests.present present)⟩

end Moves

section Runs

variable {engine : Engine} {request : ScheduleRequestId}

theorem Asked.runs {config : EngineConfig} {operations : List Operation}
    (reasons : 1 ≤ config.limits.maxRejectionReasonsPerEntry)
    (guarded : Guarded Engine.step Engine.DrawsUnused (Engine.fresh config) operations) :
    Sound ((Engine.fresh config).runs operations).state ∧ Asked ((Engine.fresh config).runs operations).state :=
  Sound.runs_beside reasons (fun _ _ draws => draws) (fun _ _ _ _ asked _ => asked.step) guarded fun _ member => by
    cases member

theorem Withdrawn.runs {operations : List Operation} (withdrawn : Withdrawn engine.state request)
    (quiet : ∀ operation ∈ operations, operation.schedules = false) :
    Withdrawn (engine.runs operations).state request := by
  induction operations generalizing engine with
  | nil => exact withdrawn
  | cons operation rest ih =>
    obtain ⟨first, others⟩ := List.forall_mem_cons.mp quiet
    exact ih (withdrawn.step first) others

theorem Subsides.runs {before : SchedulerState} {operations : List Operation} (subsides : Subsides before engine.state)
    (quiet : ∀ operation ∈ operations, operation.schedules = false) :
    Subsides before (engine.runs operations).state := by
  induction operations generalizing engine with
  | nil => exact subsides
  | cons operation rest ih =>
    obtain ⟨first, others⟩ := List.forall_mem_cons.mp quiet
    exact ih (subsides.step first) others

theorem Engine.runs_withdraws {operations : List Operation} {reason : Text} (known : request.validate = .ok ())
    (present : engine.state.requests.find? request ≠ none)
    (quiet : ∀ operation ∈ operations, operation.schedules = false)
    (cancelled : Operation.cancelRequest request reason ∈ operations) :
    Withdrawn (engine.runs operations).state request := by
  induction operations generalizing engine with
  | nil => cases cancelled
  | cons operation rest ih =>
    obtain ⟨first, others⟩ := List.forall_mem_cons.mp quiet
    rcases List.mem_cons.mp cancelled with rfl | later
    · have withdrawn : Withdrawn (engine.step (.cancelRequest request reason)).1.state request :=
        cancelRequest_withdraws known present
      exact withdrawn.runs others
    · exact ih ((engine.passes_step operation).present present) others later

end Runs

/-- What is left once all requests are cancelled: nothing is live, claimed or reserved. -/
structure Drained (state : SchedulerState) : Prop where
  ended : ∀ placement ∈ state.placements.entries, placementStateIsLive placement.state = false
  inactive : ∀ reservation ∈ state.reservations.entries, reservation.state ≠ .active
  free : ∀ resource ∈ state.resources.entries, resource.reservedSlots = 0

theorem Sound.drained {state : SchedulerState} (sound : Sound state)
    (ended : ∀ placement ∈ state.placements.entries, placementStateIsLive placement.state = false) : Drained state := by
  refine ⟨ended, fun reservation member active => ?_, fun resource member => ?_⟩
  · obtain ⟨placement, found, live, -⟩ := sound.paired.held reservation member active
    rw [ended placement (Table.mem_of_find? found)] at live
    cases live
  · have taken := sound.taken member
    rw [SchedulerState.taken_eq, Table.total_eq_zero] at taken
    · exact UInt32.toNat_inj.mp taken.symm
    · intro placement there
      rw [ended placement there]
      rfl

/-- Cancelling every stored request, in any order and among whatever else does not schedule, leaves nothing live,
    every slot free and every one of the requests cancelled. -/
theorem cancelling_all_drains {config : EngineConfig} {earlier later : List Operation}
    (reasons : 1 ≤ config.limits.maxRejectionReasonsPerEntry)
    (guarded : Guarded Engine.step Engine.DrawsUnused (Engine.fresh config) (earlier ++ later))
    (quiet : ∀ operation ∈ later, operation.schedules = false)
    (cancelled : ∀ id ∈ ((Engine.fresh config).runs earlier).state.requests.keys,
      ∃ reason, Operation.cancelRequest id reason ∈ later) :
    let after := ((Engine.fresh config).runs (earlier ++ later)).state
    Drained after ∧ ∀ id ∈ ((Engine.fresh config).runs earlier).state.requests.keys, ∃ stored,
      after.requests.find? id = some stored ∧ stored.state = .cancelled ∧ stored.currentPlacement = {} := by
  intro after
  obtain ⟨past, -⟩ := guarded_append.mp guarded
  obtain ⟨before, asked⟩ := Asked.runs reasons past
  obtain ⟨sound, -⟩ := Asked.runs reasons guarded
  have split : after = (((Engine.fresh config).runs earlier).runs later).state :=
    congrArg Engine.state (run_append ..)
  have withdrawn : ∀ id ∈ ((Engine.fresh config).runs earlier).state.requests.keys, Withdrawn after id := by
    intro id member
    obtain ⟨stored, there, named⟩ := List.mem_map.mp member
    obtain ⟨reason, listed⟩ := cancelled id member
    obtain ⟨limits, valid⟩ := before.validated.requests stored there
    rw [split]
    simp only [validateScheduleRequest, check_bind_ok] at valid
    refine Engine.runs_withdraws (named ▸ valid.1) ?_ quiet listed
    rw [← named, Table.find?_of_mem there]
    exact Option.some_ne_none _
  refine ⟨sound.drained fun placement member => ?_, fun id member => (withdrawn id member).cancelled⟩
  by_contra running
  have subsides : Subsides ((Engine.fresh config).runs earlier).state after :=
    split ▸ Subsides.runs (.of_eq rfl) quiet
  obtain ⟨origin, there, live, same⟩ := subsides placement member (by simpa using running)
  have known : placement.request ∈ ((Engine.fresh config).runs earlier).state.requests.keys := by
    obtain ⟨stored, found⟩ := Option.ne_none_iff_exists'.mp (asked origin there live)
    exact same ▸ Table.mem_keys found
  exact running ((withdrawn placement.request known).idle placement member rfl)

namespace Bench

/-- The one request of the bench is cancelled while its placement is being assigned. -/
def winding : List Operation :=
  [.markAssigned ⟨3⟩ ⟨1⟩ ⟨1⟩ {}, .beginShutdown, .cancelRequest ⟨5⟩ [], .exportState]

end Bench

theorem cancelling_all_drains_bench :
    ((Engine.fresh {}).runs Bench.start).state.placements.entries.map PlacementRecord.state = [.reserved] ∧
      Drained ((Engine.fresh {}).runs (Bench.start ++ Bench.winding)).state := by
  have draws : Guarded Engine.step Engine.DrawsUnused (Engine.fresh {}) (Bench.start ++ Bench.winding) :=
    ⟨by decide +kernel, by decide +kernel, by decide +kernel, by decide +kernel, by decide +kernel, by decide +kernel,
      trivial⟩
  have keys : ((Engine.fresh {}).runs Bench.start).state.requests.keys = [⟨5⟩] := by decide +kernel
  refine ⟨by decide +kernel, (cancelling_all_drains (by decide) draws (by decide) ?_).1⟩
  rw [keys]
  rintro id (- | ⟨-, ⟨⟩⟩)
  exact ⟨[], by simp [Bench.winding]⟩

end LabScheduler
