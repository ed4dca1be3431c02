import LabScheduler.Engine.Passes

namespace LabScheduler

open Foundation

/-- Placements, the unit table and the requests agree on what is current. -/
structure Current (state : SchedulerState) : Prop where
  occupied : ∀ placement ∈ state.placements.entries, placementStateIsLive placement.state →
    state.unitCurrent.find? placement.unit = some (placement.unit, placement.id)
  placed : ∀ placement ∈ state.placements.entries, placementStateIsLive placement.state →
    ∃ stored, state.requests.find? placement.request = some stored ∧ stored.state = .placed ∧
      stored.currentPlacement = placement.id ∧ stored.request.unit = placement.unit
  entry : ∀ entry ∈ state.unitCurrent.entries, ∃ placement,
    state.placements.find? entry.2 = some placement ∧ placementStateIsLive placement.state ∧
      placement.unit = entry.1
  holder : ∀ stored ∈ state.requests.entries, stored.state = .placed → ∃ placement,
    state.placements.find? stored.currentPlacement = some placement ∧
      placementStateIsLive placement.state ∧ placement.request = stored.id

theorem StoredRequest.settle_request (stored : StoredRequest) (target : PlacementState) (detail : Text) :
    (stored.settle target detail).request = stored.request := by
  cases target <;> rfl

theorem StoredRequest.settle_released (stored : StoredRequest) {target : PlacementState} (detail : Text)
    (closed : placementStateIsLive target = false) : (stored.settle target detail).state ≠ .placed := by
  cases target <;> simp [StoredRequest.settle, placementStateIsLive] at closed ⊢

/-- No placement of `unit` is live. -/
def Vacant (state : SchedulerState) (unit : UnitKey) : Prop :=
  ∀ placement ∈ state.placements.entries, placement.unit = unit → placementStateIsLive placement.state = false

namespace Current

variable {state after : SchedulerState}

theorem unique (current : Current state) {placement other : PlacementRecord}
    (member : placement ∈ state.placements.entries) (live : placementStateIsLive placement.state)
    (there : other ∈ state.placements.entries) (running : placementStateIsLive other.state)
    (same : placement.unit = other.unit) : placement = other := by
  have mine := current.occupied placement member live
  have theirs := current.occupied other there running
  rw [same, theirs] at mine
  have named : other.id = placement.id := congrArg Prod.snd (Option.some.inj mine)
  exact Table.eq_of_key_eq member there named.symm

theorem stay (current : Current state) (placements : after.placements = state.placements)
    (requests : after.requests = state.requests) (unitCurrent : after.unitCurrent = state.unitCurrent) :
    Current after := by
  constructor
  · rw [placements, unitCurrent]
    exact current.occupied
  · rw [placements, requests]
    exact current.placed
  · rw [placements, unitCurrent]
    exact current.entry
  · rw [placements, requests]
    exact current.holder

theorem rewrite {placement rewritten : PlacementRecord} (current : Current state)
    (found : state.placements.find? placement.id = some placement)
    (live : placementStateIsLive placement.state) (terms : rewritten.terms = placement.terms)
    (stays : placementStateIsLive rewritten.state) :
    Current { state with placements := state.placements.set rewritten } := by
  have progresses := PlacementRecord.progresses_of_live terms live
  have member := Table.mem_of_find? found
  have holds {id : PlacementId} {property : PlacementRecord → Prop}
      (kept : property placement → property rewritten)
      (holder : ∃ other, state.placements.find? id = some other ∧ placementStateIsLive other.state ∧ property other) :
      ∃ other, (state.placements.set rewritten).find? id = some other ∧ placementStateIsLive other.state ∧
        property other := by
    obtain ⟨other, there, running, property'⟩ := holder
    rw [Table.find?_set]
    by_cases same : rewritten.id = id
    · rw [if_pos same]
      rw [← same, progresses.id, found] at there
      cases there
      exact ⟨rewritten, rfl, stays, kept property'⟩
    · rw [if_neg same]
      exact ⟨other, there, running, property'⟩
  refine ⟨fun other there running => ?_, fun other there running => ?_, fun entry there => ?_,
    fun stored there active => ?_⟩
  · rcases Table.mem_set.mp there with rfl | ⟨earlier, -⟩
    · have occupied := current.occupied placement member live
      rw [progresses.unit, progresses.id]
      exact occupied
    · exact current.occupied other earlier running
  · rcases Table.mem_set.mp there with rfl | ⟨earlier, -⟩
    · rw [progresses.request, progresses.id, progresses.unit]
      exact current.placed placement member live
    · exact current.placed other earlier running
  · exact holds (fun same => progresses.unit.trans same) (current.entry entry there)
  · exact holds (fun same => progresses.request.trans same) (current.holder stored there active)

section Finish

variable {placement : PlacementRecord} (target : PlacementState) (detail : Text) (current : Current state)
  (found : state.placements.find? placement.id = some placement) (live : placementStateIsLive placement.state)

include current found live

theorem settles :
    ∃ stored, state.requests.find? placement.request = some stored ∧
      stored.request.unit = placement.unit ∧
      (endPlacement state placement target detail).requests =
        state.requests.set (stored.settle target detail) ∧
      (endPlacement state placement target detail).unitCurrent = state.unitCurrent.erase placement.unit := by
  have member := Table.mem_of_find? found
  obtain ⟨stored, there, -, names, unit⟩ := current.placed placement member live
  have occupied := current.occupied placement member live
  let ended := placement.finish target detail (state.transitionSequence + 1)
  refine ⟨stored, there, unit, ?_, ?_⟩
  · change settleRequest state.requests ended target = _
    unfold settleRequest
    have asked : state.requests.find? ended.request = some stored := there
    rw [asked]
    exact if_pos names
  · change clearUnit state.unitCurrent ended = _
    unfold clearUnit
    have asked : state.unitCurrent.find? ended.unit = some (placement.unit, placement.id) := occupied
    rw [asked]
    exact if_pos rfl

theorem finish (closed : placementStateIsLive target = false) :
    Current (endPlacement state placement target detail) := by
  have member := Table.mem_of_find? found
  obtain ⟨stored, there, unit, requests, unitCurrent⟩ := current.settles target detail found live
  have named := Table.key_of_find? there
  let ended := placement.finish target detail (state.transitionSequence + 1)
  have settled := stored.settle_request target detail
  have released := stored.settle_released detail closed
  have key : (stored.settle target detail).id = placement.request := by
    unfold StoredRequest.id
    rw [settled]
    exact named
  -- The other live placements have other units and other requests.
  have apart {other : PlacementRecord} (earlier : other ∈ state.placements.entries)
      (differs : other.id ≠ placement.id) (running : placementStateIsLive other.state) :
      other.unit ≠ placement.unit ∧ other.request ≠ placement.request := by
    constructor
    · intro same
      have equal := current.unique earlier running member live same
      exact differs (congrArg PlacementRecord.id equal)
    · intro same
      obtain ⟨mine, asked, -, names, -⟩ := current.placed placement member live
      obtain ⟨theirs, asked', -, names', -⟩ := current.placed other earlier running
      rw [same, asked] at asked'
      cases asked'
      exact differs (names'.symm.trans names)
  have kept {other : PlacementRecord} (differs : other.id ≠ placement.id) {id : PlacementId}
      (here : state.placements.find? id = some other) :
      (endPlacement state placement target detail).placements.find? id = some other := by
    have named := Table.key_of_find? here
    have away : ended.id ≠ id := by
      intro same
      exact differs (named.trans same.symm)
    exact (Table.find?_set_ne state.placements away).trans here
  refine ⟨fun other here running => ?_, fun other here running => ?_, fun entry here => ?_,
    fun other here active => ?_⟩
  · rcases Table.mem_set.mp here with rfl | ⟨earlier, differs⟩
    · have open' : placementStateIsLive target := running
      rw [closed] at open'
      cases open'
    · obtain ⟨unit, -⟩ := apart earlier differs running
      rw [unitCurrent, Table.find?_erase, if_neg unit]
      exact current.occupied other earlier running
  · rcases Table.mem_set.mp here with rfl | ⟨earlier, differs⟩
    · have open' : placementStateIsLive target := running
      rw [closed] at open'
      cases open'
    · obtain ⟨-, request⟩ := apart earlier differs running
      have away : (stored.settle target detail).id ≠ other.request := by
        rw [key]
        exact request.symm
      rw [requests, Table.find?_set_ne _ away]
      exact current.placed other earlier running
  · rw [unitCurrent] at here
    obtain ⟨earlier, differs⟩ := Table.mem_erase.mp here
    obtain ⟨other, asked, running, same⟩ := current.entry entry earlier
    have away : other.id ≠ placement.id := by
      intro equal
      have equal := Table.eq_of_key_eq (Table.mem_of_find? asked) member equal
      rw [equal] at same
      exact differs same.symm
    exact ⟨other, kept away asked, running, same⟩
  · rw [requests] at here
    rcases Table.mem_set.mp here with rfl | ⟨earlier, differs⟩
    · exact absurd active released
    · obtain ⟨other', asked, running, same⟩ := current.holder other earlier active
      have away : other'.id ≠ placement.id := by
        intro equal
        have equal := Table.eq_of_key_eq (Table.mem_of_find? asked) member equal
        rw [equal] at same
        exact differs (same.symm.trans key.symm)
      exact ⟨other', kept away asked, running, same⟩

theorem finish_idle (closed : placementStateIsLive target = false) :
    Idle (endPlacement state placement target detail) placement.request ∧
      Vacant (endPlacement state placement target detail) placement.unit := by
  have member := Table.mem_of_find? found
  constructor
  · intro other there same
    rcases Table.mem_set.mp there with rfl | ⟨earlier, differs⟩
    · exact closed
    · by_contra running
      have running : placementStateIsLive other.state := by simpa using running
      obtain ⟨mine, asked, -, names, -⟩ := current.placed placement member live
      obtain ⟨theirs, asked', -, names', -⟩ := current.placed other earlier running
      rw [same, asked] at asked'
      cases asked'
      exact differs (names'.symm.trans names)
  · intro other there same
    rcases Table.mem_set.mp there with rfl | ⟨earlier, differs⟩
    · exact closed
    · by_contra running
      have running : placementStateIsLive other.state := by simpa using running
      have equal := current.unique earlier running member live same
      have named := congrArg PlacementRecord.id equal
      exact differs named

theorem ended_request {stored : StoredRequest}
    (recorded : (endPlacement state placement target detail).requests.find? placement.request = some stored) :
    stored.id = placement.request ∧ stored.request.unit = placement.unit := by
  obtain ⟨before, there, unit, requests, -⟩ := current.settles target detail found live
  have named := Table.key_of_find? there
  have settled := before.settle_request target detail
  have key : (before.settle target detail).id = placement.request := by
    unfold StoredRequest.id
    rw [settled]
    exact named
  rw [requests, Table.find?_set, if_pos key] at recorded
  cases recorded
  exact ⟨key, settled ▸ unit⟩

end Finish

theorem change (change : Change state after) (current : Current state) : Current after := by
  cases change with
  | books _ requests placements _ unitCurrent => exact current.stay placements requests unitCurrent
  | invalidate => exact current.stay rfl rfl rfl
  | retire => exact current.stay rfl rfl rfl
  | finish detail found live closed => exact current.finish _ detail found live closed
  | @mark placement target detail found live stays =>
    let marked := placement.mark target detail (state.transitionSequence + 1)
    have terms : marked.terms = placement.terms := rfl
    have written := current.rewrite found live terms stays
    exact written.stay rfl rfl rfl
  | complete detail found live => exact current.rewrite found live rfl live

theorem rewriteRequest {stored rewritten : StoredRequest} (current : Current state)
    (same : rewritten.request = stored.request)
    (idle : Idle state stored.id) (open' : rewritten.state ≠ .placed) :
    Current { state with requests := state.requests.set rewritten } := by
  have key : rewritten.id = stored.id := by
    unfold StoredRequest.id
    rw [same]
  refine ⟨current.occupied, fun placement member live => ?_, current.entry, fun other there active => ?_⟩
  · have away : rewritten.id ≠ placement.request := by
      intro made
      have closed := idle placement member (made.symm.trans key)
      rw [closed] at live
      cases live
    rw [Table.find?_set_ne _ away]
    exact current.placed placement member live
  · rcases Table.mem_set.mp there with rfl | ⟨earlier, -⟩
    · exact absurd active open'
    · exact current.holder other earlier active

theorem close {request : ScheduleRequestId} {detail : Text} (idle : Idle state request)
    (current : Current state) : Current (closeRequest state request detail) := by
  unfold closeRequest
  split
  · exact current
  · rename_i stored found
    have named := Table.key_of_find? found
    have same : Idle state stored.id := by
      rw [named]
      exact idle
    let cancelled : StoredRequest := { stored with state := .cancelled, currentPlacement := {}, detail := detail }
    have kept : cancelled.request = stored.request := rfl
    exact current.rewriteRequest kept same nofun

theorem enroll {config : EngineConfig} {request : ScheduleRequest} (current : Current state)
    (absent : state.requests.find? request.id = none) : Current (admitRequest state config request) := by
  let stored := submittedRequest state request
  have fresh : state.requests.find? stored.id = none := absent
  have requests : (admitRequest state config request).requests = state.requests.set stored :=
    Table.emplace_fresh fresh
  refine ⟨current.occupied, fun placement member live => ?_, current.entry, fun other there active => ?_⟩
  · obtain ⟨own, asked, rest⟩ := current.placed placement member live
    have away : stored.id ≠ placement.request := by
      intro same
      rw [← same, fresh] at asked
      cases asked
    rw [requests, Table.find?_set_ne _ away]
    exact ⟨own, asked, rest⟩
  · rw [requests] at there
    rcases Table.mem_set.mp there with rfl | ⟨earlier, -⟩
    · cases active
    · exact current.holder other earlier active

section Schedule

variable {config : EngineConfig} {ids : IdGenerator} {stored : StoredRequest}
  {generation : PlacementGeneration} {reassignments : UInt32}

theorem scheduled {scheduled : Scheduled}
    (result : ScheduleResult state config ids stored generation reassignments scheduled)
    (current : Current state) (idle : Idle state stored.id) (vacant : Vacant state stored.request.unit)
    (unused : state.placements.find? ids.commitIds.1.placement = none) : Current scheduled.state := by
  cases result with
  | @noPlacement decision =>
    let refused : StoredRequest :=
      { stored with state := .noPlacement, currentPlacement := {}, detail := decision.failureDetail }
    have kept : refused.request = stored.request := rfl
    have written := current.rewriteRequest kept idle nofun
    exact written.stay rfl rfl rfl
  | refused => exact current
  | broken => exact current.stay rfl rfl rfl
  | @placed selection resources selected claims placement decision after chosen loop committed decided room
      resources_after requests_after placements_after reservations_after unitCurrent_after =>
    have named : placement.id = ids.commitIds.1.placement := by rw [committed]; rfl
    have live : placementStateIsLive placement.state := by rw [committed]; rfl
    have unit : placement.unit = stored.request.unit := by rw [committed]; rfl
    have made : placement.request = stored.id := by rw [committed]; rfl
    have fresh : state.placements.find? placement.id = none := named ▸ unused
    have placements : after.placements = state.placements.set placement := by
      rw [placements_after, Table.emplace_fresh fresh]
    let held : StoredRequest :=
      { stored with
        state := .placed
        currentPlacement := placement.id
        placementCount := stored.placementCount + 1
        detail := ascii "placed" }
    have requests : after.requests = state.requests.set held := requests_after
    have kept {id : PlacementId} {other : PlacementRecord} (found : state.placements.find? id = some other) :
        after.placements.find? id = some other := by
      have away : placement.id ≠ id := by
        intro same
        rw [← same, fresh] at found
        cases found
      rw [placements, Table.find?_set_ne _ away]
      exact found
    refine ⟨fun other member running => ?_, fun other member running => ?_, fun entry member => ?_,
      fun other member active => ?_⟩
    · rw [placements] at member
      rw [unitCurrent_after]
      rcases Table.mem_set.mp member with rfl | ⟨earlier, -⟩
      · rw [unit]
        exact Table.find?_set_self ..
      · let occupied : UnitKey × PlacementId := (stored.request.unit, placement.id)
        have away : occupied.1 ≠ other.unit := by
          intro same
          have closed := vacant other earlier same.symm
          rw [closed] at running
          cases running
        exact (Table.find?_set_ne state.unitCurrent away).trans (current.occupied other earlier running)
    · rw [placements] at member
      rw [requests]
      rcases Table.mem_set.mp member with rfl | ⟨earlier, -⟩
      · rw [made]
        exact ⟨held, Table.find?_set_self .., rfl, rfl, unit.symm⟩
      · have away : held.id ≠ other.request := by
          intro same
          have closed := idle other earlier same.symm
          rw [closed] at running
          cases running
        rw [Table.find?_set_ne _ away]
        exact current.placed other earlier running
    · rw [unitCurrent_after] at member
      rcases Table.mem_set.mp member with rfl | ⟨earlier, -⟩
      · refine ⟨placement, ?_, live, unit⟩
        rw [placements]
        exact Table.find?_set_self ..
      · obtain ⟨other, found, rest⟩ := current.entry entry earlier
        exact ⟨other, kept found, rest⟩
    · rw [requests] at member
      rcases Table.mem_set.mp member with rfl | ⟨earlier, -⟩
      · refine ⟨placement, ?_, live, made⟩
        rw [placements]
        exact Table.find?_set_self ..
      · obtain ⟨holder, found, rest⟩ := current.holder other earlier active
        exact ⟨holder, kept found, rest⟩

end Schedule

theorem recover {durable : DurableState} (current : Current state)
    (accepted : importChecks state durable = .ok ()) : Current (rebuildState state durable).state := by
  obtain ⟨-, -, -, empty, -⟩ := importChecks_ok accepted
  have rebuilt := rebuildState_rebuilt accepted
  have none {placement : PlacementRecord}
      (member : placement ∈ (rebuildState state durable).state.placements.entries) :
      ¬ placementStateIsLive placement.state := by simp [rebuilt.not_live member]
  refine ⟨fun placement member live => absurd live (none member),
    fun placement member live => absurd live (none member), fun entry member => ?_, fun stored member active => ?_⟩
  · rw [rebuilt.unitCurrent] at member
    obtain ⟨placement, found, -⟩ := current.entry entry member
    have there := Table.mem_of_find? found
    rw [empty] at there
    cases there
  · obtain ⟨persisted, -, rfl⟩ := rebuilt.requests stored member
    unfold recoveredRequest at active
    dsimp only at active
    split at active
    · cases active
    · contradiction

end Current

def Engine.DrawsFreePlacement (engine : Engine) (operation : Operation) : Prop :=
  operation.schedules → engine.state.placements.find? engine.ids.commitIds.1.placement = none

instance (engine : Engine) (operation : Operation) : Decidable (engine.DrawsFreePlacement operation) :=
  inferInstanceAs (Decidable (_ → _))

/-- A placement that lost its authority is reassigned only while nothing is live for the unit. -/
def Engine.ReassignsVacant (engine : Engine) : Operation → Prop
  | .reassignPlacement placement generation epoch _ =>
    ∀ record stored, reassignChecks engine.state placement generation epoch = .ok record →
      record.state = .reassignmentRequired → engine.state.requests.find? record.request = some stored →
      record.reassignmentCount < stored.request.maxReassignments → Vacant engine.state stored.request.unit
  | _ => True

namespace Current

variable {engine : Engine} {operation : Operation} {call : SchedulingCall}

theorem reopen {placement : PlacementId} {generation : PlacementGeneration} {epoch : CoordinatorEpoch}
    {reason : Text} {record : PlacementRecord} {stored : StoredRequest} (current : Current engine.state)
    (preempts : Preempts engine placement generation epoch reason record stored) :
    Current (reopenRequest (replaceTermination engine.state record .preempted reason
      (ascii "preempted to free a constrained resource")) stored) := by
  obtain ⟨found, live⟩ := preemptChecks_ok preempts.accepted
  have recorded := preempts.recorded
  rw [replaceTermination_live live] at recorded ⊢
  have named := Table.key_of_find? recorded
  have ended := current.finish .preempted (reasonOr reason (ascii "preempted to free a constrained resource"))
    found live rfl
  obtain ⟨idle, -⟩ := current.finish_idle .preempted
    (reasonOr reason (ascii "preempted to free a constrained resource")) found live rfl
  rw [← named] at idle
  exact ended.rewriteRequest rfl idle nofun

theorem call_idle (current : Current engine.state) (calls : engine.Calls operation call)
    (vacant : engine.ReassignsVacant operation) :
    Idle call.state call.stored.id ∧ Vacant call.state call.stored.request.unit := by
  cases calls with
  | @submit request accepted =>
    obtain ⟨-, absent, free⟩ := submitChecks_ok accepted
    constructor
    · intro placement member made
      by_contra running
      have running : placementStateIsLive placement.state := by simpa using running
      obtain ⟨stored, asked, -⟩ := current.placed placement member running
      have made : placement.request = (normalizeScheduleRequest request).id := made
      rw [made, absent] at asked
      cases asked
    · intro placement member unit
      by_contra running
      have running : placementStateIsLive placement.state := by simpa using running
      have unit : placement.unit = (normalizeScheduleRequest request).unit := unit
      have occupied := current.occupied placement member running
      rw [unit] at occupied
      have found : engine.state.placements.find? placement.id = some placement := Table.find?_of_mem member
      have busy : currentLivePlacement engine.state (normalizeScheduleRequest request).unit = some placement := by
        unfold currentLivePlacement
        rw [occupied, Option.bind_some, found, Option.filter_some, if_pos running]
      unfold checkUnit at free
      rw [busy] at free
      cases free
  | @reassign placement generation epoch reason record stored accepted recorded budget =>
    obtain ⟨found, able⟩ := reassignChecks_ok accepted
    by_cases live : placementStateIsLive record.state
    · rw [replaceTermination_live live] at recorded ⊢
      obtain ⟨named, unit⟩ := current.ended_request _ _ found live recorded
      rw [named, unit]
      exact current.finish_idle _ _ found live rfl
    · have required : record.state = .reassignmentRequired := able.resolve_left live
      have closed : placementStateIsLive record.state = false := by simpa using live
      rw [replaceTermination_closed closed] at recorded ⊢
      have free := vacant record stored accepted required recorded budget
      refine ⟨fun other member made => ?_, free⟩
      by_contra running
      have running : placementStateIsLive other.state := by simpa using running
      have named := Table.key_of_find? recorded
      obtain ⟨held, asked, -, -, unit⟩ := current.placed other member running
      rw [made, named, recorded] at asked
      cases asked
      have idle := free other member unit.symm
      rw [idle] at running
      cases running
  | @preempt placement generation epoch reason record stored accepted recorded allowed budget =>
    obtain ⟨found, live⟩ := preemptChecks_ok accepted
    rw [replaceTermination_live live] at recorded ⊢
    obtain ⟨named, unit⟩ := current.ended_request _ _ found live recorded
    obtain ⟨idle, vacant⟩ := current.finish_idle .preempted
      (reasonOr reason (ascii "preempted to free a constrained resource")) found live rfl
    rw [← named] at idle
    rw [← unit] at vacant
    exact ⟨idle, vacant⟩

theorem step (current : Current engine.state) (draws : engine.DrawsFreePlacement operation)
    (vacant : engine.ReassignsVacant operation) : Current (engine.step operation).1.state := by
  refine Engine.step_keeps Current.change ?_ ?_ (fun _ => Current.close) ?_ ?_ ?_ ?_ current
  · intro request _ accepted current
    obtain ⟨-, absent, -⟩ := submitChecks_ok accepted
    exact current.enroll absent
  · intro placement generation epoch reason record stored _ preempts current
    exact current.reopen preempts
  · intro advertisement mid record _ registers current
    exact current.stay rfl rfl rfl
  · intro advertisement mid live _ publishes current
    exact current.stay rfl rfl rfl
  · intro call calls called
    obtain ⟨idle, free⟩ := current.call_idle calls vacant
    have unused := calls.placements.absent (draws calls.schedules)
    exact called.scheduled scheduleLocked_result idle free unused
  · intro durable _ accepted
    exact current.recover accepted

theorem fresh (config : EngineConfig) : Current (Engine.fresh config).state := by
  constructor
  all_goals exact fun _ member => absurd member List.not_mem_nil

theorem runs {config : EngineConfig} {operations : List Operation}
    (guarded : Guarded Engine.step
      (fun engine operation => engine.DrawsFreePlacement operation ∧ engine.ReassignsVacant operation)
      (Engine.fresh config) operations) : Current ((Engine.fresh config).runs operations).state := by
  apply Engine.runs_preserve _ guarded (.fresh config)
  intro engine operation _ current allowed
  exact current.step allowed.1 allowed.2

end Current

/-- While no placement that lost its authority is reassigned beside a live one of its unit, every
    reachable state has one current placement a unit, and all tables agree on it. -/
theorem placements_current {config : EngineConfig} {operations : List Operation}
    (guarded : Guarded Engine.step
      (fun engine operation => engine.DrawsFreePlacement operation ∧ engine.ReassignsVacant operation)
      (Engine.fresh config) operations) :
    let state := ((Engine.fresh config).runs operations).state
    (∀ placement ∈ state.placements.entries, placementStateIsLive placement.state →
      (∀ other ∈ state.placements.entries, placementStateIsLive other.state → placement.unit = other.unit →
        placement = other) ∧
      state.unitCurrent.find? placement.unit = some (placement.unit, placement.id) ∧
      ∃ stored, state.requests.find? placement.request = some stored ∧ stored.state = .placed ∧
        stored.currentPlacement = placement.id) ∧
    (∀ entry ∈ state.unitCurrent.entries, ∃ placement,
      state.placements.find? entry.2 = some placement ∧ placementStateIsLive placement.state) ∧
    ∀ stored ∈ state.requests.entries, stored.state = .placed → ∃ placement,
      state.placements.find? stored.currentPlacement = some placement ∧ placementStateIsLive placement.state := by
  intro state
  have current : Current state := Current.runs guarded
  refine ⟨fun placement member live => ⟨fun other there running same => ?_, ?_, ?_⟩, fun entry member => ?_,
    fun stored member active => ?_⟩
  · exact current.unique member live there running same
  · exact current.occupied placement member live
  · obtain ⟨stored, found, active, names, -⟩ := current.placed placement member live
    exact ⟨stored, found, active, names⟩
  · obtain ⟨placement, found, live, -⟩ := current.entry entry member
    exact ⟨placement, found, live⟩
  · obtain ⟨placement, found, live, -⟩ := current.holder stored member active
    exact ⟨placement, found, live⟩

theorem placements_current_bench :
    let state := ((Engine.fresh {}).runs Bench.start).state
    ∀ placement ∈ state.placements.entries, placementStateIsLive placement.state →
      state.unitCurrent.find? placement.unit = some (placement.unit, placement.id) := by
  intro state placement member live
  have current := @placements_current {} Bench.start
    ⟨⟨by decide, trivial⟩, ⟨by decide, trivial⟩, trivial⟩
  exact (current.1 placement member live).2.1

/-- The first placement of the bench is reassigned twice. -/
def Bench.reassignedTwice : List Operation :=
  Bench.start ++ [.reassignPlacement ⟨3⟩ {} ⟨1⟩ [], .reassignPlacement ⟨3⟩ {} ⟨1⟩ []]

/-- The second reassignment adds a placement beside the live one of the first. -/
theorem reassignment_doubles_unit :
    let state := ((Engine.fresh {}).runs Bench.reassignedTwice).state
    ¬ ∀ placement ∈ state.placements.entries, placementStateIsLive placement.state →
      ∀ other ∈ state.placements.entries, placementStateIsLive other.state → placement.unit = other.unit →
        placement = other := by
  decide

end LabScheduler
