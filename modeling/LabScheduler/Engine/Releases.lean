import LabScheduler.Engine.Termination

namespace LabScheduler

open Foundation

def Reply.closedReservations : Reply → List ReservationId
  | .loss report => report.releasedReservations
  | .completion outcome => outcome.releasedReservations
  | .reassignment (.ok report) => report.revokedReservations
  | .cancellation report => report.releasedReservations
  | .recovery (.ok report) => report.revokedReservations
  | _ => []

/-- The listed reservations are closed between the two states. -/
structure ClosedBy (before after : SchedulerState) (ids : List ReservationId) : Prop where
  distinct : ids.Nodup
  were : ∀ id ∈ ids, ∀ reservation, before.reservations.find? id = some reservation → reservation.state = .active
  are : ∀ id ∈ ids, ∃ reservation, after.reservations.find? id = some reservation ∧ reservation.state ≠ .active

namespace ClosedBy

variable {before mid after : SchedulerState} {ids more : List ReservationId}

theorem nil (before after : SchedulerState) : ClosedBy before after [] := ⟨.nil, nofun, nofun⟩

theorem append (closed : ClosedBy before mid ids) (further : ClosedBy mid after more) (kept : Kept before mid)
    (kept' : Kept mid after) : ClosedBy before after (ids ++ more) := by
  refine ⟨?_, fun id member reservation found => ?_, fun id member => ?_⟩
  · refine List.nodup_append.mpr ⟨closed.distinct, further.distinct, ?_⟩
    intro id first other second same
    subst same
    obtain ⟨reservation, there, inactive⟩ := closed.are id first
    exact inactive (further.were id second reservation there)
  · rcases List.mem_append.mp member with first | second
    · exact closed.were id first reservation found
    · obtain ⟨later, there, progresses⟩ := kept.reservations.later found
      have active := further.were id second later there
      rw [← progresses.active active]
      exact active
  · rcases List.mem_append.mp member with first | second
    · obtain ⟨reservation, there, inactive⟩ := closed.are id first
      exact ⟨reservation, kept'.frozen_reservation there inactive, inactive⟩
    · exact further.are id second

theorem later (closed : ClosedBy before mid ids) (kept : Kept mid after) : ClosedBy before after ids := by
  refine ⟨closed.distinct, closed.were, fun id member => ?_⟩
  obtain ⟨reservation, there, inactive⟩ := closed.are id member
  exact ⟨reservation, kept.frozen_reservation there inactive, inactive⟩

end ClosedBy

theorem kept_pushAudit (state : SchedulerState) (config : EngineConfig) (kind detail : Text) :
    Kept state (pushAudit state config kind detail) := .of_eq rfl rfl

theorem Changes.kept {state after : SchedulerState} (changes : Changes state after) : Kept state after :=
  ⟨changes.placements.toExtends, changes.reservations.toExtends⟩

theorem Changes.paired {state after : SchedulerState} (changes : Changes state after) (paired : Paired state) :
    Paired after :=
  changes.preserve Paired.change paired

theorem terminatePlacement_closedBy {state : SchedulerState} {placement : PlacementRecord}
    (target : PlacementState) (detail : Text) (paired : Paired state)
    (found : state.placements.find? placement.id = some placement) :
    ClosedBy state (terminatePlacement state placement target detail).1
      (if placementStateIsLive placement.state then [placement.reservation] else []) := by
  unfold terminatePlacement
  by_cases live : placementStateIsLive placement.state
  · rw [if_pos live, if_pos live]
    obtain ⟨reservation, held, active, -, -, reservations⟩ := paired.closes target detail found live
    have named := Table.key_of_find? held
    refine ⟨List.nodup_singleton _, fun id member other there => ?_, fun id member => ?_⟩
    · rw [List.mem_singleton.mp member, held] at there
      cases there
      exact active
    · rw [List.mem_singleton.mp member]
      refine ⟨reservation.close target detail, ?_, closedState_ne_active target⟩
      change (endPlacement state placement target detail).reservations.find? placement.reservation = _
      rw [reservations, Table.find?_set]
      exact if_pos named
  · rw [if_neg live, if_neg live]
    exact .nil ..

theorem closedBy_foldl {α β : Type} {turn : SchedulerState × β → α → SchedulerState × β}
    (listed : β → List ReservationId)
    (changes : ∀ progress item, Changes progress.1 (turn progress item).1)
    (each : ∀ progress item, Paired progress.1 → ∃ more,
      listed (turn progress item).2 = listed progress.2 ++ more ∧ ClosedBy progress.1 (turn progress item).1 more)
    (items : List α) (progress : SchedulerState × β) (paired : Paired progress.1) :
    ∃ more, listed (items.foldl turn progress).2 = listed progress.2 ++ more ∧
      ClosedBy progress.1 (items.foldl turn progress).1 more := by
  induction items generalizing progress with
  | nil => exact ⟨[], by simp, .nil ..⟩
  | cons item rest ih =>
    have turned := changes progress item
    obtain ⟨first, list, closed⟩ := each progress item paired
    obtain ⟨others, list', closed'⟩ := ih (turn progress item) (turned.paired paired)
    have looped := changes_foldl changes rest (turn progress item)
    refine ⟨first ++ others, ?_, closed.append closed' turned.kept looped.kept⟩
    rw [List.foldl_cons, list', list, List.append_assoc]

theorem losePlacement_closedBy (worker : WorkerId) (boot : WorkerBootId) (affected : List ResourceId)
    (progress : SchedulerState × ResourceLossReport) (id : PlacementId) (paired : Paired progress.1) :
    ∃ more, (losePlacement worker boot affected progress id).2.releasedReservations =
        progress.2.releasedReservations ++ more ∧
      ClosedBy progress.1 (losePlacement worker boot affected progress id).1 more := by
  unfold losePlacement
  split
  · exact ⟨[], by simp, .nil ..⟩
  · rename_i placement found
    split
    · rename_i chosen
      have live : placementStateIsLive placement.state := (Bool.and_eq_true_iff.mp chosen).1
      have named := Table.key_of_find? found
      have closed := terminatePlacement_closedBy .reassignmentRequired
        (ascii "resource incarnation lost; reassignment required") paired (named ▸ found)
      rw [if_pos live] at closed
      refine ⟨_, rfl, ?_⟩
      change ClosedBy progress.1 (terminatePlacement progress.1 placement .reassignmentRequired _).1 _
      split
      · exact .nil ..
      · split
        · exact closed
        · exact .nil ..
    · exact ⟨[], by simp, .nil ..⟩

theorem invalidateWorkerIncarnation_closedBy (state : SchedulerState) (config : EngineConfig)
    (worker : WorkerId) (boot : WorkerBootId) (detail : Text) (paired : Paired state) :
    ClosedBy state (invalidateWorkerIncarnation state config worker boot detail).1
      (invalidateWorkerIncarnation state config worker boot detail).2.releasedReservations := by
  unfold invalidateWorkerIncarnation
  extract_lets affected report
  have marked : Changes state (invalidateResources state worker boot) := .single (.invalidate ..)
  obtain ⟨more, list, closed⟩ := closedBy_foldl ResourceLossReport.releasedReservations
    (losePlacement_changes worker boot affected) (losePlacement_closedBy worker boot affected)
    state.placements.keys (invalidateResources state worker boot, report) (marked.paired paired)
  have list : (state.placements.keys.foldl (losePlacement worker boot affected)
      (invalidateResources state worker boot, report)).2.releasedReservations = more := list
  have booked := changes_pushAudit (disconnectWorker_changes (state.placements.keys.foldl
    (losePlacement worker boot affected) (invalidateResources state worker boot, report)).1 worker boot detail)
    config (ascii "worker.incarnation_invalidated")
    (worker.toText ++ ascii " boot=" ++ boot.toText ++ ascii " " ++ detail)
  have looped : ClosedBy state _ more := ⟨closed.distinct, closed.were, closed.are⟩
  exact list ▸ looped.later booked.kept

theorem adoptWorkerIncarnation_closedBy (state : SchedulerState) (config : EngineConfig) {worker : WorkerId}
    (named : worker.isNull = false) (boot : WorkerBootId) (detail : Text) (paired : Paired state) :
    ClosedBy state (adoptWorkerIncarnation state config worker boot detail).1
      (adoptWorkerIncarnation state config worker boot detail).2.releasedReservations := by
  unfold adoptWorkerIncarnation
  split
  · exact .nil ..
  · split
    · exact .nil ..
    · rename_i record found differs
      have closed := invalidateWorkerIncarnation_closedBy state config worker record.boot detail paired
      have entered := changes_pushAudit (enterIncarnation_replaces config named found boot detail) config
        (ascii "worker.reincarnated")
        (worker.toText ++ ascii " boot=" ++ boot.toText ++ ascii " replaced boot=" ++ record.boot.toText)
      exact closed.later entered.kept

theorem workerConnected_closedBy (state : SchedulerState) (config : EngineConfig) (worker : WorkerId)
    (boot : WorkerBootId) (paired : Paired state) :
    ClosedBy state (workerConnected state config worker boot).1
      (workerConnected state config worker boot).2.releasedReservations := by
  unfold workerConnected
  split
  · exact .nil ..
  · rename_i valid
    exact adoptWorkerIncarnation_closedBy state config (workerChecks_ok valid) boot _ paired

theorem markWorkerLost_closedBy (state : SchedulerState) (config : EngineConfig) (worker : WorkerId)
    (boot : WorkerBootId) (detail : Text) (paired : Paired state) :
    ClosedBy state (markWorkerLost state config worker boot detail).1
      (markWorkerLost state config worker boot detail).2.releasedReservations := by
  unfold markWorkerLost
  split
  · exact .nil ..
  · exact invalidateWorkerIncarnation_closedBy state config worker boot detail paired

theorem reportCompletion_closedBy (state : SchedulerState) (config : EngineConfig) (claim : CompletionClaim)
    (paired : Paired state) :
    ClosedBy state (reportCompletion state config claim).1
      (reportCompletion state config claim).2.releasedReservations := by
  unfold reportCompletion
  split
  · exact .nil ..
  · split
    · exact .nil ..
    · rename_i record found
      split
      · exact .nil ..
      · rename_i accepted
        have live := completionChecks_live accepted
        have found := Table.key_of_find? found ▸ found
        let noted := record.recordCompletion claim.detail
        let mid := { state with placements := state.placements.set noted }
        have written : Changes state mid := .single (.complete claim.detail found live)
        have here : mid.placements.find? noted.id = some noted := Table.find?_set_self ..
        let target : PlacementState := if claim.succeeded then .completed else .failed
        let detail :=
          if claim.succeeded then ascii "completion reported by worker" else ascii "failure reported by worker"
        have closed := terminatePlacement_closedBy target detail (written.paired paired) here
        have running : placementStateIsLive noted.state := live
        rw [if_pos running] at closed
        have names : (terminatePlacement mid noted target detail).2.reservation = noted.reservation := by
          unfold terminatePlacement
          rw [if_pos running]
          rfl
        change ClosedBy state _ [(terminatePlacement mid noted target detail).2.reservation]
        rw [names]
        have ended : ClosedBy state (terminatePlacement mid noted target detail).1 [noted.reservation] :=
          ⟨closed.distinct, closed.were, closed.are⟩
        exact ended.later (kept_pushAudit ..)

theorem cancelPlacement_closedBy (state : SchedulerState) (config : EngineConfig) (placement : PlacementId)
    (generation : PlacementGeneration) (epoch : CoordinatorEpoch) (reason : Text) (paired : Paired state) :
    ClosedBy state (cancelPlacement state config placement generation epoch reason).1
      (cancelPlacement state config placement generation epoch reason).2.releasedReservations := by
  unfold cancelPlacement
  split
  · exact .nil ..
  · split
    · exact .nil ..
    · split
      · exact .nil ..
      · rename_i record found
        extract_lets report
        have found := Table.key_of_find? found ▸ found
        split
        · exact .nil ..
        · split
          · exact .nil ..
          · by_cases live : placementStateIsLive record.state
            · have closed := terminatePlacement_closedBy .cancelled
                (reasonOr reason (ascii "cancelled by controller")) paired found
              rw [if_pos live] at closed
              rw [if_pos live]
              exact closed.later (kept_pushAudit ..)
            · rw [if_neg live]
              exact .nil ..

theorem cancelTurn_closedBy (request : ScheduleRequestId) (reason : Text)
    (progress : SchedulerState × CancellationReport) (id : PlacementId) (paired : Paired progress.1) :
    ∃ more, (cancelTurn request reason progress id).2.releasedReservations =
        progress.2.releasedReservations ++ more ∧
      ClosedBy progress.1 (cancelTurn request reason progress id).1 more := by
  unfold cancelTurn
  split
  · exact ⟨[], by simp, .nil ..⟩
  · rename_i placement found
    have named := Table.key_of_find? found
    split
    · rename_i chosen
      have closed := terminatePlacement_closedBy .cancelled
        (reasonOr reason (ascii "request cancelled by controller")) paired (named ▸ found)
      rw [if_pos chosen.2] at closed
      exact ⟨_, rfl, closed⟩
    · exact ⟨[], by simp, .nil ..⟩

theorem closeRequest_kept (state : SchedulerState) (request : ScheduleRequestId) (detail : Text) :
    Kept state (closeRequest state request detail) := by
  unfold closeRequest
  split
  · exact .refl _
  · exact .of_eq rfl rfl

theorem cancelRequest_closedBy (state : SchedulerState) (config : EngineConfig) (request : ScheduleRequestId)
    (reason : Text) (paired : Paired state) :
    ClosedBy state (cancelRequest state config request reason).1
      (cancelRequest state config request reason).2.releasedReservations := by
  unfold cancelRequest
  split
  · exact .nil ..
  · split
    · exact .nil ..
    · obtain ⟨more, list, closed⟩ := closedBy_foldl CancellationReport.releasedReservations
        (cancelTurn_changes request reason) (cancelTurn_closedBy request reason) state.placements.keys
        (state, { request := request }) paired
      have list : (state.placements.keys.foldl (cancelTurn request reason)
          (state, { request := request })).2.releasedReservations = more := list
      have rewritten := closeRequest_kept (state.placements.keys.foldl (cancelTurn request reason)
        (state, { request := request })).1 request (reasonOr reason (ascii "cancelled by controller"))
      exact list ▸ closed.later (rewritten.trans (kept_pushAudit ..))

theorem replaceTermination_closedBy {state : SchedulerState} {record : PlacementRecord}
    (target : PlacementState) (reason fallback : Text) (paired : Paired state)
    (found : state.placements.find? record.id = some record) :
    ClosedBy state (replaceTermination state record target reason fallback)
      (openReassignment reason record).revokedReservations :=
  terminatePlacement_closedBy target (reasonOr reason fallback) paired found

theorem scheduled_closedBy {state terminated : SchedulerState} {ids : List ReservationId}
    (closed : ClosedBy state terminated ids) (stored : StoredRequest) (generation : PlacementGeneration)
    (reassignments : UInt32) (config : EngineConfig) (generator : IdGenerator) :
    ClosedBy state (scheduleLocked terminated config generator stored generation reassignments).state ids :=
  closed.later (SchedulingCall.kept ⟨terminated, stored, generation, reassignments⟩ config generator)

theorem reassignPlacement_closedBy (state : SchedulerState) (config : EngineConfig) (ids : IdGenerator)
    (placement : PlacementId) (generation : PlacementGeneration) (epoch : CoordinatorEpoch) (reason : Text)
    (paired : Paired state) :
    ClosedBy state (reassignPlacement state config ids placement generation epoch reason).state
      (Reply.reassignment
        (reassignPlacement state config ids placement generation epoch reason).result).closedReservations := by
  unfold reassignPlacement
  split
  · exact .nil ..
  · rename_i record accepted
    have closed := replaceTermination_closedBy .reassignmentRequired reason
      (ascii "reassigned by controller") paired (reassignChecks_ok accepted).1
    extract_lets terminated
    split
    · exact .nil ..
    · rename_i stored recorded
      split
      · exact .nil ..
      · have after := scheduled_closedBy closed stored record.generation.bump (record.reassignmentCount + 1)
          config ids
        extract_lets scheduled
        split
        · exact .nil ..
        · rename_i decision result
          extract_lets report
          have listed : report.revokedReservations = (openReassignment reason record).revokedReservations := by
            unfold report reassignReport
            split <;> rfl
          split
          · change ClosedBy state _ report.revokedReservations
            rw [listed]
            exact after.later (kept_pushAudit ..)
          · change ClosedBy state _ report.revokedReservations
            rw [listed]
            exact after

theorem preemptPlacement_closedBy (state : SchedulerState) (config : EngineConfig) (ids : IdGenerator)
    (placement : PlacementId) (generation : PlacementGeneration) (epoch : CoordinatorEpoch) (reason : Text)
    (paired : Paired state) :
    ClosedBy state (preemptPlacement state config ids placement generation epoch reason).state
      (Reply.reassignment
        (preemptPlacement state config ids placement generation epoch reason).result).closedReservations := by
  unfold preemptPlacement
  split
  · exact .nil ..
  · rename_i record accepted
    have closed := replaceTermination_closedBy .preempted reason
      (ascii "preempted to free a constrained resource") paired (preemptChecks_ok accepted).1
    extract_lets terminated report
    split
    · exact closed
    · rename_i stored recorded
      extract_lets reopened submitted scheduled
      have reopens : ClosedBy state reopened report.revokedReservations := closed.later (.of_eq rfl rfl)
      split
      · exact reopens
      · have after := scheduled_closedBy reopens submitted record.generation.bump (record.reassignmentCount + 1)
          config ids
        split
        · exact .nil ..
        · rename_i decision result
          have listed : (preemptReport report decision).revokedReservations = report.revokedReservations := by
            unfold preemptReport
            split <;> rfl
          change ClosedBy state _ (preemptReport report decision).revokedReservations
          rw [listed]
          exact after.later (kept_pushAudit ..)

theorem importState_closedBy (state : SchedulerState) (config : EngineConfig) (ids : IdGenerator)
    (durable : DurableState) :
    ClosedBy state (importState state config ids durable).1
      (Reply.recovery (importState state config ids durable).2.2).closedReservations := by
  unfold importState
  split
  · exact .nil ..
  · rename_i accepted
    obtain ⟨valid, -, -, -, empty⟩ := importChecks_ok accepted
    have rebuilt := rebuildState_rebuilt accepted
    have listed := rebuildState_revoked state durable
    have distinct := validateDurableState_reservations valid
    change ClosedBy state _ (rebuildState state durable).report.revokedReservations
    rw [listed]
    refine ⟨distinct.sublist (List.filter_sublist.map _), fun id _ reservation found => ?_, fun id member => ?_⟩
    · have there := Table.mem_of_find? found
      rw [empty] at there
      cases there
    · obtain ⟨persisted, chosen, rfl⟩ := List.mem_map.mp member
      have present := rebuildState_reservation state (List.mem_of_mem_filter chosen)
      obtain ⟨reservation, found⟩ := Option.ne_none_iff_exists'.mp present
      exact ⟨reservation, found, rebuilt.not_active (Table.mem_of_find? found)⟩

/-- What a reply lists is closed by its operation. -/
theorem Engine.step_closedBy (engine : Engine) (operation : Operation) (paired : Paired engine.state) :
    ClosedBy engine.state (engine.step operation).1.state (engine.step operation).2.closedReservations := by
  cases operation with
  | adoptEpoch => exact .nil ..
  | beginShutdown => exact .nil ..
  | workerConnected => exact workerConnected_closedBy _ _ _ _ paired
  | workerDisconnected => exact markWorkerLost_closedBy _ _ _ _ _ paired
  | markWorkerLost => exact markWorkerLost_closedBy _ _ _ _ _ paired
  | registerResource => exact .nil ..
  | publishResourceState => exact .nil ..
  | retireResource => exact .nil ..
  | submitRequest => exact .nil ..
  | markAssigned => exact .nil ..
  | markRunning => exact .nil ..
  | reportCompletion => exact reportCompletion_closedBy _ _ _ paired
  | reassignPlacement => exact reassignPlacement_closedBy _ _ _ _ _ _ _ paired
  | preemptPlacement => exact preemptPlacement_closedBy _ _ _ _ _ _ _ paired
  | cancelPlacement => exact cancelPlacement_closedBy _ _ _ _ _ _ paired
  | cancelRequest => exact cancelRequest_closedBy _ _ _ _ paired
  | importState durable => exact importState_closedBy engine.state engine.config engine.ids durable
  | exportState => exact .nil ..

end LabScheduler
