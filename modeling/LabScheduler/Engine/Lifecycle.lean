import LabScheduler.Engine.Scheduling

namespace LabScheduler

open Foundation

section Marking

variable (state : SchedulerState) (placement : PlacementId) (generation : PlacementGeneration)
  (epoch : CoordinatorEpoch) (workerBoot : WorkerBootId)

/-- The checks `mark_assigned` and `mark_running` share. -/
def markChecks : Except Status PlacementRecord := do
  placement.validate
  generation.validate
  checkEpoch state epoch
  match state.placements.find? placement with
  | none => fail .notFound (ascii "no such placement: " ++ placement.toText)
  | some record => do
    check (record.generation = generation) .stalePlacement
      (ascii "placement generation does not match the current generation")
    check (workerBoot.isNull ∨ record.workerBoot = workerBoot) .staleWorker
      (ascii "placement is not bound to this worker incarnation")
    check (placementStateIsLive record.state)
      (if record.state = .cancelled then .cancelled else .stalePlacement)
      (ascii "placement is not live: " ++ placementStateName record.state)
    return record

def assignChecks : Except Status PlacementRecord := do
  let record ← markChecks state placement generation epoch workerBoot
  check (record.state ≠ .running) .stalePlacement (ascii "placement is already running")
  return record

end Marking

/-- The record `mark_assigned` and `mark_running` leave. -/
def PlacementRecord.mark (record : PlacementRecord) (target : PlacementState) (detail : Text)
    (sequence : UInt64) : PlacementRecord :=
  { record with state := target, detail := detail, transitionSequence := sequence }

def markPlacement (state : SchedulerState) (record : PlacementRecord) (target : PlacementState)
    (detail : Text) : SchedulerState × PlacementRecord :=
  let sequence := state.transitionSequence + 1
  let marked := record.mark target detail sequence
  ({ state with transitionSequence := sequence, placements := state.placements.set marked }, marked)

def markAssigned (state : SchedulerState) (config : EngineConfig) (placement : PlacementId)
    (generation : PlacementGeneration) (epoch : CoordinatorEpoch) (workerBoot : WorkerBootId) :
    SchedulerState × Except Status PlacementRecord :=
  match assignChecks state placement generation epoch workerBoot with
  | .error status => (state, .error status)
  | .ok record =>
    let (state, marked) := markPlacement state record .assigned (ascii "assigned to worker")
    (pushAudit state config (ascii "placement.assigned") (placementSummary marked), .ok marked)

def markRunning (state : SchedulerState) (config : EngineConfig) (placement : PlacementId)
    (generation : PlacementGeneration) (epoch : CoordinatorEpoch) (workerBoot : WorkerBootId) :
    SchedulerState × Except Status PlacementRecord :=
  match markChecks state placement generation epoch workerBoot with
  | .error status => (state, .error status)
  | .ok record =>
    let (state, marked) := markPlacement state record .running (ascii "running on worker")
    (pushAudit state config (ascii "placement.running") (placementSummary marked), .ok marked)

structure CompletionClaim where
  placement : PlacementId := {}
  placementGeneration : PlacementGeneration := {}
  experiment : ExperimentId := {}
  experimentGeneration : ExperimentGeneration := {}
  epoch : CoordinatorEpoch := {}
  workerBoot : WorkerBootId := {}
  resources : List ResourceId := []
  resourceGenerations : List ResourceGeneration := []
  succeeded : Bool := true
  detail : Text := []
  deriving DecidableEq

structure CompletionOutcome where
  status : Status := {}
  accepted : Bool := false
  duplicate : Bool := false
  placement : PlacementId := {}
  state : PlacementState := .reserved
  releasedReservations : List ReservationId := []
  deriving DecidableEq

def PlacementRecord.completionIsRecorded (record : PlacementRecord) : Bool :=
  record.completionRecorded || record.state == .completed || record.state == .failed

/-- The refusal of a completion for a placement that is no longer live. -/
def closedPlacementStatus : PlacementState → Status
  | .cancelled => ⟨.cancelled, ascii "placement was cancelled; completion rejected"⟩
  | .preempted => ⟨.preempted, ascii "placement was preempted; completion rejected"⟩
  | .reassignmentRequired => ⟨.reassignmentRequired, ascii "placement lost its authority; completion rejected"⟩
  | _ => ⟨.stalePlacement, ascii "placement is no longer current"⟩

def checkClaimedResources (claim : CompletionClaim) (record : PlacementRecord) : Check :=
  if claim.resources = [] then .ok ()
  else do
    check (claim.resources.length = record.resources.length) .unauthorized
      (ascii "completion names the wrong resource set")
    check (sortIds claim.resources = sortIds (record.resources.map SelectedResource.resource)) .unauthorized
      (ascii "completion names the wrong resource set")

def checkClaimedGenerations (state : SchedulerState) (claim : CompletionClaim) (record : PlacementRecord) :
    Check :=
  if claim.resourceGenerations = [] then .ok ()
  else do
    check (claim.resourceGenerations.length = record.resources.length) .unauthorized
      (ascii "completion carries the wrong number of generations")
    forM (record.resources.zip claim.resourceGenerations) fun bound =>
      match state.resources.find? bound.1.resource with
      | none => fail .resourceLost (ascii "a bound resource is no longer registered")
      | some resource =>
        check (resource.generation = bound.2) .staleResource
          (ascii "completion observes a stale resource generation on " ++ bound.1.resource.toText)

def reservationIsActive (state : SchedulerState) (reservation : ReservationId) : Bool :=
  (state.reservations.find? reservation).any fun record => record.state == .active

/-- The authority validation of `report_completion`, in the order the README fixes. -/
def completionChecks (state : SchedulerState) (claim : CompletionClaim) (record : PlacementRecord) : Check := do
  checkEpoch state claim.epoch
  check (claim.experiment.isNull = false ∧ claim.experiment = record.experiment) .staleExperiment
    (ascii "completion names a different experiment")
  check (claim.experimentGeneration.isNull = false ∧
      claim.experimentGeneration = record.experimentGeneration) .staleExperiment
    (ascii "completion names a different experiment generation")
  check (claim.placementGeneration = record.generation) .stalePlacement
    (ascii "completion names a superseded placement generation")
  check (record.completionIsRecorded = false) .duplicateCompletion
    (ascii "completion for this placement generation was already recorded")
  check (placementStateIsLive record.state) (closedPlacementStatus record.state).code
    (closedPlacementStatus record.state).message
  check (claim.workerBoot.isNull ∨ claim.workerBoot = record.workerBoot) .staleWorker
    (ascii "completion arrives from a stale worker incarnation")
  checkClaimedResources claim record
  checkClaimedGenerations state claim record
  check (reservationIsActive state record.reservation) .reservationNotActive
    (ascii "the reservation backing this placement is no longer active")

def PlacementRecord.recordCompletion (record : PlacementRecord) (detail : Text) : PlacementRecord :=
  { record with completionRecorded := true, completionDetail := detail }

def reportCompletion (state : SchedulerState) (config : EngineConfig) (claim : CompletionClaim) :
    SchedulerState × CompletionOutcome :=
  match claim.placement.validate with
  | .error status => (state, { status := status })
  | .ok () =>
    match state.placements.find? claim.placement with
    | none =>
      (state,
        { placement := claim.placement
          status := ⟨.notFound, ascii "no such placement: " ++ claim.placement.toText⟩ })
    | some record =>
      match completionChecks state claim record with
      | .error status =>
        (state,
          { placement := claim.placement
            state := record.state
            duplicate := status.code = .duplicateCompletion
            status := status })
      | .ok () =>
        let record := record.recordCompletion claim.detail
        let state := { state with placements := state.placements.set record }
        let (state, ended) := terminatePlacement state record
          (if claim.succeeded then .completed else .failed)
          (if claim.succeeded then ascii "completion reported by worker"
            else ascii "failure reported by worker")
        (pushAudit state config
            (if claim.succeeded then ascii "placement.completed" else ascii "placement.failed")
            (placementSummary ended),
          { placement := claim.placement
            accepted := true
            state := ended.state
            releasedReservations := [ended.reservation] })

structure CancellationReport where
  status : Status := {}
  request : ScheduleRequestId := {}
  placement : PlacementId := {}
  state : PlacementState := .reserved
  cancelledPlacements : List PlacementId := []
  releasedReservations : List ReservationId := []
  detail : Text := []
  deriving DecidableEq

def reasonOr (reason : Text) (fallback : Text) : Text := if reason = [] then fallback else reason

def cancelPlacement (state : SchedulerState) (config : EngineConfig) (placement : PlacementId)
    (generation : PlacementGeneration) (epoch : CoordinatorEpoch) (reason : Text) :
    SchedulerState × CancellationReport :=
  match placement.validate with
  | .error status => (state, { status := status })
  | .ok () =>
    match checkEpoch state epoch with
    | .error status => (state, { placement := placement, status := status })
    | .ok () =>
      match state.placements.find? placement with
      | none =>
        (state,
          { placement := placement
            status := ⟨.notFound, ascii "no such placement: " ++ placement.toText⟩ })
      | some record =>
        let report : CancellationReport := { placement := placement, state := record.state }
        if generation.isNull = false ∧ record.generation ≠ generation then
          (state,
            { report with
              status := ⟨.stalePlacement, ascii "cancellation names a superseded placement generation"⟩ })
        else if record.state = .cancelled then
          (state,
            { report with
              status := ⟨.cancelled, ascii "placement was already cancelled"⟩
              detail := ascii "duplicate cancellation ignored" })
        else if placementStateIsLive record.state then
          let (state, ended) := terminatePlacement state record .cancelled
            (reasonOr reason (ascii "cancelled by controller"))
          (pushAudit state config (ascii "placement.cancelled") (placementSummary ended),
            { report with
              cancelledPlacements := [record.id]
              releasedReservations := [record.reservation]
              state := ended.state
              detail := ended.detail })
        else
          (state,
            { report with
              status := ⟨.stalePlacement,
                ascii "placement already reached terminal state " ++ placementStateName record.state⟩
              detail := ascii "cancellation had no effect" })

/-- One turn of the placement loop of `cancel_request`. -/
def cancelTurn (request : ScheduleRequestId) (reason : Text) (progress : SchedulerState × CancellationReport)
    (id : PlacementId) : SchedulerState × CancellationReport :=
  match progress.1.placements.find? id with
  | none => progress
  | some placement =>
    if placement.request = request ∧ placementStateIsLive placement.state then
      ((terminatePlacement progress.1 placement .cancelled
          (reasonOr reason (ascii "request cancelled by controller"))).1,
        { progress.2 with
          cancelledPlacements := progress.2.cancelledPlacements ++ [placement.id]
          releasedReservations := progress.2.releasedReservations ++ [placement.reservation] })
    else progress

/-- The request record `cancel_request` leaves, whatever the loop made of it. -/
def closeRequest (state : SchedulerState) (request : ScheduleRequestId) (detail : Text) : SchedulerState :=
  match state.requests.find? request with
  | none => state
  | some stored =>
    { state with
      requests := state.requests.set
        { stored with state := .cancelled, currentPlacement := {}, detail := detail } }

def cancelRequest (state : SchedulerState) (config : EngineConfig) (request : ScheduleRequestId)
    (reason : Text) : SchedulerState × CancellationReport :=
  match request.validate with
  | .error status => (state, { status := status })
  | .ok () =>
    match state.requests.find? request with
    | none =>
      (state,
        { request := request
          status := ⟨.notFound, ascii "no such scheduling request: " ++ request.toText⟩ })
    | some _ =>
      let (state, report) := state.placements.keys.foldl (cancelTurn request reason)
        (state, { request := request })
      let detail := reasonOr reason (ascii "cancelled by controller")
      let state := closeRequest state request detail
      (pushAudit state config (ascii "request.cancelled") (request.toText ++ ascii " " ++ detail),
        { report with detail := detail })

structure ReassignmentReport where
  status : Status := {}
  previousPlacement : PlacementId := {}
  previousGeneration : PlacementGeneration := {}
  newPlacement : PlacementId := {}
  newGeneration : PlacementGeneration := {}
  decision : Decision := {}
  revokedReservations : List ReservationId := []
  reason : Text := []
  deriving DecidableEq

structure Outcome (α : Type) where
  state : SchedulerState
  ids : IdGenerator
  result : Except Status α

section Reassignment

variable (state : SchedulerState) (config : EngineConfig) (ids : IdGenerator) (placement : PlacementId)
  (generation : PlacementGeneration) (epoch : CoordinatorEpoch) (reason : Text)

/-- The checks `reassign_placement` and `preempt_placement` share; `word` names the operation. -/
def replaceChecks (word : Text) : Except Status PlacementRecord := do
  placement.validate
  checkEpoch state epoch
  match state.placements.find? placement with
  | none => fail .notFound (ascii "no such placement: " ++ placement.toText)
  | some record => do
    check (generation.isNull ∨ record.generation = generation) .stalePlacement
      (word ++ ascii " names a superseded placement generation")
    return record

def reassignChecks : Except Status PlacementRecord := do
  let record ← replaceChecks state placement generation epoch (ascii "reassignment")
  check (placementStateIsLive record.state ∨ record.state = .reassignmentRequired) .stalePlacement
    (ascii "placement cannot be reassigned from state " ++ placementStateName record.state)
  return record

def preemptChecks : Except Status PlacementRecord := do
  let record ← replaceChecks state placement generation epoch (ascii "preemption")
  check (placementStateIsLive record.state)
    (if record.state = .cancelled then .cancelled else .stalePlacement)
    (ascii "placement is not live and cannot be preempted")
  return record

/-- The termination both begin with. A placement that is not live stays as it is. -/
def replaceTermination (state : SchedulerState) (record : PlacementRecord) (target : PlacementState)
    (reason fallback : Text) : SchedulerState :=
  (terminatePlacement state record target (reasonOr reason fallback)).1

def openReassignment (reason : Text) (record : PlacementRecord) : ReassignmentReport :=
  { reason := reason
    previousPlacement := record.id
    previousGeneration := record.generation
    revokedReservations := if placementStateIsLive record.state then [record.reservation] else [] }

def reassignReport (report : ReassignmentReport) (decision : Decision) : ReassignmentReport :=
  if decision.outcome = .placed then
    { report with
      decision := decision
      newPlacement := decision.placement.id
      newGeneration := decision.placement.generation }
  else
    { report with
      decision := decision
      status := ⟨decision.failure,
        ascii "reassignment could not find a valid placement: " ++ decision.failureDetail⟩ }

def reassignPlacement : Outcome ReassignmentReport :=
  match reassignChecks state placement generation epoch with
  | .error status => ⟨state, ids, .error status⟩
  | .ok record =>
    let state := replaceTermination state record .reassignmentRequired reason
      (ascii "reassigned by controller")
    match state.requests.find? record.request with
    | none =>
      ⟨state, ids, fail .notFound (ascii "the placement's scheduling request is no longer recorded")⟩
    | some stored =>
      if stored.request.maxReassignments ≤ record.reassignmentCount then
        ⟨state, ids, fail .reassignmentRequired (ascii "reassignment budget exhausted for this placement")⟩
      else
        let scheduled := scheduleLocked state config ids stored record.generation.bump
          (record.reassignmentCount + 1)
        match scheduled.result with
        | .error status => ⟨scheduled.state, scheduled.ids, .error status⟩
        | .ok decision =>
          let report := reassignReport (openReassignment reason record) decision
          if decision.outcome = .placed then
            ⟨pushAudit scheduled.state config (ascii "placement.reassigned")
                (report.previousPlacement.toText ++ ascii " -> " ++ report.newPlacement.toText),
              scheduled.ids, .ok report⟩
          else ⟨scheduled.state, scheduled.ids, .ok report⟩

def preemptReport (report : ReassignmentReport) (decision : Decision) : ReassignmentReport :=
  if decision.outcome = .placed then
    { report with
      decision := decision
      newPlacement := decision.placement.id
      newGeneration := decision.placement.generation }
  else { report with decision := decision }

/-- `stored->second.state = RequestState::Submitted`, after the termination. -/
def reopenRequest (state : SchedulerState) (stored : StoredRequest) : SchedulerState :=
  { state with requests := state.requests.set { stored with state := .submitted } }

def preemptPlacement : Outcome ReassignmentReport :=
  match preemptChecks state placement generation epoch with
  | .error status => ⟨state, ids, .error status⟩
  | .ok record =>
    let state := replaceTermination state record .preempted reason
      (ascii "preempted to free a constrained resource")
    let report := openReassignment reason record
    match state.requests.find? record.request with
    | none => ⟨state, ids, .ok report⟩
    | some stored =>
      let state := reopenRequest state stored
      let stored := { stored with state := .submitted }
      if stored.request.allowPreemption = false ∨ stored.request.maxReassignments ≤ record.reassignmentCount then
        ⟨state, ids, .ok report⟩
      else
        let scheduled := scheduleLocked state config ids stored record.generation.bump
          (record.reassignmentCount + 1)
        match scheduled.result with
        | .error status => ⟨scheduled.state, scheduled.ids, .error status⟩
        | .ok decision =>
          ⟨pushAudit scheduled.state config (ascii "placement.preempted")
              (placement.toText ++ ascii " " ++ reasonOr reason (ascii "preempted")),
            scheduled.ids, .ok (preemptReport report decision)⟩

end Reassignment

def countActiveRequests (state : SchedulerState) : Nat :=
  state.requests.entries.countP fun stored => stored.state == .submitted || stored.state == .placed

def currentLivePlacement (state : SchedulerState) (unit : UnitKey) : Option PlacementRecord :=
  (state.unitCurrent.find? unit).bind fun entry =>
    (state.placements.find? entry.2).filter fun placement => placementStateIsLive placement.state

def checkUnit (state : SchedulerState) (unit : UnitKey) : Check :=
  match currentLivePlacement state unit with
  | none => .ok ()
  | some placement =>
    fail .busy (ascii "a placement is already current for this scheduling unit: " ++ placement.id.toText)

def submitChecks (state : SchedulerState) (config : EngineConfig) (request : ScheduleRequest) : Check := do
  validateScheduleRequest request config.limits
  check (state.shuttingDown = false) .shuttingDown
    (ascii "coordinator is shutting down: scheduling requests are rejected")
  check (state.requests.size < config.limits.maxRetainedRequests.toNat) .resourceExhausted
    (ascii "scheduling request log has reached its configured bound")
  check ((state.requests.find? request.id).isNone) .duplicateIdentity
    (ascii "duplicate scheduling request identity: " ++ request.id.toText)
  check (countActiveRequests state < config.limits.maxActiveRequests.toNat) .resourceExhausted
    (ascii "active scheduling request bound reached")
  checkUnit state request.unit

def submittedRequest (state : SchedulerState) (request : ScheduleRequest) : StoredRequest :=
  { request := request
    state := .submitted
    submittedSequence := state.requestSequence + 1
    detail := ascii "submitted" }

def admitRequest (state : SchedulerState) (config : EngineConfig) (request : ScheduleRequest) :
    SchedulerState :=
  let stored := submittedRequest state request
  pushAudit
    { state with
      requestSequence := state.requestSequence + 1
      requests := state.requests.emplace stored }
    config (ascii "request.submitted")
    (request.id.toText ++ ascii " experiment=" ++ request.experiment.toText)

def submitRequest (state : SchedulerState) (config : EngineConfig) (ids : IdGenerator)
    (request : ScheduleRequest) : Outcome Decision :=
  let request := normalizeScheduleRequest request
  match submitChecks state config request with
  | .error status => ⟨state, ids, .error status⟩
  | .ok () =>
    let scheduled := scheduleLocked (admitRequest state config request) config ids
      (submittedRequest state request) {} 0
    ⟨scheduled.state, scheduled.ids, scheduled.result⟩

end LabScheduler
