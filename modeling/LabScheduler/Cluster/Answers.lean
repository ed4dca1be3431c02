import LabScheduler.Cluster.Messages

namespace LabScheduler

open Foundation

structure Codec where
  /-- `encode_…` yields a payload. -/
  encodes : Payload → Bool
  /-- `decode_durable_state` of what was saved. -/
  decodes : Limits → DurableState → Check

structure CoordinatorConfig where
  statePath : Text := []
  limits : Limits := {}
  persistOnMutation : Bool := true
  coordinatorName : Text := ascii "lab-scheduler-coordinator"
  codec : Codec
  candidateSort : CandidateSort := .stable

/-- What `start` gives the engine. -/
def CoordinatorConfig.engine (config : CoordinatorConfig) : EngineConfig :=
  { limits := config.limits, candidateSort := config.candidateSort }

inductive Action
  | send (type : MessageType) (correlation : UInt64) (payload : Payload)
  | pushAssignment (correlation : UInt64) (decision : Decision) (workload : Text)
  | save (path : Text)
  | answerSave (correlation : UInt64) (path : Text)
  | pushShutdown

structure Answer where
  actions : List Action := []
  mutated : Bool := false
  decided : Option Decision := none

def errorAnswer (correlation : UInt64) (status : Status) : Answer :=
  { actions := [.send .error correlation (.error ⟨status.code, status.message⟩)] }

def helloAnswer (config : CoordinatorConfig) (correlation : UInt64) (epoch : CoordinatorEpoch) : Answer :=
  { actions := [.send .helloAck correlation (.helloAck ⟨epoch, config.coordinatorName⟩)] }

def resourceAnswer (correlation : UInt64) (resource : ResourceId) : Except Status ResourceRecord → Answer
  | .ok record =>
    { actions :=
        [.send .resourceAck correlation
          (.resourceAck { resource := resource, generation := record.generation, lifecycle := record.lifecycle })]
      mutated := true }
  | .error status =>
    { actions :=
        [.send .resourceAck correlation
          (.resourceAck { resource := resource, code := status.code, detail := status.message })] }

def decisionAnswer (correlation : UInt64) (workload : Text) : Except Status Decision → Answer
  | .ok decision =>
    { actions :=
        [.send .decision correlation
          (.decision
            { decision := decision.id
              outcome := decision.outcome
              failure := decision.failure
              failureDetail := decision.failureDetail
              placement := decision.placement
              authority := decision.authority
              explanation := some decision.explanation }),
          .pushAssignment correlation decision workload]
      mutated := true
      decided := some decision }
  | .error status =>
    { actions :=
        [.send .decision correlation
          (.decision { outcome := .noPlacement, failure := status.code, failureDetail := status.message })] }

def placementAnswer (correlation : UInt64) (message : AuthorityMessage) : Except Status PlacementRecord → Answer
  | .ok record =>
    { actions :=
        [.send .lifecycleAck correlation
          (.lifecycleAck
            { placement := message.placement, generation := message.generation, state := record.state })]
      mutated := true }
  | .error status =>
    { actions :=
        [.send .lifecycleAck correlation
          (.lifecycleAck
            { placement := message.placement
              generation := message.generation
              code := status.code
              detail := status.message })] }

def completionAnswer (correlation : UInt64) (placement : PlacementId) (outcome : CompletionOutcome) : Answer :=
  { actions :=
      [.send .completionAck correlation
        (.completionAck
          { placement := placement
            state := outcome.state
            accepted := outcome.accepted
            duplicate := outcome.duplicate
            code := outcome.status.code
            detail := outcome.status.message
            releasedReservations := lengthU32 outcome.releasedReservations })]
    mutated := outcome.accepted }

/-- The detail of an acknowledgement: that of the report, or why the operation was refused. -/
def reportDetail (status : Status) (detail : Text) : Text := if status.code = .ok then detail else status.message

def cancelPlacementAnswer (correlation : UInt64) (message : CancelPlacementMessage) (report : CancellationReport) :
    Answer :=
  { actions :=
      [.send .lifecycleAck correlation
        (.lifecycleAck
          { placement := message.placement
            generation := message.generation
            state := report.state
            code := report.status.code
            detail := reportDetail report.status report.detail
            releasedReservations := lengthU32 report.releasedReservations })]
    mutated := report.status.code = .ok }

def cancelRequestAnswer (correlation : UInt64) (report : CancellationReport) : Answer :=
  { actions :=
      [.send .lifecycleAck correlation
        (.lifecycleAck
          { code := report.status.code
            detail := reportDetail report.status report.detail
            releasedReservations := lengthU32 report.releasedReservations
            affected := lengthU32 report.cancelledPlacements })]
    mutated := report.status.code = .ok }

def reassignmentAnswer (correlation : UInt64) (message : CancelPlacementMessage) :
    Except Status ReassignmentReport → Answer
  | .ok report =>
    let ack : LifecycleAckMessage :=
      { placement := message.placement
        generation := message.generation
        code := report.status.code
        detail := reportDetail report.status (ascii "replacement scheduled")
        releasedReservations := lengthU32 report.revokedReservations }
    let ack :=
      if report.newPlacement.isNull then ack
      else { ack with placement := report.newPlacement, generation := report.newGeneration, affected := 1 }
    { actions :=
        .send .lifecycleAck correlation (.lifecycleAck ack) ::
          if report.status.code = .ok then [.pushAssignment correlation report.decision []] else []
      mutated := true
      decided := some report.decision }
  | .error status =>
    { actions :=
        [.send .lifecycleAck correlation
          (.lifecycleAck
            { placement := message.placement
              generation := message.generation
              code := status.code
              detail := status.message })] }

def disconnectAnswer (correlation : UInt64) (epoch : CoordinatorEpoch) (report : ResourceLossReport) : Answer :=
  { actions :=
      [.send .stateAck correlation
        (.stateAck
          { epoch := epoch
            resources := lengthU32 report.invalidatedResources
            placements := lengthU32 report.affectedPlacements
            reservations := lengthU32 report.releasedReservations
            code := report.status.code
            detail := reportDetail report.status report.detail })]
    mutated := report.status.code = .ok }

def shutdownAnswer (correlation : UInt64) (epoch : CoordinatorEpoch) : Answer :=
  { actions :=
      [.send .shutdownAck correlation
        (.stateAck { epoch := epoch, detail := ascii "coordinator shutting down" }),
        .pushShutdown] }

def refusalOf (type : MessageType) : Status :=
  ⟨.protocolError, ascii "message type " ++ type.name ++
    ascii " is not accepted by the coordinator on this connection"⟩

def Message.operation : Message → Option Operation
  | .hello message => some (.workerConnected message.worker message.boot)
  | .registerResource advertisement => some (.registerResource advertisement)
  | .publishState advertisement => some (.publishResourceState advertisement)
  | .retireResource message => some (.retireResource message.resource message.generation)
  | .scheduleRequest request => some (.submitRequest request)
  | .assignAck message =>
    some (.markAssigned message.placement message.generation message.epoch message.workerBoot)
  | .running message =>
    some (.markRunning message.placement message.generation message.epoch message.workerBoot)
  | .completion claim => some (.reportCompletion claim)
  | .cancelPlacement message =>
    some (.cancelPlacement message.placement message.generation message.epoch message.reason)
  | .cancelRequest message => some (.cancelRequest message.request message.reason)
  | .reassign message =>
    some (.reassignPlacement message.placement message.generation message.epoch message.reason)
  | .preempt message =>
    some (.preemptPlacement message.placement message.generation message.epoch message.reason)
  | .disconnectWorker message => some (.markWorkerLost message.worker message.boot message.detail)
  | .inspect _ | .saveState _ | .shutdown | .refused _ | .other _ => none

/-- The answer to a message, from what its operation returned and the epoch read after it. -/
def Message.answer (config : CoordinatorConfig) (correlation : UInt64) (epoch : CoordinatorEpoch) :
    Message → Reply → Answer
  | .hello _, _ => helloAnswer config correlation epoch
  | .registerResource advertisement, .resource result => resourceAnswer correlation advertisement.id result
  | .publishState advertisement, .resource result => resourceAnswer correlation advertisement.id result
  | .retireResource message, .resource result => resourceAnswer correlation message.resource result
  | .scheduleRequest request, .decision result => decisionAnswer correlation request.workload result
  | .assignAck message, .placement result => placementAnswer correlation message result
  | .running message, .placement result => placementAnswer correlation message result
  | .completion claim, .completion outcome => completionAnswer correlation claim.placement outcome
  | .cancelPlacement message, .cancellation report => cancelPlacementAnswer correlation message report
  | .cancelRequest _, .cancellation report => cancelRequestAnswer correlation report
  | .reassign message, .reassignment result => reassignmentAnswer correlation message result
  | .preempt message, .reassignment result => reassignmentAnswer correlation message result
  | .disconnectWorker _, .loss report => disconnectAnswer correlation epoch report
  | _, _ => {}

def Message.directAnswer (config : CoordinatorConfig) (correlation : UInt64) (epoch : CoordinatorEpoch) :
    Message → Answer
  | .inspect subject => { actions := [.send .inspectReply correlation (.inspectReply subject)] }
  | .saveState path =>
    let path := if path = [] then config.statePath else path
    { actions := [.save path, .answerSave correlation path] }
  | .shutdown => shutdownAnswer correlation epoch
  | .refused status => errorAnswer correlation status
  | .other type => errorAnswer correlation (refusalOf type)
  | _ => {}

/-- What a connection thread does with a message: the engine it leaves, and the answer. -/
def Message.handle (config : CoordinatorConfig) (engine : Engine) (correlation : UInt64) (message : Message) :
    Engine × Answer :=
  match message.operation with
  | none => (engine, message.directAnswer config correlation engine.state.epoch)
  | some operation =>
    let (engine, reply) := engine.step operation
    (engine, message.answer config correlation engine.state.epoch reply)

section Handling

variable {config : CoordinatorConfig} {engine : Engine} {correlation : UInt64} {message : Message}

theorem Message.handle_direct (direct : message.operation = none) :
    (message.handle config engine correlation).1 = engine ∧
      (message.handle config engine correlation).2.mutated = false := by
  unfold Message.handle
  rw [direct]
  refine ⟨rfl, ?_⟩
  cases message with
  | inspect | saveState | shutdown | refused | other => rfl
  | _ => cases direct

theorem Message.handle_unsaved {operation : Operation} (asks : message.operation = some operation) {target : Text} :
    .save target ∉ (message.handle config engine correlation).2.actions := by
  have answered (reply : Reply) (epoch : CoordinatorEpoch) :
      .save target ∉ (message.answer config correlation epoch reply).actions := by
    unfold Message.answer
    split
    case h_1 => simp [helloAnswer]
    case h_2 | h_3 | h_4 =>
      unfold resourceAnswer
      split <;> simp
    case h_5 =>
      unfold decisionAnswer
      split <;> simp
    case h_6 | h_7 =>
      unfold placementAnswer
      split <;> simp
    case h_8 => simp [completionAnswer]
    case h_9 => simp [cancelPlacementAnswer]
    case h_10 => simp [cancelRequestAnswer]
    case h_11 | h_12 =>
      unfold reassignmentAnswer
      split
      · simp only [List.mem_cons, reduceCtorEq, false_or]
        split <;> simp
      · simp
    case h_13 => simp [disconnectAnswer]
    case h_14 => simp
  unfold Message.handle
  rw [asks]
  exact answered _ _

end Handling

end LabScheduler
