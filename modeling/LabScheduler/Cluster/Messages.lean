import LabScheduler.Engine.Operations

namespace LabScheduler

inductive MessageType
  | hello
  | helloAck
  | registerResource
  | publishState
  | retireResource
  | resourceAck
  | scheduleRequest
  | decision
  | assign
  | assignAck
  | running
  | completion
  | completionAck
  | cancelPlacement
  | cancelRequest
  | reassign
  | preempt
  | lifecycleAck
  | inspect
  | inspectReply
  | saveState
  | stateAck
  | shutdown
  | shutdownAck
  | error
  | disconnectWorker
  deriving DecidableEq

/-- `message_type_name`. -/
def MessageType.name : MessageType → Text
  | .hello => ascii "HELLO"
  | .helloAck => ascii "HELLO_ACK"
  | .registerResource => ascii "REGISTER_RESOURCE"
  | .publishState => ascii "PUBLISH_STATE"
  | .retireResource => ascii "RETIRE_RESOURCE"
  | .resourceAck => ascii "RESOURCE_ACK"
  | .scheduleRequest => ascii "SCHEDULE_REQUEST"
  | .decision => ascii "DECISION"
  | .assign => ascii "ASSIGN"
  | .assignAck => ascii "ASSIGN_ACK"
  | .running => ascii "RUNNING"
  | .completion => ascii "COMPLETION"
  | .completionAck => ascii "COMPLETION_ACK"
  | .cancelPlacement => ascii "CANCEL_PLACEMENT"
  | .cancelRequest => ascii "CANCEL_REQUEST"
  | .reassign => ascii "REASSIGN"
  | .preempt => ascii "PREEMPT"
  | .lifecycleAck => ascii "LIFECYCLE_ACK"
  | .inspect => ascii "INSPECT"
  | .inspectReply => ascii "INSPECT_REPLY"
  | .saveState => ascii "SAVE_STATE"
  | .stateAck => ascii "STATE_ACK"
  | .shutdown => ascii "SHUTDOWN"
  | .shutdownAck => ascii "SHUTDOWN_ACK"
  | .error => ascii "ERROR"
  | .disconnectWorker => ascii "DISCONNECT_WORKER"

structure HelloMessage where
  worker : WorkerId := {}
  boot : WorkerBootId := {}

structure HelloAckMessage where
  epoch : CoordinatorEpoch := {}
  coordinator : Text := []

structure RetireMessage where
  resource : ResourceId := {}
  generation : ResourceGeneration := {}

structure ResourceAckMessage where
  resource : ResourceId := {}
  generation : ResourceGeneration := {}
  lifecycle : ResourceLifecycle := .registered
  code : ErrorCode := .ok
  detail : Text := []

/-- `explanation` stands for its rendering. -/
structure DecisionMessage where
  decision : DecisionId := {}
  outcome : DecisionOutcome := .noPlacement
  failure : ErrorCode := .ok
  failureDetail : Text := []
  placement : PlacementRecord := {}
  authority : AuthorityEnvelope := {}
  explanation : Option Explanation := none

structure AssignMessage where
  authority : AuthorityEnvelope := {}
  workload : Text := []

structure AuthorityMessage where
  placement : PlacementId := {}
  generation : PlacementGeneration := {}
  epoch : CoordinatorEpoch := {}
  workerBoot : WorkerBootId := {}

structure CompletionAckMessage where
  placement : PlacementId := {}
  state : PlacementState := .reserved
  accepted : Bool := false
  duplicate : Bool := false
  code : ErrorCode := .ok
  detail : Text := []
  releasedReservations : UInt32 := 0

structure CancelPlacementMessage where
  placement : PlacementId := {}
  generation : PlacementGeneration := {}
  epoch : CoordinatorEpoch := {}
  reason : Text := []

structure CancelRequestMessage where
  request : ScheduleRequestId := {}
  reason : Text := []

structure LifecycleAckMessage where
  placement : PlacementId := {}
  generation : PlacementGeneration := {}
  state : PlacementState := .reserved
  code : ErrorCode := .ok
  detail : Text := []
  releasedReservations : UInt32 := 0
  affected : UInt32 := 0

structure ErrorMessage where
  code : ErrorCode := .ok
  message : Text := []

structure StateAckMessage where
  path : Text := []
  epoch : CoordinatorEpoch := {}
  resources : UInt32 := 0
  requests : UInt32 := 0
  placements : UInt32 := 0
  reservations : UInt32 := 0
  code : ErrorCode := .ok
  detail : Text := []

structure DisconnectWorkerMessage where
  worker : WorkerId := {}
  boot : WorkerBootId := {}
  detail : Text := []

/-- What the coordinator makes of a received payload: a message of a type it accepts, a payload that the
    decoder of its type refuses, or a type it does not accept. -/
inductive Message
  | hello (message : HelloMessage)
  | registerResource (advertisement : ResourceAdvertisement)
  | publishState (advertisement : ResourceAdvertisement)
  | retireResource (message : RetireMessage)
  | scheduleRequest (request : ScheduleRequest)
  | assignAck (message : AuthorityMessage)
  | running (message : AuthorityMessage)
  | completion (claim : CompletionClaim)
  | cancelPlacement (message : CancelPlacementMessage)
  | cancelRequest (message : CancelRequestMessage)
  | reassign (message : CancelPlacementMessage)
  | preempt (message : CancelPlacementMessage)
  | inspect (subject : Text)
  | saveState (path : Text)
  | disconnectWorker (message : DisconnectWorkerMessage)
  | shutdown
  | refused (status : Status)
  | other (type : MessageType)

structure FrameView where
  correlation : UInt64 := 0
  message : Message

inductive Payload
  | helloAck (message : HelloAckMessage)
  | resourceAck (message : ResourceAckMessage)
  | decision (message : DecisionMessage)
  | assign (message : AssignMessage)
  | completionAck (message : CompletionAckMessage)
  | lifecycleAck (message : LifecycleAckMessage)
  | inspectReply (subject : Text)
  | stateAck (message : StateAckMessage)
  | error (message : ErrorMessage)

end LabScheduler
