import LabScheduler.Request

namespace LabScheduler

structure SelectedResource where
  resource : ResourceId := {}
  resourceClass : ResourceClass := .worker
  generation : ResourceGeneration := {}
  slots : UInt32 := 0
  exclusive : Bool := false
  requirementName : Text := []
  worker : WorkerId := {}
  workerBoot : WorkerBootId := {}
  resourceName : Text := []
  deriving DecidableEq

structure AuthorityEnvelope where
  request : ScheduleRequestId := {}
  experiment : ExperimentId := {}
  experimentGeneration : ExperimentGeneration := {}
  placement : PlacementId := {}
  placementGeneration : PlacementGeneration := {}
  epoch : CoordinatorEpoch := {}
  lease : LeaseId := {}
  reservation : ReservationId := {}
  worker : WorkerId := {}
  workerBoot : WorkerBootId := {}
  resources : List SelectedResource := []
  deriving DecidableEq

inductive PlacementState
  | reserved
  | assigned
  | running
  | completed
  | failed
  | cancelled
  | preempted
  | reassignmentRequired
  | lost
  deriving DecidableEq

def placementStateName : PlacementState → Text
  | .reserved => ascii "RESERVED"
  | .assigned => ascii "ASSIGNED"
  | .running => ascii "RUNNING"
  | .completed => ascii "COMPLETED"
  | .failed => ascii "FAILED"
  | .cancelled => ascii "CANCELLED"
  | .preempted => ascii "PREEMPTED"
  | .reassignmentRequired => ascii "REASSIGNMENT_REQUIRED"
  | .lost => ascii "LOST"

def placementStateIsLive : PlacementState → Bool
  | .reserved | .assigned | .running => true
  | .completed | .failed | .cancelled | .preempted | .reassignmentRequired | .lost => false

structure PlacementRecord where
  id : PlacementId := {}
  generation : PlacementGeneration := {}
  request : ScheduleRequestId := {}
  decision : DecisionId := {}
  experiment : ExperimentId := {}
  experimentGeneration : ExperimentGeneration := {}
  trial : TrialId := {}
  epoch : CoordinatorEpoch := {}
  resources : List SelectedResource := []
  reservation : ReservationId := {}
  lease : LeaseId := {}
  worker : WorkerId := {}
  workerBoot : WorkerBootId := {}
  state : PlacementState := .reserved
  reassignmentCount : UInt32 := 0
  completionRecorded : Bool := false
  detail : Text := []
  transitionSequence : UInt64 := 0
  completionDetail : Text := []
  deriving DecidableEq

inductive ReservationState
  | active
  | released
  | revoked
  deriving DecidableEq

structure ReservationClaim where
  resource : ResourceId := {}
  slots : UInt32 := 0
  exclusive : Bool := false
  generationAtAcquire : ResourceGeneration := {}
  deriving DecidableEq

structure ReservationRecord where
  id : ReservationId := {}
  lease : LeaseId := {}
  placement : PlacementId := {}
  placementGeneration : PlacementGeneration := {}
  request : ScheduleRequestId := {}
  experiment : ExperimentId := {}
  experimentGeneration : ExperimentGeneration := {}
  epoch : CoordinatorEpoch := {}
  claims : List ReservationClaim := []
  state : ReservationState := .active
  acquireSequence : UInt64 := 0
  detail : Text := []
  deriving DecidableEq

inductive DecisionOutcome
  | placed
  | noPlacement
  deriving DecidableEq

structure RejectedResourceEntry where
  resource : ResourceId := {}
  name : Text := []
  reasons : List RejectReason := []
  deriving DecidableEq

structure RequirementExplanation where
  requirementName : Text := []
  resourceClass : ResourceClass := .worker
  considered : UInt32 := 0
  eligible : UInt32 := 0
  rejected : List RejectedResourceEntry := []
  deriving DecidableEq

structure RankingFactorValue where
  name : Text := []
  weight : Int32 := 0
  value : Int := 0
  weighted : Int := 0
  deriving DecidableEq

structure CandidateExplanation where
  resources : List ResourceId := []
  score : Int := 0
  factors : List RankingFactorValue := []
  selected : Bool := false
  tieBreak : Text := []
  deriving DecidableEq

structure Explanation where
  decision : DecisionId := {}
  request : ScheduleRequestId := {}
  experiment : ExperimentId := {}
  experimentGeneration : ExperimentGeneration := {}
  outcome : DecisionOutcome := .noPlacement
  failure : ErrorCode := .ok
  failureDetail : Text := []
  requirements : List RequirementExplanation := []
  candidates : List CandidateExplanation := []
  selected : List SelectedResource := []
  notes : List Text := []
  deriving DecidableEq

end LabScheduler
