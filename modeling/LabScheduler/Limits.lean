import Mathlib.Data.UInt

namespace LabScheduler

structure Limits where
  maxResources : UInt32 := 4096
  maxCapabilitiesPerResource : UInt32 := 64
  maxAcceleratorsPerResource : UInt32 := 8
  maxLocalDatasetsPerResource : UInt32 := 32
  maxResidentModelsPerResource : UInt32 := 32
  maxSimulatorScenarios : UInt32 := 64
  maxRetainedRequests : UInt32 := 4096
  maxActiveRequests : UInt32 := 1024
  maxRequirementsPerRequest : UInt32 := 16
  maxAllowlistEntries : UInt32 := 64
  maxDenylistEntries : UInt32 := 64
  maxAntiAffinityPairs : UInt32 := 16
  maxAffinityGroups : UInt32 := 8
  maxCandidateResourcesPerRequirement : UInt32 := 512
  maxCandidatesEvaluated : UInt32 := 20000
  maxCandidatesRanked : UInt32 := 256
  maxRejectedEntriesPerRequirement : UInt32 := 16
  maxRejectionReasonsPerEntry : UInt32 := 8
  maxRankingFactors : UInt32 := 16
  maxPlacements : UInt32 := 8192
  maxActivePlacements : UInt32 := 1024
  maxReservations : UInt32 := 8192
  maxActiveReservations : UInt32 := 4096
  maxPlacementHistoryPerUnit : UInt32 := 32
  maxAuditRecords : UInt32 := 4096
  maxTopologyRecords : UInt32 := 4096
  maxTopologyDepth : UInt32 := 8
  maxStringLength : UInt32 := 256
  maxDigestLength : UInt32 := 128
  maxExplanationEntries : UInt32 := 4096
  maxFrameSize : UInt32 := 1048576
  maxWorkerConnections : UInt32 := 64
  maxInflightAssignments : UInt32 := 256
  maxPersistenceRecords : UInt32 := 65536
  maxPersistenceBytes : UInt64 := 67108864
  maxPlacementCommitAttempts : UInt32 := 4
  deriving DecidableEq

/-- The bounds without which the scheduler cannot tell a rejected resource from an eligible one, or
    has no place for a ranked candidate. -/
structure Limits.Working (limits : Limits) : Prop where
  reasons : 1 ≤ limits.maxRejectionReasonsPerEntry
  ranked : 1 ≤ limits.maxCandidatesRanked

end LabScheduler
