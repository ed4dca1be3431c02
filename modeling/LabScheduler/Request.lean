import LabScheduler.Resource

namespace LabScheduler

structure ResourceRequirement where
  name : Text := []
  resourceClass : ResourceClass := .worker
  requiredCapabilities : CapabilitySet := {}
  minSlots : UInt32 := 1
  minMemoryBytes : UInt64 := 0
  requireExclusive : Bool := false
  requireCurrentEvidence : Bool := true
  minimumHealth : HealthState := .healthy
  maxOccupancyPercent : UInt32 := 100
  accelerator : Option AcceleratorId := none
  model : Option ModelResourceId := none
  modelVersion : Text := []
  requireModelResident : Bool := false
  simulator : Option SimulatorId := none
  simulatorVersion : Text := []
  simulatorScenario : Text := []
  requireSimulatorReady : Bool := true
  dataset : Option DatasetId := none
  datasetVersion : Option DatasetVersionId := none
  environment : Option EnvironmentId := none
  environmentDigest : Text := []
  physicalEnvironment : Option PhysicalEnvironmentId := none
  virtualEnvironment : Option VirtualEnvironmentId := none
  requiredDomain : Option TopologyDomainId := none
  requiredDomainScope : TopologyScope := .host
  allowlist : List ResourceId := []
  denylist : List ResourceId := []
  affinityGroup : UInt32 := 0
  deriving DecidableEq

/-- `AffinityConstraint` and `AntiAffinityConstraint` carry the same three fields. -/
structure GroupConstraint where
  groupA : UInt32 := 0
  groupB : UInt32 := 0
  scope : TopologyScope := .host
  deriving DecidableEq

abbrev AffinityConstraint := GroupConstraint
abbrev AntiAffinityConstraint := GroupConstraint

inductive RankingFactor
  | locality
  | occupancy
  | residualCapacity
  | acceleratorFit
  | modelWarmth
  | datasetLocality
  | simulatorReadiness
  | topologyDistance
  | fragmentation
  | reuse
  | fairness
  | priority
  deriving DecidableEq

/-- The factors in the order of the enumeration, `kRankingFactorCount` of them. -/
def RankingFactor.all : List RankingFactor :=
  [.locality, .occupancy, .residualCapacity, .acceleratorFit, .modelWarmth, .datasetLocality,
    .simulatorReadiness, .topologyDistance, .fragmentation, .reuse, .fairness, .priority]

def rankingFactorName : RankingFactor → Text
  | .locality => ascii "locality"
  | .occupancy => ascii "occupancy"
  | .residualCapacity => ascii "residual_capacity"
  | .acceleratorFit => ascii "accelerator_fit"
  | .modelWarmth => ascii "model_warmth"
  | .datasetLocality => ascii "dataset_locality"
  | .simulatorReadiness => ascii "simulator_readiness"
  | .topologyDistance => ascii "topology_distance"
  | .fragmentation => ascii "fragmentation"
  | .reuse => ascii "reuse"
  | .fairness => ascii "fairness"
  | .priority => ascii "priority"

/-- `values[kRankingFactorCount]`, indexed by the factor. -/
abbrev RankingWeights := RankingFactor → Int32

def RankingWeights.default : RankingWeights
  | .locality => 100
  | .occupancy => 100
  | .residualCapacity => 60
  | .acceleratorFit => 80
  | .modelWarmth => 80
  | .datasetLocality => 90
  | .simulatorReadiness => 70
  | .topologyDistance => 50
  | .fragmentation => 40
  | .reuse => 30
  | .fairness => 20
  | .priority => 0

structure ScheduleRequest where
  id : ScheduleRequestId := {}
  experiment : ExperimentId := {}
  experimentGeneration : ExperimentGeneration := {}
  trial : TrialId := {}
  workload : Text := []
  tenant : Text := []
  priority : Int32 := 0
  requirements : List ResourceRequirement := []
  affinity : List AffinityConstraint := []
  antiAffinity : List AntiAffinityConstraint := []
  experimentAntiAffinity : Bool := false
  exclusive : Bool := false
  reproducibilityRequired : Bool := false
  allowPreemption : Bool := false
  maxReassignments : UInt32 := 3
  weights : RankingWeights := RankingWeights.default
  callerAuthority : Text := []
  requestProvenance : Text := []

inductive RequestState
  | submitted
  | placed
  | completed
  | failed
  | cancelled
  | noPlacement
  deriving DecidableEq

structure StoredRequest where
  request : ScheduleRequest := {}
  state : RequestState := .submitted
  submittedSequence : UInt64 := 0
  currentPlacement : PlacementId := {}
  placementCount : UInt32 := 0
  detail : Text := []

def StoredRequest.id (stored : StoredRequest) : ScheduleRequestId := stored.request.id

/-- The scan `check_sorted_unique` makes over its sorted copy. -/
def firstDuplicate : List ResourceId → Option ResourceId
  | a :: b :: rest => if b = a then some b else firstDuplicate (b :: rest)
  | _ => none

def checkSortedUnique (ids : List ResourceId) (field : Text) : Check :=
  match firstDuplicate (sortIds ids) with
  | none => .ok ()
  | some id => fail .duplicateIdentity (field ++ ascii " contains a duplicate identity: " ++ id.toText)

def validateOptional {kind : IdKind} (id : Option (StrongId kind)) : Check :=
  match id with
  | none => .ok ()
  | some id => id.validate

def validateRequirement (requirement : ResourceRequirement) (earlierNames : List Text)
    (limits : Limits) : Check := do
  checkText requirement.name (ascii "requirement name") limits.maxStringLength
  check (requirement.name ≠ []) .invalidArgument (ascii "every requirement must carry a name")
  check (requirement.name ∉ earlierNames) .duplicateIdentity
    (ascii "duplicate requirement name: " ++ requirement.name)
  requirement.requiredCapabilities.validate limits
  check (requirement.minSlots ≠ 0) .invalidArgument
    (ascii "requirement '" ++ requirement.name ++ ascii "' must request at least one slot")
  check (requirement.minSlots ≤ 0xffff) .invalidArgument (ascii "requirement slot count is implausible")
  check (¬ (requirement.maxOccupancyPercent = 0 ∨ 100 < requirement.maxOccupancyPercent)) .invalidArgument
    (ascii "max_occupancy_percent must be within [1, 100] for requirement '" ++ requirement.name ++ ascii "'")
  check (requirement.allowlist.length ≤ limits.maxAllowlistEntries.toNat ∧
      requirement.denylist.length ≤ limits.maxDenylistEntries.toNat) .limitExceeded
    (ascii "allowlist or denylist exceeds the configured maximum")
  checkSortedUnique requirement.allowlist (ascii "allowlist")
  checkSortedUnique requirement.denylist (ascii "denylist")
  forM requirement.allowlist StrongId.validate
  forM requirement.denylist StrongId.validate
  validateOptional requirement.model
  validateOptional requirement.simulator
  validateOptional requirement.dataset
  validateOptional requirement.datasetVersion
  validateOptional requirement.environment
  validateOptional requirement.accelerator
  validateOptional requirement.physicalEnvironment
  validateOptional requirement.virtualEnvironment
  checkText requirement.modelVersion (ascii "model version") limits.maxDigestLength
  checkText requirement.simulatorVersion (ascii "simulator version") limits.maxDigestLength
  checkText requirement.simulatorScenario (ascii "simulator scenario") limits.maxStringLength
  checkText requirement.environmentDigest (ascii "environment digest") limits.maxDigestLength
  validateOptional requirement.requiredDomain
  check (requirement.affinityGroup ≤ limits.maxAffinityGroups) .limitExceeded
    (ascii "affinity group index exceeds the configured maximum")

/-- The requirement loop; the names seen so far stand for `requirement_names`. -/
def validateRequirements : List Text → List ResourceRequirement → Limits → Check
  | _, [], _ => .ok ()
  | earlierNames, requirement :: rest, limits => do
    validateRequirement requirement earlierNames limits
    validateRequirements (requirement.name :: earlierNames) rest limits

def affinityGroups (requirements : List ResourceRequirement) : List UInt32 :=
  (requirements.map ResourceRequirement.affinityGroup).filter (fun group => 0 < group)

/-- The two constraint loops differ in the words of their messages only. -/
def validateConstraint (groups : List UInt32) (word : Text) (words : Text) (constraint : GroupConstraint) :
    Check := do
  check (¬ (constraint.groupA = 0 ∨ constraint.groupB = 0)) .invalidArgument
    (words ++ ascii " must reference non-zero groups")
  check (constraint.groupA ∈ groups ∧ constraint.groupB ∈ groups) .invalidArgument
    (word ++ ascii " references a group that no requirement declares")

def validateScheduleRequest (request : ScheduleRequest) (limits : Limits) : Check := do
  request.id.validate
  request.experiment.validate
  request.experimentGeneration.validate
  checkText request.workload (ascii "workload") limits.maxStringLength
  checkText request.tenant (ascii "tenant") limits.maxStringLength
  checkText request.callerAuthority (ascii "caller authority") limits.maxStringLength
  checkText request.requestProvenance (ascii "request provenance") limits.maxStringLength
  check (¬ (request.priority.toInt < -1000 ∨ 1000 < request.priority.toInt)) .invalidArgument
    (ascii "priority must be within [-1000, 1000]")
  check (request.requirements ≠ []) .invalidArgument
    (ascii "a scheduling request must declare at least one requirement")
  check (request.requirements.length ≤ limits.maxRequirementsPerRequest.toNat) .limitExceeded
    (ascii "requirement count exceeds the configured maximum")
  check (request.maxReassignments ≤ 16) .invalidArgument (ascii "max_reassignments must not exceed 16")
  forM RankingFactor.all fun factor =>
    check (¬ ((request.weights factor).toInt < -1000 ∨ 1000 < (request.weights factor).toInt))
      .invalidArgument (ascii "ranking weights must be within [-1000, 1000]")
  validateRequirements [] request.requirements limits
  check (request.affinity.length ≤ limits.maxAntiAffinityPairs.toNat ∧
      request.antiAffinity.length ≤ limits.maxAntiAffinityPairs.toNat) .limitExceeded
    (ascii "affinity constraint count exceeds the configured maximum")
  forM request.affinity (validateConstraint (affinityGroups request.requirements)
    (ascii "affinity constraint") (ascii "affinity constraints"))
  forM request.antiAffinity (validateConstraint (affinityGroups request.requirements)
    (ascii "anti-affinity constraint") (ascii "anti-affinity constraints"))
  check (¬ (request.exclusive ∧ ∃ requirement ∈ request.requirements, requirement.minSlots = 0))
    .invalidArgument (ascii "exclusive requests must claim at least one slot")

theorem validateRequirements_mem {names : List Text} {requirements : List ResourceRequirement} {limits : Limits}
    (valid : validateRequirements names requirements limits = .ok ()) {requirement : ResourceRequirement}
    (member : requirement ∈ requirements) : ∃ earlier, validateRequirement requirement earlier limits = .ok () := by
  induction requirements generalizing names with
  | nil => cases member
  | cons first rest ih =>
    simp only [validateRequirements, check_bind_ok] at valid
    obtain ⟨here, later⟩ := valid
    rcases List.mem_cons.mp member with same | there
    · exact ⟨names, same ▸ here⟩
    · exact ih later there

theorem validateRequirements_slots {names : List Text} {requirements : List ResourceRequirement} {limits : Limits}
    (valid : validateRequirements names requirements limits = .ok ()) {requirement : ResourceRequirement}
    (member : requirement ∈ requirements) : requirement.minSlots ≠ 0 := by
  obtain ⟨earlier, checked⟩ := validateRequirements_mem valid member
  simp only [validateRequirement, check_bind_ok, check_ok] at checked
  obtain ⟨-, -, -, -, slots, -⟩ := checked
  exact slots

theorem validateRequirements_domain {names : List Text} {requirements : List ResourceRequirement} {limits : Limits}
    (valid : validateRequirements names requirements limits = .ok ()) {requirement : ResourceRequirement}
    (member : requirement ∈ requirements) {domain : TopologyDomainId}
    (pinned : requirement.requiredDomain = some domain) : domain.isNull = false := by
  obtain ⟨earlier, checked⟩ := validateRequirements_mem valid member
  simp only [validateRequirement, check_bind_ok] at checked
  obtain ⟨-, -, -, -, -, -, -, -, -, -, -, -, -, -, -, -, -, -, -, -, -, -, -, -, known, -⟩ := checked
  rw [pinned] at known
  simpa [validateOptional, StrongId.isNull] using known

theorem validateScheduleRequest_experiment {request : ScheduleRequest} {limits : Limits}
    (valid : validateScheduleRequest request limits = .ok ()) :
    request.experiment.isNull = false ∧ request.experimentGeneration.isNull = false := by
  simp only [validateScheduleRequest, check_bind_ok, StrongId.validate_ok] at valid
  obtain ⟨-, experiment, generation, -⟩ := valid
  simp only [StrongId.isNull, beq_eq_false_iff_ne]
  exact ⟨experiment, generation⟩

theorem validateScheduleRequest_requirements {request : ScheduleRequest} {limits : Limits}
    (valid : validateScheduleRequest request limits = .ok ()) :
    request.requirements ≠ [] ∧ validateRequirements [] request.requirements limits = .ok () := by
  simp only [validateScheduleRequest, check_bind_ok, check_ok] at valid
  obtain ⟨-, -, -, -, -, -, -, -, some, -, -, -, each, -⟩ := valid
  exact ⟨some, each⟩

def normalizeScheduleRequest (request : ScheduleRequest) : ScheduleRequest :=
  { request with
    requirements := request.requirements.map fun requirement =>
      { requirement with
        allowlist := sortIds requirement.allowlist
        denylist := sortIds requirement.denylist } }

end LabScheduler
