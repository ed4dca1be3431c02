import LabScheduler.Engine.State

namespace LabScheduler

open Foundation

/-- 1.0 in fixed point. Scores are `int64_t` in the source, where an overflow is undefined; here
    they are exact integers. -/
def kUnit : Int := 1000000

inductive FactorScope
  | additive
  | cross
  deriving DecidableEq

def kFactorScope : RankingFactor → FactorScope
  | .locality => .cross
  | .occupancy => .additive
  | .residualCapacity => .additive
  | .acceleratorFit => .additive
  | .modelWarmth => .additive
  | .datasetLocality => .cross
  | .simulatorReadiness => .additive
  | .topologyDistance => .cross
  | .fragmentation => .additive
  | .reuse => .additive
  | .fairness => .cross
  | .priority => .cross

def clampUnit (value : Int) : Int := if value < 0 then 0 else if kUnit < value then kUnit else value

def healthRank : HealthState → Nat
  | .healthy => 3
  | .degraded => 2
  | .unknown => 1
  | .unhealthy => 0

structure Eligibility where
  eligible : Bool := false
  slots : UInt32 := 1
  exclusive : Bool := false
  reasons : List RejectReason := []
  deriving DecidableEq

def reject (eligibility : Eligibility) (reason : RejectReason) (maximum : UInt32) : Eligibility :=
  if eligibility.reasons.length < maximum.toNat then
    { eligibility with reasons := eligibility.reasons ++ [reason] }
  else eligibility

def effectiveMemoryBytes (resource : ResourceRecord) : UInt64 :=
  resource.accelerators.foldl
    (fun memory attachment => if memory < attachment.memoryBytes then attachment.memoryBytes else memory)
    resource.capacity.memoryBytes

def reservedByOtherPlacement (state : SchedulerState) (experiment : ExperimentId) (resource : ResourceId)
    (excludeRequest : ScheduleRequestId) : Bool :=
  state.placements.entries.any fun placement =>
    placement.experiment == experiment && placement.request != excludeRequest &&
      placementStateIsLive placement.state &&
      match state.reservations.find? placement.reservation with
      | none => false
      | some reservation =>
        reservation.state == .active && reservation.claims.any fun claim => claim.resource == resource

def mismatches {kind : IdKind} (pinned : Option (StrongId kind)) (actual : StrongId kind) : Bool :=
  match pinned with
  | none => false
  | some id => actual != id

def modelReason (resource : ResourceRecord) (requirement : ResourceRequirement) : Option RejectReason :=
  match resource.model with
  | none => some .modelMismatch
  | some model =>
    if mismatches requirement.model model.id then some .modelMismatch
    else if requirement.modelVersion ≠ [] ∧ model.version ≠ requirement.modelVersion then
      some .modelVersionMismatch
    else if requirement.requireModelResident ∧ model.resident = false then some .modelNotResident
    else none

def gpuReason (resource : ResourceRecord) (requirement : ResourceRequirement) : Option RejectReason :=
  match requirement.accelerator with
  | none => none
  | some id =>
    if resource.accelerators.any fun attachment => attachment.id == id then none
    else some .acceleratorMismatch

def simulatorReason (resource : ResourceRecord) (requirement : ResourceRequirement) : Option RejectReason :=
  match resource.simulator with
  | none => some .simulatorMismatch
  | some simulator =>
    if mismatches requirement.simulator simulator.id then some .simulatorMismatch
    else if requirement.simulatorVersion ≠ [] ∧ simulator.version ≠ requirement.simulatorVersion then
      some .simulatorMismatch
    else if requirement.simulatorScenario ≠ [] ∧ requirement.simulatorScenario ∉ simulator.scenarios then
      some .unsupported
    else if requirement.requireSimulatorReady ∧ resource.readiness ≠ .ready then some .simulatorNotReady
    else none

def datasetReason (resource : ResourceRecord) (requirement : ResourceRequirement) : Option RejectReason :=
  match resource.dataset with
  | none => some .datasetMismatch
  | some dataset =>
    if mismatches requirement.dataset dataset.id then some .datasetMismatch
    else if mismatches requirement.datasetVersion dataset.version then some .datasetVersionMismatch
    else none

def physicalEnvironmentReason (resource : ResourceRecord) (requirement : ResourceRequirement) :
    Option RejectReason :=
  match resource.environment with
  | none => some .environmentMismatch
  | some environment =>
    if mismatches requirement.environment environment.id then some .environmentMismatch
    else if mismatches requirement.physicalEnvironment environment.physicalEnvironment then
      some .environmentMismatch
    else if requirement.requireCurrentEvidence ∧ resource.readiness ≠ .ready then some .environmentNotReady
    else none

def virtualEnvironmentReason (resource : ResourceRecord) (requirement : ResourceRequirement) :
    Option RejectReason :=
  match resource.environment with
  | none => some .environmentMismatch
  | some environment =>
    if mismatches requirement.environment environment.id then some .environmentMismatch
    else if mismatches requirement.virtualEnvironment environment.virtualEnvironment then
      some .environmentMismatch
    else if requirement.environmentDigest ≠ [] ∧ environment.imageDigest ≠ requirement.environmentDigest then
      some .environmentDigestMismatch
    else if requirement.requireCurrentEvidence ∧ resource.readiness ≠ .ready then some .environmentNotReady
    else none

def classSpecificReason (resource : ResourceRecord) (requirement : ResourceRequirement) :
    Option RejectReason :=
  match resource.resourceClass with
  | .model => modelReason resource requirement
  | .gpu => gpuReason resource requirement
  | .simulator => simulatorReason resource requirement
  | .dataset => datasetReason resource requirement
  | .physicalEnvironment => physicalEnvironmentReason resource requirement
  | .virtualEnvironment => virtualEnvironmentReason resource requirement
  | .worker => none

/-- Whether the claim on `resource` is exclusive. -/
def claimsExclusively (request : ScheduleRequest) (requirement : ResourceRequirement)
    (resource : ResourceRecord) : Bool :=
  requirement.requireExclusive || request.exclusive || resource.sharing == .exclusive

/-- The slots a claim on `resource` takes. -/
def claimedSlots (request : ScheduleRequest) (requirement : ResourceRequirement)
    (resource : ResourceRecord) : UInt32 :=
  if claimsExclusively request requirement resource then resource.capacity.slots else requirement.minSlots

/-- The `if`s of `evaluate_resource` after the class test, in their order: whether the resource
    fails, and the reason then recorded. -/
def hardTests (request : ScheduleRequest) (requirement : ResourceRequirement) (resource : ResourceRecord) :
    List (Bool × RejectReason) :=
  let specific := classSpecificReason resource requirement
  let slots := claimedSlots request requirement resource
  [(decide (requirement.allowlist ≠ [] ∧ resource.id ∉ requirement.allowlist), .allowlistExcluded),
    (decide (resource.id ∈ requirement.denylist), .denylistExcluded),
    (resource.lifecycle == .retired, .resourceRetired),
    (resource.lifecycle == .lost, .workerIncarnationStale),
    (requirement.requireCurrentEvidence && !resource.dynamicAuthoritative,
      if resource.lifecycle = .registered then .evidenceStale else .evidenceNotAuthoritative),
    (decide (request.tenant ≠ [] ∧ resource.tenant ≠ [] ∧ request.tenant ≠ resource.tenant), .tenantViolation),
    (!resource.capabilities.containsAll requirement.requiredCapabilities, .capabilityMismatch),
    (decide (healthRank resource.health < healthRank requirement.minimumHealth),
      if resource.health = .unknown then .healthUnknown else .healthRejected),
    (resource.readiness == .unsupported && requirement.requireCurrentEvidence, .unsupported),
    (mismatches requirement.requiredDomain (resource.topology.domain requirement.requiredDomainScope).id,
      .topologyMismatch),
    (specific.isSome, specific.getD .none),
    (claimsExclusively request requirement resource && resource.totalOccupancy != 0, .exclusivityConflict),
    (decide (availableSlots resource < slots), .capacityExhausted),
    (decide (effectiveMemoryBytes resource < requirement.minMemoryBytes), .memoryExhausted),
    (decide (resource.capacity.slots.toUInt64 * requirement.maxOccupancyPercent.toUInt64 <
        (resource.totalOccupancy.toUInt64 + slots.toUInt64) * 100), .occupancyExceeded)]

/-- One `if`: when it fires it records its reason. -/
def applyTest (maximum : UInt32) (eligibility : Eligibility) (test : Bool × RejectReason) : Eligibility :=
  if test.1 then reject eligibility test.2 maximum else eligibility

def runTests (tests : List (Bool × RejectReason)) (maximum : UInt32) (eligibility : Eligibility) : Eligibility :=
  tests.foldl (applyTest maximum) eligibility

def evaluateResource (request : ScheduleRequest) (requirement : ResourceRequirement)
    (resource : ResourceRecord) (limits : Limits) : Eligibility :=
  let maximum := limits.maxRejectionReasonsPerEntry
  if resource.resourceClass ≠ requirement.resourceClass then reject {} .resourceClassMismatch maximum
  else
    let result := runTests (hardTests request requirement resource) maximum {}
    if result.reasons ≠ [] then result
    else
      { result with
        eligible := true
        slots := claimedSlots request requirement resource
        exclusive := claimsExclusively request requirement resource }

@[simp] theorem reject_eligible (eligibility : Eligibility) (reason : RejectReason) (maximum : UInt32) :
    (reject eligibility reason maximum).eligible = eligibility.eligible := by
  unfold reject
  split <;> rfl

theorem runTests_eligible (tests : List (Bool × RejectReason)) (maximum : UInt32) (eligibility : Eligibility) :
    (runTests tests maximum eligibility).eligible = eligibility.eligible := by
  induction tests generalizing eligibility with
  | nil => rfl
  | cons test rest ih =>
    refine (ih _).trans ?_
    unfold applyTest
    split <;> simp

theorem reject_reasons {maximum : UInt32} (room : 1 ≤ maximum) (eligibility : Eligibility)
    (reason : RejectReason) : (reject eligibility reason maximum).reasons ≠ [] := by
  unfold reject
  split
  · simp
  · rename_i full
    intro none
    rw [none] at full
    have positive : 1 ≤ maximum.toNat := UInt32.le_iff_toNat_le.mp room
    exact full positive

theorem runTests_reasons {tests : List (Bool × RejectReason)} {maximum : UInt32} {eligibility : Eligibility}
    (room : 1 ≤ maximum) (none : (runTests tests maximum eligibility).reasons = []) :
    eligibility.reasons = [] ∧ ∀ test ∈ tests, test.1 = false := by
  induction tests generalizing eligibility with
  | nil => exact ⟨none, nofun⟩
  | cons test rest ih =>
    obtain ⟨first, others⟩ := ih none
    unfold applyTest at first
    split at first
    · exact absurd first (reject_reasons room _ _)
    · rename_i passed
      refine ⟨first, fun other member => ?_⟩
      rcases List.mem_cons.mp member with rfl | later
      · simpa using passed
      · exact others other later

/-- An eligible resource passes the class test and every test after it. With no reason kept at all a
    failed test leaves no trace, so one must be. -/
theorem evaluateResource_eligible {request : ScheduleRequest} {requirement : ResourceRequirement}
    {resource : ResourceRecord} {limits : Limits} (room : 1 ≤ limits.maxRejectionReasonsPerEntry)
    (eligible : (evaluateResource request requirement resource limits).eligible) :
    resource.resourceClass = requirement.resourceClass ∧
      ∀ test ∈ hardTests request requirement resource, test.1 = false := by
  unfold evaluateResource at eligible
  extract_lets maximum result at eligible
  split at eligible
  · simp at eligible
  · rename_i sameClass
    split at eligible
    · have kept : result.eligible = false := runTests_eligible ..
      simp [kept] at eligible
    · rename_i none
      have passed := (runTests_reasons room (not_not.mp none)).2
      exact ⟨not_not.mp sameClass, passed⟩

theorem evaluateResource_claims {request : ScheduleRequest} {requirement : ResourceRequirement}
    {resource : ResourceRecord} {limits : Limits}
    (eligible : (evaluateResource request requirement resource limits).eligible) :
    (evaluateResource request requirement resource limits).slots = claimedSlots request requirement resource ∧
      (evaluateResource request requirement resource limits).exclusive =
        claimsExclusively request requirement resource := by
  unfold evaluateResource at eligible ⊢
  extract_lets maximum result at eligible
  split at eligible
  · simp at eligible
  · rename_i sameClass
    split at eligible
    · have kept : result.eligible = false := runTests_eligible ..
      simp [kept] at eligible
    · rename_i none
      simp only [if_neg sameClass]
      rw [if_neg none]
      exact ⟨rfl, rfl⟩

end LabScheduler
