import LabScheduler.Engine.Ranking

namespace LabScheduler

open Foundation

structure Decision where
  id : DecisionId := {}
  outcome : DecisionOutcome := .noPlacement
  failure : ErrorCode := .ok
  failureDetail : Text := []
  placement : PlacementRecord := {}
  authority : AuthorityEnvelope := {}
  explanation : Explanation := {}
  deriving DecidableEq

def mapRejectReason : RejectReason → ErrorCode
  | .none | .resourceClassMismatch | .allowlistExcluded | .denylistExcluded | .alreadySelected
  | .antiAffinityViolation => .noPlacement
  | .capabilityMismatch => .capabilityMismatch
  | .capacityExhausted | .memoryExhausted | .occupancyExceeded => .capacityExhausted
  | .healthRejected | .healthUnknown => .healthRejected
  | .evidenceStale | .evidenceNotAuthoritative | .resourceRetired | .workerIncarnationStale => .staleResource
  | .topologyMismatch | .affinityViolation => .topologyMismatch
  | .modelMismatch | .modelVersionMismatch | .modelNotResident => .modelMismatch
  | .simulatorMismatch | .acceleratorMismatch | .unsupported => .unsupported
  | .simulatorNotReady | .environmentMismatch | .environmentDigestMismatch | .environmentNotReady =>
    .environmentUnavailable
  | .datasetMismatch | .datasetVersionMismatch => .datasetMismatch
  | .exclusivityConflict => .exclusivityConflict
  | .reservationConflict => .reservationConflict
  | .tenantViolation => .tenantViolation
  | .shuttingDown => .shuttingDown

def reasonPriority : RejectReason → Nat
  | .workerIncarnationStale => 0
  | .evidenceNotAuthoritative => 1
  | .evidenceStale => 2
  | .resourceRetired => 3
  | .exclusivityConflict => 4
  | .reservationConflict => 5
  | .capacityExhausted => 6
  | .memoryExhausted => 7
  | .occupancyExceeded => 8
  | .healthRejected => 9
  | .healthUnknown => 10
  | .environmentNotReady => 12
  | .simulatorNotReady => 13
  | .topologyMismatch => 14
  | .affinityViolation => 15
  | .antiAffinityViolation => 16
  | .tenantViolation => 17
  | .modelMismatch | .modelVersionMismatch | .modelNotResident => 18
  | .simulatorMismatch => 19
  | .datasetMismatch | .datasetVersionMismatch => 20
  | .environmentMismatch | .environmentDigestMismatch => 21
  | .acceleratorMismatch => 22
  | .capabilityMismatch => 23
  | .resourceClassMismatch | .allowlistExcluded | .denylistExcluded | .alreadySelected | .unsupported
  | .shuttingDown | .none => 24

/-- The last clause of `better`, `entry.first < best` at equal priority, never holds: the entries
    come in ascending order. -/
def dominantReason (counts : ReasonCounts) : RejectReason :=
  (RejectReason.all.foldl
    (fun (best : RejectReason × UInt32) reason =>
      if best.2 < counts reason ∨
          (counts reason = best.2 ∧ best.1 ≠ .none ∧ reasonPriority reason < reasonPriority best.1) then
        (reason, counts reason)
      else best)
    (RejectReason.none, 0)).1

def countLivePlacements (state : SchedulerState) : Nat :=
  state.placements.entries.countP fun placement => placementStateIsLive placement.state

def countActiveReservations (state : SchedulerState) : Nat :=
  state.reservations.entries.countP fun reservation => reservation.state == .active

section Filtering

variable (state : SchedulerState) (request : ScheduleRequest) (limits : Limits)
  (requirement : ResourceRequirement)

def partialScore (request : ScheduleRequest) (additive : RankingFactor → Int) : Int :=
  (RankingFactor.all.map fun factor =>
    match kFactorScope factor with
    | .additive => additive factor * (request.weights factor).toInt
    | .cross => 0).sum

def candidateResource (resource : ResourceRecord) : CandidateResource :=
  let eligibility := evaluateResource request requirement resource limits
  let additive := computeAdditiveValues state request requirement resource eligibility
  { id := resource.id
    generation := resource.generation
    resourceClass := resource.resourceClass
    name := resource.name
    slots := eligibility.slots
    exclusive := eligibility.exclusive
    partialScore := partialScore request additive
    additive := additive }

def relevantResources : List ResourceRecord :=
  state.resources.entries.filter fun resource => resource.resourceClass == requirement.resourceClass

def eligibleResources : List ResourceRecord :=
  (relevantResources state requirement).filter fun resource =>
    (evaluateResource request requirement resource limits).eligible

def rejectedResources : List ResourceRecord :=
  (relevantResources state requirement).filter fun resource =>
    !(evaluateResource request requirement resource limits).eligible

/-- The order of the candidate sort: descending partial score, then ascending identity. -/
def candidatePrecedes (a b : CandidateResource) : Prop :=
  b.partialScore < a.partialScore ∨ (a.partialScore = b.partialScore ∧ a.id ≤ b.id)

instance : DecidableRel candidatePrecedes := fun a b => by unfold candidatePrecedes; infer_instance

/-- The loop over `seen`: only the first candidate of each interchangeability key stays. -/
def collapse (resources : ResourceTable) : List Text → List CandidateResource → List CandidateResource
  | _, [] => []
  | seen, candidate :: rest =>
    match resources.find? candidate.id with
    | none => collapse resources seen rest
    | some resource =>
      let key := interchangeabilityKey candidate resource
      if key ∈ seen then collapse resources seen rest
      else candidate :: collapse resources (key :: seen) rest

/-- The eligible candidates of a requirement in the order the sort leaves them. -/
def rankedCandidates : List CandidateResource :=
  ((eligibleResources state request limits requirement).map
    (candidateResource state request limits requirement)).insertionSort candidatePrecedes

def distinctCandidates : List CandidateResource :=
  collapse state.resources [] (rankedCandidates state request limits requirement)

def exceedsCandidateBound : Bool :=
  decide (limits.maxCandidateResourcesPerRequirement.toNat <
    (distinctCandidates state request limits requirement).length)

def countReasons (eligibilities : List Eligibility) : ReasonCounts :=
  eligibilities.foldl (fun counts eligibility => eligibility.reasons.foldl ReasonCounts.increment counts)
    fun _ => 0

def buildPlan : RequirementPlan :=
  let rejected := rejectedResources state request limits requirement
  { requirement := requirement
    candidates := (distinctCandidates state request limits requirement).take
      limits.maxCandidateResourcesPerRequirement.toNat
    considered := UInt32.ofNat (relevantResources state requirement).length
    rejected := (rejected.take limits.maxRejectedEntriesPerRequirement.toNat).map fun resource =>
      { resource := resource.id
        name := resource.name
        reasons := (evaluateResource request requirement resource limits).reasons }
    reasonCounts := countReasons (rejected.map fun resource =>
      evaluateResource request requirement resource limits) }

def buildPlans : List RequirementPlan := request.requirements.map (buildPlan state request limits)

def truncationNotes : List Text :=
  (request.requirements.filter (exceedsCandidateBound state request limits)).map fun requirement =>
    ascii "eligible set for requirement '" ++ requirement.name ++
      ascii "' was truncated to the configured candidate bound"

end Filtering

def fillRequirementExplanations (plans : List RequirementPlan) : List RequirementExplanation :=
  plans.map fun plan =>
    { requirementName := plan.requirement.name
      resourceClass := plan.requirement.resourceClass
      considered := plan.considered
      eligible := UInt32.ofNat plan.candidates.length
      rejected := plan.rejected }

def makeNoPlacementDecision (decision : Decision) (explanation : Explanation) (code : ErrorCode)
    (detail : Text) : Decision :=
  { decision with
    outcome := .noPlacement
    failure := code
    failureDetail := detail
    explanation :=
      { explanation with outcome := .noPlacement, failure := code, failureDetail := detail } }

/-- The `failure` and the `failure_detail` of a requirement without candidates. -/
def blockedFailure (blocked : RequirementPlan) : ErrorCode × Text :=
  let reason := dominantReason blocked.reasonCounts
  (mapRejectReason reason,
    ascii "requirement '" ++ blocked.requirement.name ++ ascii "' has no eligible resource: " ++
      rejectReasonName reason ++
      if blocked.considered = 0 then
        ascii " (no resource of class " ++ resourceClassName blocked.requirement.resourceClass ++
          ascii " is registered)"
      else [])

def crossFailure (outcome : SearchOutcome) : ErrorCode × Text :=
  let reason := dominantReason outcome.crossRejections
  (mapRejectReason reason,
    ascii "no combination of eligible resources satisfies the compound placement constraints" ++
      if reason ≠ .none then ascii ": " ++ rejectReasonName reason else [])

def searchNotes (outcome : SearchOutcome) : List Text :=
  (if outcome.truncated then [ascii "candidate exploration stopped at the configured evaluation bound"]
    else []) ++
    (RejectReason.all.filter fun reason => outcome.crossRejections reason != 0).map fun reason =>
      ascii "cross-constraint rejections: " ++ rejectReasonName reason ++ ascii "=" ++
        decimalU32 (outcome.crossRejections reason)

def searchPlacements (state : SchedulerState) (request : ScheduleRequest) (limits : Limits)
    (plans : List RequirementPlan) : SearchOutcome :=
  searchRecursive state request limits (crossBound request plans.length) plans 0 [] {}

/-- What one call hands back, beside the state and the generator it leaves. -/
structure Scheduled where
  state : SchedulerState
  ids : IdGenerator
  result : Except Status Decision

def storeNoPlacement (state : SchedulerState) (stored : StoredRequest) (decision : Decision) : SchedulerState :=
  { state with
    decisions := state.decisions.emplace decision.explanation
    requests := state.requests.set
      { stored with state := .noPlacement, currentPlacement := {}, detail := decision.failureDetail } }

def checkCommitBounds (state : SchedulerState) (limits : Limits) : Check := do
  check (state.placements.size < limits.maxPlacements.toNat) .resourceExhausted
    (ascii "placement log has reached its configured bound")
  check (state.reservations.size < limits.maxReservations.toNat) .resourceExhausted
    (ascii "reservation ledger has reached its configured bound")
  check (countLivePlacements state < limits.maxActivePlacements.toNat) .resourceExhausted
    (ascii "active placement bound reached")
  check (countActiveReservations state < limits.maxActiveReservations.toNat) .resourceExhausted
    (ascii "active reservation bound reached")

def selectedResource (candidate : CandidateResource) (requirement : ResourceRequirement)
    (resource : ResourceRecord) : SelectedResource :=
  { resource := resource.id
    resourceClass := resource.resourceClass
    generation := resource.generation
    slots := candidate.slots
    exclusive := candidate.exclusive
    requirementName := requirement.name
    worker := resource.worker
    workerBoot := resource.boot
    resourceName := resource.name }

def reservationClaim (candidate : CandidateResource) (resource : ResourceRecord) : ReservationClaim :=
  { resource := resource.id
    slots := candidate.slots
    exclusive := candidate.exclusive
    generationAtAcquire := resource.generation }

/-- The commit loop. A turn that fails leaves the resources as the turns before it made them. -/
def commitLoop : ResourceTable → List (CandidateResource × ResourceRequirement) →
    ResourceTable × Except Status (List SelectedResource × List ReservationClaim)
  | resources, [] => (resources, .ok ([], []))
  | resources, (candidate, requirement) :: rest =>
    match resources.find? candidate.id with
    | none => (resources, fail .internalError (ascii "selected resource disappeared before commit"))
    | some resource =>
      if resource.capacity.slots - candidate.slots < resource.reservedSlots then
        (resources,
          fail .capacityExhausted (ascii "reservation would exceed capacity on " ++ resource.id.toText))
      else
        let turn := commitLoop
          (resources.set { resource with reservedSlots := resource.reservedSlots + candidate.slots }) rest
        (turn.1, turn.2.map fun taken =>
          (selectedResource candidate requirement resource :: taken.1,
            reservationClaim candidate resource :: taken.2))

/-- The first selected resource that has a worker, a dataset's only when no other has one. -/
def placementWorker (selected : List SelectedResource) : WorkerId × WorkerBootId :=
  let owned := selected.filter fun resource => !resource.worker.isNull
  match owned.find? (fun resource => resource.resourceClass != .dataset) <|> owned.head? with
  | some resource => (resource.worker, resource.workerBoot)
  | none => ({}, {})

/-- The four identities a commit draws, counted from the generator at the start of the call. -/
structure CommitIds where
  decision : DecisionId
  placement : PlacementId
  reservation : ReservationId
  lease : LeaseId

def IdGenerator.commitIds (ids : IdGenerator) : CommitIds × IdGenerator :=
  let (decision, ids) := ids.next .decision
  let (placement, ids) := ids.next .placement
  let (reservation, ids) := ids.next .reservation
  let (lease, ids) := ids.next .lease
  (⟨decision, placement, reservation, lease⟩, ids)

/-- The placement as committed, its sequence number the next one of `state`. -/
def newPlacement (state : SchedulerState) (request : ScheduleRequest) (drawn : CommitIds)
    (forcedGeneration : PlacementGeneration) (reassignmentCount : UInt32)
    (selected : List SelectedResource) : PlacementRecord :=
  { id := drawn.placement
    generation := if forcedGeneration.isNull then ⟨1⟩ else forcedGeneration
    request := request.id
    decision := drawn.decision
    experiment := request.experiment
    experimentGeneration := request.experimentGeneration
    trial := request.trial
    epoch := state.epoch
    resources := selected
    reservation := drawn.reservation
    lease := drawn.lease
    worker := (placementWorker selected).1
    workerBoot := (placementWorker selected).2
    state := .reserved
    reassignmentCount := reassignmentCount
    detail := ascii "reserved and awaiting assignment"
    transitionSequence := state.transitionSequence + 1 }

def newReservation (state : SchedulerState) (placement : PlacementRecord) (claims : List ReservationClaim) :
    ReservationRecord :=
  { id := placement.reservation
    lease := placement.lease
    placement := placement.id
    placementGeneration := placement.generation
    request := placement.request
    experiment := placement.experiment
    experimentGeneration := placement.experimentGeneration
    epoch := state.epoch
    claims := claims
    state := .active
    acquireSequence := state.reservationSequence + 1
    detail := ascii "committed with placement " ++ placement.id.toText }

def authorityEnvelope (placement : PlacementRecord) : AuthorityEnvelope :=
  { request := placement.request
    experiment := placement.experiment
    experimentGeneration := placement.experimentGeneration
    placement := placement.id
    placementGeneration := placement.generation
    epoch := placement.epoch
    lease := placement.lease
    reservation := placement.reservation
    worker := placement.worker
    workerBoot := placement.workerBoot
    resources := placement.resources }

def candidateExplanations (ranked : List RankingCandidate) (requirementCount : Nat) (limits : Limits) :
    List CandidateExplanation :=
  let divisor : Int := 1000 * (if requirementCount = 0 then 1 else requirementCount)
  (ranked.zipIdx.take (max 1 limits.maxExplanationEntries.toNat)).map fun entry =>
    { resources := entry.1.resources
      score := entry.1.raw.tdiv divisor
      factors := if entry.2 = 0 then entry.1.factors else []
      selected := entry.2 = 0
      tieBreak := entry.1.tieBreak }

def serveTenant (state : SchedulerState) (tenant : Text) : SchedulerState :=
  if tenant = [] then state
  else
    let served := ((state.tenantService.find? tenant).map Prod.snd).getD 0
    { state with tenantService := state.tenantService.set (tenant, served + 1) }

/-- The tables after a commit, once the loop has booked the resources. -/
def installPlacement (state : SchedulerState) (stored : StoredRequest) (placement : PlacementRecord)
    (reservation : ReservationRecord) : SchedulerState :=
  serveTenant
    { state with
      reservations := state.reservations.emplace reservation
      placements := state.placements.emplace placement
      unitCurrent := state.unitCurrent.set (stored.request.unit, placement.id)
      requests := state.requests.set
        { stored with
          state := .placed
          currentPlacement := placement.id
          placementCount := stored.placementCount + 1
          detail := ascii "placed" }
      placementSequence := state.placementSequence + 1 }
    stored.request.tenant

/-- The state between the checks of the commit and its loop: both sequence numbers are drawn. -/
def beginCommit (state : SchedulerState) : SchedulerState :=
  { state with
    transitionSequence := state.transitionSequence + 1
    reservationSequence := state.reservationSequence + 1 }

def commitPlacement (state : SchedulerState) (config : EngineConfig) (ids : IdGenerator)
    (stored : StoredRequest) (forcedGeneration : PlacementGeneration) (reassignmentCount : UInt32)
    (explanation : Explanation) (ranked : List RankingCandidate) (best : RankingCandidate) : Scheduled :=
  let request := stored.request
  let (drawn, ids) := ids.commitIds
  let (resources, taken) := commitLoop state.resources (best.selection.zip request.requirements)
  match taken with
  | .error status => ⟨{ beginCommit state with resources := resources }, ids, .error status⟩
  | .ok (selected, claims) =>
    let placement := newPlacement state request drawn forcedGeneration reassignmentCount selected
    let reservation := newReservation state placement claims
    let explanation :=
      { explanation with
        outcome := .placed
        failure := .ok
        failureDetail := []
        selected := selected
        candidates := candidateExplanations ranked request.requirements.length config.limits }
    let decision : Decision :=
      { id := drawn.decision
        outcome := .placed
        placement := placement
        authority := authorityEnvelope placement
        explanation := explanation }
    let state := installPlacement { beginCommit state with resources := resources } stored placement reservation
    let state := { state with decisions := state.decisions.emplace explanation }
    ⟨pushAudit state config (ascii "placement.committed") (placementSummary placement), ids, .ok decision⟩

def openExplanation (request : ScheduleRequest) (decision : DecisionId) : Explanation :=
  { decision := decision
    request := request.id
    experiment := request.experiment
    experimentGeneration := request.experimentGeneration }

def shutdownNotes (state : SchedulerState) : List Text :=
  if state.shuttingDown then [ascii "coordinator is shutting down"] else []

def scheduleLocked (state : SchedulerState) (config : EngineConfig) (ids : IdGenerator)
    (stored : StoredRequest) (forcedGeneration : PlacementGeneration) (reassignmentCount : UInt32) :
    Scheduled :=
  let request := stored.request
  let limits := config.limits
  let (decisionId, drawn) := ids.next .decision
  let decision : Decision := { id := decisionId }
  let plans := buildPlans state request limits
  let explanation :=
    { openExplanation request decisionId with
      requirements := fillRequirementExplanations plans
      notes := shutdownNotes state ++ truncationNotes state request limits }
  match plans.find? fun plan => plan.candidates.isEmpty with
  | some blocked =>
    let decision := makeNoPlacementDecision decision explanation (blockedFailure blocked).1
      (blockedFailure blocked).2
    ⟨storeNoPlacement state stored decision, drawn, .ok decision⟩
  | none =>
    let outcome := searchPlacements state request limits plans
    let explanation := { explanation with notes := sortTexts (explanation.notes ++ searchNotes outcome) }
    match config.candidateSort.sort outcome.candidates with
    | [] =>
      let decision := makeNoPlacementDecision decision explanation (crossFailure outcome).1
        (crossFailure outcome).2
      ⟨storeNoPlacement state stored decision, drawn, .ok decision⟩
    | best :: others =>
      match checkCommitBounds state limits with
      | .error status => ⟨state, drawn, .error status⟩
      | .ok () =>
        commitPlacement state config ids stored forcedGeneration reassignmentCount explanation (best :: others)
          best

end LabScheduler
