import LabScheduler.Engine.Eligibility

namespace LabScheduler

open Foundation

/-- `std::map<RejectReason, uint32_t>`; a reason without an entry counts zero. -/
abbrev ReasonCounts := RejectReason → UInt32

def ReasonCounts.increment (counts : ReasonCounts) (reason : RejectReason) : ReasonCounts :=
  fun other => if other = reason then counts other + 1 else counts other

structure RequirementPlan where
  requirement : ResourceRequirement := {}
  candidates : List CandidateResource := []
  considered : UInt32 := 0
  rejected : List RejectedResourceEntry := []
  reasonCounts : ReasonCounts := fun _ => 0

def acceleratorFit (requirement : ResourceRequirement) (resource : ResourceRecord) : Int :=
  if resource.resourceClass = .gpu ∧ 0 < requirement.minMemoryBytes then
    let memory := resource.accelerators.foldl
      (fun memory attachment => if memory < attachment.memoryBytes then attachment.memoryBytes else memory) 0
    if requirement.minMemoryBytes ≤ memory ∧ 0 < memory then
      let excess := ((memory - requirement.minMemoryBytes) * 1000000) / memory
      clampUnit (kUnit - (excess.toNat : Int))
    else kUnit
  else kUnit

def modelWarmth (resource : ResourceRecord) : Int :=
  if resource.resourceClass = .model then
    if resource.model.any ModelDescriptor.resident then kUnit
    else if resource.readiness = .ready then kUnit.tdiv 2
    else 0
  else kUnit

def simulatorReadiness (resource : ResourceRecord) : Int :=
  if resource.resourceClass = .simulator then
    match resource.readiness with
    | .ready => kUnit
    | .notReady => 0
    | .unknown | .unsupported => kUnit.tdiv 4
  else kUnit

def computeAdditiveValues (state : SchedulerState) (request : ScheduleRequest)
    (requirement : ResourceRequirement) (resource : ResourceRecord) (eligibility : Eligibility) :
    RankingFactor → Int :=
  let totalAfter := resource.totalOccupancy + eligibility.slots
  let capacity : Int := resource.capacity.slots.toNat
  let residual :=
    if totalAfter < resource.capacity.slots then resource.capacity.slots - totalAfter else 0
  fun
    | .occupancy => clampUnit (kUnit - ((totalAfter.toNat : Int) * kUnit).tdiv capacity)
    | .residualCapacity => clampUnit (((residual.toNat : Int) * kUnit).tdiv capacity)
    | .acceleratorFit => acceleratorFit requirement resource
    | .modelWarmth => modelWarmth resource
    | .simulatorReadiness => simulatorReadiness resource
    | .fragmentation =>
      if eligibility.exclusive = false ∧ 0 < residual ∧ residual < eligibility.slots then 0 else kUnit
    | .reuse =>
      if reservedByOtherPlacement state request.experiment resource.id request.id then kUnit else 0
    | .locality | .datasetLocality | .topologyDistance | .fairness | .priority => kUnit

def domainsAreEqual (a b : ResourceRecord) (scope : TopologyScope) : Bool :=
  topologyDomainsEqual (a.topology.domain scope) (b.topology.domain scope)

def domainsAreDisjoint (a b : ResourceRecord) (scope : TopologyScope) : Bool :=
  let left := (a.topology.domain scope).id
  let right := (b.topology.domain scope).id
  if left.isNull || right.isNull then false else left != right

def interchangeabilityKey (candidate : CandidateResource) (resource : ResourceRecord) : Text :=
  let colon := ascii ":"
  (RankingFactor.all.flatMap fun factor => decimalI64 (candidate.additive factor) ++ colon) ++
    decimalU32 candidate.slots ++ colon ++
    (if candidate.exclusive then ascii "1" else ascii "0") ++ colon ++
    decimalU64 resource.topology.host.id.value ++ colon ++
    decimalU64 resource.topology.rack.id.value ++ colon ++
    decimalU64 resource.topology.cluster.id.value ++ colon ++
    decimalU64 resource.worker.value ++ colon ++
    decimalU64 resource.boot.value ++ colon ++
    decimalU64 resource.generation.value

def canonicalResourceKey (ids : List ResourceId) : Text := joinComma (sortTexts (ids.map StrongId.toText))

/-- `hosts.size() + unknown_hosts`, and the same for racks and clusters: each unknown domain counts
    as one of its own. -/
def domainCount (domains : List TopologyDomainId) : Int :=
  let known := domains.filter fun id => !id.isNull
  (known.dedup.length : Int) + ((domains.filter StrongId.isNull).length : Int)

/-- `dominant_host_share`: the largest number of selected resources on one host. -/
def dominantShare (hosts : List TopologyDomainId) : Nat :=
  hosts.foldl (fun share host => max share (if host.isNull then 1 else hosts.count host)) 0

def localityValue (records : List ResourceRecord) : Int :=
  if 1 < records.length then
    clampUnit ((((dominantShare (records.map fun record => record.topology.host.id) : Nat) : Int) - 1) *
      kUnit |>.tdiv ((records.length : Int) - 1))
  else kUnit

def topologyDistanceValue (records : List ResourceRecord) : Int :=
  clampUnit (kUnit -
    (domainCount (records.map fun record => record.topology.host.id) - 1) * 250000 -
    (domainCount (records.map fun record => record.topology.rack.id) - 1) * 125000 -
    (domainCount (records.map fun record => record.topology.cluster.id) - 1) * 62500)

/-- What one dataset requirement adds to `dataset_locality_total`. The dataset's own position needs
    no exclusion by index: its requirement is of class Dataset. -/
def datasetValue (pairs : List (ResourceRecord × ResourceRequirement)) (dataset : ResourceRecord) : Int :=
  if pairs.any fun pair => pair.2.resourceClass != .dataset && domainsAreEqual pair.1 dataset .host then kUnit
  else if dataset.locality.localDatasetVersions ≠ [] then kUnit.tdiv 2
  else kUnit.tdiv 4

def datasetLocalityValue (records : List ResourceRecord) (requirements : List ResourceRequirement) : Int :=
  let pairs := records.zip requirements
  let datasets := pairs.filter fun pair => pair.2.resourceClass == .dataset
  if datasets = [] then kUnit
  else (datasets.map fun pair => datasetValue pairs pair.1).sum.tdiv (datasets.length : Int)

def fairnessValue (state : SchedulerState) (tenant : Text) : Int :=
  if tenant = [] then kUnit
  else
    let served := ((state.tenantService.find? tenant).map Prod.snd).getD 0
    let maximum := state.tenantService.entries.foldl (fun maximum entry => max maximum entry.2) 1
    clampUnit (kUnit - ((served * 1000000 / maximum).toNat : Int))

def priorityValue (priority : Int32) : Int := clampUnit ((priority.toInt + 1000) * kUnit |>.tdiv 2000)

def crossValues (state : SchedulerState) (request : ScheduleRequest) (records : List ResourceRecord) :
    RankingFactor → Int
  | .locality => localityValue records
  | .topologyDistance => topologyDistanceValue records
  | .datasetLocality => datasetLocalityValue records request.requirements
  | .fairness => fairnessValue state request.tenant
  | .priority => priorityValue request.priority
  | _ => 0

def additiveTotal (selection : List CandidateResource) (factor : RankingFactor) : Int :=
  (selection.map fun candidate => candidate.additive factor).sum

def scoreCandidate (state : SchedulerState) (request : ScheduleRequest) (selection : List CandidateResource)
    (records : List ResourceRecord) : Int × List RankingFactorValue :=
  let n : Int := selection.length
  let cross := crossValues state request records
  let raw := (RankingFactor.all.map fun factor =>
    let weight := (request.weights factor).toInt
    match kFactorScope factor with
    | .additive => additiveTotal selection factor * weight
    | .cross => n * cross factor * weight).sum
  let factors := RankingFactor.all.map fun factor =>
    let value :=
      match kFactorScope factor with
      | .additive => if n = 0 then 0 else (additiveTotal selection factor).tdiv n
      | .cross => cross factor
    { name := rankingFactorName factor
      weight := request.weights factor
      value := value
      weighted := (value * (request.weights factor).toInt).tdiv 1000 : RankingFactorValue }
  (raw, factors)

def crossBound (request : ScheduleRequest) (n : Nat) : Int :=
  (RankingFactor.all.map fun factor =>
    match kFactorScope factor with
    | .additive => 0
    | .cross =>
      let weight := (request.weights factor).toInt
      if 0 < weight then (n : Int) * weight * kUnit else 0).sum

/-- The pair loops over positions of two affinity groups: `holds` for each pair of them. -/
def constraintHolds (pairs : List (ResourceRecord × ResourceRequirement)) (constraint : GroupConstraint)
    (holds : ResourceRecord → ResourceRecord → TopologyScope → Bool) : Bool :=
  pairs.all fun a => a.2.affinityGroup != constraint.groupA ||
    pairs.all fun b => b.2.affinityGroup != constraint.groupB || holds a.1 b.1 constraint.scope

/-- `none` is the answer `true`; a reason is `false` with that `failure`. -/
def validateSelection (state : SchedulerState) (request : ScheduleRequest) (records : List ResourceRecord)
    (selection : List CandidateResource) : Option RejectReason :=
  let pairs := records.zip request.requirements
  if ¬ (records.map fun record => record.id).Nodup then some .alreadySelected
  else if ¬ request.affinity.all fun constraint => constraintHolds pairs constraint domainsAreEqual then
    some .affinityViolation
  else if ¬ request.antiAffinity.all fun constraint => constraintHolds pairs constraint domainsAreDisjoint then
    some .antiAffinityViolation
  else if request.experimentAntiAffinity && records.any fun record =>
      reservedByOtherPlacement state request.experiment record.id request.id then
    some .antiAffinityViolation
  else if request.exclusive && selection.any fun candidate => !candidate.exclusive then
    some .exclusivityConflict
  else none

structure SearchOutcome where
  candidates : List RankingCandidate := []
  crossRejections : ReasonCounts := fun _ => 0
  evaluations : Nat := 0
  truncated : Bool := false
  /-- `best_raw`; `none` is its initial `INT64_MIN`, which no score is below. -/
  bestRaw : Option Int := none

/-- Replaces the worst kept candidate by a better one. An empty buffer comes here only under
    `max_candidates_ranked = 0`, where the source reads `*begin()` of an empty vector. -/
def replaceWorst (candidates : List RankingCandidate) (candidate : RankingCandidate) :
    List RankingCandidate :=
  match candidates with
  | [] => [candidate]
  | first :: _ =>
    let worst := candidates.zipIdx.foldl
      (fun worst entry => if candidateIsBetter worst.1 entry.1 then entry else worst) (first, 0)
    if candidateIsBetter candidate worst.1 then candidates.set worst.2 candidate else candidates

def keepCandidate (limits : Limits) (candidates : List RankingCandidate) (candidate : RankingCandidate) :
    List RankingCandidate :=
  if candidates.length < limits.maxCandidatesRanked.toNat then candidates ++ [candidate]
  else replaceWorst candidates candidate

def raiseBest (best : Option Int) (raw : Int) : Option Int :=
  match best with
  | none => some raw
  | some value => if value < raw then some raw else some value

section Search

variable (state : SchedulerState) (request : ScheduleRequest) (limits : Limits)

def rankingCandidate (current : List CandidateResource) (records : List ResourceRecord) : RankingCandidate :=
  let resources := sortIds (current.map CandidateResource.id)
  let scored := scoreCandidate state request current records
  { selection := current
    resources := resources
    raw := scored.1
    factors := scored.2
    tieBreak := canonicalResourceKey resources }

/-- `search_recursive` at a full selection. -/
def evaluateSelection (current : List CandidateResource) (outcome : SearchOutcome) : SearchOutcome :=
  let outcome := { outcome with evaluations := outcome.evaluations + 1 }
  match current.mapM fun candidate => state.resources.find? candidate.id with
  | none => outcome
  | some records =>
    match validateSelection state request records current with
    | some failure => { outcome with crossRejections := outcome.crossRejections.increment failure }
    | none =>
      let candidate := rankingCandidate state request current records
      { outcome with
        bestRaw := raiseBest outcome.bestRaw candidate.raw
        candidates := keepCandidate limits outcome.candidates candidate }

def frontPartial (plan : RequirementPlan) : Int := (plan.candidates.head?.map CandidateResource.partialScore).getD 0

/-- `remaining_max` at the first of `plans`. -/
def remainingMax (plans : List RequirementPlan) : Int := (plans.map frontPartial).sum

def prunes (score : Int) (best : Option Int) : Bool :=
  match best with
  | none => false
  | some value => decide (score < value)

/-- The candidate loop of one level: `visit` descends into a candidate, `ceiling` is the best score
    still reachable through it. -/
def searchLevel (visit : CandidateResource → SearchOutcome → SearchOutcome) (ceiling : CandidateResource → Int) :
    List CandidateResource → SearchOutcome → SearchOutcome
  | [], outcome => outcome
  | candidate :: rest, outcome =>
    if prunes (ceiling candidate) outcome.bestRaw then outcome
    else
      let outcome := visit candidate outcome
      if outcome.truncated then outcome else searchLevel visit ceiling rest outcome

def searchRecursive (bound : Int) : List RequirementPlan → Int → List CandidateResource → SearchOutcome →
    SearchOutcome
  | plans, partialScore, current, outcome =>
    if outcome.truncated then outcome
    else if limits.maxCandidatesEvaluated.toNat ≤ outcome.evaluations then { outcome with truncated := true }
    else
      match plans with
      | [] => evaluateSelection state request limits current outcome
      | plan :: rest =>
        searchLevel
          (fun candidate outcome =>
            searchRecursive bound rest (partialScore + candidate.partialScore) (current ++ [candidate]) outcome)
          (fun candidate => partialScore + candidate.partialScore + remainingMax rest + bound)
          plan.candidates outcome

end Search

end LabScheduler
