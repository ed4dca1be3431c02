import LabScheduler.Engine.Capacity

namespace LabScheduler

open Foundation

def Pinned {kind : IdKind} (wanted : Option (StrongId kind)) (actual : StrongId kind) : Prop :=
  ∀ id, wanted = some id → actual = id

def PinnedText (wanted actual : Text) : Prop := wanted ≠ [] → actual = wanted

/-- What a requirement asks of a resource of its own class. -/
def MeetsClass (requirement : ResourceRequirement) (resource : ResourceRecord) : Prop :=
  match resource.resourceClass with
  | .model => ∃ model, resource.model = some model ∧ Pinned requirement.model model.id ∧
      PinnedText requirement.modelVersion model.version ∧ (requirement.requireModelResident → model.resident)
  | .gpu => ∀ id, requirement.accelerator = some id → ∃ attachment ∈ resource.accelerators, attachment.id = id
  | .simulator => ∃ simulator, resource.simulator = some simulator ∧ Pinned requirement.simulator simulator.id ∧
      PinnedText requirement.simulatorVersion simulator.version ∧
      (requirement.simulatorScenario ≠ [] → requirement.simulatorScenario ∈ simulator.scenarios) ∧
      (requirement.requireSimulatorReady → resource.readiness = .ready)
  | .dataset => ∃ dataset, resource.dataset = some dataset ∧ Pinned requirement.dataset dataset.id ∧
      Pinned requirement.datasetVersion dataset.version
  | .physicalEnvironment => ∃ environment, resource.environment = some environment ∧
      Pinned requirement.environment environment.id ∧
      Pinned requirement.physicalEnvironment environment.physicalEnvironment ∧
      (requirement.requireCurrentEvidence → resource.readiness = .ready)
  | .virtualEnvironment => ∃ environment, resource.environment = some environment ∧
      Pinned requirement.environment environment.id ∧
      Pinned requirement.virtualEnvironment environment.virtualEnvironment ∧
      PinnedText requirement.environmentDigest environment.imageDigest ∧
      (requirement.requireCurrentEvidence → resource.readiness = .ready)
  | .worker => True

/-- The slots a resource has in use. -/
def ResourceRecord.inUse (resource : ResourceRecord) : Nat :=
  resource.advertisedOccupancy.toNat + resource.reservedSlots.toNat

/-- The hard constraints of one requirement on the resource selected for it. -/
structure MeetsRequirement (request : ScheduleRequest) (requirement : ResourceRequirement)
    (resource : ResourceRecord) (selected : SelectedResource) : Prop where
  resourceClass : resource.resourceClass = requirement.resourceClass
  allowed : requirement.allowlist ≠ [] → resource.id ∈ requirement.allowlist
  denied : resource.id ∉ requirement.denylist
  lifecycle : resource.lifecycle ≠ .retired ∧ resource.lifecycle ≠ .lost
  evidence : requirement.requireCurrentEvidence →
    resource.dynamicAuthoritative ∧ resource.readiness ≠ .unsupported
  tenant : request.tenant ≠ [] → resource.tenant ≠ [] → request.tenant = resource.tenant
  capabilities : ∀ required ∈ requirement.requiredCapabilities.entries,
    ∃ capability ∈ resource.capabilities.entries, capability.id = required.id
  health : healthRank requirement.minimumHealth ≤ healthRank resource.health
  domain : Pinned requirement.requiredDomain (resource.topology.domain requirement.requiredDomainScope).id
  specific : MeetsClass requirement resource
  exclusive : selected.exclusive ↔
    requirement.requireExclusive ∨ request.exclusive ∨ resource.sharing = .exclusive
  slots : selected.slots = if selected.exclusive then resource.capacity.slots else requirement.minSlots
  whole : selected.exclusive → resource.inUse = 0
  free : resource.inUse + selected.slots.toNat ≤ resource.capacity.slots.toNat
  memory : requirement.minMemoryBytes ≤ resource.capacity.memoryBytes ∨
    ∃ attachment ∈ resource.accelerators, requirement.minMemoryBytes ≤ attachment.memoryBytes
  occupancy : (resource.inUse + selected.slots.toNat) * 100 ≤
    resource.capacity.slots.toNat * requirement.maxOccupancyPercent.toNat

/-- Two resources share a known domain. -/
def Colocated (a b : ResourceRecord) (scope : TopologyScope) : Prop :=
  (a.topology.domain scope).id.isNull = false ∧ (a.topology.domain scope).id = (b.topology.domain scope).id

/-- Two resources lie in different known domains. -/
def Separated (a b : ResourceRecord) (scope : TopologyScope) : Prop :=
  (a.topology.domain scope).id.isNull = false ∧ (b.topology.domain scope).id.isNull = false ∧
    (a.topology.domain scope).id ≠ (b.topology.domain scope).id

/-- `holds` between any two resources chosen for the two groups of the constraint. -/
def BetweenGroups (chosen : List (ResourceRecord × ResourceRequirement)) (constraint : GroupConstraint)
    (holds : ResourceRecord → ResourceRecord → TopologyScope → Prop) : Prop :=
  ∀ a ∈ chosen, ∀ b ∈ chosen, a.2.affinityGroup = constraint.groupA →
    b.2.affinityGroup = constraint.groupB → holds a.1 b.1 constraint.scope

structure MeetsSelection (state : SchedulerState) (request : ScheduleRequest) (records : List ResourceRecord)
    (selected : List SelectedResource) : Prop where
  distinct : (selected.map SelectedResource.resource).Nodup
  affinity : ∀ constraint ∈ request.affinity,
    BetweenGroups (records.zip request.requirements) constraint Colocated
  antiAffinity : ∀ constraint ∈ request.antiAffinity,
    BetweenGroups (records.zip request.requirements) constraint Separated
  experiment : request.experimentAntiAffinity → ∀ record ∈ records, ∀ placement ∈ state.placements.entries,
    placement.experiment = request.experiment → placement.request ≠ request.id →
    placementStateIsLive placement.state →
    ∀ reservation, state.reservations.find? placement.reservation = some reservation →
      reservation.state = .active → ∀ claim ∈ reservation.claims, claim.resource ≠ record.id
  exclusive : request.exclusive → ∀ resource ∈ selected, resource.exclusive

/-- A selection that satisfies every hard constraint of the request in `state`. -/
structure MeetsConstraints (state : SchedulerState) (request : ScheduleRequest)
    (records : List ResourceRecord) (selected : List SelectedResource) : Prop where
  found : List.Forall₂ (fun selected record => state.resources.find? selected.resource = some record)
    selected records
  each : List.Forall₂ (fun requirement chosen => MeetsRequirement request requirement chosen.1 chosen.2)
    request.requirements (records.zip selected)
  together : MeetsSelection state request records selected

theorem mismatches_eq_false {kind : IdKind} {wanted : Option (StrongId kind)} {actual : StrongId kind} :
    mismatches wanted actual = false ↔ Pinned wanted actual := by
  unfold mismatches Pinned
  cases wanted with
  | none => simp
  | some id => simp

theorem pinnedText_of_not {wanted actual : Text} (passed : ¬ (wanted ≠ [] ∧ actual ≠ wanted)) :
    PinnedText wanted actual := by
  intro named
  by_contra differs
  exact passed ⟨named, differs⟩

theorem modelReason_none {requirement : ResourceRequirement} {resource : ResourceRecord}
    (passed : modelReason resource requirement = none) :
    ∃ model, resource.model = some model ∧ Pinned requirement.model model.id ∧
      PinnedText requirement.modelVersion model.version ∧ (requirement.requireModelResident → model.resident) := by
  unfold modelReason at passed
  cases carried : resource.model with
  | none => simp [carried] at passed
  | some model =>
    simp only [carried] at passed
    split at passed <;> rename_i identity
    · cases passed
    · split at passed <;> rename_i version
      · cases passed
      · split at passed <;> rename_i resident
        · cases passed
        · refine ⟨model, rfl, mismatches_eq_false.mp (by simpa using identity), pinnedText_of_not version, ?_⟩
          intro required
          simpa [required] using resident

theorem gpuReason_none {requirement : ResourceRequirement} {resource : ResourceRecord}
    (passed : gpuReason resource requirement = none) :
    ∀ id, requirement.accelerator = some id → ∃ attachment ∈ resource.accelerators, attachment.id = id := by
  intro id wanted
  unfold gpuReason at passed
  simp only [wanted] at passed
  split at passed
  · rename_i attached
    simpa using attached
  · cases passed

theorem simulatorReason_none {requirement : ResourceRequirement} {resource : ResourceRecord}
    (passed : simulatorReason resource requirement = none) :
    ∃ simulator, resource.simulator = some simulator ∧ Pinned requirement.simulator simulator.id ∧
      PinnedText requirement.simulatorVersion simulator.version ∧
      (requirement.simulatorScenario ≠ [] → requirement.simulatorScenario ∈ simulator.scenarios) ∧
      (requirement.requireSimulatorReady → resource.readiness = .ready) := by
  unfold simulatorReason at passed
  cases carried : resource.simulator with
  | none => simp [carried] at passed
  | some simulator =>
    simp only [carried] at passed
    split at passed <;> rename_i identity
    · cases passed
    · split at passed <;> rename_i version
      · cases passed
      · split at passed <;> rename_i scenario
        · cases passed
        · split at passed <;> rename_i ready
          · cases passed
          · refine ⟨simulator, rfl, mismatches_eq_false.mp (by simpa using identity),
              pinnedText_of_not version, ?_, ?_⟩
            · intro named
              by_contra missing
              exact scenario ⟨named, missing⟩
            · intro required
              simpa [required] using ready

theorem datasetReason_none {requirement : ResourceRequirement} {resource : ResourceRecord}
    (passed : datasetReason resource requirement = none) :
    ∃ dataset, resource.dataset = some dataset ∧ Pinned requirement.dataset dataset.id ∧
      Pinned requirement.datasetVersion dataset.version := by
  unfold datasetReason at passed
  cases carried : resource.dataset with
  | none => simp [carried] at passed
  | some dataset =>
    simp only [carried] at passed
    split at passed <;> rename_i identity
    · cases passed
    · split at passed <;> rename_i version
      · cases passed
      · exact ⟨dataset, rfl, mismatches_eq_false.mp (by simpa using identity),
          mismatches_eq_false.mp (by simpa using version)⟩

theorem physicalEnvironmentReason_none {requirement : ResourceRequirement} {resource : ResourceRecord}
    (passed : physicalEnvironmentReason resource requirement = none) :
    ∃ environment, resource.environment = some environment ∧ Pinned requirement.environment environment.id ∧
      Pinned requirement.physicalEnvironment environment.physicalEnvironment ∧
      (requirement.requireCurrentEvidence → resource.readiness = .ready) := by
  unfold physicalEnvironmentReason at passed
  cases carried : resource.environment with
  | none => simp [carried] at passed
  | some environment =>
    simp only [carried] at passed
    split at passed <;> rename_i identity
    · cases passed
    · split at passed <;> rename_i physical
      · cases passed
      · split at passed <;> rename_i ready
        · cases passed
        · refine ⟨environment, rfl, mismatches_eq_false.mp (by simpa using identity),
            mismatches_eq_false.mp (by simpa using physical), ?_⟩
          intro required
          simpa [required] using ready

theorem virtualEnvironmentReason_none {requirement : ResourceRequirement} {resource : ResourceRecord}
    (passed : virtualEnvironmentReason resource requirement = none) :
    ∃ environment, resource.environment = some environment ∧ Pinned requirement.environment environment.id ∧
      Pinned requirement.virtualEnvironment environment.virtualEnvironment ∧
      PinnedText requirement.environmentDigest environment.imageDigest ∧
      (requirement.requireCurrentEvidence → resource.readiness = .ready) := by
  unfold virtualEnvironmentReason at passed
  cases carried : resource.environment with
  | none => simp [carried] at passed
  | some environment =>
    simp only [carried] at passed
    split at passed <;> rename_i identity
    · cases passed
    · split at passed <;> rename_i virtual
      · cases passed
      · split at passed <;> rename_i digest
        · cases passed
        · split at passed <;> rename_i ready
          · cases passed
          · refine ⟨environment, rfl, mismatches_eq_false.mp (by simpa using identity),
              mismatches_eq_false.mp (by simpa using virtual), pinnedText_of_not digest, ?_⟩
            intro required
            simpa [required] using ready

theorem classSpecificReason_none {requirement : ResourceRequirement} {resource : ResourceRecord}
    (passed : classSpecificReason resource requirement = none) : MeetsClass requirement resource := by
  unfold classSpecificReason at passed
  unfold MeetsClass
  cases kind : resource.resourceClass <;> simp only [kind] at passed ⊢
  case model => exact modelReason_none passed
  case gpu => exact gpuReason_none passed
  case simulator => exact simulatorReason_none passed
  case dataset => exact datasetReason_none passed
  case physicalEnvironment => exact physicalEnvironmentReason_none passed
  case virtualEnvironment => exact virtualEnvironmentReason_none passed

theorem contains_iff_mem {set : CapabilitySet} {id : CapabilityId} (holds : set.contains id = true) :
    ∃ capability ∈ set.entries, capability.id = id := by
  unfold CapabilitySet.contains CapabilitySet.holdsAt at holds
  split at holds
  · cases holds
  · rename_i found rest split
    have parts := List.span_eq_takeWhile_dropWhile (fun entry : Capability => decide (entry.id < id)) set.entries
    have tail : set.entries.dropWhile (fun entry => decide (entry.id < id)) = found :: rest := by
      have second := congrArg Prod.snd parts
      exact second.symm.trans split
    have member : found ∈ set.entries.dropWhile (fun entry => decide (entry.id < id)) := tail ▸ List.mem_cons_self
    exact ⟨found, (List.dropWhile_sublist _).subset member, by simpa using holds⟩

theorem effectiveMemory_cases (resource : ResourceRecord) {wanted : UInt64}
    (enough : wanted ≤ effectiveMemoryBytes resource) :
    wanted ≤ resource.capacity.memoryBytes ∨
      ∃ attachment ∈ resource.accelerators, wanted ≤ attachment.memoryBytes := by
  unfold effectiveMemoryBytes at enough
  generalize resource.capacity.memoryBytes = memory at enough ⊢
  generalize resource.accelerators = attachments at enough ⊢
  induction attachments generalizing memory with
  | nil => exact .inl enough
  | cons attachment rest ih =>
    rcases ih _ enough with here | ⟨other, member, there⟩
    · dsimp only at here
      split at here
      · exact .inr ⟨attachment, List.mem_cons_self, here⟩
      · exact .inl here
    · exact .inr ⟨other, List.mem_cons_of_mem _ member, there⟩

section Eligible

variable {state : SchedulerState} {request : ScheduleRequest} {limits : Limits}
  {requirement : ResourceRequirement} {candidate : CandidateResource} {resource : ResourceRecord}
  {selected : SelectedResource}

/-- A selected resource and the candidate it was made for. -/
structure SelectedFor (selected : SelectedResource) (candidate : CandidateResource) : Prop where
  resource : selected.resource = candidate.id
  slots : selected.slots = candidate.slots
  exclusive : selected.exclusive = candidate.exclusive

theorem claimsExclusively_iff :
    claimsExclusively request requirement resource ↔
      requirement.requireExclusive ∨ request.exclusive ∨ resource.sharing = .exclusive := by
  unfold claimsExclusively
  simp [or_assoc]

theorem occupancy_within (within : resource.inUse ≤ resource.capacity.slots.toNat) (slots : UInt32)
    (passed : ¬ resource.capacity.slots.toUInt64 * requirement.maxOccupancyPercent.toUInt64 <
      (resource.totalOccupancy.toUInt64 + slots.toUInt64) * 100) :
    (resource.inUse + slots.toNat) * 100 ≤
      resource.capacity.slots.toNat * requirement.maxOccupancyPercent.toNat := by
  have used : resource.totalOccupancy.toNat = resource.inUse := totalOccupancy_toNat within
  have capacity := resource.capacity.slots.toNat_lt
  have percent := requirement.maxOccupancyPercent.toNat_lt
  have claimed := slots.toNat_lt
  have product : resource.capacity.slots.toNat * requirement.maxOccupancyPercent.toNat < 2 ^ 64 := by
    calc
      _ < 2 ^ 32 * 2 ^ 32 := Nat.mul_lt_mul'' capacity percent
      _ = 2 ^ 64 := rfl
  rw [UInt64.lt_iff_toNat_lt, UInt64.toNat_mul, UInt64.toNat_mul, UInt64.toNat_add] at passed
  simp only [UInt32.toNat_toUInt64, used] at passed
  have hundred : (100 : UInt64).toNat = 100 := rfl
  rw [hundred, Nat.mod_eq_of_lt product] at passed
  omega

theorem Eligible.meets (eligible : Eligible state request limits requirement candidate resource)
    (made : SelectedFor selected candidate) (fits : Fits state)
    (reasons : 1 ≤ limits.maxRejectionReasonsPerEntry) :
    MeetsRequirement request requirement resource selected := by
  obtain ⟨sameClass, passed⟩ := evaluateResource_eligible reasons eligible.eligible
  obtain ⟨-, claimed, whole⟩ := eligible.claims
  have room := eligible.room fits reasons
  have within : resource.inUse ≤ resource.capacity.slots.toNat := fits.fits resource (Table.mem_of_find? eligible.found)
  have used : resource.totalOccupancy.toNat = resource.inUse := totalOccupancy_toNat within
  simp only [hardTests, List.forall_mem_cons, List.not_mem_nil, false_implies, implies_true, and_true] at passed
  obtain ⟨allowed, denied, retired, lost, evidence, tenant, capabilities, health, unsupported, domain, specific,
    empty, -, memory, occupancy⟩ := passed
  have marked : selected.exclusive = claimsExclusively request requirement resource := made.exclusive.trans whole
  have taken : selected.slots = claimedSlots request requirement resource := made.slots.trans claimed
  constructor
  case resourceClass => exact sameClass
  case allowed =>
    intro listed
    simpa [listed] using allowed
  case denied => simpa using denied
  case lifecycle => exact ⟨by simpa using retired, by simpa using lost⟩
  case evidence =>
    intro required
    exact ⟨by simpa [required] using evidence, by simpa [required] using unsupported⟩
  case tenant =>
    intro asked owned
    simpa [asked, owned] using tenant
  case capabilities =>
    intro required member
    have all : resource.capabilities.containsAll requirement.requiredCapabilities = true := by
      simpa using capabilities
    exact contains_iff_mem (List.all_eq_true.mp all required member)
  case health => simpa using health
  case domain => exact mismatches_eq_false.mp domain
  case specific => exact classSpecificReason_none (by simpa using specific)
  case exclusive =>
    rw [marked]
    exact claimsExclusively_iff
  case slots =>
    rw [taken, marked]
    rfl
  case whole =>
    intro exclusive
    have none : resource.totalOccupancy = 0 := by simpa [← marked, exclusive] using empty
    rw [← used, none]
    rfl
  case free =>
    rw [made.slots]
    exact room
  case memory => exact effectiveMemory_cases resource (by simpa using memory)
  case occupancy =>
    rw [taken]
    exact occupancy_within within _ (by simpa using occupancy)

end Eligible

section Selection

variable {state : SchedulerState} {request : ScheduleRequest} {limits : Limits}

theorem constraintHolds_iff {pairs : List (ResourceRecord × ResourceRequirement)} {constraint : GroupConstraint}
    {holds : ResourceRecord → ResourceRecord → TopologyScope → Bool} :
    constraintHolds pairs constraint holds ↔ BetweenGroups pairs constraint fun a b scope => holds a b scope := by
  unfold constraintHolds BetweenGroups
  simp only [List.all_eq_true, Bool.or_eq_true, bne_iff_ne]
  constructor
  · intro all a first b second groupA groupB
    rcases all a first with other | rest
    · exact absurd groupA other
    · rcases rest b second with other | rest
      · exact absurd groupB other
      · exact rest
  · intro between a first
    by_cases groupA : a.2.affinityGroup = constraint.groupA
    · refine .inr fun b second => ?_
      by_cases groupB : b.2.affinityGroup = constraint.groupB
      · exact .inr (between a first b second groupA groupB)
      · exact .inl groupB
    · exact .inl groupA

theorem domainsAreEqual_iff {a b : ResourceRecord} {scope : TopologyScope} :
    domainsAreEqual a b scope ↔ Colocated a b scope := by
  unfold domainsAreEqual topologyDomainsEqual Colocated
  simp

theorem domainsAreDisjoint_iff {a b : ResourceRecord} {scope : TopologyScope} :
    domainsAreDisjoint a b scope ↔ Separated a b scope := by
  unfold domainsAreDisjoint Separated
  extract_lets left right
  split <;> rename_i known
  · simp only [Bool.or_eq_true] at known
    simp only [Bool.false_eq_true, false_iff]
    intro separated
    rcases known with unknown | unknown
    · exact Bool.noConfusion (separated.1.symm.trans unknown)
    · exact Bool.noConfusion (separated.2.1.symm.trans unknown)
  · simp only [Bool.or_eq_true, not_or, Bool.not_eq_true] at known
    simp only [bne_iff_ne]
    exact ⟨fun differs => ⟨known.1, known.2, differs⟩, fun separated => separated.2.2⟩

theorem reservedByOtherPlacement_false {experiment : ExperimentId} {resource : ResourceId}
    {request : ScheduleRequestId} (free : reservedByOtherPlacement state experiment resource request = false)
    {placement : PlacementRecord} (member : placement ∈ state.placements.entries)
    (same : placement.experiment = experiment) (other : placement.request ≠ request)
    (live : placementStateIsLive placement.state) {reservation : ReservationRecord}
    (found : state.reservations.find? placement.reservation = some reservation)
    (active : reservation.state = .active) {claim : ReservationClaim} (claimed : claim ∈ reservation.claims) :
    claim.resource ≠ resource := by
  intro taken
  unfold reservedByOtherPlacement at free
  have none := List.any_eq_false.mp free placement member
  simp only [same, other, live, found, active, bne_iff_ne, beq_self_eq_true, Bool.and_true, Bool.true_and,
    ne_eq, not_false_eq_true, Bool.and_eq_true, List.any_eq_true, beq_iff_eq, true_and] at none
  exact none ⟨claim, claimed, taken⟩

theorem ValidSelection.meets {records : List ResourceRecord} {selection : List CandidateResource}
    {selected : List SelectedResource} (valid : ValidSelection state request records selection)
    (made : List.Forall₂ SelectedFor selected selection)
    (found : List.Forall₂ (fun selected record => state.resources.find? selected.resource = some record)
      selected records) : MeetsSelection state request records selected := by
  constructor
  case distinct =>
    have same : selected.map SelectedResource.resource = records.map fun record => record.id :=
      forall₂_map_eq found fun there => (ResourceTable.id_of_find? there).symm
    exact same ▸ valid.distinct
  case affinity =>
    intro constraint member a first b second groupA groupB
    have between := constraintHolds_iff.mp (valid.affinity constraint member)
    exact domainsAreEqual_iff.mp (between a first b second groupA groupB)
  case antiAffinity =>
    intro constraint member a first b second groupA groupB
    have between := constraintHolds_iff.mp (valid.antiAffinity constraint member)
    exact domainsAreDisjoint_iff.mp (between a first b second groupA groupB)
  case experiment =>
    intro apart record member placement there same other live reservation holds active claim claimed
    exact reservedByOtherPlacement_false (valid.experiment apart record member) there same other live holds active
      claimed
  case exclusive =>
    intro exclusive resource member
    obtain ⟨candidate, picked, for_⟩ := forall₂_mem_left made member
    rw [for_.exclusive]
    exact valid.exclusive exclusive candidate picked

theorem Booked.selectedFor_turns {resources after : ResourceTable}
    {turns : List (CandidateResource × ResourceRequirement)} {selected : List SelectedResource}
    {claims : List ReservationClaim} (booked : Booked resources turns after selected claims) :
    List.Forall₂ SelectedFor selected (turns.map Prod.fst) := by
  induction booked with
  | nil => exact .nil
  | cons found room next ih => exact .cons ⟨ResourceTable.id_of_find? found, rfl, rfl⟩ ih

theorem Chosen.meetsConstraints {selection : List CandidateResource} (chosen : Chosen state request limits selection)
    (fits : Fits state) (reasons : 1 ≤ limits.maxRejectionReasonsPerEntry) {after : ResourceTable}
    {selected : List SelectedResource} {claims : List ReservationClaim}
    (booked : Booked state.resources (selection.zip request.requirements) after selected claims) :
    ∃ records, MeetsConstraints state request records selected := by
  obtain ⟨records, looked, answer⟩ := chosen.valid
  have there := mapM_find?_eq_some looked
  have made : List.Forall₂ SelectedFor selected selection := by
    have pairs := booked.selectedFor_turns
    rwa [List.map_fst_zip chosen.length.le] at pairs
  have found : List.Forall₂ (fun selected record => state.resources.find? selected.resource = some record)
      selected records :=
    forall₂_through made.flip there fun candidate selected record made there => made.resource ▸ there
  refine ⟨records, found, ?_, (validateSelection_eq_none.mp answer).meets made found⟩
  refine forall₂_through chosen.eligible (forall₂_zip there made.flip) ?_
  intro candidate requirement pair ⟨resource, eligible⟩ ⟨there, made⟩
  have named : candidate.id = resource.id := eligible.claims.1
  rw [named, eligible.found] at there
  cases there
  exact eligible.meets made fits reasons

end Selection

/-- A committed decision meets every hard constraint as soon as one reason is kept. -/
theorem Engine.Calls.meetsConstraints {config : EngineConfig} (reasons : 1 ≤ config.limits.maxRejectionReasonsPerEntry)
    {operations : List Operation} {operation : Operation} {call : SchedulingCall} {decision : Decision}
    (calls : ((Engine.fresh config).runs operations).Calls operation call)
    (decided : (call.scheduled config ((Engine.fresh config).runs operations).ids).result = .ok decision)
    (placed : decision.outcome = .placed) :
    ∃ records, MeetsConstraints call.state call.stored.request records decision.placement.resources := by
  have fits : Fits ((Engine.fresh config).runs operations).state := .runs reasons operations
  have there : Fits call.state := calls.preserve Fits.change Fits.write fits
  have result : ScheduleResult call.state config _ call.stored call.generation call.reassignments
      (call.scheduled config ((Engine.fresh config).runs operations).ids) := scheduleLocked_result
  generalize call.scheduled config ((Engine.fresh config).runs operations).ids = scheduled at decided result
  cases result with
  | noPlacement outcome =>
    cases decided
    rw [outcome] at placed
    cases placed
  | refused => cases decided
  | broken => cases decided
  | placed chosen loop committed made =>
    cases decided
    rw [made.2, committed]
    exact chosen.meetsConstraints there reasons (commitLoop_ok loop)

/-- In every reachable state, a placement that is committed meets every hard constraint of its request
    in the state the call of `schedule_locked` found. -/
theorem placed_meets_constraints {config : EngineConfig} (working : config.limits.Working)
    (operations : List Operation) {operation : Operation} {call : SchedulingCall} {decision : Decision}
    (calls : ((Engine.fresh config).runs operations).Calls operation call)
    (decided : (call.scheduled config ((Engine.fresh config).runs operations).ids).result = .ok decision)
    (placed : decision.outcome = .placed) :
    ∃ records, MeetsConstraints call.state call.stored.request records decision.placement.resources :=
  calls.meetsConstraints working.reasons decided placed

theorem Decision.placed_of_result {result : Except Status Decision} {resources : List ResourceId}
    (decided : (result.toOption.map fun decision =>
      (decision.outcome, decision.placement.resources.map SelectedResource.resource)) = some (.placed, resources)) :
    ∃ decision : Decision, result = .ok decision ∧ decision.outcome = .placed ∧
      decision.placement.resources.map SelectedResource.resource = resources := by
  cases result with
  | error status => cases decided
  | ok decision =>
    obtain ⟨outcome, selected⟩ := Prod.mk.inj (Option.some.inj decided)
    exact ⟨decision, rfl, outcome, selected⟩

namespace Bench

/-- The bench with its resource registered. -/
def equipped : Engine := (Engine.fresh {}).runs [.registerResource advertisement]

def probe : Capability := { id := capabilityIdFromName (ascii "probe"), name := ascii "probe" }

/-- A resource with a probe on the host 3. -/
def probing (id : UInt64) (slots : UInt32) : ResourceAdvertisement :=
  { advertisement with
    id := ⟨id⟩
    capacity := { slots := slots }
    capabilities := ⟨[probe]⟩
    topology := { supplied := true, host := { id := ⟨3⟩ } } }

/-- The bench, which supplies no topology, and two probes. -/
def lab : List Operation :=
  [.registerResource advertisement, .registerResource (probing 8 1), .registerResource (probing 9 2)]

/-- Two probes side by side, the first one on the host 3, and one slot more. -/
def survey : ScheduleRequest :=
  { request 5 1 with
    requirements :=
      [{ name := ascii "near", requiredCapabilities := ⟨[probe]⟩, requiredDomain := some ⟨3⟩, affinityGroup := 1 },
        { name := ascii "beside", requiredCapabilities := ⟨[probe]⟩, affinityGroup := 2 }, { name := ascii "slot" }]
    affinity := [{ groupA := 1, groupB := 2 }] }

def surveyCall : SchedulingCall := ((Engine.fresh {}).runs lab).submission survey

theorem surveyCall_calls : ((Engine.fresh {}).runs lab).Calls (.submitRequest survey) surveyCall := by
  have accepted : submitChecks ((Engine.fresh {}).runs lab).state {} (normalizeScheduleRequest survey) = .ok () := by
    decide +kernel
  exact .submit accepted

theorem surveyCall_placed : ∃ decision : Decision,
    (surveyCall.scheduled {} ((Engine.fresh {}).runs lab).ids).result = .ok decision ∧ decision.outcome = .placed ∧
      decision.placement.resources.map SelectedResource.resource = [⟨9⟩, ⟨8⟩, ⟨7⟩] :=
  Decision.placed_of_result (by decide +kernel)

end Bench

theorem placed_meets_constraints_bench :
    ∃ decision : Decision, decision.outcome = .placed ∧
      decision.placement.resources.map SelectedResource.resource = [⟨9⟩, ⟨8⟩, ⟨7⟩] ∧
      ∃ records, MeetsConstraints Bench.surveyCall.state Bench.survey records decision.placement.resources := by
  obtain ⟨decision, result, placed, chosen⟩ := Bench.surveyCall_placed
  exact ⟨decision, placed, chosen,
    placed_meets_constraints ⟨by decide, by decide⟩ Bench.lab Bench.surveyCall_calls result placed⟩

end LabScheduler
