import LabScheduler.Codec.Bounds

namespace LabScheduler

open Foundation

namespace RecordCodec

theorem readLimits_decodes : Decodes writeLimits id readLimits (fun _ => True) := by
  refine Decodes.congr (Reads.decodes <|
    Reads.field Limits.maxResources ByteReader.u32_decodes fun _ _ =>
    Reads.field Limits.maxCapabilitiesPerResource ByteReader.u32_decodes fun _ _ =>
    Reads.field Limits.maxAcceleratorsPerResource ByteReader.u32_decodes fun _ _ =>
    Reads.field Limits.maxLocalDatasetsPerResource ByteReader.u32_decodes fun _ _ =>
    Reads.field Limits.maxResidentModelsPerResource ByteReader.u32_decodes fun _ _ =>
    Reads.field Limits.maxSimulatorScenarios ByteReader.u32_decodes fun _ _ =>
    Reads.field Limits.maxRetainedRequests ByteReader.u32_decodes fun _ _ =>
    Reads.field Limits.maxActiveRequests ByteReader.u32_decodes fun _ _ =>
    Reads.field Limits.maxRequirementsPerRequest ByteReader.u32_decodes fun _ _ =>
    Reads.field Limits.maxAllowlistEntries ByteReader.u32_decodes fun _ _ =>
    Reads.field Limits.maxDenylistEntries ByteReader.u32_decodes fun _ _ =>
    Reads.field Limits.maxAntiAffinityPairs ByteReader.u32_decodes fun _ _ =>
    Reads.field Limits.maxAffinityGroups ByteReader.u32_decodes fun _ _ =>
    Reads.field Limits.maxCandidateResourcesPerRequirement ByteReader.u32_decodes fun _ _ =>
    Reads.field Limits.maxCandidatesEvaluated ByteReader.u32_decodes fun _ _ =>
    Reads.field Limits.maxCandidatesRanked ByteReader.u32_decodes fun _ _ =>
    Reads.field Limits.maxRejectedEntriesPerRequirement ByteReader.u32_decodes fun _ _ =>
    Reads.field Limits.maxRejectionReasonsPerEntry ByteReader.u32_decodes fun _ _ =>
    Reads.field Limits.maxRankingFactors ByteReader.u32_decodes fun _ _ =>
    Reads.field Limits.maxPlacements ByteReader.u32_decodes fun _ _ =>
    Reads.field Limits.maxActivePlacements ByteReader.u32_decodes fun _ _ =>
    Reads.field Limits.maxReservations ByteReader.u32_decodes fun _ _ =>
    Reads.field Limits.maxActiveReservations ByteReader.u32_decodes fun _ _ =>
    Reads.field Limits.maxPlacementHistoryPerUnit ByteReader.u32_decodes fun _ _ =>
    Reads.field Limits.maxAuditRecords ByteReader.u32_decodes fun _ _ =>
    Reads.field Limits.maxTopologyRecords ByteReader.u32_decodes fun _ _ =>
    Reads.field Limits.maxTopologyDepth ByteReader.u32_decodes fun _ _ =>
    Reads.field Limits.maxStringLength ByteReader.u32_decodes fun _ _ =>
    Reads.field Limits.maxDigestLength ByteReader.u32_decodes fun _ _ =>
    Reads.field Limits.maxExplanationEntries ByteReader.u32_decodes fun _ _ =>
    Reads.field Limits.maxFrameSize ByteReader.u32_decodes fun _ _ =>
    Reads.field Limits.maxWorkerConnections ByteReader.u32_decodes fun _ _ =>
    Reads.field Limits.maxInflightAssignments ByteReader.u32_decodes fun _ _ =>
    Reads.field Limits.maxPersistenceRecords ByteReader.u32_decodes fun _ _ =>
    Reads.field Limits.maxPersistenceBytes ByteReader.u64_decodes fun _ _ =>
    Reads.field Limits.maxPlacementCommitAttempts ByteReader.u32_decodes fun _ _ =>
    Reads.done (fun limits => ?_) rfl) fun _ => by simp
  cases limits
  simp [and_assoc]

section Descriptions

def Listed {α : Type} [LT α] (maximum : UInt32) (items : List α) : Prop :=
  items.length ≤ maximum.toNat ∧ Ascending items

theorem readIdList_decodes {kind : IdKind} (maximum : UInt32) :
    Decodes writeIdList id (readIdList maximum : Decoder (List (StrongId kind))) (Listed maximum) :=
  (readOrdered_decodes readId_decodes _ maximum).congr fun _ => by simp [Listed]

theorem readStringList_decodes (maximum maximumLength : UInt32) :
    Decodes writeStringList id (readStringList maximum maximumLength)
      (fun texts => (∀ text ∈ texts, text.length ≤ maximumLength.toNat) ∧ Listed maximum texts) :=
  (readOrdered_decodes (ByteReader.str_decodes maximumLength) _ maximum).congr fun _ => by
    rw [and_left_comm]
    exact Iff.rfl

@[mk_iff] structure LocalityFits (limits : Limits) (locality : LocalityDescriptor) : Prop where
  localDatasetVersions : Listed limits.maxLocalDatasetsPerResource locality.localDatasetVersions
  residentModels : Listed limits.maxResidentModelsPerResource locality.residentModels
  colocatedSimulators : Listed limits.maxSimulatorScenarios locality.colocatedSimulators

theorem readLocality_decodes (limits : Limits) :
    Decodes writeLocality id (readLocality limits) (LocalityFits limits) := by
  refine Decodes.congr (Reads.decodes <|
    Reads.field LocalityDescriptor.localDatasetVersions (readIdList_decodes _) fun _ _ =>
    Reads.field LocalityDescriptor.residentModels (readIdList_decodes _) fun _ _ =>
    Reads.field LocalityDescriptor.colocatedSimulators (readIdList_decodes _) fun _ _ =>
    Reads.done (fun locality => ?_) rfl) fun _ => by simp [localityFits_iff]
  cases locality
  simp [and_assoc]

def sortedModel (model : ModelDescriptor) : ModelDescriptor := { model with modalities := sortedSet model.modalities }

@[mk_iff] structure ModelFits (limits : Limits) (model : ModelDescriptor) : Prop where
  version : model.version.length ≤ limits.maxDigestLength.toNat
  modalities : CapabilitiesFit limits model.modalities

theorem readModel_decodes (limits : Limits) :
    Decodes writeModel sortedModel (readModel limits) (ModelFits limits) := by
  refine Decodes.congr (Reads.decodes <|
    Reads.field ModelDescriptor.id readId_decodes fun id _ =>
    Reads.field ModelDescriptor.version (ByteReader.str_decodes _) fun version _ =>
    Reads.field ModelDescriptor.contextWindow ByteReader.u32_decodes fun contextWindow _ =>
    Reads.field ModelDescriptor.toolSupport ByteReader.boolean_decodes fun toolSupport _ =>
    Reads.field ModelDescriptor.resident ByteReader.boolean_decodes fun resident _ =>
    Reads.field ModelDescriptor.modalities (readCapabilities_decodes limits) fun modalities _ =>
    Reads.done (w := { id, version, contextWindow, toolSupport, resident, modalities }) (fun model => ?_) rfl)
    fun _ => by simp [modelFits_iff]
  cases model
  simp [and_assoc]

@[mk_iff] structure SimulatorFits (limits : Limits) (simulator : SimulatorDescriptor) : Prop where
  version : simulator.version.length ≤ limits.maxDigestLength.toNat
  texts : ∀ scenario ∈ simulator.scenarios, scenario.length ≤ limits.maxStringLength.toNat
  scenarios : Listed limits.maxSimulatorScenarios simulator.scenarios

theorem readSimulator_decodes (limits : Limits) :
    Decodes writeSimulator id (readSimulator limits) (SimulatorFits limits) := by
  refine Decodes.congr (Reads.decodes <|
    Reads.field SimulatorDescriptor.id readId_decodes fun _ _ =>
    Reads.field SimulatorDescriptor.version (ByteReader.str_decodes _) fun _ _ =>
    Reads.field SimulatorDescriptor.scenarios (readStringList_decodes _ _) fun _ _ =>
    Reads.field SimulatorDescriptor.maxSessions ByteReader.u32_decodes fun _ _ =>
    Reads.done (fun simulator => ?_) rfl) fun _ => by simp [simulatorFits_iff]
  cases simulator
  simp [and_assoc]

theorem readDataset_decodes (limits : Limits) :
    Decodes writeDataset id (readDataset limits)
      (fun dataset => dataset.digest.length ≤ limits.maxDigestLength.toNat) := by
  refine Decodes.congr (Reads.decodes <|
    Reads.field DatasetDescriptor.id readId_decodes fun _ _ =>
    Reads.field DatasetDescriptor.version readId_decodes fun _ _ =>
    Reads.field DatasetDescriptor.digest (ByteReader.str_decodes _) fun _ _ =>
    Reads.field DatasetDescriptor.sizeBytes ByteReader.u64_decodes fun _ _ =>
    Reads.done (fun dataset => ?_) rfl) fun _ => by simp
  cases dataset
  simp [and_assoc]

@[mk_iff] structure EnvironmentFits (limits : Limits) (environment : EnvironmentDescriptor) : Prop where
  imageDigest : environment.imageDigest.length ≤ limits.maxDigestLength.toNat
  eligibilityToken : environment.eligibilityToken.length ≤ limits.maxStringLength.toNat

theorem readEnvironment_decodes (limits : Limits) :
    Decodes writeEnvironment id (readEnvironment limits) (EnvironmentFits limits) := by
  refine Decodes.congr (Reads.decodes <|
    Reads.field EnvironmentDescriptor.id readId_decodes fun _ _ =>
    Reads.field EnvironmentDescriptor.imageDigest (ByteReader.str_decodes _) fun _ _ =>
    Reads.field EnvironmentDescriptor.virtualEnvironment readId_decodes fun _ _ =>
    Reads.field EnvironmentDescriptor.physicalEnvironment readId_decodes fun _ _ =>
    Reads.field EnvironmentDescriptor.eligibilityToken (ByteReader.str_decodes _) fun _ _ =>
    Reads.done (fun environment => ?_) rfl) fun _ => by simp [environmentFits_iff]
  cases environment
  simp [and_assoc]

/-- The description as it is read: its sets of capabilities in order. -/
def sortedDescription (description : Description) : Description :=
  { description with
    capabilities := sortedSet description.capabilities
    model := description.model.map sortedModel }

@[mk_iff] structure DescriptionFits (limits : Limits) (description : Description) : Prop where
  name : description.name.length ≤ limits.maxStringLength.toNat
  capabilities : CapabilitiesFit limits description.capabilities
  healthDetail : description.healthDetail.length ≤ limits.maxStringLength.toNat
  topology : ∀ scope, (description.topology.domain scope).name.length ≤ limits.maxStringLength.toNat
  locality : LocalityFits limits description.locality
  accelerators : description.accelerators.length ≤ limits.maxAcceleratorsPerResource.toNat
  accelerator : ∀ accelerator ∈ description.accelerators, accelerator.model.length ≤ limits.maxStringLength.toNat
  model : ∀ model ∈ description.model, ModelFits limits model
  simulator : ∀ simulator ∈ description.simulator, SimulatorFits limits simulator
  dataset : ∀ dataset ∈ description.dataset, dataset.digest.length ≤ limits.maxDigestLength.toNat
  environment : ∀ environment ∈ description.environment, EnvironmentFits limits environment
  tenant : description.tenant.length ≤ limits.maxStringLength.toNat
  label : ∀ label ∈ description.labels, label.length ≤ limits.maxStringLength.toNat
  labels : Listed limits.maxCapabilitiesPerResource description.labels

def sortedResource (resource : ResourceRecord) : ResourceRecord :=
  { resource with toDescription := sortedDescription resource.toDescription }

@[mk_iff] structure ResourceFits (limits : Limits) (resource : ResourceRecord) : Prop where
  description : DescriptionFits limits resource.toDescription
  authorityDetail : resource.authorityDetail.length ≤ limits.maxStringLength.toNat

theorem readResource_decodes (limits : Limits) :
    Decodes writeResource sortedResource (readResource limits) (ResourceFits limits) := by
  refine Decodes.congr (Reads.decodes <|
    Reads.field (fun resource : ResourceRecord => resource.id) readId_decodes fun id _ =>
    Reads.field (fun resource : ResourceRecord => resource.resourceClass) readEnum_decodes fun resourceClass _ =>
    Reads.field (fun resource : ResourceRecord => resource.name) (ByteReader.str_decodes _) fun name _ =>
    Reads.field (fun resource : ResourceRecord => resource.worker) readId_decodes fun worker _ =>
    Reads.field (fun resource : ResourceRecord => resource.boot) readId_decodes fun boot _ =>
    Reads.field (fun resource : ResourceRecord => resource.provenance) readEnum_decodes fun provenance _ =>
    Reads.field (fun resource : ResourceRecord => resource.sharing) readEnum_decodes fun sharing _ =>
    Reads.field (fun resource : ResourceRecord => resource.capabilities) (readCapabilities_decodes limits)
      fun capabilities _ =>
    Reads.field (fun resource : ResourceRecord => resource.capacity.slots) ByteReader.u32_decodes fun slots _ =>
    Reads.field (fun resource : ResourceRecord => resource.capacity.memoryBytes) ByteReader.u64_decodes
      fun memoryBytes _ =>
    Reads.field (fun resource : ResourceRecord => resource.capacity.maxSessions) ByteReader.u32_decodes
      fun maxSessions _ =>
    Reads.field (fun resource : ResourceRecord => resource.advertisedOccupancy) ByteReader.u32_decodes
      fun advertisedOccupancy _ =>
    Reads.field (fun resource : ResourceRecord => resource.health) readEnum_decodes fun health _ =>
    Reads.field (fun resource : ResourceRecord => resource.healthDetail) (ByteReader.str_decodes _)
      fun healthDetail _ =>
    Reads.field (fun resource : ResourceRecord => resource.readiness) readEnum_decodes fun readiness _ =>
    Reads.field (fun resource : ResourceRecord => resource.topology) (readTopology_decodes _) fun topology _ =>
    Reads.field (fun resource : ResourceRecord => resource.locality) (readLocality_decodes limits) fun locality _ =>
    Reads.field (fun resource : ResourceRecord => resource.accelerators)
      (readItems_decodes (readAccelerator_decodes limits) _) fun accelerators _ =>
    Reads.field (fun resource : ResourceRecord => resource.model) (readOptional_decodes (readModel_decodes limits))
      fun model _ =>
    Reads.field (fun resource : ResourceRecord => resource.simulator) (readMaybe_decodes (readSimulator_decodes limits))
      fun simulator _ =>
    Reads.field (fun resource : ResourceRecord => resource.dataset) (readMaybe_decodes (readDataset_decodes limits))
      fun dataset _ =>
    Reads.field (fun resource : ResourceRecord => resource.environment)
      (readMaybe_decodes (readEnvironment_decodes limits)) fun environment _ =>
    Reads.field (fun resource : ResourceRecord => resource.tenant) (ByteReader.str_decodes _) fun tenant _ =>
    Reads.field (fun resource : ResourceRecord => resource.labels) (readStringList_decodes _ _) fun labels _ =>
    Reads.field ResourceRecord.lifecycle readEnum_decodes fun lifecycle _ =>
    Reads.field ResourceRecord.generation readId_decodes fun generation _ =>
    Reads.field ResourceRecord.healthGeneration readId_decodes fun healthGeneration _ =>
    Reads.field ResourceRecord.capacityGeneration readId_decodes fun capacityGeneration _ =>
    Reads.field ResourceRecord.stateSequence ByteReader.u64_decodes fun stateSequence _ =>
    Reads.field ResourceRecord.validatedEpoch readId_decodes fun validatedEpoch _ =>
    Reads.field ResourceRecord.dynamicAuthoritative ByteReader.boolean_decodes fun dynamicAuthoritative _ =>
    Reads.field ResourceRecord.authorityDetail (ByteReader.str_decodes _) fun authorityDetail _ =>
    Reads.field ResourceRecord.reservedSlots ByteReader.u32_decodes fun reservedSlots _ =>
    Reads.done (w := {
      id, resourceClass, name, worker, boot, provenance, sharing, capabilities,
      capacity := ⟨slots, memoryBytes, maxSessions⟩
      advertisedOccupancy, health, healthDetail, readiness, topology, locality, accelerators, model, simulator,
      dataset, environment, tenant, labels, lifecycle, generation, healthGeneration, capacityGeneration,
      stateSequence, validatedEpoch, dynamicAuthoritative, authorityDetail, reservedSlots }) (fun resource => ?_) rfl)
    fun _ => by simp [resourceFits_iff, descriptionFits_iff, and_assoc]
  obtain ⟨⟨_, _, _, _, _, _, _, _, ⟨_, _, _⟩⟩⟩ := resource
  simp [and_assoc]

end Descriptions

section Requests

/-- The requirement as it is read: its set of capabilities in order. -/
def sortedRequirement (requirement : ResourceRequirement) : ResourceRequirement :=
  { requirement with requiredCapabilities := sortedSet requirement.requiredCapabilities }

@[mk_iff] structure RequirementFits (limits : Limits) (requirement : ResourceRequirement) : Prop where
  name : requirement.name.length ≤ limits.maxStringLength.toNat
  requiredCapabilities : CapabilitiesFit limits requirement.requiredCapabilities
  modelVersion : requirement.modelVersion.length ≤ limits.maxDigestLength.toNat
  simulatorVersion : requirement.simulatorVersion.length ≤ limits.maxDigestLength.toNat
  simulatorScenario : requirement.simulatorScenario.length ≤ limits.maxStringLength.toNat
  environmentDigest : requirement.environmentDigest.length ≤ limits.maxDigestLength.toNat
  allowlist : Listed limits.maxAllowlistEntries requirement.allowlist
  denylist : Listed limits.maxDenylistEntries requirement.denylist

theorem readRequirement_decodes (limits : Limits) :
    Decodes writeRequirement sortedRequirement (readRequirement limits) (RequirementFits limits) := by
  refine Decodes.congr (Reads.decodes <|
    Reads.field ResourceRequirement.name (ByteReader.str_decodes _) fun name _ =>
    Reads.field ResourceRequirement.resourceClass readEnum_decodes fun resourceClass _ =>
    Reads.field ResourceRequirement.requiredCapabilities (readCapabilities_decodes limits) fun requiredCapabilities _ =>
    Reads.field ResourceRequirement.minSlots ByteReader.u32_decodes fun minSlots _ =>
    Reads.field ResourceRequirement.minMemoryBytes ByteReader.u64_decodes fun minMemoryBytes _ =>
    Reads.field ResourceRequirement.requireExclusive ByteReader.boolean_decodes fun requireExclusive _ =>
    Reads.field ResourceRequirement.requireCurrentEvidence ByteReader.boolean_decodes fun requireCurrentEvidence _ =>
    Reads.field ResourceRequirement.minimumHealth readEnum_decodes fun minimumHealth _ =>
    Reads.field ResourceRequirement.maxOccupancyPercent ByteReader.u32_decodes fun maxOccupancyPercent _ =>
    Reads.field ResourceRequirement.accelerator (readMaybe_decodes readId_decodes) fun accelerator _ =>
    Reads.field ResourceRequirement.model (readMaybe_decodes readId_decodes) fun model _ =>
    Reads.field ResourceRequirement.modelVersion (ByteReader.str_decodes _) fun modelVersion _ =>
    Reads.field ResourceRequirement.requireModelResident ByteReader.boolean_decodes fun requireModelResident _ =>
    Reads.field ResourceRequirement.simulator (readMaybe_decodes readId_decodes) fun simulator _ =>
    Reads.field ResourceRequirement.simulatorVersion (ByteReader.str_decodes _) fun simulatorVersion _ =>
    Reads.field ResourceRequirement.simulatorScenario (ByteReader.str_decodes _) fun simulatorScenario _ =>
    Reads.field ResourceRequirement.requireSimulatorReady ByteReader.boolean_decodes fun requireSimulatorReady _ =>
    Reads.field ResourceRequirement.dataset (readMaybe_decodes readId_decodes) fun dataset _ =>
    Reads.field ResourceRequirement.datasetVersion (readMaybe_decodes readId_decodes) fun datasetVersion _ =>
    Reads.field ResourceRequirement.environment (readMaybe_decodes readId_decodes) fun environment _ =>
    Reads.field ResourceRequirement.environmentDigest (ByteReader.str_decodes _) fun environmentDigest _ =>
    Reads.field ResourceRequirement.physicalEnvironment (readMaybe_decodes readId_decodes) fun physicalEnvironment _ =>
    Reads.field ResourceRequirement.virtualEnvironment (readMaybe_decodes readId_decodes) fun virtualEnvironment _ =>
    Reads.field ResourceRequirement.requiredDomain (readMaybe_decodes readId_decodes) fun requiredDomain _ =>
    Reads.field ResourceRequirement.requiredDomainScope readEnum_decodes fun requiredDomainScope _ =>
    Reads.field ResourceRequirement.allowlist (readIdList_decodes _) fun allowlist _ =>
    Reads.field ResourceRequirement.denylist (readIdList_decodes _) fun denylist _ =>
    Reads.field ResourceRequirement.affinityGroup ByteReader.u32_decodes fun affinityGroup _ =>
    Reads.done (w := {
      name, resourceClass, requiredCapabilities, minSlots, minMemoryBytes, requireExclusive, requireCurrentEvidence,
      minimumHealth, maxOccupancyPercent, accelerator, model, modelVersion, requireModelResident, simulator,
      simulatorVersion, simulatorScenario, requireSimulatorReady, dataset, datasetVersion, environment,
      environmentDigest, physicalEnvironment, virtualEnvironment, requiredDomain, requiredDomainScope, allowlist,
      denylist, affinityGroup }) (fun requirement => ?_) rfl)
    fun _ => by simp [requirementFits_iff]
  cases requirement
  simp [and_assoc]

theorem readConstraint_decodes :
    Decodes writeConstraint id readConstraint (fun _ => True) := by
  refine Decodes.congr (Reads.decodes <|
    Reads.field GroupConstraint.groupA ByteReader.u32_decodes fun _ _ =>
    Reads.field GroupConstraint.groupB ByteReader.u32_decodes fun _ _ =>
    Reads.field GroupConstraint.scope readEnum_decodes fun _ _ =>
    Reads.done (fun constraint => ?_) rfl) fun _ => by simp
  cases constraint
  simp [and_assoc]

def sortedRequest (request : ScheduleRequest) : ScheduleRequest :=
  { request with requirements := request.requirements.map sortedRequirement }

@[mk_iff] structure RequestFits (limits : Limits) (request : ScheduleRequest) : Prop where
  workload : request.workload.length ≤ limits.maxStringLength.toNat
  tenant : request.tenant.length ≤ limits.maxStringLength.toNat
  priority : -1000 ≤ request.priority.toInt ∧ request.priority.toInt ≤ 1000
  requirements : request.requirements.length ≤ limits.maxRequirementsPerRequest.toNat
  requirement : ∀ requirement ∈ request.requirements, RequirementFits limits requirement
  affinity : request.affinity.length ≤ limits.maxAntiAffinityPairs.toNat
  antiAffinity : request.antiAffinity.length ≤ limits.maxAntiAffinityPairs.toNat
  maxReassignments : request.maxReassignments ≤ 16
  weights : ∀ factor, FairWeight (request.weights factor)
  callerAuthority : request.callerAuthority.length ≤ limits.maxStringLength.toNat
  requestProvenance : request.requestProvenance.length ≤ limits.maxStringLength.toNat

theorem readRequest_decodes (limits : Limits) :
    Decodes writeRequest sortedRequest (readRequest limits) (RequestFits limits) := by
  refine Decodes.congr (Reads.decodes <|
    Reads.field ScheduleRequest.id readId_decodes fun id _ =>
    Reads.field ScheduleRequest.experiment readId_decodes fun experiment _ =>
    Reads.field ScheduleRequest.experimentGeneration readId_decodes fun experimentGeneration _ =>
    Reads.field ScheduleRequest.trial readId_decodes fun trial _ =>
    Reads.field ScheduleRequest.workload (ByteReader.str_decodes _) fun workload _ =>
    Reads.field ScheduleRequest.tenant (ByteReader.str_decodes _) fun tenant _ =>
    Reads.field ScheduleRequest.priority readPriority_decodes fun priority _ =>
    Reads.field ScheduleRequest.requirements (readList_decodes (readRequirement_decodes limits) _) fun requirements _ =>
    Reads.field ScheduleRequest.affinity (readItems_decodes readConstraint_decodes _) fun affinity _ =>
    Reads.field ScheduleRequest.antiAffinity (readItems_decodes readConstraint_decodes _) fun antiAffinity _ =>
    Reads.field ScheduleRequest.experimentAntiAffinity ByteReader.boolean_decodes fun experimentAntiAffinity _ =>
    Reads.field ScheduleRequest.exclusive ByteReader.boolean_decodes fun exclusive _ =>
    Reads.field ScheduleRequest.reproducibilityRequired ByteReader.boolean_decodes fun reproducibilityRequired _ =>
    Reads.field ScheduleRequest.allowPreemption ByteReader.boolean_decodes fun allowPreemption _ =>
    Reads.field ScheduleRequest.maxReassignments (readReassignments_decodes _) fun maxReassignments _ =>
    Reads.field ScheduleRequest.weights readWeights_decodes fun weights _ =>
    Reads.field ScheduleRequest.callerAuthority (ByteReader.str_decodes _) fun callerAuthority _ =>
    Reads.field ScheduleRequest.requestProvenance (ByteReader.str_decodes _) fun requestProvenance _ =>
    Reads.done (w := {
      id, experiment, experimentGeneration, trial, workload, tenant, priority, requirements, affinity, antiAffinity,
      experimentAntiAffinity, exclusive, reproducibilityRequired, allowPreemption, maxReassignments, weights,
      callerAuthority, requestProvenance }) (fun request => ?_) rfl)
    fun _ => by simp [requestFits_iff, and_assoc]
  cases request
  simp [and_assoc]

def sortedStored (stored : StoredRequest) : StoredRequest := { stored with request := sortedRequest stored.request }

@[mk_iff] structure StoredFits (limits : Limits) (stored : StoredRequest) : Prop where
  request : RequestFits limits stored.request
  detail : stored.detail.length ≤ limits.maxStringLength.toNat

theorem readStoredRequest_decodes (limits : Limits) :
    Decodes writeStoredRequest sortedStored (readStoredRequest limits) (StoredFits limits) := by
  refine Decodes.congr (Reads.decodes <|
    Reads.field StoredRequest.request (readRequest_decodes limits) fun request _ =>
    Reads.field StoredRequest.state readEnum_decodes fun state _ =>
    Reads.field StoredRequest.submittedSequence ByteReader.u64_decodes fun submittedSequence _ =>
    Reads.field StoredRequest.currentPlacement readId_decodes fun currentPlacement _ =>
    Reads.field StoredRequest.placementCount ByteReader.u32_decodes fun placementCount _ =>
    Reads.field StoredRequest.detail (ByteReader.str_decodes _) fun detail _ =>
    Reads.done (w := {
      request, state, submittedSequence, currentPlacement, placementCount, detail }) (fun stored => ?_) rfl)
    fun _ => by simp [storedFits_iff]
  cases stored
  simp [and_assoc]

end Requests

section Placements

@[mk_iff] structure SelectedFits (limits : Limits) (selected : SelectedResource) : Prop where
  requirementName : selected.requirementName.length ≤ limits.maxStringLength.toNat
  resourceName : selected.resourceName.length ≤ limits.maxStringLength.toNat

theorem readSelected_decodes (limits : Limits) :
    Decodes writeSelected id (readSelected limits) (SelectedFits limits) := by
  refine Decodes.congr (Reads.decodes <|
    Reads.field SelectedResource.resource readId_decodes fun _ _ =>
    Reads.field SelectedResource.resourceClass readEnum_decodes fun _ _ =>
    Reads.field SelectedResource.generation readId_decodes fun _ _ =>
    Reads.field SelectedResource.slots ByteReader.u32_decodes fun _ _ =>
    Reads.field SelectedResource.exclusive ByteReader.boolean_decodes fun _ _ =>
    Reads.field SelectedResource.requirementName (ByteReader.str_decodes _) fun _ _ =>
    Reads.field SelectedResource.worker readId_decodes fun _ _ =>
    Reads.field SelectedResource.workerBoot readId_decodes fun _ _ =>
    Reads.field SelectedResource.resourceName (ByteReader.str_decodes _) fun _ _ =>
    Reads.done (fun selected => ?_) rfl) fun _ => by simp [selectedFits_iff]
  cases selected
  simp [and_assoc]

@[mk_iff] structure PlacementFits (limits : Limits) (placement : PlacementRecord) : Prop where
  resources : placement.resources.length ≤ limits.maxRequirementsPerRequest.toNat
  selected : ∀ selected ∈ placement.resources, SelectedFits limits selected
  reassignmentCount : placement.reassignmentCount ≤ 16
  detail : placement.detail.length ≤ limits.maxStringLength.toNat
  completionDetail : placement.completionDetail.length ≤ limits.maxStringLength.toNat

theorem readPlacement_decodes (limits : Limits) :
    Decodes writePlacement id (readPlacement limits) (PlacementFits limits) := by
  refine Decodes.congr (Reads.decodes <|
    Reads.field PlacementRecord.id readId_decodes fun _ _ =>
    Reads.field PlacementRecord.generation readId_decodes fun _ _ =>
    Reads.field PlacementRecord.request readId_decodes fun _ _ =>
    Reads.field PlacementRecord.decision readId_decodes fun _ _ =>
    Reads.field PlacementRecord.experiment readId_decodes fun _ _ =>
    Reads.field PlacementRecord.experimentGeneration readId_decodes fun _ _ =>
    Reads.field PlacementRecord.trial readId_decodes fun _ _ =>
    Reads.field PlacementRecord.epoch readId_decodes fun _ _ =>
    Reads.field PlacementRecord.resources (readItems_decodes (readSelected_decodes limits) _) fun _ _ =>
    Reads.field PlacementRecord.reservation readId_decodes fun _ _ =>
    Reads.field PlacementRecord.lease readId_decodes fun _ _ =>
    Reads.field PlacementRecord.worker readId_decodes fun _ _ =>
    Reads.field PlacementRecord.workerBoot readId_decodes fun _ _ =>
    Reads.field PlacementRecord.state readEnum_decodes fun _ _ =>
    Reads.field PlacementRecord.reassignmentCount (readReassignments_decodes _) fun _ _ =>
    Reads.field PlacementRecord.completionRecorded ByteReader.boolean_decodes fun _ _ =>
    Reads.field PlacementRecord.detail (ByteReader.str_decodes _) fun _ _ =>
    Reads.field PlacementRecord.transitionSequence ByteReader.u64_decodes fun _ _ =>
    Reads.field PlacementRecord.completionDetail (ByteReader.str_decodes _) fun _ _ =>
    Reads.done (fun placement => ?_) rfl) fun _ => by simp [placementFits_iff, and_assoc]
  cases placement
  simp [and_assoc]

theorem readClaim_decodes :
    Decodes writeClaim id readClaim (fun _ => True) := by
  refine Decodes.congr (Reads.decodes <|
    Reads.field ReservationClaim.resource readId_decodes fun _ _ =>
    Reads.field ReservationClaim.slots ByteReader.u32_decodes fun _ _ =>
    Reads.field ReservationClaim.exclusive ByteReader.boolean_decodes fun _ _ =>
    Reads.field ReservationClaim.generationAtAcquire readId_decodes fun _ _ =>
    Reads.done (fun claim => ?_) rfl) fun _ => by simp
  cases claim
  simp [and_assoc]

@[mk_iff] structure ReservationFits (limits : Limits) (reservation : ReservationRecord) : Prop where
  claims : reservation.claims.length ≤ limits.maxRequirementsPerRequest.toNat
  detail : reservation.detail.length ≤ limits.maxStringLength.toNat

theorem readReservation_decodes (limits : Limits) :
    Decodes writeReservation id (readReservation limits) (ReservationFits limits) := by
  refine Decodes.congr (Reads.decodes <|
    Reads.field ReservationRecord.id readId_decodes fun _ _ =>
    Reads.field ReservationRecord.lease readId_decodes fun _ _ =>
    Reads.field ReservationRecord.placement readId_decodes fun _ _ =>
    Reads.field ReservationRecord.placementGeneration readId_decodes fun _ _ =>
    Reads.field ReservationRecord.request readId_decodes fun _ _ =>
    Reads.field ReservationRecord.experiment readId_decodes fun _ _ =>
    Reads.field ReservationRecord.experimentGeneration readId_decodes fun _ _ =>
    Reads.field ReservationRecord.epoch readId_decodes fun _ _ =>
    Reads.field ReservationRecord.claims (readItems_decodes readClaim_decodes _) fun _ _ =>
    Reads.field ReservationRecord.state readEnum_decodes fun _ _ =>
    Reads.field ReservationRecord.acquireSequence ByteReader.u64_decodes fun _ _ =>
    Reads.field ReservationRecord.detail (ByteReader.str_decodes _) fun _ _ =>
    Reads.done (fun reservation => ?_) rfl) fun _ => by simp [reservationFits_iff]
  cases reservation
  simp [and_assoc]

@[mk_iff] structure AuthorityFits (limits : Limits) (authority : AuthorityEnvelope) : Prop where
  resources : authority.resources.length ≤ limits.maxRequirementsPerRequest.toNat
  selected : ∀ selected ∈ authority.resources, SelectedFits limits selected

theorem readAuthorityEnvelope_decodes (limits : Limits) :
    Decodes writeAuthorityEnvelope id (readAuthorityEnvelope limits) (AuthorityFits limits) := by
  refine Decodes.congr (Reads.decodes <|
    Reads.field AuthorityEnvelope.request readId_decodes fun _ _ =>
    Reads.field AuthorityEnvelope.experiment readId_decodes fun _ _ =>
    Reads.field AuthorityEnvelope.experimentGeneration readId_decodes fun _ _ =>
    Reads.field AuthorityEnvelope.placement readId_decodes fun _ _ =>
    Reads.field AuthorityEnvelope.placementGeneration readId_decodes fun _ _ =>
    Reads.field AuthorityEnvelope.epoch readId_decodes fun _ _ =>
    Reads.field AuthorityEnvelope.lease readId_decodes fun _ _ =>
    Reads.field AuthorityEnvelope.reservation readId_decodes fun _ _ =>
    Reads.field AuthorityEnvelope.worker readId_decodes fun _ _ =>
    Reads.field AuthorityEnvelope.workerBoot readId_decodes fun _ _ =>
    Reads.field AuthorityEnvelope.resources (readItems_decodes (readSelected_decodes limits) _) fun _ _ =>
    Reads.done (fun authority => ?_) rfl) fun _ => by simp [authorityFits_iff]
  cases authority
  simp [and_assoc]

end Placements

section Canonical

structure CanonicalDescription (description : Description) : Prop where
  capabilities : CanonicalSet description.capabilities
  modalities : ∀ model ∈ description.model, CanonicalSet model.modalities

def CanonicalRequest (request : ScheduleRequest) : Prop :=
  ∀ requirement ∈ request.requirements, CanonicalSet requirement.requiredCapabilities

theorem CanonicalDescription.sorted_eq {description : Description} (canonical : CanonicalDescription description) :
    sortedDescription description = description := by
  have capabilities := canonical.capabilities.sortedSet_eq
  have model : description.model.map sortedModel = description.model := by
    have each : ∀ model ∈ description.model, sortedModel model = model := by
      intro model present
      unfold sortedModel
      rw [(canonical.modalities model present).sortedSet_eq]
    cases present : description.model with
    | none => rfl
    | some model => exact congrArg some (each model present)
  unfold sortedDescription
  rw [capabilities, model]

theorem CanonicalRequest.sorted_eq {request : ScheduleRequest} (canonical : CanonicalRequest request) :
    sortedRequest request = request := by
  have requirements : request.requirements.map sortedRequirement = request.requirements := by
    have each : ∀ requirement ∈ request.requirements, sortedRequirement requirement = id requirement := by
      intro requirement member
      unfold sortedRequirement
      rw [(canonical requirement member).sortedSet_eq]
      rfl
    exact (List.map_congr_left each).trans (List.map_id _)
  unfold sortedRequest
  rw [requirements]

end Canonical

end RecordCodec

namespace Bench

open RecordCodec

theorem listed_nil {α : Type} [LT α] (maximum : UInt32) : Listed maximum ([] : List α) :=
  ⟨Nat.zero_le _, List.IsChain.nil⟩

theorem bare_fits {description : Description}
    (bare : description =
      { id := description.id, name := ascii "bench", worker := description.worker, boot := description.boot
        capacity := description.capacity, health := description.health, readiness := description.readiness
        labels := description.labels })
    (label : ∀ label ∈ description.labels, label.length ≤ 256) (labels : Listed 64 description.labels) :
    DescriptionFits {} description := by
  rw [bare]
  constructor
  case name => exact Nat.le_of_ble_eq_true rfl
  case capabilities => exact ⟨Nat.zero_le _, fun _ member => absurd member List.not_mem_nil, List.nodup_nil⟩
  case topology => exact fun scope => by cases scope <;> exact Nat.zero_le _
  case locality => exact ⟨listed_nil _, listed_nil _, listed_nil _⟩
  case accelerator => exact fun _ member => absurd member List.not_mem_nil
  case label => exact label
  case labels => exact labels
  case model => exact fun _ present => absurd present (Option.not_mem_none _)
  case simulator => exact fun _ present => absurd present (Option.not_mem_none _)
  case dataset => exact fun _ present => absurd present (Option.not_mem_none _)
  case environment => exact fun _ present => absurd present (Option.not_mem_none _)
  all_goals exact Nat.zero_le _

end Bench

end LabScheduler
