import LabScheduler.Codec.Bytes
import LabScheduler.Durable

namespace LabScheduler

open Foundation

/-- An enumeration whose enumerators are numbered from zero. -/
class Enumerated (α : Type) [DecidableEq α] where
  values : List α
  complete : ∀ value, value ∈ values
  distinct : values.Nodup
  small : values.length ≤ 256

instance : Enumerated ResourceClass where
  values := [.model, .gpu, .simulator, .dataset, .physicalEnvironment, .virtualEnvironment, .worker]
  complete value := by cases value <;> decide
  distinct := by decide
  small := by decide

instance : Enumerated SharingMode where
  values := [.shared, .exclusive]
  complete value := by cases value <;> decide
  distinct := by decide
  small := by decide

instance : Enumerated HealthState where
  values := [.unknown, .healthy, .degraded, .unhealthy]
  complete value := by cases value <;> decide
  distinct := by decide
  small := by decide

instance : Enumerated ReadinessState where
  values := [.unknown, .ready, .notReady, .unsupported]
  complete value := by cases value <;> decide
  distinct := by decide
  small := by decide

instance : Enumerated Provenance where
  values := [.unsupported, .synthetic, .real]
  complete value := by cases value <;> decide
  distinct := by decide
  small := by decide

instance : Enumerated ResourceLifecycle where
  values := [.registered, .current, .retired, .lost]
  complete value := by cases value <;> decide
  distinct := by decide
  small := by decide

instance : Enumerated TopologyScope where
  values := [.host, .numaDomain, .rootComplex, .rack, .cluster]
  complete value := by cases value <;> decide
  distinct := by decide
  small := by decide

instance : Enumerated RequestState where
  values := [.submitted, .placed, .completed, .failed, .cancelled, .noPlacement]
  complete value := by cases value <;> decide
  distinct := by decide
  small := by decide

instance : Enumerated PlacementState where
  values := [.reserved, .assigned, .running, .completed, .failed, .cancelled, .preempted, .reassignmentRequired, .lost]
  complete value := by cases value <;> decide
  distinct := by decide
  small := by decide

instance : Enumerated ReservationState where
  values := [.active, .released, .revoked]
  complete value := by cases value <;> decide
  distinct := by decide
  small := by decide

namespace RecordCodec

def require (condition : Prop) [Decidable condition] (message : Text) : Decoder Unit :=
  Reader.check (check condition .corruptPersistence message)

def writeId {kind : IdKind} (id : StrongId kind) : Bytes := ByteWriter.u64 id.value

def readId {kind : IdKind} : Decoder (StrongId kind) := do
  let value ← ByteReader.u64
  return ⟨value⟩

/-- `write_enum` of the enumerator's number. -/
def writeEnum {α : Type} [DecidableEq α] [Enumerated α] (value : α) : Bytes :=
  ByteWriter.u8 (UInt8.ofNat ((Enumerated.values : List α).idxOf value))

/-- `read_enum` up to the last enumerator. -/
def readEnum {α : Type} [DecidableEq α] [Enumerated α] : Decoder α := do
  let raw ← ByteReader.u8
  match (Enumerated.values : List α)[raw.toNat]? with
  | none => Reader.check (fail .corruptPersistence (ascii "persisted enum value is out of range"))
  | some value => return value

def writeList {α : Type} (write : α → Bytes) (items : List α) : Bytes :=
  [ByteWriter.u32 (lengthU32 items), (items.map write).flatten].flatten

/-- A bounded count, and as many items, each added to what the items before it made. -/
def readInto {α γ : Type} (read : Decoder α) (add : γ → α → Except Status γ) (maximum : UInt32) (empty : γ) :
    Decoder γ := do
  let count ← ByteReader.count maximum
  Reader.loop read add count.toNat empty

def readList {α : Type} (read : Decoder α) (maximum : UInt32) : Decoder (List α) :=
  readInto read (fun items item => .ok (items ++ [item])) maximum []

/-- `push_back` after the test against `previous`. -/
def appendOrdered {α : Type} [LinearOrder α] (message : Text) (items : List α) (item : α) : Except Status (List α) := do
  check (∀ previous ∈ items.getLast?, previous < item) .corruptPersistence message
  return items ++ [item]

def writeIdList {kind : IdKind} (ids : List (StrongId kind)) : Bytes := writeList writeId ids

def readIdList {kind : IdKind} (maximum : UInt32) : Decoder (List (StrongId kind)) :=
  readInto readId (appendOrdered (ascii "persisted identity list is not canonically ordered")) maximum []

def writeStringList (values : List Text) : Bytes := writeList ByteWriter.str values

def readStringList (maximum maximumLength : UInt32) : Decoder (List Text) :=
  readInto (ByteReader.str maximumLength)
    (appendOrdered (ascii "persisted string list is not canonically ordered")) maximum []

def writeOptional {α : Type} (write : α → Bytes) (value : Option α) : Bytes :=
  [ByteWriter.boolean value.isSome, (value.map write).getD []].flatten

def readPresent {α : Type} (read : Decoder α) (present : Bool) : Decoder (Option α) :=
  if present then some <$> read else return none

def readOptional {α : Type} (read : Decoder α) : Decoder (Option α) := do
  let present ← ByteReader.boolean
  readPresent read present

def writeLimits (limits : Limits) : Bytes :=
  [ByteWriter.u32 limits.maxResources, ByteWriter.u32 limits.maxCapabilitiesPerResource,
    ByteWriter.u32 limits.maxAcceleratorsPerResource, ByteWriter.u32 limits.maxLocalDatasetsPerResource,
    ByteWriter.u32 limits.maxResidentModelsPerResource, ByteWriter.u32 limits.maxSimulatorScenarios,
    ByteWriter.u32 limits.maxRetainedRequests, ByteWriter.u32 limits.maxActiveRequests,
    ByteWriter.u32 limits.maxRequirementsPerRequest, ByteWriter.u32 limits.maxAllowlistEntries,
    ByteWriter.u32 limits.maxDenylistEntries, ByteWriter.u32 limits.maxAntiAffinityPairs,
    ByteWriter.u32 limits.maxAffinityGroups, ByteWriter.u32 limits.maxCandidateResourcesPerRequirement,
    ByteWriter.u32 limits.maxCandidatesEvaluated, ByteWriter.u32 limits.maxCandidatesRanked,
    ByteWriter.u32 limits.maxRejectedEntriesPerRequirement, ByteWriter.u32 limits.maxRejectionReasonsPerEntry,
    ByteWriter.u32 limits.maxRankingFactors, ByteWriter.u32 limits.maxPlacements,
    ByteWriter.u32 limits.maxActivePlacements, ByteWriter.u32 limits.maxReservations,
    ByteWriter.u32 limits.maxActiveReservations, ByteWriter.u32 limits.maxPlacementHistoryPerUnit,
    ByteWriter.u32 limits.maxAuditRecords, ByteWriter.u32 limits.maxTopologyRecords,
    ByteWriter.u32 limits.maxTopologyDepth, ByteWriter.u32 limits.maxStringLength,
    ByteWriter.u32 limits.maxDigestLength, ByteWriter.u32 limits.maxExplanationEntries,
    ByteWriter.u32 limits.maxFrameSize, ByteWriter.u32 limits.maxWorkerConnections,
    ByteWriter.u32 limits.maxInflightAssignments, ByteWriter.u32 limits.maxPersistenceRecords,
    ByteWriter.u64 limits.maxPersistenceBytes, ByteWriter.u32 limits.maxPlacementCommitAttempts].flatten

def readLimits : Decoder Limits := do
  let maxResources ← ByteReader.u32
  let maxCapabilitiesPerResource ← ByteReader.u32
  let maxAcceleratorsPerResource ← ByteReader.u32
  let maxLocalDatasetsPerResource ← ByteReader.u32
  let maxResidentModelsPerResource ← ByteReader.u32
  let maxSimulatorScenarios ← ByteReader.u32
  let maxRetainedRequests ← ByteReader.u32
  let maxActiveRequests ← ByteReader.u32
  let maxRequirementsPerRequest ← ByteReader.u32
  let maxAllowlistEntries ← ByteReader.u32
  let maxDenylistEntries ← ByteReader.u32
  let maxAntiAffinityPairs ← ByteReader.u32
  let maxAffinityGroups ← ByteReader.u32
  let maxCandidateResourcesPerRequirement ← ByteReader.u32
  let maxCandidatesEvaluated ← ByteReader.u32
  let maxCandidatesRanked ← ByteReader.u32
  let maxRejectedEntriesPerRequirement ← ByteReader.u32
  let maxRejectionReasonsPerEntry ← ByteReader.u32
  let maxRankingFactors ← ByteReader.u32
  let maxPlacements ← ByteReader.u32
  let maxActivePlacements ← ByteReader.u32
  let maxReservations ← ByteReader.u32
  let maxActiveReservations ← ByteReader.u32
  let maxPlacementHistoryPerUnit ← ByteReader.u32
  let maxAuditRecords ← ByteReader.u32
  let maxTopologyRecords ← ByteReader.u32
  let maxTopologyDepth ← ByteReader.u32
  let maxStringLength ← ByteReader.u32
  let maxDigestLength ← ByteReader.u32
  let maxExplanationEntries ← ByteReader.u32
  let maxFrameSize ← ByteReader.u32
  let maxWorkerConnections ← ByteReader.u32
  let maxInflightAssignments ← ByteReader.u32
  let maxPersistenceRecords ← ByteReader.u32
  let maxPersistenceBytes ← ByteReader.u64
  let maxPlacementCommitAttempts ← ByteReader.u32
  return {
    maxResources, maxCapabilitiesPerResource, maxAcceleratorsPerResource, maxLocalDatasetsPerResource,
    maxResidentModelsPerResource, maxSimulatorScenarios, maxRetainedRequests, maxActiveRequests,
    maxRequirementsPerRequest, maxAllowlistEntries, maxDenylistEntries, maxAntiAffinityPairs, maxAffinityGroups,
    maxCandidateResourcesPerRequirement, maxCandidatesEvaluated, maxCandidatesRanked,
    maxRejectedEntriesPerRequirement, maxRejectionReasonsPerEntry, maxRankingFactors, maxPlacements,
    maxActivePlacements, maxReservations, maxActiveReservations, maxPlacementHistoryPerUnit, maxAuditRecords,
    maxTopologyRecords, maxTopologyDepth, maxStringLength, maxDigestLength, maxExplanationEntries, maxFrameSize,
    maxWorkerConnections, maxInflightAssignments, maxPersistenceRecords, maxPersistenceBytes,
    maxPlacementCommitAttempts }

def writeWeights (weights : RankingWeights) : Bytes :=
  (RankingFactor.all.map fun factor => ByteWriter.u32 (weights factor).toUInt32).flatten

/-- The loop of `read_weights`, over the factors that are left. -/
def readWeightsOf : List RankingFactor → RankingWeights → Decoder RankingWeights
  | [], weights => return weights
  | factor :: rest, weights => do
    let raw ← ByteReader.u32
    require (¬ (raw.toInt32.toInt < -1000 ∨ 1000 < raw.toInt32.toInt)) (ascii "persisted ranking weight is out of range")
    readWeightsOf rest fun other => if other = factor then raw.toInt32 else weights other

def readWeights : Decoder RankingWeights := readWeightsOf RankingFactor.all RankingWeights.default

def writeTopologyDomain (domain : TopologyDomain) : Bytes :=
  [writeId domain.id, ByteWriter.str domain.name].flatten

def readTopologyDomain (maximum : UInt32) : Decoder TopologyDomain := do
  let id ← readId
  let name ← ByteReader.str maximum
  return { id, name }

def writeTopology (topology : TopologyDescriptor) : Bytes :=
  [writeTopologyDomain topology.host, writeTopologyDomain topology.numa, writeTopologyDomain topology.rootComplex,
    writeTopologyDomain topology.rack, writeTopologyDomain topology.cluster,
    ByteWriter.boolean topology.supplied].flatten

def readTopology (maximum : UInt32) : Decoder TopologyDescriptor := do
  let host ← readTopologyDomain maximum
  let numa ← readTopologyDomain maximum
  let rootComplex ← readTopologyDomain maximum
  let rack ← readTopologyDomain maximum
  let cluster ← readTopologyDomain maximum
  let supplied ← ByteReader.boolean
  return { host, numa, rootComplex, rack, cluster, supplied }

def writeCapability (capability : Capability) : Bytes :=
  [writeId capability.id, ByteWriter.str capability.name].flatten

def readCapability : Decoder Capability := do
  let id ← readId
  let name ← ByteReader.str 64
  require (capabilityIdFromName name = id) (ascii "persisted capability identity does not match its name")
  return { id, name }

def writeCapabilities (capabilities : CapabilitySet) : Bytes := writeList writeCapability capabilities.entries

def readCapabilities (limits : Limits) : Decoder CapabilitySet :=
  readInto readCapability (fun capabilities capability => capabilities.add capability limits)
    limits.maxCapabilitiesPerResource {}

def writeAccelerator (accelerator : AcceleratorAttachment) : Bytes :=
  [writeId accelerator.id, ByteWriter.str accelerator.model, ByteWriter.u64 accelerator.memoryBytes,
    ByteWriter.u32 accelerator.computeCapabilityMajor, ByteWriter.u32 accelerator.computeCapabilityMinor,
    writeId accelerator.rootComplex].flatten

def readAccelerator (limits : Limits) : Decoder AcceleratorAttachment := do
  let id ← readId
  let model ← ByteReader.str limits.maxStringLength
  let memoryBytes ← ByteReader.u64
  let computeCapabilityMajor ← ByteReader.u32
  let computeCapabilityMinor ← ByteReader.u32
  let rootComplex ← readId
  return { id, model, memoryBytes, computeCapabilityMajor, computeCapabilityMinor, rootComplex }

def writeLocality (locality : LocalityDescriptor) : Bytes :=
  [writeIdList locality.localDatasetVersions, writeIdList locality.residentModels,
    writeIdList locality.colocatedSimulators].flatten

def readLocality (limits : Limits) : Decoder LocalityDescriptor := do
  let localDatasetVersions ← readIdList limits.maxLocalDatasetsPerResource
  let residentModels ← readIdList limits.maxResidentModelsPerResource
  let colocatedSimulators ← readIdList limits.maxSimulatorScenarios
  return { localDatasetVersions, residentModels, colocatedSimulators }

def writeModel (model : ModelDescriptor) : Bytes :=
  [writeId model.id, ByteWriter.str model.version, ByteWriter.u32 model.contextWindow,
    ByteWriter.boolean model.toolSupport, ByteWriter.boolean model.resident, writeCapabilities model.modalities].flatten

def readModel (limits : Limits) : Decoder ModelDescriptor := do
  let id ← readId
  let version ← ByteReader.str limits.maxDigestLength
  let contextWindow ← ByteReader.u32
  let toolSupport ← ByteReader.boolean
  let resident ← ByteReader.boolean
  let modalities ← readCapabilities limits
  return { id, version, contextWindow, toolSupport, resident, modalities }

def writeSimulator (simulator : SimulatorDescriptor) : Bytes :=
  [writeId simulator.id, ByteWriter.str simulator.version, writeStringList simulator.scenarios,
    ByteWriter.u32 simulator.maxSessions].flatten

def readSimulator (limits : Limits) : Decoder SimulatorDescriptor := do
  let id ← readId
  let version ← ByteReader.str limits.maxDigestLength
  let scenarios ← readStringList limits.maxSimulatorScenarios limits.maxStringLength
  let maxSessions ← ByteReader.u32
  return { id, version, scenarios, maxSessions }

def writeDataset (dataset : DatasetDescriptor) : Bytes :=
  [writeId dataset.id, writeId dataset.version, ByteWriter.str dataset.digest, ByteWriter.u64 dataset.sizeBytes].flatten

def readDataset (limits : Limits) : Decoder DatasetDescriptor := do
  let id ← readId
  let version ← readId
  let digest ← ByteReader.str limits.maxDigestLength
  let sizeBytes ← ByteReader.u64
  return { id, version, digest, sizeBytes }

def writeEnvironment (environment : EnvironmentDescriptor) : Bytes :=
  [writeId environment.id, ByteWriter.str environment.imageDigest, writeId environment.virtualEnvironment,
    writeId environment.physicalEnvironment, ByteWriter.str environment.eligibilityToken].flatten

def readEnvironment (limits : Limits) : Decoder EnvironmentDescriptor := do
  let id ← readId
  let imageDigest ← ByteReader.str limits.maxDigestLength
  let virtualEnvironment ← readId
  let physicalEnvironment ← readId
  let eligibilityToken ← ByteReader.str limits.maxStringLength
  return { id, imageDigest, virtualEnvironment, physicalEnvironment, eligibilityToken }

def writeResource (resource : ResourceRecord) : Bytes :=
  [writeId resource.id, writeEnum resource.resourceClass, ByteWriter.str resource.name, writeId resource.worker,
    writeId resource.boot, writeEnum resource.provenance, writeEnum resource.sharing,
    writeCapabilities resource.capabilities, ByteWriter.u32 resource.capacity.slots,
    ByteWriter.u64 resource.capacity.memoryBytes, ByteWriter.u32 resource.capacity.maxSessions,
    ByteWriter.u32 resource.advertisedOccupancy, writeEnum resource.health, ByteWriter.str resource.healthDetail,
    writeEnum resource.readiness, writeTopology resource.topology, writeLocality resource.locality,
    writeList writeAccelerator resource.accelerators, writeOptional writeModel resource.model,
    writeOptional writeSimulator resource.simulator, writeOptional writeDataset resource.dataset,
    writeOptional writeEnvironment resource.environment, ByteWriter.str resource.tenant,
    writeStringList resource.labels, writeEnum resource.lifecycle, writeId resource.generation,
    writeId resource.healthGeneration, writeId resource.capacityGeneration, ByteWriter.u64 resource.stateSequence,
    writeId resource.validatedEpoch, ByteWriter.boolean resource.dynamicAuthoritative,
    ByteWriter.str resource.authorityDetail, ByteWriter.u32 resource.reservedSlots].flatten

def readResource (limits : Limits) : Decoder ResourceRecord := do
  let id ← readId
  let resourceClass ← readEnum
  let name ← ByteReader.str limits.maxStringLength
  let worker ← readId
  let boot ← readId
  let provenance ← readEnum
  let sharing ← readEnum
  let capabilities ← readCapabilities limits
  let slots ← ByteReader.u32
  let memoryBytes ← ByteReader.u64
  let maxSessions ← ByteReader.u32
  let advertisedOccupancy ← ByteReader.u32
  let health ← readEnum
  let healthDetail ← ByteReader.str limits.maxStringLength
  let readiness ← readEnum
  let topology ← readTopology limits.maxStringLength
  let locality ← readLocality limits
  let accelerators ← readList (readAccelerator limits) limits.maxAcceleratorsPerResource
  let model ← readOptional (readModel limits)
  let simulator ← readOptional (readSimulator limits)
  let dataset ← readOptional (readDataset limits)
  let environment ← readOptional (readEnvironment limits)
  let tenant ← ByteReader.str limits.maxStringLength
  let labels ← readStringList limits.maxCapabilitiesPerResource limits.maxStringLength
  let lifecycle ← readEnum
  let generation ← readId
  let healthGeneration ← readId
  let capacityGeneration ← readId
  let stateSequence ← ByteReader.u64
  let validatedEpoch ← readId
  let dynamicAuthoritative ← ByteReader.boolean
  let authorityDetail ← ByteReader.str limits.maxStringLength
  let reservedSlots ← ByteReader.u32
  return {
    id, resourceClass, name, worker, boot, provenance, sharing, capabilities,
    capacity := { slots, memoryBytes, maxSessions }
    advertisedOccupancy, health, healthDetail, readiness, topology, locality, accelerators, model, simulator, dataset,
    environment, tenant, labels, lifecycle, generation, healthGeneration, capacityGeneration, stateSequence,
    validatedEpoch, dynamicAuthoritative, authorityDetail, reservedSlots }

def writeRequirement (requirement : ResourceRequirement) : Bytes :=
  [ByteWriter.str requirement.name, writeEnum requirement.resourceClass,
    writeCapabilities requirement.requiredCapabilities, ByteWriter.u32 requirement.minSlots,
    ByteWriter.u64 requirement.minMemoryBytes, ByteWriter.boolean requirement.requireExclusive,
    ByteWriter.boolean requirement.requireCurrentEvidence, writeEnum requirement.minimumHealth,
    ByteWriter.u32 requirement.maxOccupancyPercent, writeOptional writeId requirement.accelerator,
    writeOptional writeId requirement.model, ByteWriter.str requirement.modelVersion,
    ByteWriter.boolean requirement.requireModelResident, writeOptional writeId requirement.simulator,
    ByteWriter.str requirement.simulatorVersion, ByteWriter.str requirement.simulatorScenario,
    ByteWriter.boolean requirement.requireSimulatorReady, writeOptional writeId requirement.dataset,
    writeOptional writeId requirement.datasetVersion, writeOptional writeId requirement.environment,
    ByteWriter.str requirement.environmentDigest, writeOptional writeId requirement.physicalEnvironment,
    writeOptional writeId requirement.virtualEnvironment, writeOptional writeId requirement.requiredDomain,
    writeEnum requirement.requiredDomainScope, writeIdList requirement.allowlist, writeIdList requirement.denylist,
    ByteWriter.u32 requirement.affinityGroup].flatten

def readRequirement (limits : Limits) : Decoder ResourceRequirement := do
  let name ← ByteReader.str limits.maxStringLength
  let resourceClass ← readEnum
  let requiredCapabilities ← readCapabilities limits
  let minSlots ← ByteReader.u32
  let minMemoryBytes ← ByteReader.u64
  let requireExclusive ← ByteReader.boolean
  let requireCurrentEvidence ← ByteReader.boolean
  let minimumHealth ← readEnum
  let maxOccupancyPercent ← ByteReader.u32
  let accelerator ← readOptional readId
  let model ← readOptional readId
  let modelVersion ← ByteReader.str limits.maxDigestLength
  let requireModelResident ← ByteReader.boolean
  let simulator ← readOptional readId
  let simulatorVersion ← ByteReader.str limits.maxDigestLength
  let simulatorScenario ← ByteReader.str limits.maxStringLength
  let requireSimulatorReady ← ByteReader.boolean
  let dataset ← readOptional readId
  let datasetVersion ← readOptional readId
  let environment ← readOptional readId
  let environmentDigest ← ByteReader.str limits.maxDigestLength
  let physicalEnvironment ← readOptional readId
  let virtualEnvironment ← readOptional readId
  let requiredDomain ← readOptional readId
  let requiredDomainScope ← readEnum
  let allowlist ← readIdList limits.maxAllowlistEntries
  let denylist ← readIdList limits.maxDenylistEntries
  let affinityGroup ← ByteReader.u32
  return {
    name, resourceClass, requiredCapabilities, minSlots, minMemoryBytes, requireExclusive, requireCurrentEvidence,
    minimumHealth, maxOccupancyPercent, accelerator, model, modelVersion, requireModelResident, simulator,
    simulatorVersion, simulatorScenario, requireSimulatorReady, dataset, datasetVersion, environment,
    environmentDigest, physicalEnvironment, virtualEnvironment, requiredDomain, requiredDomainScope, allowlist,
    denylist, affinityGroup }

def writeConstraint (constraint : GroupConstraint) : Bytes :=
  [ByteWriter.u32 constraint.groupA, ByteWriter.u32 constraint.groupB, writeEnum constraint.scope].flatten

def readConstraint : Decoder GroupConstraint := do
  let groupA ← ByteReader.u32
  let groupB ← ByteReader.u32
  let scope ← readEnum
  return { groupA, groupB, scope }

def writePriority (priority : Int32) : Bytes := ByteWriter.u32 (priority + 2000).toUInt32

def readPriority : Decoder Int32 := do
  let raw ← ByteReader.u32
  require (¬ (raw < 1000 ∨ 3000 < raw)) (ascii "persisted priority is out of range")
  return raw.toInt32 - 2000

def readReassignments (message : Text) : Decoder UInt32 := do
  let count ← ByteReader.u32
  require (¬ 16 < count) message
  return count

def writeRequest (request : ScheduleRequest) : Bytes :=
  [writeId request.id, writeId request.experiment, writeId request.experimentGeneration, writeId request.trial,
    ByteWriter.str request.workload, ByteWriter.str request.tenant, writePriority request.priority,
    writeList writeRequirement request.requirements, writeList writeConstraint request.affinity,
    writeList writeConstraint request.antiAffinity, ByteWriter.boolean request.experimentAntiAffinity,
    ByteWriter.boolean request.exclusive, ByteWriter.boolean request.reproducibilityRequired,
    ByteWriter.boolean request.allowPreemption, ByteWriter.u32 request.maxReassignments,
    writeWeights request.weights, ByteWriter.str request.callerAuthority,
    ByteWriter.str request.requestProvenance].flatten

def readRequest (limits : Limits) : Decoder ScheduleRequest := do
  let id ← readId
  let experiment ← readId
  let experimentGeneration ← readId
  let trial ← readId
  let workload ← ByteReader.str limits.maxStringLength
  let tenant ← ByteReader.str limits.maxStringLength
  let priority ← readPriority
  let requirements ← readList (readRequirement limits) limits.maxRequirementsPerRequest
  let affinity ← readList readConstraint limits.maxAntiAffinityPairs
  let antiAffinity ← readList readConstraint limits.maxAntiAffinityPairs
  let experimentAntiAffinity ← ByteReader.boolean
  let exclusive ← ByteReader.boolean
  let reproducibilityRequired ← ByteReader.boolean
  let allowPreemption ← ByteReader.boolean
  let maxReassignments ← readReassignments (ascii "persisted reassignment budget is implausible")
  let weights ← readWeights
  let callerAuthority ← ByteReader.str limits.maxStringLength
  let requestProvenance ← ByteReader.str limits.maxStringLength
  return {
    id, experiment, experimentGeneration, trial, workload, tenant, priority, requirements, affinity, antiAffinity,
    experimentAntiAffinity, exclusive, reproducibilityRequired, allowPreemption, maxReassignments, weights,
    callerAuthority, requestProvenance }

def writeStoredRequest (stored : StoredRequest) : Bytes :=
  [writeRequest stored.request, writeEnum stored.state, ByteWriter.u64 stored.submittedSequence,
    writeId stored.currentPlacement, ByteWriter.u32 stored.placementCount, ByteWriter.str stored.detail].flatten

def readStoredRequest (limits : Limits) : Decoder StoredRequest := do
  let request ← readRequest limits
  let state ← readEnum
  let submittedSequence ← ByteReader.u64
  let currentPlacement ← readId
  let placementCount ← ByteReader.u32
  let detail ← ByteReader.str limits.maxStringLength
  return { request, state, submittedSequence, currentPlacement, placementCount, detail }

def writeSelected (selected : SelectedResource) : Bytes :=
  [writeId selected.resource, writeEnum selected.resourceClass, writeId selected.generation,
    ByteWriter.u32 selected.slots, ByteWriter.boolean selected.exclusive, ByteWriter.str selected.requirementName,
    writeId selected.worker, writeId selected.workerBoot, ByteWriter.str selected.resourceName].flatten

def readSelected (limits : Limits) : Decoder SelectedResource := do
  let resource ← readId
  let resourceClass ← readEnum
  let generation ← readId
  let slots ← ByteReader.u32
  let exclusive ← ByteReader.boolean
  let requirementName ← ByteReader.str limits.maxStringLength
  let worker ← readId
  let workerBoot ← readId
  let resourceName ← ByteReader.str limits.maxStringLength
  return { resource, resourceClass, generation, slots, exclusive, requirementName, worker, workerBoot, resourceName }

def writePlacement (placement : PlacementRecord) : Bytes :=
  [writeId placement.id, writeId placement.generation, writeId placement.request, writeId placement.decision,
    writeId placement.experiment, writeId placement.experimentGeneration, writeId placement.trial,
    writeId placement.epoch, writeList writeSelected placement.resources, writeId placement.reservation,
    writeId placement.lease, writeId placement.worker, writeId placement.workerBoot, writeEnum placement.state,
    ByteWriter.u32 placement.reassignmentCount, ByteWriter.boolean placement.completionRecorded,
    ByteWriter.str placement.detail, ByteWriter.u64 placement.transitionSequence,
    ByteWriter.str placement.completionDetail].flatten

def readPlacement (limits : Limits) : Decoder PlacementRecord := do
  let id ← readId
  let generation ← readId
  let request ← readId
  let decision ← readId
  let experiment ← readId
  let experimentGeneration ← readId
  let trial ← readId
  let epoch ← readId
  let resources ← readList (readSelected limits) limits.maxRequirementsPerRequest
  let reservation ← readId
  let lease ← readId
  let worker ← readId
  let workerBoot ← readId
  let state ← readEnum
  let reassignmentCount ← readReassignments (ascii "persisted reassignment count is implausible")
  let completionRecorded ← ByteReader.boolean
  let detail ← ByteReader.str limits.maxStringLength
  let transitionSequence ← ByteReader.u64
  let completionDetail ← ByteReader.str limits.maxStringLength
  return {
    id, generation, request, decision, experiment, experimentGeneration, trial, epoch, resources, reservation, lease,
    worker, workerBoot, state, reassignmentCount, completionRecorded, detail, transitionSequence, completionDetail }

def writeClaim (claim : ReservationClaim) : Bytes :=
  [writeId claim.resource, ByteWriter.u32 claim.slots, ByteWriter.boolean claim.exclusive,
    writeId claim.generationAtAcquire].flatten

def readClaim : Decoder ReservationClaim := do
  let resource ← readId
  let slots ← ByteReader.u32
  let exclusive ← ByteReader.boolean
  let generationAtAcquire ← readId
  return { resource, slots, exclusive, generationAtAcquire }

def writeReservation (reservation : ReservationRecord) : Bytes :=
  [writeId reservation.id, writeId reservation.lease, writeId reservation.placement,
    writeId reservation.placementGeneration, writeId reservation.request, writeId reservation.experiment,
    writeId reservation.experimentGeneration, writeId reservation.epoch, writeList writeClaim reservation.claims,
    writeEnum reservation.state, ByteWriter.u64 reservation.acquireSequence, ByteWriter.str reservation.detail].flatten

def readReservation (limits : Limits) : Decoder ReservationRecord := do
  let id ← readId
  let lease ← readId
  let placement ← readId
  let placementGeneration ← readId
  let request ← readId
  let experiment ← readId
  let experimentGeneration ← readId
  let epoch ← readId
  let claims ← readList readClaim limits.maxRequirementsPerRequest
  let state ← readEnum
  let acquireSequence ← ByteReader.u64
  let detail ← ByteReader.str limits.maxStringLength
  return {
    id, lease, placement, placementGeneration, request, experiment, experimentGeneration, epoch, claims, state,
    acquireSequence, detail }

def writeAuthorityEnvelope (authority : AuthorityEnvelope) : Bytes :=
  [writeId authority.request, writeId authority.experiment, writeId authority.experimentGeneration,
    writeId authority.placement, writeId authority.placementGeneration, writeId authority.epoch,
    writeId authority.lease, writeId authority.reservation, writeId authority.worker, writeId authority.workerBoot,
    writeList writeSelected authority.resources].flatten

def readAuthorityEnvelope (limits : Limits) : Decoder AuthorityEnvelope := do
  let request ← readId
  let experiment ← readId
  let experimentGeneration ← readId
  let placement ← readId
  let placementGeneration ← readId
  let epoch ← readId
  let lease ← readId
  let reservation ← readId
  let worker ← readId
  let workerBoot ← readId
  let resources ← readList (readSelected limits) limits.maxRequirementsPerRequest
  return {
    request, experiment, experimentGeneration, placement, placementGeneration, epoch, lease, reservation, worker,
    workerBoot, resources }

end RecordCodec

end LabScheduler
