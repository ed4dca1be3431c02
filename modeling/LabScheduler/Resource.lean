import LabScheduler.Capability
import LabScheduler.Topology
import Mathlib.Data.List.Sort

namespace LabScheduler

inductive ResourceClass
  | model
  | gpu
  | simulator
  | dataset
  | physicalEnvironment
  | virtualEnvironment
  | worker
  deriving DecidableEq

def resourceClassName : ResourceClass → Text
  | .model => ascii "MODEL"
  | .gpu => ascii "GPU"
  | .simulator => ascii "SIMULATOR"
  | .dataset => ascii "DATASET"
  | .physicalEnvironment => ascii "PHYSICAL_ENVIRONMENT"
  | .virtualEnvironment => ascii "VIRTUAL_ENVIRONMENT"
  | .worker => ascii "WORKER"

inductive SharingMode
  | shared
  | exclusive
  deriving DecidableEq

inductive HealthState
  | unknown
  | healthy
  | degraded
  | unhealthy
  deriving DecidableEq

def healthStateName : HealthState → Text
  | .unknown => ascii "UNKNOWN"
  | .healthy => ascii "HEALTHY"
  | .degraded => ascii "DEGRADED"
  | .unhealthy => ascii "UNHEALTHY"

inductive ReadinessState
  | unknown
  | ready
  | notReady
  | unsupported
  deriving DecidableEq

def readinessStateName : ReadinessState → Text
  | .unknown => ascii "UNKNOWN"
  | .ready => ascii "READY"
  | .notReady => ascii "NOT_READY"
  | .unsupported => ascii "UNSUPPORTED"

inductive Provenance
  | unsupported
  | synthetic
  | real
  deriving DecidableEq

inductive ResourceLifecycle
  | registered
  | current
  | retired
  | lost
  deriving DecidableEq

structure ResourceCapacity where
  slots : UInt32 := 1
  memoryBytes : UInt64 := 0
  maxSessions : UInt32 := 1
  deriving DecidableEq

structure AcceleratorAttachment where
  id : AcceleratorId := {}
  model : Text := []
  memoryBytes : UInt64 := 0
  computeCapabilityMajor : UInt32 := 0
  computeCapabilityMinor : UInt32 := 0
  rootComplex : TopologyDomainId := {}
  deriving DecidableEq

structure ModelDescriptor where
  id : ModelResourceId := {}
  version : Text := []
  contextWindow : UInt32 := 0
  toolSupport : Bool := false
  resident : Bool := false
  modalities : CapabilitySet := {}
  deriving DecidableEq

structure SimulatorDescriptor where
  id : SimulatorId := {}
  version : Text := []
  scenarios : List Text := []
  maxSessions : UInt32 := 1
  deriving DecidableEq

structure DatasetDescriptor where
  id : DatasetId := {}
  version : DatasetVersionId := {}
  digest : Text := []
  sizeBytes : UInt64 := 0
  deriving DecidableEq

structure EnvironmentDescriptor where
  id : EnvironmentId := {}
  imageDigest : Text := []
  virtualEnvironment : VirtualEnvironmentId := {}
  physicalEnvironment : PhysicalEnvironmentId := {}
  eligibilityToken : Text := []
  deriving DecidableEq

structure LocalityDescriptor where
  localDatasetVersions : List DatasetVersionId := []
  residentModels : List ModelResourceId := []
  colocatedSimulators : List SimulatorId := []
  deriving DecidableEq

/-- What a resource publishes about itself: the fields `ResourceAdvertisement` and
    `ResourceRecord` have in common, under the record's names. -/
structure Description where
  id : ResourceId := {}
  resourceClass : ResourceClass := .worker
  name : Text := []
  worker : WorkerId := {}
  boot : WorkerBootId := {}
  provenance : Provenance := .synthetic
  sharing : SharingMode := .shared
  capabilities : CapabilitySet := {}
  capacity : ResourceCapacity := {}
  /-- `current_occupancy` of an advertisement, `advertised_occupancy` of a record. -/
  advertisedOccupancy : UInt32 := 0
  health : HealthState := .unknown
  healthDetail : Text := []
  readiness : ReadinessState := .unknown
  topology : TopologyDescriptor := {}
  locality : LocalityDescriptor := {}
  accelerators : List AcceleratorAttachment := []
  model : Option ModelDescriptor := none
  simulator : Option SimulatorDescriptor := none
  dataset : Option DatasetDescriptor := none
  environment : Option EnvironmentDescriptor := none
  tenant : Text := []
  labels : List Text := []
  deriving DecidableEq

abbrev ResourceAdvertisement := Description

structure ResourceRecord extends Description where
  lifecycle : ResourceLifecycle := .registered
  generation : ResourceGeneration := {}
  healthGeneration : HealthGeneration := {}
  capacityGeneration : CapacityGeneration := {}
  stateSequence : UInt64 := 0
  validatedEpoch : CoordinatorEpoch := {}
  dynamicAuthoritative : Bool := false
  authorityDetail : Text := []
  reservedSlots : UInt32 := 0
  deriving DecidableEq

def ResourceRecord.totalOccupancy (record : ResourceRecord) : UInt32 :=
  record.advertisedOccupancy + record.reservedSlots

/-- `check_text` of resource.cpp; `required` is `allow_empty = false`. -/
def checkText (value : Text) (field : Text) (maximum : UInt32) (required : Bool := false) : Check := do
  check (¬ (required ∧ value = [])) .invalidArgument (field ++ ascii " must not be empty")
  check (value.length ≤ maximum.toNat) .invalidArgument (field ++ ascii " exceeds the configured maximum length")

def validateModel (descriptor : Option ModelDescriptor) (limits : Limits) : Check :=
  match descriptor with
  | none => fail .invalidArgument (ascii "MODEL resource must carry a model descriptor")
  | some model => do
    model.id.validate
    checkText model.version (ascii "model version") limits.maxDigestLength true
    model.modalities.validate limits

def validateSimulator (descriptor : Option SimulatorDescriptor) (capacity : ResourceCapacity)
    (limits : Limits) : Check :=
  match descriptor with
  | none => fail .invalidArgument (ascii "SIMULATOR resource must carry a simulator descriptor")
  | some simulator => do
    simulator.id.validate
    checkText simulator.version (ascii "simulator version") limits.maxDigestLength true
    check (simulator.scenarios.length ≤ limits.maxSimulatorScenarios.toNat) .limitExceeded
      (ascii "simulator scenario count exceeds configured maximum")
    forM simulator.scenarios fun scenario =>
      checkText scenario (ascii "simulator scenario") limits.maxStringLength true
    check (¬ (simulator.maxSessions = 0 ∨ capacity.maxSessions < simulator.maxSessions)) .invalidArgument
      (ascii "simulator session limit is inconsistent with resource capacity")

def validateDataset (descriptor : Option DatasetDescriptor) (limits : Limits) : Check :=
  match descriptor with
  | none => fail .invalidArgument (ascii "DATASET resource must carry a dataset descriptor")
  | some dataset => do
    dataset.id.validate
    dataset.version.validate
    checkText dataset.digest (ascii "dataset digest") limits.maxDigestLength

def validatePhysicalEnvironment (descriptor : Option EnvironmentDescriptor) (limits : Limits) : Check :=
  match descriptor with
  | none =>
    fail .invalidArgument (ascii "PHYSICAL_ENVIRONMENT resource must carry an environment descriptor")
  | some environment => do
    environment.id.validate
    environment.physicalEnvironment.validate
    checkText environment.eligibilityToken (ascii "eligibility token") limits.maxStringLength

def validateVirtualEnvironment (descriptor : Option EnvironmentDescriptor) (limits : Limits) : Check :=
  match descriptor with
  | none =>
    fail .invalidArgument (ascii "VIRTUAL_ENVIRONMENT resource must carry an environment descriptor")
  | some environment => do
    environment.id.validate
    environment.virtualEnvironment.validate
    checkText environment.imageDigest (ascii "environment image digest") limits.maxDigestLength true

/-- The class switch that ends `validate_advertisement`. -/
def validateClass (advertisement : ResourceAdvertisement) (limits : Limits) : Check :=
  match advertisement.resourceClass with
  | .model => validateModel advertisement.model limits
  | .gpu =>
    check (advertisement.accelerators ≠ []) .invalidArgument
      (ascii "GPU resource must carry at least one accelerator attachment")
  | .simulator => validateSimulator advertisement.simulator advertisement.capacity limits
  | .dataset => validateDataset advertisement.dataset limits
  | .physicalEnvironment => validatePhysicalEnvironment advertisement.environment limits
  | .virtualEnvironment => validateVirtualEnvironment advertisement.environment limits
  | .worker => .ok ()

def validateLocality (locality : LocalityDescriptor) (limits : Limits) : Check := do
  check (locality.localDatasetVersions.length ≤ limits.maxLocalDatasetsPerResource.toNat) .limitExceeded
    (ascii "local dataset count exceeds configured maximum")
  check (locality.residentModels.length ≤ limits.maxResidentModelsPerResource.toNat) .limitExceeded
    (ascii "resident model count exceeds configured maximum")
  check (locality.colocatedSimulators.length ≤ limits.maxSimulatorScenarios.toNat) .limitExceeded
    (ascii "co-located simulator count exceeds configured maximum")
  forM locality.localDatasetVersions StrongId.validate
  forM locality.residentModels StrongId.validate
  forM locality.colocatedSimulators StrongId.validate

def validateAdvertisement (advertisement : ResourceAdvertisement) (limits : Limits) : Check := do
  advertisement.id.validate
  checkText advertisement.name (ascii "resource name") limits.maxStringLength true
  checkText advertisement.healthDetail (ascii "health detail") limits.maxStringLength
  checkText advertisement.tenant (ascii "tenant") limits.maxStringLength
  check (¬ (advertisement.worker.isNull = false ∧ advertisement.boot.isNull)) .invalidIdentity
    (ascii "worker owned resource must carry the boot identity of its incarnation")
  check (¬ (advertisement.worker.isNull ∧ advertisement.boot.isNull = false)) .invalidIdentity
    (ascii "boot identity supplied for a resource that has no worker owner")
  advertisement.capabilities.validate limits
  check (advertisement.capacity.slots ≠ 0) .invalidArgument
    (ascii "resource capacity must declare at least one slot")
  check (advertisement.capacity.maxSessions ≠ 0) .invalidArgument
    (ascii "resource max_sessions must be at least one")
  check (advertisement.advertisedOccupancy ≤ advertisement.capacity.slots) .invalidArgument
    (ascii "advertised occupancy exceeds advertised capacity")
  advertisement.topology.validate limits
  check (advertisement.accelerators.length ≤ limits.maxAcceleratorsPerResource.toNat) .limitExceeded
    (ascii "accelerator count exceeds configured maximum")
  forM advertisement.accelerators fun attachment => do
    attachment.id.validate
    checkText attachment.model (ascii "accelerator model") limits.maxStringLength
  validateLocality advertisement.locality limits
  check (advertisement.labels.length ≤ limits.maxCapabilitiesPerResource.toNat) .limitExceeded
    (ascii "label count exceeds configured maximum")
  forM advertisement.labels fun label => checkText label (ascii "label") limits.maxStringLength
  validateClass advertisement limits

theorem validateAdvertisement_capacity {advertisement : ResourceAdvertisement} {limits : Limits}
    (valid : validateAdvertisement advertisement limits = .ok ()) :
    advertisement.capacity.slots ≠ 0 ∧ advertisement.advertisedOccupancy ≤ advertisement.capacity.slots := by
  simp only [validateAdvertisement, check_bind_ok, check_ok] at valid
  obtain ⟨-, -, -, -, -, -, -, slots, -, occupancy, -⟩ := valid
  exact ⟨slots, occupancy⟩

def validateResourceRecord (record : ResourceRecord) (limits : Limits) : Check := do
  validateAdvertisement record.toDescription limits
  check (¬ (record.lifecycle = .retired ∧ record.reservedSlots ≠ 0)) .reservationConflict
    (ascii "retired resource still holds reserved capacity")
  check (record.totalOccupancy ≤ record.capacity.slots) .capacityExhausted
    (ascii "resource occupancy exceeds declared capacity")

theorem validateResourceRecord_advertisement {record : ResourceRecord} {limits : Limits}
    (valid : validateResourceRecord record limits = .ok ()) :
    validateAdvertisement record.toDescription limits = .ok () := by
  simp only [validateResourceRecord, check_bind_ok] at valid
  exact valid.1

def sortIds {kind : IdKind} (ids : List (StrongId kind)) : List (StrongId kind) :=
  ids.insertionSort (· ≤ ·)

def sortTexts (texts : List Text) : List Text := texts.insertionSort (· ≤ ·)

def normalizeAdvertisement (advertisement : ResourceAdvertisement) : ResourceAdvertisement :=
  { advertisement with
    accelerators := advertisement.accelerators.insertionSort (fun a b => a.id ≤ b.id)
    locality :=
      { localDatasetVersions := sortIds advertisement.locality.localDatasetVersions
        residentModels := sortIds advertisement.locality.residentModels
        colocatedSimulators := sortIds advertisement.locality.colocatedSimulators }
    labels := sortTexts advertisement.labels
    simulator := advertisement.simulator.map fun simulator =>
      { simulator with scenarios := sortTexts simulator.scenarios } }

end LabScheduler
