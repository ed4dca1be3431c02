import LabScheduler.Error

namespace LabScheduler

/-- The tag types `LS_DECLARE_ID` declares. -/
inductive IdKind
  | scheduleRequest
  | experiment
  | experimentGeneration
  | trial
  | decision
  | placement
  | placementGeneration
  | coordinatorEpoch
  | resource
  | resourceGeneration
  | accelerator
  | modelResource
  | simulator
  | dataset
  | datasetVersion
  | environment
  | physicalEnvironment
  | virtualEnvironment
  | capability
  | topologyDomain
  | healthGeneration
  | capacityGeneration
  | worker
  | workerBoot
  | reservation
  | lease
  deriving DecidableEq

def IdKind.kPrefix : IdKind → Text
  | .scheduleRequest => ascii "sreq"
  | .experiment => ascii "exp"
  | .experimentGeneration => ascii "expg"
  | .trial => ascii "trial"
  | .decision => ascii "dec"
  | .placement => ascii "plc"
  | .placementGeneration => ascii "plcg"
  | .coordinatorEpoch => ascii "epoch"
  | .resource => ascii "res"
  | .resourceGeneration => ascii "resg"
  | .accelerator => ascii "acc"
  | .modelResource => ascii "mdl"
  | .simulator => ascii "sim"
  | .dataset => ascii "ds"
  | .datasetVersion => ascii "dsv"
  | .environment => ascii "env"
  | .physicalEnvironment => ascii "phys"
  | .virtualEnvironment => ascii "virt"
  | .capability => ascii "cap"
  | .topologyDomain => ascii "topo"
  | .healthGeneration => ascii "hgen"
  | .capacityGeneration => ascii "cgen"
  | .worker => ascii "wrk"
  | .workerBoot => ascii "boot"
  | .reservation => ascii "rsv"
  | .lease => ascii "lease"

def IdKind.kName : IdKind → Text
  | .scheduleRequest => ascii "ScheduleRequestId"
  | .experiment => ascii "ExperimentId"
  | .experimentGeneration => ascii "ExperimentGeneration"
  | .trial => ascii "TrialId"
  | .decision => ascii "DecisionId"
  | .placement => ascii "PlacementId"
  | .placementGeneration => ascii "PlacementGeneration"
  | .coordinatorEpoch => ascii "CoordinatorEpoch"
  | .resource => ascii "ResourceId"
  | .resourceGeneration => ascii "ResourceGeneration"
  | .accelerator => ascii "AcceleratorId"
  | .modelResource => ascii "ModelResourceId"
  | .simulator => ascii "SimulatorId"
  | .dataset => ascii "DatasetId"
  | .datasetVersion => ascii "DatasetVersionId"
  | .environment => ascii "EnvironmentId"
  | .physicalEnvironment => ascii "PhysicalEnvironmentId"
  | .virtualEnvironment => ascii "VirtualEnvironmentId"
  | .capability => ascii "CapabilityId"
  | .topologyDomain => ascii "TopologyDomainId"
  | .healthGeneration => ascii "HealthGeneration"
  | .capacityGeneration => ascii "CapacityGeneration"
  | .worker => ascii "WorkerId"
  | .workerBoot => ascii "WorkerBootId"
  | .reservation => ascii "ReservationId"
  | .lease => ascii "LeaseId"

structure StrongId (kind : IdKind) where
  value : UInt64 := 0
  deriving DecidableEq

abbrev ScheduleRequestId := StrongId .scheduleRequest
abbrev ExperimentId := StrongId .experiment
abbrev ExperimentGeneration := StrongId .experimentGeneration
abbrev TrialId := StrongId .trial
abbrev DecisionId := StrongId .decision
abbrev PlacementId := StrongId .placement
abbrev PlacementGeneration := StrongId .placementGeneration
abbrev CoordinatorEpoch := StrongId .coordinatorEpoch
abbrev ResourceId := StrongId .resource
abbrev ResourceGeneration := StrongId .resourceGeneration
abbrev AcceleratorId := StrongId .accelerator
abbrev ModelResourceId := StrongId .modelResource
abbrev SimulatorId := StrongId .simulator
abbrev DatasetId := StrongId .dataset
abbrev DatasetVersionId := StrongId .datasetVersion
abbrev EnvironmentId := StrongId .environment
abbrev PhysicalEnvironmentId := StrongId .physicalEnvironment
abbrev VirtualEnvironmentId := StrongId .virtualEnvironment
abbrev CapabilityId := StrongId .capability
abbrev TopologyDomainId := StrongId .topologyDomain
abbrev HealthGeneration := StrongId .healthGeneration
abbrev CapacityGeneration := StrongId .capacityGeneration
abbrev WorkerId := StrongId .worker
abbrev WorkerBootId := StrongId .workerBoot
abbrev ReservationId := StrongId .reservation
abbrev LeaseId := StrongId .lease

namespace StrongId

variable {kind : IdKind}

instance : Inhabited (StrongId kind) := ⟨{}⟩

theorem value_injective : Function.Injective (value : StrongId kind → UInt64) := by
  rintro ⟨a⟩ ⟨b⟩ same
  cases same
  rfl

instance : LinearOrder (StrongId kind) := LinearOrder.lift' value value_injective

instance decidableMemId (id : StrongId kind) (ids : List (StrongId kind)) : Decidable (id ∈ ids) := inferInstance

def null : StrongId kind := {}

def isNull (id : StrongId kind) : Bool := id.value == 0

def toText (id : StrongId kind) : Text := kind.kPrefix ++ ascii "-" ++ hexU64 id.value 16

def validate (id : StrongId kind) : Check :=
  check (id.value ≠ 0) .invalidIdentity (ascii "null " ++ kind.kName)

/-- `Id::from_value(id.value() + 1)`, modulo 2^64. -/
def bump (id : StrongId kind) : StrongId kind := ⟨id.value + 1⟩

@[simp] theorem validate_ok {id : StrongId kind} : id.validate = .ok () ↔ id.value ≠ 0 := by
  simp [validate]

theorem toText_length (id : StrongId kind) : id.toText.length = kind.kPrefix.length + 17 := by
  have dash : (ascii "-").length = 1 := by decide
  simp only [toText, List.length_append, dash, hexU64_length]

theorem toText_lt_iff (a b : StrongId kind) : a.toText < b.toText ↔ a < b := by
  unfold toText
  rw [Foundation.append_left_lt_iff, hexU64_lt_iff]
  exact Iff.rfl

@[simp] theorem isNull_iff {id : StrongId kind} : id.isNull = true ↔ id.value = 0 := by
  simp [isNull]

theorem bump_wraps (id : StrongId kind) : id.bump.value = 0 ↔ id.value = 0xffffffffffffffff := by
  have last : (0xffffffffffffffff : UInt64).toNat = 2 ^ 64 - 1 := rfl
  have one : (1 : UInt64).toNat = 1 := rfl
  have zero : (0 : UInt64).toNat = 0 := rfl
  have bound := id.value.toNat_lt
  change id.value + 1 = 0 ↔ _
  rw [← UInt64.toNat_inj, ← UInt64.toNat_inj, UInt64.toNat_add, last, one, zero]
  omega

theorem bump_ne (id : StrongId kind) : id.bump ≠ id := by
  intro same
  have value : id.value + 1 = id.value := congrArg StrongId.value same
  simp at value

theorem bump_bump_ne (id : StrongId kind) : id.bump.bump ≠ id := by
  intro same
  have value : id.value + 1 + 1 = id.value := congrArg StrongId.value same
  have counts := congrArg UInt64.toNat value
  have one : (1 : UInt64).toNat = 1 := rfl
  rw [UInt64.toNat_add, UInt64.toNat_add, one] at counts
  have bound := id.value.toNat_lt
  omega

theorem bump_advances (id : StrongId kind) :
    id.bump.isNull = false ∧ id < id.bump ↔ id.value ≠ 0xffffffffffffffff := by
  have wraps := bump_wraps id
  constructor
  · intro both full
    have null : id.bump.isNull = true := StrongId.isNull_iff.mpr (wraps.mpr full)
    rw [both.1] at null
    cases null
  · intro short
    refine ⟨Bool.eq_false_iff.mpr fun null => short (wraps.mp (StrongId.isNull_iff.mp null)), ?_⟩
    have last : (0xffffffffffffffff : UInt64).toNat = 2 ^ 64 - 1 := rfl
    have one : (1 : UInt64).toNat = 1 := rfl
    have bound := id.value.toNat_lt
    have below : id.value.toNat ≠ 2 ^ 64 - 1 := fun full => short (UInt64.toNat_inj.mp (full.trans last.symm))
    change id.value < id.value + 1
    rw [UInt64.lt_iff_toNat_lt, UInt64.toNat_add]
    omega

end StrongId

structure IdGenerator where
  counter : UInt64 := 1
  deriving DecidableEq

namespace IdGenerator

def nextValue (ids : IdGenerator) : IdGenerator := ⟨ids.counter + 1⟩

/-- `next<Id>()`: the identity handed out, beside the generator left behind. -/
def next (kind : IdKind) (ids : IdGenerator) : StrongId kind × IdGenerator :=
  (⟨ids.nextValue.counter⟩, ids.nextValue)

def observe (ids : IdGenerator) (value : UInt64) : IdGenerator :=
  if ids.counter < value then ⟨value⟩ else ids

end IdGenerator

def hashName (name : Text) : UInt64 :=
  let hash := mix64 (fnv1a64 (toLowerAscii name))
  if hash = 0 then 1 else hash

def capabilityIdFromName (name : Text) : CapabilityId := ⟨hashName name⟩

end LabScheduler
