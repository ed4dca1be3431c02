import LabScheduler.Canonical

namespace LabScheduler

inductive ErrorCode
  | ok
  | noPlacement
  | resourceLost
  | staleResource
  | staleEpoch
  | staleWorker
  | stalePlacement
  | staleExperiment
  | capacityExhausted
  | capabilityMismatch
  | topologyMismatch
  | modelMismatch
  | datasetMismatch
  | environmentUnavailable
  | unsupported
  | cancelled
  | preempted
  | reassignmentRequired
  | corruptPersistence
  | protocolError
  | resourceExhausted
  | invalidIdentity
  | duplicateIdentity
  | notFound
  | generationMismatch
  | reservationConflict
  | reservationNotActive
  | unauthorized
  | duplicateCompletion
  | invalidArgument
  | limitExceeded
  | healthRejected
  | exclusivityConflict
  | notReady
  | tenantViolation
  | ioFailure
  | internalError
  | shuttingDown
  | busy
  deriving DecidableEq

inductive RejectReason
  | none
  | resourceClassMismatch
  | capabilityMismatch
  | capacityExhausted
  | memoryExhausted
  | occupancyExceeded
  | healthRejected
  | healthUnknown
  | evidenceStale
  | evidenceNotAuthoritative
  | resourceRetired
  | topologyMismatch
  | modelMismatch
  | modelVersionMismatch
  | modelNotResident
  | simulatorMismatch
  | simulatorNotReady
  | datasetMismatch
  | datasetVersionMismatch
  | environmentMismatch
  | environmentDigestMismatch
  | environmentNotReady
  | acceleratorMismatch
  | exclusivityConflict
  | reservationConflict
  | tenantViolation
  | allowlistExcluded
  | denylistExcluded
  | affinityViolation
  | antiAffinityViolation
  | alreadySelected
  | unsupported
  | workerIncarnationStale
  | shuttingDown
  deriving DecidableEq

/-- Declaration order, the order `std::map<RejectReason, _>` iterates in. -/
def RejectReason.all : List RejectReason :=
  [.none, .resourceClassMismatch, .capabilityMismatch, .capacityExhausted, .memoryExhausted,
    .occupancyExceeded, .healthRejected, .healthUnknown, .evidenceStale, .evidenceNotAuthoritative,
    .resourceRetired, .topologyMismatch, .modelMismatch, .modelVersionMismatch, .modelNotResident,
    .simulatorMismatch, .simulatorNotReady, .datasetMismatch, .datasetVersionMismatch,
    .environmentMismatch, .environmentDigestMismatch, .environmentNotReady, .acceleratorMismatch,
    .exclusivityConflict, .reservationConflict, .tenantViolation, .allowlistExcluded,
    .denylistExcluded, .affinityViolation, .antiAffinityViolation, .alreadySelected, .unsupported,
    .workerIncarnationStale, .shuttingDown]

def rejectReasonName : RejectReason → Text
  | .none => ascii "NONE"
  | .resourceClassMismatch => ascii "RESOURCE_CLASS_MISMATCH"
  | .capabilityMismatch => ascii "CAPABILITY_MISMATCH"
  | .capacityExhausted => ascii "CAPACITY_EXHAUSTED"
  | .memoryExhausted => ascii "MEMORY_EXHAUSTED"
  | .occupancyExceeded => ascii "OCCUPANCY_EXCEEDED"
  | .healthRejected => ascii "HEALTH_REJECTED"
  | .healthUnknown => ascii "HEALTH_UNKNOWN"
  | .evidenceStale => ascii "EVIDENCE_STALE"
  | .evidenceNotAuthoritative => ascii "EVIDENCE_NOT_AUTHORITATIVE"
  | .resourceRetired => ascii "RESOURCE_RETIRED"
  | .topologyMismatch => ascii "TOPOLOGY_MISMATCH"
  | .modelMismatch => ascii "MODEL_MISMATCH"
  | .modelVersionMismatch => ascii "MODEL_VERSION_MISMATCH"
  | .modelNotResident => ascii "MODEL_NOT_RESIDENT"
  | .simulatorMismatch => ascii "SIMULATOR_MISMATCH"
  | .simulatorNotReady => ascii "SIMULATOR_NOT_READY"
  | .datasetMismatch => ascii "DATASET_MISMATCH"
  | .datasetVersionMismatch => ascii "DATASET_VERSION_MISMATCH"
  | .environmentMismatch => ascii "ENVIRONMENT_MISMATCH"
  | .environmentDigestMismatch => ascii "ENVIRONMENT_DIGEST_MISMATCH"
  | .environmentNotReady => ascii "ENVIRONMENT_NOT_READY"
  | .acceleratorMismatch => ascii "ACCELERATOR_MISMATCH"
  | .exclusivityConflict => ascii "EXCLUSIVITY_CONFLICT"
  | .reservationConflict => ascii "RESERVATION_CONFLICT"
  | .tenantViolation => ascii "TENANT_VIOLATION"
  | .allowlistExcluded => ascii "ALLOWLIST_EXCLUDED"
  | .denylistExcluded => ascii "DENYLIST_EXCLUDED"
  | .affinityViolation => ascii "AFFINITY_VIOLATION"
  | .antiAffinityViolation => ascii "ANTI_AFFINITY_VIOLATION"
  | .alreadySelected => ascii "ALREADY_SELECTED"
  | .unsupported => ascii "UNSUPPORTED"
  | .workerIncarnationStale => ascii "WORKER_INCARNATION_STALE"
  | .shuttingDown => ascii "SHUTTING_DOWN"

structure Status where
  code : ErrorCode := .ok
  message : Text := []
  deriving DecidableEq

/-- A function returning `Status`: `Except.ok ()` is `Status{}`. -/
abbrev Check := Except Status Unit

def fail {α : Type} (code : ErrorCode) (message : Text) : Except Status α := .error ⟨code, message⟩

def check (condition : Prop) [Decidable condition] (code : ErrorCode) (message : Text) : Check :=
  if condition then .ok () else fail code message

@[simp] theorem check_ok {condition : Prop} [Decidable condition] {code : ErrorCode} {message : Text} :
    check condition code message = .ok () ↔ condition := by
  unfold check fail
  split <;> simp_all

theorem check_error {condition : Prop} [Decidable condition] {code : ErrorCode} {message : Text} {status : Status} :
    check condition code message = .error status ↔ ¬ condition ∧ status = ⟨code, message⟩ := by
  unfold check fail
  split
  · simp_all
  · simp_all [eq_comm]

theorem check_code {condition : Prop} [Decidable condition] {code : ErrorCode} {message : Text} {status : Status}
    (refused : check condition code message = .error status) : status.code = code :=
  congrArg Status.code (check_error.mp refused).2

@[simp] theorem check_bind_ok {α : Type} {first : Check} {rest : Unit → Except Status α} {value : α} :
    (first >>= rest) = .ok value ↔ first = .ok () ∧ rest () = .ok value := by
  cases first <;> simp [Bind.bind, Except.bind]

theorem check_bind_error {α : Type} {first : Check} {rest : Unit → Except Status α} {status : Status}
    (refused : (first >>= rest) = .error status) : first = .error status ∨ rest () = .error status := by
  cases first with
  | error other =>
    cases refused
    exact .inl rfl
  | ok => exact .inr refused

theorem check_then_error {α : Type} {condition : Prop} [Decidable condition] {code : ErrorCode} {message : Text}
    {rest : Unit → Except Status α} {status : Status} :
    (check condition code message >>= rest) = .error status ↔
      ¬ condition ∧ status = ⟨code, message⟩ ∨ condition ∧ rest () = .error status := by
  unfold check fail
  by_cases holds : condition
  · simp [holds, Bind.bind, Except.bind]
  · simp [holds, Bind.bind, Except.bind, eq_comm]

@[simp] theorem check_map_ok {α : Type} {first : Check} {f : Unit → α} {value : α} :
    f <$> first = .ok value ↔ first = .ok () ∧ f () = value := by
  cases first <;> simp [Functor.map, Except.map]

theorem except_bind_ok {α β : Type} {first : Except Status α} {rest : α → Except Status β} {value : β} :
    (first >>= rest) = .ok value ↔ ∃ a, first = .ok a ∧ rest a = .ok value := by
  cases first <;> simp [Bind.bind, Except.bind]

@[simp] theorem fail_ne_ok {α : Type} {code : ErrorCode} {message : Text} {value : α} :
    fail code message ≠ .ok value := nofun

@[simp] theorem check_forM_ok {α : Type} {items : List α} {test : α → Check} :
    forM items test = .ok () ↔ ∀ item ∈ items, test item = .ok () := by
  induction items with
  | nil => simp [Pure.pure, Except.pure]
  | cons item rest ih => simp [List.forM_cons, ih]

def Fails {α : Type} (codes : ErrorCode → Prop) (result : Except Status α) : Prop :=
  ∀ status, result = .error status → codes status.code

namespace Fails

variable {α β : Type} {codes : ErrorCode → Prop}

theorem ok (value : α) : Fails codes (.ok value : Except Status α) := by
  intro status refused
  cases refused

theorem fail {code : ErrorCode} (coded : codes code) (message : Text) :
    Fails codes (LabScheduler.fail code message : Except Status α) := by
  intro status refused
  cases refused
  exact coded

theorem check {condition : Prop} [Decidable condition] {code : ErrorCode} {message : Text} (coded : codes code) :
    Fails codes (LabScheduler.check condition code message) := by
  intro status refused
  rw [check_code refused]
  exact coded

theorem bind {first : Except Status α} {rest : α → Except Status β} (here : Fails codes first)
    (later : ∀ value, Fails codes (rest value)) : Fails codes (first >>= rest) := by
  cases first with
  | ok value => exact later value
  | error status =>
    intro other refused
    cases refused
    exact here status rfl

theorem forM {items : List α} {test : α → Check} (each : ∀ item, Fails codes (test item)) :
    Fails codes (forM items test) := by
  induction items with
  | nil => exact .ok ()
  | cons item items ih => exact .bind (each item) fun _ => ih

end Fails

end LabScheduler
