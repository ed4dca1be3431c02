import LabScheduler.Codec.Rearranged

namespace LabScheduler

open Foundation RecordCodec

namespace RecordCodec

def advertisementToRecord (advertisement : ResourceAdvertisement) : ResourceRecord :=
  { toDescription := advertisement }

def recordToAdvertisement (record : ResourceRecord) : ResourceAdvertisement := record.toDescription

def writeAdvertisement (advertisement : ResourceAdvertisement) : Bytes :=
  writeResource (advertisementToRecord advertisement)

def readAdvertisement (limits : Limits) : Decoder ResourceAdvertisement := do
  let record ← readResource limits
  return recordToAdvertisement record

end RecordCodec

namespace Protocol

/-- `decode_payload`: the reader is to take the payload to its end. -/
def decodePayload {α : Type} (read : Decoder α) (payload : Bytes) : Except Status α := do
  let (message, reader) ← read { bytes := payload }
  let _ ← ByteReader.requireEnd reader
  return message

def encodeResourceMessage (advertisement : ResourceAdvertisement) : Bytes := writeAdvertisement advertisement

def decodeResourceMessage (payload : Bytes) (limits : Limits) : Except Status ResourceAdvertisement :=
  decodePayload (readAdvertisement limits) payload

def encodeSchedule (request : ScheduleRequest) : Bytes := writeRequest request

def decodeSchedule (payload : Bytes) (limits : Limits) : Except Status ScheduleRequest :=
  decodePayload (readRequest limits) payload

theorem decodePayload_ok {α β : Type} {write : β → Bytes} {value : β → α} {read : Decoder α} {bounds : β → Prop}
    (decodes : Decodes write value read bounds) {payload : Bytes} {message : α} :
    decodePayload read payload = .ok message ↔ ∃ w, bounds w ∧ value w = message ∧ write w = payload := by
  have plain (answer : α) : (pure answer : Except Status α) = .ok message ↔ answer = message :=
    ⟨fun same => Except.ok.inj same, fun same => congrArg Except.ok same⟩
  unfold decodePayload
  simp only [except_bind_ok, plain]
  constructor
  · intro accepted
    obtain ⟨⟨_, after⟩, accepted, ⟨_, _⟩, ended, rfl⟩ := accepted
    obtain ⟨w, within, same, begins, rfl⟩ := decodes.written accepted
    have finished := (ByteReader.requireEnd_ok.mp ended).1
    have size : 0 + (write w).length = payload.length := beq_iff_eq.mp finished
    exact ⟨w, within, same, begins.eq_of_length ((Nat.zero_add _).symm.trans size)⟩
  · intro written
    obtain ⟨w, within, rfl, rfl⟩ := written
    have read := decodes.reads within (consumes_all (write w) .protocolError)
    exact ⟨_, read, _, ByteReader.requireEnd_ok.mpr ⟨beq_self_eq_true _, rfl⟩, rfl⟩

end Protocol

namespace RecordCodec

theorem readAdvertisement_decodes (limits : Limits) :
    Decodes writeResource (fun resource => sortedDescription resource.toDescription) (readAdvertisement limits)
      (ResourceFits limits) := by
  intro reader advertisement after
  unfold readAdvertisement
  rw [Reader.bind_ok]
  simp only [Reader.pure_ok]
  constructor
  · intro accepted
    obtain ⟨_, _, accepted, rfl, rfl⟩ := accepted
    obtain ⟨resource, fits, rfl, consumes⟩ := (readResource_decodes limits).written accepted
    exact ⟨resource, fits, rfl, consumes⟩
  · intro wire
    obtain ⟨resource, fits, rfl, consumes⟩ := wire
    exact ⟨_, after, (readResource_decodes limits).reads fits consumes, rfl, rfl⟩

section Validated

variable {limits : Limits}

@[simp] theorem checkText_ok {value field : Text} {maximum : UInt32} {required : Bool} :
    checkText value field maximum required = .ok () ↔
      ¬ (required ∧ value = []) ∧ value.length ≤ maximum.toNat := by
  simp only [checkText, check_bind_ok, check_ok]

/-- What the reader asks of an advertisement beyond `validate_advertisement`: lists in order, and every descriptor
    within the bounds, whatever the class. -/
structure Travels (limits : Limits) (advertisement : ResourceAdvertisement) : Prop where
  localDatasetVersions : Ascending advertisement.locality.localDatasetVersions
  residentModels : Ascending advertisement.locality.residentModels
  colocatedSimulators : Ascending advertisement.locality.colocatedSimulators
  labels : Ascending advertisement.labels
  model : ∀ model ∈ advertisement.model,
    model.version.length ≤ limits.maxDigestLength.toNat ∧ model.modalities.validate limits = .ok ()
  simulator : ∀ simulator ∈ advertisement.simulator, SimulatorFits limits simulator
  dataset : ∀ dataset ∈ advertisement.dataset, dataset.digest.length ≤ limits.maxDigestLength.toNat
  environment : ∀ environment ∈ advertisement.environment, EnvironmentFits limits environment

theorem Travels.fits {advertisement : ResourceAdvertisement} (travels : Travels limits advertisement)
    (valid : validateAdvertisement advertisement limits = .ok ()) :
    DescriptionFits limits advertisement ∧ CanonicalDescription advertisement := by
  simp only [validateAdvertisement, validateLocality, TopologyDescriptor.validate, check_bind_ok, check_ok,
    checkText_ok, check_forM_ok, validate_ok] at valid
  obtain ⟨-, name, healthDetail, tenant, -, -, capabilities, -, -, -, topology, accelerators, accelerator, locality,
    labels, label, -⟩ := valid
  have models (model : ModelDescriptor) (present : model ∈ advertisement.model) :
      ModelFits limits model ∧ CanonicalSet model.modalities := by
    obtain ⟨version, modalities⟩ := travels.model model present
    obtain ⟨fit, canonical⟩ := validate_ok.mp modalities
    exact ⟨⟨version, fit⟩, canonical⟩
  refine ⟨?_, ⟨capabilities.2, fun model present => (models model present).2⟩⟩
  exact {
    name := name.2
    capabilities := capabilities.1
    healthDetail := healthDetail.2
    topology := fun scope => by cases scope <;> exact (topology _ (by simp [TopologyDescriptor.domain])).1
    locality := ⟨⟨locality.1, travels.localDatasetVersions⟩, ⟨locality.2.1, travels.residentModels⟩,
      ⟨locality.2.2.1, travels.colocatedSimulators⟩⟩
    accelerators
    accelerator := fun attachment member => (accelerator attachment member).2.2
    model := fun model present => (models model present).1
    simulator := travels.simulator
    dataset := travels.dataset
    environment := travels.environment
    tenant := tenant.2
    label := fun text member => (label text member).2
    labels := ⟨labels, travels.labels⟩ }

theorem perm_of_sorted {α : Type} {order : α → α → Prop} [DecidableRel order] {first second : List α}
    (same : first.insertionSort order = second.insertionSort order) : first.Perm second :=
  (first.perm_insertionSort order).symm.trans (same ▸ second.perm_insertionSort order)

theorem normalized_rearranged {first second : Description}
    (same : normalizeAdvertisement (sortedDescription first) = normalizeAdvertisement second) :
    DescriptionRearranged first second where
  capabilities := by
    have capabilities : sortedSet first.capabilities = second.capabilities := congrArg Description.capabilities same
    exact capabilities ▸ sortedSet_rearranged _
  locality := by
    have locality := congrArg Description.locality same
    exact ⟨perm_of_sorted (congrArg LocalityDescriptor.localDatasetVersions locality),
      perm_of_sorted (congrArg LocalityDescriptor.residentModels locality),
      perm_of_sorted (congrArg LocalityDescriptor.colocatedSimulators locality)⟩
  accelerators := perm_of_sorted (congrArg Description.accelerators same)
  model := by
    have model : first.model.map sortedModel = second.model := congrArg Description.model same
    rw [← model]
    cases first.model with
    | none => exact .none
    | some model => exact .some ⟨sortedSet_rearranged _, rfl⟩
  simulator := by
    have simulator := congrArg Description.simulator same
    change first.simulator.map _ = second.simulator.map _ at simulator
    cases here : first.simulator with
    | none =>
      rw [here] at simulator
      rw [Option.map_eq_none_iff.mp simulator.symm]
      exact .none
    | some before =>
      rw [here] at simulator
      obtain ⟨after, there, sorted⟩ := Option.map_eq_some_iff.mp simulator.symm
      rw [there]
      refine .some ⟨perm_of_sorted (congrArg SimulatorDescriptor.scenarios sorted).symm, ?_⟩
      exact congrArg (fun simulator : SimulatorDescriptor => { simulator with scenarios := after.scenarios }) sorted.symm
  labels := perm_of_sorted (congrArg Description.labels same)
  others := congrArg (fun description : Description => { description with
    capabilities := second.capabilities, locality := second.locality, accelerators := second.accelerators,
    model := second.model, simulator := second.simulator, labels := second.labels }) same

/-- A validated advertisement comes back over the wire exactly if it keeps to the reader's bounds. -/
theorem advertisement_travels {advertisement : ResourceAdvertisement}
    (valid : validateAdvertisement advertisement limits = .ok ()) :
    (∃ received, Protocol.decodeResourceMessage (Protocol.encodeResourceMessage advertisement) limits = .ok received ∧
      normalizeAdvertisement received = normalizeAdvertisement advertisement) ↔ Travels limits advertisement := by
  unfold Protocol.decodeResourceMessage Protocol.encodeResourceMessage writeAdvertisement
  simp only [Protocol.decodePayload_ok (readAdvertisement_decodes limits)]
  constructor
  · intro returned
    obtain ⟨_, ⟨resource, fits, rfl, same⟩, normal⟩ := returned
    have eq := DescriptionRearranged.eq (normalized_rearranged normal) fits same
    change resource.toDescription = advertisement at eq
    have within := fits.description
    rw [eq] at within normal
    have models : advertisement.model.map sortedModel = advertisement.model := congrArg Description.model normal
    exact {
      localDatasetVersions := within.locality.localDatasetVersions.2
      residentModels := within.locality.residentModels.2
      colocatedSimulators := within.locality.colocatedSimulators.2
      labels := within.labels.2
      model := fun model present => by
        have fit := within.model model present
        rw [present] at models
        have canonical := sortedSet_canonical fit.modalities.distinct
        have modalities : sortedSet model.modalities = model.modalities :=
          congrArg ModelDescriptor.modalities (Option.some_inj.mp models)
        rw [modalities] at canonical
        exact ⟨fit.version, validate_ok.mpr ⟨fit.modalities, canonical⟩⟩
      simulator := within.simulator
      dataset := within.dataset
      environment := within.environment }
  · intro travels
    obtain ⟨fits, canonical⟩ := travels.fits valid
    exact ⟨_, ⟨advertisementToRecord advertisement, ⟨fits, Nat.zero_le _⟩, rfl, rfl⟩,
      congrArg normalizeAdvertisement canonical.sorted_eq⟩

/-- What the reader asks of a request beyond `validate_schedule_request`: each list of resources in order. -/
def RequestTravels (request : ScheduleRequest) : Prop :=
  ∀ requirement ∈ request.requirements, Ascending requirement.allowlist ∧ Ascending requirement.denylist

theorem validateRequirements_fits {names : List Text} {requirements : List ResourceRequirement}
    (valid : validateRequirements names requirements limits = .ok ())
    (travels : ∀ requirement ∈ requirements, Ascending requirement.allowlist ∧ Ascending requirement.denylist) :
    ∀ requirement ∈ requirements,
      RequirementFits limits requirement ∧ CanonicalSet requirement.requiredCapabilities := by
  induction requirements generalizing names with
  | nil => exact fun _ member => absurd member List.not_mem_nil
  | cons requirement rest ih =>
    simp only [validateRequirements, validateRequirement, check_bind_ok, check_ok, checkText_ok, validate_ok] at valid
    obtain ⟨⟨name, -, -, capabilities, -, -, -, counts, -, -, -, -, -, -, -, -, -, -, -, -, modelVersion,
      simulatorVersion, simulatorScenario, environmentDigest, -⟩, others⟩ := valid
    obtain ⟨⟨allowlist, denylist⟩, later⟩ := List.forall_mem_cons.mp travels
    refine List.forall_mem_cons.mpr ⟨⟨?_, capabilities.2⟩, ih others later⟩
    exact {
      name := name.2
      requiredCapabilities := capabilities.1
      modelVersion := modelVersion.2
      simulatorVersion := simulatorVersion.2
      simulatorScenario := simulatorScenario.2
      environmentDigest := environmentDigest.2
      allowlist := ⟨counts.1, allowlist⟩
      denylist := ⟨counts.2, denylist⟩ }

theorem RequestTravels.fits {request : ScheduleRequest} (travels : RequestTravels request)
    (valid : validateScheduleRequest request limits = .ok ()) :
    RequestFits limits request ∧ CanonicalRequest request := by
  simp only [validateScheduleRequest, check_bind_ok, check_ok, checkText_ok, check_forM_ok] at valid
  obtain ⟨-, -, -, workload, tenant, callerAuthority, requestProvenance, priority, -, requirements, maxReassignments,
    weights, requirement, constraints, -⟩ := valid
  have all (factor : RankingFactor) : factor ∈ RankingFactor.all := by cases factor <;> decide
  have each := validateRequirements_fits requirement travels
  refine ⟨?_, fun requirement member => (each requirement member).2⟩
  exact {
    workload := workload.2
    tenant := tenant.2
    priority := by omega
    requirements
    requirement := fun requirement member => (each requirement member).1
    affinity := constraints.1
    antiAffinity := constraints.2
    maxReassignments
    weights := fun factor => by
      have weight := weights factor (all factor)
      unfold FairWeight
      omega
    callerAuthority := callerAuthority.2
    requestProvenance := requestProvenance.2 }

theorem normalizedRequest_rearranged {first second : ScheduleRequest}
    (same : normalizeScheduleRequest (sortedRequest first) = normalizeScheduleRequest second) :
    RequestRearranged first second where
  requirements := by
    have requirements := congrArg ScheduleRequest.requirements same
    change (first.requirements.map sortedRequirement).map _ = second.requirements.map _ at requirements
    generalize first.requirements = before at requirements ⊢
    generalize second.requirements = after at requirements ⊢
    induction before generalizing after with
    | nil =>
      rw [List.map_eq_nil_iff.mp requirements.symm]
      exact .nil
    | cons requirement rest ih =>
      cases after with
      | nil => cases requirements
      | cons other others =>
        obtain ⟨here, later⟩ := List.cons.inj requirements
        refine .cons ?_ (ih others later)
        have capabilities : sortedSet requirement.requiredCapabilities = other.requiredCapabilities :=
          congrArg ResourceRequirement.requiredCapabilities here
        exact {
          requiredCapabilities := capabilities ▸ sortedSet_rearranged _
          allowlist := perm_of_sorted (congrArg ResourceRequirement.allowlist here)
          denylist := perm_of_sorted (congrArg ResourceRequirement.denylist here)
          others := congrArg (fun requirement : ResourceRequirement => { requirement with
            requiredCapabilities := other.requiredCapabilities, allowlist := other.allowlist,
            denylist := other.denylist }) here }
  others := congrArg (fun request : ScheduleRequest => { request with requirements := second.requirements }) same

/-- A validated request comes back over the wire exactly if its lists of resources are in order. -/
theorem request_travels {request : ScheduleRequest} (valid : validateScheduleRequest request limits = .ok ()) :
    (∃ received, Protocol.decodeSchedule (Protocol.encodeSchedule request) limits = .ok received ∧
      normalizeScheduleRequest received = normalizeScheduleRequest request) ↔ RequestTravels request := by
  unfold Protocol.decodeSchedule Protocol.encodeSchedule
  simp only [Protocol.decodePayload_ok (readRequest_decodes limits)]
  constructor
  · intro returned
    obtain ⟨_, ⟨listed, fits, rfl, same⟩, normal⟩ := returned
    obtain rfl := (normalizedRequest_rearranged normal).eq fits same
    intro requirement member
    have within := fits.requirement requirement member
    exact ⟨within.allowlist.2, within.denylist.2⟩
  · intro travels
    obtain ⟨fits, canonical⟩ := travels.fits valid
    exact ⟨_, ⟨request, fits, rfl, rfl⟩, congrArg normalizeScheduleRequest canonical.sorted_eq⟩

end Validated

/-- What the validators accept survives the wire exactly if it is also what the reader accepts. -/
theorem validated_travels (limits : Limits) :
    (∀ advertisement, validateAdvertisement advertisement limits = .ok () →
      ((∃ received,
        Protocol.decodeResourceMessage (Protocol.encodeResourceMessage advertisement) limits = .ok received ∧
          normalizeAdvertisement received = normalizeAdvertisement advertisement) ↔ Travels limits advertisement)) ∧
      ∀ request, validateScheduleRequest request limits = .ok () →
        ((∃ received, Protocol.decodeSchedule (Protocol.encodeSchedule request) limits = .ok received ∧
          normalizeScheduleRequest received = normalizeScheduleRequest request) ↔ RequestTravels request) :=
  ⟨fun _ valid => advertisement_travels valid, fun _ valid => request_travels valid⟩

namespace Bench

def labelled (labels : List Text) : ResourceAdvertisement := { id := ⟨7⟩, name := ascii "bench", labels }

def denying (denylist : List ResourceId) : ScheduleRequest :=
  { id := ⟨5⟩, experiment := ⟨1⟩, experimentGeneration := ⟨1⟩, requirements := [{ name := ascii "slot", denylist }] }

end Bench

theorem validated_travels_bench :
    (∃ received, Protocol.decodeResourceMessage
        (Protocol.encodeResourceMessage (Bench.labelled [ascii "a", ascii "b"])) {} = .ok received ∧
      normalizeAdvertisement received = normalizeAdvertisement (Bench.labelled [ascii "a", ascii "b"])) ∧
    ∃ received, Protocol.decodeSchedule (Protocol.encodeSchedule (Bench.denying [⟨7⟩, ⟨8⟩])) {} = .ok received ∧
      normalizeScheduleRequest received = normalizeScheduleRequest (Bench.denying [⟨7⟩, ⟨8⟩]) := by
  have ordered : Ascending [ascii "a", ascii "b"] := List.IsChain.cons_cons (by decide) (.singleton _)
  have denied : Ascending ([⟨7⟩, ⟨8⟩] : List ResourceId) := List.IsChain.cons_cons (by decide) (.singleton _)
  obtain ⟨advertisement, request⟩ := validated_travels {}
  refine ⟨(advertisement _ (by decide +kernel)).mpr ?_, (request _ (by decide +kernel)).mpr ?_⟩
  · exact ⟨.nil, .nil, .nil, ordered, nofun, nofun, nofun, nofun⟩
  · exact List.forall_mem_singleton.mpr ⟨.nil, denied⟩

/-- Two labels in the wrong order, or two resources on a denylist, are validated and do not survive the wire. -/
theorem unsorted_lists_refused :
    (validateAdvertisement (Bench.labelled [ascii "b", ascii "a"]) {} = .ok () ∧
      ¬ ∃ received, Protocol.decodeResourceMessage
          (Protocol.encodeResourceMessage (Bench.labelled [ascii "b", ascii "a"])) {} = .ok received ∧
        normalizeAdvertisement received = normalizeAdvertisement (Bench.labelled [ascii "b", ascii "a"])) ∧
      validateScheduleRequest (Bench.denying [⟨8⟩, ⟨7⟩]) {} = .ok () ∧
      ¬ ∃ received, Protocol.decodeSchedule (Protocol.encodeSchedule (Bench.denying [⟨8⟩, ⟨7⟩])) {} = .ok received ∧
        normalizeScheduleRequest received = normalizeScheduleRequest (Bench.denying [⟨8⟩, ⟨7⟩]) := by
  refine ⟨⟨by decide +kernel, fun returned => ?_⟩, by decide +kernel, fun returned => ?_⟩
  · obtain ⟨received, decodes, -⟩ := returned
    have refused : (Protocol.decodeResourceMessage
        (Protocol.encodeResourceMessage (Bench.labelled [ascii "b", ascii "a"])) {}).isOk = false := by decide +kernel
    rw [decodes] at refused
    cases refused
  · obtain ⟨received, decodes, -⟩ := returned
    have refused : (Protocol.decodeSchedule (Protocol.encodeSchedule (Bench.denying [⟨8⟩, ⟨7⟩])) {}).isOk = false := by
      decide +kernel
    rw [decodes] at refused
    cases refused

end RecordCodec

end LabScheduler
