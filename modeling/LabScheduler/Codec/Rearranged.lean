import LabScheduler.Codec.Acceptance

namespace LabScheduler

open Foundation

namespace RecordCodec

theorem consumes_all (bytes : Bytes) (failure : ErrorCode) :
    Consumes bytes ({ bytes, failure } : ByteReader) { bytes, offset := bytes.length, failure } := by
  refine ⟨⟨[], List.append_nil bytes⟩, ?_⟩
  change ByteReader.mk _ _ _ = ByteReader.mk _ (0 + _) _
  rw [Nat.zero_add]

theorem written_inj {α : Type} {write : α → Bytes} {read : Decoder α} {bounds : α → Prop}
    (decodes : Decodes write id read bounds) {first second : α} (here : bounds first) (there : bounds second)
    (same : write first = write second) : first = second := by
  have consumes := consumes_all (write first) .protocolError
  have other : Consumes (write second) ({ bytes := write first, failure := .protocolError } : ByteReader)
      { bytes := write first, offset := (write first).length, failure := .protocolError } := by
    rw [← same]
    exact consumes
  exact (decodes.determined here there consumes other).1

section Lists

variable {α : Type} {write : α → Bytes} {first second : List α}

theorem writeList_length (perm : first.Perm second) :
    (writeList write first).length = (writeList write second).length := by
  have items := (perm.map write).flatten.length_eq
  simp [writeList, items]

theorem writeList_inj {read : Decoder α} {bounds : α → Prop} (item : Decodes write id read bounds) {maximum : UInt32}
    (perm : first.Perm second) (short : first.length ≤ maximum.toNat) (within : ∀ w ∈ first, bounds w)
    (same : writeList write first = writeList write second) : first = second :=
  written_inj (readItems_decodes item maximum) ⟨short, within⟩
    ⟨perm.length_eq ▸ short, fun w member => within w (perm.mem_iff.mpr member)⟩ same

end Lists

section Options

variable {α : Type} {write : α → Bytes} {Same : α → α → Prop} {first second : Option α}

theorem writeOptional_length (related : Option.Rel Same first second)
    (each : ∀ a b, Same a b → (write a).length = (write b).length) :
    (writeOptional write first).length = (writeOptional write second).length := by
  cases related with
  | none => rfl
  | some both => simp [writeOptional, each _ _ both]

theorem writeOptional_inj (related : Option.Rel Same first second)
    (each : ∀ a ∈ first, ∀ b, Same a b → write a = write b → a = b)
    (same : writeOptional write first = writeOptional write second) : first = second := by
  cases related with
  | none => rfl
  | some both =>
    simp only [writeOptional, Option.isSome_some, Option.map_some, Option.getD_some, List.flatten_cons,
      List.flatten_nil, List.append_nil, List.append_cancel_left_eq] at same
    exact congrArg some (each _ rfl _ both same)

end Options

section Resources

variable {limits : Limits}

def SetRearranged (first second : CapabilitySet) : Prop := first.entries.Perm second.entries

theorem SetRearranged.length {first second : CapabilitySet} (same : SetRearranged first second) :
    (writeCapabilities first).length = (writeCapabilities second).length := writeList_length same

theorem SetRearranged.eq {first second : CapabilitySet} (rearranged : SetRearranged first second)
    (fits : CapabilitiesFit limits first) (same : writeCapabilities first = writeCapabilities second) :
    first = second := by
  have named : ∀ capability ∈ first.entries,
      capability.name.length ≤ 64 ∧ capabilityIdFromName capability.name = capability.id := by
    intro capability member
    have valid := fits.valid capability member
    unfold CapabilitySet.validateEntry validateCapabilityName at valid
    simp only [check_bind_ok, check_ok] at valid
    exact ⟨valid.1.2.1, valid.2.2⟩
  have entries := writeList_inj readCapability_decodes rearranged fits.count named same
  cases first
  cases second
  exact congrArg CapabilitySet.mk entries

structure LocalityRearranged (first second : LocalityDescriptor) : Prop where
  localDatasetVersions : first.localDatasetVersions.Perm second.localDatasetVersions
  residentModels : first.residentModels.Perm second.residentModels
  colocatedSimulators : first.colocatedSimulators.Perm second.colocatedSimulators

theorem LocalityRearranged.length {first second : LocalityDescriptor} (rearranged : LocalityRearranged first second) :
    (writeLocality first).length = (writeLocality second).length := by
  simp [writeLocality, writeIdList, writeList_length rearranged.localDatasetVersions,
    writeList_length rearranged.residentModels, writeList_length rearranged.colocatedSimulators]

theorem writeIdList_inj {kind : IdKind} {first second : List (StrongId kind)} {maximum : UInt32}
    (perm : first.Perm second) (listed : Listed maximum first) (same : writeIdList first = writeIdList second) :
    first = second := writeList_inj readId_decodes perm listed.1 (fun _ _ => trivial) same

theorem LocalityRearranged.eq {first second : LocalityDescriptor} (rearranged : LocalityRearranged first second)
    (fits : LocalityFits limits first) (same : writeLocality first = writeLocality second) : first = second := by
  have chunks := List.eq_iff_flatten_eq.mpr ⟨same, by
    simp [writeIdList, writeList_length rearranged.localDatasetVersions, writeList_length rearranged.residentModels,
      writeList_length rearranged.colocatedSimulators]⟩
  simp only [List.cons.injEq, and_true] at chunks
  obtain ⟨datasets, models, simulators⟩ := chunks
  have datasets := writeIdList_inj rearranged.localDatasetVersions fits.localDatasetVersions datasets
  have models := writeIdList_inj rearranged.residentModels fits.residentModels models
  have simulators := writeIdList_inj rearranged.colocatedSimulators fits.colocatedSimulators simulators
  cases first
  cases second
  exact LocalityDescriptor.mk.injEq .. ▸ ⟨datasets, models, simulators⟩

structure ModelRearranged (first second : ModelDescriptor) : Prop where
  modalities : SetRearranged first.modalities second.modalities
  others : { first with modalities := second.modalities } = second

theorem ModelRearranged.length {first second : ModelDescriptor} (rearranged : ModelRearranged first second) :
    (writeModel first).length = (writeModel second).length := by
  rw [← rearranged.others]
  simp [writeModel, rearranged.modalities.length]

theorem ModelRearranged.eq {first second : ModelDescriptor} (rearranged : ModelRearranged first second)
    (fits : ModelFits limits first) (same : writeModel first = writeModel second) : first = second := by
  rw [← rearranged.others] at same
  have chunks := List.eq_iff_flatten_eq.mpr ⟨same, by simp [rearranged.modalities.length]⟩
  simp only [List.cons.injEq, and_true, true_and] at chunks
  have modalities := rearranged.modalities.eq fits.modalities chunks
  rw [← rearranged.others, ← modalities]

structure SimulatorRearranged (first second : SimulatorDescriptor) : Prop where
  scenarios : first.scenarios.Perm second.scenarios
  others : { first with scenarios := second.scenarios } = second

theorem SimulatorRearranged.length {first second : SimulatorDescriptor} (rearranged : SimulatorRearranged first second) :
    (writeSimulator first).length = (writeSimulator second).length := by
  rw [← rearranged.others]
  simp [writeSimulator, writeStringList, writeList_length rearranged.scenarios]

theorem SimulatorRearranged.eq {first second : SimulatorDescriptor} (rearranged : SimulatorRearranged first second)
    (fits : SimulatorFits limits first) (same : writeSimulator first = writeSimulator second) : first = second := by
  rw [← rearranged.others] at same
  have chunks := List.eq_iff_flatten_eq.mpr ⟨same, by simp [writeStringList, writeList_length rearranged.scenarios]⟩
  simp only [List.cons.injEq, and_true, true_and] at chunks
  have scenarios := writeList_inj (ByteReader.str_decodes limits.maxStringLength) rearranged.scenarios fits.scenarios.1
    fits.texts chunks
  rw [← rearranged.others, ← scenarios]

/-- Another order in the lists of a description, and no other difference. -/
structure DescriptionRearranged (first second : Description) : Prop where
  capabilities : SetRearranged first.capabilities second.capabilities
  locality : LocalityRearranged first.locality second.locality
  accelerators : first.accelerators.Perm second.accelerators
  model : Option.Rel ModelRearranged first.model second.model
  simulator : Option.Rel SimulatorRearranged first.simulator second.simulator
  labels : first.labels.Perm second.labels
  others : { first with
    capabilities := second.capabilities, locality := second.locality, accelerators := second.accelerators,
    model := second.model, simulator := second.simulator, labels := second.labels } = second

theorem DescriptionRearranged.whole {first : Description} {second : ResourceRecord}
    (rearranged : DescriptionRearranged first second.toDescription) :
    { second with toDescription := { first with
      capabilities := second.capabilities, locality := second.locality, accelerators := second.accelerators,
      model := second.model, simulator := second.simulator, labels := second.labels } } = second :=
  congrArg (fun description : Description => { second with toDescription := description }) rearranged.others

theorem DescriptionRearranged.length {first second : ResourceRecord}
    (rearranged : DescriptionRearranged first.toDescription second.toDescription) :
    (writeResource first).length + second.authorityDetail.length =
      (writeResource second).length + first.authorityDetail.length := by
  rw [← rearranged.whole]
  simp [writeResource, writeId, writeEnum, rearranged.capabilities.length, rearranged.locality.length,
    writeList_length rearranged.accelerators, writeOptional_length rearranged.model fun _ _ => ModelRearranged.length,
    writeOptional_length rearranged.simulator fun _ _ => SimulatorRearranged.length, writeStringList,
    writeList_length rearranged.labels]
  omega

theorem DescriptionRearranged.eq {first second : ResourceRecord}
    (rearranged : DescriptionRearranged first.toDescription second.toDescription) (fits : ResourceFits limits first)
    (same : writeResource first = writeResource second) : first.toDescription = second.toDescription := by
  have within := fits.description
  have details : first.authorityDetail.length = second.authorityDetail.length := by
    have total := rearranged.length
    rw [same] at total
    omega
  rw [← rearranged.whole] at same
  have chunks := List.eq_iff_flatten_eq.mpr ⟨same, by
    simp [writeId, writeEnum, rearranged.capabilities.length, rearranged.locality.length,
      writeList_length rearranged.accelerators,
      writeOptional_length rearranged.model fun _ _ => ModelRearranged.length,
      writeOptional_length rearranged.simulator fun _ _ => SimulatorRearranged.length, writeStringList,
      writeList_length rearranged.labels, details]⟩
  simp only [List.cons.injEq, and_true, true_and] at chunks
  obtain ⟨capabilities, locality, accelerators, model, simulator, labels, -⟩ := chunks
  have capabilities := rearranged.capabilities.eq within.capabilities capabilities
  have locality := rearranged.locality.eq within.locality locality
  have accelerators := writeList_inj (readAccelerator_decodes limits) rearranged.accelerators within.accelerators
    within.accelerator accelerators
  have model := writeOptional_inj rearranged.model (fun model present other both =>
    both.eq (within.model model present)) model
  have simulator := writeOptional_inj rearranged.simulator (fun simulator present other both =>
    both.eq (within.simulator simulator present)) simulator
  have labels := writeList_inj (ByteReader.str_decodes limits.maxStringLength) rearranged.labels within.labels.1
    within.label labels
  rw [← rearranged.others, ← capabilities, ← locality, ← accelerators, ← model, ← simulator, ← labels]

theorem sortedSet_rearranged (capabilities : CapabilitySet) : SetRearranged capabilities (sortedSet capabilities) :=
  (capabilities.entries.perm_insertionSort ById).symm

theorem sortedDescription_rearranged (description : Description) :
    DescriptionRearranged description (sortedDescription description) where
  capabilities := sortedSet_rearranged _
  locality := ⟨.rfl, .rfl, .rfl⟩
  accelerators := .rfl
  model := by
    unfold sortedDescription
    cases description.model with
    | none => exact .none
    | some model => exact .some ⟨sortedSet_rearranged _, rfl⟩
  simulator := by
    unfold sortedDescription
    cases description.simulator with
    | none => exact .none
    | some simulator => exact .some ⟨.rfl, rfl⟩
  labels := .rfl
  others := rfl

theorem writeResource_sorted {resource : ResourceRecord} (fits : ResourceFits limits resource) :
    writeResource (sortedResource resource) = writeResource resource ↔
      CanonicalDescription resource.toDescription := by
  constructor
  · intro same
    have sorted := DescriptionRearranged.eq (sortedDescription_rearranged resource.toDescription) fits same.symm
    constructor
    · have canonical := sortedSet_canonical fits.description.capabilities.distinct
      rw [sorted]
      exact canonical
    · intro model present
      have models : resource.model = resource.model.map sortedModel := congrArg Description.model sorted
      rw [present] at models
      rw [Option.some_inj.mp models]
      exact sortedSet_canonical (fits.description.model model present).modalities.distinct
  · intro canonical
    unfold sortedResource
    rw [canonical.sorted_eq]

end Resources

section Requests

variable {limits : Limits}

section Lists

variable {α : Type} {write : α → Bytes} {Same : α → α → Prop} {first second : List α}

theorem writeItems_length (related : List.Forall₂ Same first second)
    (each : ∀ a b, Same a b → (write a).length = (write b).length) :
    (writeList write first).length = (writeList write second).length := by
  induction related with
  | nil => rfl
  | cons both _ ih =>
    simp only [writeList, List.flatten_cons, List.flatten_nil, List.append_nil, List.map_cons, List.length_append,
      ByteReader.u32_length, Nat.add_left_cancel_iff] at ih ⊢
    rw [each _ _ both, ih]

theorem writeItems_inj (related : List.Forall₂ Same first second)
    (length : ∀ a b, Same a b → (write a).length = (write b).length)
    (each : ∀ a ∈ first, ∀ b, Same a b → write a = write b → a = b)
    (same : (first.map write).flatten = (second.map write).flatten) : first = second := by
  induction related with
  | nil => rfl
  | cons both _ ih =>
    simp only [List.map_cons, List.flatten_cons] at same
    obtain ⟨head, tail⟩ := List.append_inj same (length _ _ both)
    obtain ⟨here, others⟩ := List.forall_mem_cons.mp each
    rw [here _ both head, ih others tail]

end Lists

structure RequirementRearranged (first second : ResourceRequirement) : Prop where
  requiredCapabilities : SetRearranged first.requiredCapabilities second.requiredCapabilities
  allowlist : first.allowlist.Perm second.allowlist
  denylist : first.denylist.Perm second.denylist
  others : { first with
    requiredCapabilities := second.requiredCapabilities, allowlist := second.allowlist,
    denylist := second.denylist } = second

theorem RequirementRearranged.length {first second : ResourceRequirement}
    (rearranged : RequirementRearranged first second) :
    (writeRequirement first).length = (writeRequirement second).length := by
  rw [← rearranged.others]
  simp [writeRequirement, rearranged.requiredCapabilities.length, writeIdList, writeList_length rearranged.allowlist,
    writeList_length rearranged.denylist]

theorem RequirementRearranged.eq {first second : ResourceRequirement} (rearranged : RequirementRearranged first second)
    (fits : RequirementFits limits first) (same : writeRequirement first = writeRequirement second) :
    first = second := by
  rw [← rearranged.others] at same
  have chunks := List.eq_iff_flatten_eq.mpr ⟨same, by
    simp [rearranged.requiredCapabilities.length, writeIdList, writeList_length rearranged.allowlist,
      writeList_length rearranged.denylist]⟩
  simp only [List.cons.injEq, and_true, true_and] at chunks
  obtain ⟨requiredCapabilities, allowlist, denylist⟩ := chunks
  have requiredCapabilities := rearranged.requiredCapabilities.eq fits.requiredCapabilities requiredCapabilities
  have allowlist := writeIdList_inj rearranged.allowlist fits.allowlist allowlist
  have denylist := writeIdList_inj rearranged.denylist fits.denylist denylist
  rw [← rearranged.others, ← requiredCapabilities, ← allowlist, ← denylist]

structure RequestRearranged (first second : ScheduleRequest) : Prop where
  requirements : List.Forall₂ RequirementRearranged first.requirements second.requirements
  others : { first with requirements := second.requirements } = second

theorem RequestRearranged.length {first second : ScheduleRequest} (rearranged : RequestRearranged first second) :
    (writeRequest first).length = (writeRequest second).length := by
  rw [← rearranged.others]
  simp [writeRequest, writeItems_length rearranged.requirements fun _ _ => RequirementRearranged.length]

theorem RequestRearranged.eq {first second : ScheduleRequest} (rearranged : RequestRearranged first second)
    (fits : RequestFits limits first) (same : writeRequest first = writeRequest second) : first = second := by
  rw [← rearranged.others] at same
  have chunks := List.eq_iff_flatten_eq.mpr ⟨same, by
    simp [writeItems_length rearranged.requirements fun _ _ => RequirementRearranged.length]⟩
  simp only [List.cons.injEq, and_true, true_and] at chunks
  have counted : lengthU32 first.requirements = lengthU32 second.requirements :=
    congrArg UInt32.ofNat rearranged.requirements.length_eq
  simp only [writeList, counted, List.flatten_cons, List.flatten_nil, List.append_nil,
    List.append_cancel_left_eq] at chunks
  have requirements := writeItems_inj rearranged.requirements (fun _ _ => RequirementRearranged.length)
    (fun requirement member other both => both.eq (fits.requirement requirement member)) chunks
  rw [← rearranged.others, ← requirements]

theorem sortedRequest_rearranged (request : ScheduleRequest) : RequestRearranged request (sortedRequest request) where
  requirements := by
    unfold sortedRequest
    induction request.requirements with
    | nil => exact .nil
    | cons requirement rest ih => exact .cons ⟨sortedSet_rearranged _, .rfl, .rfl, rfl⟩ ih
  others := rfl

theorem writeRequest_sorted {request : ScheduleRequest} (fits : RequestFits limits request) :
    writeRequest (sortedRequest request) = writeRequest request ↔ CanonicalRequest request := by
  constructor
  · intro same requirement member
    have sorted := (sortedRequest_rearranged request).eq fits same.symm
    have requirements : request.requirements = request.requirements.map sortedRequirement :=
      congrArg ScheduleRequest.requirements sorted
    rw [requirements] at member
    obtain ⟨before, there, rfl⟩ := List.mem_map.mp member
    exact sortedSet_canonical (fits.requirement before there).requiredCapabilities.distinct
  · intro canonical
    rw [canonical.sorted_eq]

end Requests

/-- What is read is written again as it was, exactly if the bytes list every set of capabilities in the order of the
    identities. -/
theorem canonical_decoding (limits : Limits) (reader : ByteReader) :
    (∀ resource after, readResource limits reader = .ok (resource, after) →
      (Consumes (writeResource resource) reader after ↔
        ∀ listed, ResourceFits limits listed → writeResource listed <+: Source.rest reader →
          CanonicalDescription listed.toDescription)) ∧
      ∀ request after, readRequest limits reader = .ok (request, after) →
        (Consumes (writeRequest request) reader after ↔
          ∀ listed, RequestFits limits listed → writeRequest listed <+: Source.rest reader →
            CanonicalRequest listed) := by
  constructor
  · intro resource after accepted
    refine (readResource_decodes limits).rewritten (fun listed => ?_) (fun listed fits => writeResource_sorted fits)
      accepted
    have length := @DescriptionRearranged.length listed (sortedResource listed) (sortedDescription_rearranged _)
    exact (Nat.add_right_cancel length).symm
  · intro request after accepted
    exact (readRequest_decodes limits).rewritten (fun listed => (sortedRequest_rearranged listed).length.symm)
      (fun listed fits => writeRequest_sorted fits) accepted

namespace Bench

def named (name : Text) : Capability := { id := capabilityIdFromName name, name }

/-- A resource with two capabilities; the identity of the first is above that of the second. -/
def descending : ResourceRecord :=
  { id := ⟨5⟩, name := ascii "bench", capabilities := ⟨[named (ascii "a"), named (ascii "b")]⟩ }

def ascending : ResourceRecord :=
  { id := ⟨5⟩, name := ascii "bench", capabilities := ⟨[named (ascii "b"), named (ascii "a")]⟩ }

def reread (resource : ResourceRecord) : Option ResourceRecord :=
  (readResource {} { bytes := writeResource resource }).toOption.map Prod.fst

theorem reread_ok {resource result : ResourceRecord} (accepted : reread resource = some result) :
    ∃ after, readResource {} { bytes := writeResource resource } = .ok (result, after) := by
  unfold reread at accepted
  cases read : readResource {} { bytes := writeResource resource } with
  | error status =>
    rw [read] at accepted
    cases accepted
  | ok both =>
    rw [read] at accepted
    obtain rfl : both.1 = result := Option.some_inj.mp accepted
    exact ⟨both.2, rfl⟩

theorem ascending_reread : reread ascending = some ascending := by decide +kernel

theorem descending_reread : reread descending = some ascending := by decide +kernel

end Bench

theorem canonical_decoding_bench :
    ∃ after, readResource {} { bytes := writeResource Bench.ascending } = .ok (Bench.ascending, after) ∧
      (Consumes (writeResource Bench.ascending) ({ bytes := writeResource Bench.ascending } : ByteReader) after ↔
        ∀ listed, ResourceFits {} listed → writeResource listed <+: writeResource Bench.ascending →
          CanonicalDescription listed.toDescription) := by
  obtain ⟨after, accepted⟩ := Bench.reread_ok Bench.ascending_reread
  exact ⟨after, accepted, (canonical_decoding {} { bytes := writeResource Bench.ascending }).1 _ _ accepted⟩

/-- Two encodings of one record are accepted, of which only one is written. -/
theorem descending_accepted :
    Bench.reread Bench.descending = some Bench.ascending ∧ Bench.reread Bench.ascending = some Bench.ascending ∧
      ¬ ∀ limits reader resource after, readResource limits reader = .ok (resource, after) →
        Consumes (writeResource resource) reader after := by
  refine ⟨Bench.descending_reread, Bench.ascending_reread, fun always => ?_⟩
  obtain ⟨after, accepted⟩ := Bench.reread_ok Bench.descending_reread
  have consumes := always _ _ _ _ accepted
  have size : (writeResource Bench.ascending).length = (writeResource Bench.descending).length := by decide +kernel
  have same : writeResource Bench.ascending = writeResource Bench.descending := consumes.1.eq_of_length size
  exact absurd same (by decide +kernel)

end RecordCodec

end LabScheduler
