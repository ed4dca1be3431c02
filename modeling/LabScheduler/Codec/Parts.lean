import LabScheduler.Codec.Checks

namespace LabScheduler

open Foundation

namespace RecordCodec

abbrev Format := List (Part ErrorCode UInt8)

section Fields

variable {ω : Type}

def plainPart (write : ω → Bytes) (bounds : ω → Prop) : Part ErrorCode UInt8 := .of write bounds fun _ _ => False

def u32Part : Part ErrorCode UInt8 := plainPart ByteWriter.u32 fun _ => True

def u64Part : Part ErrorCode UInt8 := plainPart ByteWriter.u64 fun _ => True

def booleanPart : Part ErrorCode UInt8 := plainPart ByteWriter.boolean fun _ => True

def textPart (maximum : UInt32) : Part ErrorCode UInt8 :=
  plainPart ByteWriter.str fun text => text.length ≤ maximum.toNat

def idPart : Part ErrorCode UInt8 := u64Part

def optionalIdPart : Part ErrorCode UInt8 := plainPart (writeOptional ByteWriter.u64) fun _ => True

def enumPart (α : Type) [DecidableEq α] [Enumerated α] : Part ErrorCode UInt8 :=
  .of (writeEnum : α → Bytes) (fun _ => True) (checkRefusal .corruptPersistence ByteWriter.u8 (fun _ => True)
    fun raw => raw.toNat < (Enumerated.values : List α).length)

def priorityPart : Part ErrorCode UInt8 :=
  .of writePriority (fun priority => -1000 ≤ priority.toInt ∧ priority.toInt ≤ 1000)
    (checkRefusal .corruptPersistence ByteWriter.u32 (fun _ => True) fun raw => ¬ (raw < 1000 ∨ 3000 < raw))

def reassignmentsPart : Part ErrorCode UInt8 :=
  .of ByteWriter.u32 (fun count => count ≤ 16)
    (checkRefusal .corruptPersistence ByteWriter.u32 (fun _ => True) fun count => ¬ 16 < count)

def weightsPart : Part ErrorCode UInt8 :=
  .of writeWeights (fun weights => ∀ factor, FairWeight (weights factor))
    (refusedIn (RankingFactor.all.map fun _ => weightPart))

def idListPart (kind : IdKind) (maximum : UInt32) : Part ErrorCode UInt8 :=
  .of (writeIdList : List (StrongId kind) → Bytes) (Listed maximum)
    (orderedRefusal (writeId : StrongId kind → Bytes) (fun _ => True) maximum)

def stringListPart (maximum maximumLength : UInt32) : Part ErrorCode UInt8 :=
  .of writeStringList (fun texts => (∀ text ∈ texts, text.length ≤ maximumLength.toNat) ∧ Listed maximum texts)
    (orderedRefusal ByteWriter.str (fun text => text.length ≤ maximumLength.toNat) maximum)

def capabilitiesPart (limits : Limits) : Part ErrorCode UInt8 :=
  .of writeCapabilities (CapabilitiesFit limits) (capabilitiesRefusal limits)

def recordPart (write : ω → Bytes) (bounds : ω → Prop) (parts : Format) : Part ErrorCode UInt8 :=
  .of write bounds (refusedIn parts)

def optionalPart (write : ω → Bytes) (bounds : ω → Prop) (parts : Format) : Part ErrorCode UInt8 :=
  .of (writeOptional write) (fun present => ∀ w ∈ present, bounds w) (optionalRefusal (refusedIn parts))

def listPart (write : ω → Bytes) (bounds : ω → Prop) (parts : Format) (maximum : UInt32) : Part ErrorCode UInt8 :=
  .of (writeList write) (fun items => items.length ≤ maximum.toNat ∧ ∀ w ∈ items, bounds w)
    (listRefusal write bounds (refusedIn parts) maximum)

variable {α : Type} {write : ω → Bytes} {value : ω → α} {read : Decoder α} {bounds : ω → Prop}
  {refusal : ErrorCode → Bytes → Prop}

theorem readOptional_judges (item : Judges write value read bounds refusal) :
    Judges (writeOptional write) (Option.map value) (readOptional read) (fun present => ∀ w ∈ present, bounds w)
      (optionalRefusal refusal) := ⟨readOptional_decodes item.decodes, readOptional_stops item.stops⟩

theorem readList_judges (item : Judges write value read bounds refusal) (maximum : UInt32) :
    Judges (writeList write) (List.map value) (readList read maximum)
      (fun items => items.length ≤ maximum.toNat ∧ ∀ w ∈ items, bounds w)
      (listRefusal write bounds refusal maximum) := ⟨readList_decodes item.decodes maximum, readList_stops item maximum⟩

theorem readId_plain {kind : IdKind} :
    ByteReader.Plain ByteWriter.u64 StrongId.mk (readId : Decoder (StrongId kind)) (fun _ => True) :=
  ⟨readId_decodes.along StrongId.mk fun id => ⟨id.value, rfl⟩, readId_judges.stops⟩

theorem readOptionalId_judges {kind : IdKind} :
    ByteReader.Plain (writeOptional ByteWriter.u64) (Option.map StrongId.mk)
      (readOptional (readId : Decoder (StrongId kind))) (fun _ => True) :=
  ⟨(readOptional_decodes readId_plain.decodes).congr fun _ => by simp,
    (readOptional_stops readId_plain.stops).congr fun _ _ => by simp [optionalRefusal]⟩

theorem readWeights_judges :
    Judges writeWeights id readWeights (fun weights => ∀ factor, FairWeight (weights factor))
      (refusedIn (RankingFactor.all.map fun _ => weightPart)) :=
  ⟨readWeights_decodes, readWeightsOf_stops RankingFactor.all RankingWeights.default⟩

theorem readIdList_judges {kind : IdKind} (maximum : UInt32) :
    Judges writeIdList id (readIdList maximum : Decoder (List (StrongId kind))) (Listed maximum)
      (orderedRefusal (writeId : StrongId kind → Bytes) (fun _ => True) maximum) :=
  ⟨readIdList_decodes maximum, readOrdered_stops readId_judges _ maximum⟩

theorem readStringList_judges (maximum maximumLength : UInt32) :
    Judges writeStringList id (readStringList maximum maximumLength)
      (fun texts => (∀ text ∈ texts, text.length ≤ maximumLength.toNat) ∧ Listed maximum texts)
      (orderedRefusal ByteWriter.str (fun text => text.length ≤ maximumLength.toNat) maximum) :=
  ⟨readStringList_decodes maximum maximumLength, readOrdered_stops (ByteReader.str_judges maximumLength) _ maximum⟩

theorem readCapabilities_judges (limits : Limits) :
    Judges writeCapabilities sortedSet (readCapabilities limits) (CapabilitiesFit limits) (capabilitiesRefusal limits) :=
  ⟨readCapabilities_decodes limits, readCapabilities_stops limits⟩

end Fields

section Descriptions

variable (limits : Limits)

theorem readTopologyDomain_judges (maximum : UInt32) :
    ByteReader.Plain writeTopologyDomain id (readTopologyDomain maximum)
      (fun domain => domain.name.length ≤ maximum.toNat) :=
  ⟨readTopologyDomain_decodes maximum,
    .quiet readId_judges.stops fun _ => .quiet (ByteReader.str_judges maximum).stops fun _ => .pure _⟩

theorem readTopology_judges (maximum : UInt32) :
    ByteReader.Plain writeTopology id (readTopology maximum)
      (fun topology => ∀ scope, (topology.domain scope).name.length ≤ maximum.toNat) :=
  ⟨readTopology_decodes maximum,
    .quiet (readTopologyDomain_judges maximum).stops fun _ =>
    .quiet (readTopologyDomain_judges maximum).stops fun _ =>
    .quiet (readTopologyDomain_judges maximum).stops fun _ =>
    .quiet (readTopologyDomain_judges maximum).stops fun _ =>
    .quiet (readTopologyDomain_judges maximum).stops fun _ =>
    .quiet ByteReader.boolean_judges.stops fun _ =>
    .pure _⟩

def acceleratorFormat : Format :=
  [idPart, textPart limits.maxStringLength, u64Part, u32Part, u32Part, idPart]

theorem readAccelerator_judges :
    Judges writeAccelerator id (readAccelerator limits)
      (fun accelerator => accelerator.model.length ≤ limits.maxStringLength.toNat)
      (refusedIn (acceleratorFormat limits)) :=
  ⟨readAccelerator_decodes limits,
    .field readId_plain fun _ _ =>
    .field (ByteReader.str_judges _) fun _ _ =>
    .field ByteReader.u64_judges fun _ _ =>
    .field ByteReader.u32_judges fun _ _ =>
    .field ByteReader.u32_judges fun _ _ =>
    .field readId_plain fun _ _ =>
    .done _⟩

def localityFormat : Format :=
  [idListPart .datasetVersion limits.maxLocalDatasetsPerResource,
    idListPart .modelResource limits.maxResidentModelsPerResource,
    idListPart .simulator limits.maxSimulatorScenarios]

theorem readLocality_judges :
    Judges writeLocality id (readLocality limits) (LocalityFits limits) (refusedIn (localityFormat limits)) :=
  ⟨readLocality_decodes limits,
    .field (readIdList_judges _) fun _ _ =>
    .field (readIdList_judges _) fun _ _ =>
    .field (readIdList_judges _) fun _ _ =>
    .done _⟩

def modelFormat : Format :=
  [idPart, textPart limits.maxDigestLength, u32Part, booleanPart, booleanPart, capabilitiesPart limits]

theorem readModel_judges :
    Judges writeModel sortedModel (readModel limits) (ModelFits limits) (refusedIn (modelFormat limits)) :=
  ⟨readModel_decodes limits,
    .field readId_plain fun _ _ =>
    .field (ByteReader.str_judges _) fun _ _ =>
    .field ByteReader.u32_judges fun _ _ =>
    .field ByteReader.boolean_judges fun _ _ =>
    .field ByteReader.boolean_judges fun _ _ =>
    .field (readCapabilities_judges limits) fun _ _ =>
    .done _⟩

def simulatorFormat : Format :=
  [idPart, textPart limits.maxDigestLength, stringListPart limits.maxSimulatorScenarios limits.maxStringLength, u32Part]

theorem readSimulator_judges :
    Judges writeSimulator id (readSimulator limits) (SimulatorFits limits) (refusedIn (simulatorFormat limits)) :=
  ⟨readSimulator_decodes limits,
    .field readId_plain fun _ _ =>
    .field (ByteReader.str_judges _) fun _ _ =>
    .field (readStringList_judges _ _) fun _ _ =>
    .field ByteReader.u32_judges fun _ _ =>
    .done _⟩

def datasetFormat : Format := [idPart, idPart, textPart limits.maxDigestLength, u64Part]

theorem readDataset_judges :
    Judges writeDataset id (readDataset limits) (fun dataset => dataset.digest.length ≤ limits.maxDigestLength.toNat)
      (refusedIn (datasetFormat limits)) :=
  ⟨readDataset_decodes limits,
    .field readId_plain fun _ _ =>
    .field readId_plain fun _ _ =>
    .field (ByteReader.str_judges _) fun _ _ =>
    .field ByteReader.u64_judges fun _ _ =>
    .done _⟩

def environmentFormat : Format :=
  [idPart, textPart limits.maxDigestLength, idPart, idPart, textPart limits.maxStringLength]

theorem readEnvironment_judges :
    Judges writeEnvironment id (readEnvironment limits) (EnvironmentFits limits)
      (refusedIn (environmentFormat limits)) :=
  ⟨readEnvironment_decodes limits,
    .field readId_plain fun _ _ =>
    .field (ByteReader.str_judges _) fun _ _ =>
    .field readId_plain fun _ _ =>
    .field readId_plain fun _ _ =>
    .field (ByteReader.str_judges _) fun _ _ =>
    .done _⟩

def resourceFormat : Format :=
  [idPart, enumPart ResourceClass, textPart limits.maxStringLength, idPart, idPart, enumPart Provenance,
    enumPart SharingMode, capabilitiesPart limits, u32Part, u64Part, u32Part, u32Part, enumPart HealthState,
    textPart limits.maxStringLength, enumPart ReadinessState,
    plainPart writeTopology fun topology => ∀ scope, (topology.domain scope).name.length ≤ limits.maxStringLength.toNat,
    recordPart writeLocality (LocalityFits limits) (localityFormat limits),
    listPart writeAccelerator (fun accelerator => accelerator.model.length ≤ limits.maxStringLength.toNat)
      (acceleratorFormat limits) limits.maxAcceleratorsPerResource,
    optionalPart writeModel (ModelFits limits) (modelFormat limits),
    optionalPart writeSimulator (SimulatorFits limits) (simulatorFormat limits),
    optionalPart writeDataset (fun dataset => dataset.digest.length ≤ limits.maxDigestLength.toNat)
      (datasetFormat limits),
    optionalPart writeEnvironment (EnvironmentFits limits) (environmentFormat limits),
    textPart limits.maxStringLength, stringListPart limits.maxCapabilitiesPerResource limits.maxStringLength,
    enumPart ResourceLifecycle, idPart, idPart, idPart, u64Part, idPart, booleanPart, textPart limits.maxStringLength,
    u32Part]

theorem readResource_judges :
    Judges writeResource sortedResource (readResource limits) (ResourceFits limits)
      (refusedIn (resourceFormat limits)) :=
  ⟨readResource_decodes limits,
    .field readId_plain fun _ _ =>
    .field readEnum_judges fun _ _ =>
    .field (ByteReader.str_judges _) fun _ _ =>
    .field readId_plain fun _ _ =>
    .field readId_plain fun _ _ =>
    .field readEnum_judges fun _ _ =>
    .field readEnum_judges fun _ _ =>
    .field (readCapabilities_judges limits) fun _ _ =>
    .field ByteReader.u32_judges fun _ _ =>
    .field ByteReader.u64_judges fun _ _ =>
    .field ByteReader.u32_judges fun _ _ =>
    .field ByteReader.u32_judges fun _ _ =>
    .field readEnum_judges fun _ _ =>
    .field (ByteReader.str_judges _) fun _ _ =>
    .field readEnum_judges fun _ _ =>
    .field (readTopology_judges _) fun _ _ =>
    .field (readLocality_judges limits) fun _ _ =>
    .field (readList_judges (readAccelerator_judges limits) _) fun _ _ =>
    .field (readOptional_judges (readModel_judges limits)) fun _ _ =>
    .field (readOptional_judges (readSimulator_judges limits)) fun _ _ =>
    .field (readOptional_judges (readDataset_judges limits)) fun _ _ =>
    .field (readOptional_judges (readEnvironment_judges limits)) fun _ _ =>
    .field (ByteReader.str_judges _) fun _ _ =>
    .field (readStringList_judges _ _) fun _ _ =>
    .field readEnum_judges fun _ _ =>
    .field readId_plain fun _ _ =>
    .field readId_plain fun _ _ =>
    .field readId_plain fun _ _ =>
    .field ByteReader.u64_judges fun _ _ =>
    .field readId_plain fun _ _ =>
    .field ByteReader.boolean_judges fun _ _ =>
    .field (ByteReader.str_judges _) fun _ _ =>
    .field ByteReader.u32_judges fun _ _ =>
    .done _⟩

end Descriptions

section Requests

variable (limits : Limits)

def requirementFormat : Format :=
  [textPart limits.maxStringLength, enumPart ResourceClass, capabilitiesPart limits, u32Part, u64Part, booleanPart,
    booleanPart, enumPart HealthState, u32Part, optionalIdPart, optionalIdPart, textPart limits.maxDigestLength,
    booleanPart, optionalIdPart, textPart limits.maxDigestLength, textPart limits.maxStringLength, booleanPart,
    optionalIdPart, optionalIdPart, optionalIdPart, textPart limits.maxDigestLength, optionalIdPart, optionalIdPart,
    optionalIdPart, enumPart TopologyScope, idListPart .resource limits.maxAllowlistEntries,
    idListPart .resource limits.maxDenylistEntries, u32Part]

theorem readRequirement_judges :
    Judges writeRequirement sortedRequirement (readRequirement limits) (RequirementFits limits)
      (refusedIn (requirementFormat limits)) :=
  ⟨readRequirement_decodes limits,
    .field (ByteReader.str_judges _) fun _ _ =>
    .field readEnum_judges fun _ _ =>
    .field (readCapabilities_judges limits) fun _ _ =>
    .field ByteReader.u32_judges fun _ _ =>
    .field ByteReader.u64_judges fun _ _ =>
    .field ByteReader.boolean_judges fun _ _ =>
    .field ByteReader.boolean_judges fun _ _ =>
    .field readEnum_judges fun _ _ =>
    .field ByteReader.u32_judges fun _ _ =>
    .field readOptionalId_judges fun _ _ =>
    .field readOptionalId_judges fun _ _ =>
    .field (ByteReader.str_judges _) fun _ _ =>
    .field ByteReader.boolean_judges fun _ _ =>
    .field readOptionalId_judges fun _ _ =>
    .field (ByteReader.str_judges _) fun _ _ =>
    .field (ByteReader.str_judges _) fun _ _ =>
    .field ByteReader.boolean_judges fun _ _ =>
    .field readOptionalId_judges fun _ _ =>
    .field readOptionalId_judges fun _ _ =>
    .field readOptionalId_judges fun _ _ =>
    .field (ByteReader.str_judges _) fun _ _ =>
    .field readOptionalId_judges fun _ _ =>
    .field readOptionalId_judges fun _ _ =>
    .field readOptionalId_judges fun _ _ =>
    .field readEnum_judges fun _ _ =>
    .field (readIdList_judges _) fun _ _ =>
    .field (readIdList_judges _) fun _ _ =>
    .field ByteReader.u32_judges fun _ _ =>
    .done _⟩

def constraintFormat : Format := [u32Part, u32Part, enumPart TopologyScope]

theorem readConstraint_judges :
    Judges writeConstraint id readConstraint (fun _ => True) (refusedIn constraintFormat) :=
  ⟨readConstraint_decodes,
    .field ByteReader.u32_judges fun _ _ =>
    .field ByteReader.u32_judges fun _ _ =>
    .field readEnum_judges fun _ _ =>
    .done _⟩

def requestFormat : Format :=
  [idPart, idPart, idPart, idPart, textPart limits.maxStringLength, textPart limits.maxStringLength, priorityPart,
    listPart writeRequirement (RequirementFits limits) (requirementFormat limits) limits.maxRequirementsPerRequest,
    listPart writeConstraint (fun _ => True) constraintFormat limits.maxAntiAffinityPairs,
    listPart writeConstraint (fun _ => True) constraintFormat limits.maxAntiAffinityPairs, booleanPart, booleanPart,
    booleanPart, booleanPart, reassignmentsPart, weightsPart, textPart limits.maxStringLength,
    textPart limits.maxStringLength]

theorem readRequest_judges :
    Judges writeRequest sortedRequest (readRequest limits) (RequestFits limits) (refusedIn (requestFormat limits)) :=
  ⟨readRequest_decodes limits,
    .field readId_plain fun _ _ =>
    .field readId_plain fun _ _ =>
    .field readId_plain fun _ _ =>
    .field readId_plain fun _ _ =>
    .field (ByteReader.str_judges _) fun _ _ =>
    .field (ByteReader.str_judges _) fun _ _ =>
    .field readPriority_judges fun _ _ =>
    .field (readList_judges (readRequirement_judges limits) _) fun _ _ =>
    .field (readList_judges readConstraint_judges _) fun _ _ =>
    .field (readList_judges readConstraint_judges _) fun _ _ =>
    .field ByteReader.boolean_judges fun _ _ =>
    .field ByteReader.boolean_judges fun _ _ =>
    .field ByteReader.boolean_judges fun _ _ =>
    .field ByteReader.boolean_judges fun _ _ =>
    .field (readReassignments_judges _) fun _ _ =>
    .field readWeights_judges fun _ _ =>
    .field (ByteReader.str_judges _) fun _ _ =>
    .field (ByteReader.str_judges _) fun _ _ =>
    .done _⟩

def storedRequestFormat : Format :=
  [recordPart writeRequest (RequestFits limits) (requestFormat limits), enumPart RequestState, u64Part, idPart, u32Part,
    textPart limits.maxStringLength]

theorem readStoredRequest_judges :
    Judges writeStoredRequest sortedStored (readStoredRequest limits) (StoredFits limits)
      (refusedIn (storedRequestFormat limits)) :=
  ⟨readStoredRequest_decodes limits,
    .field (readRequest_judges limits) fun _ _ =>
    .field readEnum_judges fun _ _ =>
    .field ByteReader.u64_judges fun _ _ =>
    .field readId_plain fun _ _ =>
    .field ByteReader.u32_judges fun _ _ =>
    .field (ByteReader.str_judges _) fun _ _ =>
    .done _⟩

end Requests

section Placements

variable (limits : Limits)

def selectedFormat : Format :=
  [idPart, enumPart ResourceClass, idPart, u32Part, booleanPart, textPart limits.maxStringLength, idPart, idPart,
    textPart limits.maxStringLength]

theorem readSelected_judges :
    Judges writeSelected id (readSelected limits) (SelectedFits limits) (refusedIn (selectedFormat limits)) :=
  ⟨readSelected_decodes limits,
    .field readId_plain fun _ _ =>
    .field readEnum_judges fun _ _ =>
    .field readId_plain fun _ _ =>
    .field ByteReader.u32_judges fun _ _ =>
    .field ByteReader.boolean_judges fun _ _ =>
    .field (ByteReader.str_judges _) fun _ _ =>
    .field readId_plain fun _ _ =>
    .field readId_plain fun _ _ =>
    .field (ByteReader.str_judges _) fun _ _ =>
    .done _⟩

def selectedListPart : Part ErrorCode UInt8 :=
  listPart writeSelected (SelectedFits limits) (selectedFormat limits) limits.maxRequirementsPerRequest

def placementFormat : Format :=
  [idPart, idPart, idPart, idPart, idPart, idPart, idPart, idPart, selectedListPart limits, idPart, idPart, idPart,
    idPart, enumPart PlacementState, reassignmentsPart, booleanPart, textPart limits.maxStringLength, u64Part,
    textPart limits.maxStringLength]

theorem readPlacement_judges :
    Judges writePlacement id (readPlacement limits) (PlacementFits limits) (refusedIn (placementFormat limits)) :=
  ⟨readPlacement_decodes limits,
    .field readId_plain fun _ _ =>
    .field readId_plain fun _ _ =>
    .field readId_plain fun _ _ =>
    .field readId_plain fun _ _ =>
    .field readId_plain fun _ _ =>
    .field readId_plain fun _ _ =>
    .field readId_plain fun _ _ =>
    .field readId_plain fun _ _ =>
    .field (readList_judges (readSelected_judges limits) _) fun _ _ =>
    .field readId_plain fun _ _ =>
    .field readId_plain fun _ _ =>
    .field readId_plain fun _ _ =>
    .field readId_plain fun _ _ =>
    .field readEnum_judges fun _ _ =>
    .field (readReassignments_judges _) fun _ _ =>
    .field ByteReader.boolean_judges fun _ _ =>
    .field (ByteReader.str_judges _) fun _ _ =>
    .field ByteReader.u64_judges fun _ _ =>
    .field (ByteReader.str_judges _) fun _ _ =>
    .done _⟩

def claimFormat : Format := [idPart, u32Part, booleanPart, idPart]

theorem readClaim_judges : Judges writeClaim id readClaim (fun _ => True) (refusedIn claimFormat) :=
  ⟨readClaim_decodes,
    .field readId_plain fun _ _ =>
    .field ByteReader.u32_judges fun _ _ =>
    .field ByteReader.boolean_judges fun _ _ =>
    .field readId_plain fun _ _ =>
    .done _⟩

def reservationFormat : Format :=
  [idPart, idPart, idPart, idPart, idPart, idPart, idPart, idPart,
    listPart writeClaim (fun _ => True) claimFormat limits.maxRequirementsPerRequest, enumPart ReservationState,
    u64Part, textPart limits.maxStringLength]

theorem readReservation_judges :
    Judges writeReservation id (readReservation limits) (ReservationFits limits)
      (refusedIn (reservationFormat limits)) :=
  ⟨readReservation_decodes limits,
    .field readId_plain fun _ _ =>
    .field readId_plain fun _ _ =>
    .field readId_plain fun _ _ =>
    .field readId_plain fun _ _ =>
    .field readId_plain fun _ _ =>
    .field readId_plain fun _ _ =>
    .field readId_plain fun _ _ =>
    .field readId_plain fun _ _ =>
    .field (readList_judges readClaim_judges _) fun _ _ =>
    .field readEnum_judges fun _ _ =>
    .field ByteReader.u64_judges fun _ _ =>
    .field (ByteReader.str_judges _) fun _ _ =>
    .done _⟩

def authorityEnvelopeFormat : Format :=
  [idPart, idPart, idPart, idPart, idPart, idPart, idPart, idPart, idPart, idPart, selectedListPart limits]

theorem readAuthorityEnvelope_judges :
    Judges writeAuthorityEnvelope id (readAuthorityEnvelope limits) (AuthorityFits limits)
      (refusedIn (authorityEnvelopeFormat limits)) :=
  ⟨readAuthorityEnvelope_decodes limits,
    .field readId_plain fun _ _ =>
    .field readId_plain fun _ _ =>
    .field readId_plain fun _ _ =>
    .field readId_plain fun _ _ =>
    .field readId_plain fun _ _ =>
    .field readId_plain fun _ _ =>
    .field readId_plain fun _ _ =>
    .field readId_plain fun _ _ =>
    .field readId_plain fun _ _ =>
    .field readId_plain fun _ _ =>
    .field (readList_judges (readSelected_judges limits) _) fun _ _ =>
    .done _⟩

end Placements

end RecordCodec

end LabScheduler
