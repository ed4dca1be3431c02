import LabScheduler.Codec.Framing
import LabScheduler.Codec.Parts
import LabScheduler.Codec.Transport

namespace LabScheduler

open Foundation RecordCodec

instance : Enumerated DecisionOutcome where
  values := [.placed, .noPlacement]
  complete value := by cases value <;> decide
  distinct := by decide
  small := by decide

instance : Enumerated ErrorCode where
  values :=
    [.ok, .noPlacement, .resourceLost, .staleResource, .staleEpoch, .staleWorker, .stalePlacement, .staleExperiment,
      .capacityExhausted, .capabilityMismatch, .topologyMismatch, .modelMismatch, .datasetMismatch,
      .environmentUnavailable, .unsupported, .cancelled, .preempted, .reassignmentRequired, .corruptPersistence,
      .protocolError, .resourceExhausted, .invalidIdentity, .duplicateIdentity, .notFound, .generationMismatch,
      .reservationConflict, .reservationNotActive, .unauthorized, .duplicateCompletion, .invalidArgument,
      .limitExceeded, .healthRejected, .exclusivityConflict, .notReady, .tenantViolation, .ioFailure, .internalError,
      .shuttingDown, .busy]
  complete value := by cases value <;> decide
  distinct := by decide
  small := by decide

def RecordCodec.readCompletionClaim (limits : Limits) : Decoder CompletionClaim := do
  let placement ← readId
  let placementGeneration ← readId
  let experiment ← readId
  let experimentGeneration ← readId
  let epoch ← readId
  let workerBoot ← readId
  let resources ← readList readId limits.maxRequirementsPerRequest
  let resourceGenerations ← readList readId limits.maxRequirementsPerRequest
  let succeeded ← ByteReader.boolean
  let detail ← ByteReader.str limits.maxStringLength
  return {
    placement, placementGeneration, experiment, experimentGeneration, epoch, workerBoot, resources,
    resourceGenerations, succeeded, detail }

namespace Protocol

structure HelloMessage extends LabScheduler.HelloMessage where
  authority : Text := []

structure DecisionMessage where
  decision : DecisionId := {}
  outcome : DecisionOutcome := .noPlacement
  failure : ErrorCode := .ok
  failureDetail : Text := []
  placement : PlacementRecord := {}
  authority : AuthorityEnvelope := {}
  explanation : Text := []

structure InspectMessage where
  subject : Text := []

structure InspectReplyMessage where
  subject : Text := []
  text : Text := []

structure SaveStateMessage where
  path : Text := []

section Readers

/-- An enumerator by its number, which is refused as unknown past the last one. -/
def readKnown {ω α : Type} [DecidableEq α] [Enumerated α] (read : Decoder ω) (number : ω → Nat) (unknown : Text) :
    Decoder α := do
  let raw ← read
  match (Enumerated.values : List α)[number raw]? with
  | none => Reader.check (fail .protocolError unknown)
  | some value => return value

def readOutcome : Decoder DecisionOutcome :=
  readKnown ByteReader.u8 UInt8.toNat (ascii "unknown decision outcome in payload")

def readErrorCode : Decoder ErrorCode :=
  readKnown ByteReader.u16 UInt16.toNat (ascii "unknown error code in payload")

def readPlacementState : Decoder PlacementState :=
  readKnown ByteReader.u8 UInt8.toNat (ascii "unknown placement state in payload")

def readResourceLifecycle : Decoder ResourceLifecycle :=
  readKnown ByteReader.u8 UInt8.toNat (ascii "unknown resource lifecycle in payload")

variable (limits : Limits)

def readHello : Decoder HelloMessage := do
  let worker ← readId
  let boot ← readId
  let authority ← ByteReader.str limits.maxStringLength
  return { worker, boot, authority }

def readHelloAck : Decoder HelloAckMessage := do
  let epoch ← readId
  let coordinator ← ByteReader.str limits.maxStringLength
  return { epoch, coordinator }

def readRetire : Decoder RetireMessage := do
  let resource ← readId
  let generation ← readId
  return { resource, generation }

def readResourceAck : Decoder ResourceAckMessage := do
  let resource ← readId
  let generation ← readId
  let lifecycle ← readResourceLifecycle
  let code ← readErrorCode
  let detail ← ByteReader.str limits.maxStringLength
  return { resource, generation, lifecycle, code, detail }

def readDecision : Decoder DecisionMessage := do
  let decision ← readId
  let outcome ← readOutcome
  let failure ← readErrorCode
  let failureDetail ← ByteReader.str limits.maxStringLength
  let placement ← readPlacement limits
  let authority ← readAuthorityEnvelope limits
  let explanation ← ByteReader.str (limits.maxExplanationEntries * limits.maxStringLength)
  return { decision, outcome, failure, failureDetail, placement, authority, explanation }

def readAssign : Decoder AssignMessage := do
  let authority ← readAuthorityEnvelope limits
  let workload ← ByteReader.str limits.maxStringLength
  return { authority, workload }

def readAuthority : Decoder AuthorityMessage := do
  let placement ← readId
  let generation ← readId
  let epoch ← readId
  let workerBoot ← readId
  return { placement, generation, epoch, workerBoot }

def readCompletionAck : Decoder CompletionAckMessage := do
  let placement ← readId
  let state ← readPlacementState
  let accepted ← ByteReader.boolean
  let duplicate ← ByteReader.boolean
  let code ← readErrorCode
  let detail ← ByteReader.str limits.maxStringLength
  let releasedReservations ← ByteReader.u32
  return { placement, state, accepted, duplicate, code, detail, releasedReservations }

def readCancelPlacement : Decoder CancelPlacementMessage := do
  let placement ← readId
  let generation ← readId
  let epoch ← readId
  let reason ← ByteReader.str limits.maxStringLength
  return { placement, generation, epoch, reason }

def readCancelRequest : Decoder CancelRequestMessage := do
  let request ← readId
  let reason ← ByteReader.str limits.maxStringLength
  return { request, reason }

def readLifecycleAck : Decoder LifecycleAckMessage := do
  let placement ← readId
  let generation ← readId
  let state ← readPlacementState
  let code ← readErrorCode
  let detail ← ByteReader.str limits.maxStringLength
  let releasedReservations ← ByteReader.u32
  let affected ← ByteReader.u32
  return { placement, generation, state, code, detail, releasedReservations, affected }

def readInspect : Decoder InspectMessage := do
  let subject ← ByteReader.str limits.maxStringLength
  return { subject }

def readInspectReply : Decoder InspectReplyMessage := do
  let subject ← ByteReader.str limits.maxStringLength
  let text ← ByteReader.str (limits.maxExplanationEntries * limits.maxStringLength)
  return { subject, text }

def readErrorMessage : Decoder ErrorMessage := do
  let code ← readErrorCode
  let message ← ByteReader.str limits.maxStringLength
  return { code, message }

def readSaveState : Decoder SaveStateMessage := do
  let path ← ByteReader.str limits.maxStringLength
  return { path }

def readStateAck : Decoder StateAckMessage := do
  let path ← ByteReader.str limits.maxStringLength
  let epoch ← readId
  let resources ← ByteReader.u32
  let requests ← ByteReader.u32
  let placements ← ByteReader.u32
  let reservations ← ByteReader.u32
  let code ← readErrorCode
  let detail ← ByteReader.str limits.maxStringLength
  return { path, epoch, resources, requests, placements, reservations, code, detail }

def readDisconnectWorker : Decoder DisconnectWorkerMessage := do
  let worker ← readId
  let boot ← readId
  let detail ← ByteReader.str limits.maxStringLength
  return { worker, boot, detail }

end Readers

section Decoders

variable (payload : Bytes) (limits : Limits)

def decodeHello : Except Status HelloMessage := decodePayload (readHello limits) payload

def decodeHelloAck : Except Status HelloAckMessage := decodePayload (readHelloAck limits) payload

def decodeRetire : Except Status RetireMessage := decodePayload readRetire payload

def decodeResourceAck : Except Status ResourceAckMessage := decodePayload (readResourceAck limits) payload

def decodeDecision : Except Status DecisionMessage := decodePayload (readDecision limits) payload

def decodeAssign : Except Status AssignMessage := decodePayload (readAssign limits) payload

def decodeAuthority : Except Status AuthorityMessage := decodePayload readAuthority payload

def decodeCompletionAck : Except Status CompletionAckMessage := decodePayload (readCompletionAck limits) payload

def decodeCompletion : Except Status CompletionClaim := decodePayload (readCompletionClaim limits) payload

def decodeCancelPlacement : Except Status CancelPlacementMessage := decodePayload (readCancelPlacement limits) payload

def decodeCancelRequest : Except Status CancelRequestMessage := decodePayload (readCancelRequest limits) payload

def decodeLifecycleAck : Except Status LifecycleAckMessage := decodePayload (readLifecycleAck limits) payload

def decodeInspect : Except Status InspectMessage := decodePayload (readInspect limits) payload

def decodeInspectReply : Except Status InspectReplyMessage := decodePayload (readInspectReply limits) payload

def decodeErrorMessage : Except Status ErrorMessage := decodePayload (readErrorMessage limits) payload

def decodeSaveState : Except Status SaveStateMessage := decodePayload (readSaveState limits) payload

def decodeStateAck : Except Status StateAckMessage := decodePayload (readStateAck limits) payload

def decodeDisconnectWorker : Except Status DisconnectWorkerMessage :=
  decodePayload (readDisconnectWorker limits) payload

end Decoders

section Formats

def knownPart (α : Type) [DecidableEq α] [Enumerated α] {ω : Type} (write : ω → Bytes) (number : ω → Nat) :
    Part ErrorCode UInt8 :=
  .of (fun raw : { raw : ω // number raw < (Enumerated.values : List α).length } => write raw.1) (fun _ => True)
    (checkRefusal .protocolError write (fun _ => True) fun raw => number raw < (Enumerated.values : List α).length)

theorem readKnown_judges {ω α : Type} [DecidableEq α] [Enumerated α] {write : ω → Bytes} {read : Decoder ω}
    (head : ByteReader.Plain write id read (fun _ => True)) (number : ω → Nat) (unknown : Text) :
    Judges (fun raw : { raw : ω // number raw < (Enumerated.values : List α).length } => write raw.1)
      (fun raw => (Enumerated.values : List α).get ⟨number raw.1, raw.2⟩) (readKnown read number unknown)
      (fun _ => True)
      (checkRefusal .protocolError write (fun _ => True)
        fun raw => number raw < (Enumerated.values : List α).length) := by
  constructor
  · refine (head.decodes.convert fun raw _ reader value after => ?_).congr fun _ => and_self_iff
    cases found : (Enumerated.values : List α)[number raw]? with
    | none =>
      have outside := List.getElem?_eq_none_iff.mp found
      simp only [id, found]
      refine iff_of_false nofun fun wire => ?_
      obtain ⟨⟨⟨_, inside⟩, -, rfl, -⟩, -⟩ := wire
      exact absurd inside (Nat.not_lt.mpr outside)
    | some other =>
      obtain ⟨inside, same⟩ := List.getElem?_eq_some_iff.mp found
      simp only [id, found, Reader.pure_ok]
      refine and_congr_left fun _ => ?_
      constructor
      · intro given
        exact ⟨⟨raw, inside⟩, trivial, rfl, same.trans given⟩
      · intro wire
        obtain ⟨⟨_, _⟩, -, rfl, given⟩ := wire
        exact same.symm.trans given
  · exact checked_stops head fun _ _ => lookup_stops

def errorCodePart : Part ErrorCode UInt8 := knownPart ErrorCode ByteWriter.u16 UInt16.toNat

def placementStatePart : Part ErrorCode UInt8 := knownPart PlacementState ByteWriter.u8 UInt8.toNat

variable (limits : Limits)

def textLimit : Part ErrorCode UInt8 := textPart limits.maxStringLength

/-- A text of several entries; the product of the limits is one of 32 bits. -/
def explanationPart : Part ErrorCode UInt8 := textPart (limits.maxExplanationEntries * limits.maxStringLength)

def helloFormat : Format := [idPart, idPart, textLimit limits]

theorem readHello_stops : Stops (readHello limits) (refusedIn (helloFormat limits)) :=
  .field readId_plain fun _ _ =>
  .field readId_plain fun _ _ =>
  .field (ByteReader.str_judges _) fun _ _ =>
  .done _

def helloAckFormat : Format := [idPart, textLimit limits]

theorem readHelloAck_stops : Stops (readHelloAck limits) (refusedIn (helloAckFormat limits)) :=
  .field readId_plain fun _ _ =>
  .field (ByteReader.str_judges _) fun _ _ =>
  .done _

theorem readAdvertisement_stops : Stops (readAdvertisement limits) (refusedIn (resourceFormat limits)) :=
  (readResource_judges limits).stops.quiet fun _ => .pure _

def retireFormat : Format := [idPart, idPart]

theorem readRetire_stops : Stops readRetire (refusedIn retireFormat) :=
  .field readId_plain fun _ _ =>
  .field readId_plain fun _ _ =>
  .done _

def resourceAckFormat : Format :=
  [idPart, idPart, knownPart ResourceLifecycle ByteWriter.u8 UInt8.toNat, errorCodePart, textLimit limits]

theorem readResourceAck_stops : Stops (readResourceAck limits) (refusedIn (resourceAckFormat limits)) :=
  .field readId_plain fun _ _ =>
  .field readId_plain fun _ _ =>
  .field (readKnown_judges ByteReader.u8_judges _ _) fun _ _ =>
  .field (readKnown_judges ByteReader.u16_judges _ _) fun _ _ =>
  .field (ByteReader.str_judges _) fun _ _ =>
  .done _

def decisionFormat : Format :=
  [idPart, knownPart DecisionOutcome ByteWriter.u8 UInt8.toNat, errorCodePart, textLimit limits,
    recordPart writePlacement (PlacementFits limits) (placementFormat limits),
    recordPart writeAuthorityEnvelope (AuthorityFits limits) (authorityEnvelopeFormat limits), explanationPart limits]

theorem readDecision_stops : Stops (readDecision limits) (refusedIn (decisionFormat limits)) :=
  .field readId_plain fun _ _ =>
  .field (readKnown_judges ByteReader.u8_judges _ _) fun _ _ =>
  .field (readKnown_judges ByteReader.u16_judges _ _) fun _ _ =>
  .field (ByteReader.str_judges _) fun _ _ =>
  .field (readPlacement_judges limits) fun _ _ =>
  .field (readAuthorityEnvelope_judges limits) fun _ _ =>
  .field (ByteReader.str_judges _) fun _ _ =>
  .done _

def assignFormat : Format :=
  [recordPart writeAuthorityEnvelope (AuthorityFits limits) (authorityEnvelopeFormat limits), textLimit limits]

theorem readAssign_stops : Stops (readAssign limits) (refusedIn (assignFormat limits)) :=
  .field (readAuthorityEnvelope_judges limits) fun _ _ =>
  .field (ByteReader.str_judges _) fun _ _ =>
  .done _

def authorityFormat : Format := [idPart, idPart, idPart, idPart]

theorem readAuthority_stops : Stops readAuthority (refusedIn authorityFormat) :=
  .field readId_plain fun _ _ =>
  .field readId_plain fun _ _ =>
  .field readId_plain fun _ _ =>
  .field readId_plain fun _ _ =>
  .done _

def completionFormat : Format :=
  [idPart, idPart, idPart, idPart, idPart, idPart,
    listPart ByteWriter.u64 (fun _ => True) [] limits.maxRequirementsPerRequest,
    listPart ByteWriter.u64 (fun _ => True) [] limits.maxRequirementsPerRequest, booleanPart, textLimit limits]

theorem readCompletionClaim_stops : Stops (readCompletionClaim limits) (refusedIn (completionFormat limits)) :=
  .field readId_plain fun _ _ =>
  .field readId_plain fun _ _ =>
  .field readId_plain fun _ _ =>
  .field readId_plain fun _ _ =>
  .field readId_plain fun _ _ =>
  .field readId_plain fun _ _ =>
  .field (readList_judges readId_plain _) fun _ _ =>
  .field (readList_judges readId_plain _) fun _ _ =>
  .field ByteReader.boolean_judges fun _ _ =>
  .field (ByteReader.str_judges _) fun _ _ =>
  .done _

def completionAckFormat : Format :=
  [idPart, placementStatePart, booleanPart, booleanPart, errorCodePart, textLimit limits, u32Part]

theorem readCompletionAck_stops : Stops (readCompletionAck limits) (refusedIn (completionAckFormat limits)) :=
  .field readId_plain fun _ _ =>
  .field (readKnown_judges ByteReader.u8_judges _ _) fun _ _ =>
  .field ByteReader.boolean_judges fun _ _ =>
  .field ByteReader.boolean_judges fun _ _ =>
  .field (readKnown_judges ByteReader.u16_judges _ _) fun _ _ =>
  .field (ByteReader.str_judges _) fun _ _ =>
  .field ByteReader.u32_judges fun _ _ =>
  .done _

def cancelPlacementFormat : Format := [idPart, idPart, idPart, textLimit limits]

theorem readCancelPlacement_stops : Stops (readCancelPlacement limits) (refusedIn (cancelPlacementFormat limits)) :=
  .field readId_plain fun _ _ =>
  .field readId_plain fun _ _ =>
  .field readId_plain fun _ _ =>
  .field (ByteReader.str_judges _) fun _ _ =>
  .done _

def cancelRequestFormat : Format := [idPart, textLimit limits]

theorem readCancelRequest_stops : Stops (readCancelRequest limits) (refusedIn (cancelRequestFormat limits)) :=
  .field readId_plain fun _ _ =>
  .field (ByteReader.str_judges _) fun _ _ =>
  .done _

def lifecycleAckFormat : Format :=
  [idPart, idPart, placementStatePart, errorCodePart, textLimit limits, u32Part, u32Part]

theorem readLifecycleAck_stops : Stops (readLifecycleAck limits) (refusedIn (lifecycleAckFormat limits)) :=
  .field readId_plain fun _ _ =>
  .field readId_plain fun _ _ =>
  .field (readKnown_judges ByteReader.u8_judges _ _) fun _ _ =>
  .field (readKnown_judges ByteReader.u16_judges _ _) fun _ _ =>
  .field (ByteReader.str_judges _) fun _ _ =>
  .field ByteReader.u32_judges fun _ _ =>
  .field ByteReader.u32_judges fun _ _ =>
  .done _

def inspectFormat : Format := [textLimit limits]

theorem readInspect_stops : Stops (readInspect limits) (refusedIn (inspectFormat limits)) :=
  .field (ByteReader.str_judges _) fun _ _ =>
  .done _

def inspectReplyFormat : Format := [textLimit limits, explanationPart limits]

theorem readInspectReply_stops : Stops (readInspectReply limits) (refusedIn (inspectReplyFormat limits)) :=
  .field (ByteReader.str_judges _) fun _ _ =>
  .field (ByteReader.str_judges _) fun _ _ =>
  .done _

def errorMessageFormat : Format := [errorCodePart, textLimit limits]

theorem readErrorMessage_stops : Stops (readErrorMessage limits) (refusedIn (errorMessageFormat limits)) :=
  .field (readKnown_judges ByteReader.u16_judges _ _) fun _ _ =>
  .field (ByteReader.str_judges _) fun _ _ =>
  .done _

def saveStateFormat : Format := [textLimit limits]

theorem readSaveState_stops : Stops (readSaveState limits) (refusedIn (saveStateFormat limits)) :=
  .field (ByteReader.str_judges _) fun _ _ =>
  .done _

def stateAckFormat : Format :=
  [textLimit limits, idPart, u32Part, u32Part, u32Part, u32Part, errorCodePart, textLimit limits]

theorem readStateAck_stops : Stops (readStateAck limits) (refusedIn (stateAckFormat limits)) :=
  .field (ByteReader.str_judges _) fun _ _ =>
  .field readId_plain fun _ _ =>
  .field ByteReader.u32_judges fun _ _ =>
  .field ByteReader.u32_judges fun _ _ =>
  .field ByteReader.u32_judges fun _ _ =>
  .field ByteReader.u32_judges fun _ _ =>
  .field (readKnown_judges ByteReader.u16_judges _ _) fun _ _ =>
  .field (ByteReader.str_judges _) fun _ _ =>
  .done _

def disconnectWorkerFormat : Format := [idPart, idPart, textLimit limits]

theorem readDisconnectWorker_stops :
    Stops (readDisconnectWorker limits) (refusedIn (disconnectWorkerFormat limits)) :=
  .field readId_plain fun _ _ =>
  .field readId_plain fun _ _ =>
  .field (ByteReader.str_judges _) fun _ _ =>
  .done _

end Formats

/-- The kinds of payload, each with a decoder of its own. -/
inductive PayloadKind
  | hello
  | helloAck
  | resource
  | retire
  | resourceAck
  | schedule
  | decision
  | assign
  | authority
  | completion
  | completionAck
  | cancelPlacement
  | cancelRequest
  | lifecycleAck
  | inspect
  | inspectReply
  | errorMessage
  | saveState
  | stateAck
  | disconnectWorker

namespace PayloadKind

abbrev Content : PayloadKind → Type
  | .hello => Protocol.HelloMessage
  | .helloAck => HelloAckMessage
  | .resource => ResourceAdvertisement
  | .retire => RetireMessage
  | .resourceAck => ResourceAckMessage
  | .schedule => ScheduleRequest
  | .decision => Protocol.DecisionMessage
  | .assign => AssignMessage
  | .authority => AuthorityMessage
  | .completion => CompletionClaim
  | .completionAck => CompletionAckMessage
  | .cancelPlacement => CancelPlacementMessage
  | .cancelRequest => CancelRequestMessage
  | .lifecycleAck => LifecycleAckMessage
  | .inspect => InspectMessage
  | .inspectReply => InspectReplyMessage
  | .errorMessage => ErrorMessage
  | .saveState => SaveStateMessage
  | .stateAck => StateAckMessage
  | .disconnectWorker => DisconnectWorkerMessage

def decode (payload : Bytes) (limits : Limits) : (kind : PayloadKind) → Except Status kind.Content
  | .hello => decodeHello payload limits
  | .helloAck => decodeHelloAck payload limits
  | .resource => decodeResourceMessage payload limits
  | .retire => decodeRetire payload
  | .resourceAck => decodeResourceAck payload limits
  | .schedule => decodeSchedule payload limits
  | .decision => decodeDecision payload limits
  | .assign => decodeAssign payload limits
  | .authority => decodeAuthority payload
  | .completion => decodeCompletion payload limits
  | .completionAck => decodeCompletionAck payload limits
  | .cancelPlacement => decodeCancelPlacement payload limits
  | .cancelRequest => decodeCancelRequest payload limits
  | .lifecycleAck => decodeLifecycleAck payload limits
  | .inspect => decodeInspect payload limits
  | .inspectReply => decodeInspectReply payload limits
  | .errorMessage => decodeErrorMessage payload limits
  | .saveState => decodeSaveState payload limits
  | .stateAck => decodeStateAck payload limits
  | .disconnectWorker => decodeDisconnectWorker payload limits

def read (limits : Limits) : (kind : PayloadKind) → Decoder kind.Content
  | .hello => readHello limits
  | .helloAck => readHelloAck limits
  | .resource => readAdvertisement limits
  | .retire => readRetire
  | .resourceAck => readResourceAck limits
  | .schedule => readRequest limits
  | .decision => readDecision limits
  | .assign => readAssign limits
  | .authority => readAuthority
  | .completion => readCompletionClaim limits
  | .completionAck => readCompletionAck limits
  | .cancelPlacement => readCancelPlacement limits
  | .cancelRequest => readCancelRequest limits
  | .lifecycleAck => readLifecycleAck limits
  | .inspect => readInspect limits
  | .inspectReply => readInspectReply limits
  | .errorMessage => readErrorMessage limits
  | .saveState => readSaveState limits
  | .stateAck => readStateAck limits
  | .disconnectWorker => readDisconnectWorker limits

def format (limits : Limits) : PayloadKind → Format
  | .hello => helloFormat limits
  | .helloAck => helloAckFormat limits
  | .resource => resourceFormat limits
  | .retire => retireFormat
  | .resourceAck => resourceAckFormat limits
  | .schedule => requestFormat limits
  | .decision => decisionFormat limits
  | .assign => assignFormat limits
  | .authority => authorityFormat
  | .completion => completionFormat limits
  | .completionAck => completionAckFormat limits
  | .cancelPlacement => cancelPlacementFormat limits
  | .cancelRequest => cancelRequestFormat limits
  | .lifecycleAck => lifecycleAckFormat limits
  | .inspect => inspectFormat limits
  | .inspectReply => inspectReplyFormat limits
  | .errorMessage => errorMessageFormat limits
  | .saveState => saveStateFormat limits
  | .stateAck => stateAckFormat limits
  | .disconnectWorker => disconnectWorkerFormat limits

variable (limits : Limits) (kind : PayloadKind)

theorem decode_eq (payload : Bytes) : kind.decode payload limits = decodePayload (kind.read limits) payload := by
  cases kind <;> rfl

theorem read_stops : Stops (kind.read limits) (refusedIn (kind.format limits)) := by
  cases kind with
  | hello => exact readHello_stops limits
  | helloAck => exact readHelloAck_stops limits
  | resource => exact readAdvertisement_stops limits
  | retire => exact readRetire_stops
  | resourceAck => exact readResourceAck_stops limits
  | schedule => exact (readRequest_judges limits).stops
  | decision => exact readDecision_stops limits
  | assign => exact readAssign_stops limits
  | authority => exact readAuthority_stops
  | completion => exact readCompletionClaim_stops limits
  | completionAck => exact readCompletionAck_stops limits
  | cancelPlacement => exact readCancelPlacement_stops limits
  | cancelRequest => exact readCancelRequest_stops limits
  | lifecycleAck => exact readLifecycleAck_stops limits
  | inspect => exact readInspect_stops limits
  | inspectReply => exact readInspectReply_stops limits
  | errorMessage => exact readErrorMessage_stops limits
  | saveState => exact readSaveState_stops limits
  | stateAck => exact readStateAck_stops limits
  | disconnectWorker => exact readDisconnectWorker_stops limits

end PayloadKind

end Protocol

end LabScheduler
