import LabScheduler.Codec.Payloads

namespace LabScheduler

open Foundation RecordCodec

def RecordCodec.writeCompletionClaim (claim : CompletionClaim) : Bytes :=
  [writeId claim.placement, writeId claim.placementGeneration, writeId claim.experiment,
    writeId claim.experimentGeneration, writeId claim.epoch, writeId claim.workerBoot,
    writeList writeId claim.resources, writeList writeId claim.resourceGenerations,
    ByteWriter.boolean claim.succeeded, ByteWriter.str claim.detail].flatten

namespace Protocol

section Encoders

/-- `u16` of the enumerator's number. -/
def writeErrorCode (code : ErrorCode) : Bytes :=
  ByteWriter.u16 (UInt16.ofNat ((Enumerated.values : List ErrorCode).idxOf code))

def encodeHello (message : HelloMessage) : Bytes :=
  [writeId message.worker, writeId message.boot, ByteWriter.str message.authority].flatten

def encodeHelloAck (message : HelloAckMessage) : Bytes :=
  [writeId message.epoch, ByteWriter.str message.coordinator].flatten

def encodeRetire (message : RetireMessage) : Bytes :=
  [writeId message.resource, writeId message.generation].flatten

def encodeResourceAck (message : ResourceAckMessage) : Bytes :=
  [writeId message.resource, writeId message.generation, writeEnum message.lifecycle, writeErrorCode message.code,
    ByteWriter.str message.detail].flatten

def encodeDecision (message : DecisionMessage) : Bytes :=
  [writeId message.decision, writeEnum message.outcome, writeErrorCode message.failure,
    ByteWriter.str message.failureDetail, writePlacement message.placement, writeAuthorityEnvelope message.authority,
    ByteWriter.str message.explanation].flatten

def encodeAssign (message : AssignMessage) : Bytes :=
  [writeAuthorityEnvelope message.authority, ByteWriter.str message.workload].flatten

def encodeAuthority (message : AuthorityMessage) : Bytes :=
  [writeId message.placement, writeId message.generation, writeId message.epoch, writeId message.workerBoot].flatten

def encodeCompletion (claim : CompletionClaim) : Bytes := writeCompletionClaim claim

def encodeCompletionAck (message : CompletionAckMessage) : Bytes :=
  [writeId message.placement, writeEnum message.state, ByteWriter.boolean message.accepted,
    ByteWriter.boolean message.duplicate, writeErrorCode message.code, ByteWriter.str message.detail,
    ByteWriter.u32 message.releasedReservations].flatten

def encodeCancelPlacement (message : CancelPlacementMessage) : Bytes :=
  [writeId message.placement, writeId message.generation, writeId message.epoch,
    ByteWriter.str message.reason].flatten

def encodeCancelRequest (message : CancelRequestMessage) : Bytes :=
  [writeId message.request, ByteWriter.str message.reason].flatten

def encodeLifecycleAck (message : LifecycleAckMessage) : Bytes :=
  [writeId message.placement, writeId message.generation, writeEnum message.state, writeErrorCode message.code,
    ByteWriter.str message.detail, ByteWriter.u32 message.releasedReservations, ByteWriter.u32 message.affected].flatten

def encodeInspect (message : InspectMessage) : Bytes := [ByteWriter.str message.subject].flatten

def encodeInspectReply (message : InspectReplyMessage) : Bytes :=
  [ByteWriter.str message.subject, ByteWriter.str message.text].flatten

def encodeErrorMessage (message : ErrorMessage) : Bytes :=
  [writeErrorCode message.code, ByteWriter.str message.message].flatten

def encodeSaveState (message : SaveStateMessage) : Bytes := [ByteWriter.str message.path].flatten

def encodeStateAck (message : StateAckMessage) : Bytes :=
  [ByteWriter.str message.path, writeId message.epoch, ByteWriter.u32 message.resources,
    ByteWriter.u32 message.requests, ByteWriter.u32 message.placements, ByteWriter.u32 message.reservations,
    writeErrorCode message.code, ByteWriter.str message.detail].flatten

def encodeDisconnectWorker (message : DisconnectWorkerMessage) : Bytes :=
  [writeId message.worker, writeId message.boot, ByteWriter.str message.detail].flatten

end Encoders

section Accepted

theorem readKnown_decodes {ω α : Type} [DecidableEq α] [Enumerated α] {write : ω → Bytes} {read : Decoder ω}
    (head : Decodes write id read (fun _ => True)) {number : ω → Nat} {ofNat : Nat → ω}
    (numbered : ∀ raw, ofNat (number raw) = raw) (named : ∀ index, index < 256 → number (ofNat index) = index)
    (unknown : Text) :
    Decodes (fun value : α => write (ofNat ((Enumerated.values : List α).idxOf value))) id
      (readKnown read number unknown : Decoder α) (fun _ => True) := by
  refine (head.convert fun raw _ reader value after => ?_).congr fun _ => and_self_iff
  have known (other : α) :
      ofNat ((Enumerated.values : List α).idxOf other) = raw ↔
        (Enumerated.values : List α)[number raw]? = some other := by
    have index := List.idxOf_lt_length_of_mem (Enumerated.complete other)
    have small : (Enumerated.values : List α).idxOf other < 256 := Nat.lt_of_lt_of_le index Enumerated.small
    constructor
    · intro same
      rw [← same, named _ small, List.getElem?_eq_getElem index, List.getElem_idxOf]
    · intro found
      obtain ⟨inside, rfl⟩ := List.getElem?_eq_some_iff.mp found
      rw [List.Nodup.idxOf_getElem Enumerated.distinct, numbered]
  simp only [id, known, true_and]
  cases found : (Enumerated.values : List α)[number raw]? with
  | none =>
    refine iff_of_false (fun refused => by cases refused) fun wire => ?_
    obtain ⟨⟨_, same, -⟩, -⟩ := wire
    cases same
  | some other =>
    rw [Reader.pure_ok]
    refine and_congr_left fun _ => ⟨fun same => ⟨other, rfl, same⟩, fun wire => ?_⟩
    obtain ⟨_, same, rfl⟩ := wire
    exact Option.some_inj.mp same

theorem readByte_decodes {α : Type} [DecidableEq α] [Enumerated α] (unknown : Text) :
    Decodes writeEnum id (readKnown ByteReader.u8 UInt8.toNat unknown : Decoder α) (fun _ => True) :=
  readKnown_decodes ByteReader.u8_decodes (fun _ => UInt8.ofNat_toNat) (fun _ => UInt8.toNat_ofNat_of_lt') unknown

theorem readErrorCode_decodes : Decodes writeErrorCode id readErrorCode (fun _ => True) :=
  readKnown_decodes ByteReader.u16_decodes (fun _ => UInt16.ofNat_toNat)
    (fun _ small => UInt16.toNat_ofNat_of_lt' (Nat.lt_trans small (by decide))) _

variable (limits : Limits)

@[mk_iff] structure CompletionFits (claim : CompletionClaim) : Prop where
  resources : claim.resources.length ≤ limits.maxRequirementsPerRequest.toNat
  resourceGenerations : claim.resourceGenerations.length ≤ limits.maxRequirementsPerRequest.toNat
  detail : claim.detail.length ≤ limits.maxStringLength.toNat

theorem readCompletionClaim_decodes :
    Decodes encodeCompletion id (readCompletionClaim limits) (CompletionFits limits) := by
  refine Decodes.congr (Reads.decodes <|
    Reads.field CompletionClaim.placement readId_decodes fun _ _ =>
    Reads.field CompletionClaim.placementGeneration readId_decodes fun _ _ =>
    Reads.field CompletionClaim.experiment readId_decodes fun _ _ =>
    Reads.field CompletionClaim.experimentGeneration readId_decodes fun _ _ =>
    Reads.field CompletionClaim.epoch readId_decodes fun _ _ =>
    Reads.field CompletionClaim.workerBoot readId_decodes fun _ _ =>
    Reads.field CompletionClaim.resources (readItems_decodes readId_decodes _) fun _ _ =>
    Reads.field CompletionClaim.resourceGenerations (readItems_decodes readId_decodes _) fun _ _ =>
    Reads.field CompletionClaim.succeeded ByteReader.boolean_decodes fun _ _ =>
    Reads.field CompletionClaim.detail (ByteReader.str_decodes _) fun _ _ =>
    Reads.done (fun claim => ?_) rfl) fun _ => by simp [completionFits_iff]
  cases claim
  simp [and_assoc]

@[mk_iff] structure DecisionFits (message : DecisionMessage) : Prop where
  failureDetail : message.failureDetail.length ≤ limits.maxStringLength.toNat
  placement : PlacementFits limits message.placement
  authority : AuthorityFits limits message.authority
  explanation : message.explanation.length ≤ (limits.maxExplanationEntries * limits.maxStringLength).toNat

theorem readHello_decodes :
    Decodes encodeHello id (readHello limits)
      (fun message => message.authority.length ≤ limits.maxStringLength.toNat) := by
  refine Decodes.congr (Reads.decodes <|
    Reads.field (fun message : HelloMessage => message.worker) readId_decodes fun _ _ =>
    Reads.field (fun message : HelloMessage => message.boot) readId_decodes fun _ _ =>
    Reads.field HelloMessage.authority (ByteReader.str_decodes _) fun _ _ =>
    Reads.done (fun message => ?_) rfl) fun _ => by simp
  obtain ⟨⟨_, _⟩, _⟩ := message
  simp [and_assoc]

theorem readHelloAck_decodes :
    Decodes encodeHelloAck id (readHelloAck limits)
      (fun message => message.coordinator.length ≤ limits.maxStringLength.toNat) := by
  refine Decodes.congr (Reads.decodes <|
    Reads.field HelloAckMessage.epoch readId_decodes fun _ _ =>
    Reads.field HelloAckMessage.coordinator (ByteReader.str_decodes _) fun _ _ =>
    Reads.done (fun message => ?_) rfl) fun _ => by simp
  cases message
  simp

theorem readRetire_decodes :
    Decodes encodeRetire id readRetire (fun _ => True) := by
  refine Decodes.congr (Reads.decodes <|
    Reads.field RetireMessage.resource readId_decodes fun _ _ =>
    Reads.field RetireMessage.generation readId_decodes fun _ _ =>
    Reads.done (fun message => ?_) rfl) fun _ => by simp
  cases message
  simp

theorem readResourceAck_decodes :
    Decodes encodeResourceAck id (readResourceAck limits)
      (fun message => message.detail.length ≤ limits.maxStringLength.toNat) := by
  refine Decodes.congr (Reads.decodes <|
    Reads.field ResourceAckMessage.resource readId_decodes fun _ _ =>
    Reads.field ResourceAckMessage.generation readId_decodes fun _ _ =>
    Reads.field ResourceAckMessage.lifecycle (readByte_decodes _) fun _ _ =>
    Reads.field ResourceAckMessage.code readErrorCode_decodes fun _ _ =>
    Reads.field ResourceAckMessage.detail (ByteReader.str_decodes _) fun _ _ =>
    Reads.done (fun message => ?_) rfl) fun _ => by simp
  cases message
  simp [and_assoc]

theorem readDecision_decodes :
    Decodes encodeDecision id (readDecision limits) (DecisionFits limits) := by
  refine Decodes.congr (Reads.decodes <|
    Reads.field DecisionMessage.decision readId_decodes fun _ _ =>
    Reads.field DecisionMessage.outcome (readByte_decodes _) fun _ _ =>
    Reads.field DecisionMessage.failure readErrorCode_decodes fun _ _ =>
    Reads.field DecisionMessage.failureDetail (ByteReader.str_decodes _) fun _ _ =>
    Reads.field DecisionMessage.placement (readPlacement_decodes limits) fun _ _ =>
    Reads.field DecisionMessage.authority (readAuthorityEnvelope_decodes limits) fun _ _ =>
    Reads.field DecisionMessage.explanation (ByteReader.str_decodes _) fun _ _ =>
    Reads.done (fun message => ?_) rfl) fun _ => by simp [decisionFits_iff]
  cases message
  simp [and_assoc]

theorem readAssign_decodes :
    Decodes encodeAssign id (readAssign limits)
      (fun message => AuthorityFits limits message.authority ∧ message.workload.length ≤ limits.maxStringLength.toNat) := by
  refine Decodes.congr (Reads.decodes <|
    Reads.field AssignMessage.authority (readAuthorityEnvelope_decodes limits) fun _ _ =>
    Reads.field AssignMessage.workload (ByteReader.str_decodes _) fun _ _ =>
    Reads.done (fun message => ?_) rfl) fun _ => by simp
  cases message
  simp

theorem readAuthority_decodes :
    Decodes encodeAuthority id readAuthority (fun _ => True) := by
  refine Decodes.congr (Reads.decodes <|
    Reads.field AuthorityMessage.placement readId_decodes fun _ _ =>
    Reads.field AuthorityMessage.generation readId_decodes fun _ _ =>
    Reads.field AuthorityMessage.epoch readId_decodes fun _ _ =>
    Reads.field AuthorityMessage.workerBoot readId_decodes fun _ _ =>
    Reads.done (fun message => ?_) rfl) fun _ => by simp
  cases message
  simp [and_assoc]

theorem readCompletionAck_decodes :
    Decodes encodeCompletionAck id (readCompletionAck limits)
      (fun message => message.detail.length ≤ limits.maxStringLength.toNat) := by
  refine Decodes.congr (Reads.decodes <|
    Reads.field CompletionAckMessage.placement readId_decodes fun _ _ =>
    Reads.field CompletionAckMessage.state (readByte_decodes _) fun _ _ =>
    Reads.field CompletionAckMessage.accepted ByteReader.boolean_decodes fun _ _ =>
    Reads.field CompletionAckMessage.duplicate ByteReader.boolean_decodes fun _ _ =>
    Reads.field CompletionAckMessage.code readErrorCode_decodes fun _ _ =>
    Reads.field CompletionAckMessage.detail (ByteReader.str_decodes _) fun _ _ =>
    Reads.field CompletionAckMessage.releasedReservations ByteReader.u32_decodes fun _ _ =>
    Reads.done (fun message => ?_) rfl) fun _ => by simp
  cases message
  simp [and_assoc]

theorem readCancelPlacement_decodes :
    Decodes encodeCancelPlacement id (readCancelPlacement limits)
      (fun message => message.reason.length ≤ limits.maxStringLength.toNat) := by
  refine Decodes.congr (Reads.decodes <|
    Reads.field CancelPlacementMessage.placement readId_decodes fun _ _ =>
    Reads.field CancelPlacementMessage.generation readId_decodes fun _ _ =>
    Reads.field CancelPlacementMessage.epoch readId_decodes fun _ _ =>
    Reads.field CancelPlacementMessage.reason (ByteReader.str_decodes _) fun _ _ =>
    Reads.done (fun message => ?_) rfl) fun _ => by simp
  cases message
  simp [and_assoc]

theorem readCancelRequest_decodes :
    Decodes encodeCancelRequest id (readCancelRequest limits)
      (fun message => message.reason.length ≤ limits.maxStringLength.toNat) := by
  refine Decodes.congr (Reads.decodes <|
    Reads.field CancelRequestMessage.request readId_decodes fun _ _ =>
    Reads.field CancelRequestMessage.reason (ByteReader.str_decodes _) fun _ _ =>
    Reads.done (fun message => ?_) rfl) fun _ => by simp
  cases message
  simp

theorem readLifecycleAck_decodes :
    Decodes encodeLifecycleAck id (readLifecycleAck limits)
      (fun message => message.detail.length ≤ limits.maxStringLength.toNat) := by
  refine Decodes.congr (Reads.decodes <|
    Reads.field LifecycleAckMessage.placement readId_decodes fun _ _ =>
    Reads.field LifecycleAckMessage.generation readId_decodes fun _ _ =>
    Reads.field LifecycleAckMessage.state (readByte_decodes _) fun _ _ =>
    Reads.field LifecycleAckMessage.code readErrorCode_decodes fun _ _ =>
    Reads.field LifecycleAckMessage.detail (ByteReader.str_decodes _) fun _ _ =>
    Reads.field LifecycleAckMessage.releasedReservations ByteReader.u32_decodes fun _ _ =>
    Reads.field LifecycleAckMessage.affected ByteReader.u32_decodes fun _ _ =>
    Reads.done (fun message => ?_) rfl) fun _ => by simp
  cases message
  simp [and_assoc]

theorem readInspect_decodes :
    Decodes encodeInspect id (readInspect limits)
      (fun message => message.subject.length ≤ limits.maxStringLength.toNat) := by
  refine Decodes.congr (Reads.decodes <|
    Reads.field InspectMessage.subject (ByteReader.str_decodes _) fun _ _ =>
    Reads.done (fun message => ?_) rfl) fun _ => by simp
  cases message
  simp

theorem readInspectReply_decodes :
    Decodes encodeInspectReply id (readInspectReply limits)
      (fun message => message.subject.length ≤ limits.maxStringLength.toNat ∧
        message.text.length ≤ (limits.maxExplanationEntries * limits.maxStringLength).toNat) := by
  refine Decodes.congr (Reads.decodes <|
    Reads.field InspectReplyMessage.subject (ByteReader.str_decodes _) fun _ _ =>
    Reads.field InspectReplyMessage.text (ByteReader.str_decodes _) fun _ _ =>
    Reads.done (fun message => ?_) rfl) fun _ => by simp
  cases message
  simp

theorem readErrorMessage_decodes :
    Decodes encodeErrorMessage id (readErrorMessage limits)
      (fun message => message.message.length ≤ limits.maxStringLength.toNat) := by
  refine Decodes.congr (Reads.decodes <|
    Reads.field ErrorMessage.code readErrorCode_decodes fun _ _ =>
    Reads.field ErrorMessage.message (ByteReader.str_decodes _) fun _ _ =>
    Reads.done (fun message => ?_) rfl) fun _ => by simp
  cases message
  simp

theorem readSaveState_decodes :
    Decodes encodeSaveState id (readSaveState limits)
      (fun message => message.path.length ≤ limits.maxStringLength.toNat) := by
  refine Decodes.congr (Reads.decodes <|
    Reads.field SaveStateMessage.path (ByteReader.str_decodes _) fun _ _ =>
    Reads.done (fun message => ?_) rfl) fun _ => by simp
  cases message
  simp

theorem readStateAck_decodes :
    Decodes encodeStateAck id (readStateAck limits)
      (fun message => message.path.length ≤ limits.maxStringLength.toNat ∧ message.detail.length ≤ limits.maxStringLength.toNat) := by
  refine Decodes.congr (Reads.decodes <|
    Reads.field StateAckMessage.path (ByteReader.str_decodes _) fun _ _ =>
    Reads.field StateAckMessage.epoch readId_decodes fun _ _ =>
    Reads.field StateAckMessage.resources ByteReader.u32_decodes fun _ _ =>
    Reads.field StateAckMessage.requests ByteReader.u32_decodes fun _ _ =>
    Reads.field StateAckMessage.placements ByteReader.u32_decodes fun _ _ =>
    Reads.field StateAckMessage.reservations ByteReader.u32_decodes fun _ _ =>
    Reads.field StateAckMessage.code readErrorCode_decodes fun _ _ =>
    Reads.field StateAckMessage.detail (ByteReader.str_decodes _) fun _ _ =>
    Reads.done (fun message => ?_) rfl) fun _ => by simp
  cases message
  simp [and_assoc]

theorem readDisconnectWorker_decodes :
    Decodes encodeDisconnectWorker id (readDisconnectWorker limits)
      (fun message => message.detail.length ≤ limits.maxStringLength.toNat) := by
  refine Decodes.congr (Reads.decodes <|
    Reads.field DisconnectWorkerMessage.worker readId_decodes fun _ _ =>
    Reads.field DisconnectWorkerMessage.boot readId_decodes fun _ _ =>
    Reads.field DisconnectWorkerMessage.detail (ByteReader.str_decodes _) fun _ _ =>
    Reads.done (fun message => ?_) rfl) fun _ => by simp
  cases message
  simp [and_assoc]

end Accepted

namespace PayloadKind

def encode : (kind : PayloadKind) → kind.Content → Bytes
  | .hello => encodeHello
  | .helloAck => encodeHelloAck
  | .resource => encodeResourceMessage
  | .retire => encodeRetire
  | .resourceAck => encodeResourceAck
  | .schedule => encodeSchedule
  | .decision => encodeDecision
  | .assign => encodeAssign
  | .authority => encodeAuthority
  | .completion => encodeCompletion
  | .completionAck => encodeCompletionAck
  | .cancelPlacement => encodeCancelPlacement
  | .cancelRequest => encodeCancelRequest
  | .lifecycleAck => encodeLifecycleAck
  | .inspect => encodeInspect
  | .inspectReply => encodeInspectReply
  | .errorMessage => encodeErrorMessage
  | .saveState => encodeSaveState
  | .stateAck => encodeStateAck
  | .disconnectWorker => encodeDisconnectWorker

/-- What is written of a message: an advertisement travels as a record, of which only the description is read. -/
abbrev Written : PayloadKind → Type
  | .resource => ResourceRecord
  | .hello => Protocol.HelloMessage
  | .helloAck => HelloAckMessage
  | .retire => RetireMessage
  | .resourceAck => ResourceAckMessage
  | .schedule => ScheduleRequest
  | .decision => Protocol.DecisionMessage
  | .assign => AssignMessage
  | .authority => AuthorityMessage
  | .completion => CompletionClaim
  | .completionAck => CompletionAckMessage
  | .cancelPlacement => CancelPlacementMessage
  | .cancelRequest => CancelRequestMessage
  | .lifecycleAck => LifecycleAckMessage
  | .inspect => InspectMessage
  | .inspectReply => InspectReplyMessage
  | .errorMessage => ErrorMessage
  | .saveState => SaveStateMessage
  | .stateAck => StateAckMessage
  | .disconnectWorker => DisconnectWorkerMessage

def written : (kind : PayloadKind) → kind.Content → kind.Written
  | .resource => advertisementToRecord
  | .schedule => id
  | .hello | .helloAck | .retire | .resourceAck | .decision | .assign | .authority | .completion
  | .completionAck | .cancelPlacement | .cancelRequest | .lifecycleAck | .inspect | .inspectReply
  | .errorMessage | .saveState | .stateAck | .disconnectWorker => id

def write : (kind : PayloadKind) → kind.Written → Bytes
  | .resource => writeResource
  | .hello => encodeHello
  | .helloAck => encodeHelloAck
  | .retire => encodeRetire
  | .resourceAck => encodeResourceAck
  | .schedule => encodeSchedule
  | .decision => encodeDecision
  | .assign => encodeAssign
  | .authority => encodeAuthority
  | .completion => encodeCompletion
  | .completionAck => encodeCompletionAck
  | .cancelPlacement => encodeCancelPlacement
  | .cancelRequest => encodeCancelRequest
  | .lifecycleAck => encodeLifecycleAck
  | .inspect => encodeInspect
  | .inspectReply => encodeInspectReply
  | .errorMessage => encodeErrorMessage
  | .saveState => encodeSaveState
  | .stateAck => encodeStateAck
  | .disconnectWorker => encodeDisconnectWorker

def Fits (limits : Limits) : (kind : PayloadKind) → kind.Written → Prop
  | .hello, message => message.authority.length ≤ limits.maxStringLength.toNat
  | .helloAck, message => message.coordinator.length ≤ limits.maxStringLength.toNat
  | .resource, record => ResourceFits limits record
  | .retire, _ => True
  | .resourceAck, message => message.detail.length ≤ limits.maxStringLength.toNat
  | .schedule, request => RequestFits limits request
  | .decision, message => DecisionFits limits message
  | .assign, message => AuthorityFits limits message.authority ∧ message.workload.length ≤ limits.maxStringLength.toNat
  | .authority, _ => True
  | .completion, claim => CompletionFits limits claim
  | .completionAck, message => message.detail.length ≤ limits.maxStringLength.toNat
  | .cancelPlacement, message => message.reason.length ≤ limits.maxStringLength.toNat
  | .cancelRequest, message => message.reason.length ≤ limits.maxStringLength.toNat
  | .lifecycleAck, message => message.detail.length ≤ limits.maxStringLength.toNat
  | .inspect, message => message.subject.length ≤ limits.maxStringLength.toNat
  | .inspectReply, message => message.subject.length ≤ limits.maxStringLength.toNat ∧
      message.text.length ≤ (limits.maxExplanationEntries * limits.maxStringLength).toNat
  | .errorMessage, message => message.message.length ≤ limits.maxStringLength.toNat
  | .saveState, message => message.path.length ≤ limits.maxStringLength.toNat
  | .stateAck, message => message.path.length ≤ limits.maxStringLength.toNat ∧ message.detail.length ≤ limits.maxStringLength.toNat
  | .disconnectWorker, message => message.detail.length ≤ limits.maxStringLength.toNat

def received : (kind : PayloadKind) → kind.Written → kind.Content
  | .resource => fun record => sortedDescription record.toDescription
  | .schedule => sortedRequest
  | .hello | .helloAck | .retire | .resourceAck | .decision | .assign | .authority | .completion
  | .completionAck | .cancelPlacement | .cancelRequest | .lifecycleAck | .inspect | .inspectReply
  | .errorMessage | .saveState | .stateAck | .disconnectWorker => id

theorem encode_eq (kind : PayloadKind) (message : kind.Content) :
    kind.encode message = kind.write (kind.written message) := by
  cases kind <;> rfl

theorem read_decodes (kind : PayloadKind) (limits : Limits) :
    Decodes kind.write kind.received (kind.read limits) (kind.Fits limits) := by
  cases kind with
  | hello => exact readHello_decodes limits
  | helloAck => exact readHelloAck_decodes limits
  | resource => exact readAdvertisement_decodes limits
  | retire => exact readRetire_decodes
  | resourceAck => exact readResourceAck_decodes limits
  | schedule => exact readRequest_decodes limits
  | decision => exact readDecision_decodes limits
  | assign => exact readAssign_decodes limits
  | authority => exact readAuthority_decodes
  | completion => exact readCompletionClaim_decodes limits
  | completionAck => exact readCompletionAck_decodes limits
  | cancelPlacement => exact readCancelPlacement_decodes limits
  | cancelRequest => exact readCancelRequest_decodes limits
  | lifecycleAck => exact readLifecycleAck_decodes limits
  | inspect => exact readInspect_decodes limits
  | inspectReply => exact readInspectReply_decodes limits
  | errorMessage => exact readErrorMessage_decodes limits
  | saveState => exact readSaveState_decodes limits
  | stateAck => exact readStateAck_decodes limits
  | disconnectWorker => exact readDisconnectWorker_decodes limits

/-- A payload is decoded exactly if it was written within the bounds. -/
theorem decode_ok {limits : Limits} {kind : PayloadKind} {payload : Bytes} {message : kind.Content} :
    decode payload limits kind = .ok message ↔
      ∃ sent, kind.Fits limits sent ∧ kind.received sent = message ∧ kind.write sent = payload := by
  rw [kind.decode_eq limits payload]
  exact decodePayload_ok (kind.read_decodes limits)

def Arrives : (kind : PayloadKind) → kind.Content → kind.Content → Prop
  | .resource => DescriptionRearranged
  | .schedule => RequestRearranged
  | .hello | .helloAck | .retire | .resourceAck | .decision | .assign | .authority | .completion
  | .completionAck | .cancelPlacement | .cancelRequest | .lifecycleAck | .inspect | .inspectReply
  | .errorMessage | .saveState | .stateAck | .disconnectWorker => Eq

theorem decode_encode {limits : Limits} {kind : PayloadKind} {message : kind.Content}
    (fits : kind.Fits limits (kind.written message)) :
    kind.decode (kind.encode message) limits = .ok (kind.received (kind.written message)) :=
  decode_ok.mpr ⟨kind.written message, fits, rfl, (kind.encode_eq message).symm⟩

end PayloadKind

end Protocol

end LabScheduler
