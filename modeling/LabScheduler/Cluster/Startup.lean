import LabScheduler.Cluster.Worker
import LabScheduler.Codec.Delivery
import LabScheduler.Engine.Advertising

namespace LabScheduler

open Foundation

structure Renderers where
  explanation : Explanation → Text
  inspection : Text → Text

def Payload.bytes (renderers : Renderers) : Payload → Bytes
  | .helloAck message => Protocol.encodeHelloAck message
  | .resourceAck message => Protocol.encodeResourceAck message
  | .decision message =>
    Protocol.encodeDecision
      { decision := message.decision
        outcome := message.outcome
        failure := message.failure
        failureDetail := message.failureDetail
        placement := message.placement
        authority := message.authority
        explanation := (message.explanation.map renderers.explanation).getD [] }
  | .assign message => Protocol.encodeAssign message
  | .completionAck message => Protocol.encodeCompletionAck message
  | .lifecycleAck message => Protocol.encodeLifecycleAck message
  | .inspectReply subject => Protocol.encodeInspectReply { subject, text := renderers.inspection subject }
  | .stateAck message => Protocol.encodeStateAck message
  | .error message => Protocol.encodeErrorMessage message

/-- The codec of a client under its limits: no encoder refuses, and a payload is decoded as what the call expects. -/
def ClientCodec.wire (renderers : Renderers) (limits : Limits) : ClientCodec where
  encodes _ := .ok ()
  helloAck payload := Protocol.decodeHelloAck (payload.bytes renderers) limits
  resourceAck payload := Protocol.decodeResourceAck (payload.bytes renderers) limits
  lifecycleAck payload := Protocol.decodeLifecycleAck (payload.bytes renderers) limits
  completionAck payload := Protocol.decodeCompletionAck (payload.bytes renderers) limits
  assign payload := Protocol.decodeAssign (payload.bytes renderers) limits
  error payload := Protocol.decodeErrorMessage (payload.bytes renderers) limits

theorem ClientCodec.wire_resourceAck (renderers : Renderers) (limits : Limits) (message : ResourceAckMessage) :
    (.ok (.resourceAck message) >>= (ClientCodec.wire renderers limits).resourceAck) =
      Protocol.decodeResourceAck (Protocol.encodeResourceAck message) limits := rfl

def Answer.payload (answer : Answer) : Except Status Payload :=
  match answer.actions with
  | .send _ _ payload :: _ => .ok payload
  | _ => .error Protocol.peerClosed

/-- What the coordinator makes of a call and what comes back for it, when its frames arrive and nothing else happens
    meanwhile. The calls are numbered. -/
def CoordinatorConfig.replies (config : CoordinatorConfig) (authority : Text) (server : Engine × UInt64)
    (message : Message) : (Engine × UInt64) × Except Status Payload :=
  let call : Protocol.Call := { message, authority }
  let correlation := server.2 + 1
  match call.type? with
  | none => (server, .error Protocol.peerClosed)
  | some type =>
    let handled := (Protocol.heard config.limits ⟨type, correlation, 0, call.payload⟩).handle config server.1 correlation
    ((handled.1, correlation), handled.2.payload)

def against {γ α : Type} (answer : γ → Message → γ × Except Status Payload) (program : WorkerM α) (tally : WorkerTally)
    (server : γ) : γ × Except Status α × WorkerTally :=
  Session.serve answer (program.run tally) server

section Serving

variable {γ α β : Type} (answer : γ → Message → γ × Except Status Payload)

def proceed (after : α → WorkerM β) : γ × Except Status α × WorkerTally → γ × Except Status β × WorkerTally
  | (server, .ok value, tally) => against answer (after value) tally server
  | (server, .error status, tally) => (server, .error status, tally)

theorem against_bind (program : WorkerM α) (after : α → WorkerM β) (tally : WorkerTally) (server : γ) :
    against answer (program >>= after) tally server = proceed answer after (against answer program tally server) := by
  have split : (program >>= after).run tally = ((program.run tally : Conversation _) >>= fun result =>
      (ExceptT.bindCont after result.1 : StateT WorkerTally Conversation _) result.2) := rfl
  unfold against
  rw [split, Session.serve_bind]
  rcases Session.serve answer (program.run tally) server with ⟨server, value | status, tally⟩ <;> rfl

theorem against_call {codec : ClientCodec} {decode : Payload → Except Status α} {message : Message}
    (encodes : codec.encodes message = .ok ()) (tally : WorkerTally) (server : γ) :
    against answer (CoordinatorClient.call codec decode message) tally server =
      ((answer server message).1, (answer server message).2 >>= decode, tally) := by
  unfold CoordinatorClient.call
  rw [against_bind, encodes]
  change against answer (_ >>= _) tally server = _
  rw [against_bind]
  have asked : against answer (ExceptT.mk (StateT.lift (CoordinatorClient.transact message))) tally server =
      ((answer server message).1, (answer server message).2, tally) := rfl
  rw [asked]
  rcases answer server message with ⟨after, status | payload⟩
  · rfl
  · change against answer (MonadExcept.ofExcept (decode payload) : WorkerM α) tally after =
      (after, decode payload, tally)
    cases decode payload <;> rfl

end Serving

def resourceReply (resource : ResourceId) : Except Status ResourceRecord → ResourceAckMessage
  | .ok record => { resource := resource, generation := record.generation, lifecycle := record.lifecycle }
  | .error status => { resource := resource, code := status.code, detail := status.message }

theorem resourceAnswer_payload (correlation : UInt64) (resource : ResourceId) (result : Except Status ResourceRecord) :
    (resourceAnswer correlation resource result).payload = .ok (.resourceAck (resourceReply resource result)) := by
  cases result <;> rfl

section Replies

variable {config : CoordinatorConfig} {authority : Text} {advertisement : ResourceAdvertisement}

theorem replies_register (fits : RecordCodec.ResourceFits config.limits
      (RecordCodec.advertisementToRecord advertisement)) (engine : Engine) (correlation : UInt64) :
    config.replies authority (engine, correlation) (.registerResource advertisement) =
      (({ engine with
          state := (registerResource engine.state engine.config (RecordCodec.sortedDescription advertisement)).1 },
        correlation + 1),
        .ok (.resourceAck (resourceReply advertisement.id
          (registerResource engine.state engine.config (RecordCodec.sortedDescription advertisement)).2))) := by
  let call : Protocol.Call := { message := .registerResource advertisement, authority }
  have fits : call.Fits config.limits := fits
  have heard := Protocol.heard_call rfl fits (correlation + 1) 0
  simp only [CoordinatorConfig.replies, Protocol.Call.type?]
  rw [heard]
  exact Prod.ext rfl (resourceAnswer_payload ..)

theorem replies_publish (fits : RecordCodec.ResourceFits config.limits
      (RecordCodec.advertisementToRecord advertisement)) (engine : Engine) (correlation : UInt64) :
    config.replies authority (engine, correlation) (.publishState advertisement) =
      (({ engine with
          state := (publishResourceState engine.state engine.config (RecordCodec.sortedDescription advertisement)).1 },
        correlation + 1),
        .ok (.resourceAck (resourceReply advertisement.id
          (publishResourceState engine.state engine.config (RecordCodec.sortedDescription advertisement)).2))) := by
  let call : Protocol.Call := { message := .publishState advertisement, authority }
  have fits : call.Fits config.limits := fits
  have heard := Protocol.heard_call rfl fits (correlation + 1) 0
  simp only [CoordinatorConfig.replies, Protocol.Call.type?]
  rw [heard]
  exact Prod.ext rfl (resourceAnswer_payload ..)

end Replies

section Acknowledgements

variable {limits : Limits} {sent heard : ResourceAckMessage}

theorem resourceAck_arrives (short : sent.detail.length ≤ limits.maxStringLength.toNat) :
    Protocol.decodeResourceAck (Protocol.encodeResourceAck sent) limits = .ok sent :=
  (Protocol.decodePayload_ok (Protocol.readResourceAck_decodes limits)).mpr ⟨sent, short, rfl, rfl⟩

theorem resourceAck_code (decoded : Protocol.decodeResourceAck (Protocol.encodeResourceAck sent) limits = .ok heard) :
    heard.code = sent.code := by
  obtain ⟨written, -, rfl, same⟩ := (Protocol.decodePayload_ok (Protocol.readResourceAck_decodes limits)).mp decoded
  change Protocol.encodeResourceAck written = Protocol.encodeResourceAck sent at same
  simp only [Protocol.encodeResourceAck, List.flatten_cons] at same
  obtain ⟨-, same⟩ := List.append_inj same ((ByteReader.u64_length _).trans (ByteReader.u64_length _).symm)
  obtain ⟨-, same⟩ := List.append_inj same ((ByteReader.u64_length _).trans (ByteReader.u64_length _).symm)
  obtain ⟨-, same⟩ := List.append_inj same ((ByteReader.u8_length _).trans (ByteReader.u8_length _).symm)
  obtain ⟨code, -⟩ := List.append_inj same ((ByteReader.u16_length _).trans (ByteReader.u16_length _).symm)
  let reader : ByteReader := { bytes := Protocol.writeErrorCode sent.code }
  have begins : Protocol.writeErrorCode written.code <+: Source.rest reader := code ▸ List.prefix_refl _
  exact (Protocol.readErrorCode_decodes.determined trivial trivial ⟨begins, rfl⟩ ⟨List.prefix_refl _, rfl⟩).1

end Acknowledgements

/-- The resource is counted as the worker's. -/
def WorkerTally.counts (tally : WorkerTally) (resource : ResourceId) : WorkerTally :=
  { tally with resourceIds := tally.resourceIds ++ [resource] }

namespace WorkerAgent

open CoordinatorClient

/-- What follows the acknowledgement in `advertise`. -/
def conclude (advertisement : ResourceAdvertisement) (ack : ResourceAckMessage) : WorkerM Unit := do
  if ack.code ≠ .ok then throw ⟨ack.code, ascii "resource advertisement rejected: " ++ ack.detail⟩
  modify fun tally => tally.counts advertisement.id

theorem advertise_eq (config : WorkerConfig) (advertisement : ResourceAdvertisement) :
    advertise config advertisement =
      (callRegister config.codec advertisement >>= fun registered =>
        (if registered.code = .duplicateIdentity then callPublish config.codec advertisement else pure registered) >>=
          conclude advertisement) := by
  unfold advertise
  refine bind_congr fun registered => ?_
  by_cases duplicate : registered.code = .duplicateIdentity
  · rw [if_pos duplicate, if_pos duplicate]
    rfl
  · rw [if_neg duplicate, if_neg duplicate]
    rfl

theorem against_conclude {γ : Type} (answer : γ → Message → γ × Except Status Payload)
    (advertisement : ResourceAdvertisement) (ack : ResourceAckMessage) (tally : WorkerTally) (server : γ) :
    against answer (conclude advertisement ack) tally server =
      if ack.code = .ok then (server, .ok (), tally.counts advertisement.id)
      else (server, .error ⟨ack.code, ascii "resource advertisement rejected: " ++ ack.detail⟩, tally) := by
  unfold conclude
  by_cases accepted : ack.code = .ok
  · rw [if_neg (not_not.mpr accepted), if_pos accepted]
    rfl
  · rw [if_pos accepted, if_neg accepted]
    rfl

theorem advertise_cons (config : WorkerConfig) (advertisement : ResourceAdvertisement)
    (rest : List ResourceAdvertisement) :
    (forM (advertisement :: rest) (advertise config) : WorkerM Unit) =
      (advertise config advertisement >>= fun _ => forM rest (advertise config)) := rfl

theorem start_eq (config : WorkerConfig) :
    start config =
      (callHello config.codec { worker := config.worker, boot := config.boot } >>= fun ack =>
        (MonadExcept.ofExcept config.resources : WorkerM (List ResourceAdvertisement)) >>= fun resources =>
          (forM resources (advertise config) : WorkerM Unit) >>= fun _ => pure ack) := rfl

end WorkerAgent

section Advertise

variable {config : CoordinatorConfig} {authority : Text} {renderers : Renderers} {limits : Limits}
  {worker : WorkerConfig} {advertisement : ResourceAdvertisement}

theorem resourceReply_decoded {resource : ResourceId} {result : Except Status ResourceRecord}
    (fails : Fails (· ≠ .ok) result) {ack : ResourceAckMessage}
    (decoded : Protocol.decodeResourceAck (Protocol.encodeResourceAck (resourceReply resource result)) limits = .ok ack) :
    ack.code = .ok ↔ result.isOk := by
  rw [resourceAck_code decoded]
  cases result with
  | ok record => exact iff_of_true rfl rfl
  | error status => exact iff_of_false (fails status rfl) Bool.false_ne_true

theorem resourceReply_ok (resource : ResourceId) (record : ResourceRecord) :
    Protocol.decodeResourceAck (Protocol.encodeResourceAck (resourceReply resource (.ok record))) limits =
      .ok (resourceReply resource (.ok record)) := resourceAck_arrives (Nat.zero_le _)

theorem proceed_conclude {server : Engine × UInt64} {result : Except Status ResourceRecord}
    (fails : Fails (· ≠ .ok) result) (tally : WorkerTally) :
    ∃ concluded, proceed (config.replies authority) (WorkerAgent.conclude advertisement)
        (server, Protocol.decodeResourceAck (Protocol.encodeResourceAck (resourceReply advertisement.id result)) limits,
          tally) =
      (server, concluded, if result.isOk then tally.counts advertisement.id else tally) ∧
        concluded.isOk = result.isOk := by
  cases result with
  | ok record =>
    rw [resourceReply_ok]
    exact ⟨.ok (), WorkerAgent.against_conclude .., rfl⟩
  | error status =>
    cases decoded : Protocol.decodeResourceAck (Protocol.encodeResourceAck
      (resourceReply advertisement.id (.error status))) limits with
    | error reason => exact ⟨.error reason, rfl, rfl⟩
    | ok ack =>
      have refused : ack.code ≠ .ok := fun ok => by cases (resourceReply_decoded fails decoded).mp ok
      refine ⟨.error ⟨ack.code, ascii "resource advertisement rejected: " ++ ack.detail⟩, ?_, rfl⟩
      refine (WorkerAgent.against_conclude ..).trans ?_
      rw [if_neg refused]
      rfl

theorem against_register (codec : worker.codec = .wire renderers limits)
    (fits : RecordCodec.ResourceFits config.limits (RecordCodec.advertisementToRecord advertisement))
    (tally : WorkerTally) (engine : Engine) (correlation : UInt64) :
    against (config.replies authority) (CoordinatorClient.callRegister worker.codec advertisement) tally
        (engine, correlation) =
      (({ engine with
          state := (registerResource engine.state engine.config (RecordCodec.sortedDescription advertisement)).1 },
        correlation + 1),
        Protocol.decodeResourceAck (Protocol.encodeResourceAck (resourceReply advertisement.id
          (registerResource engine.state engine.config (RecordCodec.sortedDescription advertisement)).2)) limits,
        tally) := by
  unfold CoordinatorClient.callRegister
  rw [codec, against_call _ rfl, replies_register fits, ClientCodec.wire_resourceAck]

theorem against_publish (codec : worker.codec = .wire renderers limits)
    (fits : RecordCodec.ResourceFits config.limits (RecordCodec.advertisementToRecord advertisement))
    (tally : WorkerTally) (engine : Engine) (correlation : UInt64) :
    against (config.replies authority) (CoordinatorClient.callPublish worker.codec advertisement) tally
        (engine, correlation) =
      (({ engine with
          state := (publishResourceState engine.state engine.config (RecordCodec.sortedDescription advertisement)).1 },
        correlation + 1),
        Protocol.decodeResourceAck (Protocol.encodeResourceAck (resourceReply advertisement.id
          (publishResourceState engine.state engine.config (RecordCodec.sortedDescription advertisement)).2)) limits,
        tally) := by
  unfold CoordinatorClient.callPublish
  rw [codec, against_call _ rfl, replies_publish fits, ClientCodec.wire_resourceAck]

theorem against_advertise (codec : worker.codec = .wire renderers limits) (short : 64 ≤ limits.maxStringLength.toNat)
    (fits : RecordCodec.ResourceFits config.limits (RecordCodec.advertisementToRecord advertisement))
    (tally : WorkerTally) (engine : Engine) (correlation : UInt64) :
    ∃ later result,
      against (config.replies authority) (WorkerAgent.advertise worker advertisement) tally (engine, correlation) =
        (({ engine with
            state := (advertised engine.state engine.config (RecordCodec.sortedDescription advertisement)).1 }, later),
          result,
          if (advertised engine.state engine.config (RecordCodec.sortedDescription advertisement)).2 then
            tally.counts advertisement.id
          else tally) ∧
      result.isOk = (advertised engine.state engine.config (RecordCodec.sortedDescription advertisement)).2 := by
  rw [WorkerAgent.advertise_eq, against_bind, against_register codec fits]
  rcases registers : registerResource engine.state engine.config (RecordCodec.sortedDescription advertisement) with
    ⟨after, status | record⟩
  · obtain ⟨rfl, refused⟩ := registerResource_error registers
    obtain ⟨failed, duplicates⟩ := registerChecks_fails refused
    by_cases duplicate : status.code = .duplicateIdentity
    · -- the refusal is short enough to be read, and the worker publishes
      obtain ⟨-, -, message⟩ := duplicates duplicate
      have read : (resourceReply advertisement.id (.error status)).detail.length ≤ limits.maxStringLength.toNat := by
        refine le_trans ?_ short
        change status.message.length ≤ 64
        rw [message, List.length_append, StrongId.toText_length]
        decide
      have known : (resourceReply advertisement.id (.error status)).code = .duplicateIdentity := duplicate
      have fails : Fails (· ≠ .ok) (publishResourceState engine.state engine.config
          (RecordCodec.sortedDescription advertisement)).2 :=
        fun other same => (publishResourceState_plain _ _ _ other same).1
      simp only [advertised, registers, if_pos duplicate]
      rw [resourceAck_arrives read]
      change ∃ later result, against _ (_ >>= _) _ _ = _ ∧ _
      rw [against_bind, if_pos known, against_publish codec fits]
      obtain ⟨concluded, proceeded, same⟩ := proceed_conclude fails tally
      exact ⟨_, concluded, proceeded, same⟩
    · simp only [advertised, registers, if_neg duplicate]
      cases decoded : Protocol.decodeResourceAck (Protocol.encodeResourceAck
        (resourceReply advertisement.id (.error status))) limits with
      | error reason => exact ⟨_, .error reason, rfl, rfl⟩
      | ok ack =>
        have code : ack.code = status.code := resourceAck_code decoded
        change ∃ later result, against _ (_ >>= _) _ _ = _ ∧ _
        rw [if_neg (code ▸ duplicate), against_bind]
        change ∃ later result, against _ (WorkerAgent.conclude advertisement ack) _ _ = _ ∧ _
        rw [WorkerAgent.against_conclude, if_neg (code ▸ failed)]
        exact ⟨_, _, rfl, rfl⟩
  · simp only [advertised, registers]
    rw [resourceReply_ok]
    change ∃ later result, against _ (_ >>= _) _ _ = _ ∧ _
    have plain : (resourceReply advertisement.id (.ok record)).code ≠ .duplicateIdentity := fun same => by cases same
    rw [if_neg plain, against_bind]
    change ∃ later result, against _ (WorkerAgent.conclude advertisement _) _ _ = _ ∧ _
    have accepted : (resourceReply advertisement.id (.ok record)).code = .ok := rfl
    rw [WorkerAgent.against_conclude, if_pos accepted]
    refine ⟨correlation + 1, .ok (), ?_, rfl⟩
    rw [if_pos trivial]

end Advertise

section Start

variable {config : CoordinatorConfig} {authority : Text} {renderers : Renderers} {limits : Limits}
  {worker : WorkerConfig}

/-- A run of advertisements stops at the first that is not taken. -/
theorem against_advertisements {start : SchedulerState} {engineConfig : EngineConfig} {ids : IdGenerator}
    (codec : worker.codec = .wire renderers limits) (short : 64 ≤ limits.maxStringLength.toNat)
    (named : worker.worker.isNull = false) {advertisements : List ResourceAdvertisement}
    (owned : ∀ advertisement ∈ advertisements,
      advertisement.worker = worker.worker ∧ advertisement.boot = worker.boot)
    (fits : ∀ advertisement ∈ advertisements,
      RecordCodec.ResourceFits config.limits (RecordCodec.advertisementToRecord advertisement))
    {earlier : List ResourceAdvertisement} {state : SchedulerState}
    (distinct : ((earlier ++ advertisements).map Description.id).Nodup)
    (announced : Announced start state worker.worker worker.boot (earlier.map RecordCodec.sortedDescription))
    (tally : WorkerTally) (correlation : UInt64) :
    ∃ after later result taken rest,
      against (config.replies authority) (forM advertisements (WorkerAgent.advertise worker) : WorkerM Unit) tally
          (⟨engineConfig, ids, state⟩, correlation) =
        ((⟨engineConfig, ids, after⟩, later), result,
          { tally with resourceIds := tally.resourceIds ++ taken.map Description.id }) ∧
      advertisements = taken ++ rest ∧
      Announced start after worker.worker worker.boot ((earlier ++ taken).map RecordCodec.sortedDescription) ∧
      (result.isOk ↔ rest = []) ∧
      (rest = [] ↔ start.TakesAll engineConfig.limits state.resources.size
        (advertisements.map RecordCodec.sortedDescription)) := by
  induction advertisements generalizing earlier state tally correlation with
  | nil =>
    refine ⟨state, correlation, .ok (), [], [], ?_, rfl, ?_, iff_of_true rfl rfl, iff_of_true rfl trivial⟩
    · rw [List.map_nil, List.append_nil]
      rfl
    · rw [List.append_nil]
      exact announced
  | cons advertisement rest ih =>
    obtain ⟨mine, others⟩ := List.forall_mem_cons.mp owned
    obtain ⟨within, later⟩ := List.forall_mem_cons.mp fits
    have arrived : (earlier.map RecordCodec.sortedDescription).map Description.id = earlier.map Description.id := by
      rw [List.map_map]
      rfl
    have new : (RecordCodec.sortedDescription advertisement).id ∉
        (earlier.map RecordCodec.sortedDescription).map Description.id := by
      rw [arrived]
      rw [List.map_append, List.map_cons, List.nodup_middle] at distinct
      exact fun member => (List.nodup_cons.mp distinct).1 (List.mem_append_left _ member)
    obtain ⟨exactly, takes, refuses⟩ := @Announced.step start state engineConfig _ _ _
      (RecordCodec.sortedDescription advertisement) announced named mine new
    obtain ⟨sent, result, served, same⟩ :=
      @against_advertise config authority _ _ _ _ codec short within tally ⟨engineConfig, ids, state⟩ correlation
    rw [WorkerAgent.advertise_cons, against_bind, served]
    dsimp only at same ⊢
    cases advertises : (advertised state engineConfig (RecordCodec.sortedDescription advertisement)).2 with
    | true =>
      rw [advertises] at same
      obtain ⟨announced, size⟩ := takes advertises
      have whole : earlier ++ [advertisement] ++ rest = earlier ++ advertisement :: rest := by
        rw [List.append_assoc, List.singleton_append]
      have next : Announced start (advertised state engineConfig (RecordCodec.sortedDescription advertisement)).1
          worker.worker worker.boot ((earlier ++ [advertisement]).map RecordCodec.sortedDescription) := by
        rw [List.map_append]
        exact announced
      cases result with
      | error status => cases same
      | ok =>
        obtain ⟨after, last, result, taken, left, served, split, announced, done, all⟩ :=
          ih others later (whole.symm ▸ distinct) next (tally.counts advertisement.id) sent
        refine ⟨after, last, result, advertisement :: taken, left, ?_, ?_, ?_, done, ?_⟩
        · rw [if_pos rfl]
          refine served.trans ?_
          rw [WorkerTally.counts, List.map_cons, List.append_assoc, List.singleton_append]
        · rw [split, List.cons_append]
        · rw [← List.singleton_append, ← List.append_assoc]
          exact announced
        · rw [all, size]
          exact ⟨fun taken => ⟨exactly.mp advertises, taken⟩, fun taken => taken.2⟩
    | false =>
      rw [advertises] at same
      cases result with
      | ok => cases same
      | error status =>
        refine ⟨(advertised state engineConfig (RecordCodec.sortedDescription advertisement)).1, sent, .error status, [],
          advertisement :: rest, ?_, rfl, ?_, ?_, ?_⟩
        · rw [if_neg Bool.false_ne_true, List.map_nil, List.append_nil]
          rfl
        · rw [List.append_nil]
          exact refuses advertises
        · exact iff_of_false Bool.false_ne_true (List.cons_ne_nil _ _)
        · refine iff_of_false (List.cons_ne_nil _ _) fun taken => ?_
          rw [exactly.mpr taken.1] at advertises
          cases advertises

theorem replies_hello (greets : authority.length ≤ config.limits.maxStringLength.toNat) (message : HelloMessage)
    (engine : Engine) (correlation : UInt64) :
    config.replies authority (engine, correlation) (.hello message) =
      (((engine.step (.workerConnected message.worker message.boot)).1, correlation + 1),
        .ok (.helloAck ⟨(engine.step (.workerConnected message.worker message.boot)).1.state.epoch,
          config.coordinatorName⟩)) := by
  let call : Protocol.Call := { message := .hello message, authority }
  have fits : call.Fits config.limits := greets
  have heard := Protocol.heard_call rfl fits (correlation + 1) 0
  simp only [CoordinatorConfig.replies, Protocol.Call.type?]
  rw [heard]
  rfl

theorem against_hello (codec : worker.codec = .wire renderers limits)
    (greets : authority.length ≤ config.limits.maxStringLength.toNat)
    (name : config.coordinatorName.length ≤ limits.maxStringLength.toNat) (message : HelloMessage) (tally : WorkerTally)
    (engine : Engine) (correlation : UInt64) :
    against (config.replies authority) (CoordinatorClient.callHello worker.codec message) tally (engine, correlation) =
      (((engine.step (.workerConnected message.worker message.boot)).1, correlation + 1),
        .ok ⟨(engine.step (.workerConnected message.worker message.boot)).1.state.epoch, config.coordinatorName⟩,
        tally) := by
  unfold CoordinatorClient.callHello
  rw [codec, against_call _ rfl, replies_hello greets]
  refine Prod.ext rfl (Prod.ext ?_ rfl)
  exact (Protocol.decodePayload_ok (Protocol.readHelloAck_decodes limits)).mpr ⟨_, name, rfl, rfl⟩

theorem workerConnected_entered {state : SchedulerState} {config : EngineConfig} {worker : WorkerId}
    {boot : WorkerBootId} (named : worker.isNull = false) (booted : boot.isNull = false) :
    (workerConnected state config worker boot).1.Entered worker boot := by
  have valid {kind : IdKind} {id : StrongId kind} (some : id.isNull = false) : id.validate = .ok () :=
    StrongId.validate_ok.mpr fun null => Bool.eq_false_iff.mp some (StrongId.isNull_iff.mpr null)
  have checks : workerChecks worker boot = .ok () := by
    unfold workerChecks
    rw [valid named, valid booted]
    rfl
  unfold workerConnected
  rw [checks]
  exact adoptWorkerIncarnation_boot ..

/-- A worker that starts greets, and advertises its resources one after the other. On a connection that nothing
    disturbs it starts exactly if the coordinator, once it has greeted, takes them all; if not, it stops at the first
    that is not taken, and those before it are announced. -/
theorem worker_starts_exactly {advertisements : List ResourceAdvertisement}
    (codec : worker.codec = .wire renderers limits)
    (built : worker.resources = .ok advertisements) (named : worker.worker.isNull = false)
    (booted : worker.boot.isNull = false)
    (owned : ∀ advertisement ∈ advertisements,
      advertisement.worker = worker.worker ∧ advertisement.boot = worker.boot)
    (distinct : (advertisements.map Description.id).Nodup)
    (fits : ∀ advertisement ∈ advertisements,
      RecordCodec.ResourceFits config.limits (RecordCodec.advertisementToRecord advertisement))
    (greets : authority.length ≤ config.limits.maxStringLength.toNat) (short : 64 ≤ limits.maxStringLength.toNat)
    (name : config.coordinatorName.length ≤ limits.maxStringLength.toNat) (engine : Engine) (correlation : UInt64) :
    ∃ entered after later result taken rest,
      (engine.step (.workerConnected worker.worker worker.boot)).1 = entered ∧
      against (config.replies authority) (WorkerAgent.start worker) {} (engine, correlation) =
        (({ entered with state := after }, later), result, { resourceIds := taken.map Description.id }) ∧
      advertisements = taken ++ rest ∧
      Announced entered.state after worker.worker worker.boot (taken.map RecordCodec.sortedDescription) ∧
      (rest = [] → result = .ok ⟨entered.state.epoch, config.coordinatorName⟩) ∧ (rest ≠ [] → result.isOk = false) ∧
      (rest = [] ↔ entered.state.TakesAll entered.config.limits entered.state.resources.size
        (advertisements.map RecordCodec.sortedDescription)) := by
  let entered := (engine.step (.workerConnected worker.worker worker.boot)).1
  have announced : Announced entered.state entered.state worker.worker worker.boot [] :=
    ⟨⟨rfl, rfl⟩, rfl, rfl, rfl, workerConnected_entered named booted, fun _ member => absurd member List.not_mem_nil,
      fun _ _ => rfl⟩
  obtain ⟨after, later, result, taken, rest, served, split, announced, done, all⟩ :=
    @against_advertisements config authority renderers limits worker entered.state entered.config entered.ids codec short
      named _ owned fits [] entered.state distinct announced {} (correlation + 1)
  rw [WorkerAgent.start_eq, against_bind, against_hello codec greets name]
  change ∃ entered' after later result taken rest, entered = entered' ∧ against _ (_ >>= _) _ _ = _ ∧ _
  rw [against_bind, built]
  change ∃ entered' after later result taken rest, entered = entered' ∧ against _ (_ >>= _) _ _ = _ ∧ _
  rw [against_bind]
  have answered := congrArg (proceed (config.replies authority) fun _ =>
    (pure ⟨entered.state.epoch, config.coordinatorName⟩ : WorkerM HelloAckMessage)) served
  cases result with
  | ok =>
    have none : rest = [] := done.mp rfl
    exact ⟨entered, after, later, _, taken, rest, rfl, answered, split, announced, fun _ => rfl,
      fun some => absurd none some, all⟩
  | error status =>
    have some : rest ≠ [] := fun none => by cases done.mpr none
    exact ⟨entered, after, later, _, taken, rest, rfl, answered, split, announced, fun none => absurd none some,
      fun _ => rfl, all⟩

end Start

namespace Bench

def fileless : CoordinatorConfig := { codec := { encodes := fun _ => true, decodes := fun _ _ => .ok () } }

def unrendered : Renderers := ⟨fun _ => [], fun _ => []⟩

def bench21 : ResourceAdvertisement := { advertisement with worker := ⟨21⟩, boot := ⟨1⟩ }

def starter : WorkerConfig :=
  { worker := ⟨21⟩, boot := ⟨1⟩, resources := .ok [bench21], codec := .wire unrendered {} }

theorem bench21_fits : RecordCodec.ResourceFits {} (RecordCodec.advertisementToRecord bench21) :=
  ⟨bare_fits rfl (by decide) (listed_nil _), by decide⟩

end Bench

theorem worker_starts_exactly_bench :
    (against (Bench.fileless.replies []) (WorkerAgent.start Bench.starter) {} (Engine.fresh {}, 0)).2.1 =
      .ok ⟨⟨1⟩, ascii "lab-scheduler-coordinator"⟩ := by
  have owned : ∀ advertisement ∈ [Bench.bench21], advertisement.worker = ⟨21⟩ ∧ advertisement.boot = ⟨1⟩ :=
    List.forall_mem_singleton.mpr ⟨rfl, rfl⟩
  obtain ⟨entered, after, later, result, taken, rest, rfl, served, -, -, started, -, all⟩ :=
    @worker_starts_exactly Bench.fileless [] Bench.unrendered {} Bench.starter [Bench.bench21] rfl rfl rfl rfl owned
      (List.nodup_singleton _) (List.forall_mem_singleton.mpr Bench.bench21_fits) (by decide) (by decide) (by decide)
      (Engine.fresh {}) 0
  rw [served]
  refine started (all.mpr ⟨⟨by decide, by decide, by decide, fun record found => ?_⟩, trivial⟩)
  cases found

end LabScheduler
