import LabScheduler.Codec.Connection
import LabScheduler.Codec.Wire

namespace LabScheduler

open Foundation RecordCodec

namespace Protocol

def hearing {α : Type} (hears : α → Message) : Except Status α → Message
  | .ok message => hears message
  | .error status => .refused status

/-- What `run` makes of a frame: the switch over its type, and the decoder of the case. -/
def heard (limits : Limits) (view : FrameView) : Message :=
  match view.type with
  | .hello => hearing (fun message => .hello message.toHelloMessage) (decodeHello view.payload limits)
  | .registerResource => hearing .registerResource (decodeResourceMessage view.payload limits)
  | .publishState => hearing .publishState (decodeResourceMessage view.payload limits)
  | .retireResource => hearing .retireResource (decodeRetire view.payload)
  | .scheduleRequest => hearing .scheduleRequest (decodeSchedule view.payload limits)
  | .assignAck => hearing .assignAck (decodeAuthority view.payload)
  | .running => hearing .running (decodeAuthority view.payload)
  | .completion => hearing .completion (decodeCompletion view.payload limits)
  | .cancelPlacement => hearing .cancelPlacement (decodeCancelPlacement view.payload limits)
  | .cancelRequest => hearing .cancelRequest (decodeCancelRequest view.payload limits)
  | .reassign => hearing .reassign (decodeCancelPlacement view.payload limits)
  | .preempt => hearing .preempt (decodeCancelPlacement view.payload limits)
  | .inspect => hearing (fun message => .inspect message.subject) (decodeInspect view.payload limits)
  | .saveState => hearing (fun message => .saveState message.path) (decodeSaveState view.payload limits)
  | .disconnectWorker => hearing .disconnectWorker (decodeDisconnectWorker view.payload limits)
  | .shutdown => .shutdown
  | type => .other type

/-- A call of the client: the message it is made with, and the authority that goes with a greeting. -/
structure Call where
  message : Message
  authority : Text := []

namespace Call

/-- The type of the frame. A refused payload and a type without a message are no calls. -/
def type? (call : Call) : Option MessageType :=
  match call.message with
  | .hello _ => some .hello
  | .registerResource _ => some .registerResource
  | .publishState _ => some .publishState
  | .retireResource _ => some .retireResource
  | .scheduleRequest _ => some .scheduleRequest
  | .assignAck _ => some .assignAck
  | .running _ => some .running
  | .completion _ => some .completion
  | .cancelPlacement _ => some .cancelPlacement
  | .cancelRequest _ => some .cancelRequest
  | .reassign _ => some .reassign
  | .preempt _ => some .preempt
  | .inspect _ => some .inspect
  | .saveState _ => some .saveState
  | .disconnectWorker _ => some .disconnectWorker
  | .shutdown => some .shutdown
  | .refused _ | .other _ => none

def payload (call : Call) : Bytes :=
  match call.message with
  | .hello message => encodeHello { message with authority := call.authority }
  | .registerResource advertisement | .publishState advertisement => encodeResourceMessage advertisement
  | .retireResource message => encodeRetire message
  | .scheduleRequest request => encodeSchedule request
  | .assignAck message | .running message => encodeAuthority message
  | .completion claim => encodeCompletion claim
  | .cancelPlacement message | .reassign message | .preempt message => encodeCancelPlacement message
  | .cancelRequest message => encodeCancelRequest message
  | .inspect subject => encodeInspect { subject }
  | .saveState path => encodeSaveState { path }
  | .disconnectWorker message => encodeDisconnectWorker message
  | .shutdown | .refused _ | .other _ => []

def Fits (limits : Limits) (call : Call) : Prop :=
  match call.message with
  | .hello _ => call.authority.length ≤ limits.maxStringLength.toNat
  | .registerResource advertisement | .publishState advertisement =>
    ResourceFits limits (advertisementToRecord advertisement)
  | .scheduleRequest request => RequestFits limits request
  | .completion claim => CompletionFits limits claim
  | .cancelPlacement message | .reassign message | .preempt message =>
    message.reason.length ≤ limits.maxStringLength.toNat
  | .cancelRequest message => message.reason.length ≤ limits.maxStringLength.toNat
  | .inspect text | .saveState text => text.length ≤ limits.maxStringLength.toNat
  | .disconnectWorker message => message.detail.length ≤ limits.maxStringLength.toNat
  | .retireResource _ | .assignAck _ | .running _ | .shutdown | .refused _ | .other _ => True

/-- The message as it is heard: the sets of capabilities are in order. -/
def arrives (call : Call) : Message :=
  match call.message with
  | .registerResource advertisement => .registerResource (sortedDescription advertisement)
  | .publishState advertisement => .publishState (sortedDescription advertisement)
  | .scheduleRequest request => .scheduleRequest (sortedRequest request)
  | message => message

end Call

/-- `CoordinatorClient`'s frames, the calls numbered by `next_correlation`. -/
def clientFrames : UInt64 → List Call → List FrameView
  | _, [] => []
  | correlation, call :: calls =>
    match call.type? with
    | none => clientFrames correlation calls
    | some type => ⟨type, correlation + 1, 0, call.payload⟩ :: clientFrames (correlation + 1) calls

theorem heard_call {limits : Limits} {call : Call} {type : MessageType} (made : call.type? = some type)
    (fits : call.Fits limits) (correlationId coordinatorEpoch : UInt64) :
    heard limits ⟨type, correlationId, coordinatorEpoch, call.payload⟩ = call.arrives := by
  have decodes (kind : PayloadKind) (message : kind.Content) (fits : kind.Fits limits (kind.written message))
      (hears : kind.Content → Message) :
      hearing hears (kind.decode (kind.encode message) limits) = hears (kind.received (kind.written message)) :=
    congrArg (hearing hears) (PayloadKind.decode_encode fits)
  obtain ⟨message, authority⟩ := call
  cases message with
  | hello message =>
    cases made
    exact decodes .hello { message with authority } fits fun message => .hello message.toHelloMessage
  | registerResource advertisement =>
    cases made
    exact decodes .resource advertisement fits .registerResource
  | publishState advertisement =>
    cases made
    exact decodes .resource advertisement fits .publishState
  | retireResource message =>
    cases made
    exact decodes .retire message fits .retireResource
  | scheduleRequest request =>
    cases made
    exact decodes .schedule request fits .scheduleRequest
  | assignAck message =>
    cases made
    exact decodes .authority message fits .assignAck
  | running message =>
    cases made
    exact decodes .authority message fits .running
  | completion claim =>
    cases made
    exact decodes .completion claim fits .completion
  | cancelPlacement message =>
    cases made
    exact decodes .cancelPlacement message fits .cancelPlacement
  | cancelRequest message =>
    cases made
    exact decodes .cancelRequest message fits .cancelRequest
  | reassign message =>
    cases made
    exact decodes .cancelPlacement message fits .reassign
  | preempt message =>
    cases made
    exact decodes .cancelPlacement message fits .preempt
  | inspect subject =>
    cases made
    exact decodes .inspect { subject } fits fun message => .inspect message.subject
  | saveState path =>
    cases made
    exact decodes .saveState { path } fits fun message => .saveState message.path
  | disconnectWorker message =>
    cases made
    exact decodes .disconnectWorker message fits .disconnectWorker
  | shutdown =>
    cases made
    rfl
  | refused status => cases made
  | other type => cases made

theorem clientFrames_heard {limits : Limits} {calls : List Call} (first : UInt64)
    (made : ∀ call ∈ calls, call.type?.isSome) (fits : ∀ call ∈ calls, call.Fits limits) :
    (clientFrames first calls).map (heard limits) = calls.map Call.arrives := by
  induction calls generalizing first with
  | nil => rfl
  | cons call calls ih =>
    obtain ⟨here, others⟩ := List.forall_mem_cons.mp made
    obtain ⟨within, later⟩ := List.forall_mem_cons.mp fits
    obtain ⟨type, made⟩ := Option.isSome_iff_exists.mp here
    simp only [clientFrames, made, List.map_cons, heard_call made within, ih (first + 1) others later]

theorem clientFrames_payload {calls : List Call} {first : UInt64} {view : FrameView}
    (member : view ∈ clientFrames first calls) : ∃ call ∈ calls, view.payload = call.payload := by
  induction calls generalizing first with
  | nil => exact absurd member List.not_mem_nil
  | cons call calls ih =>
    unfold clientFrames at member
    split at member
    · obtain ⟨other, among, same⟩ := ih member
      exact ⟨other, List.mem_cons_of_mem _ among, same⟩
    · rcases List.mem_cons.mp member with rfl | member
      · exact ⟨call, List.mem_cons_self, rfl⟩
      · obtain ⟨other, among, same⟩ := ih member
        exact ⟨other, List.mem_cons_of_mem _ among, same⟩

/-- The coordinator hears the calls of a client in the order they were made, each as it was made and none twice, up to
    where the connection breaks; it hears all of them if all were sent and have arrived. -/
theorem calls_heard (limits : Limits) (first : UInt64) (calls : List Call) (sends : List SendCall) (socket : Arriving)
    (made : ∀ call ∈ calls, call.type?.isSome) (fits : ∀ call ∈ calls, call.Fits limits)
    (small : ∀ call ∈ calls, kFrameHeaderSize + call.payload.length ≤ limits.maxFrameSize.toNat)
    (carried : socket.symbols <+: (sendFrames (clientFrames first calls) { calls := sends }).2.wire) :
    ∃ views, Drains (receiveFrame limits) socket views (Incoming.broken peerClosed recvFailed socket) ∧
      views <+: clientFrames first calls ∧ views.map (heard limits) <+: calls.map Call.arrives ∧
      ((sendFrames (clientFrames first calls) { calls := sends }).1 = .ok () →
        socket.symbols = (sendFrames (clientFrames first calls) { calls := sends }).2.wire →
          views.map (heard limits) = calls.map Call.arrives) := by
  have within (view : FrameView) (member : view ∈ clientFrames first calls) : FrameFits limits view := by
    obtain ⟨call, among, same⟩ := clientFrames_payload member
    unfold FrameFits
    rw [same]
    exact small call among
  have hears := clientFrames_heard first made fits
  obtain ⟨sent, unsent, taken, whole, sendable, wired, part, done⟩ :=
    @sendFrames_wire (clientFrames first calls) { calls := sends } rfl
  rw [wired, List.nil_append] at carried ⊢
  obtain ⟨views, later, mid, stop, read⟩ := @framesRead_exists limits _ _ sendable (carried.trans part)
  have fits (view : FrameView) (member : view ∈ sent) : FrameFits limits view := by
    apply within
    rw [whole]
    exact List.mem_append_left _ member
  obtain rfl := read.ended fits
  have begins : views <+: clientFrames first calls := by
    rw [whole, read.split, List.append_assoc]
    exact List.prefix_append _ _
  refine ⟨views, read.drains, begins, ?_, fun finished arrived => ?_⟩
  · rw [← hears]
    exact begins.map _
  · obtain ⟨rfl, rfl⟩ := done finished
    rw [read.all fits arrived, ← List.append_nil sent, ← whole, hears]

namespace Bench

def calls : List Call := [{ message := .inspect (ascii "resources") }, { message := .shutdown }]

end Bench

theorem calls_heard_bench :
    let socket := Bench.trickle (sendFrames (clientFrames 0 Bench.calls) {}).2.wire
    ∃ views, Drains (receiveFrame {}) socket views (Incoming.broken peerClosed recvFailed socket) ∧
      views.map (heard {}) = Bench.calls.map Call.arrives := by
  intro socket
  have inspect : Call.Fits {} { message := .inspect (ascii "resources") } := by
    change (ascii "resources").length ≤ _
    decide
  have wire : socket.symbols = (sendFrames (clientFrames 0 Bench.calls) {}).2.wire := Bench.trickle_symbols _
  obtain ⟨views, drains, -, -, all⟩ := calls_heard {} 0 Bench.calls [] socket (by decide)
    (List.forall_mem_cons.mpr ⟨inspect, List.forall_mem_singleton.mpr trivial⟩) (by decide) (wire ▸ List.prefix_refl _)
  exact ⟨views, drains, all (by rfl) wire⟩

end Protocol

end LabScheduler
