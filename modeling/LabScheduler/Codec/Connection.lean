import LabScheduler.Codec.Framing
import LabScheduler.Foundation.Refusals
import LabScheduler.Foundation.Streams

namespace LabScheduler

open Foundation

namespace Protocol

/-- The receiving side of a `TcpSocket`. Each `recv` gives what the next piece has of the bytes asked for; the number
    of the last error comes with a failure. -/
abbrev Arriving := Incoming UInt8 Int

def kLengthFieldSize : Nat := 4

def peerClosed : Status := ⟨.ioFailure, ascii "peer closed the connection"⟩

def recvFailed (lastError : Int) : Status :=
  ⟨.ioFailure, ascii "recv() failed with error " ++ decimalI64 lastError⟩

def receiveExact (count : Nat) : Reader Arriving Status { bytes : Bytes // bytes.length = count } :=
  Incoming.exactly peerClosed recvFailed count

/-- `frame_length` of the four bytes, the low one first. -/
def frameLength (lengthBytes : { bytes : Bytes // bytes.length = kLengthFieldSize }) : UInt32 :=
  have size : lengthBytes.1.length = 4 := lengthBytes.2
  lengthBytes.1[0].toUInt32 ||| lengthBytes.1[1].toUInt32 <<< 8 ||| lengthBytes.1[2].toUInt32 <<< 16 |||
    lengthBytes.1[3].toUInt32 <<< 24

/-- The sum is one of `size_t`. -/
def receiveFrame (limits : Limits) : Reader Arriving Status FrameView := do
  let lengthBytes ← receiveExact kLengthFieldSize
  let length := frameLength lengthBytes
  Reader.check (check (¬ (length = 0 ∨ limits.maxFrameSize.toNat < length.toNat + kLengthFieldSize)) .protocolError
    (ascii "declared frame length is outside the configured bound"))
  let remainder ← receiveExact length.toNat
  Reader.check (decodeFrame (lengthBytes.1 ++ remainder.1) limits)

/-- How a call of `send` ends: some of the bytes are taken, one at least, or the number of the last error is set. -/
inductive SendCall
  | taken (others : Nat)
  | failed (lastError : Int)

/-- The sending side of a `TcpSocket`: how its next calls of `send` end, of which a later one takes all it is given,
    and the bytes that were taken so far. -/
structure Sending where
  valid : Bool := true
  calls : List SendCall := []
  wire : Bytes := []

/-- The loop of `send_all`. -/
def sendLoop : Bytes → List SendCall → Bytes → Check × Sending
  | [], calls, wire => (.ok (), { calls, wire })
  | byte :: others, [], wire => (.ok (), { wire := wire ++ byte :: others })
  | _ :: _, .failed lastError :: calls, wire =>
    (fail .ioFailure (ascii "send() failed with error " ++ decimalI64 lastError), { calls, wire })
  | byte :: others, .taken count :: calls, wire =>
    sendLoop (others.drop count) calls (wire ++ byte :: others.take count)

def sendAll (bytes : Bytes) (socket : Sending) : Check × Sending :=
  if socket.valid then sendLoop bytes socket.calls socket.wire
  else (fail .ioFailure (ascii "cannot send on a closed socket"), socket)

def sendFrame (view : FrameView) (socket : Sending) : Check × Sending :=
  match encodeFrame view.type view.correlationId view.coordinatorEpoch view.payload with
  | .error status => (.error status, socket)
  | .ok frame => sendAll frame socket

def sendFrames : List FrameView → Sending → Check × Sending
  | [], socket => (.ok (), socket)
  | view :: views, socket =>
    match sendFrame view socket with
    | (.ok (), after) => sendFrames views after
    | (.error status, after) => (.error status, after)

section Received

/-- What `encode_frame` makes of a payload that is not too large. -/
def frameBytes (view : FrameView) : Bytes :=
  frameFields view.type view.correlationId view.coordinatorEpoch view.payload ++
    ByteWriter.u32 (frameChecksum
      ((frameFields view.type view.correlationId view.coordinatorEpoch view.payload).drop 4) view.payload) ++
    view.payload

def FrameFits (limits : Limits) (view : FrameView) : Prop :=
  kFrameHeaderSize + view.payload.length ≤ limits.maxFrameSize.toNat

instance (limits : Limits) : DecidablePred (FrameFits limits) := fun _ => inferInstanceAs (Decidable (_ ≤ _))

theorem frameBytes_length (view : FrameView) : (frameBytes view).length = kFrameHeaderSize + view.payload.length := by
  unfold frameBytes
  rw [frameFields_words, List.length_append, headerWords_length]

theorem or_high {low high bits : Nat} (small : low < 2 ^ bits) : low ||| high * 2 ^ bits = low + high * 2 ^ bits := by
  rw [Nat.or_comm, Nat.mul_comm, ← Nat.two_pow_add_eq_or_of_lt small, Nat.add_comm]

theorem u32_joined (value : UInt32) :
    (value &&& 0xff).toUInt8.toUInt32 ||| ((value >>> 8) &&& 0xff).toUInt8.toUInt32 <<< 8 |||
      ((value >>> 16) &&& 0xff).toUInt8.toUInt32 <<< 16 ||| ((value >>> 24) &&& 0xff).toUInt8.toUInt32 <<< 24 =
        value := by
  have bound := value.toNat_lt
  have byte (n : Nat) : n &&& 255 = n % 256 := Nat.and_two_pow_sub_one_eq_mod n 8
  rw [← UInt32.toNat_inj]
  simp only [UInt32.toNat_or, UInt32.toNat_and, UInt8.toNat_toUInt32, UInt32.toNat_toUInt8, UInt32.toNat_shiftLeft,
    UInt32.toNat_shiftRight, Nat.shiftRight_eq_div_pow, Nat.shiftLeft_eq, UInt32.reduceToNat, Nat.reduceMod,
    Nat.reducePow, byte, Nat.mod_mod]
  generalize value.toNat = word at bound
  have least : word % 256 < 2 ^ 8 := Nat.mod_lt _ (by decide)
  have second : word / 256 % 256 * 256 % 4294967296 = word / 256 % 256 * 2 ^ 8 := Nat.mod_eq_of_lt (by omega)
  have third : word / 65536 % 256 * 65536 % 4294967296 = word / 65536 % 256 * 2 ^ 16 := Nat.mod_eq_of_lt (by omega)
  have fourth : word / 16777216 % 256 * 16777216 % 4294967296 = word / 16777216 % 256 * 2 ^ 24 :=
    Nat.mod_eq_of_lt (by omega)
  have two : word % 256 + word / 256 % 256 * 2 ^ 8 < 2 ^ 16 := by omega
  have three : word % 256 + word / 256 % 256 * 2 ^ 8 + word / 65536 % 256 * 2 ^ 16 < 2 ^ 24 := by omega
  rw [second, third, fourth, or_high least, or_high two, or_high three]
  omega

theorem frameLength_u32 {value : UInt32} {lengthBytes : { bytes : Bytes // bytes.length = kLengthFieldSize }}
    (same : lengthBytes.1 = ByteWriter.u32 value) : frameLength lengthBytes = value := by
  obtain ⟨bytes, size⟩ := lengthBytes
  subst same
  have parts := u32_joined value
  unfold frameLength
  simp only [ByteReader.u32_bytes, List.getElem_cons_zero, List.getElem_cons_succ]
  exact parts

theorem receiveExact_ok {count : Nat} {socket after : Arriving} {bytes : { bytes : Bytes // bytes.length = count }} :
    receiveExact count socket = .ok (bytes, after) ↔ Consumes bytes.1 socket after := Incoming.exactly_ok

theorem frameBytes_begins (view : FrameView) :
    ∃ rest, frameBytes view =
        ByteWriter.u32 (UInt32.ofNat (kFrameHeaderFields.toNat + view.payload.length)) ++ rest ∧
      rest.length = kFrameHeaderFields.toNat + view.payload.length := by
  refine ⟨(frameBytes view).drop 4, rfl, ?_⟩
  have four : kFrameHeaderSize = 4 + kFrameHeaderFields.toNat := rfl
  rw [List.length_drop, frameBytes_length]
  omega

theorem receiveFrame_decodes (limits : Limits) :
    Decodes frameBytes id (receiveFrame limits) (FrameFits limits) := by
  have header : kFrameHeaderSize = 36 := rfl
  have fields : kFrameHeaderFields.toNat = 32 := rfl
  have field : kLengthFieldSize = 4 := rfl
  have most := limits.maxFrameSize.toNat_lt
  intro socket view after
  unfold receiveFrame
  constructor
  · intro accepted
    obtain ⟨lengthBytes, _, front, declares⟩ := Reader.bind_ok.mp accepted
    obtain ⟨_, _, checked, remains⟩ := Reader.bind_ok.mp declares
    obtain ⟨bounded, rfl⟩ := Reader.check_ok.mp checked
    obtain ⟨remainder, _, others, decoding⟩ := Reader.bind_ok.mp remains
    obtain ⟨decoded, rfl⟩ := Reader.check_ok.mp decoding
    have bound := check_ok.mp bounded
    have size : (lengthBytes.1 ++ remainder.1).length = kLengthFieldSize + (frameLength lengthBytes).toNat := by
      rw [List.length_append, lengthBytes.2, remainder.2]
    obtain ⟨encoded, fits⟩ := (decodeFrame_ok (by omega)).mp decoded
    have whole : lengthBytes.1 ++ remainder.1 = frameBytes view := (encodeFrame_ok.mp encoded).2
    exact ⟨view, fits, rfl, whole ▸
      Consumes.append.mpr ⟨_, receiveExact_ok.mp front, receiveExact_ok.mp others⟩⟩
  · intro wire
    obtain ⟨view, fits, rfl, consumes⟩ := wire
    unfold FrameFits at fits
    obtain ⟨rest, begins, left⟩ := frameBytes_begins view
    have length : (UInt32.ofNat (kFrameHeaderFields.toNat + view.payload.length)).toNat =
        kFrameHeaderFields.toNat + view.payload.length := UInt32.toNat_ofNat_of_lt' (by change _ < 2 ^ 32; omega)
    generalize UInt32.ofNat (kFrameHeaderFields.toNat + view.payload.length) = value at begins length
    obtain ⟨lengthBytes, same⟩ : ∃ bytes : { bytes : Bytes // bytes.length = kLengthFieldSize },
        bytes.1 = ByteWriter.u32 value := ⟨⟨_, rfl⟩, rfl⟩
    have first := frameLength_u32 same
    rw [← same] at begins
    have decoded : decodeFrame (lengthBytes.1 ++ rest) limits = .ok view := by
      have size := frameBytes_length view
      rw [← begins]
      exact (decodeFrame_ok (by omega)).mpr ⟨encodeFrame_ok.mpr ⟨by omega, rfl⟩, fits⟩
    have bounded : ¬ (value = 0 ∨ limits.maxFrameSize.toNat < value.toNat + kLengthFieldSize) := by
      have zero : (0 : UInt32).toNat = 0 := rfl
      rw [← UInt32.toNat_inj]
      omega
    rw [begins, Consumes.append] at consumes
    obtain ⟨mid, front, others⟩ := consumes
    refine Reader.bind_ok.mpr ⟨lengthBytes, mid, receiveExact_ok.mpr front, ?_⟩
    rw [first]
    refine Reader.bind_ok.mpr ⟨(), mid, Reader.check_ok.mpr ⟨check_ok.mpr bounded, rfl⟩, ?_⟩
    refine Reader.bind_ok.mpr ⟨⟨rest, left.trans length.symm⟩, after, receiveExact_ok.mpr others, ?_⟩
    exact Reader.check_ok.mpr ⟨decoded, rfl⟩

theorem u32_injective {first second : UInt32} (same : ByteWriter.u32 first = ByteWriter.u32 second) :
    first = second := by
  have here : frameLength ⟨ByteWriter.u32 first, rfl⟩ = first := frameLength_u32 rfl
  exact here.symm.trans (frameLength_u32 same)

def Sendable (view : FrameView) : Prop := view.payload.length + kFrameHeaderSize ≤ 0xffffffff

theorem frameBytes_free {limits : Limits} {first second : FrameView} (fits : FrameFits limits first)
    (sendable : Sendable second)
    (comparable : frameBytes first <+: frameBytes second ∨ frameBytes second <+: frameBytes first) :
    first = second := by
  have header : kFrameHeaderSize = 36 := rfl
  have fields : kFrameHeaderFields.toNat = 32 := rfl
  have most := limits.maxFrameSize.toNat_lt
  have here := frameBytes_length first
  have there := frameBytes_length second
  unfold FrameFits at fits
  unfold Sendable at sendable
  have front (view : FrameView) : (frameBytes view).take 4 =
      ByteWriter.u32 (UInt32.ofNat (kFrameHeaderFields.toNat + view.payload.length)) := by
    obtain ⟨rest, begins, -⟩ := frameBytes_begins view
    rw [begins]
    exact List.take_left' rfl
  have fronts : (frameBytes first).take 4 = (frameBytes second).take 4 := by
    rcases comparable with ⟨rest, whole⟩ | ⟨rest, whole⟩
    · rw [← whole, List.take_append_of_le_length (by omega)]
    · rw [← whole, List.take_append_of_le_length (by omega)]
  rw [front, front] at fronts
  have lengths := congrArg UInt32.toNat (u32_injective fronts)
  rw [UInt32.toNat_ofNat_of_lt' (by change _ < 2 ^ 32; omega),
    UInt32.toNat_ofNat_of_lt' (by change _ < 2 ^ 32; omega)] at lengths
  have same : frameBytes first = frameBytes second := by
    rcases comparable with begins | begins
    · exact begins.eq_of_length (by omega)
    · exact (begins.eq_of_length (by omega)).symm
  have decoded (view : FrameView) (fits : kFrameHeaderSize + view.payload.length ≤ limits.maxFrameSize.toNat) :
      decodeFrame (frameBytes view) limits = .ok view := by
    have size := frameBytes_length view
    exact (decodeFrame_ok (by omega)).mpr ⟨encodeFrame_ok.mpr ⟨by omega, rfl⟩, fits⟩
  have one := decoded first fits
  rw [same, decoded second (by omega)] at one
  exact (Except.ok.inj one).symm

theorem receiveExact_short {count : Nat} {socket : Arriving} (short : (Source.rest socket).length < count) :
    receiveExact count socket = .error (Incoming.broken peerClosed recvFailed socket) := Incoming.exactly_short short

theorem receiveFrame_short {limits : Limits} {view : FrameView} {socket : Arriving} (fits : FrameFits limits view)
    (part : Source.rest socket <+: frameBytes view) (short : (Source.rest socket).length < (frameBytes view).length) :
    receiveFrame limits socket = .error (Incoming.broken peerClosed recvFailed socket) := by
  have header : kFrameHeaderSize = 36 := rfl
  have fields : kFrameHeaderFields.toNat = 32 := rfl
  have field : kLengthFieldSize = 4 := rfl
  have most := limits.maxFrameSize.toNat_lt
  unfold FrameFits at fits
  unfold receiveFrame
  by_cases begun : (Source.rest socket).length < kLengthFieldSize
  · exact Reader.bind_error.mpr (.inl (receiveExact_short begun))
  obtain ⟨rest, begins, left⟩ := frameBytes_begins view
  have length : (UInt32.ofNat (kFrameHeaderFields.toNat + view.payload.length)).toNat =
      kFrameHeaderFields.toNat + view.payload.length := UInt32.toNat_ofNat_of_lt' (by change _ < 2 ^ 32; omega)
  have size := frameBytes_length view
  generalize UInt32.ofNat (kFrameHeaderFields.toNat + view.payload.length) = value at begins length
  obtain ⟨lengthBytes, same⟩ : ∃ bytes : { bytes : Bytes // bytes.length = kLengthFieldSize },
      bytes.1 = ByteWriter.u32 value := ⟨⟨_, rfl⟩, rfl⟩
  have first := frameLength_u32 same
  rw [← same] at begins
  have front : Consumes lengthBytes.1 socket (Source.skip socket kLengthFieldSize) := by
    refine ⟨List.prefix_of_prefix_length_le ?_ part ?_, by rw [lengthBytes.2]⟩
    · rw [begins]
      exact List.prefix_append _ _
    · rw [lengthBytes.2]
      exact Nat.not_lt.mp begun
  have others := congrArg List.length front.rest
  rw [List.length_append, lengthBytes.2] at others
  have bounded : ¬ (value = 0 ∨ limits.maxFrameSize.toNat < value.toNat + kLengthFieldSize) := by
    have zero : (0 : UInt32).toNat = 0 := rfl
    rw [← UInt32.toNat_inj]
    omega
  have missing := @receiveExact_short value.toNat (Source.skip socket kLengthFieldSize) (by omega)
  have same : Incoming.broken peerClosed recvFailed (Source.skip socket kLengthFieldSize) =
      Incoming.broken peerClosed recvFailed socket := by
    unfold Incoming.broken
    rw [Incoming.ending_skip]
  rw [same] at missing
  refine Reader.bind_error.mpr (.inr ⟨lengthBytes, _, receiveExact_ok.mpr front, ?_⟩)
  rw [first]
  refine Reader.bind_error.mpr (.inr ⟨(), _, Reader.check_ok.mpr ⟨check_ok.mpr bounded, rfl⟩, ?_⟩)
  exact Reader.bind_error.mpr (.inl missing)

theorem receiveFrame_none {limits : Limits} {socket : Arriving} (none : Source.rest socket = []) :
    receiveFrame limits socket = .error (Incoming.broken peerClosed recvFailed socket) :=
  Reader.bind_error.mpr (.inl (receiveExact_short (by rw [none]; decide)))

theorem frameBytes_some (view : FrameView) : frameBytes view ≠ [] := by
  intro none
  have size := frameBytes_length view
  rw [none, List.length_nil] at size
  exact absurd size.symm (Nat.ne_of_gt (Nat.lt_of_lt_of_le (by decide) (Nat.le_add_right _ _)))

theorem receiveFrame_stops {limits : Limits} {sent : List FrameView} {socket : Arriving}
    (sendable : ∀ view ∈ sent, Sendable view) (part : Source.rest socket <+: (sent.map frameBytes).flatten)
    (stops : ∀ view others, sent = view :: others →
      ¬ (FrameFits limits view ∧ (frameBytes view).length ≤ (Source.rest socket).length)) :
    ∃ stop, receiveFrame limits socket = .error stop ∧
      ((∀ view ∈ sent, FrameFits limits view) → stop = Incoming.broken peerClosed recvFailed socket) := by
  obtain ⟨stop, refuses⟩ := Drains.stopped (receiveFrame_decodes limits) frameBytes_some
    (fun _ fits view member => frameBytes_free fits (sendable view member)) part stops
  refine ⟨stop, refuses, fun all => ?_⟩
  have broken : receiveFrame limits socket = .error (Incoming.broken peerClosed recvFailed socket) := by
    cases sent with
    | nil => exact receiveFrame_none (List.prefix_nil.mp part)
    | cons view others =>
      have fits := all view List.mem_cons_self
      have short := Nat.lt_of_not_le fun long => stops view others rfl ⟨fits, long⟩
      exact receiveFrame_short fits
        (List.prefix_of_prefix_length_le part (List.prefix_append _ _) (Nat.le_of_lt short)) short
  rw [refuses] at broken
  exact Except.error.inj broken

end Received

section Sent

theorem sendLoop_wire (bytes : Bytes) (calls : List SendCall) (wire : Bytes) :
    ∃ taken, (sendLoop bytes calls wire).2.wire = wire ++ taken ∧ (sendLoop bytes calls wire).2.valid = true ∧
      taken <+: bytes ∧ ((sendLoop bytes calls wire).1 = .ok () → taken = bytes) := by
  induction bytes, calls, wire using sendLoop.induct with
  | case1 calls wire => exact ⟨[], by simp [sendLoop]⟩
  | case2 byte others wire => exact ⟨byte :: others, rfl, rfl, List.prefix_refl _, fun _ => rfl⟩
  | case3 byte others lastError calls wire =>
    exact ⟨[], (List.append_nil wire).symm, rfl, List.nil_prefix, fun sent => by cases sent⟩
  | case4 byte others count calls wire ih =>
    obtain ⟨taken, wired, valid, part, all⟩ := ih
    have whole : byte :: others = byte :: others.take count ++ others.drop count := by
      rw [List.cons_append, List.take_append_drop]
    refine ⟨byte :: others.take count ++ taken, ?_, valid, ?_, fun sent => ?_⟩
    · rw [← List.append_assoc]
      exact wired
    · rw [whole]
      exact (List.prefix_append_right_inj _).mpr part
    · rw [whole, ← all sent]

theorem sendFrame_wire {view : FrameView} {socket : Sending} (valid : socket.valid = true) :
    ∃ taken, (sendFrame view socket).2.wire = socket.wire ++ taken ∧ (sendFrame view socket).2.valid = true ∧
      taken <+: frameBytes view ∧
      ((sendFrame view socket).1 = .ok () → Sendable view ∧ taken = frameBytes view) ∧
      (¬ Sendable view → taken = []) := by
  unfold sendFrame
  cases encoded : encodeFrame view.type view.correlationId view.coordinatorEpoch view.payload with
  | error status =>
    exact ⟨[], (List.append_nil _).symm, valid, List.nil_prefix, (fun sent => by cases sent), fun _ => rfl⟩
  | ok frame =>
    obtain ⟨sendable, rfl⟩ := encodeFrame_ok.mp encoded
    obtain ⟨taken, wired, valid', part, all⟩ := sendLoop_wire (frameBytes view) socket.calls socket.wire
    simp only [sendAll, valid, if_true]
    exact ⟨taken, wired, valid', part, fun sent => ⟨sendable, all sent⟩, fun large => absurd sendable large⟩

theorem sendFrames_wire {views : List FrameView} {socket : Sending} (valid : socket.valid = true) :
    ∃ sent later taken, views = sent ++ later ∧ (∀ view ∈ sent, Sendable view) ∧
      (sendFrames views socket).2.wire = socket.wire ++ taken ∧ taken <+: (sent.map frameBytes).flatten ∧
      ((sendFrames views socket).1 = .ok () → later = [] ∧ taken = (sent.map frameBytes).flatten) := by
  induction views generalizing socket with
  | nil => exact ⟨[], [], [], rfl, (fun _ member => absurd member List.not_mem_nil), (List.append_nil _).symm,
      List.prefix_refl _, fun _ => ⟨rfl, rfl⟩⟩
  | cons view views ih =>
    obtain ⟨taken, wired, valid', part, all, none⟩ := @sendFrame_wire view _ valid
    unfold sendFrames
    split
    · rename_i after sending
      rw [sending] at wired valid' all
      obtain ⟨sendable, rfl⟩ := all rfl
      obtain ⟨sent, later, others, rfl, each, wires, parts, done⟩ := ih valid'
      refine ⟨view :: sent, later, frameBytes view ++ others, rfl, List.forall_mem_cons.mpr ⟨sendable, each⟩, ?_, ?_,
        fun finished => ?_⟩
      · rw [wires, wired, List.append_assoc]
      · exact (List.prefix_append_right_inj _).mpr parts
      · obtain ⟨rfl, rfl⟩ := done finished
        exact ⟨rfl, rfl⟩
    · rename_i status after sending
      rw [sending] at wired
      by_cases sendable : Sendable view
      · refine ⟨[view], views, taken, rfl, List.forall_mem_singleton.mpr sendable, wired, ?_,
          fun finished => by cases finished⟩
        rw [List.map_singleton, List.flatten_singleton]
        exact part
      · refine ⟨[], view :: views, taken, rfl, (fun _ member => absurd member List.not_mem_nil), wired, ?_,
          fun finished => by cases finished⟩
        rw [none sendable]
        exact List.nil_prefix

end Sent

/-- What a receiver reads of frames that were sent: the first ones. The connection after them holds a part of the
    others, and no whole one that fits. -/
structure FramesRead (limits : Limits) (sent : List FrameView) (socket : Arriving) (received later : List FrameView)
    (mid : Arriving) (stop : Status) : Prop where
  drains : Drains (receiveFrame limits) socket received stop
  split : sent = received ++ later
  consumes : Consumes (received.map frameBytes).flatten socket mid
  part : Source.rest mid <+: (later.map frameBytes).flatten
  stops : ∀ view others, later = view :: others →
    ¬ (FrameFits limits view ∧ (frameBytes view).length ≤ (Source.rest mid).length)
  ended : (∀ view ∈ sent, FrameFits limits view) → stop = Incoming.broken peerClosed recvFailed socket

theorem framesRead_exists {limits : Limits} {sent : List FrameView} {socket : Arriving}
    (sendable : ∀ view ∈ sent, Sendable view) (arrives : socket.symbols <+: (sent.map frameBytes).flatten) :
    ∃ received later mid stop, FramesRead limits sent socket received later mid stop := by
  obtain ⟨later, mid, split, consumes, part, stops⟩ :=
    @Drains.arriving_split _ _ _ _ frameBytes (FrameFits limits) socket _ sent arrives
  have fitting := @Drains.arriving_within _ _ frameBytes (FrameFits limits) _ sent (Source.rest socket).length
  generalize Drains.arriving frameBytes (FrameFits limits) sent (Source.rest socket).length = received
    at split consumes fitting
  have among (view : FrameView) (member : view ∈ later) : view ∈ sent := by
    rw [split]
    exact List.mem_append_right _ member
  obtain ⟨stop, refuses, ended⟩ :=
    receiveFrame_stops (fun view member => sendable view (among view member)) part stops
  have drains := Drains.whole (receiveFrame_decodes limits) fitting consumes (.refused refuses)
  rw [List.append_nil, List.map_id] at drains
  have ending : Incoming.broken peerClosed recvFailed mid = Incoming.broken peerClosed recvFailed socket := by
    unfold Incoming.broken
    rw [consumes.2, Incoming.ending_skip]
  refine ⟨received, later, mid, stop, drains, split, consumes, part, stops, fun all => ?_⟩
  rw [← ending]
  exact ended fun view member => all view (among view member)

namespace FramesRead

variable {limits : Limits} {sent received later : List FrameView} {socket mid : Arriving} {stop : Status}

theorem next (read : FramesRead limits sent socket received later mid stop) {view : FrameView}
    (next : view :: [] <+: later ∨ later = []) (fits : FrameFits limits view) :
    (Source.rest mid).length < (frameBytes view).length := by
  rcases next with begins | none
  · obtain ⟨others, same⟩ := begins
    exact Nat.lt_of_not_le fun long => read.stops view others same.symm ⟨fits, long⟩
  · have part := read.part
    rw [none] at part
    rw [List.prefix_nil.mp part]
    exact List.length_pos_iff.mpr (frameBytes_some view)

theorem all (read : FramesRead limits sent socket received later mid stop)
    (fits : ∀ view ∈ sent, FrameFits limits view) (whole : socket.symbols = (sent.map frameBytes).flatten) :
    received = sent := by
  obtain ⟨-, split, consumes, -, stops, -⟩ := read
  have left : Source.rest mid = (later.map frameBytes).flatten := by
    have symbols := consumes.rest
    change socket.symbols = _ at symbols
    rw [whole, split, List.map_append, List.flatten_append] at symbols
    exact (List.append_cancel_left symbols).symm
  rw [split] at fits ⊢
  cases later with
  | nil => exact (List.append_nil _).symm
  | cons view others =>
    have fits := fits view (List.mem_append_right _ List.mem_cons_self)
    refine absurd ⟨fits, ?_⟩ (stops view others rfl)
    rw [left, List.map_cons, List.flatten_cons, List.length_append]
    exact Nat.le_add_right _ _

end FramesRead

/-- However the bytes are cut into calls of `send` and `recv`, and wherever the connection breaks, what the receiver
    reads is the beginning of what was sent, up to the first frame that is too large for it or has not arrived whole.
    Where it takes every frame, it stops at the end of the connection only, and where all was sent and has arrived, it
    has read every frame. -/
theorem frames_delivered (limits : Limits) (views : List FrameView) (calls : List SendCall) (socket : Arriving)
    (carried : socket.symbols <+: (sendFrames views { calls }).2.wire) :
    ∃ received stop, Drains (receiveFrame limits) socket received stop ∧ received <+: views ∧
      (∀ view, received ++ [view] <+: views → FrameFits limits view →
        socket.symbols.length < ((received ++ [view]).map frameBytes).flatten.length) ∧
      ((∀ view ∈ views, FrameFits limits view) →
        stop = Incoming.broken peerClosed recvFailed socket ∧
          ((sendFrames views { calls }).1 = .ok () → socket.symbols = (sendFrames views { calls }).2.wire →
            received = views)) := by
  obtain ⟨sent, unsent, taken, rfl, sendable, wired, part, done⟩ :=
    @sendFrames_wire views { calls } rfl
  rw [wired, List.nil_append] at carried ⊢
  obtain ⟨received, later, mid, stop, read⟩ := @framesRead_exists limits _ _ sendable (carried.trans part)
  refine ⟨received, stop, read.drains, ?_, ?_, fun all => ?_⟩
  · rw [read.split, List.append_assoc]
    exact List.prefix_append _ _
  · intro view next fits
    rw [List.map_append, List.flatten_append, List.map_singleton, List.flatten_singleton, List.length_append]
    have lengths := congrArg List.length read.consumes.rest
    rw [List.length_append] at lengths
    refine lengths.trans_lt (Nat.add_lt_add_left (read.next ?_ fits) _)
    cases later with
    | nil => exact .inr rfl
    | cons first others =>
      rw [read.split, List.append_assoc, List.prefix_append_right_inj, List.cons_append, List.cons_prefix_cons] at next
      obtain ⟨rfl, -⟩ := next
      exact .inl (List.prefix_append [view] others)
  · have fits (view : FrameView) (member : view ∈ sent) : FrameFits limits view :=
      all view (List.mem_append_left _ member)
    refine ⟨read.ended fits, fun finished whole => ?_⟩
    obtain ⟨rfl, rfl⟩ := done finished
    rw [List.append_nil]
    exact read.all fits whole

namespace Bench

def greeting : FrameView := ⟨.hello, 7, 1, [65]⟩

def farewell : FrameView := ⟨.hello, 8, 1, []⟩

/-- Two calls of `send` that take a part only; the others take what is left. -/
def slowSends : List SendCall := [.taken 2, .taken 19]

def trickle (bytes : Bytes) : Arriving := bytes.map fun byte => .piece byte []

@[simp] theorem trickle_symbols (bytes : Bytes) : (trickle bytes).symbols = bytes := by
  induction bytes with
  | nil => rfl
  | cons byte rest ih => exact congrArg (byte :: ·) ih

end Bench

theorem frames_delivered_bench :
    let socket := Bench.trickle (frameBytes Bench.greeting ++ frameBytes Bench.farewell)
    Drains (receiveFrame {}) socket [Bench.greeting, Bench.farewell] (Incoming.broken peerClosed recvFailed socket) := by
  intro socket
  have sent : (sendFrames [Bench.greeting, Bench.farewell] { calls := Bench.slowSends }).1 = .ok () := by
    decide +kernel
  have whole : socket.symbols = (sendFrames [Bench.greeting, Bench.farewell] { calls := Bench.slowSends }).2.wire := by
    rw [Bench.trickle_symbols]
    decide +kernel
  have fits : ∀ view ∈ [Bench.greeting, Bench.farewell], FrameFits {} view := by
    intro view member
    rcases List.mem_pair.mp member with rfl | rfl <;> exact Nat.le_of_ble_eq_true rfl
  obtain ⟨received, stop, drains, -, -, all⟩ :=
    frames_delivered {} [Bench.greeting, Bench.farewell] Bench.slowSends socket (whole ▸ List.prefix_rfl)
  obtain ⟨rfl, same⟩ := all fits
  rwa [same sent whole] at drains

/-- The bytes of a connection are read as frames in one way, however they are cut into pieces: the frames from its
    start that fit, one after the other, until no such frame follows. -/
theorem frames_received_exact (limits : Limits) (socket : Arriving) :
    ∃ received, (∀ other : Arriving, other.symbols = socket.symbols →
        (∃ stop, Drains (receiveFrame limits) other received stop) ∧
          ∀ views stop, Drains (receiveFrame limits) other views stop → views = received) ∧
      (∀ view ∈ received, FrameFits limits view) ∧ (received.map frameBytes).flatten <+: socket.symbols ∧
      ∀ view, FrameFits limits view → ¬ ((received ++ [view]).map frameBytes).flatten <+: socket.symbols := by
  have decodes := receiveFrame_decodes limits
  obtain ⟨received, status, drains⟩ := Drains.exists_of_decodes decodes frameBytes_some socket
  obtain ⟨views, fits, same, mid, consumes, refuses⟩ := drains.written decodes
  rw [List.map_id] at same
  subst same
  refine ⟨views, fun other alike => ?_, fits, consumes.1, fun view within longer => ?_⟩
  · obtain ⟨stop, again⟩ := drains.cut decodes alike
    exact ⟨⟨stop, again⟩, fun _ _ read => (read.unique again).1⟩
  · have symbols := consumes.rest
    change socket.symbols = _ at symbols
    rw [List.map_append, List.flatten_append, List.map_singleton, List.flatten_singleton, symbols,
      List.prefix_append_right_inj] at longer
    have reads := decodes.reads within (⟨longer, rfl⟩ : Consumes (frameBytes view) mid _)
    rw [refuses] at reads
    cases reads

end Protocol

end LabScheduler
