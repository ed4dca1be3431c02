import LabScheduler.Cluster.Messages
import LabScheduler.Codec.Bytes

namespace LabScheduler

open Foundation

def MessageType.code : MessageType → UInt16
  | .hello => 1
  | .helloAck => 2
  | .registerResource => 3
  | .publishState => 4
  | .retireResource => 5
  | .resourceAck => 6
  | .scheduleRequest => 7
  | .decision => 8
  | .assign => 9
  | .assignAck => 10
  | .running => 11
  | .completion => 12
  | .completionAck => 13
  | .cancelPlacement => 14
  | .cancelRequest => 15
  | .reassign => 16
  | .preempt => 17
  | .lifecycleAck => 18
  | .inspect => 19
  | .inspectReply => 20
  | .saveState => 21
  | .stateAck => 22
  | .shutdown => 23
  | .shutdownAck => 24
  | .error => 25
  | .disconnectWorker => 26

/-- The types that `kMessageTypeNames` lists. -/
def MessageType.known : List MessageType :=
  [.hello, .helloAck, .registerResource, .publishState, .retireResource, .resourceAck, .scheduleRequest, .decision,
    .assign, .assignAck, .running, .completion, .completionAck, .cancelPlacement, .cancelRequest, .reassign, .preempt,
    .lifecycleAck, .inspect, .inspectReply, .saveState, .stateAck, .shutdown, .shutdownAck, .error, .disconnectWorker]

def kProtocolVersion : UInt32 := 1
def kFrameHeaderSize : Nat := 36
def kFrameHeaderFields : UInt32 := 32
def kFrameFlagsNone : UInt16 := 0

/-- `subspan(start, count)`, of a range that is there. -/
def subspan (bytes : Bytes) (start count : Nat) (_inside : start + count ≤ bytes.length) : Bytes :=
  (bytes.drop start).take count

namespace Protocol

structure FrameView where
  type : MessageType := .hello
  correlationId : UInt64 := 0
  coordinatorEpoch : UInt64 := 0
  payload : Bytes := []

/-- The low half of the hash over the header fields after the length, and the payload if there is one. -/
def frameChecksum (headerPrefix payload : Bytes) : UInt32 :=
  let hash := fnv1a64 headerPrefix
  let hash := if payload = [] then hash else fnv1a64Continue hash payload
  (hash &&& 0xffffffff).toUInt32

def frameFields (type : MessageType) (correlationId coordinatorEpoch : UInt64) (payload : Bytes) : Bytes :=
  [ByteWriter.u32 (UInt32.ofNat (kFrameHeaderFields.toNat + payload.length)), ByteWriter.u32 kProtocolVersion,
    ByteWriter.u16 type.code, ByteWriter.u16 kFrameFlagsNone, ByteWriter.u64 correlationId,
    ByteWriter.u64 coordinatorEpoch, ByteWriter.u32 (lengthU32 payload)].flatten

/-- The assignments to `frame[32]` and the three bytes after it. -/
def putChecksum (frame : Bytes) (checksum : UInt32) (_inside : kFrameHeaderSize ≤ frame.length) : Bytes :=
  (((frame.set 32 (checksum &&& 0xff).toUInt8).set 33 ((checksum >>> 8) &&& 0xff).toUInt8).set 34
    ((checksum >>> 16) &&& 0xff).toUInt8).set 35 ((checksum >>> 24) &&& 0xff).toUInt8

theorem frameFields_length (type : MessageType) (correlationId coordinatorEpoch : UInt64) (payload : Bytes) :
    (frameFields type correlationId coordinatorEpoch payload).length = 32 := rfl

def encodeFrame (type : MessageType) (correlationId coordinatorEpoch : UInt64) (payload : Bytes) :
    Except Status Bytes :=
  if 0xffffffff < payload.length + kFrameHeaderSize then
    fail .protocolError (ascii "frame payload is too large to encode")
  else
    let header := frameFields type correlationId coordinatorEpoch payload ++ ByteWriter.u32 0
    have size : header.length = kFrameHeaderSize := rfl
    let frame := header ++ payload
    have inside : kFrameHeaderSize ≤ frame.length := by
      rw [List.length_append, size]
      exact Nat.le_add_right ..
    let checksum := frameChecksum (subspan frame 4 28 (Nat.le_trans (by decide) inside)) payload
    .ok (putChecksum frame checksum inside)

def require (condition : Prop) [Decidable condition] (message : Text) : Decoder Unit :=
  Reader.check (check condition .protocolError message)

/-- `decode_frame` after its first check. -/
def readFrame (frame : Bytes) (long : kFrameHeaderSize ≤ frame.length) (limits : Limits) : Decoder FrameView := do
  let frameLength ← ByteReader.u32
  if delivered : frameLength.toNat ≠ frame.length - 4 then
    Reader.check (fail .protocolError (ascii "frame length does not match the delivered bytes"))
  else
    require (frameLength + 4 ≤ limits.maxFrameSize) (ascii "frame exceeds the configured maximum size")
    let protocolVersion ← ByteReader.u32
    require (protocolVersion = kProtocolVersion) (ascii "unsupported protocol version")
    let rawType ← ByteReader.u16
    match MessageType.known.find? fun type => type.code = rawType with
    | none => Reader.check (fail .protocolError (ascii "unknown message type"))
    | some type =>
      let flags ← ByteReader.u16
      require (flags = kFrameFlagsNone) (ascii "frame flags must be zero")
      let correlationId ← ByteReader.u64
      let coordinatorEpoch ← ByteReader.u64
      let payloadLength ← ByteReader.u32
      if declared : payloadLength ≠ frameLength - kFrameHeaderFields then
        Reader.check (fail .protocolError (ascii "declared payload length does not match the frame"))
      else
        have inside : kFrameHeaderSize + payloadLength.toNat ≤ frame.length := by
          have size : kFrameHeaderSize = 36 := rfl
          have fields : kFrameHeaderFields.toNat = 32 := rfl
          have least : kFrameHeaderFields ≤ frameLength := by
            rw [UInt32.le_iff_toNat_le]
            omega
          rw [not_not.mp declared, UInt32.toNat_sub_of_le _ _ least]
          omega
        let checksum ← ByteReader.u32
        let expected := frameChecksum (subspan frame 4 28 (Nat.le_trans (by decide) long))
          (subspan frame kFrameHeaderSize payloadLength.toNat inside)
        require (checksum = expected) (ascii "frame checksum does not match")
        return ⟨type, correlationId, coordinatorEpoch, frame.drop kFrameHeaderSize⟩

def decodeFrame (frame : Bytes) (limits : Limits) : Except Status FrameView :=
  if short : frame.length < kFrameHeaderSize then
    fail .protocolError (ascii "frame is shorter than the header")
  else
    Prod.fst <$> readFrame frame (Nat.not_lt.mp short) limits { bytes := frame }

section Frames

variable {type : MessageType} {correlationId coordinatorEpoch : UInt64} {payload frame : Bytes}

theorem putChecksum_fields {fields : Bytes} (size : fields.length = 32) (checksum : UInt32)
    (inside : kFrameHeaderSize ≤ (fields ++ ByteWriter.u32 0 ++ payload).length) :
    putChecksum (fields ++ ByteWriter.u32 0 ++ payload) checksum inside = fields ++ ByteWriter.u32 checksum ++ payload := by
  have blank : ByteWriter.u32 0 = [0, 0, 0, 0] := rfl
  unfold putChecksum
  rw [blank, ByteReader.u32_bytes]
  simp [size]

theorem encodeFrame_ok :
    encodeFrame type correlationId coordinatorEpoch payload = .ok frame ↔
      payload.length + kFrameHeaderSize ≤ 0xffffffff ∧
        frame = frameFields type correlationId coordinatorEpoch payload ++
          ByteWriter.u32 (frameChecksum ((frameFields type correlationId coordinatorEpoch payload).drop 4) payload) ++
            payload := by
  unfold encodeFrame
  by_cases large : 0xffffffff < payload.length + kFrameHeaderSize
  · rw [if_pos large]
    exact iff_of_false (fail_ne_ok) fun both => absurd both.1 (Nat.not_le.mpr large)
  · have size := frameFields_length type correlationId coordinatorEpoch payload
    have hashed : subspan (frameFields type correlationId coordinatorEpoch payload ++ ByteWriter.u32 0 ++ payload) 4 28
        (by simp [size, List.length_append]) =
        (frameFields type correlationId coordinatorEpoch payload).drop 4 := by
      unfold subspan
      rw [List.append_assoc, List.drop_append_of_le_length (by omega), List.take_append_of_le_length (by simp [size])]
      exact List.take_of_length_le (by simp [size])
    rw [if_neg large]
    simp only [putChecksum_fields size, hashed, Except.ok.injEq]
    exact ⟨fun same => ⟨Nat.not_lt.mp large, same.symm⟩, fun both => both.2.symm⟩

theorem require_ok {condition : Prop} [Decidable condition] {message : Text} {reader after : ByteReader} :
    require condition message reader = .ok ((), after) ↔ condition ∧ after = reader :=
  Reader.check_ok.trans (and_congr_left fun _ => check_ok)

theorem known_find (type : MessageType) {raw : UInt16} :
    (MessageType.known.find? fun type => type.code = raw) = some type ↔ type.code = raw := by
  constructor
  · intro found
    simpa using List.find?_some found
  · intro same
    subst same
    cases type <;> rfl

def headerWords (frameLength version : UInt32) (type flags : UInt16) (correlationId coordinatorEpoch : UInt64)
    (payloadLength checksum : UInt32) : Bytes :=
  [ByteWriter.u32 frameLength, ByteWriter.u32 version, ByteWriter.u16 type, ByteWriter.u16 flags,
    ByteWriter.u64 correlationId, ByteWriter.u64 coordinatorEpoch, ByteWriter.u32 payloadLength,
    ByteWriter.u32 checksum].flatten

theorem headerWords_length (frameLength version : UInt32) (type flags : UInt16) (correlationId coordinatorEpoch : UInt64)
    (payloadLength checksum : UInt32) : (headerWords frameLength version type flags correlationId coordinatorEpoch
      payloadLength checksum).length = kFrameHeaderSize := rfl

theorem frameFields_words (checksum : UInt32) :
    frameFields type correlationId coordinatorEpoch payload ++ ByteWriter.u32 checksum =
      headerWords (UInt32.ofNat (kFrameHeaderFields.toNat + payload.length)) kProtocolVersion type.code kFrameFlagsNone
        correlationId coordinatorEpoch (lengthU32 payload) checksum := rfl

structure Formed (frame : Bytes) (view : FrameView) : Prop where
  size : kFrameHeaderSize + view.payload.length = frame.length
  bytes : frame = frameFields view.type view.correlationId view.coordinatorEpoch view.payload ++
    ByteWriter.u32 (frameChecksum
      ((frameFields view.type view.correlationId view.coordinatorEpoch view.payload).drop 4) view.payload) ++
    view.payload

theorem hashed_ranges {checksum : UInt32}
    (formed : frame = frameFields type correlationId coordinatorEpoch payload ++ ByteWriter.u32 checksum ++ payload)
    (header : 4 + 28 ≤ frame.length) {count : Nat} (rest : kFrameHeaderSize + count ≤ frame.length)
    (all : count = payload.length) :
    subspan frame 4 28 header = (frameFields type correlationId coordinatorEpoch payload).drop 4 ∧
      subspan frame kFrameHeaderSize count rest = payload := by
  have size := frameFields_length type correlationId coordinatorEpoch payload
  have words : (frameFields type correlationId coordinatorEpoch payload ++ ByteWriter.u32 checksum).length =
      kFrameHeaderSize := rfl
  subst all
  unfold subspan
  constructor
  · rw [formed, List.append_assoc, List.drop_append_of_le_length (by omega),
      List.take_append_of_le_length (by simp [size])]
    exact List.take_of_length_le (by simp [size])
  · rw [formed, ← words, List.drop_left]
    exact List.take_of_length_le (Nat.le_refl _)

section Counts

variable {frameLength payloadLength limit : UInt32}

theorem delivered_iff (size : kFrameHeaderSize + payload.length = frame.length) (small : frame.length < 2 ^ 32) :
    frameLength.toNat = frame.length - 4 ↔ frameLength = UInt32.ofNat (kFrameHeaderFields.toNat + payload.length) := by
  have header : kFrameHeaderSize = 36 := rfl
  have fields : kFrameHeaderFields.toNat = 32 := rfl
  rw [← UInt32.toNat_inj, UInt32.toNat_ofNat_of_lt' (by change _ < 2 ^ 32; omega)]
  omega

theorem declared_iff (size : kFrameHeaderSize + payload.length = frame.length) (small : frame.length < 2 ^ 32)
    (delivered : frameLength.toNat = frame.length - 4) :
    payloadLength = frameLength - kFrameHeaderFields ↔ payloadLength = lengthU32 payload := by
  have header : kFrameHeaderSize = 36 := rfl
  have fields : kFrameHeaderFields.toNat = 32 := rfl
  have least : kFrameHeaderFields ≤ frameLength := by
    rw [UInt32.le_iff_toNat_le]
    omega
  unfold lengthU32
  rw [← UInt32.toNat_inj, ← UInt32.toNat_inj, UInt32.toNat_sub_of_le _ _ least,
    UInt32.toNat_ofNat_of_lt' (by change _ < 2 ^ 32; omega)]
  omega

theorem bounded_iff (long : kFrameHeaderSize ≤ frame.length) (small : frame.length < 2 ^ 32)
    (delivered : frameLength.toNat = frame.length - 4) :
    frameLength + 4 ≤ limit ↔ frame.length ≤ limit.toNat := by
  have header : kFrameHeaderSize = 36 := rfl
  have four : (4 : UInt32).toNat = 4 := rfl
  rw [UInt32.le_iff_toNat_le, UInt32.toNat_add, four]
  omega

end Counts

/-- What the header words of an accepted frame are, as `readFrame` checks them. -/
structure Checked (frame : Bytes) (long : kFrameHeaderSize ≤ frame.length) (limits : Limits) (view : FrameView)
    (after : ByteReader) (frameLength payloadLength checksum : UInt32) : Prop where
  words : Consumes (headerWords frameLength kProtocolVersion view.type.code kFrameFlagsNone view.correlationId
    view.coordinatorEpoch payloadLength checksum) ({ bytes := frame } : ByteReader) after
  delivered : frameLength.toNat = frame.length - 4
  bounded : frameLength + 4 ≤ limits.maxFrameSize
  declared : payloadLength = frameLength - kFrameHeaderFields
  summed : ∀ inside : kFrameHeaderSize + payloadLength.toNat ≤ frame.length,
    checksum = frameChecksum (subspan frame 4 28 (Nat.le_trans (by decide) long))
      (subspan frame kFrameHeaderSize payloadLength.toNat inside)
  payload : view.payload = frame.drop kFrameHeaderSize

theorem readFrame_checked {limits : Limits} {view : FrameView} {after : ByteReader}
    (long : kFrameHeaderSize ≤ frame.length)
    (accepted : readFrame frame long limits { bytes := frame } = .ok (view, after)) :
    ∃ frameLength payloadLength checksum,
      Checked frame long limits view after frameLength payloadLength checksum := by
  unfold readFrame at accepted
  obtain ⟨frameLength, m1, read1, delivers⟩ := Reader.bind_ok.mp accepted
  by_cases delivered : frameLength.toNat ≠ frame.length - 4
  · rw [dif_pos delivered] at delivers
    cases delivers
  rw [dif_neg delivered] at delivers
  obtain ⟨_, _, requires, versions⟩ := Reader.bind_ok.mp delivers
  obtain ⟨bounded, rfl⟩ := require_ok.mp requires
  obtain ⟨version, m2, read2, versioned⟩ := Reader.bind_ok.mp versions
  obtain ⟨_, _, requires, types⟩ := Reader.bind_ok.mp versioned
  obtain ⟨supported, rfl⟩ := require_ok.mp requires
  obtain ⟨raw, m3, read3, typed⟩ := Reader.bind_ok.mp types
  cases found : MessageType.known.find? fun type => type.code = raw with
  | none =>
    rw [found] at typed
    cases typed
  | some type =>
    rw [found] at typed
    have code := (known_find type).mp found
    obtain ⟨flags, m4, read4, flagged⟩ := Reader.bind_ok.mp typed
    obtain ⟨_, _, requires, correlates⟩ := Reader.bind_ok.mp flagged
    obtain ⟨plain, rfl⟩ := require_ok.mp requires
    obtain ⟨correlation, m5, read5, epochs⟩ := Reader.bind_ok.mp correlates
    obtain ⟨epoch, m6, read6, declares⟩ := Reader.bind_ok.mp epochs
    obtain ⟨payloadLength, m7, read7, declaring⟩ := Reader.bind_ok.mp declares
    by_cases declared : payloadLength ≠ frameLength - kFrameHeaderFields
    · rw [dif_pos declared] at declaring
      cases declaring
    rw [dif_neg declared] at declaring
    obtain ⟨checksum, m8, read8, sums⟩ := Reader.bind_ok.mp declaring
    obtain ⟨_, _, requires, given⟩ := Reader.bind_ok.mp sums
    obtain ⟨summed, rfl⟩ := require_ok.mp requires
    obtain ⟨rfl, rfl⟩ := Reader.pure_ok.mp given
    subst code supported plain
    refine ⟨frameLength, payloadLength, checksum, ?_, not_not.mp delivered, bounded, not_not.mp declared,
      fun _ => summed, rfl⟩
    simp only [headerWords, List.flatten_cons, List.flatten_nil, Consumes.append, Consumes.nil]
    exact ⟨_, ByteReader.u32_ok.mp read1, _, ByteReader.u32_ok.mp read2, _, ByteReader.u16_ok.mp read3, _,
      ByteReader.u16_ok.mp read4, _, ByteReader.u64_ok.mp read5, _, ByteReader.u64_ok.mp read6, _,
      ByteReader.u32_ok.mp read7, _, ByteReader.u32_ok.mp read8, rfl⟩

theorem Checked.read {long : kFrameHeaderSize ≤ frame.length} {limits : Limits} {view : FrameView}
    {after : ByteReader} {frameLength payloadLength checksum : UInt32}
    (checked : Checked frame long limits view after frameLength payloadLength checksum) :
    readFrame frame long limits { bytes := frame } = .ok (view, after) := by
  have consumes := checked.words
  simp only [headerWords, List.flatten_cons, List.flatten_nil, Consumes.append, Consumes.nil] at consumes
  obtain ⟨_, read1, _, read2, _, read3, _, read4, _, read5, _, read6, _, read7, _, read8, done⟩ := consumes
  unfold readFrame
  refine Reader.bind_ok.mpr ⟨_, _, ByteReader.u32_ok.mpr read1, ?_⟩
  rw [dif_neg (not_not.mpr checked.delivered)]
  refine Reader.bind_ok.mpr ⟨(), _, require_ok.mpr ⟨checked.bounded, rfl⟩, ?_⟩
  refine Reader.bind_ok.mpr ⟨_, _, ByteReader.u32_ok.mpr read2, ?_⟩
  refine Reader.bind_ok.mpr ⟨(), _, require_ok.mpr ⟨rfl, rfl⟩, ?_⟩
  refine Reader.bind_ok.mpr ⟨_, _, ByteReader.u16_ok.mpr read3, ?_⟩
  rw [(known_find view.type).mpr rfl]
  refine Reader.bind_ok.mpr ⟨_, _, ByteReader.u16_ok.mpr read4, ?_⟩
  refine Reader.bind_ok.mpr ⟨(), _, require_ok.mpr ⟨rfl, rfl⟩, ?_⟩
  refine Reader.bind_ok.mpr ⟨_, _, ByteReader.u64_ok.mpr read5, ?_⟩
  refine Reader.bind_ok.mpr ⟨_, _, ByteReader.u64_ok.mpr read6, ?_⟩
  refine Reader.bind_ok.mpr ⟨_, _, ByteReader.u32_ok.mpr read7, ?_⟩
  rw [dif_neg (not_not.mpr checked.declared)]
  refine Reader.bind_ok.mpr ⟨_, _, ByteReader.u32_ok.mpr read8, ?_⟩
  refine Reader.bind_ok.mpr ⟨(), _, require_ok.mpr ⟨checked.summed _, rfl⟩, ?_⟩
  rw [← checked.payload, done]
  rfl

theorem Checked.formed {long : kFrameHeaderSize ≤ frame.length} {limits : Limits} {view : FrameView}
    {after : ByteReader} {frameLength payloadLength checksum : UInt32} (small : frame.length < 2 ^ 32)
    (checked : Checked frame long limits view after frameLength payloadLength checksum) :
    Formed frame view ∧ frame.length ≤ limits.maxFrameSize.toNat := by
  have size : kFrameHeaderSize + view.payload.length = frame.length := by
    rw [checked.payload, List.length_drop]
    omega
  have length := (delivered_iff size small).mp checked.delivered
  have counted := (declared_iff size small checked.delivered).mp checked.declared
  have count : payloadLength.toNat = view.payload.length := by
    rw [counted, lengthU32, UInt32.toNat_ofNat_of_lt' (by change _ < 2 ^ 32; omega)]
  have whole : frame = frameFields view.type view.correlationId view.coordinatorEpoch view.payload ++
      ByteWriter.u32 checksum ++ view.payload := by
    have rest := checked.words.rest
    rw [checked.words.2, headerWords_length] at rest
    rw [frameFields_words, ← length, ← counted, checked.payload]
    exact rest
  obtain ⟨prefixed, rest⟩ := hashed_ranges whole (Nat.le_trans (by decide) long) (count ▸ size.le) count
  rw [(checked.summed _).trans (congrArg₂ frameChecksum prefixed rest)] at whole
  exact ⟨⟨size, whole⟩, (bounded_iff long small checked.delivered).mp checked.bounded⟩

theorem Formed.checked {limits : Limits} {view : FrameView} (long : kFrameHeaderSize ≤ frame.length)
    (small : frame.length < 2 ^ 32) (formed : Formed frame view)
    (fits : frame.length ≤ limits.maxFrameSize.toNat) :
    Checked frame long limits view (Source.skip { bytes := frame } kFrameHeaderSize)
      (UInt32.ofNat (kFrameHeaderFields.toNat + view.payload.length)) (lengthU32 view.payload)
      (frameChecksum ((frameFields view.type view.correlationId view.coordinatorEpoch view.payload).drop 4)
        view.payload) := by
  have delivered := (delivered_iff formed.size small).mpr rfl
  refine ⟨⟨⟨view.payload, formed.bytes.symm⟩, rfl⟩, delivered, (bounded_iff long small delivered).mpr fits,
    (declared_iff formed.size small delivered).mpr rfl, ?_, ?_⟩
  · intro inside
    have count : (lengthU32 view.payload).toNat = view.payload.length := by
      have size := formed.size
      rw [lengthU32, UInt32.toNat_ofNat_of_lt' (by change _ < 2 ^ 32; omega)]
    obtain ⟨prefixed, rest⟩ := hashed_ranges formed.bytes (Nat.le_trans (by decide) long) inside count
    rw [prefixed, rest]
  · rw [formed.bytes, frameFields_words, ← headerWords_length, List.drop_left]

theorem readFrame_ok {limits : Limits} {view : FrameView} (long : kFrameHeaderSize ≤ frame.length)
    (small : frame.length < 2 ^ 32) :
    (∃ after, readFrame frame long limits { bytes := frame } = .ok (view, after)) ↔
      Formed frame view ∧ frame.length ≤ limits.maxFrameSize.toNat := by
  constructor
  · intro accepted
    obtain ⟨after, accepted⟩ := accepted
    obtain ⟨frameLength, payloadLength, checksum, checked⟩ := readFrame_checked long accepted
    exact checked.formed small
  · intro both
    exact ⟨_, (both.1.checked long small both.2).read⟩

/-- A well-formed frame is what its view is encoded to. -/
theorem formed_iff {view : FrameView} (small : frame.length < 2 ^ 32) :
    Formed frame view ↔
      encodeFrame view.type view.correlationId view.coordinatorEpoch view.payload = .ok frame := by
  have header : kFrameHeaderSize = 36 := rfl
  have size {checksum : UInt32}
      (whole : frame = frameFields view.type view.correlationId view.coordinatorEpoch view.payload ++
        ByteWriter.u32 checksum ++ view.payload) : kFrameHeaderSize + view.payload.length = frame.length := by
    rw [whole, frameFields_words, List.length_append, headerWords_length]
  rw [encodeFrame_ok]
  constructor
  · intro formed
    refine ⟨?_, formed.bytes⟩
    have length := formed.size
    omega
  · intro both
    exact ⟨size both.2, both.2⟩

theorem decodeFrame_ok {limits : Limits} {view : FrameView} (small : frame.length < 2 ^ 32) :
    decodeFrame frame limits = .ok view ↔
      encodeFrame view.type view.correlationId view.coordinatorEpoch view.payload = .ok frame ∧
        kFrameHeaderSize + view.payload.length ≤ limits.maxFrameSize.toNat := by
  rw [← formed_iff small]
  unfold decodeFrame
  by_cases short : frame.length < kFrameHeaderSize
  · rw [dif_pos short]
    refine iff_of_false fail_ne_ok fun both => ?_
    have size := both.1.size
    omega
  · rw [dif_neg short]
    have accepted : (Prod.fst <$> readFrame frame (Nat.not_lt.mp short) limits { bytes := frame }) = .ok view ↔
        ∃ after, readFrame frame (Nat.not_lt.mp short) limits { bytes := frame } = .ok (view, after) := by
      cases readFrame frame (Nat.not_lt.mp short) limits { bytes := frame } with
      | error status => simp [Functor.map, Except.map]
      | ok both =>
        obtain ⟨given, after⟩ := both
        simp [Functor.map, Except.map]
    rw [accepted, readFrame_ok (Nat.not_lt.mp short) small]
    refine and_congr_right fun formed => ?_
    rw [formed.size]

end Frames

/-- A frame is decoded exactly if it is an encoding within the limit, and then to what was encoded. -/
theorem frame_format_exact (frame : Bytes) (limits : Limits) (small : frame.length < 2 ^ 32) :
    ((∃ view, decodeFrame frame limits = .ok view) ↔
      ∃ type correlationId coordinatorEpoch payload,
        encodeFrame type correlationId coordinatorEpoch payload = .ok frame ∧
          kFrameHeaderSize + payload.length ≤ limits.maxFrameSize.toNat) ∧
      ∀ type correlationId coordinatorEpoch payload,
        encodeFrame type correlationId coordinatorEpoch payload = .ok frame →
          kFrameHeaderSize + payload.length ≤ limits.maxFrameSize.toNat →
            decodeFrame frame limits = .ok ⟨type, correlationId, coordinatorEpoch, payload⟩ := by
  constructor
  · constructor
    · intro accepted
      obtain ⟨view, accepted⟩ := accepted
      exact ⟨_, _, _, _, (decodeFrame_ok small).mp accepted⟩
    · intro encoded
      obtain ⟨type, correlationId, coordinatorEpoch, payload, encoded⟩ := encoded
      exact ⟨⟨type, correlationId, coordinatorEpoch, payload⟩, (decodeFrame_ok small).mpr encoded⟩
  · intro type correlationId coordinatorEpoch payload encoded fits
    exact (decodeFrame_ok small).mpr ⟨encoded, fits⟩

def Bench.frame : Bytes := (encodeFrame .hello 7 1 [65]).toOption.getD []

theorem frame_format_exact_bench : decodeFrame Bench.frame {} = .ok ⟨.hello, 7, 1, [65]⟩ :=
  (frame_format_exact Bench.frame {} (by decide)).2 .hello 7 1 [65] rfl (by decide +kernel)

end Protocol

end LabScheduler
