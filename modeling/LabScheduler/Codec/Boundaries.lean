import LabScheduler.Codec.Payloads
import LabScheduler.Codec.Persistence

namespace LabScheduler

open Foundation RecordCodec

def ByteReader.whole {α : Type} (read : Decoder α) : Decoder α := do
  let message ← read
  requireEnd
  return message

section Whole

variable {α : Type} {read : Decoder α} {refusal : ErrorCode → Bytes → Prop}

theorem ByteReader.whole_run {reader : ByteReader} :
    (do
      let (message, after) ← read reader
      let _ ← requireEnd after
      return message : Except Status α) = Prod.fst <$> whole read reader := by
  change _ = Prod.fst <$> (read reader >>= fun both =>
    requireEnd both.2 >>= fun ended => (pure (both.1, ended.2) : Except Status (α × ByteReader)))
  cases read reader with
  | error status => rfl
  | ok both =>
    change (requireEnd both.2 >>= fun _ => pure both.1) =
      Prod.fst <$> (requireEnd both.2 >>= fun ended => (pure (both.1, ended.2) : Except Status (α × ByteReader)))
    cases requireEnd both.2 <;> rfl

theorem ByteReader.whole_own_iff (reader : ByteReader) (stops : Stops read refusal) :
    (∀ status, (do
      let (message, after) ← read reader
      let _ ← requireEnd after
      return message : Except Status α) = .error status → status.code = reader.failure) ↔
      ∀ code, code ≠ reader.failure → ¬ refusal code (Source.rest reader) := by
  have whole : Stops (whole read) refusal := stops.quiet fun _ => .quiet Basic.requireEnd.silent fun _ => .pure _
  refine Iff.trans ?_ (whole.own_iff reader)
  rw [whole_run]
  refine forall_congr' fun status => imp_congr_left ?_
  cases ByteReader.whole read reader <;> simp [Functor.map, Except.map]

end Whole

section Persisted

variable (limits : Limits)

theorem readFormat_judges (message : Text) :
    Judges ByteWriter.u32 id (readFormat message) (fun format => format = kPersistenceFormatVersion)
      (checkRefusal .corruptPersistence ByteWriter.u32 (fun _ => True)
        fun format => format = kPersistenceFormatVersion) :=
  ⟨readFormat_decodes message, checked_stops ByteReader.u32_judges fun _ _ => require_stops⟩

theorem readLimits_judges : ByteReader.Plain writeLimits id readLimits (fun _ => True) := by
  refine ⟨readLimits_decodes, ?_⟩
  unfold readLimits
  iterate 34 refine .quiet ByteReader.u32_judges.stops fun _ => ?_
  exact .quiet ByteReader.u64_judges.stops fun _ => .quiet ByteReader.u32_judges.stops fun _ => .pure _

def durableFormat : Format :=
  [.of ByteWriter.u32 (fun format => format = kPersistenceFormatVersion)
      (checkRefusal .corruptPersistence ByteWriter.u32 (fun _ => True)
        fun format => format = kPersistenceFormatVersion),
    idPart, plainPart writeLimits fun _ => True, weightsPart, u64Part, textPart limits.maxStringLength,
    listPart writeResource (ResourceFits limits) (resourceFormat limits) limits.maxPersistenceRecords,
    listPart writeStoredRequest (StoredFits limits) (storedRequestFormat limits) limits.maxPersistenceRecords,
    listPart writePlacement (PlacementFits limits) (placementFormat limits) limits.maxPersistenceRecords,
    listPart writeReservation (ReservationFits limits) (reservationFormat limits) limits.maxPersistenceRecords]

theorem readDurable_stops : Stops (readDurable limits) (refusedIn (durableFormat limits)) :=
  .field (readFormat_judges _) fun _ _ =>
  .field readId_plain fun _ _ =>
  .field readLimits_judges fun _ _ =>
  .field readWeights_judges fun _ _ =>
  .field ByteReader.u64_judges fun _ _ =>
  .field (ByteReader.str_judges _) fun _ _ =>
  .field (readList_judges (readResource_judges limits) _) fun _ _ =>
  .field (readList_judges (readStoredRequest_judges limits) _) fun _ _ =>
  .field (readList_judges (readPlacement_judges limits) _) fun _ _ =>
  .field (readList_judges (readReservation_judges limits) _) fun _ _ =>
  .done _

variable {limits}

theorem readContainerHeader_owned : Owned ErrorCode.corruptPersistence readContainerHeader := by
  have word : Owned ErrorCode.corruptPersistence ByteReader.u64 :=
    .of_stops ByteReader.u64_judges.stops fun _ _ => False.elim
  exact .bind (.of_stops (readFormat_judges _).stops fun _ _ refused => refused.1) fun _ =>
    .bind word fun _ => .bind word fun _ => .pure _

theorem decodeDurableState_error {bytes : Bytes} {status : Status}
    (fails : decodeDurableState bytes limits = .error status) :
    status.code = .corruptPersistence ∨
      ∃ body, body ≠ [] ∧ body.length ≤ limits.maxPersistenceBytes.toNat ∧ bytes = container body := by
  unfold decodeDurableState at fails
  obtain ⟨-, rfl⟩ | ⟨long, fails⟩ := check_then_error.mp fails
  · exact .inl rfl
  obtain ⟨-, rfl⟩ | ⟨magic, fails⟩ := check_then_error.mp fails
  · exact .inl rfl
  cases header : readContainerHeader { bytes := bytes.drop kPersistenceMagic.length, failure := .corruptPersistence } with
  | error other =>
    rw [header] at fails
    cases fails
    exact .inl (readContainerHeader_owned.fails _ _ rfl header)
  | ok both =>
    obtain ⟨⟨payloadLength, checksum⟩, after⟩ := both
    rw [header] at fails
    obtain ⟨-, rfl⟩ | ⟨sane, fails⟩ := check_then_error.mp fails
    · exact .inl rfl
    obtain ⟨-, rfl⟩ | ⟨-, fails⟩ := check_then_error.mp fails
    · exact .inl rfl
    obtain ⟨-, rfl⟩ | ⟨whole, fails⟩ := check_then_error.mp fails
    · exact .inl rfl
    obtain ⟨-, rfl⟩ | ⟨summed, -⟩ := check_then_error.mp fails
    · exact .inl rfl
    obtain ⟨_, -, rfl, consumes⟩ := readContainerHeader_decodes.written header
    obtain ⟨tail, there⟩ := consumes.1
    change _ ++ tail = (bytes.drop kPersistenceMagic.length).drop 0 at there
    rw [List.drop_zero] at there
    have joined : kPersistenceMagic ++ bytes.drop kPersistenceMagic.length = bytes := by
      have parts := List.take_append_drop kPersistenceMagic.length bytes
      rwa [magic] at parts
    have body : bytes.drop kPersistenceHeaderSize = tail := by
      rw [← joined, ← there]
      rfl
    have length : tail.length = payloadLength.toNat := by
      rw [← body, List.length_drop, whole]
    have counted : UInt64.ofNat tail.length = payloadLength := by
      rw [length, UInt64.ofNat_toNat]
    rw [body, ← length, List.take_length] at summed
    obtain ⟨some, small⟩ := not_or.mp sane
    refine .inr ⟨tail, fun empty => some ?_, ?_, ?_⟩
    · rw [← counted, empty]
      rfl
    · rw [length]
      exact UInt64.le_iff_toNat_le.mp (UInt64.not_lt.mp small)
    · unfold container
      rw [counted, summed, List.append_assoc]
      exact (there ▸ joined).symm

theorem decodeDurableState_own_iff {bytes : Bytes} :
    (∀ status, decodeDurableState bytes limits = .error status → status.code = .corruptPersistence) ↔
      ∀ body, body ≠ [] → body.length ≤ limits.maxPersistenceBytes.toNat → bytes = container body →
        ∀ code, code ≠ .corruptPersistence → ¬ refusedIn (durableFormat limits) code body := by
  have bodies (body : Bytes) := ByteReader.whole_own_iff { bytes := body, failure := .corruptPersistence }
    (readDurable_stops limits)
  constructor
  · intro own body given bounded framed
    subst framed
    rw [decodeDurableState_container given bounded] at own
    exact (bodies body).mp own
  · intro none status fails
    obtain corrupt | ⟨body, given, bounded, rfl⟩ := decodeDurableState_error fails
    · exact corrupt
    rw [decodeDurableState_container given bounded] at fails
    exact (bodies body).mpr (none body given bounded rfl) status fails

end Persisted

namespace Protocol

variable {limits : Limits}

theorem readFrame_owned {frame : Bytes} (long : kFrameHeaderSize ≤ frame.length) :
    Owned ErrorCode.protocolError (readFrame frame long limits) := by
  have half : Owned ErrorCode.protocolError ByteReader.u16 :=
    .of_stops ByteReader.u16_judges.stops fun _ _ => False.elim
  have word : Owned ErrorCode.protocolError ByteReader.u32 :=
    .of_stops ByteReader.u32_judges.stops fun _ _ => False.elim
  have double : Owned ErrorCode.protocolError ByteReader.u64 :=
    .of_stops ByteReader.u64_judges.stops fun _ _ => False.elim
  have required (condition : Prop) [Decidable condition] (message : Text) :
      Owned ErrorCode.protocolError (require condition message) := .check fun _ => check_code
  have refused (message : Text) :
      Owned ErrorCode.protocolError (Reader.check (fail .protocolError message) : Decoder FrameView) :=
    .check fun _ fails => Except.error.inj fails ▸ rfl
  unfold readFrame
  refine .bind word fun frameLength => ?_
  by_cases delivered : frameLength.toNat ≠ frame.length - 4
  · rw [dif_pos delivered]
    exact refused _
  rw [dif_neg delivered]
  refine .bind (required _ _) fun _ => .bind word fun _ => .bind (required _ _) fun _ => .bind half fun rawType => ?_
  cases MessageType.known.find? fun type => type.code = rawType with
  | none => exact refused _
  | some type =>
    refine .bind half fun _ => .bind (required _ _) fun _ => .bind double fun _ => .bind double fun _ =>
      .bind word fun payloadLength => ?_
    by_cases declared : payloadLength ≠ frameLength - kFrameHeaderFields
    · rw [dif_pos declared]
      exact refused _
    rw [dif_neg declared]
    exact .bind word fun _ => .bind (required _ _) fun _ => .pure _

theorem decodeFrame_code {frame : Bytes} {status : Status} (fails : decodeFrame frame limits = .error status) :
    status.code = .protocolError := by
  unfold decodeFrame at fails
  by_cases short : frame.length < kFrameHeaderSize
  · rw [dif_pos short] at fails
    cases fails
    rfl
  · rw [dif_neg short] at fails
    cases read : readFrame frame (Nat.not_lt.mp short) limits { bytes := frame } with
    | error other =>
      rw [read] at fails
      cases fails
      exact (readFrame_owned _).fails _ _ rfl read
    | ok both =>
      rw [read] at fails
      cases fails

theorem PayloadKind.decode_own_iff (kind : PayloadKind) {payload : Bytes} :
    (∀ status, kind.decode payload limits = .error status → status.code = .protocolError) ↔
      ∀ code, code ≠ .protocolError → ¬ refusedIn (kind.format limits) code payload := by
  rw [kind.decode_eq limits payload]
  exact ByteReader.whole_own_iff { bytes := payload } (kind.read_stops limits)

end Protocol

/-- A decoder that looks at its bytes through functions that look at what is left of them first, and that stays within
    them. -/
structure InSpan {α : Type} (read : Decoder α) : Prop where
  made : Made read
  inside : ∀ reader value after, reader.offset ≤ reader.bytes.length → read reader = .ok (value, after) →
    after.bytes = reader.bytes ∧ reader.offset ≤ after.offset ∧ after.offset ≤ reader.bytes.length

theorem InSpan.of_made {α : Type} {read : Decoder α} (made : Made read) : InSpan read where
  made
  inside reader value after start accepted := by
    obtain ⟨bytes, begins, rfl⟩ := made.takes accepted
    have fits : bytes.length ≤ (reader.bytes.drop reader.offset).length := begins.length_le
    rw [List.length_drop] at fits
    refine ⟨rfl, Nat.le_add_right .., ?_⟩
    change reader.offset + bytes.length ≤ reader.bytes.length
    omega

/-- A decoder of either boundary fails with the code of that boundary, exactly if its bytes do not come, after parts
    that are accepted, to one that is refused with another code; no decoder leaves its bytes. -/
theorem boundary_codes (limits : Limits) :
    (∀ bytes,
      (∀ status, decodeDurableState bytes limits = .error status → status.code = .corruptPersistence) ↔
        ∀ body, body ≠ [] → body.length ≤ limits.maxPersistenceBytes.toNat → bytes = container body →
          ∀ code, code ≠ .corruptPersistence → ¬ refusedIn (durableFormat limits) code body) ∧
      (∀ frame status, Protocol.decodeFrame frame limits = .error status → status.code = .protocolError) ∧
      (∀ (kind : Protocol.PayloadKind) payload,
        (∀ status, kind.decode payload limits = .error status → status.code = .protocolError) ↔
          ∀ code, code ≠ .protocolError → ¬ refusedIn (kind.format limits) code payload) ∧
      InSpan readContainerHeader ∧ InSpan (readDurable limits) ∧ (∀ frame long, InSpan (Protocol.readFrame frame long limits)) ∧
      ∀ kind : Protocol.PayloadKind, InSpan (kind.read limits) :=
  ⟨fun _ => decodeDurableState_own_iff, fun _ _ => Protocol.decodeFrame_code,
    fun kind _ => kind.decode_own_iff, .of_made readContainerHeader_owned.made,
    .of_made (readDurable_stops limits).made,
    fun _ long => .of_made (Protocol.readFrame_owned long).made,
    fun kind => .of_made (kind.read_stops limits).made⟩

namespace Bench

/-- An advertisement up to its class, which is none of the seven. -/
def unclassed : Bytes := [5, 0, 0, 0, 0, 0, 0, 0, 7]

def twice : DurableState where
  resources :=
    let capability : Capability := { id := capabilityIdFromName (ascii "gpu"), name := ascii "gpu" }
    [{ name := ascii "bench", capabilities := ⟨[capability, capability]⟩ }]

end Bench

theorem boundary_codes_bench :
    ¬ ∀ code, code ≠ .protocolError →
      ¬ refusedIn (Protocol.PayloadKind.resource.format {}) code Bench.unclassed := by
  intro none
  have own := ((boundary_codes {}).2.2.1 .resource Bench.unclassed).mpr none
  exact absurd (own _ rfl) (by decide)

/-- An enumerator out of range is corrupt persistence on the wire too, and a capability that is given twice is a
    duplicate identity in a container. -/
theorem foreign_codes :
    (¬ ∀ status, Protocol.decodeResourceMessage Bench.unclassed {} = .error status → status.code = .protocolError) ∧
      ¬ ∀ status, decodeDurableState (encodeDurableState Bench.twice) {} = .error status →
        status.code = .corruptPersistence := by
  constructor
  · intro own
    exact absurd (own _ rfl) (by decide)
  · intro own
    have foreign : (match decodeDurableState (encodeDurableState Bench.twice) {} with
        | .error status => status.code
        | .ok _ => .ok) = ErrorCode.duplicateIdentity := by decide +kernel
    cases result : decodeDurableState (encodeDurableState Bench.twice) {} with
    | error status =>
      rw [result] at foreign
      exact absurd ((own status result).symm.trans foreign) (by decide)
    | ok decoded =>
      rw [result] at foreign
      cases foreign

end LabScheduler
