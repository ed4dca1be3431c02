import LabScheduler.Codec.Acceptance
import LabScheduler.Canonical

namespace LabScheduler

open Foundation RecordCodec

def kPersistenceHeaderSize : Nat := 28
def kPersistenceMagic : Bytes := ascii "LSCHED01"

def productLine : Text := ascii "Lab Scheduler" ++ ascii " " ++ ascii "1.0.0"

def durablePayload (durable : DurableState) : Bytes :=
  [ByteWriter.u32 kPersistenceFormatVersion, writeId durable.epoch, writeLimits durable.limits,
    writeWeights durable.defaultWeights, ByteWriter.u64 durable.idCounter, ByteWriter.str productLine,
    writeList writeResource durable.resources, writeList writeStoredRequest durable.requests,
    writeList writePlacement durable.placements, writeList writeReservation durable.reservations].flatten

def encodeDurableState (durable : DurableState) : Bytes :=
  let body := durablePayload durable
  kPersistenceMagic ++ [ByteWriter.u32 kPersistenceFormatVersion, ByteWriter.u64 (UInt64.ofNat body.length),
    ByteWriter.u64 (fnv1a64 body)].flatten ++ body

def readFormat (message : Text) : Decoder UInt32 := do
  let format ← ByteReader.u32
  require (format = kPersistenceFormatVersion) message
  return format

def readContainerHeader : Decoder (UInt64 × UInt64) := do
  let _ ← readFormat (ascii "unsupported persisted container format version")
  let payloadLength ← ByteReader.u64
  let checksum ← ByteReader.u64
  return (payloadLength, checksum)

def readDurable (limits : Limits) : Decoder DurableState := do
  let formatVersion ← readFormat (ascii "unsupported payload format version")
  let epoch ← readId
  let configured ← readLimits
  let defaultWeights ← readWeights
  let idCounter ← ByteReader.u64
  let integrityNote ← ByteReader.str limits.maxStringLength
  let resources ← readList (readResource limits) limits.maxPersistenceRecords
  let requests ← readList (readStoredRequest limits) limits.maxPersistenceRecords
  let placements ← readList (readPlacement limits) limits.maxPersistenceRecords
  let reservations ← readList (readReservation limits) limits.maxPersistenceRecords
  return {
    formatVersion, epoch, limits := configured, defaultWeights, idCounter, integrityNote, resources, requests,
    placements, reservations }

def decodeDurableState (bytes : Bytes) (limits : Limits) : Except Status DurableState := do
  check (¬ bytes.length < kPersistenceHeaderSize) .corruptPersistence
    (ascii "persisted container is shorter than its header")
  check (bytes.take kPersistenceMagic.length = kPersistenceMagic) .corruptPersistence
    (ascii "persisted container magic does not match")
  let ((payloadLength, checksum), _) ← readContainerHeader
    { bytes := bytes.drop kPersistenceMagic.length, failure := .corruptPersistence }
  check (¬ (payloadLength = 0 ∨ limits.maxPersistenceBytes < payloadLength)) .corruptPersistence
    (ascii "persisted payload length is implausible")
  let available := bytes.length - kPersistenceHeaderSize
  check (¬ available < payloadLength.toNat) .corruptPersistence (ascii "persisted payload is truncated")
  check (payloadLength.toNat = available) .corruptPersistence
    (ascii "persisted container carries trailing bytes")
  let body := (bytes.drop kPersistenceHeaderSize).take payloadLength.toNat
  check (fnv1a64 body = checksum) .corruptPersistence (ascii "persisted payload checksum does not match")
  let (durable, reader) ← readDurable limits { bytes := body, failure := .corruptPersistence }
  let _ ← ByteReader.requireEnd reader
  return durable

section Container

variable {limits : Limits} {durable : DurableState}

def sortedDurable (durable : DurableState) : DurableState :=
  { durable with
    resources := durable.resources.map sortedResource
    requests := durable.requests.map sortedStored }

@[mk_iff] structure DurableFits (limits : Limits) (durable : DurableState) : Prop where
  defaultWeights : ∀ factor, FairWeight (durable.defaultWeights factor)
  resources : durable.resources.length ≤ limits.maxPersistenceRecords.toNat
  resource : ∀ resource ∈ durable.resources, ResourceFits limits resource
  requests : durable.requests.length ≤ limits.maxPersistenceRecords.toNat
  request : ∀ stored ∈ durable.requests, StoredFits limits stored
  placements : durable.placements.length ≤ limits.maxPersistenceRecords.toNat
  placement : ∀ placement ∈ durable.placements, PlacementFits limits placement
  reservations : durable.reservations.length ≤ limits.maxPersistenceRecords.toNat
  reservation : ∀ reservation ∈ durable.reservations, ReservationFits limits reservation

structure CanonicalDurable (durable : DurableState) : Prop where
  resources : ∀ resource ∈ durable.resources, CanonicalDescription resource.toDescription
  requests : ∀ stored ∈ durable.requests, CanonicalRequest stored.request

theorem CanonicalDurable.sorted_eq (canonical : CanonicalDurable durable) : sortedDurable durable = durable := by
  have resources : durable.resources.map sortedResource = durable.resources := by
    have each : ∀ resource ∈ durable.resources, sortedResource resource = id resource := by
      intro resource member
      unfold sortedResource
      rw [(canonical.resources resource member).sorted_eq]
      rfl
    exact (List.map_congr_left each).trans (List.map_id _)
  have requests : durable.requests.map sortedStored = durable.requests := by
    have each : ∀ stored ∈ durable.requests, sortedStored stored = id stored := by
      intro stored member
      unfold sortedStored
      rw [(canonical.requests stored member).sorted_eq]
      rfl
    exact (List.map_congr_left each).trans (List.map_id _)
  unfold sortedDurable
  rw [resources, requests]

theorem readFormat_decodes (message : Text) :
    Decodes ByteWriter.u32 id (readFormat message) (fun format => format = kPersistenceFormatVersion) := by
  refine (ByteReader.u32_decodes.convert fun raw _ reader value after => ?_).congr fun _ => and_iff_right trivial
  simp only [id]
  rw [require_bind_ok, Reader.pure_ok, ← and_assoc]
  refine and_congr_left fun _ => ?_
  constructor
  · intro both
    exact ⟨raw, both.1, rfl, both.2⟩
  · intro wire
    obtain ⟨_, supported, rfl, same⟩ := wire
    exact ⟨supported, same⟩

/-- What the body is read as: the product line stands where the note is read. -/
def writeDurable (durable : DurableState) : Bytes :=
  [ByteWriter.u32 durable.formatVersion, writeId durable.epoch, writeLimits durable.limits,
    writeWeights durable.defaultWeights, ByteWriter.u64 durable.idCounter, ByteWriter.str durable.integrityNote,
    writeList writeResource durable.resources, writeList writeStoredRequest durable.requests,
    writeList writePlacement durable.placements, writeList writeReservation durable.reservations].flatten

theorem readDurable_decodes (limits : Limits) :
    Decodes writeDurable sortedDurable (readDurable limits) (fun durable =>
      durable.formatVersion = kPersistenceFormatVersion ∧
        durable.integrityNote.length ≤ limits.maxStringLength.toNat ∧ DurableFits limits durable) := by
  refine Decodes.congr (Reads.decodes <|
    Reads.field DurableState.formatVersion (readFormat_decodes _) fun formatVersion _ =>
    Reads.field DurableState.epoch readId_decodes fun epoch _ =>
    Reads.field DurableState.limits readLimits_decodes fun configured _ =>
    Reads.field DurableState.defaultWeights readWeights_decodes fun defaultWeights _ =>
    Reads.field DurableState.idCounter ByteReader.u64_decodes fun idCounter _ =>
    Reads.field DurableState.integrityNote (ByteReader.str_decodes _) fun integrityNote _ =>
    Reads.field DurableState.resources (readList_decodes (readResource_decodes limits) _) fun resources _ =>
    Reads.field DurableState.requests (readList_decodes (readStoredRequest_decodes limits) _) fun requests _ =>
    Reads.field DurableState.placements (readItems_decodes (readPlacement_decodes limits) _) fun placements _ =>
    Reads.field DurableState.reservations (readItems_decodes (readReservation_decodes limits) _) fun reservations _ =>
    Reads.done (w := {
      formatVersion, epoch, limits := configured, defaultWeights, idCounter, integrityNote, resources, requests,
      placements, reservations }) (fun durable => ?_) rfl) fun durable => ?_
  · cases durable
    simp only [DurableState.mk.injEq, true_and, and_assoc]
    tauto
  · simp only [durableFits_iff, true_and, and_true, and_assoc]
    exact and_congr_right fun _ => and_left_comm

theorem readContainerHeader_decodes :
    Decodes (fun header : UInt64 × UInt64 =>
        [ByteWriter.u32 kPersistenceFormatVersion, ByteWriter.u64 header.1, ByteWriter.u64 header.2].flatten)
      id readContainerHeader (fun _ => True) := by
  refine Decodes.congr (Reads.decodes <|
    Reads.field (fun _ => kPersistenceFormatVersion) (readFormat_decodes _) fun format supported =>
    Reads.field Prod.fst ByteReader.u64_decodes fun payloadLength _ =>
    Reads.field Prod.snd ByteReader.u64_decodes fun checksum _ =>
    Reads.done (fun header => ?_) rfl) fun _ => by simp
  subst supported
  rw [Prod.ext_iff]
  simp

def container (body : Bytes) : Bytes :=
  kPersistenceMagic ++ [ByteWriter.u32 kPersistenceFormatVersion, ByteWriter.u64 (UInt64.ofNat body.length),
    ByteWriter.u64 (fnv1a64 body)].flatten ++ body

theorem decodeDurableState_container {body : Bytes} (given : body ≠ [])
    (bounded : body.length ≤ limits.maxPersistenceBytes.toNat) :
    decodeDurableState (container body) limits = do
      let (durable, reader) ← readDurable limits { bytes := body, failure := .corruptPersistence }
      let _ ← ByteReader.requireEnd reader
      return durable := by
  unfold container
  generalize named : [ByteWriter.u32 kPersistenceFormatVersion, ByteWriter.u64 (UInt64.ofNat body.length),
    ByteWriter.u64 (fnv1a64 body)].flatten = header
  have fixed : header.length = 20 := named ▸ rfl
  have magic : kPersistenceMagic.length = 8 := rfl
  have size : (kPersistenceMagic ++ header ++ body).length = 28 + body.length := by
    simp [fixed, magic]
    omega
  have rest : (kPersistenceMagic ++ header ++ body).drop kPersistenceMagic.length = header ++ body := by
    rw [List.append_assoc, List.drop_left]
  have front : (kPersistenceMagic ++ header ++ body).take kPersistenceMagic.length = kPersistenceMagic := by
    rw [List.append_assoc, List.take_left]
  have whole : (kPersistenceMagic ++ header ++ body).drop kPersistenceHeaderSize = body := by
    have header : kPersistenceHeaderSize = (kPersistenceMagic ++ header).length := by
      rw [List.length_append, fixed, magic]
      rfl
    rw [header, List.drop_left]
  have length : (UInt64.ofNat body.length).toNat = body.length :=
    UInt64.toNat_ofNat_of_lt' (Nat.lt_of_le_of_lt bounded limits.maxPersistenceBytes.toNat_lt)
  have some : 0 < body.length := List.length_pos_iff.mpr given
  have sane : ¬ (UInt64.ofNat body.length = 0 ∨ limits.maxPersistenceBytes < UInt64.ofNat body.length) := by
    rw [← UInt64.toNat_inj, UInt64.lt_iff_toNat_lt, length]
    have zero : (0 : UInt64).toNat = 0 := rfl
    omega
  have reads : readContainerHeader { bytes := header ++ body, failure := .corruptPersistence } =
      .ok ((UInt64.ofNat body.length, fnv1a64 body),
        Source.skip { bytes := header ++ body, failure := .corruptPersistence } header.length) :=
    readContainerHeader_decodes.reads (w := (UInt64.ofNat body.length, fnv1a64 body)) trivial
      ⟨named ▸ ⟨body, rfl⟩, named ▸ rfl⟩
  have headed : kPersistenceHeaderSize = 28 := rfl
  have left : 28 + body.length - 28 = body.length := Nat.add_sub_cancel_left ..
  have passes {condition : Prop} [Decidable condition] {code : ErrorCode} {message : Text} (holds : condition) :
      check condition code message = .ok () := check_ok.mpr holds
  have opened {α β : Type} (a : α) (next : α → Except Status β) : (Except.ok a >>= next) = next a := rfl
  unfold decodeDurableState
  rw [rest, front, whole, size, reads, headed, passes (Nat.not_lt.mpr (Nat.le_add_right 28 _)), passes rfl]
  simp only [opened, length, left, List.take_length]
  rw [passes sane, passes (Nat.lt_irrefl _), passes trivial, passes trivial]
  rfl

theorem decodeDurableState_ok {body : Bytes} {decoded : DurableState} (given : body ≠ [])
    (bounded : body.length ≤ limits.maxPersistenceBytes.toNat) :
    decodeDurableState (container body) limits = .ok decoded ↔
      ∃ after, readDurable limits { bytes := body, failure := .corruptPersistence } = .ok (decoded, after) ∧
        after.atEnd := by
  have plain (answer : DurableState) : (pure answer : Except Status DurableState) = .ok decoded ↔ answer = decoded :=
    ⟨fun same => Except.ok.inj same, fun same => congrArg Except.ok same⟩
  rw [decodeDurableState_container given bounded]
  simp only [except_bind_ok, plain]
  constructor
  · intro decodes
    obtain ⟨⟨_, after⟩, accepted, ⟨_, _⟩, ended, rfl⟩ := decodes
    exact ⟨after, accepted, (ByteReader.requireEnd_ok.mp ended).1⟩
  · intro reads
    obtain ⟨after, accepted, ended⟩ := reads
    exact ⟨(decoded, after), accepted, ((), after), ByteReader.requireEnd_ok.mpr ⟨ended, rfl⟩, rfl⟩

def durableFront (durable : DurableState) : Bytes :=
  [ByteWriter.u32 durable.formatVersion, writeId durable.epoch, writeLimits durable.limits,
    writeWeights durable.defaultWeights, ByteWriter.u64 durable.idCounter].flatten

theorem durableFront_length (first second : DurableState) :
    (durableFront first).length = (durableFront second).length := by
  have weights (weights : RankingWeights) : (writeWeights weights).length = 48 := rfl
  simp [durableFront, writeId, writeLimits, weights]

theorem note_ok {reader after : ByteReader} (consumes : Consumes (writeDurable durable) reader after) :
    ∃ next, ByteReader.u32 (Source.skip reader (durableFront durable).length) =
      .ok (lengthU32 durable.integrityNote, next) := by
  have split : writeDurable durable =
      durableFront durable ++ (ByteWriter.u32 (lengthU32 durable.integrityNote) ++ (durable.integrityNote ++
        [writeList writeResource durable.resources, writeList writeStoredRequest durable.requests,
          writeList writePlacement durable.placements, writeList writeReservation durable.reservations].flatten)) := by
    simp [writeDurable, durableFront, ByteWriter.str, List.append_assoc]
  rw [split, Consumes.append] at consumes
  obtain ⟨mid, front, others⟩ := consumes
  obtain ⟨next, length, -⟩ := Consumes.append.mp others
  rw [← front.2]
  exact ⟨next, ByteReader.u32_ok.mpr length⟩

theorem readDurable_note {reader after last : ByteReader} {decoded : DurableState}
    (accepted : readDurable limits reader = .ok (decoded, after)) (consumes : Consumes (writeDurable durable) reader last)
    (counted : durable.integrityNote.length < 2 ^ 32) :
    durable.integrityNote.length ≤ limits.maxStringLength.toNat := by
  obtain ⟨written, ⟨-, note, -⟩, -, other⟩ := (readDurable_decodes limits).written accepted
  obtain ⟨_, here⟩ := note_ok consumes
  obtain ⟨_, there⟩ := note_ok other
  rw [durableFront_length written durable, here] at there
  have same : lengthU32 durable.integrityNote = lengthU32 written.integrityNote :=
    (Prod.ext_iff.mp (Except.ok.inj there)).1
  have length : (lengthU32 durable.integrityNote).toNat = durable.integrityNote.length :=
    UInt32.toNat_ofNat_of_lt' counted
  rw [← length, same, ByteReader.lengthU32_eq note]
  exact note

/-- The container of a state within the bounds of the reader gives the state back, exactly if a string may be as long
    as the product line. -/
theorem container_round_trip (limits : Limits) (durable : DurableState)
    (format : durable.formatVersion = kPersistenceFormatVersion) (fits : DurableFits limits durable)
    (canonical : CanonicalDurable durable)
    (bounded : (durablePayload durable).length ≤ limits.maxPersistenceBytes.toNat) :
    (∃ decoded, decodeDurableState (encodeDurableState durable) limits = .ok decoded ∧
      { decoded with integrityNote := durable.integrityNote } = durable) ↔
        productLine.length ≤ limits.maxStringLength.toNat := by
  let wire : DurableState := { durable with integrityNote := productLine }
  have body : durablePayload durable = writeDurable wire := by
    change durablePayload durable = ([ByteWriter.u32 durable.formatVersion, _, _, _, _, _, _, _, _, _] : List Bytes).flatten
    rw [format]
    rfl
  have given : durablePayload durable ≠ [] := List.cons_ne_nil _ _
  have consumes : Consumes (writeDurable wire)
      ({ bytes := durablePayload durable, failure := .corruptPersistence } : ByteReader)
      { bytes := durablePayload durable, offset := (writeDurable wire).length, failure := .corruptPersistence } := by
    refine ⟨⟨[], ?_⟩, ?_⟩
    · rw [List.append_nil]
      exact body.symm
    · change ByteReader.mk _ _ _ = ByteReader.mk _ (0 + _) _
      rw [Nat.zero_add]
  constructor
  · intro returned
    obtain ⟨decoded, decodes, -⟩ := returned
    obtain ⟨after, accepted, -⟩ := (decodeDurableState_ok given bounded).mp decodes
    have counted : productLine.length < 2 ^ 32 := by decide
    exact @readDurable_note limits wire _ _ _ _ accepted consumes counted
  · intro room
    have within : DurableFits limits wire :=
      ⟨fits.1, fits.2, fits.3, fits.4, fits.5, fits.6, fits.7, fits.8, fits.9⟩
    have read := (readDurable_decodes limits).reads (w := wire) ⟨format, room, within⟩ consumes
    have ended : (ByteReader.mk (durablePayload durable) (writeDurable wire).length .corruptPersistence).atEnd := by
      unfold ByteReader.atEnd
      rw [← body]
      exact beq_self_eq_true _
    have sorted : sortedDurable wire = wire :=
      CanonicalDurable.sorted_eq ⟨canonical.resources, canonical.requests⟩
    rw [sorted] at read
    exact ⟨wire, (decodeDurableState_ok given bounded).mpr ⟨_, read, ended⟩, rfl⟩

end Container

namespace Bench

/-- A worker resource with labels. -/
def labelled : ResourceRecord where
  id := ⟨5⟩
  name := ascii "bench"
  labels := [ascii "a", ascii "b"]

def submitted : StoredRequest where
  request := { id := ⟨6⟩, workload := ascii "run", priority := -4 }
  submittedSequence := 2

def contents : DurableState where
  epoch := ⟨3⟩
  idCounter := 7
  resources := [labelled]
  requests := [submitted]

theorem fair (factor : RankingFactor) : FairWeight (RankingWeights.default factor) := by
  cases factor <;> exact ⟨by decide, by decide⟩

theorem labelled_fits : ResourceFits {} labelled where
  authorityDetail := by decide
  description := bare_fits rfl (by decide) ⟨by decide, List.IsChain.cons_cons (by decide) (List.IsChain.singleton _)⟩

theorem submitted_fits : StoredFits {} submitted where
  detail := by decide
  request := {
    workload := by decide
    tenant := by decide
    priority := by decide
    requirements := by decide
    requirement := fun _ member => absurd member List.not_mem_nil
    affinity := by decide
    antiAffinity := by decide
    maxReassignments := by decide
    weights := fair
    callerAuthority := by decide
    requestProvenance := by decide }

theorem contents_fits : DurableFits {} contents where
  defaultWeights := fair
  resources := by decide
  resource _ member := List.mem_singleton.mp member ▸ labelled_fits
  requests := by decide
  request _ member := List.mem_singleton.mp member ▸ submitted_fits
  placements := by decide
  placement _ member := absurd member List.not_mem_nil
  reservations := by decide
  reservation _ member := absurd member List.not_mem_nil

theorem contents_canonical : CanonicalDurable contents where
  resources _ member := List.mem_singleton.mp member ▸
    ⟨List.Pairwise.nil, fun _ present => absurd present (Option.not_mem_none _)⟩
  requests _ member := List.mem_singleton.mp member ▸ fun _ member => absurd member List.not_mem_nil

end Bench

theorem container_round_trip_bench :
    (∃ decoded, decodeDurableState (encodeDurableState Bench.contents) {} = .ok decoded ∧
      { decoded with integrityNote := Bench.contents.integrityNote } = Bench.contents) ↔
        productLine.length ≤ ({} : Limits).maxStringLength.toNat :=
  container_round_trip {} Bench.contents rfl Bench.contents_fits Bench.contents_canonical (by decide +kernel)

/-- With strings of ten bytes at most no container is read back, not even that of the empty state. -/
theorem product_line_too_long :
    DurableFits { maxStringLength := 10 } {} ∧ CanonicalDurable {} ∧
      (durablePayload {}).length ≤ ({ maxStringLength := 10 } : Limits).maxPersistenceBytes.toNat ∧
      ¬ ∃ decoded, decodeDurableState (encodeDurableState {}) { maxStringLength := 10 } = .ok decoded ∧
        { decoded with integrityNote := ({} : DurableState).integrityNote } = ({} : DurableState) := by
  have empty : DurableFits { maxStringLength := 10 } {} := by
    refine ⟨Bench.fair, by decide, ?_, by decide, ?_, by decide, ?_, by decide, ?_⟩
    all_goals exact fun _ member => absurd member List.not_mem_nil
  have canonical : CanonicalDurable {} :=
    ⟨fun _ member => absurd member List.not_mem_nil, fun _ member => absurd member List.not_mem_nil⟩
  refine ⟨empty, canonical, by decide +kernel, fun returned => ?_⟩
  obtain ⟨decoded, decodes, -⟩ := returned
  have refused : (decodeDurableState (encodeDurableState {}) { maxStringLength := 10 }).isOk = false := by
    decide +kernel
  rw [decodes] at refused
  cases refused

end LabScheduler
