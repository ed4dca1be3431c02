import LabScheduler.Codec.Storage

namespace LabScheduler

open Foundation RecordCodec

section Exact

variable {limits : Limits}

structure DurableReads (limits : Limits) (durable : DurableState) : Prop where
  formatVersion : durable.formatVersion = kPersistenceFormatVersion
  integrityNote : durable.integrityNote.length ≤ limits.maxStringLength.toNat
  fits : DurableFits limits durable
  size : (writeDurable durable).length ≤ limits.maxPersistenceBytes.toNat

theorem writeDurable_some (durable : DurableState) : writeDurable durable ≠ [] := List.cons_ne_nil _ _

theorem decoded_container {bytes : Bytes} {decoded : DurableState}
    (accepted : decodeDurableState bytes limits = .ok decoded) :
    ∃ body, body ≠ [] ∧ body.length ≤ limits.maxPersistenceBytes.toNat ∧ container body = bytes := by
  have magic : kPersistenceMagic.length = 8 := rfl
  have header : kPersistenceHeaderSize = 28 := rfl
  unfold decodeDurableState at accepted
  simp only [check_bind_ok, check_ok] at accepted
  obtain ⟨long, begins, accepted⟩ := accepted
  obtain ⟨⟨⟨payloadLength, checksum⟩, mid⟩, read, decodes⟩ := except_bind_ok.mp accepted
  simp only [check_bind_ok, check_ok] at decodes
  obtain ⟨sized, -, whole, sum, -⟩ := decodes
  rw [not_or, UInt64.not_lt, UInt64.le_iff_toNat_le] at sized
  have all : (bytes.drop kPersistenceHeaderSize).length = payloadLength.toNat := by
    rw [List.length_drop, whole]
  rw [List.take_of_length_le all.le] at sum
  obtain ⟨_, -, rfl, consumes⟩ := readContainerHeader_decodes.written read
  have rest := consumes.rest
  rw [consumes.2] at rest
  change bytes.drop kPersistenceMagic.length = _ ++ (bytes.drop kPersistenceMagic.length).drop 20 at rest
  rw [List.drop_drop, magic] at rest
  refine ⟨bytes.drop kPersistenceHeaderSize, fun none => sized.1 ?_, all.trans_le sized.2, ?_⟩
  · rw [← UInt64.toNat_inj, ← all, none]
    rfl
  · unfold container
    rw [all, sum, UInt64.ofNat_toNat, List.append_assoc, header]
    refine Eq.trans ?_ (List.take_append_drop kPersistenceMagic.length bytes)
    rw [begins, magic, rest]

theorem decodeDurableState_exact {bytes : Bytes} {decoded : DurableState} :
    decodeDurableState bytes limits = .ok decoded ↔
      ∃ durable, DurableReads limits durable ∧ container (writeDurable durable) = bytes ∧
        sortedDurable durable = decoded := by
  constructor
  · intro accepted
    obtain ⟨body, some, bounded, rfl⟩ := decoded_container accepted
    obtain ⟨after, reads, ended⟩ := (decodeDurableState_ok some bounded).mp accepted
    obtain ⟨durable, ⟨format, note, fits⟩, rfl, begins, rfl⟩ := (readDurable_decodes limits).written reads
    have size : 0 + (writeDurable durable).length = body.length := beq_iff_eq.mp ended
    obtain rfl := begins.eq_of_length ((Nat.zero_add _).symm.trans size)
    exact ⟨durable, ⟨format, note, fits, bounded⟩, rfl, rfl⟩
  · intro written
    obtain ⟨durable, reads, rfl, rfl⟩ := written
    refine (decodeDurableState_ok (writeDurable_some durable) reads.size).mpr ?_
    have consumes : Consumes (writeDurable durable)
        ({ bytes := writeDurable durable, failure := .corruptPersistence } : ByteReader)
        (Source.skip { bytes := writeDurable durable, failure := .corruptPersistence } (writeDurable durable).length) :=
      ⟨List.prefix_refl _, rfl⟩
    refine ⟨_, (readDurable_decodes limits).reads ⟨reads.formatVersion, reads.integrityNote, reads.fits⟩ consumes, ?_⟩
    exact beq_iff_eq.mpr (Nat.zero_add _)

theorem u64_injective {first second : UInt64} (same : ByteWriter.u64 first = ByteWriter.u64 second) :
    first = second := by
  have other : Consumes (ByteWriter.u64 second) ({ bytes := ByteWriter.u64 second } : ByteReader)
      (Source.skip { bytes := ByteWriter.u64 second } (ByteWriter.u64 second).length) := ⟨List.prefix_refl _, rfl⟩
  have here : Consumes (ByteWriter.u64 first) ({ bytes := ByteWriter.u64 second } : ByteReader)
      (Source.skip { bytes := ByteWriter.u64 second } (ByteWriter.u64 second).length) := same ▸ other
  exact (ByteReader.u64_decodes.determined trivial trivial here other).1

theorem container_prefix {first second : Bytes} (small : first.length < 2 ^ 64) (large : second.length < 2 ^ 64)
    (begins : container first <+: container second) : container first = container second := by
  have parts (body : Bytes) : container body = kPersistenceMagic ++ (ByteWriter.u32 kPersistenceFormatVersion ++
      (ByteWriter.u64 (UInt64.ofNat body.length) ++ (ByteWriter.u64 (fnv1a64 body) ++ body))) := by
    simp [container]
  obtain ⟨others, whole⟩ := begins
  have heads := whole
  rw [parts, parts] at heads
  simp only [List.append_assoc, List.append_cancel_left_eq] at heads
  have lengths := congrArg UInt64.toNat (u64_injective (List.append_inj heads rfl).1)
  rw [UInt64.toNat_ofNat_of_lt' small, UInt64.toNat_ofNat_of_lt' large] at lengths
  have sizes := congrArg List.length whole
  rw [List.length_append, parts, parts] at sizes
  simp only [List.length_append, ByteReader.u64_length, lengths] at sizes
  have none : others = [] := List.length_eq_zero_iff.mp (by omega)
  rw [← whole, none, List.append_nil]

end Exact

/-- A file is decoded exactly if it is the container of a state in bounds, and then to that state; of such a file no
    beginning but itself is decoded, and no continuation. -/
theorem container_format_exact (limits : Limits) :
    (∀ bytes decoded, decodeDurableState bytes limits = .ok decoded ↔
      ∃ durable, DurableReads limits durable ∧ container (writeDurable durable) = bytes ∧
        sortedDurable durable = decoded) ∧
    ∀ bytes others first second, decodeDurableState bytes limits = .ok first →
      decodeDurableState (bytes ++ others) limits = .ok second → others = [] := by
  refine ⟨fun _ _ => decodeDurableState_exact, fun bytes others first second here there => ?_⟩
  have most := limits.maxPersistenceBytes.toNat_lt
  obtain ⟨body, -, small, rfl⟩ := decoded_container here
  obtain ⟨longer, -, large, same⟩ := decoded_container there
  have begins : container body <+: container longer := same ▸ List.prefix_append _ _
  have equal := container_prefix (by omega) (by omega) begins
  rw [equal] at same
  exact List.self_eq_append_right.mp same

inductive LoadFault
  | unopened
  | unsized
  | unread
  deriving DecidableEq

def loadDurableState (files : FileSystem) (path : Text) (limits : Limits) (fault : Option LoadFault) :
    Except Status DurableState :=
  match files path with
  | none => fail .ioFailure (ascii "cannot open persistence file: " ++ path)
  | some bytes => do
    check (fault ≠ some .unopened) .ioFailure (ascii "cannot open persistence file: " ++ path)
    check (fault ≠ some .unsized) .ioFailure (ascii "cannot determine persistence file size: " ++ path)
    check (¬ limits.maxPersistenceBytes + UInt64.ofNat kPersistenceHeaderSize < UInt64.ofNat bytes.length)
      .corruptPersistence (ascii "persistence file exceeds the configured bound")
    check (¬ (bytes ≠ [] ∧ fault = some .unread)) .ioFailure (ascii "failed to read persistence file: " ++ path)
    decodeDurableState bytes limits

/-- One call of `save_durable_state`, and what fails in it. -/
structure Save where
  durable : DurableState
  opens : Bool := true
  faults : Nat → Bool := fun _ => false

namespace Save

variable (save : Save) (path : Text) (files : FileSystem)

def run : List FileSystem × Check := (saveDurableState save.durable path save.opens).run save.faults files

def final : FileSystem := (saveDurableState save.durable path save.opens).final save.faults files

end Save

def Save.removes (save : Save) : Bool := !save.faults 0 && save.faults 1 && !save.faults 2

/-- The files after saves one after the other, and the state of the last that reported success: none where one that
    failed since then has removed the file. -/
def runSaves (path : Text) : List Save → FileSystem → Option DurableState → FileSystem × Option DurableState
  | [], files, held => (files, held)
  | save :: saves, files, held =>
    let held := if (save.run path files).2 = .ok () then some save.durable else if save.removes then none else held
    runSaves path saves (save.final path files) held

section Saves

variable {path : Text} {files : FileSystem}

/-- At every point of a save the path holds what it held before or the whole new container, or nothing between the two
    renames. A save that fails leaves no new container. -/
theorem save_points (save : Save) (path : Text) (before : FileSystem) :
    (saveDurableState save.durable path save.opens).Safe
      (fun files => files path = before path ∨ files path = some (encodeDurableState save.durable) ∨
        (files path = none ∧ save.removes = true))
      (fun result files => result ≠ .ok () → files path = if save.removes then none else before path)
      save.faults before := by
  obtain ⟨durable, opens, faults⟩ := save
  have apart := (temporaryPath_ne path).symm
  generalize removal : Save.removes ⟨durable, opens, faults⟩ = removes
  unfold Save.removes at removal
  dsimp only at removal
  unfold saveDurableState replaceAgain
  dsimp only
  cases writes : faults 0 with
  | true =>
    rw [Script.safe_fault (by exact writes)]
    simp [fail, ← removal, writes]
  | false =>
    rw [Script.safe_write (by exact writes), if_neg (show ¬ true = false from Bool.noConfusion)]
    set written := Function.update before (temporaryPath path) (some (encodeDurableState durable))
    have held : written (temporaryPath path) = some (encodeDurableState durable) := Function.update_self ..
    have untouched : written path = before path := Function.update_of_ne apart ..
    cases renames : faults 1 with
    | false =>
      rw [Script.safe_rename (by exact renames) held]
      simp [untouched]
    | true =>
      rw [Script.safe_fault (by exact renames), if_neg Bool.false_ne_true]
      rcases tried : (Effect.remove path).attempt (faults 2) written with ⟨removed, files⟩
      have kept : files (temporaryPath path) = some (encodeDurableState durable) := by
        have frame := Effect.remove_frame (faults 2) written apart.symm
        rw [tried] at frame
        exact frame.trans held
      have left : files path = if faults 2 then before path else none := by
        have after := congrArg (fun attempt => attempt.2 path) tried
        cases clears : faults 2 with
        | true =>
          rw [clears, Effect.attempt_fault] at after
          exact after.symm.trans untouched
        | false =>
          rw [clears, Effect.attempt_remove] at after
          exact after.symm.trans (Function.update_self ..)
      rw [Script.safe_attempt tried]
      cases again : faults 3 with
      | false =>
        rw [Script.safe_rename (by exact again) kept]
        cases clears : faults 2 <;> simp [left, ← removal, writes, renames, clears, untouched]
      | true =>
        rw [Script.safe_fault (by exact again), if_neg Bool.false_ne_true]
        rcases cleared : (Effect.remove (temporaryPath path)).attempt (faults 4) files with ⟨_, last⟩
        have same : last path = files path := by
          have frame := Effect.remove_frame (faults 4) files apart
          rw [cleared] at frame
          exact frame
        rw [Script.safe_attempt cleared]
        cases clears : faults 2 <;> simp [fail, left, same, ← removal, writes, renames, clears, untouched]

theorem runSaves_kept {saves : List Save} {held : Option DurableState}
    (holds : files path = held.map encodeDurableState) :
    (runSaves path saves files held).1 path = (runSaves path saves files held).2.map encodeDurableState := by
  induction saves generalizing files held with
  | nil => exact holds
  | cons save saves ih =>
    apply ih
    by_cases reported : (save.run path files).2 = .ok ()
    · rw [if_pos reported]
      exact saveDurableState_ok reported
    · have ended := (Script.safe_iff.mp (save_points save path files)).2 reported
      rw [if_neg reported]
      refine Eq.trans ended ?_
      split
      · rfl
      · exact holds

theorem runSaves_held {saves : List Save} {held : Option DurableState} {durable : DurableState}
    (last : (runSaves path saves files held).2 = some durable) :
    held = some durable ∨ ∃ save ∈ saves, durable = save.durable := by
  induction saves generalizing files held with
  | nil => exact .inl last
  | cons save saves ih =>
    rcases ih last with here | ⟨other, member, same⟩
    · split at here
      · exact .inr ⟨save, List.mem_cons_self, (Option.some.inj here).symm⟩
      · split at here
        · cases here
        · exact .inl here
    · exact .inr ⟨other, List.mem_cons_of_mem _ member, same⟩

end Saves

section Loaded

variable {limits : Limits}

structure Loadable (limits : Limits) (durable : DurableState) : Prop where
  format : durable.formatVersion = kPersistenceFormatVersion
  fits : DurableFits limits durable
  canonical : CanonicalDurable durable
  size : (durablePayload durable).length ≤ limits.maxPersistenceBytes.toNat

def noted (durable : DurableState) : DurableState := { durable with integrityNote := productLine }

theorem encodeDurableState_noted {durable : DurableState} (format : durable.formatVersion = kPersistenceFormatVersion) :
    encodeDurableState durable = container (writeDurable (noted durable)) := by
  have body : durablePayload durable = writeDurable (noted durable) := by
    change durablePayload durable = ([ByteWriter.u32 durable.formatVersion, _, _, _, _, _, _, _, _, _] : List Bytes).flatten
    rw [format]
    rfl
  exact congrArg container body

theorem decode_saved {durable : DurableState} (loadable : Loadable limits durable)
    (note : productLine.length ≤ limits.maxStringLength.toNat) :
    decodeDurableState (encodeDurableState durable) limits = .ok (noted durable) := by
  have written := encodeDurableState_noted loadable.format
  have fits := loadable.fits
  have size : (writeDurable (noted durable)).length = (durablePayload durable).length := by
    have lengths := congrArg List.length written
    simpa [encodeDurableState, container] using lengths.symm
  refine decodeDurableState_exact.mpr ⟨noted durable, ⟨loadable.format, note, ?_, size.trans_le loadable.size⟩,
    written.symm, CanonicalDurable.sorted_eq ⟨loadable.canonical.resources, loadable.canonical.requests⟩⟩
  exact ⟨fits.1, fits.2, fits.3, fits.4, fits.5, fits.6, fits.7, fits.8, fits.9⟩

theorem load_saved {files : FileSystem} {path : Text} {durable : DurableState} (loadable : Loadable limits durable)
    (note : productLine.length ≤ limits.maxStringLength.toNat)
    (room : limits.maxPersistenceBytes.toNat + kPersistenceHeaderSize < 2 ^ 64)
    (held : files path = some (encodeDurableState durable)) :
    loadDurableState files path limits none = .ok (noted durable) := by
  have header : kPersistenceHeaderSize = 28 := rfl
  have size : (encodeDurableState durable).length = kPersistenceHeaderSize + (durablePayload durable).length := by
    have magic : kPersistenceMagic.length = 8 := rfl
    simp [encodeDurableState, header, magic]
    omega
  have most : (limits.maxPersistenceBytes + UInt64.ofNat kPersistenceHeaderSize).toNat =
      limits.maxPersistenceBytes.toNat + kPersistenceHeaderSize := by
    rw [UInt64.toNat_add, UInt64.toNat_ofNat_of_lt' (by decide), Nat.mod_eq_of_lt room]
  have bounded := loadable.size
  unfold loadDurableState
  rw [held]
  simp only [check_bind_ok, check_ok, decode_saved loadable note, and_true]
  refine ⟨by decide, by decide, ?_, fun both => by cases both.2⟩
  rw [UInt64.lt_iff_toNat_lt, most, UInt64.toNat_ofNat_of_lt' (by change _ < 2 ^ 64; omega)]
  omega

/-- What a coordinator that is started again finds: a state that it loads, or no file. -/
def Finds (limits : Limits) (path : Text) (files : FileSystem) : Option DurableState → Prop
  | none => files path = none
  | some durable => loadDurableState files path limits none = .ok (noted durable)

theorem Finds.of_held {files : FileSystem} {path : Text} {found : Option DurableState}
    (note : productLine.length ≤ limits.maxStringLength.toNat)
    (room : limits.maxPersistenceBytes.toNat + kPersistenceHeaderSize < 2 ^ 64)
    (loadable : ∀ durable, found = some durable → Loadable limits durable)
    (holds : files path = found.map encodeDurableState) : Finds limits path files found := by
  cases found with
  | none => exact holds
  | some durable => exact load_saved (loadable durable rfl) note room holds

end Loaded

/-- Wherever a coordinator stops, it loads when it is started again. After saves that have ended, that is the state of
    the last that reported success; in the middle of another, also the one it was saving. There is no file only if
    nothing was saved, or a save since then has removed it between its two renames and did not report success. -/
theorem restart_finds_save (limits : Limits) (path : Text) (before : FileSystem) (initial : Option DurableState)
    (saves : List Save) (stopped : Save) (fresh : before path = initial.map encodeDurableState)
    (note : productLine.length ≤ limits.maxStringLength.toNat)
    (room : limits.maxPersistenceBytes.toNat + kPersistenceHeaderSize < 2 ^ 64)
    (loadable : ∀ durable, initial = some durable ∨ (∃ save ∈ saves ++ [stopped], durable = save.durable) →
      Loadable limits durable) :
    let ended := runSaves path saves before initial
    Finds limits path ended.1 ended.2 ∧
      (∀ point ∈ (stopped.run path ended.1).1, Finds limits path point ended.2 ∨
        Finds limits path point (some stopped.durable) ∨ (Finds limits path point none ∧ stopped.removes = true)) ∧
      ((stopped.run path ended.1).2 = .ok () →
        Finds limits path (stopped.final path ended.1) (some stopped.durable)) := by
  intro ended
  have kept : ended.1 path = ended.2.map encodeDurableState := runSaves_kept fresh
  have known (durable : DurableState) (last : ended.2 = some durable) : Loadable limits durable := by
    refine loadable durable ((runSaves_held last).imp_right fun saved => ?_)
    obtain ⟨save, member, same⟩ := saved
    exact ⟨save, List.mem_append_left _ member, same⟩
  have new (durable : DurableState) (last : some stopped.durable = some durable) : Loadable limits durable :=
    loadable durable (.inr ⟨stopped, List.mem_append_right _ List.mem_cons_self, (Option.some.inj last).symm⟩)
  refine ⟨.of_held note room known kept, fun point member => ?_, fun reported => ?_⟩
  · rcases (Script.safe_iff.mp (save_points stopped path ended.1)).1 point member with same | whole | gone
    · exact .inl (.of_held note room known (same.trans kept))
    · exact .inr (.inl (.of_held note room new whole))
    · exact .inr (.inr gone)
  · exact .of_held note room new (saveDurableState_ok reported)

namespace Bench

def save : Save := { durable := contents }

def secondSave : Save := { durable := contents, faults := fun turn => turn == 1 }

end Bench

theorem restart_finds_save_bench :
    let ended := runSaves Bench.destination [Bench.save] (fun _ => none) none
    Finds {} Bench.destination ended.1 (some Bench.contents) ∧
      Finds {} Bench.destination (Bench.secondSave.final Bench.destination ended.1) (some Bench.contents) := by
  have loadable : Loadable {} Bench.contents :=
    ⟨rfl, Bench.contents_fits, Bench.contents_canonical, by decide +kernel⟩
  have known (durable : DurableState)
      (one : none = some durable ∨ ∃ save ∈ [Bench.save] ++ [Bench.secondSave], durable = save.durable) :
      Loadable {} durable := by
    rcases one with none | ⟨save, member, rfl⟩
    · cases none
    · rcases List.mem_pair.mp member with rfl | rfl <;> exact loadable
  obtain ⟨ended, -, saved⟩ := restart_finds_save {} Bench.destination (fun _ => none) none [Bench.save]
    Bench.secondSave rfl (by decide) (by decide) known
  exact ⟨ended, saved (by decide)⟩

end LabScheduler
