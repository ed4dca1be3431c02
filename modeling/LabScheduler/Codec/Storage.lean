import LabScheduler.Codec.Persistence
import LabScheduler.Foundation.Files

namespace LabScheduler

open Foundation

abbrev FileSystem := Files Text Bytes

/-- The temporary file of a save, in the directory of its destination. -/
def temporaryPath (path : Text) : Text := path ++ ascii ".part"

/-- The end of a save whose first rename failed: a second one, and the temporary file is cleared if that fails too. -/
def replaceAgain (temporary path : Text) : Script Text Bytes Check :=
  .attempt (.rename temporary path) fun renamed =>
    if renamed then .done (.ok ())
    else
      .attempt (.remove temporary) fun _ =>
        .done (fail .ioFailure (ascii "failed to replace persistence file: " ++ path))

/-- `save_durable_state`, where `opens` says if a write that fails has opened its file. With `flush_to_disk` the
    temporary file is read once more, which no path shows. -/
def saveDurableState (durable : DurableState) (path : Text) (opens : Bool) : Script Text Bytes Check :=
  let temporary := temporaryPath path
  .attempt (.write temporary (encodeDurableState durable)) fun written =>
    if written = false then
      .done (fail .ioFailure <|
        (if opens then ascii "failed to write persistence file: "
          else ascii "cannot open persistence file for writing: ") ++ temporary)
    else
      .attempt (.rename temporary path) fun renamed =>
        if renamed then .done (.ok ())
        else
          -- whether the destination could be removed is not looked at
          .attempt (.remove path) fun _ => replaceAgain temporary path

/-- At every point of a save the path holds what it held before or the whole new container, and after a save that fails
    what it held before. -/
structure LosesNothing (durable : DurableState) (path : Text) (opens : Bool) (faults : Nat → Bool)
    (before : FileSystem) : Prop where
  whole : ∀ files ∈ ((saveDurableState durable path opens).run faults before).1,
    files path = before path ∨ files path = some (encodeDurableState durable)
  kept : ((saveDurableState durable path opens).run faults before).2 ≠ .ok () →
    (saveDurableState durable path opens).final faults before path = before path

section Save

variable {durable : DurableState} {path : Text} {opens : Bool} {faults : Nat → Bool} {before : FileSystem}

theorem temporaryPath_ne (path : Text) : temporaryPath path ≠ path := by
  intro same
  have lengths := congrArg List.length same
  have part : (ascii ".part").length = 5 := by decide
  rw [temporaryPath, List.length_append, part] at lengths
  omega

theorem losesNothing_iff : LosesNothing durable path opens faults before ↔
    (saveDurableState durable path opens).Safe
      (fun files => files path = before path ∨ files path = some (encodeDurableState durable))
      (fun result files => result ≠ .ok () → files path = before path) faults before := by
  rw [Script.safe_iff]
  exact ⟨fun loses => ⟨loses.whole, loses.kept⟩, fun both => ⟨both.1, both.2⟩⟩

theorem replaceAgain_safe {files : FileSystem} {bytes : Bytes} (faults : Nat → Bool)
    (held : files (temporaryPath path) = some bytes) (same : files path = before path) :
    (replaceAgain (temporaryPath path) path).Safe
      (fun files => files path = before path ∨ files path = some bytes)
      (fun result files => result ≠ .ok () → files path = before path) faults files := by
  have apart := (temporaryPath_ne path).symm
  unfold replaceAgain
  cases renames : faults 0 with
  | false =>
    rw [Script.safe_rename (by exact renames) held]
    simp
  | true =>
    rw [Script.safe_fault (by exact renames), if_neg (by decide)]
    refine ⟨.inl same, ?_⟩
    cases removes : faults 1 with
    | true =>
      rw [Script.safe_fault (by exact removes)]
      exact ⟨.inl same, fun _ => same⟩
    | false =>
      rw [Script.safe_remove (by exact removes)]
      have kept : Function.update files (temporaryPath path) none path = before path := by
        rw [Function.update_of_ne apart, same]
      exact ⟨.inl kept, fun _ => kept⟩

/-- A save can lose what the path held exactly where its first rename fails and the file is then removed. -/
theorem save_loses_nothing (durable : DurableState) (path : Text) (opens : Bool) (faults : Nat → Bool)
    (before : FileSystem) :
    LosesNothing durable path opens faults before ↔
      ¬ (faults 0 = false ∧ faults 1 = true ∧ faults 2 = false ∧ before path ≠ none) := by
  have apart := (temporaryPath_ne path).symm
  rw [losesNothing_iff]
  unfold saveDurableState
  cases writes : faults 0 with
  | true =>
    rw [Script.safe_fault (by exact writes)]
    simp
  | false =>
    rw [Script.safe_write (by exact writes), if_neg (by decide)]
    set written := Function.update before (temporaryPath path) (some (encodeDurableState durable))
    have held : written (temporaryPath path) = some (encodeDurableState durable) := Function.update_self ..
    have untouched : written path = before path := Function.update_of_ne apart ..
    cases renames : faults 1 with
    | false =>
      rw [Script.safe_rename (by exact renames) held]
      simp [untouched]
    | true =>
      rw [Script.safe_fault (by exact renames), if_neg (by decide)]
      cases removes : faults 2 with
      | true =>
        rw [Script.safe_fault (by exact removes)]
        simp [untouched, replaceAgain_safe _ held untouched]
      | false =>
        rw [Script.safe_remove (by exact removes)]
        set removed := Function.update written path none
        have kept : removed (temporaryPath path) = some (encodeDurableState durable) :=
          (Function.update_of_ne apart.symm ..).trans held
        have gone : removed path = none := Function.update_self ..
        constructor
        · rintro ⟨-, -, point, -⟩ ⟨-, -, -, present⟩
          rw [gone] at point
          rcases point with prior | whole
          · exact present prior.symm
          · exact Option.some_ne_none _ whole.symm
        · intro spared
          have absent : before path = none := by simpa using spared
          have same : removed path = before path := by rw [gone, absent]
          exact ⟨.inl untouched, .inl untouched, .inl same, replaceAgain_safe _ kept same⟩

/-- After a save that succeeds the path holds the new container. -/
theorem saveDurableState_ok (saved : ((saveDurableState durable path opens).run faults before).2 = .ok ()) :
    (saveDurableState durable path opens).final faults before path = some (encodeDurableState durable) := by
  have apart := (temporaryPath_ne path).symm
  suffices safe : (saveDurableState durable path opens).Safe (fun _ => True)
      (fun result files => result = .ok () → files path = some (encodeDurableState durable)) faults before from
    (Script.safe_iff.mp safe).2 saved
  unfold saveDurableState replaceAgain
  cases writes : faults 0 with
  | true =>
    rw [Script.safe_fault (by exact writes)]
    simp [fail]
  | false =>
    rw [Script.safe_write (by exact writes), if_neg (by decide)]
    set written := Function.update before (temporaryPath path) (some (encodeDurableState durable))
    have held : written (temporaryPath path) = some (encodeDurableState durable) := Function.update_self ..
    cases renames : faults 1 with
    | false =>
      rw [Script.safe_rename (by exact renames) held]
      simp
    | true =>
      rw [Script.safe_fault (by exact renames), if_neg (by decide)]
      rcases tried : (Effect.remove path).attempt (faults 2) written with ⟨removed, files⟩
      have kept : files (temporaryPath path) = some (encodeDurableState durable) := by
        have frame := Effect.remove_frame (faults 2) written apart.symm
        rw [tried] at frame
        exact frame.trans held
      rw [Script.safe_attempt tried]
      cases again : faults 3 with
      | false =>
        rw [Script.safe_rename (by exact again) kept]
        simp
      | true =>
        rw [Script.safe_fault (by exact again), if_neg (by decide)]
        refine ⟨trivial, trivial, trivial, trivial, trivial, fun refused => ?_⟩
        cases refused

end Save

namespace Bench

def destination : Text := ascii "state.bin"

def onDisk : FileSystem := fun name => if name = destination then some [1] else none

def unrenamed : Nat → Bool := fun turn => turn == 1 || turn == 3

end Bench

/-- A save that cannot rename reports an error, and the only copy of the state is gone. -/
theorem replaced_file_lost :
    let save := saveDurableState Bench.contents Bench.destination true
    Bench.onDisk Bench.destination = some [1] ∧ (save.run Bench.unrenamed Bench.onDisk).2 ≠ .ok () ∧
      save.final Bench.unrenamed Bench.onDisk Bench.destination = none ∧
        ¬ LosesNothing Bench.contents Bench.destination true Bench.unrenamed Bench.onDisk := by
  have failed : ((saveDurableState Bench.contents Bench.destination true).run Bench.unrenamed Bench.onDisk).2 ≠
      .ok () := by decide
  have lost : (saveDurableState Bench.contents Bench.destination true).final Bench.unrenamed Bench.onDisk
      Bench.destination = none := by decide
  refine ⟨rfl, failed, lost, fun loses => ?_⟩
  have kept := loses.kept failed
  rw [lost] at kept
  exact absurd kept (by decide)

end LabScheduler
