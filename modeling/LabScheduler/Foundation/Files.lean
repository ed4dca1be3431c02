import Mathlib.Logic.Function.Basic

namespace Foundation

variable {ν α ρ : Type*}

abbrev Files (ν α : Type*) := ν → Option α

inductive Effect (ν α : Type*)
  | write (name : ν) (content : α)
  | rename (source target : ν)
  | remove (name : ν)

/-- A program that tries one effect after another and goes on by whether it took place. -/
inductive Script (ν α ρ : Type*)
  | done (result : ρ)
  | attempt (effect : Effect ν α) (next : Bool → Script ν α ρ)

section Effects

variable [DecidableEq ν]

/-- The files after an effect; there is none where the effect cannot take place. -/
def Effect.apply : Effect ν α → Files ν α → Option (Files ν α)
  | .write name content, files => some (Function.update files name (some content))
  | .rename source target, files =>
    (files source).map fun content => Function.update (Function.update files source none) target (some content)
  | .remove name, files => some (Function.update files name none)

/-- One attempt: whether the effect took place, and the files it leaves. -/
def Effect.attempt (effect : Effect ν α) (fault : Bool) (files : Files ν α) : Bool × Files ν α :=
  match effect.apply files with
  | none => (false, files)
  | some after => if fault then (false, files) else (true, after)

section Attempts

variable {files : Files ν α} {name source target : ν} {content : α}

@[simp] theorem Effect.attempt_fault (effect : Effect ν α) : effect.attempt true files = (false, files) := by
  unfold attempt
  cases effect.apply files <;> rfl

@[simp] theorem Effect.attempt_write :
    (Effect.write name content).attempt false files = (true, Function.update files name (some content)) := rfl

@[simp] theorem Effect.attempt_remove :
    (Effect.remove name : Effect ν α).attempt false files = (true, Function.update files name none) := rfl

theorem Effect.attempt_rename (held : files source = some content) :
    (Effect.rename source target).attempt false files =
      (true, Function.update (Function.update files source none) target (some content)) := by
  simp [attempt, apply, held]

theorem Effect.remove_frame {other : ν} (fault : Bool) (files : Files ν α) (apart : other ≠ name) :
    ((Effect.remove name).attempt fault files).2 other = files other := by
  cases fault with
  | true => rw [attempt_fault]
  | false => rw [attempt_remove]; exact Function.update_of_ne apart ..

end Attempts

namespace Script

/-- The files after each attempt, and the result, where `faults` says which attempts fail. -/
def run : Script ν α ρ → (Nat → Bool) → Files ν α → List (Files ν α) × ρ
  | .done result, _, _ => ([], result)
  | .attempt effect next, faults, files =>
    let (happened, after) := effect.attempt (faults 0) files
    let (later, result) := (next happened).run (fun turn => faults (turn + 1)) after
    (after :: later, result)

def final (script : Script ν α ρ) (faults : Nat → Bool) (files : Files ν α) : Files ν α :=
  (script.run faults files).1.getLastD files

/-- `point` holds of the files after every attempt, and `post` of the result and the files at the end: what a crash may
    find, and what the caller may rely on. -/
def Safe (point : Files ν α → Prop) (post : ρ → Files ν α → Prop) : Script ν α ρ → (Nat → Bool) → Files ν α → Prop
  | .done result, _, files => post result files
  | .attempt effect next, faults, files =>
    let (happened, after) := effect.attempt (faults 0) files
    point after ∧ (next happened).Safe point post (fun turn => faults (turn + 1)) after

variable {point : Files ν α → Prop} {post : ρ → Files ν α → Prop} {faults : Nat → Bool} {files after : Files ν α}

@[simp] theorem safe_done {result : ρ} : (done result).Safe point post faults files ↔ post result files := Iff.rfl

theorem safe_attempt {effect : Effect ν α} {next : Bool → Script ν α ρ} {happened : Bool}
    (tried : effect.attempt (faults 0) files = (happened, after)) :
    (attempt effect next).Safe point post faults files ↔
      point after ∧ (next happened).Safe point post (fun turn => faults (turn + 1)) after := by
  rw [Safe, tried]

section Attempted

variable {effect : Effect ν α} {next : Bool → Script ν α ρ} {name source target : ν} {content : α}

theorem safe_fault (fails : faults 0 = true) :
    (attempt effect next).Safe point post faults files ↔
      point files ∧ (next false).Safe point post (fun turn => faults (turn + 1)) files :=
  safe_attempt (by rw [fails, Effect.attempt_fault])

theorem safe_write (works : faults 0 = false) :
    (attempt (.write name content) next).Safe point post faults files ↔
      point (Function.update files name (some content)) ∧
        (next true).Safe point post (fun turn => faults (turn + 1)) (Function.update files name (some content)) :=
  safe_attempt (by rw [works, Effect.attempt_write])

theorem safe_rename (works : faults 0 = false) (held : files source = some content) :
    (attempt (.rename source target) next).Safe point post faults files ↔
      point (Function.update (Function.update files source none) target (some content)) ∧
        (next true).Safe point post (fun turn => faults (turn + 1))
          (Function.update (Function.update files source none) target (some content)) :=
  safe_attempt (by rw [works, Effect.attempt_rename held])

theorem safe_remove (works : faults 0 = false) :
    (attempt (.remove name) next).Safe point post faults files ↔
      point (Function.update files name none) ∧
        (next true).Safe point post (fun turn => faults (turn + 1)) (Function.update files name none) :=
  safe_attempt (by rw [works, Effect.attempt_remove])

end Attempted

/-- The rule is about runs: it speaks of the files at every point and of the result. -/
theorem safe_iff {script : Script ν α ρ} :
    script.Safe point post faults files ↔
      (∀ after ∈ (script.run faults files).1, point after) ∧
        post (script.run faults files).2 (script.final faults files) := by
  induction script generalizing faults files with
  | done result => simp [run, final]
  | attempt effect next ih =>
    rcases tried : effect.attempt (faults 0) files with ⟨happened, after⟩
    rw [safe_attempt tried, ih]
    simp only [run, final, tried, List.forall_mem_cons, List.getLastD_cons, and_assoc]

end Script

end Effects

end Foundation
