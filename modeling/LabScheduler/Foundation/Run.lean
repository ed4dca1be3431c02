import Mathlib.Logic.Relation

namespace Foundation

variable {σ op reply : Type*} (step : σ → op → σ × reply)

def run : σ → List op → σ
  | s, [] => s
  | s, o :: rest => run (step s o).1 rest

/-- Every step of the run meets `ok` in the state it is taken from. -/
def Guarded (ok : σ → op → Prop) : σ → List op → Prop
  | _, [] => True
  | s, o :: rest => ok s o ∧ Guarded ok (step s o).1 rest

instance decidableGuarded (ok : σ → op → Prop) [∀ s o, Decidable (ok s o)] :
    (s : σ) → (operations : List op) → Decidable (Guarded step ok s operations)
  | _, [] => inferInstanceAs (Decidable True)
  | s, o :: rest =>
    have := decidableGuarded ok (step s o).1 rest
    inferInstanceAs (Decidable (ok s o ∧ Guarded step ok (step s o).1 rest))

def replies : σ → List op → List reply
  | _, [] => []
  | s, o :: rest => (step s o).2 :: replies (step s o).1 rest

variable {step}

@[simp] theorem run_nil (s : σ) : run step s [] = s := rfl

@[simp] theorem run_cons (s : σ) (o : op) (rest : List op) :
    run step s (o :: rest) = run step (step s o).1 rest := rfl

theorem run_append (s : σ) (first second : List op) :
    run step s (first ++ second) = run step (run step s first) second := by
  induction first generalizing s with
  | nil => rfl
  | cons o rest ih => exact ih _

theorem replies_append (s : σ) (first second : List op) :
    replies step s (first ++ second) = replies step s first ++ replies step (run step s first) second := by
  induction first generalizing s with
  | nil => rfl
  | cons o rest ih => simp [replies, ih]

theorem guarded_append {ok : σ → op → Prop} {s : σ} {first second : List op} :
    Guarded step ok s (first ++ second) ↔
      Guarded step ok s first ∧ Guarded step ok (run step s first) second := by
  induction first generalizing s with
  | nil => simp [Guarded]
  | cons o rest ih => simp [Guarded, ih, and_assoc]

theorem exists_of_not_guarded {ok : σ → op → Prop} {s : σ} {ops : List op} (unguarded : ¬ Guarded step ok s ops) :
    ∃ first o rest, ops = first ++ o :: rest ∧ ¬ ok (run step s first) o := by
  induction ops generalizing s with
  | nil => exact absurd trivial unguarded
  | cons o rest ih =>
    by_cases here : ok s o
    · have later : ¬ Guarded step ok (step s o).1 rest := fun guarded => unguarded ⟨here, guarded⟩
      obtain ⟨first, other, after, same, blamed⟩ := ih later
      exact ⟨o :: first, other, after, congrArg (o :: ·) same, blamed⟩
    · exact ⟨[], o, rest, rfl, here⟩

theorem Guarded.weaken {ok allowed : σ → op → Prop} {s : σ} {ops : List op}
    (guarded : Guarded step ok s ops) (weaker : ∀ s o, ok s o → allowed s o) :
    Guarded step allowed s ops := by
  induction ops generalizing s with
  | nil => trivial
  | cons o rest ih => exact ⟨weaker _ _ guarded.1, ih guarded.2⟩

theorem guarded_of_forall {ok : σ → op → Prop} (always : ∀ s o, ok s o) (s : σ) (ops : List op) :
    Guarded step ok s ops := by
  induction ops generalizing s with
  | nil => trivial
  | cons o rest ih => exact ⟨always _ _, ih _⟩

/-- Two guards that agree wherever an invariant holds guard the same runs from there. -/
theorem guarded_congr {ok allowed : σ → op → Prop} {invariant : σ → Prop} {s : σ} {ops : List op}
    (preserved : ∀ s o, invariant s → invariant (step s o).1)
    (agree : ∀ s o, invariant s → (ok s o ↔ allowed s o)) (initial : invariant s) :
    Guarded step ok s ops ↔ Guarded step allowed s ops := by
  induction ops generalizing s with
  | nil => exact Iff.rfl
  | cons o rest ih => exact and_congr (agree s o initial) (ih (preserved s o initial))

theorem guarded_replies {good : reply → Prop} {s : σ} {ops : List op} :
    (∀ r ∈ replies step s ops, good r) ↔ Guarded step (fun s o => good (step s o).2) s ops := by
  induction ops generalizing s with
  | nil => simp [replies, Guarded]
  | cons o rest ih => simp [replies, Guarded, ih]

/-- The invariant rule: what every guarded step preserves, every guarded run preserves. -/
theorem run_invariant {ok : σ → op → Prop} {invariant : σ → Prop} {s : σ} {ops : List op}
    (preserved : ∀ s o, invariant s → ok s o → invariant (step s o).1)
    (guarded : Guarded step ok s ops) (initial : invariant s) : invariant (run step s ops) := by
  induction ops generalizing s with
  | nil => exact initial
  | cons o rest ih => exact ih guarded.2 (preserved _ _ initial guarded.1)

theorem Guarded.along {ok allowed : σ → op → Prop} {invariant : σ → Prop} {s : σ} {ops : List op}
    (guarded : Guarded step ok s ops) (preserved : ∀ s o, invariant s → ok s o → invariant (step s o).1)
    (weaker : ∀ s o, invariant s → ok s o → allowed s o) (initial : invariant s) : Guarded step allowed s ops := by
  induction ops generalizing s with
  | nil => trivial
  | cons o rest ih => exact ⟨weaker s o initial guarded.1, ih guarded.2 (preserved s o initial guarded.1)⟩

section Project

variable {τ out : Type*} {other : τ → op → τ × out} {view : σ → τ}
  (follows : ∀ s o, view (step s o).1 = (other (view s) o).1)

include follows

/-- A system that follows another step by step follows its runs. -/
theorem run_project (s : σ) (ops : List op) : view (run step s ops) = run other (view s) ops := by
  induction ops generalizing s with
  | nil => rfl
  | cons o rest ih => rw [run_cons, run_cons, ih, follows]

theorem guarded_project {ok : τ → op → Prop} {s : σ} {ops : List op} :
    Guarded step (fun s o => ok (view s) o) s ops ↔ Guarded other ok (view s) ops := by
  induction ops generalizing s with
  | nil => exact Iff.rfl
  | cons o rest ih =>
    refine and_congr_right fun _ => ?_
    rw [ih, follows]

end Project

/-- The invariant rule with the replies so far as history. -/
theorem history_invariant {ok : σ → op → Prop} {invariant : List reply → σ → Prop} {s : σ} {ops : List op}
    {past : List reply}
    (preserved : ∀ past s o, invariant past s → ok s o → invariant (past ++ [(step s o).2]) (step s o).1)
    (guarded : Guarded step ok s ops) (initial : invariant past s) :
    invariant (past ++ replies step s ops) (run step s ops) := by
  induction ops generalizing s past with
  | nil => simpa [replies] using initial
  | cons o rest ih =>
    have after := ih guarded.2 (preserved past s o initial guarded.1)
    simpa [replies] using after

end Foundation
