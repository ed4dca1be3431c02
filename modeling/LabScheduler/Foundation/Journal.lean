import Mathlib.Data.List.Infix
import Mathlib.Logic.Function.Iterate

namespace Foundation

variable {α ν : Type*}

/-- The records are numbered one after the other, from the number after `n` on. -/
def Successive (number : α → ν) (next : ν → ν) : ν → List α → Prop
  | _, [] => True
  | n, a :: rest => number a = next n ∧ Successive number next (next n) rest

section Successive

variable {number : α → ν} {next : ν → ν} {n : ν} {xs ys : List α}

theorem successive_append :
    Successive number next n (xs ++ ys) ↔
      Successive number next n xs ∧ Successive number next (next^[xs.length] n) ys := by
  induction xs generalizing n with
  | nil => simp [Successive]
  | cons x rest ih =>
    rw [List.cons_append, Successive, Successive, ih, List.length_cons, Function.iterate_succ_apply, and_assoc]

theorem Successive.getElem (numbered : Successive number next n xs) {i : Nat} (bound : i < xs.length) :
    number xs[i] = next^[i + 1] n := by
  induction xs generalizing n i with
  | nil => cases bound
  | cons x rest ih =>
    obtain ⟨first, later⟩ := numbered
    cases i with
    | zero => exact first
    | succ i => exact ih later (Nat.lt_of_succ_lt_succ bound)

/-- While the numbers do not repeat they tell the records apart. -/
theorem Successive.eq_of_number (numbered : Successive number next n xs)
    (distinct : ∀ i j, i < xs.length → j < xs.length → next^[i + 1] n = next^[j + 1] n → i = j)
    {a b : α} (here : a ∈ xs) (there : b ∈ xs) (same : number a = number b) : a = b := by
  obtain ⟨i, first, rfl⟩ := List.getElem_of_mem here
  obtain ⟨j, second, rfl⟩ := List.getElem_of_mem there
  rw [numbered.getElem first, numbered.getElem second] at same
  cases distinct i j first second same
  rfl

end Successive

structure Journal (α ν : Type*) where
  kept : List α
  last : ν

/-- The history grows by `added`, and the log keeps an end of what it kept and of that. -/
structure Journal.Grows (number : α → ν) (next : ν → ν) (added : List α) (before after : Journal α ν) : Prop where
  numbered : Successive number next before.last added
  last : after.last = next^[added.length] before.last
  kept : after.kept <:+ before.kept ++ added

namespace Journal.Grows

variable {number : α → ν} {next : ν → ν} {added more : List α} {before middle after : Journal α ν}

theorem refl (journal : Journal α ν) : Grows number next [] journal journal :=
  ⟨trivial, rfl, (List.append_nil journal.kept).symm ▸ List.suffix_refl _⟩

theorem trans (first : Grows number next added before middle) (second : Grows number next more middle after) :
    Grows number next (added ++ more) before after := by
  refine ⟨successive_append.mpr ⟨first.numbered, first.last ▸ second.numbered⟩, ?_, ?_⟩
  · rw [second.last, first.last, ← Function.iterate_add_apply, List.length_append, Nat.add_comm]
  · rw [← List.append_assoc]
    exact second.kept.trans (List.suffix_append_self_iff.mpr first.kept)

end Journal.Grows

end Foundation
