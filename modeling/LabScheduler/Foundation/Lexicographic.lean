import Mathlib.Data.List.Lex
import Mathlib.Order.Lattice

namespace Foundation

variable {α β : Type*} [LinearOrder α] [LinearOrder β]

theorem append_lt_append_iff {first second rest other : List α} (same : first.length = second.length) :
    first ++ rest < second ++ other ↔ first < second ∨ (first = second ∧ rest < other) := by
  induction first generalizing second with
  | nil =>
    have empty : second = [] := List.length_eq_zero_iff.mp same.symm
    rw [empty]
    simp
  | cons a first ih =>
    cases second with
    | nil => cases same
    | cons b second =>
      have same : first.length = second.length := Nat.succ.inj same
      simp only [List.cons_append, List.cons_lt_cons_iff, ih same, List.cons.injEq]
      constructor
      · intro before
        rcases before with less | ⟨rfl, less | ⟨rfl, less⟩⟩
        · exact .inl (.inl less)
        · exact .inl (.inr ⟨rfl, less⟩)
        · exact .inr ⟨⟨rfl, rfl⟩, less⟩
      · intro before
        rcases before with (less | ⟨rfl, less⟩) | ⟨⟨rfl, rfl⟩, less⟩
        · exact .inl less
        · exact .inr ⟨rfl, .inl less⟩
        · exact .inr ⟨rfl, .inr ⟨rfl, less⟩⟩

theorem append_left_lt_iff {part rest other : List α} : part ++ rest < part ++ other ↔ rest < other := by
  rw [append_lt_append_iff rfl]
  simp

/-- Lists of the same length compare as the concatenations of their elements' texts, when these keep the
    order and have one length. -/
theorem flatMap_lt_iff {text : α → List β} (mono : ∀ a b, text a < text b ↔ a < b) {width : Nat}
    (fixed : ∀ a, (text a).length = width) {as bs : List α} (same : as.length = bs.length) :
    as.flatMap text < bs.flatMap text ↔ as < bs := by
  induction as generalizing bs with
  | nil =>
    have empty : bs = [] := List.length_eq_zero_iff.mp same.symm
    rw [empty]
    simp
  | cons a as ih =>
    cases bs with
    | nil => cases same
    | cons b bs =>
      have same : as.length = bs.length := Nat.succ.inj same
      have injective : text a = text b ↔ a = b := by
        constructor
        · intro equal
          have notLess : ¬ a < b := fun less => (lt_irrefl (text a)) (by
            have texts := (mono a b).mpr less
            rwa [← equal] at texts)
          have notMore : ¬ b < a := fun less => (lt_irrefl (text a)) (by
            have texts := (mono b a).mpr less
            rwa [← equal] at texts)
          exact le_antisymm (not_lt.mp notMore) (not_lt.mp notLess)
        · intro equal
          rw [equal]
      rw [List.flatMap_cons, List.flatMap_cons, append_lt_append_iff ((fixed a).trans (fixed b).symm),
        List.cons_lt_cons_iff, mono, injective, ih same]

end Foundation
