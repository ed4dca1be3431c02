import Mathlib.Data.List.Basic

namespace Foundation

variable {α : Type*} {separator : α}

theorem split_at_separator {first second rest other : List α} (free : separator ∉ first)
    (free' : separator ∉ second) (same : first ++ separator :: rest = second ++ separator :: other) :
    first = second ∧ rest = other := by
  induction first generalizing second with
  | nil =>
    cases second with
    | nil => exact ⟨rfl, (List.cons.inj same).2⟩
    | cons item second =>
      have here : separator = item := (List.cons.inj same).1
      exact absurd (here ▸ List.mem_cons_self) free'
  | cons item first ih =>
    cases second with
    | nil =>
      have here : item = separator := (List.cons.inj same).1
      exact absurd (here ▸ List.mem_cons_self) free
    | cons item' second =>
      obtain ⟨here, later⟩ := List.cons.inj same
      have free : separator ∉ first := fun member => free (List.mem_cons_of_mem _ member)
      have free' : separator ∉ second := fun member => free' (List.mem_cons_of_mem _ member)
      obtain ⟨heads, tails⟩ := ih free free' later
      exact ⟨by rw [here, heads], tails⟩

/-- A list of texts can be read back from their concatenation. -/
theorem terminated_injective {texts others : List (List α)} (free : ∀ text ∈ texts, separator ∉ text)
    (free' : ∀ text ∈ others, separator ∉ text)
    (same : (texts.flatMap fun text => text ++ [separator]) = others.flatMap fun text => text ++ [separator]) :
    texts = others := by
  induction texts generalizing others with
  | nil =>
    cases others with
    | nil => rfl
    | cons other others => simp at same
  | cons text texts ih =>
    cases others with
    | nil => simp at same
    | cons other others =>
      simp only [List.flatMap_cons, List.append_assoc, List.singleton_append] at same
      obtain ⟨heads, tails⟩ := split_at_separator (free text List.mem_cons_self)
        (free' other List.mem_cons_self) same
      have rest : texts = others := ih (fun text member => free text (List.mem_cons_of_mem _ member))
        (fun text member => free' text (List.mem_cons_of_mem _ member)) tails
      rw [heads, rest]

end Foundation
