import Mathlib.Data.List.TakeDrop
import Mathlib.Order.Basic

namespace Foundation

variable {α : Type*} {below : α → Bool} {items : List α}

/-- `std::lower_bound` over the `count` items from `first`. -/
def bisect (below : α → Bool) (items : List α) (first count : Nat) : Nat :=
  if 0 < count then
    let half := count / 2
    if items[first + half]?.any below then bisect below items (first + half + 1) (count - half - 1)
    else bisect below items first half
  else first
termination_by count

def Turns (below : α → Bool) (items : List α) : Prop := items.Pairwise fun a b => below b → below a

theorem Turns.at_iff (turns : Turns below items) {i : Nat} (within : i < items.length) :
    items[i]?.any below ↔ i < (items.takeWhile below).length := by
  induction items generalizing i with
  | nil => cases within
  | cons item rest ih =>
    obtain ⟨above, turns⟩ := List.pairwise_cons.mp turns
    by_cases here : below item
    · rw [List.takeWhile_cons_of_pos here, List.length_cons]
      cases i with
      | zero => simp [here]
      | succ i =>
        rw [List.getElem?_cons_succ, ih turns (Nat.lt_of_succ_lt_succ within)]
        omega
    · rw [List.takeWhile_cons_of_neg here]
      refine iff_of_false (fun found => here ?_) (Nat.not_lt_zero _)
      obtain ⟨other, there, answer⟩ := Option.any_eq_true _ _ |>.mp found
      rcases List.mem_cons.mp (List.mem_of_getElem? there) with rfl | later
      · exact answer
      · exact above other later answer

theorem Turns.bisect_eq (turns : Turns below items) {first count : Nat} (within : first + count ≤ items.length)
    (after : first ≤ (items.takeWhile below).length) (before : (items.takeWhile below).length ≤ first + count) :
    bisect below items first count = (items.takeWhile below).length := by
  induction first, count using bisect.induct below items with
  | case1 first count some half answer ih =>
    rw [bisect, if_pos some]
    have middle : first + half < items.length := by omega
    have beyond := (turns.at_iff middle).mp answer
    rw [if_pos answer]
    exact ih (by omega) (by omega) (by omega)
  | case2 first count some half answer ih =>
    rw [bisect, if_pos some]
    have middle : first + half < items.length := by omega
    have short : ¬ first + half < (items.takeWhile below).length := fun inside =>
      answer ((turns.at_iff middle).mpr inside)
    rw [if_neg answer]
    exact ih (by omega) after (by omega)
  | case3 first count none =>
    rw [bisect, if_neg none]
    omega

/-- The search splits a list where a scan from its front splits it. -/
theorem Turns.splitAt_bisect (turns : Turns below items) :
    items.splitAt (bisect below items 0 items.length) = items.span below := by
  have short : (items.takeWhile below).length ≤ items.length := (List.takeWhile_sublist below).length_le
  have turn : bisect below items 0 items.length = (items.takeWhile below).length :=
    turns.bisect_eq (by omega) (by omega) (by omega)
  have parts : items.takeWhile below ++ items.dropWhile below = items := List.takeWhile_append_dropWhile
  rw [turn, List.span_eq_takeWhile_dropWhile, List.splitAt_eq]
  congr 1
  · calc items.take (items.takeWhile below).length
      _ = (items.takeWhile below ++ items.dropWhile below).take (items.takeWhile below).length := by rw [parts]
      _ = items.takeWhile below := List.take_left
  · calc items.drop (items.takeWhile below).length
      _ = (items.takeWhile below ++ items.dropWhile below).drop (items.takeWhile below).length := by rw [parts]
      _ = items.dropWhile below := List.drop_left

end Foundation
