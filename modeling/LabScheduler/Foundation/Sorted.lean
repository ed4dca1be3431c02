import Mathlib.Data.List.Sort

namespace Foundation

section Linear

variable {α : Type*} [LinearOrder α] {xs ys : List α}

theorem ascending_insertionSort : (xs.insertionSort (· ≤ ·)).Pairwise (· < ·) ↔ xs.Nodup := by
  have perm := xs.perm_insertionSort (· ≤ ·)
  rw [← perm.nodup_iff]
  constructor
  · intro ascending
    exact ascending.imp fun below => ne_of_lt below
  · intro distinct
    have sorted := xs.pairwise_insertionSort (· ≤ ·)
    exact sorted.imp₂ (fun _ _ below differs => lt_of_le_of_ne below differs) distinct

theorem insertionSort_eq_of_perm (perm : ys.Perm xs) : ys.insertionSort (· ≤ ·) = xs.insertionSort (· ≤ ·) :=
  ((ys.perm_insertionSort _).trans (perm.trans (xs.perm_insertionSort _).symm)).eq_of_pairwise'
    (ys.pairwise_insertionSort _) (xs.pairwise_insertionSort _)

theorem insertionSort_eq_iff : ys.insertionSort (· ≤ ·) = xs.insertionSort (· ≤ ·) ↔ ys.Perm xs := by
  constructor
  · intro same
    have first := ys.perm_insertionSort (· ≤ ·)
    rw [same] at first
    exact first.symm.trans (xs.perm_insertionSort (· ≤ ·))
  · exact insertionSort_eq_of_perm

end Linear

section ByKey

variable {α κ : Type*} [LinearOrder κ] (key : α → κ) {xs : List α}

theorem filter_insertionSort (k : κ) :
    (xs.insertionSort fun a b => key a ≤ key b).filter (key · = k) = xs.filter (key · = k) := by
  have level : (xs.filter (key · = k)).Pairwise fun a b => key a ≤ key b := by
    refine List.pairwise_of_forall_mem_list fun a first b second => ?_
    have first := (List.mem_filter.mp first).2
    have second := (List.mem_filter.mp second).2
    rw [decide_eq_true_eq] at first second
    rw [first, second]
  have kept := (List.sublist_insertionSort level List.filter_sublist).filter (key · = k)
  simp only [List.filter_filter, Bool.and_self] at kept
  have count := ((xs.perm_insertionSort fun a b => key a ≤ key b).filter (key · = k)).length_eq
  exact (kept.eq_of_length count.symm).symm

theorem insertionSort_determined [DecidableEq α] :
    (∀ ys : List α, ys.Perm xs →
        ys.insertionSort (fun a b => key a ≤ key b) = xs.insertionSort fun a b => key a ≤ key b) ↔
      ∀ a ∈ xs, ∀ b ∈ xs, key a = key b → a = b := by
  constructor
  · intro determined a first b second same
    by_contra differ
    have later : b ∈ xs.erase a := (List.mem_erase_of_ne (Ne.symm differ)).mpr second
    have one : (a :: b :: (xs.erase a).erase b).Perm xs :=
      ((List.perm_cons_erase later).symm.cons a).trans (List.perm_cons_erase first).symm
    have sorted := (determined _ one).trans (determined _ ((List.Perm.swap a b _).trans one)).symm
    have level := congrArg (List.filter (key · = key a)) sorted
    rw [filter_insertionSort, filter_insertionSort] at level
    simp only [List.filter_cons, same, decide_true, if_true, List.cons.injEq] at level
    exact differ level.1
  · intro apart ys perm
    have both := (ys.perm_insertionSort fun a b => key a ≤ key b).trans
      (perm.trans (xs.perm_insertionSort fun a b => key a ≤ key b).symm)
    have level : ∀ a b, a ∈ ys.insertionSort (fun a b => key a ≤ key b) →
        b ∈ xs.insertionSort (fun a b => key a ≤ key b) → key a ≤ key b → key b ≤ key a → a = b := by
      intro a b first second below above
      have first := perm.mem_iff.mp ((List.mem_insertionSort _).mp first)
      have second := (List.mem_insertionSort _).mp second
      exact apart a first b second (le_antisymm below above)
    exact both.eq_of_pairwise level (List.pairwise_insertionSort _ ys) (List.pairwise_insertionSort _ xs)

end ByKey

end Foundation
