import Mathlib.Data.List.Forall2
import Mathlib.Data.List.Perm.Basic

namespace Foundation

variable {α β γ : Type*} {related : α → β → Prop} {xs : List α} {ys : List β}

theorem forall₂_mem_left (pairs : List.Forall₂ related xs ys) {x : α} (member : x ∈ xs) :
    ∃ y ∈ ys, related x y := by
  induction pairs with
  | nil => cases member
  | cons first _ ih =>
    rcases List.mem_cons.mp member with rfl | later
    · exact ⟨_, List.mem_cons_self, first⟩
    · obtain ⟨y, there, holds⟩ := ih later
      exact ⟨y, List.mem_cons_of_mem _ there, holds⟩

theorem forall₂_mem_right (pairs : List.Forall₂ related xs ys) {y : β} (member : y ∈ ys) :
    ∃ x ∈ xs, related x y := by
  induction pairs with
  | nil => cases member
  | cons first _ ih =>
    rcases List.mem_cons.mp member with rfl | later
    · exact ⟨_, List.mem_cons_self, first⟩
    · obtain ⟨x, there, holds⟩ := ih later
      exact ⟨x, List.mem_cons_of_mem _ there, holds⟩

theorem forall₂_getElem? (pairs : List.Forall₂ related xs ys) {i : Nat} {x : α} (here : xs[i]? = some x) :
    ∃ y, ys[i]? = some y ∧ related x y := by
  induction pairs generalizing i with
  | nil => cases here
  | cons first _ ih =>
    cases i with
    | zero =>
      cases here
      exact ⟨_, rfl, first⟩
    | succ i => exact ih here

theorem forall₂_map_eq (pairs : List.Forall₂ related xs ys) {f : α → γ} {g : β → γ}
    (same : ∀ {x y}, related x y → f x = g y) : xs.map f = ys.map g := by
  induction pairs with
  | nil => rfl
  | cons first _ ih => rw [List.map_cons, List.map_cons, ih, same first]

theorem map_zip_fst (f : α → γ) (same : xs.length = ys.length) :
    (xs.zip ys).map (fun pair => f pair.1) = xs.map f := by
  have first : (xs.zip ys).map Prod.fst = xs := List.map_fst_zip (by omega)
  calc (xs.zip ys).map (fun pair => f pair.1) = ((xs.zip ys).map Prod.fst).map f := by simp
    _ = xs.map f := by rw [first]

theorem forall₂_through {R : α → β → Prop} {S : α → γ → Prop} {T : β → γ → Prop} {as : List α} {bs : List β}
    {cs : List γ} (first : List.Forall₂ R as bs) (second : List.Forall₂ S as cs)
    (both : ∀ a b c, R a b → S a c → T b c) : List.Forall₂ T bs cs := by
  induction first generalizing cs with
  | nil =>
    cases second
    exact .nil
  | cons here rest ih =>
    cases second with
    | cons there others => exact .cons (both _ _ _ here there) (ih others)

theorem forall₂_zip {R : α → β → Prop} {S : α → γ → Prop} {as : List α} {bs : List β} {cs : List γ}
    (first : List.Forall₂ R as bs) (second : List.Forall₂ S as cs) :
    List.Forall₂ (fun a pair => R a pair.1 ∧ S a pair.2) as (bs.zip cs) := by
  induction first generalizing cs with
  | nil =>
    cases second
    exact .nil
  | cons here rest ih =>
    cases second with
    | cons there others => exact .cons ⟨here, there⟩ (ih others)

theorem forall_pairs_iff {R : α → α → Prop} :
    (∀ x ∈ xs, ∀ x' ∈ xs, R x x') ↔
      (∀ (i j : Nat) (x x' : α), i ≠ j → xs[i]? = some x → xs[j]? = some x' → R x x') ∧ ∀ x ∈ xs, R x x := by
  constructor
  · intro all
    constructor
    · intro i j x x' _ first second
      exact all x (List.mem_of_getElem? first) x' (List.mem_of_getElem? second)
    · exact fun x member => all x member x member
  · intro both x member x' member'
    obtain ⟨apart, self⟩ := both
    obtain ⟨i, first⟩ := List.getElem?_of_mem member
    obtain ⟨j, second⟩ := List.getElem?_of_mem member'
    by_cases same : i = j
    · rw [same, second] at first
      cases first
      exact self x member
    · exact apart i j x x' same first second

theorem map_eq_map_some_iff {f : α → Option β} :
    xs.map f = ys.map some ↔ ys.length = xs.length ∧ ∀ pair ∈ xs.zip ys, f pair.1 = some pair.2 := by
  induction xs generalizing ys with
  | nil => cases ys <;> simp
  | cons x rest ih =>
    cases ys with
    | nil => simp
    | cons y later =>
      simp only [List.map_cons, List.cons.injEq, ih, List.length_cons, Nat.add_right_cancel_iff, List.zip_cons_cons,
        List.forall_mem_cons]
      exact and_left_comm

section Orders

variable {a b : α}

theorem exists_perm_of_map {f : α → β} (same : ys.Perm (xs.map f)) : ∃ zs : List α, ys = zs.map f ∧ zs.Perm xs := by
  have both := congrFun (congrFun (List.eq_map_comp_perm f) ys) xs
  exact both.mpr same

theorem exists_perm_ne [DecidableEq α] (first : a ∈ xs) (second : b ∈ xs) (differ : a ≠ b) :
    ∃ zs : List α, zs.Perm xs ∧ zs ≠ xs := by
  by_cases same : a :: xs.erase a = xs
  · refine ⟨b :: xs.erase b, (List.perm_cons_erase second).symm, fun other => ?_⟩
    have heads := same.trans other.symm
    exact differ (List.cons.inj heads).1
  · exact ⟨a :: xs.erase a, (List.perm_cons_erase first).symm, same⟩

theorem eq_of_perm_of_same {zs : List α} (perm : zs.Perm xs) (same : ∀ a ∈ xs, ∀ b ∈ xs, a = b) : zs = xs := by
  cases xs with
  | nil => exact perm.eq_nil
  | cons a rest =>
    have constant : a :: rest = List.replicate (rest.length + 1) a :=
      List.eq_replicate_iff.mpr ⟨rfl, fun b member => same b member a List.mem_cons_self⟩
    rw [constant] at perm ⊢
    exact List.perm_replicate.mp perm

end Orders

end Foundation
