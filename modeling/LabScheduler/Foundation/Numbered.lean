import Mathlib.Data.List.Basic

namespace Foundation

variable {α : Type*}

theorem pairwise_iff_split {R : α → α → Prop} {xs : List α} :
    xs.Pairwise R ↔
      ∀ before first between second after, xs = before ++ first :: (between ++ second :: after) → R first second := by
  constructor
  · intro pairwise before first between second after split
    rw [split] at pairwise
    have tail := (List.pairwise_append.mp pairwise).2.1
    have ordered := (List.pairwise_cons.mp tail).1
    apply ordered
    exact List.mem_append_right _ List.mem_cons_self
  · intro holds
    induction xs with
    | nil => exact List.Pairwise.nil
    | cons x rest ih =>
      apply List.Pairwise.cons
      · intro later member
        obtain ⟨between, after, split⟩ := List.append_of_mem member
        apply holds [] x between later after
        rw [split, List.nil_append]
      · apply ih
        intro before first between second after split
        apply holds (x :: before) first between second after
        rw [split, List.cons_append]

variable (number : α → Nat) (stores : α → Prop)

inductive Numbered : Nat → List α → Prop
  | nil (stored : Nat) : Numbered stored []
  | stored {stored : Nat} {x : α} {rest : List α} (numbered : number x = stored + 1) (kept : stores x)
      (later : Numbered (stored + 1) rest) : Numbered stored (x :: rest)
  | unstored {stored : Nat} {x : α} {rest : List α} (numbered : number x = stored + 1) (lost : ¬ stores x)
      (later : Numbered stored rest) : Numbered stored (x :: rest)

/-- Between any two processes that speak, the first one included, one has stored its number. -/
def StoredBetween (speaks : α → Prop) (xs : List α) : Prop :=
  ∀ before first between second after, xs = before ++ first :: (between ++ second :: after) →
    speaks first → speaks second → ∃ x ∈ first :: between, stores x

namespace Numbered

variable {number : α → Nat} {stores : α → Prop} {stored : Nat} {xs : List α}

theorem above (numbered : Numbered number stores stored xs) : ∀ x ∈ xs, stored < number x := by
  induction numbered with
  | nil => exact fun _ member => absurd member List.not_mem_nil
  | stored here _ _ ih =>
    intro other member
    rcases List.mem_cons.mp member with rfl | later
    · omega
    · have above := ih other later
      omega
  | unstored here _ _ ih =>
    intro other member
    rcases List.mem_cons.mp member with rfl | later
    · omega
    · exact ih other later

theorem tail {before : List α} (numbered : Numbered number stores stored (before ++ xs)) :
    ∃ later, Numbered number stores later xs := by
  induction before generalizing stored with
  | nil => exact ⟨stored, numbered⟩
  | cons x rest ih =>
    cases numbered with
    | stored _ _ later => exact ih later
    | unstored _ _ later => exact ih later

/-- A process takes the number next to the stored one as long as none before it has stored its own. -/
theorem next_iff {between after : List α} {second : α}
    (numbered : Numbered number stores stored (between ++ second :: after)) :
    number second = stored + 1 ↔ ∀ x ∈ between, ¬ stores x := by
  induction between generalizing stored with
  | nil =>
    have here : number second = stored + 1 := by
      cases numbered with
      | stored here => exact here
      | unstored here => exact here
    exact iff_of_true here fun _ member => absurd member List.not_mem_nil
  | cons x rest ih =>
    cases numbered with
    | stored _ kept later =>
      have above := later.above second (List.mem_append_right _ List.mem_cons_self)
      apply iff_of_false
      · omega
      · exact fun none => none x List.mem_cons_self kept
    | unstored _ lost later =>
      rw [ih later, List.forall_mem_cons]
      exact (and_iff_right lost).symm

theorem same_iff {first second : α} {between after : List α}
    (numbered : Numbered number stores stored (first :: (between ++ second :: after))) :
    number first = number second ↔ ∀ x ∈ first :: between, ¬ stores x := by
  have here : number first = stored + 1 := by
    cases numbered with
    | stored here => exact here
    | unstored here => exact here
  have whole : Numbered number stores stored ((first :: between) ++ second :: after) := numbered
  rw [here, ← whole.next_iff]
  exact eq_comm

theorem distinct_iff {speaks : α → Prop} (numbered : Numbered number stores stored xs) :
    xs.Pairwise (fun first second => speaks first → speaks second → number first ≠ number second) ↔
      StoredBetween stores speaks xs := by
  rw [pairwise_iff_split]
  unfold StoredBetween
  have split {before first between second after} (split : xs = before ++ first :: (between ++ second :: after)) :
      number first ≠ number second ↔ ∃ x ∈ first :: between, stores x := by
    rw [split] at numbered
    obtain ⟨_, later⟩ := numbered.tail
    rw [ne_eq, later.same_iff]
    push Not
    rfl
  constructor
  · intro distinct before first between second after same one other
    exact (split same).mp (distinct before first between second after same one other)
  · intro stored before first between second after same one other
    exact (split same).mpr (stored before first between second after same one other)

end Numbered

end Foundation
