import Mathlib.Data.List.Forall2

namespace Foundation

variable {α σ : Type*}

structure Search (α σ : Type*) where
  /-- What entering a node does. -/
  enter : σ → σ
  halted : σ → Bool
  /-- Whether the rest of a level is given up at an item, under the levels below and the path above. -/
  prunes : List (List α) → List α → α → σ → Bool
  leaf : List α → σ → σ

namespace Search

def level (halted : σ → Bool) (prunes : α → σ → Bool) (visit : α → σ → σ) : List α → σ → σ
  | [], s => s
  | item :: rest, s =>
    if prunes item s then s
    else
      let s := visit item s
      if halted s then s else level halted prunes visit rest s

def explore (search : Search α σ) : List (List α) → List α → σ → σ
  | levels, path, s =>
    let s := search.enter s
    if search.halted s then s
    else
      match levels with
      | [] => search.leaf path s
      | items :: rest =>
        level search.halted (search.prunes rest path)
          (fun item s => search.explore rest (path ++ [item]) s) items s

variable {search : Search α σ}

theorem level_preserves {halted : σ → Bool} {prunes : α → σ → Bool} {visit : α → σ → σ}
    {invariant : σ → Prop} {items : List α} {s : σ}
    (visited : ∀ item ∈ items, ∀ s, invariant s → invariant (visit item s)) (initial : invariant s) :
    invariant (level halted prunes visit items s) := by
  induction items generalizing s with
  | nil => exact initial
  | cons item rest ih =>
    unfold level
    extract_lets after
    have kept : invariant after := visited item (by simp) s initial
    split
    · exact initial
    · split
      · exact kept
      · exact ih (fun other member => visited other (by simp [member])) kept

theorem explore_preserves {invariant : σ → Prop} {levels : List (List α)} {path : List α} {s : σ}
    (entered : ∀ s, invariant s → invariant (search.enter s))
    (reached : ∀ choice, List.Forall₂ (· ∈ ·) choice levels →
      ∀ s, invariant s → invariant (search.leaf (path ++ choice) s))
    (initial : invariant s) : invariant (search.explore levels path s) := by
  induction levels generalizing path s with
  | nil =>
    unfold explore
    extract_lets after
    have kept : invariant after := entered s initial
    split
    · exact kept
    · simpa using reached [] .nil after kept
  | cons items rest ih =>
    unfold explore
    extract_lets after
    have kept : invariant after := entered s initial
    split
    · exact kept
    · refine level_preserves (fun item member s holds => ih (fun choice chosen s holds => ?_) holds) kept
      simpa using reached (item :: choice) (.cons member chosen) s holds

theorem level_congr {halted : σ → Bool} {prunes : α → σ → Bool} {visit other : α → σ → σ} {items : List α}
    (same : ∀ item ∈ items, ∀ s, visit item s = other item s) (s : σ) :
    level halted prunes visit items s = level halted prunes other items s := by
  induction items generalizing s with
  | nil => rfl
  | cons item rest ih =>
    obtain ⟨first, others⟩ := List.forall_mem_cons.mp same
    unfold level
    simp only [first, ih others]

theorem explore_congr {leaf : List α → σ → σ} {levels : List (List α)} {path : List α}
    (same : ∀ choice, List.Forall₂ (· ∈ ·) choice levels →
      ∀ s, search.leaf (path ++ choice) s = leaf (path ++ choice) s) (s : σ) :
    search.explore levels path s = explore { search with leaf := leaf } levels path s := by
  induction levels generalizing path s with
  | nil =>
    unfold explore
    have here := same [] .nil (search.enter s)
    rw [List.append_nil] at here
    simp only [here]
  | cons items rest ih =>
    unfold explore
    have deeper : level search.halted (search.prunes rest path)
        (fun item s => search.explore rest (path ++ [item]) s) items (search.enter s) =
          level search.halted (search.prunes rest path)
            (fun item s => explore { search with leaf := leaf } rest (path ++ [item]) s) items (search.enter s) := by
      refine level_congr (fun item member s => ih (fun choice chosen s => ?_) s) _
      have there := same (item :: choice) (.cons member chosen) s
      rwa [List.append_cons] at there
    simp only [deeper]

/-- What makes an exploration exhaustive: `covered choice` lasts once it holds, a leaf brings it about
    for the choice it is reached by, and at the `node`s the exploration comes to nothing is pruned that is
    not covered already. -/
structure Covers (search : Search α σ) (holds : σ → Prop) (node : List (List α) → List α → Prop)
    (covered : List α → σ → Prop) : Prop where
  enter : ∀ s, holds s → holds (search.enter s)
  leaf : ∀ path s, holds s → holds (search.leaf path s)
  enter_lasts : ∀ choice s, covered choice s → covered choice (search.enter s)
  leaf_lasts : ∀ choice path s, holds s → covered choice s → covered choice (search.leaf path s)
  reached : ∀ path s, holds s → covered path (search.leaf path s)
  next : ∀ item items levels path, node ((item :: items) :: levels) path → node (items :: levels) path
  down : ∀ items levels path, node (items :: levels) path → ∀ item ∈ items, node levels (path ++ [item])
  pruned : ∀ item items levels path s, node ((item :: items) :: levels) path → holds s →
    search.prunes levels path item s = true →
    ∀ other ∈ item :: items, ∀ choice, List.Forall₂ (· ∈ ·) choice levels → covered (path ++ other :: choice) s

namespace Covers

variable {holds : σ → Prop} {node : List (List α) → List α → Prop} {covered : List α → σ → Prop}

theorem explore_holds (covers : search.Covers holds node covered) {levels : List (List α)} {path : List α}
    {s : σ} (initial : holds s) : holds (search.explore levels path s) :=
  explore_preserves covers.enter (fun _ _ s before => covers.leaf _ s before) initial

theorem explore_lasts (covers : search.Covers holds node covered) {levels : List (List α)}
    {path choice : List α} {s : σ} (initial : holds s ∧ covered choice s) :
    holds (search.explore levels path s) ∧ covered choice (search.explore levels path s) := by
  let both (s : σ) : Prop := holds s ∧ covered choice s
  have entered (s : σ) (before : both s) : both (search.enter s) :=
    ⟨covers.enter s before.1, covers.enter_lasts choice s before.2⟩
  have reached (path : List α) (s : σ) (before : both s) : both (search.leaf path s) :=
    ⟨covers.leaf path s before.1, covers.leaf_lasts choice path s before.1 before.2⟩
  have kept : both (search.explore levels path s) :=
    explore_preserves entered (fun _ _ => reached _) initial
  exact kept

theorem level_covers (covers : search.Covers holds node covered) {rest : List (List α)} {path items : List α}
    {s : σ} (here : node (items :: rest) path) (initial : holds s)
    (explored : ∀ item ∈ items, ∀ s, holds s → search.halted (search.explore rest (path ++ [item]) s) = false →
      ∀ choice, List.Forall₂ (· ∈ ·) choice rest →
        covered (path ++ [item] ++ choice) (search.explore rest (path ++ [item]) s))
    (ended : search.halted (level search.halted (search.prunes rest path)
      (fun item s => search.explore rest (path ++ [item]) s) items s) = false)
    {item : α} (member : item ∈ items) {choice : List α} (others : List.Forall₂ (· ∈ ·) choice rest) :
    covered (path ++ item :: choice) (level search.halted (search.prunes rest path)
      (fun item s => search.explore rest (path ++ [item]) s) items s) := by
  induction items generalizing s with
  | nil => cases member
  | cons first later ih =>
    unfold level at ended ⊢
    extract_lets visited at ended
    extract_lets
    split at ended <;> rename_i cut
    · rw [if_pos cut]
      exact covers.pruned first later rest path s here initial cut item member choice others
    · rw [if_neg cut]
      have kept : holds visited := covers.explore_holds initial
      split at ended <;> rename_i halted
      · simp [halted] at ended
      · rw [if_neg halted]
        rcases List.mem_cons.mp member with rfl | following
        · have here : covered (path ++ [item] ++ choice) visited :=
            explored item List.mem_cons_self s initial (by simpa using halted) choice others
          have same : path ++ [item] ++ choice = path ++ item :: choice := List.append_cons .. |>.symm
          rw [same] at here
          let both (s : σ) : Prop := holds s ∧ covered (path ++ item :: choice) s
          have lasts : both (level search.halted (search.prunes rest path)
              (fun item s => search.explore rest (path ++ [item]) s) later visited) :=
            level_preserves (fun _ _ _ before => covers.explore_lasts before) ⟨kept, here⟩
          exact lasts.2
        · exact ih (covers.next first later rest path here) kept
            (fun item member => explored item (List.mem_cons_of_mem _ member)) ended following

/-- An exploration that runs to its end has covered every choice. -/
theorem explore_covers (covers : search.Covers holds node covered) {levels : List (List α)} {path : List α}
    {s : σ} (here : node levels path) (initial : holds s)
    (ended : search.halted (search.explore levels path s) = false) {choice : List α}
    (chosen : List.Forall₂ (· ∈ ·) choice levels) :
    covered (path ++ choice) (search.explore levels path s) := by
  induction levels generalizing path s choice with
  | nil =>
    cases chosen
    unfold explore at ended ⊢
    extract_lets after at ended
    extract_lets
    split <;> rename_i stop
    · simp [stop] at ended
    · rw [List.append_nil]
      exact covers.reached path after (covers.enter s initial)
  | cons items rest ih =>
    obtain _ | ⟨member, others⟩ := chosen
    unfold explore at ended ⊢
    extract_lets after at ended
    extract_lets
    have entered : holds after := covers.enter s initial
    split at ended <;> rename_i stop
    · simp [stop] at ended
    · rw [if_neg stop]
      refine covers.level_covers here entered (fun item member _ kept ended _ chosen => ?_) ended member others
      exact ih (covers.down items rest path here item member) kept ended chosen

end Covers

end Search

end Foundation
