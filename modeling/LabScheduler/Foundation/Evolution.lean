import LabScheduler.Foundation.Table

namespace Foundation

variable {κ α : Type*} [LinearOrder κ] {key : α → κ}

/-- No record is taken away, and each one changes as `R` allows. -/
structure Table.Extends (R : α → α → Prop) (t u : Table key) : Prop where
  later : ∀ {k a}, t.find? k = some a → ∃ b, u.find? k = some b ∧ R a b

structure Table.Evolves (R : α → α → Prop) (t u : Table key) : Prop extends Table.Extends R t u where
  absent : ∀ {k}, t.find? k = none → u.find? k = none

namespace Table.Extends

variable {R S : α → α → Prop} {t u v : Table key}

theorem mono (extends' : Extends R t u) (weaker : ∀ {a b}, R a b → S a b) : Extends S t u := by
  constructor
  intro k a found
  obtain ⟨b, there, related⟩ := extends'.later found
  exact ⟨b, there, weaker related⟩

theorem refl (reflexive : ∀ a, R a a) (t : Table key) : Extends R t t :=
  ⟨fun found => ⟨_, found, reflexive _⟩⟩

theorem trans (transitive : ∀ {a b c}, R a b → R b c → R a c) (first : Extends R t u) (second : Extends R u v) :
    Extends R t v := by
  constructor
  intro k a found
  obtain ⟨b, there, ab⟩ := first.later found
  obtain ⟨c, here, bc⟩ := second.later there
  exact ⟨c, here, transitive ab bc⟩

theorem to_mem (extends' : Extends R t u) {a : α} (member : a ∈ t.entries) :
    ∃ b ∈ u.entries, key b = key a ∧ R a b := by
  have found := find?_of_mem member
  obtain ⟨b, there, related⟩ := extends'.later found
  exact ⟨b, mem_of_find? there, key_of_find? there, related⟩

theorem present (extends' : Extends R t u) {k : κ} (present : t.find? k ≠ none) : u.find? k ≠ none := by
  intro absent
  cases before : t.find? k with
  | none => exact present before
  | some a =>
    obtain ⟨b, there, -⟩ := extends'.later before
    rw [there] at absent
    cases absent

theorem nonempty (extends' : Extends R t u) (some : t.entries ≠ []) : u.entries ≠ [] := by
  obtain ⟨a, member⟩ := List.exists_mem_of_ne_nil _ some
  obtain ⟨b, there, -⟩ := extends'.to_mem member
  exact List.ne_nil_of_mem there

theorem emplace (reflexive : ∀ a, R a a) (t : Table key) (b : α) : Extends R t (t.emplace b) := by
  constructor
  intro k a found
  refine ⟨a, ?_, reflexive a⟩
  rw [find?_emplace, found]
  split <;> rfl

end Table.Extends

section Fill

variable {σ β : Type*} (table : σ → Table key) {turn : σ → β → σ} {identity : β → κ}
  (writes : ∀ s item, ∃ a, key a = identity item ∧ table (turn s item) = (table s).emplace a)

include writes

theorem Table.extends_fill (items : List β) (s : σ) : Table.Extends Eq (table s) (table (items.foldl turn s)) := by
  induction items generalizing s with
  | nil => exact .refl Eq.refl _
  | cons item rest ih =>
    obtain ⟨a, -, written⟩ := writes s item
    have first : Table.Extends Eq (table s) (table (turn s item)) := by
      rw [written]
      exact .emplace Eq.refl ..
    exact first.trans Eq.trans (ih _)

theorem Table.present_fill (items : List β) (s : σ) {item : β} (member : item ∈ items) :
    (table (items.foldl turn s)).find? (identity item) ≠ none := by
  induction items generalizing s with
  | nil => cases member
  | cons first rest ih =>
    rcases List.mem_cons.mp member with rfl | later
    · obtain ⟨a, same, written⟩ := writes s item
      have here : (table (turn s item)).find? (identity item) ≠ none := by
        rw [written, find?_emplace, if_pos same]
        nofun
      exact (Table.extends_fill table writes rest (turn s item)).present here
    · exact ih _ later

end Fill

section Refill

variable {f : α → α}

theorem Table.mem_refill (items : List α) (table : Table key) (keeps : ∀ a, key (f a) = key a)
    (distinct : (items.map key).Nodup) (fresh : ∀ item ∈ items, table.find? (key item) = none) {a : α} :
    a ∈ (items.foldl (fun table item => table.emplace (f item)) table).entries ↔
      a ∈ table.entries ∨ ∃ item ∈ items, f item = a := by
  induction items generalizing table with
  | nil => simp
  | cons item rest ih =>
    obtain ⟨new, distinct⟩ := List.nodup_cons.mp distinct
    have absent : table.find? (key (f item)) = none := by
      rw [keeps]
      exact fresh item List.mem_cons_self
    have written : table.emplace (f item) = table.set (f item) := emplace_fresh absent
    have later : ∀ other ∈ rest, (table.set (f item)).find? (key other) = none := by
      intro other member
      have apart : key (f item) ≠ key other := fun same =>
        new (List.mem_map.mpr ⟨other, member, same.symm.trans (keeps item)⟩)
      rw [find?_set_ne _ apart]
      exact fresh other (List.mem_cons_of_mem _ member)
    have before : ∀ b ∈ table.entries, key b ≠ key (f item) := find?_eq_none.mp absent
    rw [List.foldl_cons, written, ih _ distinct later, mem_set, List.exists_mem_cons_iff]
    constructor
    · rintro ((rfl | ⟨member, -⟩) | later)
      · exact .inr (.inl rfl)
      · exact .inl member
      · exact .inr (.inr later)
    · rintro (member | rfl | later)
      · exact .inl (.inr ⟨member, before a member⟩)
      · exact .inl (.inl rfl)
      · exact .inr later

theorem Table.refill (table : Table key) (keeps : ∀ a, key (f a) = key a) :
    table.entries.foldl (fun table item => table.emplace (f item)) empty = table.mapEntries f keeps := by
  apply ext_of_mem
  intro a
  rw [mem_refill _ _ keeps table.keys_nodup fun _ _ => rfl, mem_mapEntries]
  simp

end Refill

namespace Table.Evolves

variable {R : α → α → Prop} {t u v : Table key}

theorem mono {S : α → α → Prop} (evolves : Evolves R t u) (weaker : ∀ {a b}, R a b → S a b) : Evolves S t u :=
  ⟨evolves.toExtends.mono weaker, evolves.absent⟩

theorem earlier (evolves : Evolves R t u) {k : κ} {b : α} (found : u.find? k = some b) :
    ∃ a, t.find? k = some a ∧ R a b := by
  cases before : t.find? k with
  | none =>
    have absent := evolves.absent before
    rw [absent] at found
    cases found
  | some a =>
    obtain ⟨c, there, related⟩ := evolves.later before
    rw [there] at found
    cases found
    exact ⟨a, rfl, related⟩

theorem of_mem (evolves : Evolves R t u) {b : α} (member : b ∈ u.entries) :
    ∃ a ∈ t.entries, key a = key b ∧ R a b := by
  have found := find?_of_mem member
  obtain ⟨a, there, related⟩ := evolves.earlier found
  exact ⟨a, mem_of_find? there, key_of_find? there, related⟩

theorem size_le (evolves : Evolves R t u) : u.size ≤ t.size := by
  have keys : u.size ≤ t.keys.length := by
    refine size_le_of_keys fun b member => ?_
    obtain ⟨a, there, same, -⟩ := evolves.of_mem member
    exact List.mem_map.mpr ⟨a, there, same⟩
  exact keys.trans (List.length_map key).le

theorem refl (reflexive : ∀ a, R a a) (t : Table key) : Evolves R t t :=
  ⟨.refl reflexive t, fun absent => absent⟩

theorem of_eq (reflexive : ∀ a, R a a) (same : u = t) : Evolves R t u := same ▸ refl reflexive t

theorem trans (transitive : ∀ {a b c}, R a b → R b c → R a c) (first : Evolves R t u) (second : Evolves R u v) :
    Evolves R t v :=
  ⟨first.toExtends.trans transitive second.toExtends, fun absent => second.absent (first.absent absent)⟩

theorem set (reflexive : ∀ a, R a a) {a b : α} (found : t.find? (key b) = some a) (related : R a b) :
    Evolves R t (t.set b) := by
  refine ⟨⟨?_⟩, ?_⟩
  · intro k c there
    rw [find?_set]
    by_cases same : key b = k
    · rw [if_pos same]
      rw [same, there] at found
      cases found
      exact ⟨b, rfl, related⟩
    · rw [if_neg same]
      exact ⟨c, there, reflexive c⟩
  · intro k absent
    exact absent_set found absent

theorem map {f : α → α} (each : ∀ k, u.find? k = (t.find? k).map f) (related : ∀ a, R a (f a)) :
    Evolves R t u := by
  refine ⟨⟨?_⟩, ?_⟩
  · intro k a found
    exact ⟨f a, by rw [each, found]; rfl, related a⟩
  · intro k absent
    rw [each, absent]
    rfl

end Table.Evolves

end Foundation
