import LabScheduler.Foundation.Table

namespace Foundation

variable {κ ι α β : Type*} [LinearOrder κ] [LinearOrder ι] {key : α → κ} {index : β → ι}

theorem Table.countP_le {t u : Table key} {p q : α → Bool}
    (within : ∀ b ∈ u.entries, q b → ∃ a ∈ t.entries, key a = key b ∧ p a) :
    u.entries.countP q ≤ t.entries.countP p := by
  have distinct : ((u.entries.filter q).map key).Nodup := u.keys_nodup.sublist (List.filter_sublist.map key)
  have subset : (u.entries.filter q).map key ⊆ (t.entries.filter p).map key := by
    intro k member
    obtain ⟨b, there, rfl⟩ := List.mem_map.mp member
    obtain ⟨there, holds⟩ := List.mem_filter.mp there
    obtain ⟨a, here, same, holds⟩ := within b there holds
    exact List.mem_map.mpr ⟨a, List.mem_filter.mpr ⟨here, holds⟩, same⟩
  have length := (List.subperm_of_subset distinct subset).length_le
  rwa [List.length_map, List.length_map, ← List.countP_eq_length_filter, ← List.countP_eq_length_filter] at length

theorem Table.countP_emplace_le (t : Table key) (a : α) (p : α → Bool) :
    (t.emplace a).entries.countP p ≤ t.entries.countP p + 1 := by
  unfold emplace
  split
  · exact Nat.le_succ _
  · obtain ⟨left, right, after, before⟩ := t.set_split a
    rename_i absent
    rw [absent] at before
    rw [after, before, List.countP_append, List.countP_cons, Option.toList_none, List.append_nil, List.countP_append]
    split <;> omega

theorem Table.total_if (t : Table key) (p : α → Prop) [DecidablePred p] (weight : α → ℕ) :
    t.total (fun a => if p a then weight a else 0) = ((t.entries.filter p).map weight).sum := by
  simp [total, List.sum_map_ite]

theorem Table.total_one (t : Table key) (p : α → Prop) [DecidablePred p] :
    t.total (fun a => if p a then 1 else 0) = t.entries.countP p := by
  rw [total_if, List.countP_eq_length_filter]
  simp

/-- Each of those records of the one table names one of the other, and each of these is named by exactly one. -/
structure Table.Matches (t : Table key) (u : Table index) (p : α → Prop) (q : β → Prop) (name : α → ι) : Prop where
  named : ∀ a ∈ t.entries, p a → ∃ b, u.find? (name a) = some b ∧ q b
  back : ∀ b ∈ u.entries, q b → ∃ a ∈ t.entries, p a ∧ name a = index b
  once : ∀ a ∈ t.entries, p a → ∀ other ∈ t.entries, p other → name a = name other → a = other

namespace Table.Matches

variable {t : Table key} {u : Table index} {p : α → Prop} {q : β → Prop} {name : α → ι} [DecidablePred p]
  [DecidablePred q] (pairs : t.Matches u p q name)

include pairs

theorem names_perm : ((t.entries.filter p).map name).Perm ((u.entries.filter q).map index) := by
  have distinct : t.entries.Nodup := t.keys_nodup.of_map
  have first : ((t.entries.filter p).map name).Nodup := by
    refine (distinct.filter _).map_on fun a here b there same => ?_
    obtain ⟨here, holds⟩ := List.mem_filter.mp here
    obtain ⟨there, other⟩ := List.mem_filter.mp there
    exact pairs.once a here (of_decide_eq_true holds) b there (of_decide_eq_true other) same
  have second : ((u.entries.filter q).map index).Nodup := u.keys_nodup.sublist (List.filter_sublist.map index)
  rw [List.perm_ext_iff_of_nodup first second]
  intro k
  simp only [List.mem_map, List.mem_filter, decide_eq_true_eq]
  constructor
  · rintro ⟨a, ⟨member, holds⟩, rfl⟩
    obtain ⟨b, found, holds⟩ := pairs.named a member holds
    exact ⟨b, ⟨mem_of_find? found, holds⟩, key_of_find? found⟩
  · rintro ⟨b, ⟨member, holds⟩, rfl⟩
    obtain ⟨a, there, holds, names⟩ := pairs.back b member holds
    exact ⟨a, ⟨there, holds⟩, names⟩

theorem count_eq : t.entries.countP p = u.entries.countP q := by
  have length := pairs.names_perm.length_eq
  rwa [List.length_map, List.length_map, ← List.countP_eq_length_filter, ← List.countP_eq_length_filter] at length

theorem total_eq {weight : α → ℕ} {other : β → ℕ}
    (agree : ∀ a ∈ t.entries, p a → ∀ b, u.find? (name a) = some b → weight a = other b) :
    t.total (fun a => if p a then weight a else 0) = u.total fun b => if q b then other b else 0 := by
  let value (k : ι) : ℕ := (u.find? k).elim 0 other
  have left : (t.entries.filter p).map weight = ((t.entries.filter p).map name).map value := by
    rw [List.map_map]
    refine List.map_congr_left fun a member => ?_
    obtain ⟨there, holds⟩ := List.mem_filter.mp member
    obtain ⟨b, found, -⟩ := pairs.named a there (of_decide_eq_true holds)
    exact (agree a there (of_decide_eq_true holds) b found).trans (by simp [value, found])
  have right : (u.entries.filter q).map other = ((u.entries.filter q).map index).map value := by
    rw [List.map_map]
    refine List.map_congr_left fun b member => ?_
    simp [value, find?_of_mem (List.mem_of_mem_filter member)]
  rw [total_if, total_if, left, right, (pairs.names_perm.map value).sum_eq]

end Table.Matches

end Foundation
