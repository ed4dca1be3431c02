import Mathlib.Data.List.Sort
import Mathlib.Order.Basic
import Mathlib.Algebra.Order.BigOperators.Group.List
import Mathlib.Algebra.Order.Group.Nat
import Mathlib.Algebra.GroupWithZero.Nat

namespace Foundation

variable {κ α β : Type*} [LinearOrder κ]

/-- A finite map held as the list of its records, each carrying its own key, in strictly
    ascending key order. The order is a field, so two tables with the same records are equal. -/
structure Table (key : α → κ) where
  entries : List α
  sorted : entries.Pairwise (fun a b => key a < key b)

namespace Table

variable {key : α → κ}

theorem ext_entries {t u : Table key} (same : t.entries = u.entries) : t = u := by
  cases t
  cases u
  cases same
  rfl

def empty : Table key := ⟨[], List.Pairwise.nil⟩

def size (t : Table key) : Nat := t.entries.length

def isEmpty (t : Table key) : Bool := t.entries.isEmpty

def keys (t : Table key) : List κ := t.entries.map key

def find? (t : Table key) (k : κ) : Option α := t.entries.find? (fun a => key a = k)

def insertEntry (key : α → κ) (a : α) : List α → List α
  | [] => [a]
  | b :: rest =>
    if key a < key b then a :: b :: rest
    else if key a = key b then a :: rest
    else b :: insertEntry key a rest

theorem mem_insertEntry {a x : α} {l : List α} (sorted : l.Pairwise (fun a b => key a < key b)) :
    x ∈ insertEntry key a l ↔ x = a ∨ (x ∈ l ∧ key x ≠ key a) := by
  induction l with
  | nil => simp [insertEntry]
  | cons b rest ih =>
    obtain ⟨below, tail⟩ := List.pairwise_cons.mp sorted
    unfold insertEntry
    split
    · rename_i smaller
      simp only [List.mem_cons]
      constructor
      · rintro (rfl | rfl | member)
        · exact Or.inl rfl
        · exact Or.inr ⟨Or.inl rfl, smaller.ne'⟩
        · exact Or.inr ⟨Or.inr member, (smaller.trans (below x member)).ne'⟩
      · rintro (rfl | ⟨member, _⟩)
        · exact Or.inl rfl
        · exact Or.inr member
    · split
      · rename_i same
        simp only [List.mem_cons]
        constructor
        · rintro (rfl | member)
          · exact Or.inl rfl
          · exact Or.inr ⟨Or.inr member, by rw [same]; exact (below x member).ne'⟩
        · rintro (rfl | ⟨rfl | member, differs⟩)
          · exact Or.inl rfl
          · exact absurd same.symm differs
          · exact Or.inr member
      · rename_i differs
        simp only [List.mem_cons, ih tail]
        constructor
        · rintro (rfl | rfl | ⟨member, other⟩)
          · exact Or.inr ⟨Or.inl rfl, fun same => differs same.symm⟩
          · exact Or.inl rfl
          · exact Or.inr ⟨Or.inr member, other⟩
        · rintro (rfl | ⟨rfl | member, other⟩)
          · exact Or.inr (Or.inl rfl)
          · exact Or.inl rfl
          · exact Or.inr (Or.inr ⟨member, other⟩)

theorem insertEntry_sorted {a : α} {l : List α} (sorted : l.Pairwise (fun a b => key a < key b)) :
    (insertEntry key a l).Pairwise (fun a b => key a < key b) := by
  induction l with
  | nil => simp [insertEntry]
  | cons b rest ih =>
    obtain ⟨below, tail⟩ := List.pairwise_cons.mp sorted
    unfold insertEntry
    split
    · rename_i smaller
      refine List.pairwise_cons.mpr ⟨?_, sorted⟩
      intro x member
      rcases List.mem_cons.mp member with rfl | member
      · exact smaller
      · exact smaller.trans (below x member)
    · split
      · rename_i same
        refine List.pairwise_cons.mpr ⟨?_, tail⟩
        intro x member
        rw [same]
        exact below x member
      · rename_i notSmaller differs
        refine List.pairwise_cons.mpr ⟨?_, ih tail⟩
        intro x member
        rcases (mem_insertEntry tail).mp member with rfl | ⟨member, _⟩
        · exact lt_of_le_of_ne (not_lt.mp notSmaller) (fun same => differs same.symm)
        · exact below x member

/-- `map[key] = value`: inserts the record or replaces the one under its key. -/
def set (t : Table key) (a : α) : Table key := ⟨insertEntry key a t.entries, insertEntry_sorted t.sorted⟩

/-- `map.emplace(key, value)`: a record already under the key stays. -/
def emplace (t : Table key) (a : α) : Table key :=
  match t.find? (key a) with
  | some _ => t
  | none => t.set a

def erase (t : Table key) (k : κ) : Table key :=
  ⟨t.entries.filter (fun a => key a ≠ k), t.sorted.filter _⟩

/-- A loop that rewrites every record in place and leaves its key alone. -/
def mapEntries (t : Table key) (f : α → α) (keeps : ∀ a, key (f a) = key a) : Table key :=
  ⟨t.entries.map f, by
    refine List.pairwise_map.mpr (t.sorted.imp ?_)
    intro a b below
    rw [keeps, keeps]
    exact below⟩

theorem eq_of_key_eq {t : Table key} {a b : α} (ha : a ∈ t.entries) (hb : b ∈ t.entries)
    (same : key a = key b) : a = b := by
  obtain ⟨entries, sorted⟩ := t
  simp only at ha hb
  induction entries with
  | nil => cases ha
  | cons head rest ih =>
    obtain ⟨below, tail⟩ := List.pairwise_cons.mp sorted
    rcases List.mem_cons.mp ha with headA | restA
    · rcases List.mem_cons.mp hb with headB | restB
      · exact headA.trans headB.symm
      · exact absurd (headA ▸ same) (below b restB).ne
    · rcases List.mem_cons.mp hb with headB | restB
      · exact absurd (headB ▸ same) (below a restA).ne'
      · exact ih tail restA restB

theorem find?_eq_some {t : Table key} {k : κ} {a : α} :
    t.find? k = some a ↔ a ∈ t.entries ∧ key a = k := by
  constructor
  · intro found
    exact ⟨List.mem_of_find?_eq_some found, by simpa using List.find?_some found⟩
  · rintro ⟨member, rfl⟩
    cases found : t.find? (key a) with
    | none => simpa using List.find?_eq_none.mp found a member
    | some b =>
      have keyB : key b = key a := by simpa using List.find?_some found
      rw [eq_of_key_eq (List.mem_of_find?_eq_some found) member keyB]

theorem find?_eq_none {t : Table key} {k : κ} : t.find? k = none ↔ ∀ a ∈ t.entries, key a ≠ k := by
  simp [find?, List.find?_eq_none]

theorem mem_of_find? {t : Table key} {k : κ} {a : α} (found : t.find? k = some a) : a ∈ t.entries :=
  (find?_eq_some.mp found).1

theorem key_of_find? {t : Table key} {k : κ} {a : α} (found : t.find? k = some a) : key a = k :=
  (find?_eq_some.mp found).2

theorem find?_of_mem {t : Table key} {a : α} (member : a ∈ t.entries) : t.find? (key a) = some a :=
  find?_eq_some.mpr ⟨member, rfl⟩

theorem mem_set {t : Table key} {a x : α} :
    x ∈ (t.set a).entries ↔ x = a ∨ (x ∈ t.entries ∧ key x ≠ key a) := mem_insertEntry t.sorted

theorem find?_set (t : Table key) (a : α) (k : κ) :
    (t.set a).find? k = if key a = k then some a else t.find? k := by
  split
  · rename_i same
    exact find?_eq_some.mpr ⟨mem_set.mpr (Or.inl rfl), same⟩
  · rename_i differs
    apply Option.ext
    intro x
    rw [find?_eq_some, find?_eq_some, mem_set]
    constructor
    · rintro ⟨rfl | ⟨member, _⟩, rfl⟩
      · exact absurd rfl differs
      · exact ⟨member, rfl⟩
    · rintro ⟨member, rfl⟩
      exact ⟨Or.inr ⟨member, fun same => differs same.symm⟩, rfl⟩

theorem find?_set_self (t : Table key) (a : α) : (t.set a).find? (key a) = some a := by
  simp [find?_set]

theorem find?_set_ne (t : Table key) {a : α} {k : κ} (differs : key a ≠ k) :
    (t.set a).find? k = t.find? k := by
  simp [find?_set, differs]

theorem absent_set {t : Table key} {a b : α} {k : κ} (found : t.find? (key a) = some b)
    (absent : t.find? k = none) : (t.set a).find? k = none := by
  rw [find?_set_ne _ ?_, absent]
  intro same
  rw [same, absent] at found
  exact absurd found nofun

theorem emplace_fresh {t : Table key} {a : α} (fresh : t.find? (key a) = none) :
    t.emplace a = t.set a := by
  simp [emplace, fresh]

theorem emplace_taken {t : Table key} {a b : α} (taken : t.find? (key a) = some b) :
    t.emplace a = t := by
  simp [emplace, taken]

theorem find?_emplace (t : Table key) (a : α) (k : κ) :
    (t.emplace a).find? k = if key a = k then some ((t.find? k).getD a) else t.find? k := by
  cases found : t.find? (key a) with
  | none =>
    rw [emplace_fresh found, find?_set]
    split
    · rename_i same
      rw [← same, found]
      rfl
    · rfl
  | some b =>
    rw [emplace_taken found]
    split
    · rename_i same
      rw [← same, found]
      rfl
    · rfl

theorem length_insertEntry {a : α} {l : List α} (sorted : l.Pairwise (fun a b => key a < key b)) :
    (insertEntry key a l).length = l.length + if ∀ b ∈ l, key b ≠ key a then 1 else 0 := by
  induction l with
  | nil => simp [insertEntry]
  | cons b rest ih =>
    obtain ⟨below, tail⟩ := List.pairwise_cons.mp sorted
    unfold insertEntry
    split
    · rename_i smaller
      have apart : ∀ x ∈ b :: rest, key x ≠ key a := by
        intro x member
        rcases List.mem_cons.mp member with rfl | member
        · exact smaller.ne'
        · exact (smaller.trans (below x member)).ne'
      rw [if_pos apart]
      rfl
    · split
      · rename_i same
        have taken : ¬ ∀ x ∈ b :: rest, key x ≠ key a := fun apart => apart b List.mem_cons_self same.symm
        rw [if_neg taken]
        rfl
      · rename_i differs
        have first : key b ≠ key a := fun same => differs same.symm
        simp only [List.length_cons, ih tail, List.forall_mem_cons, first, ne_eq, not_false_eq_true, true_and]
        omega

theorem size_set (t : Table key) (a : α) :
    (t.set a).size = t.size + if (t.find? (key a)).isNone then 1 else 0 := by
  simp only [Option.isNone_iff_eq_none, find?_eq_none]
  exact length_insertEntry t.sorted

theorem size_emplace_le (t : Table key) (a : α) : (t.emplace a).size ≤ t.size + 1 := by
  cases found : t.find? (key a) with
  | none =>
    rw [emplace_fresh found, size_set, found]
    exact le_rfl
  | some b =>
    rw [emplace_taken found]
    exact Nat.le_succ _

theorem emplace_ne_nil (t : Table key) (a : α) : (t.emplace a).entries ≠ [] := by
  intro vacant
  have absent : (t.emplace a).find? (key a) = none := by
    unfold find?
    rw [vacant]
    rfl
  rw [find?_emplace, if_pos rfl] at absent
  exact absurd absent nofun

theorem mem_emplace {t : Table key} {a x : α} (member : x ∈ (t.emplace a).entries) :
    x = a ∨ x ∈ t.entries := by
  cases found : t.find? (key a) with
  | none =>
    rw [emplace_fresh found] at member
    exact (mem_set.mp member).imp_right And.left
  | some b =>
    rw [emplace_taken found] at member
    exact Or.inr member

theorem mem_erase {t : Table key} {k : κ} {x : α} :
    x ∈ (t.erase k).entries ↔ x ∈ t.entries ∧ key x ≠ k := by
  simp [erase]

theorem find?_erase (t : Table key) (k j : κ) :
    (t.erase k).find? j = if j = k then none else t.find? j := by
  split
  · rename_i same
    rw [find?_eq_none]
    intro a member
    rw [same]
    exact (mem_erase.mp member).2
  · rename_i differs
    apply Option.ext
    intro x
    rw [find?_eq_some, find?_eq_some, mem_erase]
    constructor
    · rintro ⟨⟨member, _⟩, rfl⟩
      exact ⟨member, rfl⟩
    · rintro ⟨member, rfl⟩
      exact ⟨⟨member, differs⟩, rfl⟩

theorem mem_mapEntries {t : Table key} {f : α → α} {keeps : ∀ a, key (f a) = key a} {x : α} :
    x ∈ (t.mapEntries f keeps).entries ↔ ∃ a ∈ t.entries, f a = x := by
  simp [mapEntries]

theorem mapEntries_fixed {t : Table key} {f : α → α} {keeps : ∀ a, key (f a) = key a}
    (fixed : ∀ a ∈ t.entries, f a = a) : t.mapEntries f keeps = t :=
  ext_entries ((List.map_congr_left fixed).trans (List.map_id _))

theorem keys_mapEntries (t : Table key) (f : α → α) (keeps : ∀ a, key (f a) = key a) :
    (t.mapEntries f keeps).keys = t.keys := by
  refine List.map_map.trans (List.map_congr_left fun a _ => ?_)
  exact keeps a

theorem find?_mapEntries (t : Table key) (f : α → α) (keeps : ∀ a, key (f a) = key a) (k : κ) :
    (t.mapEntries f keeps).find? k = (t.find? k).map f := by
  apply Option.ext
  intro x
  rw [find?_eq_some, mem_mapEntries, Option.map_eq_some_iff]
  constructor
  · rintro ⟨⟨a, member, rfl⟩, rfl⟩
    exact ⟨a, by rw [keeps]; exact find?_of_mem member, rfl⟩
  · rintro ⟨a, found, rfl⟩
    exact ⟨⟨a, mem_of_find? found, rfl⟩, (keeps a).trans (key_of_find? found)⟩

@[simp] theorem find?_empty (k : κ) : (empty : Table key).find? k = none := rfl

@[simp] theorem entries_empty : (empty : Table key).entries = [] := rfl

theorem nodup (t : Table key) : t.entries.Nodup :=
  t.sorted.imp fun below same => below.ne (congrArg key same)

theorem keys_nodup (t : Table key) : t.keys.Nodup :=
  List.pairwise_map.mpr (t.sorted.imp fun before => ne_of_lt before)

theorem mem_keys {t : Table key} {k : κ} {a : α} (found : t.find? k = some a) : k ∈ t.keys :=
  List.mem_map.mpr ⟨a, mem_of_find? found, key_of_find? found⟩

theorem mem_keys_iff {t : Table key} {k : κ} : k ∈ t.keys ↔ t.find? k ≠ none := by
  constructor
  · intro member
    obtain ⟨a, there, rfl⟩ := List.mem_map.mp member
    rw [find?_of_mem there]
    nofun
  · intro found
    obtain ⟨a, found⟩ := Option.ne_none_iff_exists'.mp found
    exact mem_keys found

theorem size_le_of_keys {t : Table key} {keys : List κ} (within : ∀ a ∈ t.entries, key a ∈ keys) :
    t.size ≤ keys.length := by
  have subset : t.keys ⊆ keys := by
    intro k member
    obtain ⟨a, there, rfl⟩ := List.mem_map.mp member
    exact within a there
  calc t.size = t.keys.length := (List.length_map key).symm
    _ ≤ keys.length := (List.subperm_of_subset t.keys_nodup subset).length_le

theorem ext_of_mem {t u : Table key} (same : ∀ a, a ∈ t.entries ↔ a ∈ u.entries) : t = u := by
  apply ext_entries
  apply List.Perm.eq_of_pairwise (fun _ _ _ _ h h' => absurd h' (lt_asymm h)) t.sorted u.sorted
  rw [List.perm_ext_iff_of_nodup t.nodup u.nodup]
  exact same

theorem filter_eq {t u : Table key} {test : α → Bool}
    (same : ∀ a, test a → (a ∈ t.entries ↔ a ∈ u.entries)) : t.entries.filter test = u.entries.filter test := by
  let passing (t : Table key) : Table key := ⟨t.entries.filter test, t.sorted.filter _⟩
  have equal : passing t = passing u := by
    refine ext_of_mem fun a => ?_
    rw [List.mem_filter, List.mem_filter]
    exact and_congr_left (same a)
  exact congrArg entries equal

theorem ext_of_find? {t u : Table key} (same : ∀ k, t.find? k = u.find? k) : t = u := by
  apply ext_of_mem
  intro a
  constructor
  · intro member
    exact mem_of_find? ((same (key a)).symm.trans (find?_of_mem member))
  · intro member
    exact mem_of_find? ((same (key a)).trans (find?_of_mem member))

theorem mapEntries_set {t : Table key} {a b : α} {f : α → α} {keeps : ∀ a, key (f a) = key a}
    (found : t.find? (key b) = some a) (same : f b = f a) : (t.set b).mapEntries f keeps = t.mapEntries f keeps := by
  apply ext_of_find?
  intro k
  rw [find?_mapEntries, find?_mapEntries, find?_set]
  split
  · rename_i here
    rw [← here, found, Option.map_some, Option.map_some, same]
  · rfl

theorem set_set {t : Table key} {a b : α} (same : key a = key b) : (t.set a).set b = t.set b := by
  apply ext_of_mem
  intro x
  rw [mem_set, mem_set, mem_set]
  constructor
  · intro member
    rcases member with rfl | ⟨rfl | there, differs⟩
    · exact .inl rfl
    · exact absurd same differs
    · exact .inr ⟨there.1, differs⟩
  · intro member
    rcases member with rfl | ⟨there, differs⟩
    · exact .inl rfl
    · exact .inr ⟨.inr ⟨there, same ▸ differs⟩, differs⟩

theorem set_find?_self {t : Table key} {a : α} (found : t.find? (key a) = some a) : t.set a = t := by
  apply ext_of_mem
  intro x
  rw [mem_set]
  constructor
  · rintro (rfl | ⟨member, _⟩)
    · exact mem_of_find? found
    · exact member
  · intro member
    by_cases same : key x = key a
    · exact Or.inl (eq_of_key_eq member (mem_of_find? found) same)
    · exact Or.inr ⟨member, same⟩

/-- Where a record lies in the table and what writing it changes. -/
theorem set_split (t : Table key) (a : α) :
    ∃ left right, (t.set a).entries = left ++ a :: right ∧
      t.entries = left ++ (t.find? (key a)).toList ++ right := by
  obtain ⟨entries, sorted⟩ := t
  simp only [set, find?]
  induction entries with
  | nil => exact ⟨[], [], rfl, rfl⟩
  | cons b rest ih =>
    obtain ⟨below, tail⟩ := List.pairwise_cons.mp sorted
    unfold insertEntry
    split
    · rename_i smaller
      have absent : (b :: rest).find? (fun x => decide (key x = key a)) = none := by
        rw [List.find?_eq_none]
        intro x member
        rcases List.mem_cons.mp member with rfl | member
        · simpa using smaller.ne'
        · simpa using (smaller.trans (below x member)).ne'
      exact ⟨[], b :: rest, rfl, by rw [absent]; rfl⟩
    · split
      · rename_i same
        exact ⟨[], rest, rfl, by simp [same]⟩
      · rename_i differs
        obtain ⟨left, right, after, before⟩ := ih tail
        refine ⟨b :: left, right, by rw [after]; rfl, ?_⟩
        have skip : ¬ key b = key a := fun same => differs same.symm
        simp only [List.find?_cons, skip, decide_false, List.cons_append]
        rw [← before]

def total (t : Table key) (weight : α → Nat) : Nat := (t.entries.map weight).sum

@[simp] theorem total_empty (weight : α → Nat) : (empty : Table key).total weight = 0 := rfl

theorem total_set_fresh {t : Table key} {a : α} (fresh : t.find? (key a) = none) (weight : α → Nat) :
    (t.set a).total weight = t.total weight + weight a := by
  obtain ⟨left, right, after, before⟩ := t.set_split a
  rw [fresh] at before
  simp only [total, after, before, Option.toList_none, List.append_nil, List.map_append, List.map_cons,
    List.sum_append, List.sum_cons]
  omega

theorem total_set_found {t : Table key} {a b : α} (found : t.find? (key a) = some b) (weight : α → Nat) :
    (t.set a).total weight + weight b = t.total weight + weight a := by
  obtain ⟨left, right, after, before⟩ := t.set_split a
  rw [found] at before
  simp only [total, after, before, Option.toList_some, List.map_append, List.map_cons, List.map_nil,
    List.sum_append, List.sum_cons, List.sum_nil]
  omega

theorem total_congr {t : Table key} {f g : α → Nat} (same : ∀ a ∈ t.entries, f a = g a) :
    t.total f = t.total g := by
  unfold total
  rw [List.map_congr_left same]

theorem total_add (t : Table key) (first second : α → Nat) :
    t.total (fun a => first a + second a) = t.total first + t.total second := List.sum_map_add

theorem total_at {t : Table key} {a : α} [DecidablePred fun b => key b = key a] (member : a ∈ t.entries)
    (weight : α → Nat) :
    t.total (fun b => if key b = key a then weight b else 0) = weight a := by
  obtain ⟨left, right, -, before⟩ := t.set_split a
  rw [find?_of_mem member, Option.toList_some] at before
  have distinct : (t.entries.map key).Nodup := t.keys_nodup
  rw [before, List.map_append, List.map_append, List.map_singleton, List.append_assoc] at distinct
  obtain ⟨-, after, apart⟩ := List.nodup_append.mp distinct
  have none (list : List α) (differs : ∀ b ∈ list, key b ≠ key a) :
      (list.map fun b => if key b = key a then weight b else 0).sum = 0 := by
    rw [List.sum_eq_zero]
    intro n summand
    obtain ⟨b, there, rfl⟩ := List.mem_map.mp summand
    exact if_neg (differs b there)
  have lefts := none left fun b there => apart _ (List.mem_map_of_mem there) _ List.mem_cons_self
  have rights := none right fun b there same => by
    have first := (List.nodup_cons.mp after).1
    exact first (same ▸ List.mem_map_of_mem there)
  rw [total, before, List.map_append, List.map_append, List.map_singleton, List.sum_append, List.sum_append, lefts,
    rights, List.sum_singleton, if_pos rfl, Nat.zero_add, Nat.add_zero]

theorem weight_le_total {t : Table key} {a : α} (member : a ∈ t.entries) (weight : α → Nat) :
    weight a ≤ t.total weight :=
  List.single_le_sum (fun _ _ => Nat.zero_le _) _ (List.mem_map.mpr ⟨a, member, rfl⟩)

theorem total_eq_zero {t : Table key} {weight : α → Nat} (zero : ∀ a ∈ t.entries, weight a = 0) :
    t.total weight = 0 := by
  have same : t.total weight = t.total fun _ => 0 := total_congr zero
  rw [same]
  simp [total]

end Table

end Foundation
