import LabScheduler.Foundation.Evolution
import Mathlib.Data.UInt

namespace Foundation

variable {κ α : Type*} [LinearOrder κ] {key : α → κ} {stamp : α → UInt64} {live : α → Prop}

theorem Table.eq_of_mem_of_key {t : Table key} {a b : α} (memberA : a ∈ t.entries) (memberB : b ∈ t.entries)
    (same : key a = key b) : a = b := by
  have found := find?_of_mem memberA
  rw [same, find?_of_mem memberB] at found
  exact (Option.some.inj found).symm

def Table.Distinct (stamp : α → UInt64) (t : Table key) : Prop :=
  ∀ a ∈ t.entries, ∀ b ∈ t.entries, stamp a = stamp b → a = b

namespace Table.Distinct

variable {t u : Table key}

theorem evolves (distinct : Distinct stamp t) (evolves : Evolves (fun a b => stamp b = stamp a) t u) :
    Distinct stamp u := by
  intro a memberA b memberB same
  obtain ⟨x, thereX, keyX, sameX⟩ := evolves.of_mem memberA
  obtain ⟨y, thereY, keyY, sameY⟩ := evolves.of_mem memberB
  have equal : x = y := distinct x thereX y thereY (sameX.symm.trans (same.trans sameY))
  have keys : key a = key b := by rw [← keyX, ← keyY, equal]
  exact eq_of_mem_of_key memberA memberB keys

theorem emplace {b : α} (distinct : Distinct stamp t) (unused : ∀ a ∈ t.entries, stamp a ≠ stamp b) :
    Distinct stamp (t.emplace b) := by
  intro x memberX y memberY same
  rcases mem_emplace memberX with rfl | thereX
  · rcases mem_emplace memberY with rfl | thereY
    · rfl
    · exact absurd same.symm (unused y thereY)
  · rcases mem_emplace memberY with rfl | thereY
    · exact absurd same (unused x thereX)
    · exact distinct x thereX y thereY same

end Table.Distinct

/-- Every stamp was drawn from the counter, or is one of those that were brought back. -/
def Known (stamp : α → UInt64) (restored : List UInt64) (t : Table key) (c : UInt64) : Prop :=
  ∀ a ∈ t.entries, (stamp a).toNat ≤ c.toNat ∨ stamp a ∈ restored

/-- The stamps of a table are known, and none is carried twice. -/
structure Accounted (stamp : α → UInt64) (restored : List UInt64) (t : Table key) (c : UInt64) : Prop where
  distinct : t.Distinct stamp
  known : Known stamp restored t c

namespace Accounted

variable {t u : Table key} {c : UInt64} {restored : List UInt64}

theorem empty (none : t.entries = []) : Accounted stamp restored t c := by
  constructor
  · intro a member
    rw [none] at member
    cases member
  · intro a member
    rw [none] at member
    cases member

theorem evolves (accounted : Accounted stamp restored t c)
    (evolves : Table.Evolves (fun a b => stamp b = stamp a) t u) : Accounted stamp restored u c := by
  refine ⟨accounted.distinct.evolves evolves, fun b member => ?_⟩
  obtain ⟨a, there, -, same⟩ := evolves.of_mem member
  rw [same]
  exact accounted.known a there

theorem add {b : α} (accounted : Accounted stamp restored t c) (stamped : stamp b = c + 1)
    (room : c.toNat + 1 < 2 ^ 64) (new : c + 1 ∉ restored) : Accounted stamp restored (t.emplace b) (c + 1) := by
  have next : (c + 1).toNat = c.toNat + 1 := by
    have one : (1 : UInt64).toNat = 1 := rfl
    rw [UInt64.toNat_add, one]
    omega
  constructor
  · refine accounted.distinct.emplace fun a member same => ?_
    rw [stamped] at same
    rcases accounted.known a member with drawn | back
    · rw [same] at drawn
      omega
    · exact new (same ▸ back)
  · intro a member
    rcases Table.mem_emplace member with rfl | there
    · left
      rw [stamped]
    · refine (accounted.known a there).imp_left fun drawn => ?_
      omega

theorem waste (accounted : Accounted stamp restored t c) (room : c.toNat + 1 < 2 ^ 64) :
    Accounted stamp restored t (c + 1) := by
  refine ⟨accounted.distinct, fun a member => (accounted.known a member).imp_left fun drawn => ?_⟩
  have one : (1 : UInt64).toNat = 1 := rfl
  rw [UInt64.toNat_add, one]
  omega

end Accounted

def Advances (stamp : α → UInt64) (before after : α) : Prop := after = before ∨ stamp before < stamp after

theorem Advances.refl (stamp : α → UInt64) (a : α) : Advances stamp a a := .inl rfl

theorem Advances.trans {a b c : α} (first : Advances stamp a b) (second : Advances stamp b c) : Advances stamp a c := by
  rcases first with rfl | greater
  · exact second
  · rcases second with rfl | later
    · exact .inr greater
    · exact .inr (UInt64.lt_trans greater later)

/-- Writes that draw `n` stamps: over a live record, as a new one, or for nothing. -/
inductive Stamping (stamp : α → UInt64) (live : α → Prop) (t : Table key) (c : UInt64) :
    Nat → Table key → UInt64 → Prop
  | done : Stamping stamp live t c 0 t c
  | restamp {n : Nat} {u : Table key} {d : UInt64} {a b : α} (chain : Stamping stamp live t c n u d)
      (found : u.find? (key b) = some a) (alive : live a) (stamped : stamp b = d + 1) :
    Stamping stamp live t c (n + 1) (u.set b) (d + 1)
  | add {n : Nat} {u : Table key} {d : UInt64} {b : α} (chain : Stamping stamp live t c n u d)
      (stamped : stamp b = d + 1) : Stamping stamp live t c (n + 1) (u.emplace b) (d + 1)
  | waste {n : Nat} {u : Table key} {d : UInt64} (chain : Stamping stamp live t c n u d) :
    Stamping stamp live t c (n + 1) u (d + 1)

theorem Stamping.trans {t u v : Table key} {c d e : UInt64} {n m : Nat} (first : Stamping stamp live t c n u d)
    (second : Stamping stamp live u d m v e) : Stamping stamp live t c (n + m) v e := by
  induction second with
  | done => exact first
  | restamp _ found alive stamped ih => exact .restamp ih found alive stamped
  | add _ stamped ih => exact .add ih stamped
  | waste _ ih => exact .waste ih

/-- No stamp is carried twice, and a live record carries one that was drawn. -/
structure Timely (stamp : α → UInt64) (live : α → Prop) (t : Table key) (c : UInt64) : Prop where
  distinct : t.Distinct stamp
  drawn : ∀ a ∈ t.entries, live a → (stamp a).toNat ≤ c.toNat

def Unused (stamp : α → UInt64) (t : Table key) (c : UInt64) (limit : Nat) : Prop :=
  ∀ a ∈ t.entries, (stamp a).toNat ≤ c.toNat ∨ limit < (stamp a).toNat

theorem Known.unused {t : Table key} {c : UInt64} {restored : List UInt64} {limit : Nat} (known : Known stamp restored t c)
    (clear : ∀ number ∈ restored, number.toNat ≤ c.toNat ∨ limit < number.toNat) : Unused stamp t c limit := by
  intro a member
  rcases known a member with drawn | back
  · exact .inl drawn
  · exact clear _ back

namespace Stamping

variable {t u : Table key} {c d : UInt64} {n limit : Nat}

theorem counter (chain : Stamping stamp live t c n u d) (room : c.toNat + n < 2 ^ 64) : d.toNat = c.toNat + n := by
  have next {d : UInt64} {m : Nat} (here : d.toNat = c.toNat + m) (within : c.toNat + (m + 1) < 2 ^ 64) :
      (d + 1).toNat = c.toNat + (m + 1) := by
    have one : (1 : UInt64).toNat = 1 := rfl
    rw [UInt64.toNat_add, one]
    omega
  induction chain with
  | done => rfl
  | restamp _ _ _ _ ih => exact next (ih (by omega)) room
  | add _ _ ih => exact next (ih (by omega)) room
  | waste _ ih => exact next (ih (by omega)) room

theorem keeps (chain : Stamping stamp live t c n u d) (within : c.toNat + n ≤ limit) (room : limit < 2 ^ 64)
    (timely : Timely stamp live t c) (unused : Unused stamp t c limit) :
    Timely stamp live u d ∧ Unused stamp u d limit ∧ Table.Extends (Advances stamp) t u := by
  have drawn {m : Nat} {u : Table key} {d : UInt64} (chain : Stamping stamp live t c m u d)
      (below : c.toNat + (m + 1) ≤ limit) : d.toNat < (d + 1).toNat ∧ (d + 1).toNat ≤ limit := by
    have here := chain.counter (by omega)
    have one : (1 : UInt64).toNat = 1 := rfl
    rw [UInt64.toNat_add, one]
    omega
  -- Whatever the table has is below the counter or beyond the limit, so the next stamp is new.
  have fresh {u : Table key} {d : UInt64} (sofar : Unused stamp u d limit)
      (next : d.toNat < (d + 1).toNat ∧ (d + 1).toNat ≤ limit) : ∀ a ∈ u.entries, stamp a ≠ d + 1 := by
    intro a member same
    rcases sofar a member with below | beyond
    · rw [same] at below
      omega
    · rw [same] at beyond
      omega
  have later {u : Table key} {d : UInt64} (sofar : Unused stamp u d limit)
      (next : d.toNat < (d + 1).toNat ∧ (d + 1).toNat ≤ limit) {a : α} (member : a ∈ u.entries) :
      (stamp a).toNat ≤ (d + 1).toNat ∨ limit < (stamp a).toNat := by
    rcases sofar a member with below | beyond
    · left
      omega
    · exact .inr beyond
  induction chain with
  | done => exact ⟨timely, unused, .refl (Advances.refl stamp) t⟩
  | @restamp m u d a b chain found alive stamped ih =>
    obtain ⟨timely, unused, extends'⟩ := ih (by omega)
    have next := drawn chain within
    have new := fresh unused next
    have written : ∀ x ∈ (u.set b).entries, x = b ∨ x ∈ u.entries := fun x member =>
      (Table.mem_set.mp member).imp_right And.left
    refine ⟨⟨?_, ?_⟩, ?_, extends'.trans Advances.trans ?_⟩
    · intro x memberX y memberY same
      rcases written x memberX with rfl | thereX
      · rcases written y memberY with rfl | thereY
        · rfl
        · exact absurd (same.symm.trans stamped) (new y thereY)
      · rcases written y memberY with rfl | thereY
        · exact absurd (same.trans stamped) (new x thereX)
        · exact timely.distinct x thereX y thereY same
    · intro x member alive
      rcases written x member with rfl | there
      · rw [stamped]
      · have before := timely.drawn x there alive
        omega
    · intro x member
      rcases written x member with rfl | there
      · left
        rw [stamped]
      · exact later unused next there
    · constructor
      intro k x there
      rw [Table.find?_set]
      by_cases same : key b = k
      · rw [if_pos same]
        rw [same, there] at found
        cases found
        refine ⟨b, rfl, .inr ?_⟩
        have before := timely.drawn a (Table.mem_of_find? there) alive
        rw [stamped, UInt64.lt_iff_toNat_lt]
        omega
      · rw [if_neg same]
        exact ⟨x, there, .refl stamp x⟩
  | @add m u d b chain stamped ih =>
    obtain ⟨timely, unused, extends'⟩ := ih (by omega)
    have next := drawn chain within
    have new := fresh unused next
    refine ⟨⟨?_, ?_⟩, ?_, extends'.trans Advances.trans (.emplace (Advances.refl stamp) u b)⟩
    · apply timely.distinct.emplace
      intro a member
      rw [stamped]
      exact new a member
    · intro x member alive
      rcases Table.mem_emplace member with rfl | there
      · rw [stamped]
      · have before := timely.drawn x there alive
        omega
    · intro x member
      rcases Table.mem_emplace member with rfl | there
      · left
        rw [stamped]
      · exact later unused next there
  | @waste m u d chain ih =>
    obtain ⟨timely, unused, extends'⟩ := ih (by omega)
    have next := drawn chain within
    refine ⟨⟨timely.distinct, fun x member alive => ?_⟩, fun x member => later unused next member, extends'⟩
    have before := timely.drawn x member alive
    omega

/-- Whatever is written carries a stamp that was drawn. -/
theorem known {restored : List UInt64} (chain : Stamping stamp live t c n u d) (room : c.toNat + n < 2 ^ 64)
    (known : Known stamp restored t c) : Known stamp restored u d := by
  have later {u : Table key} {m : Nat} {d : UInt64} (chain : Stamping stamp live t c m u d)
      (below : c.toNat + (m + 1) < 2 ^ 64) (sofar : Known stamp restored u d) : Known stamp restored u (d + 1) := by
    have here := chain.counter (by omega)
    have one : (1 : UInt64).toNat = 1 := rfl
    intro a member
    refine (sofar a member).imp_left fun drawn => ?_
    rw [UInt64.toNat_add, one]
    omega
  induction chain with
  | done => exact known
  | restamp chain found alive stamped ih =>
    have sofar := later chain room (ih (by omega))
    intro a member
    rcases Table.mem_set.mp member with rfl | ⟨there, -⟩
    · left
      rw [stamped]
    · exact sofar a there
  | add chain stamped ih =>
    have sofar := later chain room (ih (by omega))
    intro a member
    rcases Table.mem_emplace member with rfl | there
    · left
      rw [stamped]
    · exact sofar a there
  | waste chain ih => exact later chain room (ih (by omega))

end Stamping

end Foundation
