import Mathlib.Data.Finsupp.Basic
import Mathlib.Logic.Relation

namespace Foundation

open Relation

/-- How much room each place has, who holds how much of which, and who has given back what he held. -/
@[ext] structure Leases (η ρ : Type*) where
  room : ρ → ℕ
  held : η →₀ ρ →₀ ℕ
  ended : Set η

namespace Leases

inductive Act
  | grant
  | release
  | resize
  | restore
  deriving DecidableEq

variable {η ρ : Type*} {leases later : Leases η ρ} {allowed : Act → Prop} {holder : η}

noncomputable def taken (leases : Leases η ρ) (place : ρ) : ℕ := leases.held.sum fun _ lease => lease place

/-- A holder is granted a lease once, if there is room for it, and gives it back whole. The room may change around what
    is held. The holders of an earlier time are recalled while nothing is held. -/
inductive Moves (allowed : Act → Prop) : Leases η ρ → Leases η ρ → Prop
  | grant {leases : Leases η ρ} {holder : η} {lease : ρ →₀ ℕ} (may : allowed .grant) (unheld : leases.held holder = 0)
      (fresh : holder ∉ leases.ended) (some : lease ≠ 0)
      (fits : ∀ place, leases.taken place + lease place ≤ leases.room place) :
    Moves allowed leases { leases with held := leases.held.update holder lease }
  | release {leases : Leases η ρ} {holder : η} (may : allowed .release) (holds : leases.held holder ≠ 0) :
    Moves allowed leases { leases with held := leases.held.erase holder, ended := insert holder leases.ended }
  | resize {leases : Leases η ρ} {room : ρ → ℕ} (may : allowed .resize)
      (fits : ∀ place, leases.taken place ≤ room place) : Moves allowed leases { leases with room := room }
  | restore {leases : Leases η ρ} {history : Set η} (may : allowed .restore) (idle : leases.held = 0) :
    Moves allowed leases { leases with ended := leases.ended ∪ history }

theorem Moves.mono {weaker : Act → Prop} (moves : Moves allowed leases later)
    (more : ∀ act, allowed act → weaker act) : Moves weaker leases later := by
  cases moves with
  | grant may unheld fresh some fits => exact .grant (more _ may) unheld fresh some fits
  | release may holds => exact .release (more _ may) holds
  | resize may fits => exact .resize (more _ may) fits
  | restore may idle => exact .restore (more _ may) idle

theorem taken_update (unheld : leases.held holder = 0) (lease : ρ →₀ ℕ) (place : ρ) :
    (leases.held.update holder lease).sum (fun _ lease => lease place) = leases.taken place + lease place := by
  have sum := Finsupp.sum_update_add leases.held holder lease (fun _ lease => lease place) (fun _ => rfl)
    fun _ _ _ => rfl
  rw [unheld] at sum
  exact sum

theorem taken_erase (holder : η) (place : ρ) :
    (leases.held.erase holder).sum (fun _ lease => lease place) + leases.held holder place = leases.taken place := by
  have whole := Finsupp.erase_add_single holder leases.held
  have single : (Finsupp.single holder (leases.held holder)).sum (fun _ lease => lease place) =
      leases.held holder place := Finsupp.sum_single_index rfl
  rw [taken, ← single]
  conv_rhs => rw [← whole]
  exact (Finsupp.sum_add_index' (fun _ => rfl) fun _ _ _ => rfl).symm

/-- No place is taken beyond its room, and what was given back is not held. -/
structure Fair (leases : Leases η ρ) : Prop where
  fits : ∀ place, leases.taken place ≤ leases.room place
  past : ∀ holder ∈ leases.ended, leases.held holder = 0

/-- What is held is held on as it is, or was given back for good. -/
structure Continues (leases later : Leases η ρ) : Prop where
  held : ∀ holder, leases.held holder ≠ 0 →
    later.held holder = leases.held holder ∨ later.held holder = 0 ∧ holder ∈ later.ended
  ended : leases.ended ⊆ later.ended

theorem Moves.fair (moves : Moves allowed leases later) (fair : leases.Fair) : later.Fair := by
  classical
  cases moves with
  | @grant _ lease may unheld fresh some fits =>
    refine ⟨fun place => ?_, fun other past => ?_⟩
    · exact (taken_update unheld lease place).trans_le (fits place)
    · have apart : other ≠ _ := ne_of_mem_of_not_mem past fresh
      exact (Finsupp.update_apply ..).trans ((if_neg apart).trans (fair.past other past))
  | @release holder may holds =>
    refine ⟨fun place => ?_, fun other past => ?_⟩
    · have sum := leases.taken_erase holder place
      exact (Nat.le_of_add_right_le sum.le).trans (fair.fits place)
    · rw [Finsupp.erase_apply]
      split
      · rfl
      · rename_i apart
        exact fair.past other (past.resolve_left apart)
  | resize may fits => exact ⟨fits, fair.past⟩
  | restore may idle =>
    refine ⟨fair.fits, fun other _ => ?_⟩
    change leases.held other = 0
    rw [idle]
    rfl

theorem Moves.continues (moves : Moves allowed leases later) : leases.Continues later := by
  classical
  cases moves with
  | @grant holder lease may unheld fresh some fits =>
    refine ⟨fun other holds => .inl ?_, subset_rfl⟩
    have apart : other ≠ holder := fun same => holds (same ▸ unheld)
    exact (Finsupp.update_apply ..).trans (if_neg apart)
  | @release holder may holds =>
    refine ⟨fun other _ => ?_, Set.subset_insert _ _⟩
    rw [Finsupp.erase_apply]
    split
    · rename_i same
      exact .inr ⟨rfl, .inl same⟩
    · exact .inl rfl
  | resize may fits => exact ⟨fun _ _ => .inl rfl, subset_rfl⟩
  | restore may idle => exact ⟨fun _ _ => .inl rfl, Set.subset_union_left⟩

theorem Fair.runs (fair : leases.Fair) (moves : ReflTransGen (Moves allowed) leases later) : later.Fair := by
  induction moves with
  | refl => exact fair
  | tail _ move ih => exact move.fair ih

/-- Over a whole run a lease stays as it was granted until it is given back, and then it is never granted again. -/
theorem Fair.continues (fair : leases.Fair) (moves : ReflTransGen (Moves allowed) leases later) :
    leases.Continues later := by
  induction moves with
  | refl => exact ⟨fun _ _ => .inl rfl, subset_rfl⟩
  | @tail mid last before move ih =>
    have sofar := fair.runs before
    have next := move.continues
    have ended := ih.ended.trans next.ended
    refine ⟨fun holder holds => ?_, ended⟩
    rcases ih.held holder holds with same | ⟨-, past⟩
    · rw [← same]
      exact next.held holder (same ▸ holds)
    · have past := next.ended past
      exact .inr ⟨(move.fair sofar).past holder past, past⟩

theorem release_all (may : allowed .release) (gone : Finset η) (holding : ∀ holder ∈ gone, leases.held holder ≠ 0) :
    ∃ held : η →₀ ρ →₀ ℕ,
      ReflTransGen (Moves allowed) leases { leases with held := held, ended := leases.ended ∪ gone } ∧
        (∀ holder ∈ gone, held holder = 0) ∧ ∀ holder ∉ gone, held holder = leases.held holder := by
  classical
  induction gone using Finset.induction_on with
  | empty =>
    refine ⟨leases.held, ?_, fun _ member => absurd member (Finset.notMem_empty _), fun _ _ => rfl⟩
    rw [Finset.coe_empty, Set.union_empty]
  | @insert holder gone new ih =>
    obtain ⟨held, moves, past, still⟩ := ih fun other member => holding other (Finset.mem_insert_of_mem member)
    have holds : held holder ≠ 0 := by
      rw [still holder new]
      exact holding holder (Finset.mem_insert_self ..)
    refine ⟨held.erase holder, ?_, fun other member => ?_, fun other apart => ?_⟩
    · rw [Finset.coe_insert, Set.union_insert]
      exact moves.tail (.release may holds)
    · rw [Finsupp.erase_apply]
      split
      · rfl
      · rename_i apart
        exact past other (Finset.mem_of_mem_insert_of_ne member apart)
    · have both := not_or.mp (fun either => apart (Finset.mem_insert.mpr either))
      rw [Finsupp.erase_ne both.1, still other both.2]

theorem releases (may : allowed .release) (room : later.room = leases.room)
    (held : ∀ holder, later.held holder = leases.held holder ∨ later.held holder = 0)
    (ended : later.ended = leases.ended ∪ {holder | leases.held holder ≠ 0 ∧ later.held holder = 0}) :
    ReflTransGen (Moves allowed) leases later := by
  classical
  let gone := leases.held.support.filter fun holder => later.held holder = 0
  have mem (holder : η) : holder ∈ gone ↔ leases.held holder ≠ 0 ∧ later.held holder = 0 := by
    rw [Finset.mem_filter, Finsupp.mem_support_iff]
  obtain ⟨left, moves, past, still⟩ := release_all may gone fun holder member => ((mem holder).mp member).1
  have same : later = { leases with held := left, ended := leases.ended ∪ gone } := by
    ext1
    · exact room
    · ext holder : 1
      by_cases goes : holder ∈ gone
      · exact ((mem holder).mp goes).2.trans (past holder goes).symm
      · refine Eq.trans ?_ (still holder goes).symm
        rcases held holder with same | none
        · exact same
        · by_contra differs
          exact goes ((mem holder).mpr ⟨fun zero => differs (none.trans zero.symm), none⟩)
    · rw [ended]
      congr 1
      ext holder
      exact (mem holder).symm
  rw [same]
  exact moves

end Leases

end Foundation
