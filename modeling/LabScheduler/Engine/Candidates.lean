import LabScheduler.Placement
import Mathlib.Data.List.Lex
import Mathlib.Data.List.Sort

namespace LabScheduler

structure CandidateResource where
  id : ResourceId := {}
  generation : ResourceGeneration := {}
  resourceClass : ResourceClass := .worker
  name : Text := []
  slots : UInt32 := 1
  exclusive : Bool := false
  partialScore : Int := 0
  additive : RankingFactor → Int := fun _ => 0

structure RankingCandidate where
  selection : List CandidateResource := []
  resources : List ResourceId := []
  raw : Int := 0
  factors : List RankingFactorValue := []
  tieBreak : Text := []

def candidateIsBetter (left right : RankingCandidate) : Bool :=
  if left.raw ≠ right.raw then decide (right.raw < left.raw) else decide (left.tieBreak < right.tieBreak)

/-- The order of the final sort. Candidates of one score and one set of resources compare equal. -/
def rankingPrecedes (a b : RankingCandidate) : Prop := candidateIsBetter b a = false

instance : DecidableRel rankingPrecedes := fun a b => by unfold rankingPrecedes; infer_instance

theorem rankingPrecedes_iff {a b : RankingCandidate} :
    rankingPrecedes a b ↔ b.raw < a.raw ∨ (a.raw = b.raw ∧ a.tieBreak ≤ b.tieBreak) := by
  unfold rankingPrecedes candidateIsBetter
  split
  · rename_i differs
    simp only [decide_eq_false_iff_not, not_lt]
    omega
  · rename_i same
    have same : b.raw = a.raw := not_not.mp same
    simp [same]

theorem not_rankingPrecedes {a b : RankingCandidate} : ¬ rankingPrecedes a b ↔ candidateIsBetter b a = true := by
  unfold rankingPrecedes
  simp

instance : IsTrans RankingCandidate rankingPrecedes where
  trans a b c first second := by
    rw [rankingPrecedes_iff] at *
    rcases first with less | ⟨same, before⟩
    · rcases second with less' | ⟨same', -⟩
      · exact .inl (less'.trans less)
      · exact .inl (same' ▸ less)
    · rcases second with less' | ⟨same', before'⟩
      · exact .inl (same ▸ less')
      · exact .inr ⟨same.trans same', before.trans before'⟩

instance : Std.Total rankingPrecedes where
  total a b := by
    rw [rankingPrecedes_iff, rankingPrecedes_iff]
    rcases lt_trichotomy a.raw b.raw with less | same | more
    · exact .inr (.inl less)
    · rcases le_total a.tieBreak b.tieBreak with before | before
      · exact .inl (.inr ⟨same, before⟩)
      · exact .inr (.inr ⟨same.symm, before⟩)
    · exact .inl (.inl more)

/-- What a sort by `candidate_is_better` may leave: the order of equal candidates is open. -/
structure Ranked (candidates ranked : List RankingCandidate) : Prop where
  perm : ranked.Perm candidates
  sorted : ranked.Pairwise rankingPrecedes

theorem Ranked.front_mem {candidates others : List RankingCandidate} {best : RankingCandidate}
    (ranked : Ranked candidates (best :: others)) : best ∈ candidates :=
  ranked.perm.subset List.mem_cons_self

theorem Ranked.front_precedes {candidates others : List RankingCandidate} {best : RankingCandidate}
    (ranked : Ranked candidates (best :: others)) : ∀ other ∈ candidates, rankingPrecedes best other := by
  intro other member
  rcases List.mem_cons.mp (ranked.perm.mem_iff.mpr member) with rfl | later
  · exact refl other
  · exact List.rel_of_pairwise_cons ranked.sorted later

/-- `std::sort` of the candidates, as the library in use does it. -/
structure CandidateSort where
  sort : List RankingCandidate → List RankingCandidate
  ranked : ∀ candidates, Ranked candidates (sort candidates)

/-- The sort that leaves equal candidates in the order of the search. -/
def CandidateSort.stable : CandidateSort where
  sort candidates := candidates.insertionSort rankingPrecedes
  ranked candidates :=
    ⟨candidates.perm_insertionSort rankingPrecedes, candidates.pairwise_insertionSort rankingPrecedes⟩

theorem CandidateSort.ranked_of_eq {sorting : CandidateSort} {candidates ranked : List RankingCandidate}
    (sorts : sorting.sort candidates = ranked) : Ranked candidates ranked :=
  sorts ▸ sorting.ranked candidates

@[simp] theorem CandidateSort.sort_eq_nil (sorting : CandidateSort) {candidates : List RankingCandidate} :
    sorting.sort candidates = [] ↔ candidates = [] := by
  rw [← List.length_eq_zero_iff, (sorting.ranked candidates).perm.length_eq, List.length_eq_zero_iff]

end LabScheduler
