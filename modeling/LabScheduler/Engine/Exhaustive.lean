import LabScheduler.Engine.Optimality
import Mathlib.Data.List.Sections

namespace LabScheduler

open Foundation

/-- A plan whose candidates are scored and sorted as `schedule_locked` leaves them. -/
structure RequirementPlan.Built (request : ScheduleRequest) (plan : RequirementPlan) : Prop where
  scored : ∀ candidate ∈ plan.candidates, Scored request candidate
  sorted : plan.candidates.Pairwise fun a b => b.partialScore ≤ a.partialScore

section Product

variable (state : SchedulerState) (request : ScheduleRequest)

/-- A selection is ranked when its resources are found and pass `validate_selection` together. -/
def rankSelection (selection : List CandidateResource) : Option RankingCandidate :=
  match selection.mapM fun candidate => state.resources.find? candidate.id with
  | none => none
  | some records =>
    match validateSelection state request records selection with
    | some _ => none
    | none => some (rankingCandidate state request selection records)

/-- The product of the candidate lists, ranked without pruning and without the buffer. -/
def enumerateSelections (plans : List RequirementPlan) : List RankingCandidate :=
  (plans.map RequirementPlan.candidates).sections.filterMap (rankSelection state request)

end Product

def bestCandidate (sorting : CandidateSort) (candidates : List RankingCandidate) : Option RankingCandidate :=
  (sorting.sort candidates).head?

section Best

variable {sorting : CandidateSort} {candidates others : List RankingCandidate} {best : RankingCandidate}

theorem bestCandidate_eq_none : bestCandidate sorting candidates = none ↔ candidates = [] := by
  unfold bestCandidate
  rw [List.head?_eq_none_iff, sorting.sort_eq_nil]

theorem bestCandidate_mem (found : bestCandidate sorting candidates = some best) :
    best ∈ candidates ∧ ∀ other ∈ candidates, rankingPrecedes best other := by
  obtain ⟨others, sorts⟩ := List.head?_eq_some_iff.mp found
  have ranked := CandidateSort.ranked_of_eq sorts
  exact ⟨ranked.front_mem, ranked.front_precedes⟩

theorem rankingPrecedes.antisymm {a b : RankingCandidate} (first : rankingPrecedes a b) (second : rankingPrecedes b a) :
    (a.raw, a.tieBreak) = (b.raw, b.tieBreak) := by
  rcases rankingPrecedes_iff.mp first with less | ⟨same, before⟩
  · exact absurd second.raw_le (not_le.mpr less)
  · rcases rankingPrecedes_iff.mp second with less | ⟨-, after⟩
    · exact absurd less (by rw [same]; exact lt_irrefl _)
    · rw [same, le_antisymm before after]

theorem bestCandidate_eq (part : ∀ kept ∈ candidates, kept ∈ others)
    (covers : ∀ other ∈ others, ∃ kept ∈ candidates, rankingPrecedes kept other) :
    (bestCandidate sorting candidates).map (fun best => (best.raw, best.tieBreak)) =
      (bestCandidate sorting others).map fun best => (best.raw, best.tieBreak) := by
  cases found : bestCandidate sorting candidates with
  | none =>
    have empty := bestCandidate_eq_none.mp found
    have none : others = [] := by
      apply List.eq_nil_iff_forall_not_mem.mpr
      intro other member
      obtain ⟨kept, there, -⟩ := covers other member
      rw [empty] at there
      cases there
    rw [bestCandidate_eq_none.mpr none]
  | some best =>
    obtain ⟨member, least⟩ := bestCandidate_mem found
    cases top : bestCandidate sorting others with
    | none =>
      have there := part best member
      rw [bestCandidate_eq_none.mp top] at there
      cases there
    | some other =>
      obtain ⟨there, lowest⟩ := bestCandidate_mem top
      obtain ⟨kept, here, before⟩ := covers other there
      have first : rankingPrecedes best other := IsTrans.trans _ _ _ (least kept here) before
      rw [Option.map_some, Option.map_some, first.antisymm (lowest best (part best member))]

end Best

section Search

variable {state : SchedulerState} {request : ScheduleRequest} {limits : Limits} {plans : List RequirementPlan}

theorem rankSelection_eq_some {selection : List CandidateResource} {candidate : RankingCandidate} :
    rankSelection state request selection = some candidate ↔
      ∃ records, (selection.mapM fun candidate => state.resources.find? candidate.id) = some records ∧
        validateSelection state request records selection = none ∧
        candidate = rankingCandidate state request selection records := by
  unfold rankSelection
  cases found : selection.mapM fun candidate => state.resources.find? candidate.id with
  | none => simp
  | some records =>
    cases answer : validateSelection state request records selection with
    | none => simp [answer, eq_comm]
    | some reason => simp [answer]

theorem mem_enumerateSelections {candidate : RankingCandidate} :
    candidate ∈ enumerateSelections state request plans ↔
      ∃ selection, List.Forall₂ (· ∈ ·) selection (plans.map RequirementPlan.candidates) ∧
        rankSelection state request selection = some candidate := by
  simp only [enumerateSelections, List.mem_filterMap, List.mem_sections]

theorem searchNode_plans (built : ∀ plan ∈ plans, plan.Built request) :
    SearchNode request plans.length (plans.map RequirementPlan.candidates) [] := by
  refine ⟨by simp, nofun, ?_, ?_⟩
  · intro level member
    obtain ⟨plan, there, rfl⟩ := List.mem_map.mp member
    exact (built plan there).scored
  · intro level member
    obtain ⟨plan, there, rfl⟩ := List.mem_map.mp member
    exact (built plan there).sorted

theorem searchPlacements_part : ∀ kept ∈ (searchPlacements state request limits plans).candidates,
    kept ∈ enumerateSelections state request plans := by
  apply searchPlacements_keeps
  intro selection records chosen found valid
  exact mem_enumerateSelections.mpr ⟨selection, chosen, rankSelection_eq_some.mpr ⟨records, found, valid, rfl⟩⟩

/-- A search that runs to its end keeps a candidate as good as each of the product. -/
theorem searchPlacements_complete (built : ∀ plan ∈ plans, plan.Built request)
    (ended : (searchPlacements state request limits plans).truncated = false) :
    ∀ other ∈ enumerateSelections state request plans,
      ∃ kept ∈ (searchPlacements state request limits plans).candidates, rankingPrecedes kept other := by
  intro other member
  obtain ⟨selection, chosen, ranked⟩ := mem_enumerateSelections.mp member
  obtain ⟨records, found, valid, rfl⟩ := rankSelection_eq_some.mp ranked
  rw [searchPlacements_eq] at ended ⊢
  have raised : Raised {} := fun _ best => by cases best
  have covered := placementSearch_covers.explore_covers (searchNode_plans built) raised ended chosen
  exact covered records found valid

end Search

/-- A search that runs to its end finds a candidate exactly if the product has a valid one, and then its best has the
    score and the tie-break key of the best of the product. -/
theorem search_exhaustive (sorting : CandidateSort) (state : SchedulerState) (request : ScheduleRequest) (limits : Limits)
    (plans : List RequirementPlan) (built : ∀ plan ∈ plans, plan.Built request)
    (ended : (searchPlacements state request limits plans).truncated = false) :
    ((searchPlacements state request limits plans).candidates = [] ↔
        ∀ selection, List.Forall₂ (· ∈ ·) selection (plans.map RequirementPlan.candidates) →
          rankSelection state request selection = none) ∧
      (bestCandidate sorting (searchPlacements state request limits plans).candidates).map
          (fun best => (best.raw, best.tieBreak)) =
        (bestCandidate sorting (enumerateSelections state request plans)).map fun best => (best.raw, best.tieBreak) := by
  have part := @searchPlacements_part state request limits plans
  have complete := searchPlacements_complete built ended
  refine ⟨⟨fun none selection chosen => ?_, fun none => ?_⟩, bestCandidate_eq part complete⟩
  · apply Option.eq_none_iff_forall_ne_some.mpr
    intro candidate ranked
    obtain ⟨kept, there, -⟩ := complete candidate (mem_enumerateSelections.mpr ⟨selection, chosen, ranked⟩)
    rw [none] at there
    cases there
  · apply List.eq_nil_iff_forall_not_mem.mpr
    intro kept member
    obtain ⟨selection, chosen, ranked⟩ := mem_enumerateSelections.mp (part kept member)
    rw [none selection chosen] at ranked
    cases ranked

theorem buildPlan_built (state : SchedulerState) (request : ScheduleRequest) (limits : Limits)
    (requirement : ResourceRequirement) : (buildPlan state request limits requirement).Built request where
  scored candidate member := distinctCandidates_scored requirement candidate (List.mem_of_mem_take member)
  sorted := (distinctCandidates_sorted requirement).sublist (List.take_sublist _ _)

theorem search_exhaustive_bench :
    let call := Bench.crowdCall
    let plans := buildPlans call.state call.stored.request Bench.crowd.config.limits
    let sorting := Bench.crowd.config.candidateSort
    (bestCandidate sorting (searchPlacements call.state call.stored.request Bench.crowd.config.limits plans).candidates).map
        (fun best => (best.raw, best.tieBreak)) =
      (bestCandidate sorting (enumerateSelections call.state call.stored.request plans)).map
        fun best => (best.raw, best.tieBreak) := by
  intro call plans sorting
  have built : ∀ plan ∈ plans, plan.Built call.stored.request := by
    intro plan member
    obtain ⟨requirement, -, rfl⟩ := List.mem_map.mp member
    exact buildPlan_built ..
  exact (search_exhaustive _ _ _ _ plans built (Bench.crowd_uncut.evaluations (by decide))).2

end LabScheduler
