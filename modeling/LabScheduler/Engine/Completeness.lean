import LabScheduler.Engine.Calls
import LabScheduler.Engine.Scores
import Mathlib.Data.Finset.Max

namespace LabScheduler

open Foundation

section Covering

variable (state : SchedulerState) (request : ScheduleRequest)

def Raised (outcome : SearchOutcome) : Prop :=
  ∀ value, outcome.bestRaw = some value → ∃ kept ∈ outcome.candidates, value ≤ kept.raw

def Covered (choice : List CandidateResource) (outcome : SearchOutcome) : Prop :=
  ∀ records, (choice.mapM fun candidate => state.resources.find? candidate.id) = some records →
    validateSelection state request records choice = none →
    ∃ kept ∈ outcome.candidates, rankingPrecedes kept (rankingCandidate state request choice records)

/-- A node of the search: what is chosen and what is left to choose from make up `count` levels, all of
    them scored and in descending order. -/
structure SearchNode (count : Nat) (levels : List (List CandidateResource)) (path : List CandidateResource) :
    Prop where
  length : path.length + levels.length = count
  chosen : ∀ candidate ∈ path, Scored request candidate
  scored : ∀ level ∈ levels, ∀ candidate ∈ level, Scored request candidate
  sorted : ∀ level ∈ levels, level.Pairwise fun a b => b.partialScore ≤ a.partialScore

variable {state request} {limits : Limits} {count : Nat}

theorem pathScore_append (first second : List CandidateResource) :
    pathScore (first ++ second) = pathScore first + pathScore second := by
  simp [pathScore]

theorem pathScore_cons (candidate : CandidateResource) (rest : List CandidateResource) :
    pathScore (candidate :: rest) = candidate.partialScore + pathScore rest := by
  simp [pathScore]

theorem partialScore_le_frontScore {level : List CandidateResource} {candidate : CandidateResource}
    (sorted : level.Pairwise fun a b => b.partialScore ≤ a.partialScore) (member : candidate ∈ level) :
    candidate.partialScore ≤ frontScore level := by
  cases level with
  | nil => cases member
  | cons first rest =>
    change candidate.partialScore ≤ first.partialScore
    rcases List.mem_cons.mp member with rfl | later
    · exact le_rfl
    · exact (List.pairwise_cons.mp sorted).1 candidate later

theorem pathScore_le {choice : List CandidateResource} {levels : List (List CandidateResource)}
    (sorted : ∀ level ∈ levels, level.Pairwise fun a b => b.partialScore ≤ a.partialScore)
    (chosen : List.Forall₂ (· ∈ ·) choice levels) : pathScore choice ≤ (levels.map frontScore).sum := by
  induction chosen with
  | nil => exact le_rfl
  | @cons candidate level choice levels member _ ih =>
    have first := partialScore_le_frontScore (sorted level List.mem_cons_self) member
    have rest := ih fun level there => sorted level (List.mem_cons_of_mem _ there)
    rw [pathScore_cons, List.map_cons, List.sum_cons]
    omega

namespace SearchNode

theorem next {item : CandidateResource} {items : List CandidateResource} {levels : List (List CandidateResource)}
    {path : List CandidateResource} (node : SearchNode request count ((item :: items) :: levels) path) :
    SearchNode request count (items :: levels) path := by
  obtain ⟨scored, scoredBelow⟩ := List.forall_mem_cons.mp node.scored
  obtain ⟨sorted, sortedBelow⟩ := List.forall_mem_cons.mp node.sorted
  refine ⟨node.length, node.chosen, List.forall_mem_cons.mpr ⟨?_, scoredBelow⟩,
    List.forall_mem_cons.mpr ⟨?_, sortedBelow⟩⟩
  · exact fun candidate member => scored candidate (List.mem_cons_of_mem _ member)
  · exact (List.pairwise_cons.mp sorted).2

theorem down {items : List CandidateResource} {levels : List (List CandidateResource)}
    {path : List CandidateResource} (node : SearchNode request count (items :: levels) path)
    {item : CandidateResource} (member : item ∈ items) : SearchNode request count levels (path ++ [item]) := by
  obtain ⟨scored, scoredBelow⟩ := List.forall_mem_cons.mp node.scored
  have length := node.length
  refine ⟨?_, ?_, scoredBelow, (List.forall_mem_cons.mp node.sorted).2⟩
  · simp only [List.length_append, List.length_cons, List.length_nil] at length ⊢
    omega
  · intro candidate there
    rcases List.mem_append.mp there with before | here
    · exact node.chosen candidate before
    · rw [List.mem_singleton.mp here]
      exact scored item member

theorem ceiling {item other : CandidateResource} {items choice : List CandidateResource}
    {levels : List (List CandidateResource)} {path : List CandidateResource}
    (node : SearchNode request count ((item :: items) :: levels) path) (member : other ∈ item :: items)
    (chosen : List.Forall₂ (· ∈ ·) choice levels) (records : List ResourceRecord) :
    (scoreCandidate state request (path ++ other :: choice) records).1 ≤
      pathScore path + item.partialScore + (levels.map frontScore).sum + crossBound request count := by
  obtain ⟨scored, scoredBelow⟩ := List.forall_mem_cons.mp node.scored
  obtain ⟨sorted, sortedBelow⟩ := List.forall_mem_cons.mp node.sorted
  have each : ∀ candidate ∈ path ++ other :: choice, Scored request candidate := by
    intro candidate there
    rcases List.mem_append.mp there with before | there
    · exact node.chosen candidate before
    · rcases List.mem_cons.mp there with rfl | later
      · exact scored candidate member
      · obtain ⟨level, inLevels, inLevel⟩ := forall₂_mem_left chosen later
        exact scoredBelow level inLevels candidate inLevel
  have length : (path ++ other :: choice).length = count := by
    have same := chosen.length_eq
    have whole := node.length
    simp only [List.length_append, List.length_cons] at whole ⊢
    omega
  have bound : (scoreCandidate state request (path ++ other :: choice) records).1 ≤
      pathScore (path ++ other :: choice) + crossBound request (path ++ other :: choice).length :=
    scoreCandidate_le each records
  have first : other.partialScore ≤ item.partialScore := partialScore_le_frontScore sorted member
  have rest := pathScore_le sortedBelow chosen
  rw [length, pathScore_append, pathScore_cons] at bound
  omega

end SearchNode

theorem evaluateSelection_raised (path : List CandidateResource) {outcome : SearchOutcome}
    (raised : Raised outcome) : Raised (evaluateSelection state request limits path outcome) := by
  unfold evaluateSelection
  extract_lets counted
  split
  · exact raised
  · rename_i records _
    split
    · exact raised
    · intro value best
      have best : raiseBest outcome.bestRaw (rankingCandidate state request path records).raw = some value := best
      have keeps {other : RankingCandidate}
          (there : other ∈ outcome.candidates ∨ other = rankingCandidate state request path records)
          (high : value ≤ other.raw) :
          ∃ kept ∈ keepCandidate limits outcome.candidates (rankingCandidate state request path records),
            value ≤ kept.raw := by
        obtain ⟨kept, member, precedes⟩ := keepCandidate_keeps limits there
        exact ⟨kept, member, high.trans precedes.raw_le⟩
      unfold raiseBest at best
      split at best
      · cases best
        exact keeps (.inr rfl) le_rfl
      · rename_i before known
        split at best
        · cases best
          exact keeps (.inr rfl) le_rfl
        · cases best
          obtain ⟨kept, member, high⟩ := raised _ known
          exact keeps (.inl member) high

theorem evaluateSelection_lasts {choice : List CandidateResource} (path : List CandidateResource)
    {outcome : SearchOutcome} (covered : Covered state request choice outcome) :
    Covered state request choice (evaluateSelection state request limits path outcome) := by
  unfold evaluateSelection
  extract_lets counted
  split
  · exact covered
  · split
    · exact covered
    · intro records found valid
      obtain ⟨kept, member, precedes⟩ := covered records found valid
      obtain ⟨still, there, before⟩ := keepCandidate_keeps limits (.inl member)
      exact ⟨still, there, IsTrans.trans _ _ _ before precedes⟩

theorem evaluateSelection_covers (path : List CandidateResource) (outcome : SearchOutcome) :
    Covered state request path (evaluateSelection state request limits path outcome) := by
  intro records found valid
  unfold evaluateSelection
  simp only [found, valid]
  exact keepCandidate_keeps limits (.inr rfl)

theorem placementSearch_covers :
    (placementSearch state request limits (crossBound request count)).Covers Raised (SearchNode request count)
      (Covered state request) where
  enter outcome raised := by
    unfold placementSearch
    dsimp only
    repeat' split
    all_goals exact raised
  leaf path outcome raised := evaluateSelection_raised path raised
  enter_lasts choice outcome covered := by
    unfold placementSearch
    dsimp only
    repeat' split
    all_goals exact covered
  leaf_lasts choice path outcome _ covered := evaluateSelection_lasts path covered
  reached path outcome _ := evaluateSelection_covers path outcome
  next _ _ _ _ node := node.next
  down _ _ _ node _ member := node.down member
  pruned item items levels path outcome node raised cut other member choice chosen := by
    intro records _ _
    have ceiling : (scoreCandidate state request (path ++ other :: choice) records).1 ≤ _ :=
      node.ceiling member chosen records
    have cut : prunes (pathScore path + item.partialScore + (levels.map frontScore).sum +
        crossBound request count) outcome.bestRaw = true := cut
    unfold prunes at cut
    split at cut
    · cases cut
    · rename_i best known
      obtain ⟨kept, there, high⟩ := raised best known
      have below := of_decide_eq_true cut
      have less : (rankingCandidate state request (path ++ other :: choice) records).raw < kept.raw := by
        change (scoreCandidate state request (path ++ other :: choice) records).1 < kept.raw
        omega
      exact ⟨kept, there, rankingPrecedes_iff.mpr (.inl less)⟩

end Covering

section Assignments

variable (state : SchedulerState) (request : ScheduleRequest) (limits : Limits)

/-- The candidates by which resources stand for the requirements. -/
def standIns (requirements : List ResourceRequirement) (records : List ResourceRecord) :
    List CandidateResource :=
  List.zipWith (candidateResource state request limits) requirements records

/-- An assignment of registered resources to the requirements, each eligible for its own, that as a
    whole passes `validate_selection`. -/
structure Assignment (records : List ResourceRecord) : Prop where
  eligible : List.Forall₂
    (fun requirement resource => resource ∈ eligibleResources state request limits requirement)
    request.requirements records
  valid : validateSelection state request records (standIns state request limits request.requirements records) = none

/-- An assignment of resources the collapse retains, each for the requirement it is assigned to. -/
structure RetainedAssignment (records : List ResourceRecord) : Prop extends
    Assignment state request limits records where
  retained : List.Forall₂ (Retained state request limits) request.requirements records

/-- Neither bound cut the search for `request`. -/
structure Uncut : Prop where
  candidates : ∀ requirement ∈ request.requirements, exceedsCandidateBound state request limits requirement = false
  evaluations : (∀ plan ∈ buildPlans state request limits, plan.candidates ≠ []) →
    (searchPlacements state request limits (buildPlans state request limits)).truncated = false

variable {state request limits}

theorem standIns_found {requirements : List ResourceRequirement} {records : List ResourceRecord}
    (eligible : List.Forall₂
      (fun requirement resource => resource ∈ eligibleResources state request limits requirement)
      requirements records) :
    ((standIns state request limits requirements records).mapM fun candidate =>
      state.resources.find? candidate.id) = some records := by
  induction eligible with
  | nil => rfl
  | @cons requirement resource requirements records member _ ih =>
    have here : state.resources.find? (candidateResource state request limits requirement resource).id =
        some resource := (mem_eligibleResources.mp member).1
    unfold standIns at ih ⊢
    rw [List.zipWith_cons_cons, List.mapM_cons, here, ih]
    rfl

theorem mem_levels_iff {requirements : List ResourceRequirement} {choice : List CandidateResource} :
    List.Forall₂ (· ∈ ·) choice (requirements.map (distinctCandidates state request limits)) ↔
      ∃ records, List.Forall₂
          (fun requirement resource => resource ∈ eligibleResources state request limits requirement)
          requirements records ∧
        List.Forall₂ (Retained state request limits) requirements records ∧
        choice = standIns state request limits requirements records := by
  induction requirements generalizing choice with
  | nil =>
    constructor
    · intro chosen
      cases chosen
      exact ⟨[], .nil, .nil, rfl⟩
    · intro ⟨records, eligible, _, made⟩
      cases eligible
      rw [made]
      exact .nil
  | cons requirement rest ih =>
    constructor
    · intro chosen
      obtain _ | ⟨member, others⟩ := chosen
      obtain ⟨resource, eligible, retained, rfl⟩ := mem_distinctCandidates.mp member
      obtain ⟨records, eligibles, retaineds, rfl⟩ := ih.mp others
      exact ⟨resource :: records, .cons eligible eligibles, .cons retained retaineds, rfl⟩
    · intro ⟨records, eligible, retained, made⟩
      obtain _ | ⟨member, eligibles⟩ := eligible
      obtain _ | ⟨here, retaineds⟩ := retained
      rw [made]
      exact .cons (mem_distinctCandidates.mpr ⟨_, member, here, rfl⟩) (ih.mpr ⟨_, eligibles, retaineds, rfl⟩)

theorem Uncut.levels (uncut : Uncut state request limits) :
    (buildPlans state request limits).map RequirementPlan.candidates =
      request.requirements.map (distinctCandidates state request limits) := by
  unfold buildPlans
  rw [List.map_map]
  apply List.map_congr_left
  intro requirement member
  have within := uncut.candidates requirement member
  unfold exceedsCandidateBound at within
  exact List.take_of_length_le (not_lt.mp (of_decide_eq_false within))

theorem distinctCandidates_scored (requirement : ResourceRequirement) :
    ∀ candidate ∈ distinctCandidates state request limits requirement, Scored request candidate := by
  intro candidate member
  obtain ⟨resource, -, -, rfl⟩ := mem_distinctCandidates.mp member
  rfl

theorem distinctCandidates_sorted (requirement : ResourceRequirement) :
    (distinctCandidates state request limits requirement).Pairwise fun a b => b.partialScore ≤ a.partialScore := by
  have ranked : (rankedCandidates state request limits requirement).Pairwise candidatePrecedes :=
    rankedCandidates_sorted
  refine (ranked.sublist (collapse_sublist ..)).imp fun {a b} precedes => ?_
  rcases precedes with less | ⟨same, -⟩
  · exact less.le
  · exact same.ge

theorem searchNode_levels (requirements : List ResourceRequirement) :
    SearchNode request requirements.length (requirements.map (distinctCandidates state request limits)) [] := by
  refine ⟨by simp, nofun, ?_, ?_⟩
  · intro level member
    obtain ⟨requirement, -, rfl⟩ := List.mem_map.mp member
    exact distinctCandidates_scored requirement
  · intro level member
    obtain ⟨requirement, -, rfl⟩ := List.mem_map.mp member
    exact distinctCandidates_sorted requirement

def ranking (state : SchedulerState) (request : ScheduleRequest) (limits : Limits)
    (records : List ResourceRecord) : RankingCandidate :=
  rankingCandidate state request (standIns state request limits request.requirements records) records

theorem searchPlacements_levels (uncut : Uncut state request limits) :
    searchPlacements state request limits (buildPlans state request limits) =
      (placementSearch state request limits (crossBound request request.requirements.length)).explore
        (request.requirements.map (distinctCandidates state request limits)) [] {} := by
  rw [searchPlacements_eq, uncut.levels]
  simp [buildPlans]

/-- Of the retained assignments the search keeps one that is as good as any. -/
theorem searchPlacements_covers (uncut : Uncut state request limits)
    (ended : (searchPlacements state request limits (buildPlans state request limits)).truncated = false)
    {records : List ResourceRecord} (assignment : RetainedAssignment state request limits records) :
    ∃ kept ∈ (searchPlacements state request limits (buildPlans state request limits)).candidates,
      rankingPrecedes kept (ranking state request limits records) := by
  rw [searchPlacements_levels uncut] at ended ⊢
  have chosen := mem_levels_iff.mpr ⟨records, assignment.eligible, assignment.retained, rfl⟩
  have raised : Raised {} := fun _ best => by cases best
  have covered := placementSearch_covers.explore_covers (searchNode_levels request.requirements) raised ended chosen
  exact covered records (standIns_found assignment.eligible) assignment.valid

theorem searchPlacements_retained (uncut : Uncut state request limits) :
    ∀ kept ∈ (searchPlacements state request limits (buildPlans state request limits)).candidates,
      ∃ records, RetainedAssignment state request limits records ∧ kept = ranking state request limits records := by
  apply searchPlacements_keeps
  intro selection records chosen found valid
  rw [uncut.levels] at chosen
  obtain ⟨assigned, eligible, retained, rfl⟩ := mem_levels_iff.mp chosen
  have same : assigned = records := Option.some_inj.mp ((standIns_found eligible).symm.trans found)
  subst same
  exact ⟨assigned, ⟨⟨eligible, valid⟩, retained⟩, rfl⟩

end Assignments

/-- How a call of `schedule_locked` answers what its search found. -/
inductive Searched (state : SchedulerState) (request : ScheduleRequest) (limits : Limits) :
    Except Status Decision → Prop
  | blocked {plan : RequirementPlan} {decision : Decision} (member : plan ∈ buildPlans state request limits)
      (empty : plan.candidates = []) (outcome : decision.outcome = .noPlacement) :
    Searched state request limits (.ok decision)
  | exhausted {decision : Decision}
      (candidates : ∀ plan ∈ buildPlans state request limits, plan.candidates ≠ [])
      (none : (searchPlacements state request limits (buildPlans state request limits)).candidates = [])
      (outcome : decision.outcome = .noPlacement) :
    Searched state request limits (.ok decision)
  | refused {best : RankingCandidate} {others : List RankingCandidate} {status : Status}
      (ranked : Ranked (searchPlacements state request limits (buildPlans state request limits)).candidates
        (best :: others)) :
    Searched state request limits (.error status)
  | placed {best : RankingCandidate} {others : List RankingCandidate} {after : ResourceTable}
      {selected : List SelectedResource} {claims : List ReservationClaim} {decision : Decision}
      (candidates : ∀ plan ∈ buildPlans state request limits, plan.candidates ≠ [])
      (ranked : Ranked (searchPlacements state request limits (buildPlans state request limits)).candidates
        (best :: others))
      (loop : commitLoop state.resources (best.selection.zip request.requirements) =
        (after, .ok (selected, claims)))
      (outcome : decision.outcome = .placed) (resources : decision.placement.resources = selected) :
    Searched state request limits (.ok decision)

theorem commitPlacement_searched {state : SchedulerState} {config : EngineConfig} {ids : IdGenerator}
    {stored : StoredRequest} {generation : PlacementGeneration} {reassignments : UInt32}
    (explanation : Explanation) {best : RankingCandidate} {others : List RankingCandidate}
    (candidates : ∀ plan ∈ buildPlans state stored.request config.limits, plan.candidates ≠ [])
    (ranked : Ranked (searchPlacements state stored.request config.limits
      (buildPlans state stored.request config.limits)).candidates (best :: others)) :
    Searched state stored.request config.limits (commitPlacement state config ids stored generation reassignments
      explanation (best :: others) best).result := by
  unfold commitPlacement
  extract_lets request
  cases loop : commitLoop state.resources (best.selection.zip request.requirements) with
  | mk resources taken =>
    cases taken with
    | error status => exact .refused ranked
    | ok both => exact .placed candidates ranked loop rfl rfl

theorem scheduleLocked_searched (state : SchedulerState) (config : EngineConfig) (ids : IdGenerator)
    (stored : StoredRequest) (generation : PlacementGeneration) (reassignments : UInt32) :
    Searched state stored.request config.limits
      (scheduleLocked state config ids stored generation reassignments).result := by
  unfold scheduleLocked
  extract_lets request limits
  simp only [IdGenerator.next, IdGenerator.nextValue]
  split
  · rename_i plan found
    have empty : plan.candidates = [] := by simpa using List.find?_some found
    exact .blocked (List.mem_of_find?_eq_some found) empty rfl
  · rename_i found
    have candidates : ∀ plan ∈ buildPlans state request limits, plan.candidates ≠ [] := by
      simpa using List.find?_eq_none.mp found
    split
    · rename_i none
      have empty : (searchPlacements state request limits (buildPlans state request limits)).candidates = [] :=
        config.candidateSort.sort_eq_nil.mp none
      exact .exhausted candidates empty rfl
    · rename_i best others sorts
      have ranked := CandidateSort.ranked_of_eq sorts
      split
      · exact .refused ranked
      · exact commitPlacement_searched _ candidates ranked

section Truth

variable {state : SchedulerState} {request : ScheduleRequest} {limits : Limits}

/-- With neither bound in play a call finds no placement when no retained assignment is valid, and only
    then. -/
theorem Searched.noPlacement_iff {result : Except Status Decision} (searched : Searched state request limits result)
    (uncut : Uncut state request limits) :
    (∃ decision, result = .ok decision ∧ decision.outcome = .noPlacement) ↔
      ¬ ∃ records, RetainedAssignment state request limits records := by
  have retained {best : RankingCandidate} {others : List RankingCandidate}
      (ranked : Ranked (searchPlacements state request limits (buildPlans state request limits)).candidates
        (best :: others)) :
      ∃ records, RetainedAssignment state request limits records := by
    obtain ⟨records, assignment, -⟩ := searchPlacements_retained uncut best ranked.front_mem
    exact ⟨records, assignment⟩
  cases searched with
  | @blocked plan decision member empty outcome =>
    refine iff_of_true ⟨decision, rfl, outcome⟩ fun ⟨records, assignment⟩ => ?_
    have chosen := mem_levels_iff.mpr ⟨records, assignment.eligible, assignment.retained, rfl⟩
    rw [← uncut.levels] at chosen
    obtain ⟨candidate, -, there⟩ := forall₂_mem_right chosen (List.mem_map.mpr ⟨plan, member, rfl⟩)
    rw [empty] at there
    cases there
  | @exhausted decision candidates none outcome =>
    refine iff_of_true ⟨decision, rfl, outcome⟩ fun ⟨records, assignment⟩ => ?_
    obtain ⟨kept, there, -⟩ := searchPlacements_covers uncut (uncut.evaluations candidates) assignment
    rw [none] at there
    cases there
  | refused ranked =>
    refine iff_of_false (fun ⟨decision, result, _⟩ => ?_) (not_not.mpr (retained ranked))
    cases result
  | placed candidates ranked loop outcome =>
    refine iff_of_false (fun ⟨decision, result, empty⟩ => ?_) (not_not.mpr (retained ranked))
    cases result
    rw [outcome] at empty
    cases empty

/-- NO_PLACEMENT is the truth: no assignment of registered resources is valid. -/
def Truthful (state : SchedulerState) (request : ScheduleRequest) (limits : Limits)
    (result : Except Status Decision) : Prop :=
  ∀ decision, result = .ok decision → decision.outcome = .noPlacement →
    ¬ ∃ records, Assignment state request limits records

/-- The collapse spares a valid assignment: when there is one, there is one whose every resource has the
    least identity of the resources with its interchangeability key. -/
def Spares (state : SchedulerState) (request : ScheduleRequest) (limits : Limits) : Prop :=
  (∃ records, Assignment state request limits records) →
    ∃ records, RetainedAssignment state request limits records

/-- The scopes at which the interchangeability key holds a resource's domain. -/
def TopologyScope.keyed : TopologyScope → Bool
  | .host | .rack | .cluster => true
  | .numaDomain | .rootComplex => false

theorem Interchangeable.domain {requirement : ResourceRequirement} {a b : ResourceRecord}
    (same : Interchangeable state request limits requirement a b) {scope : TopologyScope}
    (keyed : scope.keyed) : (a.topology.domain scope).id = (b.topology.domain scope).id := by
  cases scope with
  | host => exact same.host
  | rack => exact same.rack
  | cluster => exact same.cluster
  | numaDomain | rootComplex => cases keyed

theorem Interchangeable.reserved {requirement : ResourceRequirement} {a b : ResourceRecord}
    (same : Interchangeable state request limits requirement a b) :
    reservedByOtherPlacement state request.experiment a.id request.id =
      reservedByOtherPlacement state request.experiment b.id request.id := by
  have reuse : (if reservedByOtherPlacement state request.experiment a.id request.id then kUnit else 0) =
      if reservedByOtherPlacement state request.experiment b.id request.id then kUnit else 0 :=
    congrFun same.additive .reuse
  generalize reservedByOtherPlacement state request.experiment a.id request.id = left at reuse ⊢
  generalize reservedByOtherPlacement state request.experiment b.id request.id = right at reuse ⊢
  revert reuse
  cases left <;> cases right <;> decide

theorem exists_retained {requirement : ResourceRequirement} {resource : ResourceRecord}
    (eligible : resource ∈ eligibleResources state request limits requirement) :
    ∃ other ∈ eligibleResources state request limits requirement, Retained state request limits requirement other ∧
      Interchangeable state request limits requirement resource other := by
  let alike := (eligibleResources state request limits requirement).filter fun other =>
    resourceKey state request limits requirement other = resourceKey state request limits requirement resource
  have here : resource ∈ alike := List.mem_filter.mpr ⟨eligible, by simp⟩
  have some : (alike : Multiset ResourceRecord) ≠ 0 := fun none => by
    rw [(Multiset.coe_eq_zero alike).mp none] at here
    cases here
  obtain ⟨least, member, below⟩ := Multiset.exists_min_image (fun other => other.id) some
  obtain ⟨there, key⟩ := List.mem_filter.mp member
  have key := of_decide_eq_true key
  refine ⟨least, there, fun other eligible same => ?_, .of_key key.symm⟩
  exact below other (List.mem_filter.mpr ⟨eligible, by simp [same, key]⟩)

/-- A requirement, the resource assigned to it, and the one that is to stand in. -/
structure StandsIn (state : SchedulerState) (request : ScheduleRequest) (limits : Limits)
    (requirement : ResourceRequirement) (both : ResourceRecord × ResourceRecord) : Prop where
  eligible : both.1 ∈ eligibleResources state request limits requirement
  standIn : both.2 ∈ eligibleResources state request limits requirement
  retained : Retained state request limits requirement both.2
  same : Interchangeable state request limits requirement both.1 both.2

theorem exists_standIns {requirements : List ResourceRequirement} {records : List ResourceRecord}
    (eligible : List.Forall₂
      (fun requirement resource => resource ∈ eligibleResources state request limits requirement)
      requirements records) :
    ∃ both : List (ResourceRecord × ResourceRecord), both.map Prod.fst = records ∧
      List.Forall₂ (StandsIn state request limits) requirements both := by
  induction eligible with
  | nil => exact ⟨[], rfl, .nil⟩
  | cons member _ ih =>
    obtain ⟨other, there, retained, same⟩ := exists_retained member
    obtain ⟨both, firsts, stand⟩ := ih
    exact ⟨(_, other) :: both, by rw [List.map_cons, firsts], .cons ⟨member, there, retained, same⟩ stand⟩

/-- The pairs of an assignment and of what stands in for it. -/
abbrev Beside := (ResourceRecord × ResourceRecord) × ResourceRequirement

theorem constraintHolds_congr {both : List Beside} {constraint : GroupConstraint}
    {holds : ResourceRecord → ResourceRecord → TopologyScope → Bool}
    (same : ∀ a ∈ both, ∀ b ∈ both, holds a.1.1 b.1.1 constraint.scope = holds a.1.2 b.1.2 constraint.scope) :
    constraintHolds (both.map fun pair => (pair.1.1, pair.2)) constraint holds =
      constraintHolds (both.map fun pair => (pair.1.2, pair.2)) constraint holds := by
  unfold constraintHolds
  rw [Bool.eq_iff_iff]
  simp only [List.all_map, List.all_eq_true, Function.comp_apply, Bool.or_eq_true]
  refine forall₂_congr fun a first => or_congr Iff.rfl (forall₂_congr fun b second => or_congr Iff.rfl ?_)
  rw [same a first b second]

theorem domainsAreEqual_congr {a a' b b' : ResourceRecord} {scope : TopologyScope}
    (first : (a.topology.domain scope).id = (a'.topology.domain scope).id)
    (second : (b.topology.domain scope).id = (b'.topology.domain scope).id) :
    domainsAreEqual a b scope = domainsAreEqual a' b' scope := by
  unfold domainsAreEqual topologyDomainsEqual
  rw [first, second]

theorem domainsAreDisjoint_congr {a a' b b' : ResourceRecord} {scope : TopologyScope}
    (first : (a.topology.domain scope).id = (a'.topology.domain scope).id)
    (second : (b.topology.domain scope).id = (b'.topology.domain scope).id) :
    domainsAreDisjoint a b scope = domainsAreDisjoint a' b' scope := by
  unfold domainsAreDisjoint
  rw [first, second]

theorem distinct_of_classes {requirements : List ResourceRequirement} {records : List ResourceRecord}
    (classes : (requirements.map ResourceRequirement.resourceClass).Nodup)
    (eligible : List.Forall₂
      (fun requirement resource => resource ∈ eligibleResources state request limits requirement)
      requirements records) : (records.map fun record => record.id).Nodup := by
  have found : ∀ record ∈ records, state.resources.find? record.id = some record := by
    intro record member
    obtain ⟨requirement, -, there⟩ := forall₂_mem_right eligible member
    exact (mem_eligibleResources.mp there).1
  have sameClasses : requirements.map ResourceRequirement.resourceClass =
      records.map fun record => record.resourceClass := by
    apply forall₂_map_eq eligible
    intro requirement record there
    have relevant := (List.mem_filter.mp there).1
    exact (beq_iff_eq.mp (List.mem_filter.mp relevant).2).symm
  rw [sameClasses] at classes
  refine (List.Nodup.of_map _ classes).map_on fun a first b second same => ?_
  have there := found a first
  rw [same, found b second] at there
  exact (Option.some.inj there).symm

theorem standIns_exclusive {requirements : List ResourceRequirement}
    {both : List (ResourceRecord × ResourceRecord)}
    (stand : List.Forall₂ (StandsIn state request limits) requirements both) :
    (standIns state request limits requirements (both.map Prod.snd)).map CandidateResource.exclusive =
      (standIns state request limits requirements (both.map Prod.fst)).map CandidateResource.exclusive := by
  induction stand with
  | nil => rfl
  | cons here _ ih =>
    unfold standIns at ih ⊢
    simp only [List.map_cons, List.zipWith_cons_cons]
    rw [ih, here.same.exclusive]

/-- Distinct classes keep the retained resources apart, and the key holds every domain the constraints
    look at: then the collapse cannot hide an assignment. -/
theorem Spares.of_distinct_classes (classes : (request.requirements.map ResourceRequirement.resourceClass).Nodup)
    (scopes : ∀ constraint ∈ request.affinity ++ request.antiAffinity, constraint.scope.keyed) :
    Spares state request limits := by
  intro ⟨records, assignment⟩
  obtain ⟨both, rfl, stand⟩ := exists_standIns assignment.eligible
  have valid := validateSelection_eq_none.mp assignment.valid
  have eligible : List.Forall₂
      (fun requirement resource => resource ∈ eligibleResources state request limits requirement)
      request.requirements (both.map Prod.snd) :=
    List.forall₂_map_right_iff.mpr (stand.imp fun _ _ stands => stands.standIn)
  have retained : List.Forall₂ (Retained state request limits) request.requirements (both.map Prod.snd) :=
    List.forall₂_map_right_iff.mpr (stand.imp fun _ _ stands => stands.retained)
  have same : ∀ pair ∈ both.zip request.requirements, StandsIn state request limits pair.2 pair.1 := by
    intro pair member
    exact (List.forall₂_iff_zip.mp stand.flip).2 member
  refine ⟨both.map Prod.snd, ⟨eligible, validateSelection_eq_none.mpr ?_⟩, retained⟩
  have before : (both.map Prod.fst).zip request.requirements =
      (both.zip request.requirements).map fun pair => (pair.1.1, pair.2) := by
    rw [List.zip_map_left]
    rfl
  have after : (both.map Prod.snd).zip request.requirements =
      (both.zip request.requirements).map fun pair => (pair.1.2, pair.2) := by
    rw [List.zip_map_left]
    rfl
  constructor
  case distinct => exact distinct_of_classes classes eligible
  case affinity =>
    intro constraint member
    have keyed := scopes constraint (List.mem_append_left _ member)
    have holds := valid.affinity constraint member
    rw [before, constraintHolds_congr] at holds
    · rwa [after]
    · intro a first b second
      exact domainsAreEqual_congr ((same a first).same.domain keyed) ((same b second).same.domain keyed)
  case antiAffinity =>
    intro constraint member
    have keyed := scopes constraint (List.mem_append_right _ member)
    have holds := valid.antiAffinity constraint member
    rw [before, constraintHolds_congr] at holds
    · rwa [after]
    · intro a first b second
      exact domainsAreDisjoint_congr ((same a first).same.domain keyed) ((same b second).same.domain keyed)
  case experiment =>
    intro apart record member
    obtain ⟨pair, there, rfl⟩ := List.mem_map.mp member
    obtain ⟨requirement, -, stands⟩ := forall₂_mem_right stand there
    rw [← stands.same.reserved]
    exact valid.experiment apart pair.1 (List.mem_map_of_mem there)
  case exclusive =>
    intro exclusive candidate member
    have flags := List.mem_map_of_mem (f := CandidateResource.exclusive) member
    rw [standIns_exclusive stand] at flags
    obtain ⟨other, there, flag⟩ := List.mem_map.mp flags
    rw [← flag]
    exact valid.exclusive exclusive other there

end Truth

/-- A NO_PLACEMENT that no bound cut short is truthful when the collapse spares a valid assignment, and
    only then. -/
theorem noPlacement_truthful (state : SchedulerState) (config : EngineConfig) (ids : IdGenerator)
    (stored : StoredRequest) (generation : PlacementGeneration) (reassignments : UInt32)
    (uncut : Uncut state stored.request config.limits) :
    Truthful state stored.request config.limits
        (scheduleLocked state config ids stored generation reassignments).result ↔
      Spares state stored.request config.limits := by
  have searched := scheduleLocked_searched state config ids stored generation reassignments
  have answers := searched.noPlacement_iff uncut
  constructor
  · intro truthful assigned
    by_contra none
    obtain ⟨decision, result, outcome⟩ := answers.mpr none
    exact truthful decision result outcome assigned
  · intro spares decision result outcome assigned
    exact answers.mp ⟨decision, result, outcome⟩ (spares assigned)

/-- The bench beside a twin of it that differs in its identity alone. -/
def Bench.twins : Engine :=
  (Engine.fresh {}).runs
    [.registerResource Bench.advertisement, .registerResource { Bench.advertisement with id := ⟨8⟩ }]

/-- A request for a slot on each of two resources. -/
def Bench.pair : ScheduleRequest :=
  { Bench.request 5 1 with requirements := [{ name := ascii "first" }, { name := ascii "second" }] }

/-- The twins satisfy the request together, but the collapse leaves one of them, which cannot be
    selected twice. -/
theorem collapse_hides_assignment :
    let call := Bench.twins.submission Bench.pair
    Bench.twins.Calls (.submitRequest Bench.pair) call ∧
      Uncut call.state call.stored.request Bench.twins.config.limits ∧
      ¬ Truthful call.state call.stored.request Bench.twins.config.limits
        (call.scheduled Bench.twins.config Bench.twins.ids).result := by
  intro call
  have records : ∃ records, Assignment call.state call.stored.request Bench.twins.config.limits records :=
    ⟨call.state.resources.entries, .cons (by decide) (.cons (by decide) .nil), by decide⟩
  refine ⟨.submit (by decide), ⟨by decide, fun _ => by decide⟩, fun truthful => ?_⟩
  have outcome : ((call.scheduled Bench.twins.config Bench.twins.ids).result.toOption.map Decision.outcome) =
      some .noPlacement := by decide
  cases result : (call.scheduled Bench.twins.config Bench.twins.ids).result with
  | error status =>
    rw [result] at outcome
    cases outcome
  | ok decision =>
    rw [result] at outcome
    exact truthful decision result (Option.some.inj outcome) records

theorem noPlacement_truthful_bench :
    let call := Bench.twins.submission Bench.pair
    Truthful call.state call.stored.request Bench.twins.config.limits
        (call.scheduled Bench.twins.config Bench.twins.ids).result ↔
      Spares call.state call.stored.request Bench.twins.config.limits :=
  noPlacement_truthful _ _ _ _ _ _ ⟨by decide, fun _ => by decide⟩

end LabScheduler
