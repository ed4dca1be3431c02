import LabScheduler.Foundation.Paired
import LabScheduler.Foundation.Search
import LabScheduler.Engine.Scheduling

namespace LabScheduler

open Foundation

section Exploration

variable (state : SchedulerState) (request : ScheduleRequest) (limits : Limits)

def pathScore (path : List CandidateResource) : Int := (path.map CandidateResource.partialScore).sum

def frontScore (candidates : List CandidateResource) : Int :=
  (candidates.head?.map CandidateResource.partialScore).getD 0

/-- `search_recursive` as an exploration of the candidate lists. -/
def placementSearch (bound : Int) : Search CandidateResource SearchOutcome where
  enter outcome :=
    if outcome.truncated then outcome
    else if limits.maxCandidatesEvaluated.toNat ≤ outcome.evaluations then { outcome with truncated := true }
    else outcome
  halted outcome := outcome.truncated
  prunes levels path candidate outcome :=
    prunes (pathScore path + candidate.partialScore + (levels.map frontScore).sum + bound) outcome.bestRaw
  leaf path outcome := evaluateSelection state request limits path outcome

theorem searchLevel_eq {visit visit' : CandidateResource → SearchOutcome → SearchOutcome}
    (same : visit = visit') (ceiling : CandidateResource → Int) (candidates : List CandidateResource)
    (outcome : SearchOutcome) :
    searchLevel visit ceiling candidates outcome =
      Search.level SearchOutcome.truncated (fun candidate outcome => prunes (ceiling candidate) outcome.bestRaw)
        visit' candidates outcome := by
  subst same
  induction candidates generalizing outcome with
  | nil => rfl
  | cons candidate rest ih =>
    unfold searchLevel Search.level
    split
    · rfl
    · extract_lets after
      split
      · rfl
      · exact ih _

theorem searchRecursive_eq (bound : Int) (plans : List RequirementPlan) (path : List CandidateResource)
    (outcome : SearchOutcome) :
    searchRecursive state request limits bound plans (pathScore path) path outcome =
      (placementSearch state request limits bound).explore (plans.map RequirementPlan.candidates) path outcome := by
  induction plans generalizing path outcome with
  | nil =>
    unfold searchRecursive
    simp only [List.map_nil, Search.explore, placementSearch]
    split
    · simp
    · split <;> simp
  | cons plan rest ih =>
    unfold searchRecursive
    simp only [List.map_cons, Search.explore]
    have deeper : (fun candidate outcome => searchRecursive state request limits bound rest
        (pathScore path + candidate.partialScore) (path ++ [candidate]) outcome) =
        fun candidate outcome => (placementSearch state request limits bound).explore
          (rest.map RequirementPlan.candidates) (path ++ [candidate]) outcome := by
      funext candidate outcome
      rw [← ih]
      simp [pathScore]
    have same : (rest.map RequirementPlan.candidates).map frontScore = rest.map frontPartial := by
      simp [frontScore, frontPartial, Function.comp_def]
    rw [searchLevel_eq deeper]
    simp only [placementSearch, same, remainingMax]
    split
    · simp
    · split <;> simp

end Exploration

theorem mem_collapse {resources : ResourceTable} {seen : List Text} {candidates : List CandidateResource}
    {candidate : CandidateResource} (member : candidate ∈ collapse resources seen candidates) :
    candidate ∈ candidates := by
  induction candidates generalizing seen with
  | nil => cases member
  | cons first rest ih =>
    unfold collapse at member
    split at member
    · exact List.mem_cons_of_mem _ (ih member)
    · extract_lets key at member
      split at member
      · exact List.mem_cons_of_mem _ (ih member)
      · rcases List.mem_cons.mp member with rfl | later
        · exact List.mem_cons_self
        · exact List.mem_cons_of_mem _ (ih later)

/-- `candidate` stands for a registered resource that is eligible for `requirement`. -/
structure Eligible (state : SchedulerState) (request : ScheduleRequest) (limits : Limits)
    (requirement : ResourceRequirement) (candidate : CandidateResource) (resource : ResourceRecord) : Prop where
  found : state.resources.find? resource.id = some resource
  eligible : (evaluateResource request requirement resource limits).eligible
  candidate : candidate = candidateResource state request limits requirement resource

theorem Eligible.claims {state : SchedulerState} {request : ScheduleRequest} {limits : Limits}
    {requirement : ResourceRequirement} {candidate : CandidateResource} {resource : ResourceRecord}
    (eligible : Eligible state request limits requirement candidate resource) :
    candidate.id = resource.id ∧ candidate.slots = claimedSlots request requirement resource ∧
      candidate.exclusive = claimsExclusively request requirement resource := by
  obtain ⟨slots, exclusive⟩ := evaluateResource_claims eligible.eligible
  rw [eligible.candidate]
  exact ⟨rfl, slots, exclusive⟩

theorem mem_rankedCandidates {state : SchedulerState} {request : ScheduleRequest} {limits : Limits}
    {requirement : ResourceRequirement} {candidate : CandidateResource} :
    candidate ∈ rankedCandidates state request limits requirement ↔
      ∃ resource, resource.resourceClass = requirement.resourceClass ∧
        Eligible state request limits requirement candidate resource := by
  simp only [rankedCandidates, List.mem_insertionSort, List.mem_map, eligibleResources, relevantResources,
    List.mem_filter, beq_iff_eq]
  constructor
  · rintro ⟨resource, ⟨⟨member, sameClass⟩, eligible⟩, rfl⟩
    exact ⟨resource, sameClass, ⟨Table.find?_of_mem member, eligible, rfl⟩⟩
  · rintro ⟨resource, sameClass, found, eligible, rfl⟩
    exact ⟨resource, ⟨⟨Table.mem_of_find? found, sameClass⟩, eligible⟩, rfl⟩

theorem mem_buildPlan {state : SchedulerState} {request : ScheduleRequest} {limits : Limits}
    {requirement : ResourceRequirement} {candidate : CandidateResource}
    (member : candidate ∈ (buildPlan state request limits requirement).candidates) :
    ∃ resource, Eligible state request limits requirement candidate resource := by
  obtain ⟨resource, -, eligible⟩ := mem_rankedCandidates.mp (mem_collapse (List.mem_of_mem_take member))
  exact ⟨resource, eligible⟩

/-- What holds of every selection the search hands to the commit. -/
structure Chosen (state : SchedulerState) (request : ScheduleRequest) (limits : Limits)
    (selection : List CandidateResource) : Prop where
  eligible : List.Forall₂
    (fun candidate requirement => ∃ resource, Eligible state request limits requirement candidate resource)
    selection request.requirements
  valid : ∃ records, (selection.mapM fun candidate => state.resources.find? candidate.id) = some records ∧
    validateSelection state request records selection = none

/-- The answer `true` of `validate_selection`, test by test. -/
structure ValidSelection (state : SchedulerState) (request : ScheduleRequest) (records : List ResourceRecord)
    (selection : List CandidateResource) : Prop where
  distinct : (records.map fun record => record.id).Nodup
  affinity : ∀ constraint ∈ request.affinity,
    constraintHolds (records.zip request.requirements) constraint domainsAreEqual
  antiAffinity : ∀ constraint ∈ request.antiAffinity,
    constraintHolds (records.zip request.requirements) constraint domainsAreDisjoint
  experiment : request.experimentAntiAffinity → ∀ record ∈ records,
    reservedByOtherPlacement state request.experiment record.id request.id = false
  exclusive : request.exclusive → ∀ candidate ∈ selection, candidate.exclusive

theorem validateSelection_eq_none {state : SchedulerState} {request : ScheduleRequest}
    {records : List ResourceRecord} {selection : List CandidateResource} :
    validateSelection state request records selection = none ↔
      ValidSelection state request records selection := by
  unfold validateSelection
  extract_lets pairs
  constructor
  · intro valid
    split at valid <;> rename_i distinct
    · cases valid
    · split at valid <;> rename_i affinity
      · cases valid
      · split at valid <;> rename_i antiAffinity
        · cases valid
        · split at valid <;> rename_i experiment
          · cases valid
          · split at valid <;> rename_i exclusive
            · cases valid
            · refine ⟨not_not.mp distinct, by simpa using affinity, by simpa using antiAffinity, ?_, ?_⟩
              · simpa using experiment
              · simpa using exclusive
  · intro valid
    rw [if_neg (not_not.mpr valid.distinct), if_neg, if_neg, if_neg, if_neg]
    · simpa using valid.exclusive
    · simpa using valid.experiment
    · simpa using valid.antiAffinity
    · simpa using valid.affinity

theorem mapM_find?_eq_some {resources : ResourceTable} {selection : List CandidateResource}
    {records : List ResourceRecord}
    (found : (selection.mapM fun candidate => resources.find? candidate.id) = some records) :
    List.Forall₂ (fun candidate record => resources.find? candidate.id = some record) selection records := by
  induction selection generalizing records with
  | nil =>
    simp at found
    exact found ▸ .nil
  | cons candidate rest ih =>
    simp only [List.mapM_cons, Option.bind_eq_bind, Option.bind_eq_some_iff, Option.pure_def,
      Option.some.injEq] at found
    obtain ⟨record, first, others, later, rfl⟩ := found
    exact .cons first (ih later)

theorem Chosen.distinct {state : SchedulerState} {request : ScheduleRequest} {limits : Limits}
    {selection : List CandidateResource} (chosen : Chosen state request limits selection) :
    (selection.map CandidateResource.id).Nodup := by
  obtain ⟨records, found, valid⟩ := chosen.valid
  have same : selection.map CandidateResource.id = records.map fun record => record.id :=
    forall₂_map_eq (mapM_find?_eq_some found) fun there => (ResourceTable.id_of_find? there).symm
  exact same ▸ (validateSelection_eq_none.mp valid).distinct

theorem Chosen.length {state : SchedulerState} {request : ScheduleRequest} {limits : Limits}
    {selection : List CandidateResource} (chosen : Chosen state request limits selection) :
    selection.length = request.requirements.length :=
  chosen.eligible.length_eq

theorem mem_replaceWorst {candidates : List RankingCandidate} {candidate kept : RankingCandidate}
    (member : kept ∈ replaceWorst candidates candidate) : kept ∈ candidates ∨ kept = candidate := by
  unfold replaceWorst at member
  split at member
  · simp_all
  · extract_lets worst at member
    split at member
    · exact List.mem_or_eq_of_mem_set member
    · exact .inl member

theorem mem_keepCandidate {limits : Limits} {candidates : List RankingCandidate}
    {candidate kept : RankingCandidate} (member : kept ∈ keepCandidate limits candidates candidate) :
    kept ∈ candidates ∨ kept = candidate := by
  unfold keepCandidate at member
  split at member
  · simpa using member
  · exact mem_replaceWorst member

def AllChosen (state : SchedulerState) (request : ScheduleRequest) (limits : Limits)
    (outcome : SearchOutcome) : Prop :=
  ∀ candidate ∈ outcome.candidates, Chosen state request limits candidate.selection

theorem buildPlans_eligible {state : SchedulerState} {request : ScheduleRequest} {limits : Limits}
    {choice : List CandidateResource}
    (chosen : List.Forall₂ (· ∈ ·) choice
      ((buildPlans state request limits).map RequirementPlan.candidates)) :
    List.Forall₂
      (fun candidate requirement => ∃ resource, Eligible state request limits requirement candidate resource)
      choice request.requirements := by
  simp only [buildPlans, List.map_map, List.forall₂_map_right_iff] at chosen
  exact chosen.imp fun _ _ member => mem_buildPlan member

theorem searchPlacements_eq (state : SchedulerState) (request : ScheduleRequest) (limits : Limits)
    (plans : List RequirementPlan) :
    searchPlacements state request limits plans =
      (placementSearch state request limits (crossBound request plans.length)).explore
        (plans.map RequirementPlan.candidates) [] {} :=
  searchRecursive_eq state request limits _ plans [] {}

theorem searchPlacements_keeps {state : SchedulerState} {request : ScheduleRequest} {limits : Limits}
    {plans : List RequirementPlan} {property : RankingCandidate → Prop}
    (ranked : ∀ selection records, List.Forall₂ (· ∈ ·) selection (plans.map RequirementPlan.candidates) →
      (selection.mapM fun candidate => state.resources.find? candidate.id) = some records →
      validateSelection state request records selection = none →
        property (rankingCandidate state request selection records)) :
    ∀ kept ∈ (searchPlacements state request limits plans).candidates, property kept := by
  let sound (outcome : SearchOutcome) : Prop := ∀ kept ∈ outcome.candidates, property kept
  have all : sound ((placementSearch state request limits (crossBound request plans.length)).explore
      (plans.map RequirementPlan.candidates) [] {}) := by
    refine Search.explore_preserves ?_ ?_ nofun
    · intro outcome holds
      unfold placementSearch
      dsimp only
      repeat' split
      all_goals exact holds
    · intro selection chosen outcome holds
      change sound (evaluateSelection state request limits _ outcome)
      unfold evaluateSelection
      rw [List.nil_append]
      split
      · exact holds
      · rename_i records found
        split
        · exact holds
        · rename_i valid
          intro kept member
          rcases mem_keepCandidate member with before | rfl
          · exact holds kept before
          · exact ranked selection records chosen found valid
  rw [searchPlacements_eq]
  exact all

theorem searchPlacements_allChosen (state : SchedulerState) (request : ScheduleRequest) (limits : Limits) :
    AllChosen state request limits
      (searchPlacements state request limits (buildPlans state request limits)) := by
  apply searchPlacements_keeps
  intro selection records chosen found valid
  exact ⟨buildPlans_eligible chosen, records, found, valid⟩

end LabScheduler
