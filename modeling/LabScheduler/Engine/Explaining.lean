import LabScheduler.Engine.Operations
import LabScheduler.Engine.Scheduling
import LabScheduler.Foundation.Paired

namespace LabScheduler

open Foundation

/-- Other bounds on the reasons of a rejected resource and on the rejected resources of a requirement. -/
def Limits.explaining (limits : Limits) (reasons entries : UInt32) : Limits :=
  { limits with maxRejectionReasonsPerEntry := reasons, maxRejectedEntriesPerRequirement := entries }

def EngineConfig.explaining (config : EngineConfig) (reasons entries : UInt32) : EngineConfig :=
  { config with limits := config.limits.explaining reasons entries }

/-- The outcome of a call, and the resources it selects with their slots and exclusivity. -/
def Scheduled.verdict (scheduled : Scheduled) : Except Status (DecisionOutcome × List SelectedResource) :=
  scheduled.result.map fun decision => (decision.outcome, decision.placement.resources)

def Eligibility.claim (eligibility : Eligibility) : Bool × UInt32 × Bool :=
  (eligibility.eligible, eligibility.slots, eligibility.exclusive)

/-- Bounds under which some validated request can have a candidate evaluated. -/
structure Limits.Placing (limits : Limits) : Prop where
  requirements : limits.maxRequirementsPerRequest ≠ 0
  text : limits.maxStringLength ≠ 0
  candidates : limits.maxCandidateResourcesPerRequirement ≠ 0
  evaluated : limits.maxCandidatesEvaluated ≠ 0

section Eligibility

variable {state : SchedulerState} {request : ScheduleRequest} {requirement : ResourceRequirement}
  {resource : ResourceRecord} {limits : Limits}

theorem applyTest_claim (maximum : UInt32) (eligibility : Eligibility) (test : Bool × RejectReason) :
    (applyTest maximum eligibility test).claim = eligibility.claim := by
  unfold applyTest reject
  split
  · split <;> rfl
  · rfl

theorem runTests_claim (tests : List (Bool × RejectReason)) (maximum : UInt32) (eligibility : Eligibility) :
    (runTests tests maximum eligibility).claim = eligibility.claim := by
  induction tests generalizing eligibility with
  | nil => rfl
  | cons test rest ih => exact (ih _).trans (applyTest_claim ..)

theorem runTests_none {tests : List (Bool × RejectReason)} {maximum : UInt32}
    (silent : maximum = 0 ∨ ∀ test ∈ tests, test.1 = false) (eligibility : Eligibility) :
    runTests tests maximum eligibility = eligibility := by
  induction tests generalizing eligibility with
  | nil => rfl
  | cons test rest ih =>
    have first : applyTest maximum eligibility test = eligibility := by
      unfold applyTest reject
      rcases silent with rfl | passed
      · simp
      · rw [passed test List.mem_cons_self]
        rfl
    change runTests rest maximum (applyTest maximum eligibility test) = eligibility
    rw [first]
    exact ih (silent.imp_right fun passed other later => passed other (List.mem_cons_of_mem _ later)) eligibility

theorem evaluateResource_claim (request : ScheduleRequest) (requirement : ResourceRequirement)
    (resource : ResourceRecord) (limits : Limits) :
    (evaluateResource request requirement resource limits).claim =
      if resource.resourceClass = requirement.resourceClass ∧ (limits.maxRejectionReasonsPerEntry = 0 ∨
          ∀ test ∈ hardTests request requirement resource, test.1 = false) then
        (true, claimedSlots request requirement resource, claimsExclusively request requirement resource)
      else (false, 1, false) := by
  unfold evaluateResource
  extract_lets maximum result
  split
  · rename_i other
    rw [if_neg fun both => other both.1]
    exact applyTest_claim maximum {} (true, .resourceClassMismatch)
  · rename_i same
    have same := not_not.mp same
    by_cases silent : limits.maxRejectionReasonsPerEntry = 0 ∨
        ∀ test ∈ hardTests request requirement resource, test.1 = false
    · have none : result = {} := runTests_none silent {}
      have unrecorded : ¬ result.reasons ≠ [] := by
        rw [none]
        exact not_not.mpr rfl
      rw [if_neg unrecorded, if_pos ⟨same, silent⟩]
      rfl
    · have recorded : result.reasons ≠ [] := by
        intro none
        obtain ⟨kept, failed⟩ := not_or.mp silent
        have room : 1 ≤ maximum := by
          rw [UInt32.le_iff_toNat_le, UInt32.toNat_one]
          exact Nat.one_le_iff_ne_zero.mpr fun zero => kept (UInt32.toNat_inj.mp zero)
        exact failed (runTests_reasons room none).2
      rw [if_pos recorded, if_neg fun both => silent both.2]
      exact runTests_claim ..

theorem evaluateResource_explaining {reasons : UInt32} (entries : UInt32)
    (same : limits.maxRejectionReasonsPerEntry = 0 ↔ reasons = 0) :
    (evaluateResource request requirement resource (limits.explaining reasons entries)).claim =
      (evaluateResource request requirement resource limits).claim := by
  rw [evaluateResource_claim, evaluateResource_claim]
  have kept : (limits.explaining reasons entries).maxRejectionReasonsPerEntry = 0 ↔
    limits.maxRejectionReasonsPerEntry = 0 := same.symm
  simp only [kept]

theorem candidateResource_claim {other : Limits}
    (same : (evaluateResource request requirement resource other).claim =
      (evaluateResource request requirement resource limits).claim) :
    candidateResource state request other requirement resource =
      candidateResource state request limits requirement resource := by
  obtain ⟨-, claim⟩ := Prod.mk.inj same
  obtain ⟨slots, exclusive⟩ := Prod.mk.inj claim
  have additive : computeAdditiveValues state request requirement resource
      (evaluateResource request requirement resource other) =
        computeAdditiveValues state request requirement resource
          (evaluateResource request requirement resource limits) := by
    unfold computeAdditiveValues
    rw [slots, exclusive]
  unfold candidateResource
  simp only [slots, exclusive, additive]

theorem buildPlan_explaining {reasons : UInt32} (entries : UInt32)
    (same : limits.maxRejectionReasonsPerEntry = 0 ↔ reasons = 0) :
    (buildPlan state request (limits.explaining reasons entries) requirement).candidates =
      (buildPlan state request limits requirement).candidates := by
  have claims (resource : ResourceRecord) :=
    @evaluateResource_explaining request requirement resource limits reasons entries same
  have eligible : eligibleResources state request (limits.explaining reasons entries) requirement =
      eligibleResources state request limits requirement :=
    List.filter_congr fun resource _ => (Prod.mk.inj (claims resource)).1
  have ranked : rankedCandidates state request (limits.explaining reasons entries) requirement =
      rankedCandidates state request limits requirement := by
    unfold rankedCandidates
    rw [eligible]
    exact congrArg _ (List.map_congr_left fun resource _ => candidateResource_claim (claims resource))
  unfold buildPlan distinctCandidates
  rw [ranked]
  rfl

end Eligibility

section Search

variable (state : SchedulerState) (request : ScheduleRequest) (limits : Limits)

theorem searchRecursive_candidates (bound : Int) {plans others : List RequirementPlan}
    (same : List.Forall₂ (fun plan other => plan.candidates = other.candidates) plans others) (partialScore : Int)
    (current : List CandidateResource) (outcome : SearchOutcome) :
    searchRecursive state request limits bound plans partialScore current outcome =
      searchRecursive state request limits bound others partialScore current outcome := by
  induction same generalizing partialScore current outcome with
  | nil => rfl
  | @cons plan other rest later here later' ih =>
    have ceiling : remainingMax rest = remainingMax later := by
      unfold remainingMax frontPartial
      rw [forall₂_map_eq later' fun same => by rw [same]]
    unfold searchRecursive
    simp only [ih, here, ceiling]

theorem searchRecursive_explaining (reasons entries : UInt32) (bound : Int) (plans : List RequirementPlan)
    (partialScore : Int) (current : List CandidateResource) (outcome : SearchOutcome) :
    searchRecursive state request (limits.explaining reasons entries) bound plans partialScore current outcome =
      searchRecursive state request limits bound plans partialScore current outcome := by
  induction plans generalizing partialScore current outcome with
  | nil => rfl
  | cons plan rest ih =>
    unfold searchRecursive
    simp only [ih]
    rfl

end Search

section Verdict

variable {state : SchedulerState} {config : EngineConfig} {ids : IdGenerator} {stored : StoredRequest}
  {generation : PlacementGeneration} {reassignments : UInt32}

def verdictOf (sorting : CandidateSort) (state : SchedulerState) (request : ScheduleRequest) (limits : Limits)
    (plans : List RequirementPlan) : Except Status (DecisionOutcome × List SelectedResource) :=
  if plans.any fun plan => plan.candidates.isEmpty then .ok (.noPlacement, [])
  else
    match sorting.sort (searchPlacements state request limits plans).candidates with
    | [] => .ok (.noPlacement, [])
    | best :: _ => do
      checkCommitBounds state limits
      let taken ← (commitLoop state.resources (best.selection.zip request.requirements)).2
      return (.placed, taken.1)

theorem commitPlacement_verdict (explanation : Explanation) (ranked : List RankingCandidate) (best : RankingCandidate) :
    (commitPlacement state config ids stored generation reassignments explanation ranked best).verdict =
      (commitLoop state.resources (best.selection.zip stored.request.requirements)).2.map fun taken =>
        (.placed, taken.1) := by
  unfold commitPlacement
  extract_lets request
  cases commitLoop state.resources (best.selection.zip request.requirements) with
  | mk resources taken => cases taken <;> rfl

theorem scheduleLocked_verdict :
    (scheduleLocked state config ids stored generation reassignments).verdict =
      verdictOf config.candidateSort state stored.request config.limits (buildPlans state stored.request config.limits) := by
  unfold scheduleLocked verdictOf
  extract_lets request limits plans
  cases found : plans.find? fun plan => plan.candidates.isEmpty with
  | some blocked =>
    have empty := List.find?_some found
    have any : (plans.any fun plan => plan.candidates.isEmpty) = true :=
      List.any_eq_true.mpr ⟨blocked, List.mem_of_find?_eq_some found, empty⟩
    rw [if_pos any]
    rfl
  | none =>
    have all : ¬ (plans.any fun plan => plan.candidates.isEmpty) = true := by
      rw [List.any_eq_true]
      rintro ⟨plan, member, empty⟩
      exact List.find?_eq_none.mp found plan member empty
    rw [if_neg all]
    simp only
    cases config.candidateSort.sort (searchPlacements state request limits plans).candidates with
    | nil => rfl
    | cons best others =>
      simp only
      cases checkCommitBounds state limits with
      | error status => rfl
      | ok => exact commitPlacement_verdict ..

theorem verdictOf_explaining {sorting : CandidateSort} {request : ScheduleRequest} {limits : Limits} {reasons : UInt32}
    (entries : UInt32) (same : limits.maxRejectionReasonsPerEntry = 0 ↔ reasons = 0) :
    verdictOf sorting state request (limits.explaining reasons entries)
        (buildPlans state request (limits.explaining reasons entries)) =
      verdictOf sorting state request limits (buildPlans state request limits) := by
  have plans : List.Forall₂ (fun plan other : RequirementPlan => plan.candidates = other.candidates)
      (buildPlans state request (limits.explaining reasons entries)) (buildPlans state request limits) := by
    unfold buildPlans
    rw [List.forall₂_map_left_iff, List.forall₂_map_right_iff]
    exact List.forall₂_same.mpr fun requirement _ => buildPlan_explaining entries same
  have empty : (buildPlans state request (limits.explaining reasons entries)).any (fun plan => plan.candidates.isEmpty) =
      (buildPlans state request limits).any fun plan => plan.candidates.isEmpty := by
    generalize buildPlans state request (limits.explaining reasons entries) = left at plans ⊢
    generalize buildPlans state request limits = right at plans ⊢
    induction plans with
    | nil => rfl
    | cons here _ ih => rw [List.any_cons, List.any_cons, here, ih]
  have search : searchPlacements state request (limits.explaining reasons entries)
      (buildPlans state request (limits.explaining reasons entries)) =
        searchPlacements state request limits (buildPlans state request limits) := by
    unfold searchPlacements
    rw [searchRecursive_explaining, searchRecursive_candidates _ _ _ _ plans, plans.length_eq]
  unfold verdictOf
  rw [empty, search]
  rfl

end Verdict

section Nothing

variable {sorting : CandidateSort} {state : SchedulerState} {request : ScheduleRequest} {limits : Limits}

theorem verdictOf_none {plans : List RequirementPlan}
    (none : (searchPlacements state request limits plans).candidates = []) :
    verdictOf sorting state request limits plans = .ok (.noPlacement, []) := by
  unfold verdictOf
  rw [sorting.sort_eq_nil.mpr none]
  split <;> rfl

theorem validateRequirements_named {names : List Text} {requirements : List ResourceRequirement}
    (valid : validateRequirements names requirements limits = .ok ()) (some : requirements ≠ []) :
    limits.maxStringLength ≠ 0 := by
  cases requirements with
  | nil => exact absurd rfl some
  | cons requirement rest =>
    simp only [validateRequirements, validateRequirement, checkText, check_bind_ok, check_ok] at valid
    obtain ⟨⟨⟨-, short⟩, named, -⟩, -⟩ := valid
    intro zero
    rw [zero, UInt32.toNat_zero, Nat.le_zero, List.length_eq_zero_iff] at short
    exact named short

theorem unplacing_candidates (valid : validateScheduleRequest request limits = .ok ()) (unplacing : ¬ limits.Placing) :
    limits.maxCandidateResourcesPerRequirement = 0 ∨ limits.maxCandidatesEvaluated = 0 := by
  obtain ⟨some, each⟩ := validateScheduleRequest_requirements valid
  have requirements : limits.maxRequirementsPerRequest ≠ 0 := by
    simp only [validateScheduleRequest, check_bind_ok, check_ok] at valid
    obtain ⟨-, -, -, -, -, -, -, -, -, few, -⟩ := valid
    intro zero
    rw [zero, UInt32.toNat_zero, Nat.le_zero, List.length_eq_zero_iff] at few
    exact some few
  have text := validateRequirements_named each some
  by_contra both
  obtain ⟨candidates, evaluated⟩ := not_or.mp both
  exact unplacing ⟨requirements, text, candidates, evaluated⟩

theorem verdictOf_unplacing (some : request.requirements ≠ [])
    (unplacing : limits.maxCandidateResourcesPerRequirement = 0 ∨ limits.maxCandidatesEvaluated = 0) :
    verdictOf sorting state request limits (buildPlans state request limits) = .ok (.noPlacement, []) := by
  rcases unplacing with candidates | evaluated
  · have blocked : ((buildPlans state request limits).any fun plan => plan.candidates.isEmpty) = true := by
      obtain ⟨requirement, member⟩ := List.exists_mem_of_ne_nil _ some
      refine List.any_eq_true.mpr ⟨_, List.mem_map_of_mem member, ?_⟩
      simp only [buildPlan, candidates, UInt32.toNat_zero, List.take_zero, List.isEmpty_nil]
    unfold verdictOf
    rw [if_pos blocked]
  · apply verdictOf_none
    unfold searchPlacements searchRecursive
    rw [if_neg Bool.false_ne_true, if_pos (by rw [evaluated]; exact Nat.zero_le _)]

theorem verdictOf_some {plans : List RequirementPlan} (candidates : ∀ plan ∈ plans, plan.candidates ≠ [])
    (kept : (searchPlacements state request limits plans).candidates ≠ []) :
    verdictOf sorting state request limits plans ≠ .ok (.noPlacement, []) := by
  have all : ¬ (plans.any fun plan => plan.candidates.isEmpty) = true := by
    rw [List.any_eq_true]
    intro some
    obtain ⟨plan, member, empty⟩ := some
    exact candidates plan member (List.isEmpty_iff.mp empty)
  unfold verdictOf
  rw [if_neg all]
  split
  · rename_i none
    exact absurd (sorting.sort_eq_nil.mp none) kept
  · intro same
    obtain ⟨-, same⟩ := check_bind_ok.mp same
    obtain ⟨taken, -, same⟩ := except_bind_ok.mp same
    cases same

theorem searchPlacements_one {plan : RequirementPlan} {candidate : CandidateResource} {records : List ResourceRecord}
    (evaluated : limits.maxCandidatesEvaluated ≠ 0) (only : plan.candidates = [candidate])
    (found : ([candidate].mapM fun candidate => state.resources.find? candidate.id) = some records)
    (accepted : validateSelection state request records [candidate] = none) :
    (searchPlacements state request limits [plan]).candidates = [rankingCandidate state request [candidate] records] := by
  have open_ : ¬ limits.maxCandidatesEvaluated.toNat ≤ 0 := by
    intro zero
    exact evaluated (UInt32.toNat_inj.mp (Nat.le_zero.mp zero))
  have kept (ranked : RankingCandidate) : keepCandidate limits [] ranked = [ranked] := by
    unfold keepCandidate
    split <;> rfl
  have evaluates : (evaluateSelection state request limits [candidate] {}).candidates =
      [rankingCandidate state request [candidate] records] := by
    unfold evaluateSelection
    simp only [found, accepted, kept]
  unfold searchPlacements searchRecursive
  rw [if_neg Bool.false_ne_true, if_neg open_]
  change (searchLevel _ _ plan.candidates {}).candidates = _
  rw [only]
  unfold searchLevel searchRecursive
  simp only [prunes, Bool.false_eq_true, if_false, open_, List.nil_append, searchLevel, ite_self]
  exact evaluates

end Nothing

namespace Bench

def stocked : SchedulerState :=
  { epoch := ⟨1⟩, resources := Table.empty.emplace (registeredRecord ⟨1⟩ advertisement) }

def threeSlots : ResourceRequirement := { name := ascii "s", minSlots := 3 }

/-- A request for one slot more than the bench has. -/
def overask : ScheduleRequest := { request 5 1 with requirements := [threeSlots] }

variable {sorting : CandidateSort} {limits : Limits}

theorem overask_valid (placing : limits.Placing) : validateScheduleRequest overask limits = .ok () := by
  have positive (bound : UInt32) (some : bound ≠ 0) : 1 ≤ bound.toNat :=
    Nat.one_le_iff_ne_zero.mpr fun zero => some (UInt32.toNat_inj.mp zero)
  have one := positive _ placing.requirements
  have text := positive _ placing.text
  have length : (ascii "s").length = 1 := rfl
  have named : ascii "s" ≠ [] := by decide
  have weights : ∀ factor ∈ RankingFactor.all,
      -1000 ≤ (RankingWeights.default factor).toInt ∧ (RankingWeights.default factor).toInt ≤ 1000 := by decide
  have capabilities : CapabilitySet.validateFrom none [] = .ok () := rfl
  have distinct : firstDuplicate (sortIds []) = none := rfl
  simpa [validateScheduleRequest, validateRequirements, validateRequirement, checkText, checkSortedUnique,
    validateOptional, CapabilitySet.validate, affinityGroups, overask, request, threeSlots, one, text, length, named,
    capabilities, distinct] using weights

theorem overask_claim :
    (evaluateResource overask threeSlots (registeredRecord ⟨1⟩ advertisement) limits).claim =
      if limits.maxRejectionReasonsPerEntry = 0 then (true, 3, false) else (false, 1, false) := by
  have fails : ¬ ∀ test ∈ hardTests overask threeSlots (registeredRecord ⟨1⟩ advertisement), test.1 = false := by
    decide
  rw [evaluateResource_claim]
  split
  · rename_i both
    rw [if_pos (both.2.resolve_right fails)]
    rfl
  · rename_i neither
    rw [if_neg fun silent => neither ⟨rfl, .inl silent⟩]

theorem overask_refused (kept : limits.maxRejectionReasonsPerEntry ≠ 0) :
    verdictOf sorting stocked overask limits (buildPlans stocked overask limits) = .ok (.noPlacement, []) := by
  have claim := @overask_claim limits
  rw [if_neg kept] at claim
  have ineligible : (evaluateResource overask threeSlots (registeredRecord ⟨1⟩ advertisement) limits).eligible = false :=
    (Prod.mk.inj claim).1
  have none : eligibleResources stocked overask limits threeSlots = [] := by
    change [registeredRecord ⟨1⟩ advertisement].filter _ = []
    simp only [List.filter_cons, ineligible, Bool.false_eq_true, if_false, List.filter_nil]
  have blocked : ((buildPlans stocked overask limits).any fun plan => plan.candidates.isEmpty) = true := by
    refine List.any_eq_true.mpr ⟨_, List.mem_map_of_mem List.mem_cons_self, ?_⟩
    simp only [buildPlan, distinctCandidates, rankedCandidates, none, List.map_nil, List.insertionSort_nil, collapse,
      List.take_nil, List.isEmpty_nil]
  unfold verdictOf
  rw [if_pos blocked]

theorem overask_granted (silent : limits.maxRejectionReasonsPerEntry = 0) (placing : limits.Placing) :
    verdictOf sorting stocked overask limits (buildPlans stocked overask limits) ≠ .ok (.noPlacement, []) := by
  have claim := @overask_claim limits
  rw [if_pos silent] at claim
  have eligible : (evaluateResource overask threeSlots (registeredRecord ⟨1⟩ advertisement) limits).eligible = true :=
    (Prod.mk.inj claim).1
  have one : eligibleResources stocked overask limits threeSlots = [registeredRecord ⟨1⟩ advertisement] := by
    change [registeredRecord ⟨1⟩ advertisement].filter _ = _
    simp only [List.filter_cons, eligible, if_true, List.filter_nil]
  let candidate := candidateResource stocked overask limits threeSlots (registeredRecord ⟨1⟩ advertisement)
  have only : (buildPlan stocked overask limits threeSlots).candidates = [candidate] := by
    have room : 1 ≤ limits.maxCandidateResourcesPerRequirement.toNat :=
      Nat.one_le_iff_ne_zero.mpr fun zero => placing.candidates (UInt32.toNat_inj.mp zero)
    have distinct : distinctCandidates stocked overask limits threeSlots = [candidate] := by
      unfold distinctCandidates rankedCandidates
      rw [one]
      rfl
    unfold buildPlan
    rw [distinct]
    exact List.take_of_length_le room
  have search := @searchPlacements_one stocked overask limits _ candidate [registeredRecord ⟨1⟩ advertisement]
    placing.evaluated only rfl rfl
  refine verdictOf_some (fun plan member => ?_) ?_
  · rw [List.mem_singleton.mp member, only]
    exact List.cons_ne_nil _ _
  · change (searchPlacements stocked overask limits [buildPlan stocked overask limits threeSlots]).candidates ≠ []
    rw [search]
    exact List.cons_ne_nil _ _

end Bench

/-- The bounds on the explanations leave every decision as it is, unless one of two tables keeps no reason at all. -/
theorem explanation_bounds_silent (config : EngineConfig) (reasons entries : UInt32) :
    (∀ state ids stored generation reassignments,
        validateScheduleRequest stored.request config.limits = .ok () →
        (scheduleLocked state (config.explaining reasons entries) ids stored generation reassignments).verdict =
          (scheduleLocked state config ids stored generation reassignments).verdict) ↔
      ((config.limits.maxRejectionReasonsPerEntry = 0 ↔ reasons = 0) ∨ ¬ config.limits.Placing) := by
  have limits : (config.explaining reasons entries).limits = config.limits.explaining reasons entries := rfl
  have sorting : (config.explaining reasons entries).candidateSort = config.candidateSort := rfl
  simp only [scheduleLocked_verdict, limits, sorting]
  constructor
  · intro silent
    by_contra differ
    obtain ⟨differ, placing⟩ := not_or.mp differ
    have placing := not_not.mp placing
    have placing' : (config.limits.explaining reasons entries).Placing := ⟨placing.1, placing.2, placing.3, placing.4⟩
    have same := silent Bench.stocked {} { request := Bench.overask } {} 0 (Bench.overask_valid placing)
    by_cases kept : config.limits.maxRejectionReasonsPerEntry = 0
    · have other : (config.limits.explaining reasons entries).maxRejectionReasonsPerEntry ≠ 0 :=
        fun zero => differ (iff_of_true kept zero)
      exact Bench.overask_granted kept placing (same.symm.trans (Bench.overask_refused other))
    · have other : (config.limits.explaining reasons entries).maxRejectionReasonsPerEntry = 0 := by
        by_contra some
        exact differ (iff_of_false kept some)
      exact Bench.overask_granted other placing' (same.trans (Bench.overask_refused kept))
  · intro either state _ stored _ _ valid
    rcases either with same | unplacing
    · exact verdictOf_explaining entries same
    · have none := unplacing_candidates valid unplacing
      have some := (validateScheduleRequest_requirements valid).1
      rw [verdictOf_unplacing some none]
      exact verdictOf_unplacing some none

/-- With no reason kept, a request for three slots is placed on a resource of two. -/
theorem silent_bound_places :
    validateScheduleRequest Bench.overask {} = .ok () ∧
      (scheduleLocked Bench.stocked {} {} { request := Bench.overask } {} 0).verdict = .ok (.noPlacement, []) ∧
      ((scheduleLocked Bench.stocked (EngineConfig.explaining {} 0 16) {} { request := Bench.overask } {}
        0).verdict.toOption.map fun verdict =>
          (verdict.1, verdict.2.map fun selected => (selected.resource, selected.slots))) =
        some (.placed, [(⟨7⟩, 3)]) := by
  refine ⟨by decide, ?_, by decide +kernel⟩
  exact scheduleLocked_verdict.trans (Bench.overask_refused (by decide))

end LabScheduler
