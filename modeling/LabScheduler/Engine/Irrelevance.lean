import LabScheduler.Engine.Explaining
import LabScheduler.Engine.Selection

namespace LabScheduler

open Foundation

/-- No requirement of the request can be given the resource registered under `id`. -/
def Unfit (limits : Limits) (request : ScheduleRequest) (state : SchedulerState) (id : ResourceId) : Prop :=
  ∀ resource, state.resources.find? id = some resource → ∀ requirement ∈ request.requirements,
    resource.resourceClass = requirement.resourceClass →
      (evaluateResource request requirement resource limits).eligible = false

/-- Two states between which a request cannot tell: a resource it could be given is the same in both, and the same
    resources are held by its experiment. -/
structure Alike (limits : Limits) (request : ScheduleRequest) (state other : SchedulerState) : Prop where
  resources : ∀ id, state.resources.find? id = other.resources.find? id ∨
    Unfit limits request state id ∧ Unfit limits request other id
  reserved : ∀ id, reservedByOtherPlacement state request.experiment id request.id =
    reservedByOtherPlacement other request.experiment id request.id
  served : fairnessValue state request.tenant = fairnessValue other request.tenant
  room : checkCommitBounds state limits = checkCommitBounds other limits

section Plans

variable {limits : Limits} {request : ScheduleRequest} {state other : SchedulerState}
  {requirement : ResourceRequirement}

theorem Alike.eligible (alike : Alike limits request state other) (asked : requirement ∈ request.requirements) :
    eligibleResources state request limits requirement = eligibleResources other request limits requirement := by
  simp only [eligibleResources, relevantResources, List.filter_filter]
  refine Table.filter_eq fun resource passes => ?_
  obtain ⟨eligible, suits⟩ : (evaluateResource request requirement resource limits).eligible = true ∧
      resource.resourceClass = requirement.resourceClass := by simpa using passes
  have fit {one : SchedulerState} (there : resource ∈ one.resources.entries)
      (unfit : Unfit limits request one resource.id) : False := by
    rw [unfit resource (Table.find?_of_mem there) requirement asked suits] at eligible
    cases eligible
  constructor
  · intro there
    rcases alike.resources resource.id with same | ⟨unfit, -⟩
    · exact Table.mem_of_find? (same ▸ Table.find?_of_mem there)
    · exact (fit there unfit).elim
  · intro there
    rcases alike.resources resource.id with same | ⟨-, unfit⟩
    · exact Table.mem_of_find? (same.symm ▸ Table.find?_of_mem there)
    · exact (fit there unfit).elim

theorem Alike.candidate (alike : Alike limits request state other) (resource : ResourceRecord) :
    candidateResource state request limits requirement resource =
      candidateResource other request limits requirement resource := by
  have additive : computeAdditiveValues state request requirement resource
      (evaluateResource request requirement resource limits) =
        computeAdditiveValues other request requirement resource
          (evaluateResource request requirement resource limits) := by
    unfold computeAdditiveValues
    rw [alike.reserved]
  unfold candidateResource
  simp only [additive]

theorem Alike.ranked (alike : Alike limits request state other) (asked : requirement ∈ request.requirements) :
    rankedCandidates state request limits requirement = rankedCandidates other request limits requirement := by
  unfold rankedCandidates
  rw [alike.eligible asked]
  exact congrArg _ (List.map_congr_left fun resource _ => alike.candidate resource)

theorem Alike.found (alike : Alike limits request state other) (asked : requirement ∈ request.requirements)
    {candidate : CandidateResource} (member : candidate ∈ rankedCandidates state request limits requirement) :
    state.resources.find? candidate.id = other.resources.find? candidate.id := by
  obtain ⟨resource, suits, eligible⟩ := mem_rankedCandidates.mp member
  have named : candidate.id = resource.id := eligible.claims.1
  rw [named]
  rcases alike.resources resource.id with same | ⟨unfit, -⟩
  · exact same
  · have passed := eligible.eligible
    rw [unfit resource eligible.found requirement asked suits] at passed
    cases passed

theorem collapse_congr {resources others : ResourceTable} {candidates : List CandidateResource}
    (same : ∀ candidate ∈ candidates, resources.find? candidate.id = others.find? candidate.id) (seen : List Text) :
    collapse resources seen candidates = collapse others seen candidates := by
  induction candidates generalizing seen with
  | nil => rfl
  | cons candidate rest ih =>
    obtain ⟨first, later⟩ := List.forall_mem_cons.mp same
    unfold collapse
    rw [first]
    simp only [ih later]

theorem Alike.plan (alike : Alike limits request state other) (asked : requirement ∈ request.requirements) :
    (buildPlan state request limits requirement).candidates =
      (buildPlan other request limits requirement).candidates := by
  have same : distinctCandidates state request limits requirement =
      distinctCandidates other request limits requirement := by
    unfold distinctCandidates
    rw [← alike.ranked asked]
    exact collapse_congr (fun _ member => alike.found asked member) []
  unfold buildPlan
  rw [same]

end Plans

section Search

variable {limits : Limits} {request : ScheduleRequest} {state other : SchedulerState}

theorem mapM_find?_congr {resources others : ResourceTable} {selection : List CandidateResource}
    (same : ∀ candidate ∈ selection, resources.find? candidate.id = others.find? candidate.id) :
    (selection.mapM fun candidate => resources.find? candidate.id) =
      selection.mapM fun candidate => others.find? candidate.id := by
  induction selection with
  | nil => rfl
  | cons candidate rest ih =>
    obtain ⟨first, later⟩ := List.forall_mem_cons.mp same
    rw [List.mapM_cons, List.mapM_cons, first, ih later]

theorem Alike.evaluation (alike : Alike limits request state other) {selection : List CandidateResource}
    (same : ∀ candidate ∈ selection, state.resources.find? candidate.id = other.resources.find? candidate.id)
    (outcome : SearchOutcome) :
    evaluateSelection state request limits selection outcome =
      evaluateSelection other request limits selection outcome := by
  have valid (records : List ResourceRecord) : validateSelection state request records selection =
      validateSelection other request records selection := by
    unfold validateSelection
    simp only [alike.reserved]
  have ranked (records : List ResourceRecord) : rankingCandidate state request selection records =
      rankingCandidate other request selection records := by
    have cross : crossValues state request records = crossValues other request records := by
      funext factor
      unfold crossValues
      rw [alike.served]
    unfold rankingCandidate scoreCandidate
    rw [cross]
  unfold evaluateSelection
  rw [mapM_find?_congr same]
  simp only [valid, ranked]

theorem Alike.selection (alike : Alike limits request state other) {selection : List CandidateResource}
    (chosen : List.Forall₂ (· ∈ ·) selection ((buildPlans state request limits).map RequirementPlan.candidates)) :
    ∀ candidate ∈ selection, state.resources.find? candidate.id = other.resources.find? candidate.id := by
  intro candidate member
  obtain ⟨candidates, listed, picked⟩ := forall₂_mem_left chosen member
  obtain ⟨plan, built, rfl⟩ := List.mem_map.mp listed
  obtain ⟨requirement, asked, rfl⟩ := List.mem_map.mp built
  exact alike.found asked (mem_collapse (List.mem_of_mem_take picked))

theorem Alike.plans (alike : Alike limits request state other) :
    (buildPlans state request limits).map RequirementPlan.candidates =
      (buildPlans other request limits).map RequirementPlan.candidates := by
  unfold buildPlans
  rw [List.map_map, List.map_map]
  exact List.map_congr_left fun requirement asked => alike.plan asked

theorem Alike.search (alike : Alike limits request state other) :
    searchPlacements state request limits (buildPlans state request limits) =
      searchPlacements other request limits (buildPlans other request limits) := by
  have length : (buildPlans state request limits).length = (buildPlans other request limits).length := by
    simp [buildPlans]
  rw [searchPlacements_eq, searchPlacements_eq, ← alike.plans, ← length]
  apply Search.explore_congr
  intro selection chosen outcome
  exact alike.evaluation (alike.selection chosen) outcome

theorem Alike.kept (alike : Alike limits request state other) :
    ∀ kept ∈ (searchPlacements state request limits (buildPlans state request limits)).candidates,
      ∀ candidate ∈ kept.selection, state.resources.find? candidate.id = other.resources.find? candidate.id :=
  searchPlacements_keeps fun _ _ chosen _ _ => alike.selection chosen

theorem commitLoop_congr {turns : List (CandidateResource × ResourceRequirement)} {resources others : ResourceTable}
    (same : ∀ turn ∈ turns, resources.find? turn.1.id = others.find? turn.1.id) :
    (commitLoop resources turns).2 = (commitLoop others turns).2 := by
  induction turns generalizing resources others with
  | nil => rfl
  | cons turn rest ih =>
    obtain ⟨first, later⟩ := List.forall_mem_cons.mp same
    unfold commitLoop
    rw [first]
    cases others.find? turn.1.id with
    | none => rfl
    | some resource =>
      simp only
      split
      · rfl
      · dsimp only
        rw [ih fun other member => ?_]
        rw [Table.find?_set, Table.find?_set, later other member]

end Search

/-- A decision depends on nothing but the resources it could select, the resources its experiment holds, how its
    tenant has been served, and whether there is room for another placement. -/
theorem irrelevant_resources {config : EngineConfig} {stored : StoredRequest} {state other : SchedulerState}
    (alike : Alike config.limits stored.request state other) (ids others : IdGenerator)
    (generation : PlacementGeneration) (reassignments : UInt32) :
    (scheduleLocked state config ids stored generation reassignments).verdict =
      (scheduleLocked other config others stored generation reassignments).verdict := by
  rw [scheduleLocked_verdict, scheduleLocked_verdict]
  have blocked : (buildPlans state stored.request config.limits).any (fun plan => plan.candidates.isEmpty) =
      (buildPlans other stored.request config.limits).any fun plan => plan.candidates.isEmpty := by
    have either (one : SchedulerState) : (buildPlans one stored.request config.limits).any
        (fun plan => plan.candidates.isEmpty) =
          ((buildPlans one stored.request config.limits).map RequirementPlan.candidates).any List.isEmpty := by
      rw [List.any_map]
      rfl
    rw [either, either, alike.plans]
  unfold verdictOf
  rw [blocked, ← alike.search, alike.room]
  split
  · rfl
  · split
    · rfl
    · rename_i best _ sorts
      rw [commitLoop_congr]
      intro turn member
      exact alike.kept best (CandidateSort.ranked_of_eq sorts).front_mem turn.1 (List.of_mem_zip member).1

theorem Alike.write {limits : Limits} {request : ScheduleRequest} {state : SchedulerState} {record : ResourceRecord}
    (before : Unfit limits request state record.id)
    (unfit : ∀ requirement ∈ request.requirements, record.resourceClass = requirement.resourceClass →
      (evaluateResource request requirement record limits).eligible = false) :
    Alike limits request state { state with resources := state.resources.set record } := by
  refine ⟨fun id => ?_, fun _ => rfl, rfl, rfl⟩
  by_cases same : record.id = id
  · subst same
    refine .inr ⟨before, fun resource found => ?_⟩
    cases (Table.find?_set_self ..).symm.trans found
    exact unfit
  · have kept : (state.resources.set record).find? id = state.resources.find? id := Table.find?_set_ne _ same
    exact .inl kept.symm

namespace Bench

/-- A dataset that no request for a slot of the bench could be given. -/
def dataset : ResourceRecord := registeredRecord ⟨1⟩ { advertisement with id := ⟨8⟩, resourceClass := .dataset }

end Bench

theorem irrelevant_resources_bench :
    (scheduleLocked Bench.stocked {} {} { request := Bench.request 5 1 } {} 0).verdict =
      (scheduleLocked { Bench.stocked with resources := Bench.stocked.resources.set Bench.dataset } {} ⟨7⟩
        { request := Bench.request 5 1 } {} 0).verdict := by
  have absent : Bench.stocked.resources.find? Bench.dataset.id = none := by decide
  have alike : Alike {} (Bench.request 5 1) Bench.stocked
      { Bench.stocked with resources := Bench.stocked.resources.set Bench.dataset } := by
    refine .write (fun resource found => ?_) (by decide)
    rw [absent] at found
    cases found
  exact @irrelevant_resources {} _ _ _ alike {} ⟨7⟩ {} 0

end LabScheduler
