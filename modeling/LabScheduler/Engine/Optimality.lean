import LabScheduler.Engine.Completeness
import LabScheduler.Engine.Soundness

namespace LabScheduler

open Foundation

theorem toText_monotone {kind : IdKind} {a b : StrongId kind} (before : a ≤ b) : a.toText ≤ b.toText := by
  rcases before.lt_or_eq with less | same
  · exact ((StrongId.toText_lt_iff a b).mpr less).le
  · rw [same]

theorem sortTexts_sortIds (ids : List ResourceId) :
    sortTexts ((sortIds ids).map StrongId.toText) = (sortIds ids).map StrongId.toText := by
  have sorted : (sortIds ids).Pairwise (· ≤ ·) := List.pairwise_insertionSort _ ids
  have texts : ((sortIds ids).map StrongId.toText).Pairwise (· ≤ ·) :=
    sorted.map StrongId.toText fun _ _ before => toText_monotone before
  exact texts.insertionSort_eq

theorem joinComma_terminated {parts : List Text} (some : parts ≠ []) :
    joinComma parts ++ ascii "," = parts.flatMap fun part => part ++ ascii "," := by
  induction parts with
  | nil => exact absurd rfl some
  | cons part rest ih =>
    cases rest with
    | nil => simp [joinComma]
    | cons next rest =>
      have later := ih (List.cons_ne_nil _ _)
      change part ++ ascii "," ++ joinComma (next :: rest) ++ ascii "," = _
      rw [List.append_assoc, later]
      rfl

theorem terminatedText_lt_iff (a b : ResourceId) :
    a.toText ++ ascii "," < b.toText ++ ascii "," ↔ a < b := by
  have lengths : a.toText.length = b.toText.length := a.toText_length.trans b.toText_length.symm
  rw [append_lt_append_iff lengths, StrongId.toText_lt_iff]
  simp

theorem terminatedText_length (id : ResourceId) : (id.toText ++ ascii ",").length = 21 := by
  rw [List.length_append, id.toText_length]
  decide

theorem joinComma_identities {ids : List ResourceId} (some : ids ≠ []) :
    joinComma (ids.map StrongId.toText) ++ ascii "," = ids.flatMap fun id => id.toText ++ ascii "," := by
  rw [joinComma_terminated fun none => some (List.map_eq_nil_iff.mp none), List.flatMap_map]

theorem joinComma_length (ids : List ResourceId) :
    (joinComma (ids.map StrongId.toText)).length = 21 * ids.length - 1 := by
  by_cases empty : ids = []
  · rw [empty]
    rfl
  · have lengths := congrArg List.length (joinComma_identities empty)
    have comma : (ascii ",").length = 1 := by decide
    have bytes : (ids.flatMap fun id => id.toText ++ ascii ",").length = 21 * ids.length := by
      rw [List.length_flatMap, List.map_congr_left fun id _ => terminatedText_length id, List.map_const',
        List.sum_replicate, Nat.mul_comm]
      rfl
    rw [List.length_append, comma, bytes] at lengths
    omega

theorem joinComma_lt_iff {ids others : List ResourceId} (same : ids.length = others.length) :
    joinComma (ids.map StrongId.toText) < joinComma (others.map StrongId.toText) ↔ ids < others := by
  by_cases empty : ids = []
  · have none : others = [] := List.length_eq_zero_iff.mp (by rw [← same, empty]; rfl)
    rw [empty, none]
    simp
  · have some : others ≠ [] := by
      intro none
      rw [none] at same
      exact empty (List.length_eq_zero_iff.mp same)
    have lengths : (joinComma (ids.map StrongId.toText)).length = (joinComma (others.map StrongId.toText)).length := by
      rw [joinComma_length, joinComma_length, same]
    have compares := flatMap_lt_iff terminatedText_lt_iff terminatedText_length same
    rw [← joinComma_identities empty, ← joinComma_identities some, append_lt_append_iff lengths] at compares
    simpa using compares

theorem canonicalResourceKey_lt_iff {ids others : List ResourceId} (same : ids.length = others.length) :
    canonicalResourceKey (sortIds ids) < canonicalResourceKey (sortIds others) ↔ sortIds ids < sortIds others := by
  unfold canonicalResourceKey
  rw [sortTexts_sortIds, sortTexts_sortIds]
  apply joinComma_lt_iff
  simpa [sortIds] using same

section Optimal

variable (state : SchedulerState) (request : ScheduleRequest) (limits : Limits)

/-- `raw` of `score_candidate` for an assignment. -/
def rawScore (records : List ResourceRecord) : Int :=
  (scoreCandidate state request (standIns state request limits request.requirements records) records).1

/-- The resource identities of an assignment in ascending order. -/
def identityVector (records : List ResourceRecord) : List ResourceId :=
  sortIds (records.map fun record => record.id)

/-- A valid assignment of the maximal raw score and, among those of that score, of the least identity
    vector. -/
structure Optimal (records : List ResourceRecord) : Prop extends Assignment state request limits records where
  best : ∀ other, Assignment state request limits other →
    rawScore state request limits other < rawScore state request limits records ∨
      (rawScore state request limits other = rawScore state request limits records ∧
        identityVector records ≤ identityVector other)

variable {state request limits}

theorem standIns_ids {requirements : List ResourceRequirement} {records : List ResourceRecord}
    (same : requirements.length = records.length) :
    (standIns state request limits requirements records).map CandidateResource.id =
      records.map fun record => record.id := by
  induction requirements generalizing records with
  | nil =>
    rw [List.length_eq_zero_iff.mp same.symm]
    rfl
  | cons requirement requirements ih =>
    cases records with
    | nil => cases same
    | cons record records =>
      have rest := ih (Nat.succ.inj same)
      unfold standIns at rest ⊢
      rw [List.zipWith_cons_cons, List.map_cons, rest]
      rfl

theorem ranking_tieBreak {records : List ResourceRecord} (assignment : Assignment state request limits records) :
    (ranking state request limits records).tieBreak = canonicalResourceKey (identityVector records) := by
  have ids : (standIns state request limits request.requirements records).map CandidateResource.id =
      records.map fun record => record.id := standIns_ids assignment.eligible.length_eq
  have made : (ranking state request limits records).tieBreak = canonicalResourceKey (sortIds
      ((standIns state request limits request.requirements records).map CandidateResource.id)) := rfl
  rw [made, ids]
  rfl

/-- The ranking puts one assignment before another as its score and its identity vector say. -/
theorem ranking_precedes_iff {records other : List ResourceRecord}
    (first : Assignment state request limits records) (second : Assignment state request limits other) :
    rankingPrecedes (ranking state request limits records) (ranking state request limits other) ↔
      rawScore state request limits other < rawScore state request limits records ∨
        (rawScore state request limits other = rawScore state request limits records ∧
          identityVector records ≤ identityVector other) := by
  have lengths : other.length = records.length :=
    second.eligible.length_eq.symm.trans first.eligible.length_eq
  have ties : canonicalResourceKey (identityVector other) < canonicalResourceKey (identityVector records) ↔
      identityVector other < identityVector records :=
    canonicalResourceKey_lt_iff (by simpa using lengths)
  rw [rankingPrecedes_iff, ranking_tieBreak first, ranking_tieBreak second, ← not_lt, ties, not_lt]
  change rawScore state request limits other < rawScore state request limits records ∨
    (rawScore state request limits records = rawScore state request limits other ∧ _) ↔ _
  rw [eq_comm (a := rawScore state request limits records)]

theorem Optimal.precedes {records other : List ResourceRecord} (optimal : Optimal state request limits records)
    (assignment : Assignment state request limits other) :
    rankingPrecedes (ranking state request limits records) (ranking state request limits other) :=
  (ranking_precedes_iff optimal.toAssignment assignment).mpr (optimal.best other assignment)

theorem Assignment.ext {records other : List ResourceRecord} (first : Assignment state request limits records)
    (second : Assignment state request limits other)
    (same : (records.map fun record => record.id) = other.map fun record => record.id) : records = other := by
  have found (records : List ResourceRecord) (assignment : Assignment state request limits records) :
      (records.map fun record => state.resources.find? record.id) = records.map some := by
    apply List.map_congr_left
    intro record member
    obtain ⟨requirement, -, there⟩ := forall₂_mem_right assignment.eligible member
    exact (mem_eligibleResources.mp there).1
  have looked : (records.map fun record => state.resources.find? record.id) =
      other.map fun record => state.resources.find? record.id := by
    have both := congrArg (List.map fun id => state.resources.find? id) same
    rwa [List.map_map, List.map_map] at both
  rw [found records first, found other second] at looked
  exact List.map_injective_iff.mpr (Option.some_injective _) looked

/-- The placement of `decision` is that of the assignment. -/
def Commits (decision : Decision) (records : List ResourceRecord) : Prop :=
  decision.placement.resources.map SelectedResource.resource = records.map fun record => record.id

/-- A call that places commits the best of the retained assignments. -/
theorem Searched.commits_best {decision : Decision} (searched : Searched state request limits (.ok decision))
    (placed : decision.outcome = .placed) (uncut : Uncut state request limits) :
    ∃ records, Commits decision records ∧ RetainedAssignment state request limits records ∧
      ∀ other, RetainedAssignment state request limits other →
        rankingPrecedes (ranking state request limits records) (ranking state request limits other) := by
  cases searched with
  | blocked member empty outcome =>
    rw [outcome] at placed
    cases placed
  | exhausted candidates none outcome =>
    rw [outcome] at placed
    cases placed
  | @placed best others after selected claims decision candidates ranked loop outcome resources =>
    obtain ⟨records, assignment, same⟩ := searchPlacements_retained uncut best ranked.front_mem
    refine ⟨records, ?_, assignment, fun other retained => ?_⟩
    · have chosen : best.selection = standIns state request limits request.requirements records := by
        rw [same]
        rfl
      have ids : (standIns state request limits request.requirements records).map CandidateResource.id =
          records.map fun record => record.id := standIns_ids assignment.eligible.length_eq
      have made := (commitLoop_ok loop).selectedFor_turns
      have lengths : best.selection.length = request.requirements.length := by
        have both := congrArg List.length ids
        rw [List.length_map, List.length_map] at both
        rw [chosen, both]
        exact assignment.eligible.length_eq.symm
      rw [List.map_fst_zip lengths.le] at made
      unfold Commits
      rw [resources, forall₂_map_eq made SelectedFor.resource, chosen, ids]
    · obtain ⟨kept, there, before⟩ := searchPlacements_covers uncut (uncut.evaluations candidates) retained
      rw [← same]
      exact IsTrans.trans _ _ _ (ranked.front_precedes kept there) before

def OptimalPlacement (state : SchedulerState) (request : ScheduleRequest) (limits : Limits)
    (decision : Decision) : Prop :=
  ∃ records, Commits decision records ∧ Optimal state request limits records

/-- The collapse spares an optimal assignment: there is one whose every resource has the least identity of
    the resources with its interchangeability key. -/
def SparesBest (state : SchedulerState) (request : ScheduleRequest) (limits : Limits) : Prop :=
  ∃ records, Optimal state request limits records ∧
    List.Forall₂ (Retained state request limits) request.requirements records

end Optimal

/-- A placement that no bound cut short is optimal when the collapse spares an optimal assignment, and
    only then. -/
theorem placement_optimal (state : SchedulerState) (config : EngineConfig) (ids : IdGenerator)
    (stored : StoredRequest) (generation : PlacementGeneration) (reassignments : UInt32) {decision : Decision}
    (uncut : Uncut state stored.request config.limits)
    (decided : (scheduleLocked state config ids stored generation reassignments).result = .ok decision)
    (placed : decision.outcome = .placed) :
    OptimalPlacement state stored.request config.limits decision ↔
      SparesBest state stored.request config.limits := by
  have searched := scheduleLocked_searched state config ids stored generation reassignments
  rw [decided] at searched
  obtain ⟨records, commits, assignment, best⟩ := searched.commits_best placed uncut
  constructor
  · intro ⟨other, committed, optimal⟩
    have same : records = other :=
      assignment.toAssignment.ext optimal.toAssignment (commits.symm.trans committed)
    subst same
    exact ⟨records, optimal, assignment.retained⟩
  · intro ⟨least, optimal, retained⟩
    refine ⟨records, commits, assignment.toAssignment, fun other valid => ?_⟩
    rw [← ranking_precedes_iff assignment.toAssignment valid]
    exact IsTrans.trans _ _ _ (best least ⟨optimal.toAssignment, retained⟩) (optimal.precedes valid)

/-- The twins beside a third resource that is half in use. -/
def Bench.crowd : Engine :=
  Bench.twins.runs [.registerResource { Bench.advertisement with id := ⟨9⟩, advertisedOccupancy := 1 }]

def Bench.crowdCall : SchedulingCall := Bench.crowd.submission Bench.pair

def Bench.crowdDecision : Except Status Decision :=
  (Bench.crowdCall.scheduled Bench.crowd.config Bench.crowd.ids).result

theorem Bench.crowd_uncut : Uncut Bench.crowdCall.state Bench.crowdCall.stored.request Bench.crowd.config.limits :=
  ⟨by decide, fun _ => by decide⟩

theorem Bench.crowd_places : ∃ decision : Decision, Bench.crowdDecision = .ok decision ∧
    decision.outcome = .placed ∧ decision.placement.resources.map SelectedResource.resource = [⟨7⟩, ⟨9⟩] :=
  Decision.placed_of_result (by decide)

namespace Bench

/-- The bench beside a resource with more slots. -/
def roomy : Engine := equipped.runs [.registerResource { advertisement with id := ⟨8⟩, capacity := { slots := 4 } }]

def roomyCall : SchedulingCall := roomy.submission (request 5 1)

theorem roomy_uncut : Uncut roomyCall.state roomyCall.stored.request roomy.config.limits :=
  ⟨by decide, fun _ => by decide⟩

theorem roomy_spares : SparesBest roomyCall.state roomyCall.stored.request roomy.config.limits := by
  let entries := roomyCall.state.resources.entries
  have assignment : Assignment roomyCall.state roomyCall.stored.request roomy.config.limits (entries.drop 1) :=
    ⟨.cons (by decide) .nil, by decide⟩
  have either {requirement : ResourceRequirement} (member : requirement ∈ roomyCall.stored.request.requirements)
      {record : ResourceRecord}
      (eligible : record ∈ eligibleResources roomyCall.state roomyCall.stored.request roomy.config.limits requirement) :
      [record] = entries.take 1 ∨ [record] = entries.drop 1 := by
    revert record
    revert requirement
    decide
  refine ⟨entries.drop 1, ⟨assignment, fun other valid => ?_⟩, .cons (fun other eligible same => ?_) .nil⟩
  · obtain ⟨record, none, eligible, empty, rfl⟩ := List.forall₂_cons_left_iff.mp valid.eligible
    obtain rfl := List.forall₂_nil_left_iff.mp empty
    rcases either List.mem_cons_self eligible with first | second
    · rw [first]
      exact .inl (by decide)
    · rw [second]
      exact .inr ⟨rfl, le_rfl⟩
  · rcases either List.mem_cons_self eligible with first | second
    · obtain rfl := List.singleton_inj.mp first
      exact absurd same (by decide)
    · obtain rfl := List.singleton_inj.mp second
      exact le_rfl

end Bench

theorem placement_optimal_bench :
    ∃ decision : Decision, decision.placement.resources.map SelectedResource.resource = [⟨8⟩] ∧
      OptimalPlacement Bench.roomyCall.state Bench.roomyCall.stored.request Bench.roomy.config.limits decision := by
  have decides : ∃ decision : Decision, (Bench.roomyCall.scheduled Bench.roomy.config Bench.roomy.ids).result = .ok decision ∧
      decision.outcome = .placed ∧ decision.placement.resources.map SelectedResource.resource = [⟨8⟩] :=
    Decision.placed_of_result (by decide)
  obtain ⟨decision, decided, placed, selected⟩ := decides
  exact ⟨decision, selected, (placement_optimal _ _ _ _ _ _ Bench.roomy_uncut decided placed).mpr Bench.roomy_spares⟩

/-- The twins together would score more than the pair that is committed. -/
theorem collapse_misses_optimum :
    ∃ decision : Decision, Bench.crowdDecision = .ok decision ∧ decision.outcome = .placed ∧
      Uncut Bench.crowdCall.state Bench.crowdCall.stored.request Bench.crowd.config.limits ∧
      ¬ OptimalPlacement Bench.crowdCall.state Bench.crowdCall.stored.request Bench.crowd.config.limits
        decision := by
  obtain ⟨decision, decided, placed, selected⟩ := Bench.crowd_places
  refine ⟨decision, decided, placed, Bench.crowd_uncut, fun ⟨records, commits, optimal⟩ => ?_⟩
  let entries := Bench.crowdCall.state.resources.entries
  have pair : Assignment Bench.crowdCall.state Bench.crowdCall.stored.request Bench.crowd.config.limits
      (entries.take 2) := ⟨.cons (by decide) (.cons (by decide) .nil), by decide⟩
  have mixed : Assignment Bench.crowdCall.state Bench.crowdCall.stored.request Bench.crowd.config.limits
      (entries.take 1 ++ entries.drop 2) := ⟨.cons (by decide) (.cons (by decide) .nil), by decide⟩
  have ids : (records.map fun record => record.id) =
      (entries.take 1 ++ entries.drop 2).map fun record => record.id := by
    have named : ((entries.take 1 ++ entries.drop 2).map fun record => record.id) = [⟨7⟩, ⟨9⟩] := by decide
    rw [named, ← selected]
    exact commits.symm
  have same := optimal.toAssignment.ext mixed ids
  subst same
  have scores : rawScore Bench.crowdCall.state Bench.crowdCall.stored.request Bench.crowd.config.limits
      (entries.take 1 ++ entries.drop 2) <
        rawScore Bench.crowdCall.state Bench.crowdCall.stored.request Bench.crowd.config.limits
          (entries.take 2) := by decide
  rcases optimal.best _ pair with less | ⟨equal, -⟩
  · exact absurd scores (lt_asymm less)
  · exact absurd scores (not_lt_of_ge equal.le)

end LabScheduler
