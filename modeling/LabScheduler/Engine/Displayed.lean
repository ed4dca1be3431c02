import LabScheduler.Codec.Bounds
import LabScheduler.Engine.Scores
import LabScheduler.Engine.Ties
import LabScheduler.Foundation.Rounding

namespace LabScheduler

open Foundation

section Factors

variable (state : SchedulerState) (request : ScheduleRequest) (selection : List CandidateResource)
  (records : List ResourceRecord) (factor : RankingFactor)

def rawShare : Int :=
  match kFactorScope factor with
  | .additive => additiveTotal selection factor * (request.weights factor).toInt
  | .cross => selection.length * crossValues state request records factor * (request.weights factor).toInt

def shownValue : Int :=
  match kFactorScope factor with
  | .additive => if (selection.length : Int) = 0 then 0 else (additiveTotal selection factor).tdiv selection.length
  | .cross => crossValues state request records factor

def shownFactor : RankingFactorValue :=
  let value := shownValue state request selection records factor
  { name := rankingFactorName factor
    weight := request.weights factor
    value := value
    weighted := (value * (request.weights factor).toInt).tdiv 1000 }

theorem scoreCandidate_shares : scoreCandidate state request selection records =
    ((RankingFactor.all.map (rawShare state request selection records)).sum,
      RankingFactor.all.map (shownFactor state request selection records)) := rfl

/-- How far the contribution of a factor may be from its share, for `count` requirements. -/
def shareError (count : Int) (factor : RankingFactor) : Int :=
  match kFactorScope factor with
  | .additive => 1999 * count - 1000
  | .cross => 999 * count

end Factors

section Errors

variable {state : SchedulerState} {request : ScheduleRequest} {selection : List CandidateResource}
  {records : List ResourceRecord}

theorem additiveTotal_bounds (units : ∀ candidate ∈ selection, ∀ factor, InUnit (candidate.additive factor))
    (factor : RankingFactor) :
    0 ≤ additiveTotal selection factor ∧ additiveTotal selection factor ≤ selection.length * kUnit := by
  have values : ∀ value ∈ selection.map fun candidate => candidate.additive factor, InUnit value := by
    intro value member
    obtain ⟨candidate, there, rfl⟩ := List.mem_map.mp member
    exact units candidate there factor
  have bounds := sum_inUnit values
  rw [List.length_map] at bounds
  exact bounds

theorem shownValue_inUnit (units : ∀ candidate ∈ selection, ∀ factor, InUnit (candidate.additive factor))
    (some : selection ≠ []) (factor : RankingFactor) :
    InUnit (shownValue state request selection records factor) := by
  unfold shownValue
  cases kFactorScope factor with
  | additive =>
    have positive : 0 < selection.length := List.length_pos_of_ne_nil some
    obtain ⟨low, high⟩ := additiveTotal_bounds units factor
    dsimp only
    rw [if_neg (by omega)]
    exact tdiv_inUnit positive low high
  | cross => exact crossValues_inUnit state request records factor

theorem shownFactor_near (some : selection ≠ []) {factor : RankingFactor}
    (fair : RecordCodec.FairWeight (request.weights factor)) :
    Near (1000 * (selection.length : Int)) (shareError selection.length factor)
      (shownFactor state request selection records factor).weighted (rawShare state request selection records factor) := by
  have length := List.length_pos_of_ne_nil some
  have positive : 0 < (selection.length : Int) := by omega
  have truncated := near_tdiv (show (0 : Int) < 1000 by decide)
    (shownValue state request selection records factor * (request.weights factor).toInt)
  have weight : |(request.weights factor).toInt| ≤ 1000 := abs_le.mpr fair
  rw [Int.mul_comm]
  unfold shownFactor
  dsimp only
  cases scope : kFactorScope factor with
  | additive =>
    have value : shownValue state request selection records factor =
        (additiveTotal selection factor).tdiv selection.length := by
      simp only [shownValue, scope]
      rw [if_neg positive.ne']
    have share : rawShare state request selection records factor =
        additiveTotal selection factor * (request.weights factor).toInt := by
      simp only [rawShare, scope]
    have averaged := (near_tdiv positive (additiveTotal selection factor)).mul (request.weights factor).toInt
    rw [value] at truncated ⊢
    rw [share]
    apply (truncated.comp averaged positive.le).weaken
    have rounding : (selection.length - 1 : Int) * |(request.weights factor).toInt| ≤ (selection.length - 1) * 1000 :=
      Int.mul_le_mul_of_nonneg_left weight (by omega)
    simp only [shareError, scope]
    omega
  | cross =>
    have value : shownValue state request selection records factor = crossValues state request records factor := by
      simp only [shownValue, scope]
    have share : rawShare state request selection records factor =
        selection.length * (crossValues state request records factor * (request.weights factor).toInt) := by
      simp only [rawShare, scope, mul_assoc]
    rw [value] at truncated ⊢
    rw [share]
    apply (truncated.comp (Near.multiple _ _) positive.le).weaken
    simp only [shareError, scope]
    omega

theorem shareErrors (count : Int) : (RankingFactor.all.map (shareError count)).sum = 18988 * count - 7000 := by
  simp only [RankingFactor.all, shareError, kFactorScope, List.map_cons, List.map_nil, List.sum_cons, List.sum_nil]
  omega

theorem scoreCandidate_near (state : SchedulerState) (records : List ResourceRecord) (some : selection ≠ [])
    (fair : ∀ factor, RecordCodec.FairWeight (request.weights factor)) :
    |(scoreCandidate state request selection records).1.tdiv (1000 * selection.length) -
      ((scoreCandidate state request selection records).2.map RankingFactorValue.weighted).sum| < 20 := by
  have length := List.length_pos_of_ne_nil some
  have positive : 0 < 1000 * (selection.length : Int) := by omega
  have score := near_tdiv positive (RankingFactor.all.map (rawShare state request selection records)).sum
  have contributions : Near (1000 * (selection.length : Int)) (RankingFactor.all.map (shareError selection.length)).sum
      (RankingFactor.all.map fun factor => (shownFactor state request selection records factor).weighted).sum
      (RankingFactor.all.map (rawShare state request selection records)).sum :=
    Near.sum fun factor _ => shownFactor_near some (fair factor)
  have close := score.apart contributions
  rw [shareErrors, abs_mul, abs_of_pos positive] at close
  rw [scoreCandidate_shares, List.map_map]
  by_contra far
  have many := Int.mul_le_mul_of_nonneg_left (not_lt.mp far) positive.le
  have both := many.trans close
  omega

theorem rawShare_abs_le (units : ∀ candidate ∈ selection, ∀ factor, InUnit (candidate.additive factor))
    {factor : RankingFactor} (fair : RecordCodec.FairWeight (request.weights factor)) :
    |rawShare state request selection records factor| ≤ selection.length * 1000000000 := by
  have weight : |(request.weights factor).toInt| ≤ 1000 := abs_le.mpr fair
  have within {total : Int} (low : 0 ≤ total) (high : total ≤ selection.length * kUnit) :
      |total * (request.weights factor).toInt| ≤ selection.length * 1000000000 := by
    rw [abs_mul, abs_of_nonneg low]
    calc total * |(request.weights factor).toInt| ≤ selection.length * kUnit * 1000 :=
          Int.mul_le_mul high weight (abs_nonneg _) (low.trans high)
      _ = selection.length * 1000000000 := by rw [mul_assoc]; rfl
  unfold rawShare
  cases kFactorScope factor with
  | additive =>
    obtain ⟨low, high⟩ := additiveTotal_bounds units factor
    exact within low high
  | cross =>
    obtain ⟨low, high⟩ := crossValues_inUnit state request records factor
    have counted : 0 ≤ (selection.length : Int) := Int.natCast_nonneg _
    exact within (Int.mul_nonneg counted low) (Int.mul_le_mul_of_nonneg_left high counted)

/-- The raw score of any selection that can be built stays within `std::int64_t`. -/
theorem scoreCandidate_fits (units : ∀ candidate ∈ selection, ∀ factor, InUnit (candidate.additive factor))
    (fair : ∀ factor, RecordCodec.FairWeight (request.weights factor)) (few : selection.length ≤ 768000000) :
    |(scoreCandidate state request selection records).1| < 2 ^ 63 := by
  have shares : Near 1 (RankingFactor.all.map fun _ => (selection.length : Int) * 1000000000).sum
      (RankingFactor.all.map fun _ => 0).sum (RankingFactor.all.map (rawShare state request selection records)).sum := by
    apply Near.sum
    intro factor _
    unfold Near
    rw [mul_zero, zero_sub, abs_neg]
    exact rawShare_abs_le units (fair factor)
  have zero : (RankingFactor.all.map fun _ => (0 : Int)).sum = 0 := by decide
  have errors : (RankingFactor.all.map fun _ => (selection.length : Int) * 1000000000).sum =
      12000000000 * selection.length := by
    simp only [RankingFactor.all, List.map_cons, List.map_nil, List.sum_cons, List.sum_nil]
    omega
  unfold Near at shares
  rw [zero, errors, mul_zero, zero_sub, abs_neg] at shares
  rw [scoreCandidate_shares]
  apply lt_of_le_of_lt shares
  omega

end Errors

theorem candidateExplanations_cons (best : RankingCandidate) (others : List RankingCandidate) (count : Nat)
    (limits : Limits) :
    ∃ rest, candidateExplanations (best :: others) count limits =
        { resources := best.resources
          score := best.raw.tdiv (1000 * (if count = 0 then 1 else count))
          factors := best.factors
          selected := true
          tieBreak := best.tieBreak } :: rest ∧
      ∀ other ∈ rest, other.selected = false ∧ other.factors = [] := by
  obtain ⟨entries, shown⟩ : ∃ entries, max 1 limits.maxExplanationEntries.toNat = entries + 1 :=
    ⟨max 1 limits.maxExplanationEntries.toNat - 1, by omega⟩
  unfold candidateExplanations
  rw [shown, List.zipIdx_cons, List.take_succ_cons, List.map_cons]
  refine ⟨_, rfl, fun other member => ?_⟩
  obtain ⟨entry, taken, rfl⟩ := List.mem_map.mp member
  have later : entry.2 ≠ 0 := by
    have position := List.le_snd_of_mem_zipIdx (List.mem_of_mem_take taken)
    omega
  exact ⟨decide_eq_false later, if_neg later⟩

theorem candidateExplanations_descending {ranked : List RankingCandidate} (count : Nat) (limits : Limits)
    (sorted : ranked.Pairwise rankingPrecedes) :
    (candidateExplanations ranked count limits).Pairwise fun a b => b.score ≤ a.score := by
  unfold candidateExplanations
  extract_lets divisor
  have positive : 0 < divisor := by
    unfold divisor
    split <;> omega
  rw [List.pairwise_map]
  have entries : ranked.zipIdx.Pairwise fun a b => rankingPrecedes a.1 b.1 := by
    rw [← List.zipIdx_map_fst 0 ranked] at sorted
    exact List.pairwise_map.mp sorted
  exact (entries.sublist (List.take_sublist _ _)).imp fun before => Int.tdiv_le_tdiv positive before.raw_le

section Decision

variable {state : SchedulerState} {config : EngineConfig} {ids : IdGenerator} {stored : StoredRequest}
  {generation : PlacementGeneration} {reassignments : UInt32}

theorem searchPlacements_ranked {request : ScheduleRequest} {limits : Limits} :
    ∀ kept ∈ (searchPlacements state request limits (buildPlans state request limits)).candidates,
      ∃ selection records, kept = rankingCandidate state request selection records ∧
        List.Forall₂
          (fun candidate requirement => ∃ resource, Eligible state request limits requirement candidate resource)
          selection request.requirements := by
  apply searchPlacements_keeps
  intro selection records chosen _ _
  exact ⟨selection, records, rfl, buildPlans_eligible chosen⟩

theorem additive_inUnit {request : ScheduleRequest} {limits : Limits} {selection : List CandidateResource}
    {requirements : List ResourceRequirement}
    (eligible : List.Forall₂
      (fun candidate requirement => ∃ resource, Eligible state request limits requirement candidate resource)
      selection requirements) :
    ∀ candidate ∈ selection, ∀ factor, InUnit (candidate.additive factor) := by
  intro candidate member factor
  obtain ⟨requirement, -, resource, stands⟩ := forall₂_mem_left eligible member
  rw [stands.candidate]
  exact computeAdditiveValues_inUnit ..

/-- What the candidates of an explanation say of their scores. -/
structure AccountsForScore (candidates : List CandidateExplanation) : Prop where
  selected : ∃ selected rest, candidates = selected :: rest ∧ selected.selected = true ∧
    (∀ other ∈ rest, other.selected = false) ∧
    selected.factors.map RankingFactorValue.name = RankingFactor.all.map rankingFactorName ∧
    |selected.score - (selected.factors.map RankingFactorValue.weighted).sum| < 20
  shown : ∀ candidate ∈ candidates, ∀ factor ∈ candidate.factors, 0 ≤ factor.value ∧ factor.value ≤ 1000000
  descending : candidates.Pairwise fun a b => b.score ≤ a.score

/-- The explanation of a placement accounts for its score, at any number of requirements. -/
theorem explanation_accounts_for_score {decision : Decision} (some : stored.request.requirements ≠ [])
    (fair : ∀ factor, RecordCodec.FairWeight (stored.request.weights factor))
    (decided : (scheduleLocked state config ids stored generation reassignments).result = .ok decision)
    (placed : decision.outcome = .placed) : AccountsForScore decision.explanation.candidates := by
  obtain ⟨explanation, best, others, ranked, committed⟩ := scheduleLocked_placed decided placed
  have explained := (commitPlacement_decided committed).2
  obtain ⟨rest, shown, plain⟩ := candidateExplanations_cons best others
    stored.request.requirements.length config.limits
  have descending := candidateExplanations_descending stored.request.requirements.length config.limits ranked.sorted
  obtain ⟨selection, records, rfl, eligible⟩ := searchPlacements_ranked best ranked.front_mem
  have length := eligible.length_eq
  have nonempty : selection ≠ [] := by
    intro empty
    rw [empty] at length
    exact some (List.length_eq_zero_iff.mp length.symm)
  have units := additive_inUnit eligible
  have near := scoreCandidate_near state records nonempty fair
  rw [explained]
  refine ⟨⟨_, rest, shown, rfl, fun other there => (plain other there).1, rfl, ?_⟩, ?_, descending⟩
  · have count : stored.request.requirements.length ≠ 0 := by
      rw [← length]
      exact (List.length_pos_of_ne_nil nonempty).ne'
    rw [← length] at count ⊢
    rw [if_neg count]
    exact near
  · rw [shown]
    intro candidate there factor displayed
    rcases List.mem_cons.mp there with rfl | later
    · obtain ⟨kind, -, rfl⟩ := List.mem_map.mp displayed
      exact shownValue_inUnit units nonempty kind
    · rw [(plain candidate later).2] at displayed
      cases displayed

end Decision

namespace Bench

/-- A request for two resources on two hosts, as it is stored. -/
def pairedRequest : StoredRequest := { request := alike }

end Bench

theorem explanation_accounts_for_score_bench :
    ∃ decision, (scheduleLocked Bench.apart {} {} Bench.pairedRequest {} 0).result = .ok decision ∧
      decision.outcome = .placed ∧ AccountsForScore decision.explanation.candidates := by
  have fair (factor : RankingFactor) : RecordCodec.FairWeight (Bench.pairedRequest.request.weights factor) := by
    cases factor <;> exact ⟨by decide, by decide⟩
  have answered : (scheduleLocked Bench.apart {} {} Bench.pairedRequest {} 0).result.toOption.map Decision.outcome =
      some .placed := by decide
  cases decided : (scheduleLocked Bench.apart {} {} Bench.pairedRequest {} 0).result with
  | error status =>
    rw [decided] at answered
    cases answered
  | ok decision =>
    rw [decided] at answered
    have placed : decision.outcome = .placed := Option.some.inj answered
    exact ⟨decision, rfl, placed, explanation_accounts_for_score (by decide) fair decided placed⟩

end LabScheduler
