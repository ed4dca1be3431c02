import LabScheduler.Engine.Interchange
import Mathlib.Algebra.Order.BigOperators.Group.List

namespace LabScheduler

open Foundation

theorem rankingPrecedes.raw_le {a b : RankingCandidate} (precedes : rankingPrecedes a b) : b.raw ≤ a.raw := by
  rcases rankingPrecedes_iff.mp precedes with less | ⟨same, -⟩
  · exact less.le
  · exact same.ge

theorem rankingPrecedes_of_better {a b : RankingCandidate} (better : candidateIsBetter a b = true) :
    rankingPrecedes a b := by
  have not : ¬ rankingPrecedes b a := not_rankingPrecedes.mpr better
  exact (Std.Total.total a b).resolve_right not

theorem worst_mem (entries : List (RankingCandidate × Nat)) (first : RankingCandidate × Nat) :
    entries.foldl (fun worst entry => if candidateIsBetter worst.1 entry.1 then entry else worst) first ∈
      first :: entries := by
  induction entries generalizing first with
  | nil => exact List.mem_cons_self
  | cons entry rest ih =>
    rw [List.foldl_cons]
    split
    · exact List.mem_cons_of_mem _ (ih entry)
    · rcases List.mem_cons.mp (ih first) with same | there
      · rw [same]
        exact List.mem_cons_self
      · exact List.mem_cons_of_mem _ (List.mem_cons_of_mem _ there)

theorem replaceWorst_keeps {candidates : List RankingCandidate} {candidate other : RankingCandidate}
    (there : other ∈ candidates ∨ other = candidate) :
    ∃ kept ∈ replaceWorst candidates candidate, rankingPrecedes kept other := by
  unfold replaceWorst
  split
  · rcases there with impossible | rfl
    · cases impossible
    · exact ⟨other, List.mem_cons_self, refl other⟩
  · rename_i first rest
    extract_lets worst
    have entry : worst ∈ (first :: rest).zipIdx := by
      have member := worst_mem ((first :: rest).zipIdx) (first, 0)
      rcases List.mem_cons.mp member with same | there
      · have same : worst = (first, 0) := same
        rw [same]
        exact List.mem_cons_self
      · exact there
    obtain ⟨below, here⟩ := List.mem_zipIdx' (x := worst.1) (i := worst.2) entry
    by_cases better : candidateIsBetter candidate worst.1
    · rw [if_pos better]
      have placed : candidate ∈ (first :: rest).set worst.2 candidate := List.mem_set below candidate
      rcases there with member | rfl
      · by_cases same : other = worst.1
        · rw [same]
          exact ⟨candidate, placed, rankingPrecedes_of_better better⟩
        · obtain ⟨index, within, at_⟩ := List.getElem_of_mem member
          have apart : worst.2 ≠ index := fun equal => same (by subst equal; exact at_.symm.trans here.symm)
          refine ⟨other, ?_, refl other⟩
          have found : ((first :: rest).set worst.2 candidate)[index]? = some other := by
            rw [List.getElem?_set_ne apart, List.getElem?_eq_getElem within, at_]
          exact List.mem_of_getElem? found
      · exact ⟨other, placed, refl other⟩
    · rw [if_neg better]
      rcases there with member | rfl
      · exact ⟨other, member, refl other⟩
      · have before : rankingPrecedes worst.1 other := by
          by_contra not
          exact better (not_rankingPrecedes.mp not)
        exact ⟨worst.1, here ▸ List.getElem_mem _, before⟩

theorem keepCandidate_keeps (limits : Limits) {candidates : List RankingCandidate}
    {candidate other : RankingCandidate} (there : other ∈ candidates ∨ other = candidate) :
    ∃ kept ∈ keepCandidate limits candidates candidate, rankingPrecedes kept other := by
  unfold keepCandidate
  split
  · refine ⟨other, ?_, refl other⟩
    simpa using there
  · exact replaceWorst_keeps there

theorem tdiv_inUnit {total : Int} {count : Nat} (positive : 0 < count) (low : 0 ≤ total)
    (high : total ≤ count * kUnit) : InUnit (total.tdiv count) := by
  rw [Int.tdiv_eq_ediv_of_nonneg low]
  refine ⟨Int.ediv_nonneg low (by omega), ?_⟩
  apply Int.ediv_le_of_le_mul (by omega)
  rw [Int.mul_comm]
  exact high

theorem datasetValue_inUnit (pairs : List (ResourceRecord × ResourceRequirement)) (dataset : ResourceRecord) :
    InUnit (datasetValue pairs dataset) :=
  ite_inUnit (by decide) (ite_inUnit (by decide) (by decide))

theorem sum_inUnit {values : List Int} (units : ∀ value ∈ values, InUnit value) :
    0 ≤ values.sum ∧ values.sum ≤ values.length * kUnit := by
  induction values with
  | nil => exact ⟨le_rfl, by simp⟩
  | cons value rest ih =>
    obtain ⟨low, high⟩ := ih fun other member => units other (List.mem_cons_of_mem _ member)
    obtain ⟨first, last⟩ := units value List.mem_cons_self
    rw [List.sum_cons, List.length_cons]
    push_cast
    rw [Int.add_mul]
    omega

theorem datasetLocalityValue_inUnit (records : List ResourceRecord) (requirements : List ResourceRequirement) :
    InUnit (datasetLocalityValue records requirements) := by
  unfold datasetLocalityValue
  extract_lets pairs datasets
  split
  · decide
  · rename_i some
    have units : ∀ value ∈ datasets.map fun pair => datasetValue pairs pair.1, InUnit value := by
      intro value member
      obtain ⟨pair, -, rfl⟩ := List.mem_map.mp member
      exact datasetValue_inUnit pairs pair.1
    obtain ⟨low, high⟩ := sum_inUnit units
    rw [List.length_map] at high
    exact tdiv_inUnit (List.length_pos_of_ne_nil some) low high

theorem crossValues_inUnit (state : SchedulerState) (request : ScheduleRequest) (records : List ResourceRecord)
    (factor : RankingFactor) : InUnit (crossValues state request records factor) := by
  cases factor with
  | locality => exact ite_inUnit (clampUnit_inUnit _) (by decide)
  | topologyDistance => exact clampUnit_inUnit _
  | datasetLocality => exact datasetLocalityValue_inUnit records request.requirements
  | fairness => exact ite_inUnit (by decide) (clampUnit_inUnit _)
  | priority => exact clampUnit_inUnit _
  | occupancy | residualCapacity | acceleratorFit | modelWarmth | simulatorReadiness | fragmentation | reuse =>
    have unit : InUnit 0 := by decide
    exact unit

def Scored (request : ScheduleRequest) (candidate : CandidateResource) : Prop :=
  candidate.partialScore = partialScore request candidate.additive

def additiveScore (request : ScheduleRequest) (selection : List CandidateResource) : Int :=
  (RankingFactor.all.map fun factor =>
    match kFactorScope factor with
    | .additive => additiveTotal selection factor * (request.weights factor).toInt
    | .cross => 0).sum

/-- The half of the raw score that depends on the selection as a whole. -/
def crossScore (state : SchedulerState) (request : ScheduleRequest) (count : Nat)
    (records : List ResourceRecord) : Int :=
  (RankingFactor.all.map fun factor =>
    match kFactorScope factor with
    | .additive => 0
    | .cross => (count : Int) * crossValues state request records factor * (request.weights factor).toInt).sum

theorem scoreCandidate_raw (state : SchedulerState) (request : ScheduleRequest)
    (selection : List CandidateResource) (records : List ResourceRecord) :
    (scoreCandidate state request selection records).1 =
      additiveScore request selection + crossScore state request selection.length records := by
  unfold additiveScore crossScore
  rw [← List.sum_map_add]
  refine congrArg List.sum (List.map_congr_left fun factor _ => ?_)
  dsimp only
  cases kFactorScope factor <;> simp

theorem additiveScore_cons (request : ScheduleRequest) (candidate : CandidateResource)
    (rest : List CandidateResource) :
    additiveScore request (candidate :: rest) =
      partialScore request candidate.additive + additiveScore request rest := by
  unfold additiveScore partialScore
  rw [← List.sum_map_add]
  refine congrArg List.sum (List.map_congr_left fun factor _ => ?_)
  cases kFactorScope factor with
  | additive => simp [additiveTotal, Int.add_mul]
  | cross => rfl

theorem additiveScore_eq {request : ScheduleRequest} {selection : List CandidateResource}
    (scored : ∀ candidate ∈ selection, Scored request candidate) :
    additiveScore request selection = pathScore selection := by
  induction selection with
  | nil =>
    unfold additiveScore additiveTotal pathScore
    simp [RankingFactor.all, kFactorScope]
  | cons candidate rest ih =>
    have here : candidate.partialScore = partialScore request candidate.additive := scored candidate List.mem_cons_self
    have there := ih fun other member => scored other (List.mem_cons_of_mem _ member)
    rw [additiveScore_cons, there, ← here]
    simp [pathScore]

theorem crossScore_le (state : SchedulerState) (request : ScheduleRequest) (count : Nat)
    (records : List ResourceRecord) : crossScore state request count records ≤ crossBound request count := by
  unfold crossScore crossBound
  apply List.sum_le_sum
  intro factor _
  cases kFactorScope factor with
  | additive => exact le_rfl
  | cross =>
    dsimp only
    obtain ⟨low, high⟩ := crossValues_inUnit state request records factor
    generalize crossValues state request records factor = value at low high ⊢
    generalize (request.weights factor).toInt = weight
    have counted : 0 ≤ (count : Int) := Int.natCast_nonneg count
    split
    · rename_i positive
      calc (count : Int) * value * weight = count * weight * value := Int.mul_right_comm ..
        _ ≤ count * weight * kUnit := Int.mul_le_mul_of_nonneg_left high (Int.mul_nonneg counted positive.le)
    · rename_i negative
      exact Int.mul_nonpos_of_nonneg_of_nonpos (Int.mul_nonneg counted low) (not_lt.mp negative)

theorem scoreCandidate_le {state : SchedulerState} {request : ScheduleRequest}
    {selection : List CandidateResource} (scored : ∀ candidate ∈ selection, Scored request candidate)
    (records : List ResourceRecord) :
    (scoreCandidate state request selection records).1 ≤ pathScore selection + crossBound request selection.length := by
  have bound := crossScore_le state request selection.length records
  rw [scoreCandidate_raw, additiveScore_eq scored]
  omega

end LabScheduler
