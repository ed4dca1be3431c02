import LabScheduler.Engine.Optimality
import LabScheduler.Foundation.Sorted

namespace LabScheduler

open Foundation

section Rearranged

variable {state : SchedulerState} {request : ScheduleRequest} {records other : List ResourceRecord}

theorem domainCount_perm {domains listed : List TopologyDomainId} (perm : domains.Perm listed) :
    domainCount domains = domainCount listed := by
  have known := (perm.filter fun id => !id.isNull).dedup.length_eq
  have unknown := (perm.filter StrongId.isNull).length_eq
  simp only [domainCount, known, unknown]

theorem dominantShare_perm {hosts listed : List TopologyDomainId} (perm : hosts.Perm listed) :
    dominantShare hosts = dominantShare listed := by
  unfold dominantShare
  simp only [perm.count_eq]
  refine perm.foldl_eq' (fun host _ next _ share => ?_) 0
  exact max_right_comm ..

theorem localityValue_perm (perm : records.Perm other) : localityValue records = localityValue other := by
  unfold localityValue
  rw [perm.length_eq, dominantShare_perm (perm.map _)]

theorem topologyDistanceValue_perm (perm : records.Perm other) :
    topologyDistanceValue records = topologyDistanceValue other := by
  unfold topologyDistanceValue
  rw [domainCount_perm (perm.map _), domainCount_perm (perm.map fun record => record.topology.rack.id),
    domainCount_perm (perm.map fun record => record.topology.cluster.id)]

/-- `dataset_locality` over the records alone, when each is of the class its requirement asks for. -/
def datasetShare (records : List ResourceRecord) : Int :=
  let value (dataset : ResourceRecord) : Int :=
    if records.any fun record => record.resourceClass != .dataset && domainsAreEqual record dataset .host then kUnit
    else if dataset.locality.localDatasetVersions ≠ [] then kUnit.tdiv 2
    else kUnit.tdiv 4
  let datasets := records.filter fun record => record.resourceClass == .dataset
  if datasets = [] then kUnit else (datasets.map value).sum.tdiv (datasets.length : Int)

theorem datasetLocalityValue_eq {requirements : List ResourceRequirement}
    (classes : List.Forall₂ (fun requirement record => record.resourceClass = requirement.resourceClass)
      requirements records) :
    datasetLocalityValue records requirements = datasetShare records := by
  have each (pair : ResourceRecord × ResourceRequirement) (member : pair ∈ records.zip requirements) :
      pair.2.resourceClass = pair.1.resourceClass := ((List.forall₂_iff_zip.mp classes.flip).2 member).symm
  have firsts : (records.zip requirements).map Prod.fst = records := List.map_fst_zip classes.length_eq.ge
  have datasets : (records.zip requirements).filter (fun pair => pair.2.resourceClass == .dataset) =
      (records.zip requirements).filter ((fun record => record.resourceClass == .dataset) ∘ Prod.fst) :=
    List.filter_congr fun pair member => by rw [each pair member]; rfl
  have listed : ((records.zip requirements).filter ((fun record => record.resourceClass == .dataset) ∘ Prod.fst)).map
      Prod.fst = records.filter fun record => record.resourceClass == .dataset := by
    rw [← List.filter_map, firsts]
  have beside (dataset : ResourceRecord) : ((records.zip requirements).any fun pair =>
      pair.2.resourceClass != .dataset && domainsAreEqual pair.1 dataset .host) =
        records.any fun record => record.resourceClass != .dataset && domainsAreEqual record dataset .host := by
    have same : records.any (fun record => record.resourceClass != .dataset && domainsAreEqual record dataset .host) =
        ((records.zip requirements).map Prod.fst).any fun record =>
          record.resourceClass != .dataset && domainsAreEqual record dataset .host := by rw [firsts]
    rw [same, List.any_map, Bool.eq_iff_iff, List.any_eq_true, List.any_eq_true]
    refine exists_congr fun pair => and_congr_right fun member => ?_
    rw [each pair member]
    rfl
  unfold datasetLocalityValue datasetShare datasetValue
  simp only [datasets, beside, ← listed, List.map_map, List.length_map, List.map_eq_nil_iff]
  rfl

theorem datasetShare_perm (perm : records.Perm other) : datasetShare records = datasetShare other := by
  have datasets := perm.filter fun record => record.resourceClass == .dataset
  have none : records.filter (fun record => record.resourceClass == .dataset) = [] ↔
      other.filter (fun record => record.resourceClass == .dataset) = [] := by
    rw [← List.length_eq_zero_iff, datasets.length_eq, List.length_eq_zero_iff]
  have beside (dataset : ResourceRecord) :
      records.any (fun record => record.resourceClass != .dataset && domainsAreEqual record dataset .host) =
        other.any fun record => record.resourceClass != .dataset && domainsAreEqual record dataset .host := perm.any_eq
  unfold datasetShare
  simp only [none, beside, datasets.length_eq, (datasets.map _).sum_eq]

end Rearranged

section Assigned

variable (state : SchedulerState) (request : ScheduleRequest) (limits : Limits)

/-- The weighted additive factors of an assignment, over all its requirements. -/
def additiveSum (records : List ResourceRecord) : Int :=
  (List.zipWith
    (fun requirement record => partialScore request (candidateResource state request limits requirement record).additive)
    request.requirements records).sum

/-- One assignment comes before the other, and not the other before it. -/
def StrictlyOrdered (records other : List ResourceRecord) : Prop :=
  candidateIsBetter (ranking state request limits records) (ranking state request limits other) = true ∧
    candidateIsBetter (ranking state request limits other) (ranking state request limits records) = false

/-- Any two assignments are told apart, and so no sort can leave them in two orders. -/
structure TiesBroken : Prop where
  ordered : ∀ records other, Assignment state request limits records → Assignment state request limits other →
    records ≠ other →
    StrictlyOrdered state request limits records other ∨ StrictlyOrdered state request limits other records
  sorted : ∀ ranked resorted : List RankingCandidate, ranked.Perm resorted →
    (∀ candidate ∈ ranked, ∃ records, Assignment state request limits records ∧
      candidate = ranking state request limits records) →
    ranked.Pairwise rankingPrecedes → resorted.Pairwise rankingPrecedes → ranked = resorted

variable {state request limits} {records other : List ResourceRecord}

theorem Assignment.classes (assignment : Assignment state request limits records) :
    List.Forall₂ (fun requirement record => record.resourceClass = requirement.resourceClass)
      request.requirements records :=
  assignment.eligible.imp fun requirement record eligible => by
    have relevant := (List.mem_filter.mp (List.mem_filter.mp eligible).1).2
    exact beq_iff_eq.mp relevant

theorem Assignment.found (assignment : Assignment state request limits records) :
    (records.map fun record => record.id).filterMap state.resources.find? = records := by
  have each : ∀ record ∈ records, state.resources.find? record.id = some record := by
    intro record member
    obtain ⟨requirement, -, there⟩ := forall₂_mem_right assignment.eligible member
    exact (mem_eligibleResources.mp there).1
  have same : records.filterMap (state.resources.find? ∘ fun record => record.id) = records.filterMap some :=
    List.filterMap_congr each
  rw [List.filterMap_map, same, List.filterMap_some]

/-- Assignments of one set of resources have the cross factors in common. -/
theorem crossScore_perm (first : Assignment state request limits records)
    (second : Assignment state request limits other) (perm : records.Perm other) (count : Nat) :
    crossScore state request count records = crossScore state request count other := by
  have values (factor : RankingFactor) : crossValues state request records factor =
      crossValues state request other factor := by
    cases factor with
    | locality => exact localityValue_perm perm
    | topologyDistance => exact topologyDistanceValue_perm perm
    | datasetLocality =>
      exact (datasetLocalityValue_eq first.classes).trans
        ((datasetShare_perm perm).trans (datasetLocalityValue_eq second.classes).symm)
    | _ => rfl
  unfold crossScore
  simp only [values]

theorem rawScore_eq (assignment : Assignment state request limits records) :
    rawScore state request limits records =
      additiveSum state request limits records + crossScore state request request.requirements.length records := by
  have scored : ∀ candidate ∈ standIns state request limits request.requirements records, Scored request candidate := by
    intro candidate member
    unfold standIns at member
    rw [← List.map_uncurry_zip_eq_zipWith] at member
    obtain ⟨pair, -, rfl⟩ := List.mem_map.mp member
    rfl
  have length : (standIns state request limits request.requirements records).length = request.requirements.length := by
    unfold standIns
    rw [List.length_zipWith, ← assignment.eligible.length_eq, Nat.min_self]
  have path : pathScore (standIns state request limits request.requirements records) =
      additiveSum state request limits records := by
    unfold pathScore standIns additiveSum
    rw [List.map_zipWith]
    rfl
  unfold rawScore
  rw [scoreCandidate_raw, additiveScore_eq scored, length, path]

theorem ranking_tieBreak_eq (first : Assignment state request limits records)
    (second : Assignment state request limits other) :
    (ranking state request limits records).tieBreak = (ranking state request limits other).tieBreak ↔
      records.Perm other := by
  have lengths : other.length = records.length :=
    second.eligible.length_eq.symm.trans first.eligible.length_eq
  have before : canonicalResourceKey (identityVector records) < canonicalResourceKey (identityVector other) ↔
      identityVector records < identityVector other := canonicalResourceKey_lt_iff (by simpa using lengths.symm)
  have after : canonicalResourceKey (identityVector other) < canonicalResourceKey (identityVector records) ↔
      identityVector other < identityVector records := canonicalResourceKey_lt_iff (by simpa using lengths)
  rw [ranking_tieBreak first, ranking_tieBreak second]
  constructor
  · intro same
    have vectors : identityVector records = identityVector other := by
      rcases lt_trichotomy (identityVector records) (identityVector other) with less | same | more
      · exact absurd (before.mpr less) (by rw [same]; exact lt_irrefl _)
      · exact same
      · exact absurd (after.mpr more) (by rw [same]; exact lt_irrefl _)
    have ids : (records.map fun record => record.id).Perm (other.map fun record => record.id) := by
      have sorted := List.perm_insertionSort (· ≤ ·) (records.map fun record => record.id)
      change (identityVector records).Perm _ at sorted
      rw [vectors] at sorted
      exact sorted.symm.trans (List.perm_insertionSort _ _)
    rw [← first.found, ← second.found]
    exact ids.filterMap _
  · intro perm
    unfold identityVector sortIds
    rw [insertionSort_eq_of_perm (perm.map fun record => record.id)]

/-- Neither of two assignments comes before the other exactly if both have the same resources and the same sum. -/
theorem tied_iff (first : Assignment state request limits records) (second : Assignment state request limits other) :
    ¬ (StrictlyOrdered state request limits records other ∨ StrictlyOrdered state request limits other records) ↔
      records.Perm other ∧ additiveSum state request limits records = additiveSum state request limits other := by
  have raw (records : List ResourceRecord) : (ranking state request limits records).raw =
      rawScore state request limits records := rfl
  have scores (perm : records.Perm other) :
      rawScore state request limits records = rawScore state request limits other ↔
        additiveSum state request limits records = additiveSum state request limits other := by
    rw [rawScore_eq first, rawScore_eq second, crossScore_perm first second perm]
    exact Int.add_left_inj _
  unfold StrictlyOrdered candidateIsBetter
  simp only [raw]
  by_cases same : rawScore state request limits records = rawScore state request limits other
  · have keys := ranking_tieBreak_eq first second
    simp only [same, ne_eq, not_true_eq_false, if_false, decide_eq_true_eq, decide_eq_false_iff_not]
    rcases lt_trichotomy (ranking state request limits records).tieBreak (ranking state request limits other).tieBreak
      with less | equal | more
    · refine iff_of_false (not_not.mpr (.inl ⟨less, less.not_gt⟩)) fun tied => ?_
      exact less.ne (keys.mpr tied.1)
    · have perm := keys.mp equal
      rw [equal]
      refine iff_of_true ?_ ⟨perm, (scores perm).mp same⟩
      rintro (⟨less, -⟩ | ⟨less, -⟩) <;> exact lt_irrefl _ less
    · refine iff_of_false (not_not.mpr (.inr ⟨more, more.not_gt⟩)) fun tied => ?_
      exact more.ne (keys.mpr tied.1).symm
  · have apart : ¬ (records.Perm other ∧ additiveSum state request limits records =
        additiveSum state request limits other) := fun tied => same ((scores tied.1).mpr tied.2)
    refine iff_of_false (not_not.mpr ?_) apart
    simp only [ne_eq, same, Ne.symm same, not_false_eq_true, if_true, decide_eq_true_eq, decide_eq_false_iff_not]
    omega

end Assigned

/-- Ties are broken unless two assignments give the same resources to other requirements for the same sum of
    additive factors. -/
theorem ties_broken_iff (state : SchedulerState) (request : ScheduleRequest) (limits : Limits) :
    TiesBroken state request limits ↔
      ∀ records other, Assignment state request limits records → Assignment state request limits other →
        records.Perm other → records ≠ other →
          additiveSum state request limits records ≠ additiveSum state request limits other := by
  constructor
  · intro broken records other first second perm differ same
    exact (tied_iff first second).mpr ⟨perm, same⟩ (broken.ordered records other first second differ)
  · intro apart
    have ordered (records other : List ResourceRecord) (first : Assignment state request limits records)
        (second : Assignment state request limits other) (differ : records ≠ other) :
        StrictlyOrdered state request limits records other ∨ StrictlyOrdered state request limits other records := by
      by_contra tied
      obtain ⟨perm, same⟩ := (tied_iff first second).mp tied
      exact apart records other first second perm differ same
    refine ⟨ordered, fun ranked resorted perm valid sorted sorted' => ?_⟩
    refine perm.eq_of_pairwise (fun a b member member' before after => ?_) sorted sorted'
    obtain ⟨records, first, rfl⟩ := valid a member
    obtain ⟨other, second, rfl⟩ := valid b (perm.mem_iff.mpr member')
    by_contra differ
    have apart : records ≠ other := fun same => differ (same ▸ rfl)
    rcases ordered records other first second apart with less | less
    · exact absurd less.1 (Bool.eq_false_iff.mp after)
    · exact absurd less.1 (Bool.eq_false_iff.mp before)

namespace Bench

def onHost (id host : UInt64) : ResourceAdvertisement :=
  { advertisement with id := ⟨id⟩, topology := { host := { id := ⟨host⟩ } } }

/-- Two resources on two hosts. -/
def apart : SchedulerState :=
  ((Engine.fresh {}).runs [.registerResource (onHost 7 1), .registerResource (onHost 9 2)]).state

def alike : ScheduleRequest :=
  { request 5 1 with requirements := [{ name := ascii "a" }, { name := ascii "b" }] }

end Bench

/-- Two requirements that ask for the same can swap their resources, and neither assignment comes first. -/
theorem swapped_assignments_tie :
    validateScheduleRequest Bench.alike {} = .ok () ∧ ∃ records other,
      Assignment Bench.apart Bench.alike {} records ∧ Assignment Bench.apart Bench.alike {} other ∧
      records.map (fun record => record.id) = [⟨7⟩, ⟨9⟩] ∧ other.map (fun record => record.id) = [⟨9⟩, ⟨7⟩] ∧
      ¬ (StrictlyOrdered Bench.apart Bench.alike {} records other ∨
        StrictlyOrdered Bench.apart Bench.alike {} other records) := by
  let entries := Bench.apart.resources.entries
  have first : Assignment Bench.apart Bench.alike {} entries :=
    ⟨.cons (by decide) (.cons (by decide) .nil), by decide⟩
  have second : Assignment Bench.apart Bench.alike {} entries.reverse :=
    ⟨.cons (by decide) (.cons (by decide) .nil), by decide⟩
  refine ⟨by decide, entries, entries.reverse, first, second, by decide, by decide, ?_⟩
  exact (tied_iff first second).mpr ⟨(List.reverse_perm entries).symm, by decide⟩

end LabScheduler
