import LabScheduler.Foundation.Separated
import LabScheduler.Engine.Selection

namespace LabScheduler

open Foundation

def keyFields (candidate : CandidateResource) (resource : ResourceRecord) : List Text :=
  (RankingFactor.all.map fun factor => decimalI64 (candidate.additive factor)) ++
    [decimalU32 candidate.slots, if candidate.exclusive then ascii "1" else ascii "0",
      decimalU64 resource.topology.host.id.value, decimalU64 resource.topology.rack.id.value,
      decimalU64 resource.topology.cluster.id.value, decimalU64 resource.worker.value,
      decimalU64 resource.boot.value, decimalU64 resource.generation.value]

theorem interchangeabilityKey_fields (candidate : CandidateResource) (resource : ResourceRecord) :
    interchangeabilityKey candidate resource ++ [58] =
      (keyFields candidate resource).flatMap fun field => field ++ [58] := by
  have colon : ascii ":" = [58] := by decide
  unfold interchangeabilityKey keyFields
  simp [colon, List.flatMap_append, List.flatMap_map]

theorem colon_not_digit {text : Text} (digits : ∀ c ∈ text, isDecimalDigit c) : (58 : UInt8) ∉ text := by
  intro member
  have digit : isDecimalDigit 58 = true := digits 58 member
  exact absurd digit (by decide)

theorem colon_not_mem_decimalI64 (value : Int) : (58 : UInt8) ∉ decimalI64 value := by
  have minus : ascii "-" = [45] := by decide
  unfold decimalI64
  split
  · intro member
    rw [minus] at member
    rcases List.mem_cons.mp member with same | there
    · cases same
    · exact colon_not_digit (decimalU64_digits _) there
  · exact colon_not_digit (decimalU64_digits _)

theorem colon_not_mem_keyFields (candidate : CandidateResource) (resource : ResourceRecord) :
    ∀ field ∈ keyFields candidate resource, (58 : UInt8) ∉ field := by
  intro field member
  rcases List.mem_append.mp member with factor | rest
  · obtain ⟨factor, -, rfl⟩ := List.mem_map.mp factor
    exact colon_not_mem_decimalI64 _
  · simp only [List.mem_cons, List.not_mem_nil, or_false] at rest
    rcases rest with rfl | flag | numbers
    · exact colon_not_digit (decimalU64_digits _)
    · rw [flag]
      split <;> decide
    · rcases numbers with rfl | rfl | rfl | rfl | rfl | rfl
      all_goals exact colon_not_digit (decimalU64_digits _)

theorem keyFields_eq {a b : CandidateResource} {x y : ResourceRecord}
    (same : interchangeabilityKey a x = interchangeabilityKey b y) : keyFields a x = keyFields b y := by
  apply terminated_injective (colon_not_mem_keyFields a x) (colon_not_mem_keyFields b y)
  rw [← interchangeabilityKey_fields, ← interchangeabilityKey_fields, same]

theorem decimalU32_injective : Function.Injective decimalU32 := by
  intro a b same
  have wide : a.toUInt64 = b.toUInt64 := decimalU64_injective same
  have values := congrArg UInt64.toNat wide
  rw [UInt32.toNat_toUInt64, UInt32.toNat_toUInt64] at values
  exact UInt32.toNat_inj.mp values

/-- The values of the additive factors, all of them fractions of `kUnit`. -/
def InUnit (value : Int) : Prop := 0 ≤ value ∧ value ≤ kUnit

instance : DecidablePred InUnit := fun _ => inferInstanceAs (Decidable (_ ∧ _))

theorem decimalI64_inj {a b : Int} (unitA : InUnit a) (unitB : InUnit b) (same : decimalI64 a = decimalI64 b) :
    a = b := by
  unfold InUnit kUnit at unitA unitB
  unfold decimalI64 at same
  rw [if_neg (by omega), if_neg (by omega)] at same
  have words : UInt64.ofNat a.toNat = UInt64.ofNat b.toNat := decimalU64_injective same
  have values := congrArg UInt64.toNat words
  rw [UInt64.toNat_ofNat_of_lt' (by change a.toNat < 2 ^ 64; omega),
    UInt64.toNat_ofNat_of_lt' (by change b.toNat < 2 ^ 64; omega)] at values
  omega

theorem clampUnit_inUnit (value : Int) : InUnit (clampUnit value) := by
  unfold InUnit clampUnit kUnit
  split
  · omega
  · split <;> omega

theorem ite_inUnit {p : Prop} [Decidable p] {a b : Int} (first : InUnit a) (second : InUnit b) :
    InUnit (if p then a else b) := by
  split
  · exact first
  · exact second

theorem acceleratorFit_inUnit (requirement : ResourceRequirement) (resource : ResourceRecord) :
    InUnit (acceleratorFit requirement resource) :=
  ite_inUnit (ite_inUnit (clampUnit_inUnit _) (by decide)) (by decide)

theorem modelWarmth_inUnit (resource : ResourceRecord) : InUnit (modelWarmth resource) :=
  ite_inUnit (ite_inUnit (by decide) (ite_inUnit (by decide) (by decide))) (by decide)

theorem simulatorReadiness_inUnit (resource : ResourceRecord) : InUnit (simulatorReadiness resource) := by
  apply ite_inUnit ?_ (by decide)
  cases resource.readiness <;> decide

theorem computeAdditiveValues_inUnit (state : SchedulerState) (request : ScheduleRequest)
    (requirement : ResourceRequirement) (resource : ResourceRecord) (eligibility : Eligibility)
    (factor : RankingFactor) :
    InUnit (computeAdditiveValues state request requirement resource eligibility factor) := by
  cases factor with
  | occupancy => exact clampUnit_inUnit _
  | residualCapacity => exact clampUnit_inUnit _
  | acceleratorFit => exact acceleratorFit_inUnit requirement resource
  | modelWarmth => exact modelWarmth_inUnit resource
  | simulatorReadiness => exact simulatorReadiness_inUnit resource
  | fragmentation => exact ite_inUnit (by decide) (by decide)
  | reuse => exact ite_inUnit (by decide) (by decide)
  | locality | datasetLocality | topologyDistance | fairness | priority =>
    have unit : InUnit kUnit := by decide
    exact unit

section Keys

variable (state : SchedulerState) (request : ScheduleRequest) (limits : Limits)
  (requirement : ResourceRequirement)

/-- The key under which the collapse meets a resource. -/
def resourceKey (resource : ResourceRecord) : Text :=
  interchangeabilityKey (candidateResource state request limits requirement resource) resource

/-- Two resources that one requirement cannot tell apart by their keys. -/
structure Interchangeable (a b : ResourceRecord) : Prop where
  additive : (candidateResource state request limits requirement a).additive =
    (candidateResource state request limits requirement b).additive
  slots : (candidateResource state request limits requirement a).slots =
    (candidateResource state request limits requirement b).slots
  exclusive : (candidateResource state request limits requirement a).exclusive =
    (candidateResource state request limits requirement b).exclusive
  host : a.topology.host.id = b.topology.host.id
  rack : a.topology.rack.id = b.topology.rack.id
  cluster : a.topology.cluster.id = b.topology.cluster.id
  worker : a.worker = b.worker
  boot : a.boot = b.boot
  generation : a.generation = b.generation

variable {state request limits requirement}

theorem Interchangeable.of_key {a b : ResourceRecord}
    (same : resourceKey state request limits requirement a = resourceKey state request limits requirement b) :
    Interchangeable state request limits requirement a b := by
  have fields := keyFields_eq same
  obtain ⟨factors, rest⟩ := List.append_inj fields (by simp)
  simp only [List.cons.injEq, and_true] at rest
  obtain ⟨slots, exclusive, host, rack, cluster, worker, boot, generation⟩ := rest
  have named {kind : IdKind} {left right : StrongId kind} (texts : decimalU64 left.value = decimalU64 right.value) :
      left = right := StrongId.value_injective (decimalU64_injective texts)
  constructor
  case additive =>
    funext factor
    have member : factor ∈ RankingFactor.all := by cases factor <;> decide
    have texts := List.map_inj_left.mp factors factor member
    exact decimalI64_inj (computeAdditiveValues_inUnit ..) (computeAdditiveValues_inUnit ..) texts
  case slots => exact decimalU32_injective slots
  case exclusive =>
    generalize (candidateResource state request limits requirement a).exclusive = left at exclusive ⊢
    generalize (candidateResource state request limits requirement b).exclusive = right at exclusive ⊢
    revert exclusive
    cases left <;> cases right <;> decide
  case host => exact named host
  case rack => exact named rack
  case cluster => exact named cluster
  case worker => exact named worker
  case boot => exact named boot
  case generation => exact named generation

theorem mem_eligibleResources {resource : ResourceRecord} :
    resource ∈ eligibleResources state request limits requirement ↔
      state.resources.find? resource.id = some resource ∧
        (evaluateResource request requirement resource limits).eligible := by
  simp only [eligibleResources, relevantResources, List.mem_filter, beq_iff_eq]
  constructor
  · intro kept
    obtain ⟨⟨member, -⟩, eligible⟩ := kept
    exact ⟨Table.find?_of_mem member, eligible⟩
  · intro kept
    obtain ⟨found, eligible⟩ := kept
    refine ⟨⟨Table.mem_of_find? found, ?_⟩, eligible⟩
    by_contra differs
    unfold evaluateResource at eligible
    simp [differs] at eligible

/-- The resource the collapse keeps of those with its key: the one with the least identity. -/
def Retained (state : SchedulerState) (request : ScheduleRequest) (limits : Limits)
    (requirement : ResourceRequirement) (resource : ResourceRecord) : Prop :=
  ∀ other ∈ eligibleResources state request limits requirement,
    resourceKey state request limits requirement other = resourceKey state request limits requirement resource →
    resource.id ≤ other.id

theorem Interchangeable.partialScore {a b : ResourceRecord}
    (same : Interchangeable state request limits requirement a b) :
    (candidateResource state request limits requirement a).partialScore =
      (candidateResource state request limits requirement b).partialScore := by
  have scored (resource : ResourceRecord) : (candidateResource state request limits requirement resource).partialScore =
      LabScheduler.partialScore request (candidateResource state request limits requirement resource).additive := rfl
  rw [scored, scored, same.additive]

instance : IsTrans CandidateResource candidatePrecedes where
  trans a b c first second := by
    unfold candidatePrecedes at *
    rcases first with less | ⟨same, before⟩
    · rcases second with less' | ⟨same', -⟩
      · exact .inl (less'.trans less)
      · exact .inl (same' ▸ less)
    · rcases second with less' | ⟨same', before'⟩
      · exact .inl (same ▸ less')
      · exact .inr ⟨same.trans same', before.trans before'⟩

instance : Std.Total candidatePrecedes where
  total a b := by
    unfold candidatePrecedes
    rcases lt_trichotomy a.partialScore b.partialScore with less | same | more
    · exact .inr (.inl less)
    · rcases le_total a.id b.id with before | before
      · exact .inl (.inr ⟨same, before⟩)
      · exact .inr (.inr ⟨same.symm, before⟩)
    · exact .inl (.inl more)

theorem collapse_sublist (resources : ResourceTable) (seen : List Text) (candidates : List CandidateResource) :
    (collapse resources seen candidates).Sublist candidates := by
  induction candidates generalizing seen with
  | nil => exact .slnil
  | cons candidate rest ih =>
    unfold collapse
    split
    · exact (ih seen).cons candidate
    · extract_lets key
      split
      · exact (ih seen).cons candidate
      · exact (ih _).cons_cons candidate

theorem mem_collapse_iff {resources : ResourceTable} {key : CandidateResource → Text}
    {precedes : CandidateResource → CandidateResource → Prop} {seen : List Text}
    {candidates : List CandidateResource} {candidate : CandidateResource}
    (keyed : ∀ candidate ∈ candidates, ∃ resource, resources.find? candidate.id = some resource ∧
      interchangeabilityKey candidate resource = key candidate)
    (sorted : candidates.Pairwise precedes)
    (antisymm : ∀ a ∈ candidates, ∀ b ∈ candidates, precedes a b → precedes b a → a = b) :
    candidate ∈ collapse resources seen candidates ↔
      candidate ∈ candidates ∧ key candidate ∉ seen ∧
        ∀ other ∈ candidates, key other = key candidate → other = candidate ∨ precedes candidate other := by
  induction candidates generalizing seen with
  | nil => simp [collapse]
  | cons first rest ih =>
    obtain ⟨resource, found, keyOf⟩ := keyed first List.mem_cons_self
    obtain ⟨firstPrecedes, sorted⟩ := List.pairwise_cons.mp sorted
    have later (seen : List Text) := @ih seen
      (fun candidate member => keyed candidate (List.mem_cons_of_mem _ member)) sorted
      (fun a first b second => antisymm a (List.mem_cons_of_mem _ first) b (List.mem_cons_of_mem _ second))
    unfold collapse
    simp only [found, keyOf]
    by_cases known : key first ∈ seen
    · rw [if_pos known, later]
      constructor
      · intro ⟨member, fresh, least⟩
        refine ⟨List.mem_cons_of_mem _ member, fresh, fun other there same => ?_⟩
        rcases List.mem_cons.mp there with rfl | there
        · exact absurd (same ▸ known) fresh
        · exact least other there same
      · intro ⟨member, fresh, least⟩
        rcases List.mem_cons.mp member with rfl | member
        · exact absurd known fresh
        · exact ⟨member, fresh, fun other there => least other (List.mem_cons_of_mem _ there)⟩
    · rw [if_neg known, List.mem_cons, later]
      constructor
      · intro kept
        rcases kept with rfl | ⟨member, fresh, least⟩
        · refine ⟨List.mem_cons_self, known, fun other there _ => ?_⟩
          rcases List.mem_cons.mp there with rfl | there
          · exact .inl rfl
          · exact .inr (firstPrecedes other there)
        · rw [List.mem_cons, not_or] at fresh
          refine ⟨List.mem_cons_of_mem _ member, fresh.2, fun other there same => ?_⟩
          rcases List.mem_cons.mp there with rfl | there
          · exact absurd same.symm fresh.1
          · exact least other there same
      · intro ⟨member, fresh, least⟩
        rcases List.mem_cons.mp member with rfl | member
        · exact .inl rfl
        · by_cases same : key first = key candidate
          · rcases least first List.mem_cons_self same with rfl | before
            · exact .inl rfl
            · have there : candidate ∈ first :: rest := List.mem_cons_of_mem _ member
              exact .inl (antisymm candidate there first List.mem_cons_self before (firstPrecedes candidate member))
          · refine .inr ⟨member, ?_, fun other there => least other (List.mem_cons_of_mem _ there)⟩
            rw [List.mem_cons, not_or]
            exact ⟨fun equal => same equal.symm, fresh⟩

theorem rankedCandidates_sorted :
    (rankedCandidates state request limits requirement).Pairwise candidatePrecedes :=
  List.pairwise_insertionSort candidatePrecedes _

theorem mem_rankedCandidates_iff {candidate : CandidateResource} :
    candidate ∈ rankedCandidates state request limits requirement ↔
      ∃ resource ∈ eligibleResources state request limits requirement,
        candidate = candidateResource state request limits requirement resource := by
  simp only [rankedCandidates, List.mem_insertionSort, List.mem_map, eq_comm]

def candidateKey (resources : ResourceTable) (candidate : CandidateResource) : Text :=
  match resources.find? candidate.id with
  | none => []
  | some resource => interchangeabilityKey candidate resource

theorem candidateKey_eq {resource : ResourceRecord}
    (eligible : resource ∈ eligibleResources state request limits requirement) :
    candidateKey state.resources (candidateResource state request limits requirement resource) =
      resourceKey state request limits requirement resource := by
  have found : state.resources.find? (candidateResource state request limits requirement resource).id =
      some resource := (mem_eligibleResources.mp eligible).1
  unfold candidateKey
  rw [found]
  rfl

theorem candidateResource_id_inj {a b : ResourceRecord}
    (first : a ∈ eligibleResources state request limits requirement)
    (second : b ∈ eligibleResources state request limits requirement) (same : a.id = b.id) : a = b := by
  have there := (mem_eligibleResources.mp first).1
  rw [same, (mem_eligibleResources.mp second).1] at there
  exact (Option.some.inj there).symm

theorem candidatePrecedes_of_key {a b : ResourceRecord}
    (same : resourceKey state request limits requirement a = resourceKey state request limits requirement b) :
    candidatePrecedes (candidateResource state request limits requirement a)
        (candidateResource state request limits requirement b) ↔ a.id ≤ b.id := by
  have scores := (Interchangeable.of_key same).partialScore
  unfold candidatePrecedes
  rw [scores]
  constructor
  · intro precedes
    rcases precedes with less | ⟨-, before⟩
    · exact absurd less (lt_irrefl _)
    · exact before
  · intro before
    exact .inr ⟨rfl, before⟩

theorem candidatePrecedes_antisymm {a b : CandidateResource} (first : candidatePrecedes a b)
    (second : candidatePrecedes b a) : a.id = b.id := by
  rcases first with less | ⟨same, before⟩
  · rcases second with less' | ⟨same', -⟩
    · exact absurd (less.trans less') (lt_irrefl _)
    · exact absurd (same' ▸ less) (lt_irrefl _)
  · rcases second with less' | ⟨-, before'⟩
    · exact absurd (same ▸ less') (lt_irrefl _)
    · exact le_antisymm before before'

theorem mem_distinctCandidates {candidate : CandidateResource} :
    candidate ∈ distinctCandidates state request limits requirement ↔
      ∃ resource ∈ eligibleResources state request limits requirement,
        Retained state request limits requirement resource ∧
          candidate = candidateResource state request limits requirement resource := by
  have keyed : ∀ candidate ∈ rankedCandidates state request limits requirement, ∃ resource,
      state.resources.find? candidate.id = some resource ∧
        interchangeabilityKey candidate resource = candidateKey state.resources candidate := by
    intro candidate member
    obtain ⟨resource, eligible, rfl⟩ := mem_rankedCandidates_iff.mp member
    exact ⟨resource, (mem_eligibleResources.mp eligible).1, (candidateKey_eq eligible).symm⟩
  have antisymm : ∀ a ∈ rankedCandidates state request limits requirement,
      ∀ b ∈ rankedCandidates state request limits requirement,
      candidatePrecedes a b → candidatePrecedes b a → a = b := by
    intro a first b second before after
    obtain ⟨left, eligible, rfl⟩ := mem_rankedCandidates_iff.mp first
    obtain ⟨right, eligible', rfl⟩ := mem_rankedCandidates_iff.mp second
    rw [candidateResource_id_inj eligible eligible' (candidatePrecedes_antisymm before after)]
  have collapsed := @mem_collapse_iff _ _ _ [] _ candidate keyed rankedCandidates_sorted antisymm
  unfold distinctCandidates
  rw [collapsed, mem_rankedCandidates_iff]
  constructor
  · intro ⟨⟨resource, eligible, made⟩, _, least⟩
    subst made
    refine ⟨resource, eligible, fun other there same => ?_, rfl⟩
    have keys : candidateKey state.resources (candidateResource state request limits requirement other) =
        candidateKey state.resources (candidateResource state request limits requirement resource) := by
      rw [candidateKey_eq there, candidateKey_eq eligible, same]
    rcases least _ (mem_rankedCandidates_iff.mpr ⟨other, there, rfl⟩) keys with equal | before
    · exact (congrArg CandidateResource.id equal).ge
    · exact (candidatePrecedes_of_key same.symm).mp before
  · intro ⟨resource, eligible, kept, made⟩
    subst made
    refine ⟨⟨resource, eligible, rfl⟩, List.not_mem_nil, fun other member same => ?_⟩
    obtain ⟨record, there, rfl⟩ := mem_rankedCandidates_iff.mp member
    rw [candidateKey_eq there, candidateKey_eq eligible] at same
    exact .inr ((candidatePrecedes_of_key same.symm).mpr (kept record there same))

end Keys

end LabScheduler
