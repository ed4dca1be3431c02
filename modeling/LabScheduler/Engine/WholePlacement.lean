import LabScheduler.Engine.Soundness
import LabScheduler.Foundation.Paired

namespace LabScheduler

open Foundation

/-- `holds` between any two different positions of the two groups of the constraint. -/
def BetweenPositions (chosen : List (ResourceRecord × ResourceRequirement)) (constraint : GroupConstraint)
    (holds : ResourceRecord → ResourceRecord → TopologyScope → Prop) : Prop :=
  ∀ (i j : Nat) a b, i ≠ j → chosen[i]? = some a → chosen[j]? = some b → a.2.affinityGroup = constraint.groupA →
    b.2.affinityGroup = constraint.groupB → holds a.1 b.1 constraint.scope

/-- A live placement of the experiment, for another request, holds the resource. -/
def ClaimedByOther (state : SchedulerState) (request : ScheduleRequest) (resource : ResourceId) : Prop :=
  ∃ placement ∈ state.placements.entries, placement.experiment = request.experiment ∧
    placement.request ≠ request.id ∧ placementStateIsLive placement.state ∧
    ∃ reservation, state.reservations.find? placement.reservation = some reservation ∧
      reservation.state = .active ∧ ∃ claim ∈ reservation.claims, claim.resource = resource

structure WholePlacement (state : SchedulerState) (request : ScheduleRequest) (records : List ResourceRecord)
    (selection : List CandidateResource) : Prop where
  distinct : ∀ (i j : Nat) a b, i ≠ j → records[i]? = some a → records[j]? = some b → a.id ≠ b.id
  affinity : ∀ constraint ∈ request.affinity,
    BetweenPositions (records.zip request.requirements) constraint Colocated
  antiAffinity : ∀ constraint ∈ request.antiAffinity,
    BetweenPositions (records.zip request.requirements) constraint Separated
  experiment : request.experimentAntiAffinity → ∀ record ∈ records, ¬ ClaimedByOther state request record.id
  exclusive : request.exclusive → ∀ candidate ∈ selection, candidate.exclusive

/-- What the pair loops ask of a position paired with itself. -/
structure SelfPaired (request : ScheduleRequest) (records : List ResourceRecord) : Prop where
  affinity : ∀ constraint ∈ request.affinity, constraint.groupA = constraint.groupB →
    ∀ chosen ∈ records.zip request.requirements, chosen.2.affinityGroup = constraint.groupA →
      (chosen.1.topology.domain constraint.scope).id.isNull = false
  antiAffinity : ∀ constraint ∈ request.antiAffinity, constraint.groupA ≠ constraint.groupB

section Positions

variable {chosen : List (ResourceRecord × ResourceRequirement)} {constraint : GroupConstraint}

theorem betweenGroups_iff {holds : ResourceRecord → ResourceRecord → TopologyScope → Prop} :
    BetweenGroups chosen constraint holds ↔
      BetweenPositions chosen constraint holds ∧
        ∀ pair ∈ chosen, pair.2.affinityGroup = constraint.groupA → pair.2.affinityGroup = constraint.groupB →
          holds pair.1 pair.1 constraint.scope :=
  forall_pairs_iff

theorem colocated_self {record : ResourceRecord} {scope : TopologyScope} :
    Colocated record record scope ↔ (record.topology.domain scope).id.isNull = false :=
  and_iff_left rfl

theorem not_separated_self {record : ResourceRecord} {scope : TopologyScope} : ¬ Separated record record scope :=
  fun separated => separated.2.2 rfl

end Positions

theorem reservedByOtherPlacement_iff {state : SchedulerState} {request : ScheduleRequest} {resource : ResourceId} :
    reservedByOtherPlacement state request.experiment resource request.id ↔ ClaimedByOther state request resource := by
  unfold reservedByOtherPlacement ClaimedByOther
  simp only [List.any_eq_true, Bool.and_eq_true, beq_iff_eq, bne_iff_ne]
  apply exists_congr
  intro placement
  apply and_congr_right
  intro member
  cases found : state.reservations.find? placement.reservation with
  | none => simp
  | some reservation => simp [and_assoc]

theorem nodup_iff_positions {records : List ResourceRecord} :
    (records.map fun record => record.id).Nodup ↔
      ∀ (i j : Nat) a b, i ≠ j → records[i]? = some a → records[j]? = some b → a.id ≠ b.id := by
  unfold List.Nodup
  rw [List.pairwise_map, List.pairwise_iff_getElem]
  constructor
  · intro ordered i j a b apart first second
    obtain ⟨i_lt, here⟩ := List.getElem?_eq_some_iff.mp first
    obtain ⟨j_lt, there⟩ := List.getElem?_eq_some_iff.mp second
    rw [← here, ← there]
    rcases Nat.lt_or_gt_of_ne apart with before | after
    · exact ordered i j i_lt j_lt before
    · exact (ordered j i j_lt i_lt after).symm
  · intro distinct i j i_lt j_lt before
    apply distinct i j
    · omega
    · exact List.getElem?_eq_getElem i_lt
    · exact List.getElem?_eq_getElem j_lt

theorem validateScheduleRequest_constraint {request : ScheduleRequest} {limits : Limits}
    (valid : validateScheduleRequest request limits = .ok ()) {constraint : AntiAffinityConstraint}
    (member : constraint ∈ request.antiAffinity) :
    ∃ requirement ∈ request.requirements, requirement.affinityGroup = constraint.groupA := by
  simp only [validateScheduleRequest, check_bind_ok, check_forM_ok] at valid
  obtain ⟨-, -, -, -, -, -, -, -, -, -, -, -, -, -, -, constraints, -⟩ := valid
  have checked := constraints constraint member
  simp only [validateConstraint, check_bind_ok, check_ok] at checked
  have declared := checked.2.1
  obtain ⟨requirement, there, same⟩ := List.mem_map.mp (List.mem_of_mem_filter declared)
  exact ⟨requirement, there, same⟩

section Validation

variable {state : SchedulerState} {request : ScheduleRequest} {limits : Limits} {records : List ResourceRecord}
  {selection : List CandidateResource}

/-- `validate_selection` meets the specification, and asks the pairs of a position with itself as well. -/
theorem validateSelection_iff (valid : validateScheduleRequest request limits = .ok ())
    (whole : records.length = request.requirements.length) :
    validateSelection state request records selection = none ↔
      WholePlacement state request records selection ∧ SelfPaired request records := by
  rw [validateSelection_eq_none]
  have affine (constraint : AffinityConstraint) :
      constraintHolds (records.zip request.requirements) constraint domainsAreEqual ↔
        BetweenPositions (records.zip request.requirements) constraint Colocated ∧
          ∀ chosen ∈ records.zip request.requirements, chosen.2.affinityGroup = constraint.groupA →
            chosen.2.affinityGroup = constraint.groupB →
            (chosen.1.topology.domain constraint.scope).id.isNull = false := by
    rw [constraintHolds_iff]
    simp only [domainsAreEqual_iff, betweenGroups_iff, colocated_self]
  have separate (constraint : AntiAffinityConstraint) :
      constraintHolds (records.zip request.requirements) constraint domainsAreDisjoint ↔
        BetweenPositions (records.zip request.requirements) constraint Separated ∧
          ∀ chosen ∈ records.zip request.requirements, chosen.2.affinityGroup = constraint.groupA →
            chosen.2.affinityGroup ≠ constraint.groupB := by
    rw [constraintHolds_iff]
    simp only [domainsAreDisjoint_iff, betweenGroups_iff, not_separated_self]
  have experiment (record : ResourceRecord) :
      reservedByOtherPlacement state request.experiment record.id request.id = false ↔
        ¬ ClaimedByOther state request record.id := by
    rw [← reservedByOtherPlacement_iff, Bool.not_eq_true]
  constructor
  · intro answer
    constructor
    · constructor
      case distinct => exact nodup_iff_positions.mp answer.distinct
      case affinity => exact fun constraint member => ((affine constraint).mp (answer.affinity constraint member)).1
      case antiAffinity =>
        exact fun constraint member => ((separate constraint).mp (answer.antiAffinity constraint member)).1
      case experiment => exact fun asked record member => (experiment record).mp (answer.experiment asked record member)
      case exclusive => exact answer.exclusive
    · constructor
      case affinity =>
        intro constraint member same chosen there group
        apply ((affine constraint).mp (answer.affinity constraint member)).2 chosen there group
        rw [← same]
        exact group
      case antiAffinity =>
        intro constraint member same
        obtain ⟨requirement, there, group⟩ := validateScheduleRequest_constraint valid member
        have second : (records.zip request.requirements).map Prod.snd = request.requirements :=
          List.map_snd_zip whole.ge
        rw [← second] at there
        obtain ⟨chosen, found, rfl⟩ := List.mem_map.mp there
        apply ((separate constraint).mp (answer.antiAffinity constraint member)).2 chosen found group
        rw [← same]
        exact group
  · intro both
    obtain ⟨spec, self⟩ := both
    constructor
    case distinct => exact nodup_iff_positions.mpr spec.distinct
    case affinity =>
      intro constraint member
      apply (affine constraint).mpr
      refine ⟨spec.affinity constraint member, fun chosen there groupA groupB => ?_⟩
      exact self.affinity constraint member (groupA.symm.trans groupB) chosen there groupA
    case antiAffinity =>
      intro constraint member
      apply (separate constraint).mpr
      refine ⟨spec.antiAffinity constraint member, fun chosen there groupA groupB => ?_⟩
      exact self.antiAffinity constraint member (groupA.symm.trans groupB)
    case experiment => exact fun asked record member => (experiment record).mpr (spec.experiment asked record member)
    case exclusive => exact spec.exclusive

end Validation

/-- The answer is that of the specification if and only if a selection that meets it has, at each position that a
    constraint pairs with itself, a known domain and no separation to show. -/
theorem selection_validated (state : SchedulerState) (request : ScheduleRequest) (limits : Limits)
    (records : List ResourceRecord) (selection : List CandidateResource)
    (valid : validateScheduleRequest request limits = .ok ())
    (whole : records.length = request.requirements.length) :
    (validateSelection state request records selection = none ↔ WholePlacement state request records selection) ↔
      (WholePlacement state request records selection → SelfPaired request records) := by
  rw [validateSelection_iff valid whole]
  exact and_iff_left_iff_imp

namespace Bench

def hosted (id : UInt64) : ResourceRecord :=
  registeredRecord ⟨1⟩ { advertisement with
    id := ⟨id⟩, topology := { host := { id := ⟨id⟩, name := ascii "host" }, supplied := true } }

/-- Two slots on hosts that are kept apart, between the two groups or within one. -/
def spread (first second : UInt32) : ScheduleRequest :=
  { request 5 1 with
    requirements := [{ name := ascii "left", affinityGroup := first }, { name := ascii "right", affinityGroup := second }]
    antiAffinity := [{ groupA := first, groupB := second, scope := .host }] }

def picked : List CandidateResource := [{ id := ⟨7⟩ }, { id := ⟨8⟩ }]

end Bench

theorem selection_validated_bench :
    WholePlacement (Engine.fresh {}).state (Bench.spread 1 2) [Bench.hosted 7, Bench.hosted 8] Bench.picked := by
  have valid : validateScheduleRequest (Bench.spread 1 2) {} = .ok () := by decide +kernel
  have self : SelfPaired (Bench.spread 1 2) [Bench.hosted 7, Bench.hosted 8] := by
    constructor
    case affinity => exact fun constraint member => absurd member List.not_mem_nil
    case antiAffinity =>
      intro constraint member
      rw [List.mem_singleton.mp member]
      decide
  have answer : validateSelection (Engine.fresh {}).state (Bench.spread 1 2) [Bench.hosted 7, Bench.hosted 8]
      Bench.picked = none := by decide +kernel
  exact ((selection_validated _ _ {} _ _ valid rfl).mpr fun _ => self).mp answer

/-- Two resources on different hosts meet an anti-affinity within one group, and are refused. -/
theorem spread_group_refused :
    validateScheduleRequest (Bench.spread 1 1) {} = .ok () ∧
      WholePlacement (Engine.fresh {}).state (Bench.spread 1 1) [Bench.hosted 7, Bench.hosted 8] Bench.picked ∧
      validateSelection (Engine.fresh {}).state (Bench.spread 1 1) [Bench.hosted 7, Bench.hosted 8] Bench.picked =
        some .antiAffinityViolation := by
  have positions {α : Type} {x y : α} {i j : Nat} {a b : α} (apart : i ≠ j) (first : [x, y][i]? = some a)
      (second : [x, y][j]? = some b) : a = x ∧ b = y ∨ a = y ∧ b = x := by
    obtain ⟨i_lt, here⟩ := List.getElem?_eq_some_iff.mp first
    obtain ⟨j_lt, there⟩ := List.getElem?_eq_some_iff.mp second
    have bound : i < 2 ∧ j < 2 := ⟨i_lt, j_lt⟩
    rcases (show i = 0 ∧ j = 1 ∨ i = 1 ∧ j = 0 by omega) with ⟨rfl, rfl⟩ | ⟨rfl, rfl⟩
    · exact .inl ⟨here.symm, there.symm⟩
    · exact .inr ⟨here.symm, there.symm⟩
  refine ⟨by decide +kernel, ?_, by decide +kernel⟩
  constructor
  case distinct =>
    intro i j a b apart first second
    rcases positions apart first second with ⟨rfl, rfl⟩ | ⟨rfl, rfl⟩
    · decide
    · decide
  case affinity => exact fun constraint member => absurd member List.not_mem_nil
  case antiAffinity =>
    intro constraint member i j a b apart first second _ _
    rw [List.mem_singleton.mp member]
    rcases positions apart first second with ⟨rfl, rfl⟩ | ⟨rfl, rfl⟩
    · exact ⟨by decide, by decide, by decide⟩
    · exact ⟨by decide, by decide, by decide⟩
  case experiment => exact fun asked => absurd asked Bool.false_ne_true
  case exclusive => exact fun asked => absurd asked Bool.false_ne_true

end LabScheduler
