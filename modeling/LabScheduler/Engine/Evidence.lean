import LabScheduler.Engine.Completable
import LabScheduler.Foundation.Paired
import LabScheduler.Foundation.Sorted

namespace LabScheduler

open Foundation

def CompletionClaim.reordered (claim : CompletionClaim) (pairs : List (ResourceId × ResourceGeneration)) :
    CompletionClaim :=
  { claim with resources := pairs.map Prod.fst, resourceGenerations := pairs.map Prod.snd }

def SchedulerState.currentGeneration (state : SchedulerState) (resource : ResourceId) : Option ResourceGeneration :=
  (state.resources.find? resource).map fun record => record.generation

/-- The evidence of a claim is matched per resource, whatever the order of the claim. -/
structure EvidenceMatched (state : SchedulerState) (config : EngineConfig) (claim : CompletionClaim) : Prop where
  current : (reportCompletion state config claim).2.accepted → ∀ (i : Nat) resource generation,
    claim.resources[i]? = some resource → claim.resourceGenerations[i]? = some generation →
      state.currentGeneration resource = some generation
  ordered : ∀ pairs, pairs.Perm (claim.resources.zip claim.resourceGenerations) →
    ((reportCompletion state config (claim.reordered pairs)).2.accepted ↔
      (reportCompletion state config claim).2.accepted)

/-- The claim would be accepted without its generations, which are those of the bound resources in some order, and
    these are not all the same. -/
structure OrderMatters (state : SchedulerState) (claim : CompletionClaim) (record : PlacementRecord)
    (generations : List ResourceGeneration) : Prop where
  named : claim.placement.isNull = false
  found : state.placements.find? claim.placement = some record
  passes : completionChecks state { claim with resourceGenerations := [] } record = .ok ()
  current : (record.resources.map fun selected => state.currentGeneration selected.resource) = generations.map some
  claimed : claim.resourceGenerations.Perm generations
  differ : ∃ a ∈ generations, ∃ b ∈ generations, a ≠ b

theorem sortIds_eq_iff {kind : IdKind} {ids others : List (StrongId kind)} :
    sortIds ids = sortIds others ↔ ids.Perm others := insertionSort_eq_iff

section Checks

variable {state : SchedulerState} {claim : CompletionClaim} {record : PlacementRecord}

theorem checkClaimedResources_iff (some : claim.resources ≠ []) :
    checkClaimedResources claim record = .ok () ↔
      claim.resources.Perm (record.resources.map SelectedResource.resource) := by
  simp only [checkClaimedResources, if_neg some, check_bind_ok, check_ok, sortIds_eq_iff]
  apply and_iff_right_of_imp
  intro perm
  simpa using perm.length_eq

theorem checkClaimedGenerations_iff (some : claim.resourceGenerations ≠ []) :
    checkClaimedGenerations state claim record = .ok () ↔
      (record.resources.map fun selected => state.currentGeneration selected.resource) =
        claim.resourceGenerations.map Option.some := by
  simp only [checkClaimedGenerations, if_neg some, check_bind_ok, check_ok, check_forM_ok, map_eq_map_some_iff]
  apply and_congr_right
  intro _
  apply forall₂_congr
  intro pair _
  unfold SchedulerState.currentGeneration
  cases found : state.resources.find? pair.1.resource with
  | none => simp
  | some resource => simp

theorem completionChecks_iff (some : claim.resourceGenerations ≠ []) :
    completionChecks state claim record = .ok () ↔
      completionChecks state { claim with resourceGenerations := [] } record = .ok () ∧
        (record.resources.map fun selected => state.currentGeneration selected.resource) =
          claim.resourceGenerations.map Option.some := by
  have blank : checkClaimedGenerations state { claim with resourceGenerations := [] } record = .ok () := if_pos rfl
  simp only [completionChecks, check_bind_ok, check_ok, checkClaimedGenerations_iff some, blank]
  constructor
  · intro accepted
    obtain ⟨epoch, experiment, generation, placed, unrecorded, live, boot, resources, generations, active⟩ := accepted
    exact ⟨⟨epoch, experiment, generation, placed, unrecorded, live, boot, resources, trivial, active⟩, generations⟩
  · intro accepted
    obtain ⟨⟨epoch, experiment, generation, placed, unrecorded, live, boot, resources, -, active⟩, generations⟩ :=
      accepted
    exact ⟨epoch, experiment, generation, placed, unrecorded, live, boot, resources, generations, active⟩

theorem completionChecks_perm {resources : List ResourceId} (some : claim.resources ≠ [])
    (perm : resources.Perm claim.resources) :
    completionChecks state { claim with resources := resources } record = .ok () ↔
      completionChecks state claim record = .ok () := by
  have others : resources ≠ [] := fun none => some (List.nil_perm.mp (none ▸ perm))
  have same : checkClaimedResources { claim with resources := resources } record = .ok () ↔
      checkClaimedResources claim record = .ok () := by
    rw [checkClaimedResources_iff some, checkClaimedResources_iff others]
    exact ⟨fun bound => perm.symm.trans bound, fun bound => perm.trans bound⟩
  simp only [completionChecks, check_bind_ok, check_ok, same]
  rfl

end Checks

section Claim

variable {state : SchedulerState} {config : EngineConfig} {claim : CompletionClaim} {record : PlacementRecord}

/-- What an accepted claim is accepted for. -/
theorem accepted_iff (found : state.placements.find? claim.placement = some record) (resources : claim.resources ≠ [])
    (generations : claim.resourceGenerations ≠ []) {pairs : List (ResourceId × ResourceGeneration)}
    (same : claim.resources.length = claim.resourceGenerations.length)
    (perm : pairs.Perm (claim.resources.zip claim.resourceGenerations)) :
    (reportCompletion state config (claim.reordered pairs)).2.accepted ↔
      (claim.placement.isNull = false ∧
        completionChecks state { claim with resourceGenerations := [] } record = .ok ()) ∧
        (record.resources.map fun selected => state.currentGeneration selected.resource) =
          (pairs.map Prod.snd).map some := by
  have first : (pairs.map Prod.fst).Perm claim.resources := by
    have mapped := perm.map Prod.fst
    rw [List.map_fst_zip same.le] at mapped
    exact mapped
  have second : (pairs.map Prod.snd).Perm claim.resourceGenerations := by
    have mapped := perm.map Prod.snd
    rw [List.map_snd_zip same.ge] at mapped
    exact mapped
  have some : (claim.reordered pairs).resourceGenerations ≠ [] :=
    fun none => generations (List.nil_perm.mp (none ▸ second))
  have there : state.placements.find? (claim.reordered pairs).placement = Option.some record := found
  rw [reportCompletion_accepted_iff there, completionChecks_iff some, and_assoc]
  apply and_congr_right
  intro _
  apply and_congr_left
  intro _
  exact @completionChecks_perm _ { claim with resourceGenerations := [] } _ _ resources first

theorem reportCompletion_found (accepted : (reportCompletion state config claim).2.accepted) :
    ∃ record, state.placements.find? claim.placement = some record := by
  cases found : state.placements.find? claim.placement with
  | some record => exact ⟨record, rfl⟩
  | none =>
    unfold reportCompletion at accepted
    split at accepted
    · cases accepted
    · rw [found] at accepted
      cases accepted

end Claim

section Reordered

variable {state : SchedulerState} {config : EngineConfig} {claim : CompletionClaim} {record : PlacementRecord}
  {current : List ResourceGeneration}

theorem CompletionClaim.reordered_self (same : claim.resources.length = claim.resourceGenerations.length) :
    claim.reordered (claim.resources.zip claim.resourceGenerations) = claim := by
  unfold CompletionClaim.reordered
  rw [List.map_fst_zip same.le, List.map_snd_zip same.ge]

theorem exists_reordered {generations : List ResourceGeneration}
    (same : claim.resources.length = claim.resourceGenerations.length)
    (perm : generations.Perm claim.resourceGenerations) :
    ∃ pairs : List (ResourceId × ResourceGeneration),
      generations = pairs.map Prod.snd ∧ pairs.Perm (claim.resources.zip claim.resourceGenerations) := by
  apply exists_perm_of_map
  rw [List.map_snd_zip same.ge]
  exact perm

/-- Where the order matters, the claim is accepted in exactly one order of its generations. -/
theorem OrderMatters.accepted_iff (matters : OrderMatters state claim record current)
    (resources : claim.resources ≠ []) (generations : claim.resourceGenerations ≠ [])
    (same : claim.resources.length = claim.resourceGenerations.length)
    {pairs : List (ResourceId × ResourceGeneration)}
    (perm : pairs.Perm (claim.resources.zip claim.resourceGenerations)) :
    (reportCompletion state config (claim.reordered pairs)).2.accepted ↔ pairs.map Prod.snd = current := by
  rw [LabScheduler.accepted_iff matters.found resources generations same perm,
    and_iff_right ⟨matters.named, matters.passes⟩, matters.current,
    (List.map_injective_iff.mpr (Option.some_injective _)).eq_iff]
  exact eq_comm

theorem EvidenceMatched.not_orderMatters (matched : EvidenceMatched state config claim)
    (resources : claim.resources ≠ []) (generations : claim.resourceGenerations ≠ [])
    (same : claim.resources.length = claim.resourceGenerations.length) :
    ¬ OrderMatters state claim record current := by
  intro matters
  obtain ⟨pairs, snd, perm⟩ := exists_reordered same matters.claimed.symm
  have accepted : (reportCompletion state config claim).2.accepted :=
    (matched.ordered pairs perm).mp ((matters.accepted_iff resources generations same perm).mpr snd.symm)
  obtain ⟨a, memberA, b, memberB, differ⟩ := matters.differ
  obtain ⟨other, reordered, apart⟩ := exists_perm_ne memberA memberB differ
  obtain ⟨wrong, snd, perm⟩ := exists_reordered same (reordered.trans matters.claimed.symm)
  have same_order : wrong.map Prod.snd = current :=
    (matters.accepted_iff resources generations same perm).mp ((matched.ordered wrong perm).mpr accepted)
  exact apart (snd.trans same_order)

theorem one_generation (settled : ∀ record current, ¬ OrderMatters state claim record current)
    (found : state.placements.find? claim.placement = some record)
    (base : claim.placement.isNull = false ∧
      completionChecks state { claim with resourceGenerations := [] } record = .ok ())
    (bound : (record.resources.map fun selected => state.currentGeneration selected.resource) = current.map some)
    (claimed : claim.resourceGenerations.Perm current) : ∀ a ∈ current, ∀ b ∈ current, a = b := by
  intro a memberA b memberB
  by_contra differ
  exact settled record current ⟨base.1, found, base.2, bound, claimed, a, memberA, b, memberB, differ⟩

theorem completionChecks_named (resources : claim.resources ≠ [])
    (passes : completionChecks state claim record = .ok ()) :
    claim.resources.Perm (record.resources.map SelectedResource.resource) := by
  simp only [completionChecks, check_bind_ok] at passes
  obtain ⟨-, -, -, -, -, -, -, checked, -⟩ := passes
  exact (checkClaimedResources_iff resources).mp checked

theorem accepted_current (resources : claim.resources ≠ []) (generations : claim.resourceGenerations ≠ [])
    (same : claim.resources.length = claim.resourceGenerations.length)
    (settled : ∀ record current, ¬ OrderMatters state claim record current)
    (accepted : (reportCompletion state config claim).2.accepted) :
    claim.resources.map state.currentGeneration = claim.resourceGenerations.map some := by
  obtain ⟨record, found⟩ := reportCompletion_found accepted
  rw [← CompletionClaim.reordered_self same,
    accepted_iff found resources generations same (List.Perm.refl _), List.map_snd_zip same.ge] at accepted
  obtain ⟨base, bound⟩ := accepted
  have constant := one_generation settled found base bound (List.Perm.refl _)
  have named : claim.resources.Perm (record.resources.map SelectedResource.resource) :=
    @completionChecks_named state { claim with resourceGenerations := [] } record resources base.2
  have there : (record.resources.map SelectedResource.resource).map state.currentGeneration =
      claim.resourceGenerations.map some := by
    rw [List.map_map]
    exact bound
  have perm := named.map state.currentGeneration
  rw [there] at perm
  apply eq_of_perm_of_same perm
  intro a memberA b memberB
  obtain ⟨one, inA, rfl⟩ := List.mem_map.mp memberA
  obtain ⟨other, inB, rfl⟩ := List.mem_map.mp memberB
  rw [constant one inA other inB]

theorem reordered_accepted_iff (resources : claim.resources ≠ []) (generations : claim.resourceGenerations ≠ [])
    (same : claim.resources.length = claim.resourceGenerations.length)
    (settled : ∀ record current, ¬ OrderMatters state claim record current)
    (found : state.placements.find? claim.placement = some record) {pairs : List (ResourceId × ResourceGeneration)}
    (perm : pairs.Perm (claim.resources.zip claim.resourceGenerations)) :
    (reportCompletion state config (claim.reordered pairs)).2.accepted ↔
      (reportCompletion state config claim).2.accepted := by
  have straight := @accepted_iff _ config _ _ found resources generations _ same (List.Perm.refl _)
  rw [CompletionClaim.reordered_self same, List.map_snd_zip same.ge] at straight
  rw [accepted_iff found resources generations same perm, straight]
  apply and_congr_right
  intro base
  have reorder := perm.map Prod.snd
  rw [List.map_snd_zip same.ge] at reorder
  constructor
  · intro bound
    rw [bound, eq_of_perm_of_same reorder.symm (one_generation settled found base bound reorder.symm)]
  · intro bound
    rw [bound, eq_of_perm_of_same reorder (one_generation settled found base bound (List.Perm.refl _))]

end Reordered

/-- Completion evidence is matched per resource if and only if the claim is not accepted in one order of its lists and
    refused in another. -/
theorem completion_matched (state : SchedulerState) (config : EngineConfig) (claim : CompletionClaim)
    (resources : claim.resources ≠ []) (generations : claim.resourceGenerations ≠ [])
    (same : claim.resources.length = claim.resourceGenerations.length) :
    EvidenceMatched state config claim ↔ ∀ record current, ¬ OrderMatters state claim record current := by
  constructor
  · intro matched record current
    exact matched.not_orderMatters resources generations same
  · intro settled
    constructor
    case current =>
      intro accepted i resource generation claimed stated
      have equal := accepted_current resources generations same settled accepted
      have position := congrArg (fun list => list[i]?) equal
      simpa [claimed, stated] using position
    case ordered =>
      intro pairs perm
      cases found : state.placements.find? claim.placement with
      | some record => exact reordered_accepted_iff resources generations same settled found perm
      | none =>
        apply iff_of_false
        · intro accepted
          obtain ⟨record, there⟩ := reportCompletion_found accepted
          cases found.symm.trans there
        · intro accepted
          obtain ⟨record, there⟩ := reportCompletion_found accepted
          cases found.symm.trans there

namespace Bench

/-- A placement on two resources, the second one of generation 2. -/
def compound : Engine :=
  (Engine.fresh {}).runs
    [.registerResource advertisement, .registerResource { advertisement with id := ⟨8⟩ },
      .publishResourceState { advertisement with id := ⟨8⟩ },
      .submitRequest { request 5 1 with
        requirements := [{ name := ascii "left", allowlist := [⟨7⟩] }, { name := ascii "right", allowlist := [⟨8⟩] }] }]

def compoundClaim (resources : List ResourceId) (generations : List ResourceGeneration) : CompletionClaim :=
  { placement := ⟨3⟩, placementGeneration := ⟨1⟩, experiment := ⟨1⟩, experimentGeneration := ⟨1⟩, epoch := ⟨1⟩
    resources := resources, resourceGenerations := generations }

/-- The same placement, with both resources of generation 1. -/
def level : Engine :=
  (Engine.fresh {}).runs
    [.registerResource advertisement, .registerResource { advertisement with id := ⟨8⟩ },
      .submitRequest { request 5 1 with
        requirements := [{ name := ascii "left", allowlist := [⟨7⟩] }, { name := ascii "right", allowlist := [⟨8⟩] }] }]

end Bench

theorem completion_matched_bench :
    let claim := Bench.compoundClaim [⟨8⟩, ⟨7⟩] [⟨1⟩, ⟨1⟩]
    (reportCompletion Bench.level.state {} claim).2.accepted ∧ EvidenceMatched Bench.level.state {} claim := by
  refine ⟨by decide +kernel, (completion_matched _ _ _ (by decide) (by decide) (by decide)).mpr ?_⟩
  intro record current matters
  have only (a : ResourceGeneration) (member : a ∈ current) : a = ⟨1⟩ := by
    rcases List.mem_pair.mp (matters.claimed.mem_iff.mpr member) with same | same <;> exact same
  obtain ⟨a, memberA, b, memberB, differ⟩ := matters.differ
  exact differ ((only a memberA).trans (only b memberB).symm)

/-- The two resources are claimed in the other order: the claim is accepted with the generations of the placement's
    order, which are not theirs, and refused with their own. -/
theorem crossed_evidence_accepted :
    (reportCompletion Bench.compound.state {} (Bench.compoundClaim [⟨8⟩, ⟨7⟩] [⟨1⟩, ⟨2⟩])).2.accepted ∧
      Bench.compound.state.currentGeneration ⟨8⟩ = some ⟨2⟩ ∧
      (reportCompletion Bench.compound.state {} (Bench.compoundClaim [⟨8⟩, ⟨7⟩] [⟨2⟩, ⟨1⟩])).2.accepted = false ∧
      (reportCompletion Bench.compound.state {} (Bench.compoundClaim [⟨7⟩, ⟨8⟩] [⟨1⟩, ⟨2⟩])).2.accepted ∧
      ¬ EvidenceMatched Bench.compound.state {} (Bench.compoundClaim [⟨8⟩, ⟨7⟩] [⟨1⟩, ⟨2⟩]) := by
  have accepted : (reportCompletion Bench.compound.state {} (Bench.compoundClaim [⟨8⟩, ⟨7⟩] [⟨1⟩, ⟨2⟩])).2.accepted :=
    by decide +kernel
  have current : Bench.compound.state.currentGeneration ⟨8⟩ = some ⟨2⟩ := by decide +kernel
  refine ⟨accepted, current, by decide +kernel, by decide +kernel, fun matched => ?_⟩
  have claimed := matched.current accepted 0 ⟨8⟩ ⟨1⟩ rfl rfl
  cases current.symm.trans claimed

end LabScheduler
