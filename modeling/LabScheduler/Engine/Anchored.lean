import LabScheduler.Engine.Selections

namespace LabScheduler

open Foundation

/-- A selected resource is still the one that was selected, and its worker still vouches for it. -/
structure Grounds (resource : ResourceRecord) (selected : SelectedResource) : Prop where
  worker : resource.worker = selected.worker
  boot : selected.worker.isNull = false → resource.boot = selected.workerBoot
  held : selected.worker.isNull = false → resource.dynamicAuthoritative ∨ resource.lifecycle = .current

theorem Grounds.of_rebooked {before after : ResourceRecord} {selected : SelectedResource}
    (grounds : Grounds before selected) (rebooked : before.Rebooked after) : Grounds after selected := by
  rw [← rebooked] at grounds
  exact ⟨grounds.worker, grounds.boot, grounds.held⟩

def Anchored (state : SchedulerState) : Prop :=
  ∀ placement ∈ state.placements.entries, placementStateIsLive placement.state →
    ∀ selected ∈ placement.resources, ∀ resource,
      state.resources.find? selected.resource = some resource → Grounds resource selected

theorem Anchored.holdsTied {state : SchedulerState} (anchored : Anchored state) (paired : Paired state)
    {incarnation : Incarnation} (named : incarnation.1.isNull = false) : HoldsTied state incarnation := by
  have holds {resource : ResourceRecord} : resource.id ∈ state.heldBy incarnation ↔
      ∃ other ∈ state.resources.entries, other.heldBy incarnation.1 incarnation.2 ∧ other.id = resource.id := by
    simp only [SchedulerState.heldBy, List.mem_map, List.mem_filter, and_assoc]
  constructor
  · intro placement member live
    have grounded := anchored placement member live
    constructor
    · intro touches
      rcases Bool.or_eq_true_iff.mp touches with own | through
      · simp only [Bool.and_eq_true, beq_iff_eq] at own
        exact .inl own
      · obtain ⟨selected, picked, held⟩ := List.any_eq_true.mp through
        obtain ⟨resource, kept, same⟩ := List.mem_map.mp (List.contains_iff_mem.mp held)
        obtain ⟨there, holder⟩ := List.mem_filter.mp kept
        have found := Table.find?_of_mem there
        rw [same] at found
        obtain ⟨worker, boot, -⟩ := grounded selected picked resource found
        simp only [ResourceRecord.heldBy, Bool.and_eq_true, beq_iff_eq] at holder
        obtain ⟨⟨owner, incarnate⟩, -⟩ := holder
        have bound : selected.worker = incarnation.1 := worker.symm.trans owner
        have vouched := boot (bound ▸ named)
        exact .inr ⟨selected, picked, bound, vouched.symm.trans incarnate⟩
    · intro tied
      apply Bool.or_eq_true_iff.mpr
      rcases tied with own | ⟨selected, picked, bound, incarnate⟩
      · left
        simp [own]
      · right
        obtain ⟨resource, found⟩ :=
          Option.ne_none_iff_exists'.mp (paired.registered placement member live selected picked)
        obtain ⟨worker, boot, held⟩ := grounded selected picked resource found
        have owned : selected.worker.isNull = false := bound ▸ named
        have key : resource.id = selected.resource := ResourceTable.id_of_find? found
        apply List.any_eq_true.mpr
        refine ⟨selected, picked, List.contains_iff_mem.mpr (List.mem_map.mpr ⟨resource, ?_, key⟩)⟩
        apply List.mem_filter.mpr
        refine ⟨Table.mem_of_find? found, ?_⟩
        rcases held owned with authoritative | current
        · simp [ResourceRecord.heldBy, worker, bound, boot owned, incarnate, authoritative]
        · simp [ResourceRecord.heldBy, worker, bound, boot owned, incarnate, current]
  · intro placement member live _
    obtain ⟨reservation, found, active, -⟩ := paired.backed placement member live
    refine ⟨reservation, found, ?_⟩
    rw [active]
    intro same
    cases same

/-- A commit selects no resource of a worker that does not vouch for it: one that is neither authoritative
    nor `Current` can be selected only when its evidence is waived. -/
def Engine.SelectsHeld (engine : Engine) (operation : Operation) : Prop :=
  ∀ placement ∈ (engine.step operation).1.state.placements.entries, placementStateIsLive placement.state →
    engine.state.placements.find? placement.id = none →
      ∀ selected ∈ placement.resources, ∀ resource ∈ engine.state.resources.entries,
        resource.id = selected.resource → resource.worker.isNull = false →
          resource.dynamicAuthoritative ∨ resource.lifecycle = .current

instance (engine : Engine) (operation : Operation) : Decidable (engine.SelectsHeld operation) :=
  inferInstanceAs (Decidable (∀ placement ∈ (engine.step operation).1.state.placements.entries, _ → _ → _))

/-- A publication that passes its checks brings no new boot to a resource that a live placement still selects. -/
def Engine.PublishesUnmoved (engine : Engine) : Operation → Prop
  | .publishResourceState advertisement =>
    ∀ mid live, Publishes engine.state engine.config advertisement mid live → live.worker.isNull = false →
      live.boot = advertisement.boot ∨
        ∀ placement ∈ mid.placements.entries, placementStateIsLive placement.state →
          ∀ selected ∈ placement.resources, selected.resource ≠ advertisement.id
  | _ => True

structure Engine.Grounded (engine : Engine) (operation : Operation) : Prop where
  unused : engine.DrawsUnused operation
  held : engine.SelectsHeld operation
  unmoved : engine.PublishesUnmoved operation

namespace Anchored

theorem stable : Stable fun _ => Grounds :=
  fun _ _ _ _ grounds rebooked => grounds.of_rebooked rebooked

variable {engine : Engine} {operation : Operation}

theorem step (anchored : Anchored engine.state) (sound : Sound engine.state) (grounded : engine.Grounded operation) :
    Anchored (engine.step operation).1.state := by
  refine LiveSelections.step stable anchored sound ?_ ?_
  · intro placement member live fresh _ call calls selected picked candidate requirement resource pick
    obtain ⟨before, there, rebooked⟩ := calls.rebooks.earlier pick.found
    have key : before.id = selected.resource := ResourceTable.id_of_find? there
    have held := grounded.held placement member live fresh selected picked before (Table.mem_of_find? there) key
    rw [← rebooked] at held
    rw [pick.made]
    exact ⟨rfl, fun _ => rfl, held⟩
  · intro advertisement mid live same publishes placement member running selected picked key grounds
    cases same
    -- The publication brings the worker and the boot of the advertisement.
    obtain ⟨⟨record, checked, rfl⟩, found, accepted⟩ := publishes
    have chain := adoptPublisher_changes checked
    obtain ⟨before, there, lapses⟩ := chain.resources.earlier found
    have kept := publishChecks_found checked
    have there : engine.state.resources.find? advertisement.id = some before := there
    rw [there] at kept
    cases kept
    have owner : live.worker = advertisement.worker := lapses.worker.trans (publishChecks_worker checked)
    have worker : advertisement.worker = selected.worker := owner.symm.trans grounds.worker
    refine ⟨worker, fun owned => ?_, fun _ => .inr rfl⟩
    have named : live.worker.isNull = false := by
      rw [grounds.worker]
      exact owned
    rcases grounded.unmoved _ live ⟨⟨record, checked, rfl⟩, found, accepted⟩ named with kept | unselected
    · exact kept.symm.trans (grounds.boot owned)
    · exact absurd key (unselected placement member running selected picked)

theorem runs {config : EngineConfig} {operations : List Operation}
    (reasons : 1 ≤ config.limits.maxRejectionReasonsPerEntry)
    (guarded : Guarded Engine.step Engine.Grounded (Engine.fresh config) operations) :
    Sound ((Engine.fresh config).runs operations).state ∧ Anchored ((Engine.fresh config).runs operations).state := by
  have initial : Anchored (Engine.fresh config).state := fun _ member => absurd member List.not_mem_nil
  exact Sound.runs_beside reasons (fun _ _ grounded => grounded.unused)
    (fun _ _ _ sound sofar grounded => Anchored.step sofar sound grounded) guarded initial

end Anchored

theorem Engine.Loses.named {engine : Engine} {operation : Operation} {incarnation : Incarnation}
    {after : SchedulerState} (loses : engine.Loses operation incarnation after) : incarnation.1.isNull = false := by
  cases loses with
  | marked reported => exact (markWorkerLost_silent reported).1
  | disconnected reported => exact (markWorkerLost_silent reported).1
  | connected accepted => exact workerChecks_ok accepted
  | registered accepted owned => exact owned
  | published accepted owned => exact publishChecks_worker accepted ▸ owned

/-- Whatever run leads to the loss of an incarnation, the loss ends all that is bound to it and touches nothing
    else exactly when selecting a resource that the incarnation is found to hold is the same as being bound to
    it. That is so in every run whose commits select no resource of a worker that does not vouch for it. -/
theorem incarnation_loss_complete {config : EngineConfig} {operations : List Operation} :
    let engine := (Engine.fresh config).runs operations
    (∀ operation incarnation after, engine.Loses operation incarnation after →
      (LosesOnly engine.state after incarnation ↔ HoldsTied engine.state incarnation)) ∧
    (1 ≤ config.limits.maxRejectionReasonsPerEntry →
      Guarded Engine.step Engine.Grounded (Engine.fresh config) operations →
        ∀ operation incarnation after, engine.Loses operation incarnation after →
          LosesOnly engine.state after incarnation) := by
  intro engine
  refine ⟨fun operation incarnation after loses => loses.swept.losesOnly_iff,
    fun reasons guarded operation incarnation after loses => ?_⟩
  obtain ⟨sound, anchored⟩ := Anchored.runs reasons guarded
  have tied := anchored.holdsTied sound.paired loses.named
  exact loses.swept.losesOnly_iff.mpr tied

/-- A request for a resource of one worker, and one of another whose evidence is waived. -/
def Bench.split : ScheduleRequest :=
  { Bench.request 5 1 with
    requirements :=
      [{ name := ascii "first", allowlist := [⟨8⟩] },
        { name := ascii "second", allowlist := [⟨7⟩], requireCurrentEvidence := false }] }

def Bench.companion : ResourceAdvertisement := { Bench.advertisement with id := ⟨8⟩, worker := ⟨22⟩, boot := ⟨1⟩ }

/-- Both workers vouch for their resources. -/
def Bench.vouched : List Operation :=
  [.registerResource (Bench.owned 1), .registerResource Bench.companion, .submitRequest Bench.split]

theorem incarnation_loss_complete_bench :
    let engine := (Engine.fresh {}).runs Bench.vouched
    LosesOnly engine.state (markWorkerLost engine.state engine.config ⟨21⟩ ⟨1⟩ []).1 (⟨21⟩, ⟨1⟩) := by
  have grounded : Guarded Engine.step Engine.Grounded (Engine.fresh {}) Bench.vouched :=
    ⟨⟨nofun, by decide, trivial⟩, ⟨nofun, by decide, trivial⟩, ⟨by decide, by decide, trivial⟩, trivial⟩
  have lost : ((Engine.fresh {}).runs Bench.vouched).Loses (.markWorkerLost ⟨21⟩ ⟨1⟩ []) (⟨21⟩, ⟨1⟩) _ :=
    .marked (by decide)
  exact (@incarnation_loss_complete {} Bench.vouched).2 (by decide) grounded _ _ _ lost

/-- The bench of worker 21 is restored by a recovery: it is `Registered`, and nobody vouches for it. -/
def Bench.waived : List Operation :=
  [.importState { epoch := ⟨1⟩, resources := [registeredRecord ⟨1⟩ (Bench.owned 1)] },
    .registerResource Bench.companion, .submitRequest Bench.split]

/-- Worker 21 is lost, and the placement that has one of its resources stays live. -/
theorem loss_misses_placement :
    let engine := (Engine.fresh {}).runs Bench.waived
    let lost := markWorkerLost engine.state engine.config ⟨21⟩ ⟨1⟩ []
    engine.Loses (.markWorkerLost ⟨21⟩ ⟨1⟩ []) (⟨21⟩, ⟨1⟩) lost.1 ∧ ¬ LosesOnly engine.state lost.1 (⟨21⟩, ⟨1⟩) := by
  intro engine lost
  have kept : ∃ placement ∈ lost.1.placements.entries, placementStateIsLive placement.state ∧
      placement.TiedTo (⟨21⟩, ⟨1⟩) := by decide
  refine ⟨.marked (by decide), fun loses => ?_⟩
  obtain ⟨placement, member, live, tied⟩ := kept
  exact loses.untied placement member live tied

end LabScheduler
