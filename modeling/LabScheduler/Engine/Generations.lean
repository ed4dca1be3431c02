import LabScheduler.Engine.Fencing
import LabScheduler.Engine.Loss

namespace LabScheduler

open Foundation

/-- No bump on the way from one identity to the other, and there are two at most, starts at the last value. -/
def StrongId.Unwrapped {kind : IdKind} (before after : StrongId kind) : Prop :=
  after ≠ before → before.value ≠ 0xffffffffffffffff ∧
    (after ≠ before.bump → before.bump.value ≠ 0xffffffffffffffff)

instance {kind : IdKind} (before after : StrongId kind) : Decidable (before.Unwrapped after) :=
  inferInstanceAs (Decidable (_ → _))

def Engine.Unwraps (engine : Engine) (operation : Operation) : Prop :=
  ∀ resource ∈ engine.state.resources.entries,
    ∀ later ∈ (engine.step operation).1.state.resources.find? resource.id,
      resource.generation.Unwrapped later.generation

instance (engine : Engine) (operation : Operation) : Decidable (engine.Unwraps operation) :=
  inferInstanceAs (Decidable (∀ _ ∈ _, ∀ _ ∈ _, _))

/-- The record has a new stamp, or differs in its reserved slots only. -/
def ResourceRecord.Bumped (before after : ResourceRecord) : Prop :=
  before.Rebooked after ∨ after.generation = before.generation.bump

/-- What one operation does to a record: a publication of another boot stamps it twice. -/
def ResourceRecord.Restamped (before after : ResourceRecord) : Prop :=
  before.Bumped after ∨ after.generation = before.generation.bump.bump

/-- A later record of a resource: with the same stamp only the reserved slots differ. -/
structure ResourceRecord.Follows (before after : ResourceRecord) : Prop where
  ordered : before.generation ≤ after.generation
  content : after.generation = before.generation → before.Rebooked after

namespace ResourceRecord

theorem Rebooked.generation {before after : ResourceRecord} (rebooked : before.Rebooked after) :
    after.generation = before.generation := by
  unfold Rebooked at rebooked
  rw [← rebooked]

theorem Bumped.refl (resource : ResourceRecord) : resource.Bumped resource := .inl (.refl resource)

theorem Bumped.rebooked {a b c : ResourceRecord} (bumped : a.Bumped b) (rebooked : b.Rebooked c) : a.Bumped c := by
  rcases bumped with same | stamp
  · exact .inl (same.trans rebooked)
  · exact .inr (rebooked.generation.trans stamp)

theorem Bumped.stamp {a b c : ResourceRecord} (bumped : a.Bumped b) (stamp : c.generation = b.generation.bump) :
    a.Restamped c := by
  rcases bumped with same | earlier
  · rw [same.generation] at stamp
    exact .inl (.inr stamp)
  · rw [earlier] at stamp
    exact .inr stamp

theorem Follows.refl (resource : ResourceRecord) : resource.Follows resource := ⟨le_refl _, fun _ => .refl resource⟩

theorem Follows.trans {a b c : ResourceRecord} (first : a.Follows b) (second : b.Follows c) : a.Follows c := by
  constructor
  · exact first.ordered.trans second.ordered
  · intro same
    have early : b.generation = a.generation := by
      apply le_antisymm
      · rw [← same]
        exact second.ordered
      · exact first.ordered
    exact (first.content early).trans (second.content (same.trans early.symm))

theorem Restamped.follows {before after : ResourceRecord} (restamped : before.Restamped after)
    (unwrapped : before.generation.Unwrapped after.generation) : before.Follows after := by
  have later (risen : before.generation < after.generation) : before.Follows after :=
    ⟨le_of_lt risen, fun same => absurd same.symm (ne_of_lt risen)⟩
  rcases restamped with (rebooked | once) | twice
  · exact ⟨le_of_eq rebooked.generation.symm, fun _ => rebooked⟩
  · apply later
    have moved : after.generation ≠ before.generation := once ▸ before.generation.bump_ne
    rw [once]
    exact (before.generation.bump_advances.mpr (unwrapped moved).1).2
  · apply later
    have moved : after.generation ≠ before.generation := twice ▸ before.generation.bump_bump_ne
    have again : after.generation ≠ before.generation.bump := twice ▸ before.generation.bump.bump_ne
    obtain ⟨first, second⟩ := unwrapped moved
    rw [twice]
    exact (before.generation.bump_advances.mpr first).2.trans (before.generation.bump.bump_advances.mpr (second again)).2

end ResourceRecord

section Steps

variable {state : SchedulerState} {config : EngineConfig}

abbrev Bumps (state after : SchedulerState) : Prop :=
  Table.Extends ResourceRecord.Bumped state.resources after.resources

abbrev Restamps (state after : SchedulerState) : Prop :=
  Table.Extends ResourceRecord.Restamped state.resources after.resources

theorem Bumps.of_eq {after : SchedulerState} (same : after.resources = state.resources) : Bumps state after := by
  unfold Bumps
  rw [same]
  exact .refl ResourceRecord.Bumped.refl _

theorem Bumps.restamps {after : SchedulerState} (bumps : Bumps state after) : Restamps state after :=
  bumps.mono .inl

theorem Swept.bumps {worker : WorkerId} {boot : WorkerBootId} {lost : PlacementRecord → Bool}
    {done : List PlacementId} {after : SchedulerState}
    (swept : Swept (invalidateResources state worker boot) lost done after) : Bumps state after := by
  constructor
  intro id resource found
  have invalidated : (invalidateResources state worker boot).resources.find? id =
      some (resource.loseIncarnation worker boot) := by
    unfold invalidateResources
    rw [Table.find?_mapEntries, found]
    rfl
  obtain ⟨later, there, rebooked⟩ := swept.resources.later invalidated
  have stamped : resource.Bumped (resource.loseIncarnation worker boot) := by
    unfold ResourceRecord.loseIncarnation
    split
    · exact .inr rfl
    · exact .refl resource
  exact ⟨later, there, stamped.rebooked rebooked⟩

theorem adoptWorkerIncarnation_bumps (config : EngineConfig) (worker : WorkerId) (boot : WorkerBootId)
    (detail : Text) : Bumps state (adoptWorkerIncarnation state config worker boot detail).1 := by
  cases known : state.workers.find? worker with
  | none =>
    simp only [adoptWorkerIncarnation, known]
    exact .of_eq rfl
  | some record =>
    by_cases same : record.boot = boot
    · simp only [adoptWorkerIncarnation, known, if_pos same]
      exact .of_eq rfl
    · exact (adoptWorkerIncarnation_swept config detail known same).bumps

theorem workerConnected_bumps (worker : WorkerId) (boot : WorkerBootId) :
    Bumps state (workerConnected state config worker boot).1 := by
  unfold workerConnected
  split
  · exact .of_eq rfl
  · exact adoptWorkerIncarnation_bumps ..

theorem markWorkerLost_bumps (worker : WorkerId) (boot : WorkerBootId) (detail : Text) :
    Bumps state (markWorkerLost state config worker boot detail).1 := by
  unfold markWorkerLost
  split
  · exact .of_eq rfl
  · exact (invalidateWorkerIncarnation_swept ..).bumps

theorem registerResource_bumps (advertisement : ResourceAdvertisement) :
    Bumps state (registerResource state config advertisement).1 := by
  have adopted : Bumps state (adoptOwner state config (normalizeAdvertisement advertisement)) := by
    unfold adoptOwner
    split
    · exact .of_eq rfl
    · exact adoptWorkerIncarnation_bumps ..
  unfold registerResource
  split
  · exact .of_eq rfl
  · extract_lets normalized mid record registered
    split
    · exact adopted
    · constructor
      intro id resource found
      obtain ⟨later, there, bumped⟩ := adopted.later found
      refine ⟨later, ?_, bumped⟩
      change (mid.resources.emplace record).find? id = some later
      rw [Table.find?_emplace, there]
      split <;> rfl

theorem adoptPublisher_bumps (advertisement : ResourceAdvertisement) (record : ResourceRecord) :
    Bumps state (adoptPublisher state config advertisement record) := by
  unfold adoptPublisher
  split
  · exact adoptWorkerIncarnation_bumps ..
  · exact .of_eq rfl

theorem Bumps.set {mid : SchedulerState} {live written : ResourceRecord} (bumps : Bumps state mid)
    (found : mid.resources.find? written.id = some live) (stamp : written.generation = live.generation.bump) :
    Table.Extends ResourceRecord.Restamped state.resources (mid.resources.set written) := by
  constructor
  intro id resource there
  obtain ⟨later, here, bumped⟩ := bumps.later there
  rw [Table.find?_set]
  by_cases same : written.id = id
  · subst same
    rw [found] at here
    cases here
    rw [if_pos rfl]
    exact ⟨written, rfl, bumped.stamp stamp⟩
  · rw [if_neg same]
    exact ⟨later, here, .inl bumped⟩

theorem publishResourceState_restamps (advertisement : ResourceAdvertisement) :
    Restamps state (publishResourceState state config advertisement).1 := by
  unfold publishResourceState
  split
  · exact Bumps.restamps (.of_eq rfl)
  · rename_i record accepted
    extract_lets normalized mid
    have adopted : Bumps state mid := adoptPublisher_bumps ..
    split
    · exact adopted.restamps
    · rename_i live found
      split
      · exact adopted.restamps
      · extract_lets published written
        have named : published.id = normalized.id := rfl
        have set : Restamps state written := adopted.set (named ▸ found) rfl
        split <;> exact set

theorem retireResource_restamps (resource : ResourceId) (generation : ResourceGeneration) :
    Restamps state (retireResource state config resource generation).1 := by
  unfold retireResource
  split
  · exact Bumps.restamps (.of_eq rfl)
  · rename_i record accepted
    obtain ⟨found, -⟩ := retireChecks_ok accepted
    exact Bumps.set (.of_eq rfl) found rfl

theorem importState_bumps (ids : IdGenerator) (durable : DurableState) :
    Bumps state (importState state config ids durable).1 := by
  unfold importState
  split
  · exact .of_eq rfl
  · rename_i accepted
    obtain ⟨-, empty, -⟩ := importChecks_ok accepted
    constructor
    intro id resource found
    have member := Table.mem_of_find? found
    rw [empty] at member
    cases member

theorem leaves_restamps {engine : Engine} {operation : Operation} (leaves : Engine.leavesRecords operation) :
    Restamps engine.state (engine.step operation).1.state := by
  have rebooks : Rebooks engine.state (engine.step operation).1.state := Engine.step_frame rebooks_frame leaves
  exact rebooks.toExtends.mono fun rebooked => .inl (.inl rebooked)

theorem Engine.step_restamps (engine : Engine) (operation : Operation) :
    Restamps engine.state (engine.step operation).1.state := by
  cases operation with
  | adoptEpoch epoch =>
    have same : (adoptEpoch engine.state engine.config epoch).1.resources = engine.state.resources := by
      unfold adoptEpoch
      split <;> rfl
    exact Bumps.restamps (.of_eq same)
  | beginShutdown =>
    have same : (beginShutdown engine.state engine.config).1.resources = engine.state.resources := by
      unfold beginShutdown
      split <;> rfl
    exact Bumps.restamps (.of_eq same)
  | workerConnected => exact (workerConnected_bumps ..).restamps
  | workerDisconnected => exact (markWorkerLost_bumps ..).restamps
  | markWorkerLost => exact (markWorkerLost_bumps ..).restamps
  | registerResource => exact (registerResource_bumps ..).restamps
  | publishResourceState => exact publishResourceState_restamps ..
  | retireResource => exact retireResource_restamps ..
  | importState durable => exact (importState_bumps engine.ids durable).restamps
  | _ => exact leaves_restamps rfl

theorem Engine.step_follows (engine : Engine) (operation : Operation) (unwraps : engine.Unwraps operation) :
    Table.Extends ResourceRecord.Follows engine.state.resources (engine.step operation).1.state.resources := by
  constructor
  intro id resource found
  obtain ⟨later, there, restamped⟩ := (engine.step_restamps operation).later found
  have named : resource.id = id := ResourceTable.id_of_find? found
  exact ⟨later, there, restamped.follows (unwraps resource (Table.mem_of_find? found) later (named ▸ there))⟩

theorem Engine.runs_follows (engine : Engine) (operations : List Operation)
    (unwraps : Guarded Engine.step Engine.Unwraps engine operations) :
    Table.Extends ResourceRecord.Follows engine.state.resources (engine.runs operations).state.resources := by
  induction operations generalizing engine with
  | nil => exact .refl ResourceRecord.Follows.refl _
  | cons operation rest ih =>
    obtain ⟨here, later⟩ := unwraps
    exact (engine.step_follows operation here).trans ResourceRecord.Follows.trans (ih _ later)

end Steps

/-- Along any run in which no generation wraps, the generation of a resource never decreases, and two records of it
    with the same generation differ in their reserved slots only. -/
theorem generation_identifies (engine : Engine) (first second : List Operation)
    (unwraps : Guarded Engine.step Engine.Unwraps engine (first ++ second)) (resource : ResourceRecord)
    (found : (engine.runs first).state.resources.find? resource.id = some resource) :
    ∃ later, (engine.runs (first ++ second)).state.resources.find? resource.id = some later ∧
      resource.generation ≤ later.generation ∧
      (later.generation = resource.generation → { later with reservedSlots := resource.reservedSlots } = resource) := by
  obtain ⟨-, unwraps⟩ := guarded_append.mp unwraps
  obtain ⟨later, there, ordered, content⟩ := ((engine.runs first).runs_follows second unwraps).later found
  have whole : engine.runs (first ++ second) = (engine.runs first).runs second := run_append engine first second
  rw [whole]
  exact ⟨later, there, ordered, content⟩

theorem generation_identifies_bench :
    ∃ later, ((Engine.fresh {}).runs (Bench.start ++ [.publishResourceState Bench.advertisement])).state.resources.find?
        ⟨7⟩ = some later ∧ (⟨1⟩ : ResourceGeneration) ≤ later.generation := by
  have unwraps : Guarded Engine.step Engine.Unwraps (Engine.fresh {})
      ([.registerResource Bench.advertisement] ++
        [.submitRequest (Bench.request 5 1), .publishResourceState Bench.advertisement]) := by
    refine ⟨?_, ?_, ?_, trivial⟩
    · decide +kernel
    · decide +kernel
    · decide +kernel
  obtain ⟨later, found, ordered, -⟩ := generation_identifies (Engine.fresh {}) _ _ unwraps
    (registeredRecord ⟨1⟩ Bench.advertisement) (by decide +kernel)
  exact ⟨later, found, ordered⟩

end LabScheduler
