import LabScheduler.Codec.Rearranged
import LabScheduler.Engine.Rejections
import LabScheduler.Foundation.Sorted

namespace LabScheduler

open Foundation
open RecordCodec (LocalityRearranged SimulatorRearranged)

/-- Another order in the lists that `normalize_advertisement` sorts, and no other difference. -/
structure Relisted (first second : Description) : Prop where
  locality : LocalityRearranged first.locality second.locality
  accelerators : first.accelerators.Perm second.accelerators
  labels : first.labels.Perm second.labels
  simulator : Option.Rel SimulatorRearranged first.simulator second.simulator
  others : { first with
    locality := second.locality, accelerators := second.accelerators, labels := second.labels,
    simulator := second.simulator } = second

structure AscendingLists (description : Description) : Prop where
  localDatasetVersions : description.locality.localDatasetVersions.Pairwise (· < ·)
  residentModels : description.locality.residentModels.Pairwise (· < ·)
  colocatedSimulators : description.locality.colocatedSimulators.Pairwise (· < ·)
  labels : description.labels.Pairwise (· < ·)
  scenarios : ∀ simulator ∈ description.simulator, simulator.scenarios.Pairwise (· < ·)

/-- Nothing is listed twice, and no two attachments share an identity. -/
structure Unrepeated (description : Description) : Prop where
  localDatasetVersions : description.locality.localDatasetVersions.Nodup
  residentModels : description.locality.residentModels.Nodup
  colocatedSimulators : description.locality.colocatedSimulators.Nodup
  labels : description.labels.Nodup
  scenarios : ∀ simulator ∈ description.simulator, simulator.scenarios.Nodup
  accelerators : ∀ first ∈ description.accelerators, ∀ second ∈ description.accelerators,
    first.id = second.id → first = second

section Normalized

variable {first second : Description}

theorem sortIds_perm {kind : IdKind} {ids listed : List (StrongId kind)} (perm : ids.Perm listed) :
    sortIds listed = sortIds ids := insertionSort_eq_of_perm perm.symm

theorem sortTexts_perm {texts listed : List Text} (perm : texts.Perm listed) : sortTexts listed = sortTexts texts :=
  insertionSort_eq_of_perm perm.symm

theorem normalizeAdvertisement_ascending (description : Description) :
    AscendingLists (normalizeAdvertisement description) ↔
      (description.locality.localDatasetVersions.Nodup ∧ description.locality.residentModels.Nodup ∧
        description.locality.colocatedSimulators.Nodup ∧ description.labels.Nodup ∧
        ∀ simulator ∈ description.simulator, simulator.scenarios.Nodup) := by
  have scenarios : (∀ simulator ∈ (normalizeAdvertisement description).simulator,
      simulator.scenarios.Pairwise (· < ·)) ↔
        ∀ simulator ∈ description.simulator, simulator.scenarios.Nodup := by
    cases present : description.simulator with
    | none => simp [normalizeAdvertisement, present]
    | some simulator => simp [normalizeAdvertisement, present, sortTexts, ascending_insertionSort]
  rw [← scenarios]
  constructor
  · intro lists
    exact ⟨ascending_insertionSort.mp lists.localDatasetVersions, ascending_insertionSort.mp lists.residentModels,
      ascending_insertionSort.mp lists.colocatedSimulators, ascending_insertionSort.mp lists.labels, lists.scenarios⟩
  · intro distinct
    obtain ⟨datasets, models, simulators, labels, scenarios⟩ := distinct
    exact ⟨ascending_insertionSort.mpr datasets, ascending_insertionSort.mpr models,
      ascending_insertionSort.mpr simulators, ascending_insertionSort.mpr labels, scenarios⟩

/-- The normalization undoes every other order but that of attachments that share an identity. -/
theorem normalizeAdvertisement_relisted (relisted : Relisted first second)
    (accelerators : second.accelerators.insertionSort (fun a b => a.id ≤ b.id) =
      first.accelerators.insertionSort fun a b => a.id ≤ b.id) :
    normalizeAdvertisement second = normalizeAdvertisement first := by
  have simulator : (normalizeAdvertisement second).simulator = (normalizeAdvertisement first).simulator := by
    have related := relisted.simulator
    change second.simulator.map _ = first.simulator.map _
    generalize first.simulator = before at related ⊢
    generalize second.simulator = after at related ⊢
    cases related with
    | none => rfl
    | @some before after both =>
      have scenarios := sortTexts_perm both.scenarios
      rw [Option.map_some, Option.map_some]
      calc some { after with scenarios := sortTexts after.scenarios }
          = some { after with scenarios := sortTexts before.scenarios } := by rw [scenarios]
        _ = some { before with scenarios := sortTexts before.scenarios } := by rw [← both.others]
  have locality : (normalizeAdvertisement second).locality = (normalizeAdvertisement first).locality := by
    obtain ⟨datasets, models, simulators⟩ := relisted.locality
    simp only [normalizeAdvertisement, sortIds_perm datasets, sortIds_perm models, sortIds_perm simulators]
  have labels : (normalizeAdvertisement second).labels = (normalizeAdvertisement first).labels :=
    sortTexts_perm relisted.labels
  have others := relisted.others
  calc normalizeAdvertisement second
      = { second with
          locality := (normalizeAdvertisement second).locality
          accelerators := second.accelerators.insertionSort fun a b => a.id ≤ b.id
          labels := (normalizeAdvertisement second).labels
          simulator := (normalizeAdvertisement second).simulator } := rfl
    _ = { second with
          locality := (normalizeAdvertisement first).locality
          accelerators := first.accelerators.insertionSort fun a b => a.id ≤ b.id
          labels := (normalizeAdvertisement first).labels
          simulator := (normalizeAdvertisement first).simulator } := by
      rw [locality, accelerators, labels, simulator]
    _ = normalizeAdvertisement first := by
      rw [← others]
      rfl

theorem normalizeAdvertisement_canonical (description : Description) :
    (AscendingLists (normalizeAdvertisement description) ∧
        ∀ other, Relisted description other →
          normalizeAdvertisement other = normalizeAdvertisement description) ↔ Unrepeated description := by
  rw [normalizeAdvertisement_ascending]
  have attachments := @insertionSort_determined _ _ _ AcceleratorAttachment.id description.accelerators _
  constructor
  · intro canonical
    obtain ⟨⟨datasets, models, simulators, labels, scenarios⟩, same⟩ := canonical
    refine ⟨datasets, models, simulators, labels, scenarios, attachments.mp fun listed perm => ?_⟩
    have simulator : Option.Rel SimulatorRearranged description.simulator description.simulator := by
      cases description.simulator with
      | none => exact .none
      | some simulator => exact .some ⟨.rfl, rfl⟩
    exact congrArg Description.accelerators
      (same { description with accelerators := listed } ⟨⟨.rfl, .rfl, .rfl⟩, perm.symm, .rfl, simulator, rfl⟩)
  · intro unrepeated
    obtain ⟨datasets, models, simulators, labels, scenarios, apart⟩ := unrepeated
    refine ⟨⟨datasets, models, simulators, labels, scenarios⟩, fun other relisted => ?_⟩
    exact normalizeAdvertisement_relisted relisted
      (attachments.mpr apart other.accelerators relisted.accelerators.symm)

end Normalized

section Stored

variable {state : SchedulerState} {config : EngineConfig} {advertisement other : ResourceAdvertisement}
  {record : ResourceRecord}

theorem registerResource_stored (accepted : (registerResource state config advertisement).2 = .ok record) :
    (registerResource state config advertisement).1.resources.find? advertisement.id = some record ∧
      record.toDescription = normalizeAdvertisement advertisement := by
  unfold registerResource at accepted ⊢
  cases checked : registerChecks state config advertisement with
  | error status => simp only [checked, reduceCtorEq] at accepted
  | ok =>
    simp only [checked] at accepted ⊢
    have adoption : ∃ mid, mid = adoptOwner state config (normalizeAdvertisement advertisement) := ⟨_, rfl⟩
    obtain ⟨mid, adopted⟩ := adoption
    rw [← adopted] at accepted ⊢
    cases valid : validateResourceRecord (registeredRecord mid.epoch (normalizeAdvertisement advertisement))
        config.limits with
    | error status => simp only [valid, reduceCtorEq] at accepted
    | ok =>
      simp only [valid] at accepted ⊢
      cases accepted
      have registers : Registers state config advertisement mid _ := ⟨checked, adopted, rfl, valid⟩
      refine ⟨?_, rfl⟩
      change (mid.resources.emplace _).find? advertisement.id = _
      rw [Table.find?_emplace, (show mid.resources.find? advertisement.id = none from registers.absent)]
      exact if_pos rfl

theorem publishResourceState_stored (accepted : (publishResourceState state config advertisement).2 = .ok record) :
    (publishResourceState state config advertisement).1.resources.find? advertisement.id = some record ∧
      record.toDescription = normalizeAdvertisement advertisement := by
  unfold publishResourceState at accepted ⊢
  cases checked : publishChecks state config advertisement with
  | error status => simp only [checked, reduceCtorEq] at accepted
  | ok before =>
    simp only [checked] at accepted ⊢
    generalize adoptPublisher state config (normalizeAdvertisement advertisement) before = mid at accepted ⊢
    cases found : mid.resources.find? (normalizeAdvertisement advertisement).id with
    | none => simp only [found, fail, reduceCtorEq] at accepted
    | some live =>
      simp only [found] at accepted ⊢
      cases lives : publishLiveChecks (normalizeAdvertisement advertisement) live with
      | error status => simp only [lives, reduceCtorEq] at accepted
      | ok =>
        simp only [lives] at accepted ⊢
        cases valid : validateResourceRecord (publishedRecord mid.epoch (normalizeAdvertisement advertisement) live)
            config.limits with
        | error status => simp only [valid, reduceCtorEq] at accepted
        | ok =>
          simp only [valid] at accepted ⊢
          cases accepted
          exact ⟨Table.find?_set_self mid.resources _, rfl⟩

theorem validateAdvertisement_same (same : normalizeAdvertisement other = normalizeAdvertisement advertisement)
    {limits : Limits} :
    validateAdvertisement other limits = .ok () ↔ validateAdvertisement advertisement limits = .ok () := by
  rw [← validateAdvertisement_normalize, same, validateAdvertisement_normalize]

theorem registerResource_same (same : normalizeAdvertisement other = normalizeAdvertisement advertisement)
    (accepted : (registerResource state config advertisement).2 = .ok record) :
    (registerResource state config other).2 = .ok record := by
  have id := congrArg Description.id same
  change other.id = advertisement.id at id
  have checks : registerChecks state config other = .ok () ↔ registerChecks state config advertisement = .ok () := by
    simp only [registerChecks, check_bind_ok, check_ok, validateAdvertisement_same same, id]
  unfold registerResource at accepted ⊢
  cases checked : registerChecks state config advertisement with
  | error status => simp only [checked, reduceCtorEq] at accepted
  | ok =>
    rw [checks.mpr checked, same]
    rw [checked] at accepted
    exact accepted

theorem publishResourceState_same (same : normalizeAdvertisement other = normalizeAdvertisement advertisement)
    (accepted : (publishResourceState state config advertisement).2 = .ok record) :
    (publishResourceState state config other).2 = .ok record := by
  have id := congrArg Description.id same
  change other.id = advertisement.id at id
  have worker := congrArg Description.worker same
  change other.worker = advertisement.worker at worker
  have checks (before : ResourceRecord) :
      publishChecks state config other = .ok before ↔ publishChecks state config advertisement = .ok before := by
    simp only [publishChecks, check_bind_ok, validateAdvertisement_same same, id, worker]
  unfold publishResourceState at accepted ⊢
  cases checked : publishChecks state config advertisement with
  | error status => simp only [checked, reduceCtorEq] at accepted
  | ok before =>
    rw [(checks before).mpr checked, same]
    rw [checked] at accepted
    exact accepted

end Stored

/-- `register_resource` or `publish_resource_state`. -/
inductive StoringCall
  | registration
  | publication

def StoringCall.apply : StoringCall → SchedulerState → EngineConfig → ResourceAdvertisement →
    SchedulerState × Except Status ResourceRecord
  | registration => registerResource
  | publication => publishResourceState

theorem StoringCall.stored (call : StoringCall) {state : SchedulerState} {config : EngineConfig}
    {advertisement : ResourceAdvertisement} {record : ResourceRecord}
    (accepted : (call.apply state config advertisement).2 = .ok record) :
    (call.apply state config advertisement).1.resources.find? advertisement.id = some record ∧
      record.toDescription = normalizeAdvertisement advertisement := by
  cases call with
  | registration => exact registerResource_stored accepted
  | publication => exact publishResourceState_stored accepted

theorem StoringCall.same (call : StoringCall) {state : SchedulerState} {config : EngineConfig}
    {advertisement other : ResourceAdvertisement} {record : ResourceRecord}
    (same : normalizeAdvertisement other = normalizeAdvertisement advertisement)
    (accepted : (call.apply state config advertisement).2 = .ok record) :
    (call.apply state config other).2 = .ok record := by
  cases call with
  | registration => exact registerResource_same same accepted
  | publication => exact publishResourceState_same same accepted

theorem stored_description_canonical (call : StoringCall) {state : SchedulerState} {config : EngineConfig}
    {advertisement : ResourceAdvertisement} {record : ResourceRecord}
    (accepted : (call.apply state config advertisement).2 = .ok record) :
    (call.apply state config advertisement).1.resources.find? advertisement.id = some record ∧
      ((AscendingLists record.toDescription ∧
          ∀ other, Relisted advertisement other → ∃ again,
            (call.apply state config other).2 = .ok again ∧ again.toDescription = record.toDescription) ↔
        Unrepeated advertisement) := by
  obtain ⟨found, stored⟩ := call.stored accepted
  refine ⟨found, ?_⟩
  rw [stored, ← normalizeAdvertisement_canonical]
  refine and_congr_right fun _ => forall₂_congr fun other _ => ?_
  constructor
  · intro again
    obtain ⟨again, accepts, description⟩ := again
    rw [← description, (call.stored accepts).2]
  · intro same
    exact ⟨record, call.same same accepted, stored⟩

namespace Bench

/-- A simulator whose lists are given in the order of `first` and `second`. -/
def simulating (first second : UInt64) (names : List Text) : ResourceAdvertisement :=
  { advertisement with
    resourceClass := .simulator
    locality :=
      { localDatasetVersions := [⟨first⟩, ⟨second⟩]
        residentModels := [⟨first⟩, ⟨second⟩]
        colocatedSimulators := [⟨first⟩, ⟨second⟩] }
    accelerators := [{ id := ⟨first⟩ }, { id := ⟨second⟩ }]
    labels := names
    simulator := some { id := ⟨1⟩, version := ascii "v", scenarios := names } }

def descending : ResourceAdvertisement := simulating 6 5 [ascii "night", ascii "day"]

def ascending : ResourceAdvertisement := simulating 5 6 [ascii "day", ascii "night"]

theorem ascending_relisted : Relisted descending ascending :=
  ⟨⟨.swap .., .swap .., .swap ..⟩, .swap .., .swap .., .some ⟨.swap .., rfl⟩, rfl⟩

end Bench

theorem stored_description_canonical_bench :
    AscendingLists (registeredRecord ⟨1⟩ Bench.ascending).toDescription ∧
      ∃ again, (registerResource { epoch := ⟨1⟩ } {} Bench.ascending).2 = .ok again ∧
        again.toDescription = (registeredRecord ⟨1⟩ Bench.ascending).toDescription := by
  have accepted : (registerResource { epoch := ⟨1⟩ } {} Bench.descending).2 =
      .ok (registeredRecord ⟨1⟩ Bench.ascending) := by decide +kernel
  have unrepeated : Unrepeated Bench.descending := by
    refine ⟨by decide, by decide, by decide, by decide, ?_, by decide⟩
    exact fun simulator present => Option.mem_some_iff.mp present ▸ by decide
  obtain ⟨lists, same⟩ := (stored_description_canonical .registration accepted).2.mpr unrepeated
  exact ⟨lists, same _ Bench.ascending_relisted⟩

namespace Bench

def labelledTwice : ResourceAdvertisement := { advertisement with labels := [ascii "a", ascii "a"] }

/-- The advertisement with attachments of one identity and two models. -/
def attached (first second : Text) : ResourceAdvertisement :=
  { advertisement with accelerators := [{ id := ⟨3⟩, model := first }, { id := ⟨3⟩, model := second }] }

end Bench

/-- A label given twice is stored twice, and attachments of one identity are stored in the order given. -/
theorem repeated_entries_stored :
    (registerResource { epoch := ⟨1⟩ } {} Bench.labelledTwice).2 =
        .ok (registeredRecord ⟨1⟩ Bench.labelledTwice) ∧
      ¬ AscendingLists (registeredRecord ⟨1⟩ Bench.labelledTwice).toDescription ∧
      Relisted (Bench.attached (ascii "a") (ascii "b")) (Bench.attached (ascii "b") (ascii "a")) ∧
      (registerResource { epoch := ⟨1⟩ } {} (Bench.attached (ascii "a") (ascii "b"))).2 =
        .ok (registeredRecord ⟨1⟩ (Bench.attached (ascii "a") (ascii "b"))) ∧
      (registerResource { epoch := ⟨1⟩ } {} (Bench.attached (ascii "b") (ascii "a"))).2 =
        .ok (registeredRecord ⟨1⟩ (Bench.attached (ascii "b") (ascii "a"))) ∧
      Bench.attached (ascii "a") (ascii "b") ≠ Bench.attached (ascii "b") (ascii "a") := by
  refine ⟨by decide, fun lists => ?_, ⟨⟨.rfl, .rfl, .rfl⟩, .swap .., .rfl, .none, rfl⟩, by decide, by decide, by decide⟩
  exact absurd lists.labels (by decide)

end LabScheduler
