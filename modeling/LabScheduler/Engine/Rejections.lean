import LabScheduler.Engine.Refused

namespace LabScheduler

open Foundation

section Advertisements

variable {advertisement : ResourceAdvertisement} {limits : Limits}

theorem validateLocality_normalize :
    validateLocality (normalizeAdvertisement advertisement).locality limits = .ok () ↔
      validateLocality advertisement.locality limits = .ok () := by
  simp only [validateLocality, normalizeAdvertisement, sortIds, check_bind_ok, check_ok, check_forM_ok,
    List.length_insertionSort, List.mem_insertionSort]

theorem validateSimulator_normalize :
    validateSimulator (normalizeAdvertisement advertisement).simulator advertisement.capacity limits = .ok () ↔
      validateSimulator advertisement.simulator advertisement.capacity limits = .ok () := by
  cases found : advertisement.simulator with
  | none => simp only [normalizeAdvertisement, found, Option.map_none]
  | some simulator =>
    simp only [normalizeAdvertisement, found, Option.map_some, validateSimulator, sortTexts, check_bind_ok, check_ok,
      check_forM_ok, List.length_insertionSort, List.mem_insertionSort]

theorem validateClass_normalize :
    validateClass (normalizeAdvertisement advertisement) limits = .ok () ↔
      validateClass advertisement limits = .ok () := by
  have same : (normalizeAdvertisement advertisement).resourceClass = advertisement.resourceClass := rfl
  unfold validateClass
  rw [same]
  cases advertisement.resourceClass with
  | simulator => exact validateSimulator_normalize
  | gpu =>
    simp only [normalizeAdvertisement, check_ok, ne_eq, ← List.length_eq_zero_iff, List.length_insertionSort]
  | _ => rfl

theorem validateAdvertisement_normalize :
    validateAdvertisement (normalizeAdvertisement advertisement) limits = .ok () ↔
      validateAdvertisement advertisement limits = .ok () := by
  simp only [validateAdvertisement, check_bind_ok, check_ok, check_forM_ok, validateLocality_normalize,
    validateClass_normalize]
  simp only [normalizeAdvertisement, sortTexts, List.length_insertionSort, List.mem_insertionSort]

end Advertisements

def SchedulerState.Adopted (state : SchedulerState) (worker : WorkerId) (boot : WorkerBootId) (detail : Text) : Prop :=
  ∃ record, state.workers.find? worker = some record ∧ record.boot = boot ∧ record.connected = true ∧
    record.detail = detail

section Adoption

variable {state : SchedulerState} {worker : WorkerId} {boot : WorkerBootId}

theorem adoptWorkerIncarnation_unchanged (config : EngineConfig) (detail : Text) :
    (adoptWorkerIncarnation state config worker boot detail).1 = state ↔ state.Adopted worker boot detail := by
  constructor
  · intro same
    obtain ⟨record, found, entered⟩ := adoptWorkerIncarnation_boot state config worker boot detail
    rw [same] at found
    refine ⟨record, found, entered, ?_⟩
    simp only [adoptWorkerIncarnation, found, if_pos entered] at same
    have key : record.id = worker := Table.key_of_find? found
    have written := Table.find?_set_self state.workers { record with connected := true, detail := detail }
    have workers : state.workers.set { record with connected := true, detail := detail } = state.workers :=
      congrArg SchedulerState.workers same
    rw [workers] at written
    have there : state.workers.find? worker = some { record with connected := true, detail := detail } := by
      rw [← key]
      exact written
    have equal : record = { record with connected := true, detail := detail } :=
      Option.some.inj (found.symm.trans there)
    constructor
    · rw [equal]
    · rw [equal]
  · intro adopted
    obtain ⟨record, found, same, connected, noted⟩ := adopted
    have key : record.id = worker := Table.key_of_find? found
    have written : ({ record with connected := true, detail := detail } : WorkerRecord) = record := by
      rw [← connected, ← noted]
    have kept : state.workers.set record = state.workers := by
      apply Table.set_find?_self
      rw [key]
      exact found
    simp only [adoptWorkerIncarnation, found, if_pos same, written, kept]

end Adoption

/-- A publication from another boot that is adopted, and then refused for what the adoption has left of the record. -/
structure PublicationLeaves (state : SchedulerState) (config : EngineConfig) (advertisement : ResourceAdvertisement)
    (record live : ResourceRecord) : Prop where
  accepted : publishChecks state config advertisement = .ok record
  moved : record.worker.isNull = false ∧ record.boot ≠ advertisement.boot
  unadopted : ¬ state.Adopted advertisement.worker advertisement.boot (ascii "resource state publication")
  found : (adoptPublisher state config (normalizeAdvertisement advertisement) record).resources.find? advertisement.id =
    some live
  refused : (publishLiveChecks (normalizeAdvertisement advertisement) live).isOk = false

section Resources

variable {state : SchedulerState} {config : EngineConfig} {advertisement : ResourceAdvertisement}

theorem registeredRecord_valid (epoch : CoordinatorEpoch)
    (accepted : registerChecks state config advertisement = .ok ()) :
    validateResourceRecord (registeredRecord epoch (normalizeAdvertisement advertisement)) config.limits = .ok () := by
  simp only [registerChecks, check_bind_ok] at accepted
  have valid := validateAdvertisement_normalize.mpr accepted.1
  simp only [validateResourceRecord, check_bind_ok, check_ok]
  refine ⟨valid, ?_, ?_⟩
  · exact fun both => by cases both.1
  · have occupancy := (validateAdvertisement_capacity valid).2
    show (normalizeAdvertisement advertisement).advertisedOccupancy + 0 ≤ _
    rw [UInt32.add_zero]
    exact occupancy

theorem publishedRecord_valid {record live : ResourceRecord} (epoch : CoordinatorEpoch)
    (accepted : publishChecks state config advertisement = .ok record)
    (lives : publishLiveChecks (normalizeAdvertisement advertisement) live = .ok ()) :
    validateResourceRecord (publishedRecord epoch (normalizeAdvertisement advertisement) live) config.limits =
      .ok () := by
  simp only [publishChecks, check_bind_ok] at accepted
  have valid := validateAdvertisement_normalize.mpr accepted.1
  simp only [publishLiveChecks, check_bind_ok, check_ok] at lives
  simp only [validateResourceRecord, check_bind_ok, check_ok]
  refine ⟨valid, ?_, ?_⟩
  · exact fun both => by cases both.1
  · show (normalizeAdvertisement advertisement).advertisedOccupancy + live.reservedSlots ≤
      (normalizeAdvertisement advertisement).capacity.slots
    have fits := UInt64.le_iff_toNat_le.mp lives.2.2
    have occupancy := (normalizeAdvertisement advertisement).advertisedOccupancy.toNat_lt
    have reserved := live.reservedSlots.toNat_lt
    have slots := (normalizeAdvertisement advertisement).capacity.slots.toNat_lt
    rw [UInt64.toNat_add, UInt32.toNat_toUInt64, UInt32.toNat_toUInt64, UInt32.toNat_toUInt64] at fits
    rw [UInt32.le_iff_toNat_le, UInt32.toNat_add]
    omega

theorem publishResourceState_rejected :
    ((publishResourceState state config advertisement).2.isOk = false →
        (publishResourceState state config advertisement).1 = state) ↔
      ∀ record live, ¬ PublicationLeaves state config advertisement record live := by
  unfold publishResourceState
  cases checked : publishChecks state config advertisement with
  | error status =>
    apply iff_of_true
    · exact fun _ => rfl
    · exact fun record live leaves => by cases checked.symm.trans leaves.accepted
  | ok record =>
    have recorded := publishChecks_found checked
    have changes := (@adoptPublisher_changes state config advertisement record checked).resources.later recorded
    obtain ⟨live, found, -⟩ := changes
    have there : (adoptPublisher state config (normalizeAdvertisement advertisement) record).resources.find?
      (normalizeAdvertisement advertisement).id = some live := found
    simp only [there]
    cases lives : publishLiveChecks (normalizeAdvertisement advertisement) live with
    | ok =>
      have valid := publishedRecord_valid
        (adoptPublisher state config (normalizeAdvertisement advertisement) record).epoch checked lives
      simp only [valid]
      apply iff_of_true
      · exact fun failed => by cases failed
      · intro other another leaves
        cases checked.symm.trans leaves.accepted
        cases found.symm.trans leaves.found
        have refused := leaves.refused
        rw [lives] at refused
        cases refused
    | error status =>
      by_cases moved : record.worker.isNull = false ∧ record.boot ≠ advertisement.boot
      · have moves : adoptPublisher state config (normalizeAdvertisement advertisement) record =
            (adoptWorkerIncarnation state config advertisement.worker advertisement.boot
              (ascii "resource state publication")).1 := if_pos moved
        have unchanged : adoptPublisher state config (normalizeAdvertisement advertisement) record = state ↔
            state.Adopted advertisement.worker advertisement.boot (ascii "resource state publication") := by
          rw [moves]
          exact adoptWorkerIncarnation_unchanged config _
        have failed : (publishLiveChecks (normalizeAdvertisement advertisement) live).isOk = false := by
          rw [lives]
          rfl
        constructor
        · intro kept other another leaves
          exact leaves.unadopted (unchanged.mp (kept rfl))
        · intro spared _
          apply unchanged.mpr
          by_contra unadopted
          exact spared record live ⟨checked, moved, unadopted, found, failed⟩
      · apply iff_of_true
        · exact fun _ => if_neg moved
        · intro other another leaves
          cases checked.symm.trans leaves.accepted
          exact moved leaves.moved

end Resources

/-- A registration that is refused leaves the state as it is; a publication that is refused does so unless it comes
    from a boot that is adopted first. -/
theorem rejected_advertisements (state : SchedulerState) (config : EngineConfig)
    (advertisement : ResourceAdvertisement) :
    ((registerResource state config advertisement).2.isOk = false →
        (registerResource state config advertisement).1 = state) ∧
      (((publishResourceState state config advertisement).2.isOk = false →
          (publishResourceState state config advertisement).1 = state) ↔
        ∀ record live, ¬ PublicationLeaves state config advertisement record live) := by
  constructor
  · unfold registerResource
    cases checked : registerChecks state config advertisement with
    | error status => exact fun _ => rfl
    | ok =>
      have valid := registeredRecord_valid
        (adoptOwner state config (normalizeAdvertisement advertisement)).epoch checked
      simp only [valid]
      exact fun failed => by cases failed
  · exact publishResourceState_rejected

namespace Bench

/-- A slot of a resource of worker 21 is placed under its first boot. -/
def occupied : Engine := (Engine.fresh {}).runs [.registerResource (owned 1), .submitRequest (request 5 1)]

/-- The second boot publishes the resource as a dataset. -/
def reclassified : ResourceAdvertisement :=
  { owned 2 with resourceClass := .dataset, dataset := some { id := ⟨1⟩, version := ⟨1⟩ } }

end Bench

/-- A publication that is refused has ended the placement. -/
theorem refused_publication_revokes :
    (publishResourceState Bench.occupied.state {} Bench.reclassified).2.isOk = false ∧
      Bench.occupied.state.placements.entries.map (·.state) = [.reserved] ∧
      (publishResourceState Bench.occupied.state {} Bench.reclassified).1.placements.entries.map (·.state) =
        [.reassignmentRequired] ∧
      (publishResourceState Bench.occupied.state {} Bench.reclassified).1 ≠ Bench.occupied.state := by
  have before : Bench.occupied.state.placements.entries.map (·.state) = [.reserved] := by decide +kernel
  have after : (publishResourceState Bench.occupied.state {} Bench.reclassified).1.placements.entries.map (·.state) =
      [.reassignmentRequired] := by decide +kernel
  refine ⟨by decide +kernel, before, after, fun same => ?_⟩
  rw [same, before] at after
  cases after

def SchedulerState.unaudited (state : SchedulerState) : SchedulerState := { state with audit := [], auditSequence := 0 }

section Scheduling

variable {engine : Engine}

theorem SchedulingCall.stuck_of_failed {call : SchedulingCall} {config : EngineConfig} {ids : IdGenerator}
    (failed : (call.scheduled config ids).result.isOk = false) : ∃ resources, call.Stuck config resources := by
  rcases call.scheduled_stuck config ids with ⟨placed, -⟩ | ⟨resources, -, -, stuck⟩
  · rw [placed] at failed
    cases failed
  · exact ⟨resources, (stuck resources).mpr rfl⟩

theorem SchedulingCall.Stuck.failed {call : SchedulingCall} {config : EngineConfig} {resources : ResourceTable}
    (stuck : call.Stuck config resources) (ids : IdGenerator) : (call.scheduled config ids).result.isOk = false := by
  rcases call.scheduled_stuck config ids with ⟨-, free⟩ | ⟨_, failed, -⟩
  · exact absurd stuck (free resources)
  · exact failed

theorem SchedulingCall.scheduled_failed {call : SchedulingCall} {config : EngineConfig} {ids : IdGenerator}
    (failed : (call.scheduled config ids).result.isOk = false) :
    ((checkCommitBounds call.state config.limits).isOk = false ∧ (call.scheduled config ids).state = call.state) ∨
      (checkCommitBounds call.state config.limits = .ok () ∧
        ∃ resources, (call.scheduled config ids).state = { beginCommit call.state with resources := resources }) := by
  have ends := call.scheduled_ends config ids
  generalize call.scheduled config ids = scheduled at ends failed ⊢
  cases ends with
  | unplaced => cases failed
  | full found bounds => exact .inl ⟨by rw [bounds]; rfl, rfl⟩
  | @commits best explanation ranked found bounds =>
    right
    refine ⟨bounds, ?_⟩
    simp only [commitPlacement] at failed ⊢
    cases loop : commitLoop call.state.resources (best.selection.zip call.stored.request.requirements) with
    | mk resources taken =>
      rw [loop] at failed
      cases taken with
      | error status => exact ⟨resources, rfl⟩
      | ok both => cases failed

theorem unaudited_records {state after : SchedulerState} (same : after.unaudited = state.unaudited) :
    SameRecords state after := by
  have epoch : after.unaudited.epoch = state.unaudited.epoch := by rw [same]
  have resources : after.unaudited.resources = state.unaudited.resources := by rw [same]
  have requests : after.unaudited.requests = state.unaudited.requests := by rw [same]
  have placements : after.unaudited.placements = state.unaudited.placements := by rw [same]
  have reservations : after.unaudited.reservations = state.unaudited.reservations := by rw [same]
  exact ⟨epoch, resources, requests, placements, reservations⟩

theorem beginCommit_differs {state : SchedulerState} (resources : ResourceTable) :
    { beginCommit state with resources := resources }.unaudited ≠ state.unaudited := by
  intro same
  have counted : ({ beginCommit state with resources := resources }.unaudited).transitionSequence =
      state.unaudited.transitionSequence := by rw [same]
  have next : state.transitionSequence + 1 = state.transitionSequence := counted
  simp at next

section Replacement

variable {placement : PlacementId} {generation : PlacementGeneration} {epoch : CoordinatorEpoch} {reason : Text}

/-- A reassignment that fails after it has ended the placement, or after it has drawn the sequence numbers. -/
inductive Engine.ReassignmentLeaves (engine : Engine) (placement : PlacementId) (generation : PlacementGeneration)
    (epoch : CoordinatorEpoch) (reason : Text) : Prop
  | stopped {record : PlacementRecord} (stops : ReassignmentStops engine.state placement generation epoch record)
  | stuck {record : PlacementRecord} {call : SchedulingCall} {resources : ResourceTable}
      (found : engine.state.placements.find? placement = some record)
      (calls : engine.Calls (.reassignPlacement placement generation epoch reason) call)
      (stuck : call.Stuck engine.config resources)
      (touched : placementStateIsLive record.state ∨ checkCommitBounds call.state engine.config.limits = .ok ())

theorem Engine.ReassignmentLeaves.differs (leaves : engine.ReassignmentLeaves placement generation epoch reason) :
    (reassignPlacement engine.state engine.config engine.ids placement generation epoch reason).result.isOk = false ∧
      (reassignPlacement engine.state engine.config engine.ids placement generation epoch reason).state.unaudited ≠
        engine.state.unaudited := by
  cases leaves with
  | stopped stops =>
    have refused := (@reassignPlacement_refused engine placement generation epoch reason).mpr (.inl ⟨_, stops⟩)
    exact ⟨refused.1, fun same => refused.2 (unaudited_records same)⟩
  | @stuck record call resources found calls stuck touched =>
    by_cases live : placementStateIsLive record.state
    · have refused := (@reassignPlacement_refused engine placement generation epoch reason).mpr
        (.inr ⟨record, call, resources, found, calls, stuck, .inl live⟩)
      exact ⟨refused.1, fun same => refused.2 (unaudited_records same)⟩
    · have bounds := touched.resolve_left live
      have closed : placementStateIsLive record.state = false := Bool.eq_false_of_not_eq_true live
      have failed := stuck.failed engine.ids
      obtain ⟨results, states⟩ := reassignPlacement_called calls
      have untouched : call.state = engine.state := by
        cases calls with
        | @reassign _ _ _ _ other stored accepted recorded budget =>
          cases found.symm.trans (reassignChecks_found accepted)
          exact replaceTermination_closed closed
      constructor
      · rw [results]
        exact failed
      · rw [states failed]
        cases SchedulingCall.scheduled_failed failed with
        | inl full =>
          rw [bounds] at full
          cases full.1
        | inr drawn =>
          obtain ⟨-, resources, drawn⟩ := drawn
          rw [drawn, untouched]
          exact beginCommit_differs resources

theorem reassignPlacement_kept (spared : ¬ engine.ReassignmentLeaves placement generation epoch reason)
    (failed : (reassignPlacement engine.state engine.config engine.ids placement generation epoch reason).result.isOk =
      false) :
    (reassignPlacement engine.state engine.config engine.ids placement generation epoch reason).state.unaudited =
      engine.state.unaudited := by
  cases checked : reassignChecks engine.state placement generation epoch with
  | error status => simp only [reassignPlacement, checked]
  | ok record =>
    have closed (unmoved : ¬ placementStateIsLive record.state) :
        replaceTermination engine.state record .reassignmentRequired reason (ascii "reassigned by controller") =
          engine.state :=
      replaceTermination_closed (Bool.eq_false_of_not_eq_true unmoved)
    rcases @reassignPlacement_ends engine placement generation epoch reason record checked with
      ⟨call, calls, is, -⟩ | ⟨-, exhausted, -, stopped⟩
    · obtain ⟨results, states⟩ := reassignPlacement_called calls
      rw [results] at failed
      obtain ⟨resources, stuck⟩ := SchedulingCall.stuck_of_failed failed
      have here := reassignChecks_found checked
      rw [states failed]
      cases SchedulingCall.scheduled_failed failed with
      | inr drawn => exact absurd (.stuck here calls stuck (.inr drawn.1)) spared
      | inl full =>
        have unmoved : ¬ placementStateIsLive record.state :=
          fun live => absurd (.stuck here calls stuck (.inl live)) spared
        rw [full.2, is, closed unmoved]
    · have unmoved : ¬ placementStateIsLive record.state :=
        fun live => absurd (.stopped ⟨checked, live, exhausted⟩) spared
      rw [stopped, closed unmoved]

theorem preemptPlacement_kept
    (spared : ∀ call resources, engine.Calls (.preemptPlacement placement generation epoch reason) call →
      ¬ call.Stuck engine.config resources)
    (failed : (preemptPlacement engine.state engine.config engine.ids placement generation epoch reason).result.isOk =
      false) :
    (preemptPlacement engine.state engine.config engine.ids placement generation epoch reason).state =
      engine.state := by
  cases checked : preemptChecks engine.state placement generation epoch with
  | error status => simp only [preemptPlacement, checked]
  | ok record =>
    cases recorded : (replaceTermination engine.state record .preempted reason
        (ascii "preempted to free a constrained resource")).requests.find? record.request with
    | none =>
      simp only [preemptPlacement, checked, recorded] at failed
      cases failed
    | some stored =>
      by_cases closed : stored.request.allowPreemption = false ∨
          stored.request.maxReassignments ≤ record.reassignmentCount
      · simp only [preemptPlacement, checked, recorded, if_pos closed] at failed
        cases failed
      · have able := not_or.mp closed
        have calls : engine.Calls (.preemptPlacement placement generation epoch reason) _ :=
          .preempt checked recorded (Bool.eq_true_of_not_eq_false able.1) (UInt32.not_le.mp able.2)
        rw [(preemptPlacement_called calls).1] at failed
        obtain ⟨resources, stuck⟩ := SchedulingCall.stuck_of_failed failed
        exact absurd stuck (spared _ resources calls)

end Replacement

end Scheduling

/-- A submission that is refused leaves everything but the audit log, unless its call has found a candidate that it
    cannot commit. -/
theorem rejected_submissions (engine : Engine) (request : ScheduleRequest) :
    ((submitRequest engine.state engine.config engine.ids request).result.isOk = false →
        (submitRequest engine.state engine.config engine.ids request).state.unaudited = engine.state.unaudited) ↔
      ∀ call resources, engine.Calls (.submitRequest request) call → ¬ call.Stuck engine.config resources := by
  have refused := @submitRequest_refused engine request
  constructor
  · intro kept call resources calls stuck
    obtain ⟨failed, differs⟩ := refused.mpr ⟨call, resources, calls, stuck⟩
    exact differs (unaudited_records (kept failed))
  · intro spared failed
    cases checked : submitChecks engine.state engine.config (normalizeScheduleRequest request) with
    | error status => simp only [submitRequest, checked]
    | ok =>
      have calls : engine.Calls (.submitRequest request)
          ⟨admitRequest engine.state engine.config (normalizeScheduleRequest request),
            submittedRequest engine.state (normalizeScheduleRequest request), {}, 0⟩ := .submit checked
      simp only [submitRequest, checked] at failed
      obtain ⟨resources, stuck⟩ := @SchedulingCall.stuck_of_failed
        ⟨admitRequest engine.state engine.config (normalizeScheduleRequest request),
          submittedRequest engine.state (normalizeScheduleRequest request), {}, 0⟩ _ _ failed
      exact absurd stuck (spared _ resources calls)

/-- A reassignment that is refused leaves everything but the audit log, unless it has ended a live placement or drawn
    the sequence numbers; a preemption does, unless its call has found a candidate that it cannot commit. -/
theorem rejected_replacements (engine : Engine) (placement : PlacementId) (generation : PlacementGeneration)
    (epoch : CoordinatorEpoch) (reason : Text) :
    (((reassignPlacement engine.state engine.config engine.ids placement generation epoch reason).result.isOk =
          false →
        (reassignPlacement engine.state engine.config engine.ids placement generation epoch reason).state.unaudited =
          engine.state.unaudited) ↔
      ¬ engine.ReassignmentLeaves placement generation epoch reason) ∧
    (((preemptPlacement engine.state engine.config engine.ids placement generation epoch reason).result.isOk =
          false →
        (preemptPlacement engine.state engine.config engine.ids placement generation epoch reason).state.unaudited =
          engine.state.unaudited) ↔
      ∀ call resources, engine.Calls (.preemptPlacement placement generation epoch reason) call →
        ¬ call.Stuck engine.config resources) := by
  constructor
  · constructor
    · intro kept leaves
      obtain ⟨failed, differs⟩ := leaves.differs
      exact differs (kept failed)
    · exact reassignPlacement_kept
  · constructor
    · intro kept call resources calls stuck
      have refused := (@preemptPlacement_refused engine placement generation epoch reason).mpr
        ⟨call, resources, calls, stuck⟩
      exact refused.2 (unaudited_records (kept refused.1))
    · intro spared failed
      rw [preemptPlacement_kept spared failed]

namespace Bench

/-- An engine that may hold one placement, and holds it. -/
def full : Engine :=
  (Engine.fresh { limits := { maxActivePlacements := 1 } }).runs start

def final : Engine :=
  (Engine.fresh {}).runs [.registerResource advertisement, .submitRequest { request 5 1 with maxReassignments := 0 }]

end Bench

/-- A submission fails on the bounds of the tables with its request recorded. -/
theorem refused_submission_recorded :
    Bench.full.state.placements.size = 1 ∧
    (submitRequest Bench.full.state Bench.full.config Bench.full.ids (Bench.request 6 2)).result.isOk = false ∧
      Bench.full.state.requests.find? ⟨6⟩ = none ∧
      ((submitRequest Bench.full.state Bench.full.config Bench.full.ids (Bench.request 6 2)).state.requests.find?
        ⟨6⟩).isSome := by
  decide +kernel

/-- A reassignment beyond the budget fails with the placement ended. -/
theorem refused_reassignment_ends :
    ∃ placement ∈ Bench.final.state.placements.entries,
      placementStateIsLive placement.state ∧
        (reassignPlacement Bench.final.state Bench.final.config Bench.final.ids placement.id placement.generation
          placement.epoch []).result.isOk = false ∧
        (reassignPlacement Bench.final.state Bench.final.config Bench.final.ids placement.id placement.generation
          placement.epoch []).state.placements.entries.map (·.state) = [.reassignmentRequired] := by
  decide +kernel

end LabScheduler
