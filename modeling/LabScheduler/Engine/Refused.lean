import LabScheduler.Engine.ExactlyOnce
import LabScheduler.Engine.Fencing
import LabScheduler.Engine.Loss

namespace LabScheduler

open Foundation

structure SameRecords (state after : SchedulerState) : Prop where
  epoch : after.epoch = state.epoch
  resources : after.resources = state.resources
  requests : after.requests = state.requests
  placements : after.placements = state.placements
  reservations : after.reservations = state.reservations

namespace SameRecords

theorem refl (state : SchedulerState) : SameRecords state state := ⟨rfl, rfl, rfl, rfl, rfl⟩

theorem trans {a b c : SchedulerState} (first : SameRecords a b) (second : SameRecords b c) : SameRecords a c :=
  ⟨second.epoch.trans first.epoch, second.resources.trans first.resources, second.requests.trans first.requests,
    second.placements.trans first.placements, second.reservations.trans first.reservations⟩

theorem symm {a b : SchedulerState} (same : SameRecords a b) : SameRecords b a :=
  ⟨same.epoch.symm, same.resources.symm, same.requests.symm, same.placements.symm, same.reservations.symm⟩

end SameRecords

/-- An incarnation that still holds a resource, or a placement. -/
def SchedulerState.Binds (state : SchedulerState) (incarnation : Incarnation) : Prop :=
  (∃ resource ∈ state.resources.entries, resource.heldBy incarnation.1 incarnation.2 = true) ∨
    ∃ placement ∈ state.placements.entries,
      takes incarnation.1 incarnation.2 (state.heldBy incarnation) placement = true

/-- The adoption of another boot takes something from the boot that the table has. -/
def SchedulerState.Displaces (state : SchedulerState) (worker : WorkerId) (boot : WorkerBootId) : Prop :=
  ∃ record, state.workers.find? worker = some record ∧ record.boot ≠ boot ∧ state.Binds (worker, record.boot)

section Adoption

variable {state : SchedulerState} {worker : WorkerId} {boot : WorkerBootId}

theorem disconnectWorker_same (state : SchedulerState) (worker : WorkerId) (boot : WorkerBootId) (detail : Text) :
    SameRecords state (disconnectWorker state worker boot detail) := by
  unfold disconnectWorker
  split
  · exact .refl _
  · split <;> exact ⟨rfl, rfl, rfl, rfl, rfl⟩

theorem enterIncarnation_same (state : SchedulerState) (worker : WorkerId) (boot : WorkerBootId) :
    SameRecords state (enterIncarnation state worker boot) := by
  unfold enterIncarnation
  split <;> exact ⟨rfl, rfl, rfl, rfl, rfl⟩

theorem losePlacements_idle {affected : List ResourceId} (ids : List PlacementId)
    (progress : SchedulerState × ResourceLossReport)
    (spared : ∀ placement ∈ progress.1.placements.entries, takes worker boot affected placement = false) :
    ids.foldl (losePlacement worker boot affected) progress = progress := by
  induction ids with
  | nil => rfl
  | cons id rest ih =>
    have still : losePlacement worker boot affected progress id = progress := by
      unfold losePlacement
      split
      · rfl
      · rename_i placement found
        have kept := spared placement (Table.mem_of_find? found)
        unfold takes at kept
        rw [if_neg (by simp [kept])]
    rw [List.foldl_cons, still]
    exact ih

theorem invalidateWorkerIncarnation_idle (config : EngineConfig) (detail : Text)
    (unbound : ¬ state.Binds (worker, boot)) :
    invalidateWorkerIncarnation state config worker boot detail =
      (pushAudit (disconnectWorker state worker boot detail) config (ascii "worker.incarnation_invalidated")
          (worker.toText ++ ascii " boot=" ++ boot.toText ++ ascii " " ++ detail),
        { worker := worker, boot := boot, detail := detail }) := by
  have free : ∀ resource ∈ state.resources.entries, resource.heldBy worker boot = false := by
    intro resource member
    apply Bool.eq_false_of_not_eq_true
    exact fun held => unbound (.inl ⟨resource, member, held⟩)
  have none : state.resources.entries.filter (fun resource => resource.heldBy worker boot) = [] := by
    apply List.filter_eq_nil_iff.mpr
    intro resource member
    rw [free resource member]
    exact Bool.false_ne_true
  have resources : (invalidateResources state worker boot).resources = state.resources := by
    apply Table.ext_entries
    change state.resources.entries.map (ResourceRecord.loseIncarnation worker boot) = state.resources.entries
    refine (List.map_congr_left fun resource member => ?_).trans (List.map_id _)
    unfold ResourceRecord.loseIncarnation
    rw [if_neg (by simp [free resource member])]
    rfl
  have whole : invalidateResources state worker boot = state := by
    change { state with resources := (invalidateResources state worker boot).resources } = state
    rw [resources]
  have spared : ∀ placement ∈ state.placements.entries, takes worker boot [] placement = false := by
    intro placement member
    apply Bool.eq_false_of_not_eq_true
    intro taken
    refine unbound (.inr ⟨placement, member, ?_⟩)
    unfold SchedulerState.heldBy
    rw [none]
    exact taken
  unfold invalidateWorkerIncarnation
  rw [none, whole]
  simp only [List.map_nil]
  rw [losePlacements_idle state.placements.keys _ spared]

theorem invalidateWorkerIncarnation_same (config : EngineConfig) (detail : Text)
    (unbound : ¬ state.Binds (worker, boot)) :
    SameRecords state (invalidateWorkerIncarnation state config worker boot detail).1 := by
  rw [invalidateWorkerIncarnation_idle config detail unbound]
  exact (disconnectWorker_same state worker boot detail).trans ⟨rfl, rfl, rfl, rfl, rfl⟩

theorem Swept.differs {after : SchedulerState}
    (swept : Swept (invalidateResources state worker boot) (takes worker boot (state.heldBy (worker, boot)))
      state.placements.keys after) (binds : state.Binds (worker, boot)) : ¬ SameRecords state after := by
  intro same
  rcases binds with ⟨resource, member, held⟩ | ⟨placement, member, taken⟩
  · have found := Table.find?_of_mem member
    have invalidated : (invalidateResources state worker boot).resources.find? resource.id =
        some resource.invalidate := by
      unfold invalidateResources
      rw [Table.find?_mapEntries, found]
      exact congrArg some (if_pos held)
    obtain ⟨later, there, rebooked⟩ := swept.resources.later invalidated
    rw [same.resources, found] at there
    cases there
    have generation : resource.generation = resource.generation.bump :=
      congrArg ResourceRecord.generation rebooked
    exact StrongId.bump_ne _ generation.symm
  · have found := Table.find?_of_mem member
    obtain ⟨later, there, -, ended, -⟩ := swept.ended found taken (Table.mem_keys found)
    rw [same.placements, found] at there
    cases there
    have live := (Bool.and_eq_true_iff.mp taken).1
    rw [ended] at live
    cases live

theorem adoptWorkerIncarnation_same (config : EngineConfig) (detail : Text) :
    SameRecords state (adoptWorkerIncarnation state config worker boot detail).1 ↔ ¬ state.Displaces worker boot := by
  constructor
  · intro same displaces
    obtain ⟨record, found, other, binds⟩ := displaces
    exact (adoptWorkerIncarnation_swept config detail found other).differs binds same
  · intro kept
    unfold adoptWorkerIncarnation
    split
    · exact ⟨rfl, rfl, rfl, rfl, rfl⟩
    · rename_i record found
      split
      · exact ⟨rfl, rfl, rfl, rfl, rfl⟩
      · rename_i other
        have unbound : ¬ state.Binds (worker, record.boot) := fun binds => kept ⟨record, found, other, binds⟩
        have lost := invalidateWorkerIncarnation_same config detail unbound
        have entered := enterIncarnation_same
          (invalidateWorkerIncarnation state config worker record.boot detail).1 worker boot
        exact lost.trans (entered.trans ⟨rfl, rfl, rfl, rfl, rfl⟩)

end Adoption

section Resources

variable {state : SchedulerState} {config : EngineConfig}

theorem adoptOwner_same (advertisement : ResourceAdvertisement) :
    SameRecords state (adoptOwner state config advertisement) ↔
      ¬ (advertisement.worker.isNull = false ∧ state.Displaces advertisement.worker advertisement.boot) := by
  unfold adoptOwner
  split
  · rename_i unowned
    refine iff_of_true (.refl _) fun both => ?_
    rw [unowned] at both
    cases both.1
  · rename_i owned
    rw [adoptWorkerIncarnation_same]
    refine not_congr (and_iff_right ?_).symm
    exact Bool.eq_false_of_not_eq_true owned

theorem adoptPublisher_same (advertisement : ResourceAdvertisement) (record : ResourceRecord) :
    SameRecords state (adoptPublisher state config advertisement record) ↔
      ¬ ((record.worker.isNull = false ∧ record.boot ≠ advertisement.boot) ∧
        state.Displaces advertisement.worker advertisement.boot) := by
  unfold adoptPublisher
  split
  · rename_i moved
    rw [adoptWorkerIncarnation_same]
    exact not_congr (and_iff_right moved).symm
  · rename_i stays
    exact iff_of_true (.refl _) fun both => stays both.1

theorem registerResource_refused (advertisement : ResourceAdvertisement) :
    ((registerResource state config advertisement).2.isOk = false ∧
        ¬ SameRecords state (registerResource state config advertisement).1) ↔
      registerChecks state config advertisement = .ok () ∧
        (advertisement.worker.isNull = false ∧ state.Displaces advertisement.worker advertisement.boot) ∧
        (validateResourceRecord (registeredRecord state.epoch (normalizeAdvertisement advertisement))
          config.limits).isOk = false := by
  have epoch : (adoptOwner state config (normalizeAdvertisement advertisement)).epoch = state.epoch := by
    unfold adoptOwner
    split
    · rfl
    · exact sameEpoch_wideFrame.adopt ..
  have adopted : SameRecords state (adoptOwner state config (normalizeAdvertisement advertisement)) ↔
      ¬ (advertisement.worker.isNull = false ∧ state.Displaces advertisement.worker advertisement.boot) :=
    adoptOwner_same (normalizeAdvertisement advertisement)
  unfold registerResource
  cases checked : registerChecks state config advertisement with
  | error status =>
    refine iff_of_false ?_ fun holds => by cases holds.1
    exact fun both => both.2 (.refl _)
  | ok =>
    simp only [epoch]
    cases valid : validateResourceRecord (registeredRecord state.epoch (normalizeAdvertisement advertisement))
        config.limits with
    | error status =>
      simp only [adopted, not_not]
      exact ⟨fun both => ⟨trivial, both.2, rfl⟩, fun all => ⟨rfl, all.2.1⟩⟩
    | ok => exact iff_of_false (fun both => by cases both.1) fun all => by cases all.2.2

/-- A publication that is refused after the adoption, or after the record was written. -/
inductive PublicationSlips (state : SchedulerState) (config : EngineConfig) (advertisement : ResourceAdvertisement) :
    Prop
  | adopted {record live : ResourceRecord} (accepted : publishChecks state config advertisement = .ok record)
      (moved : record.worker.isNull = false ∧ record.boot ≠ advertisement.boot)
      (displaces : state.Displaces advertisement.worker advertisement.boot)
      (found : (adoptPublisher state config (normalizeAdvertisement advertisement) record).resources.find?
        advertisement.id = some live)
      (refused : (publishLiveChecks (normalizeAdvertisement advertisement) live).isOk = false)
  | written {mid : SchedulerState} {live : ResourceRecord}
      (publishes : Publishes state config advertisement mid live)
      (invalid : (validateResourceRecord (publishedRecord state.epoch (normalizeAdvertisement advertisement) live)
        config.limits).isOk = false)

theorem adoptPublisher_sequence {advertisement : ResourceAdvertisement} {record live : ResourceRecord} {id : ResourceId}
    (found : state.resources.find? id = some record)
    (there : (adoptPublisher state config advertisement record).resources.find? id = some live) :
    live.stateSequence = record.stateSequence := by
  unfold adoptPublisher at there
  split at there
  case isFalse =>
    rw [found] at there
    cases there
    rfl
  case isTrue =>
    cases known : state.workers.find? advertisement.worker with
    | none =>
      simp only [adoptWorkerIncarnation, known] at there
      have there := found.symm.trans there
      cases there
      rfl
    | some worker =>
      by_cases same : worker.boot = advertisement.boot
      · simp only [adoptWorkerIncarnation, known, if_pos same] at there
        rw [found] at there
        cases there
        rfl
      · have swept := adoptWorkerIncarnation_swept config (ascii "resource state publication") known same
        have invalidated : (invalidateResources state advertisement.worker worker.boot).resources.find? id =
            some (record.loseIncarnation advertisement.worker worker.boot) := by
          unfold invalidateResources
          rw [Table.find?_mapEntries, found]
          rfl
        obtain ⟨later, here, rebooked⟩ := swept.resources.later invalidated
        rw [there] at here
        cases here
        unfold ResourceRecord.Rebooked at rebooked
        have sequence : live.stateSequence =
            (record.loseIncarnation advertisement.worker worker.boot).stateSequence := by
          rw [← rebooked]
        rw [sequence]
        unfold ResourceRecord.loseIncarnation
        split <;> rfl

theorem publishResourceState_refused (advertisement : ResourceAdvertisement) :
    ((publishResourceState state config advertisement).2.isOk = false ∧
        ¬ SameRecords state (publishResourceState state config advertisement).1) ↔
      PublicationSlips state config advertisement := by
  unfold publishResourceState
  cases checked : publishChecks state config advertisement with
  | error status =>
    refine iff_of_false (fun both => both.2 (.refl _)) fun slips => ?_
    cases slips with
    | adopted accepted => cases checked.symm.trans accepted
    | written publishes =>
      obtain ⟨record, accepted, -⟩ := publishes.adopted
      cases checked.symm.trans accepted
  | ok record =>
    have recorded := publishChecks_found checked
    have adopted := @adoptPublisher_same state config (normalizeAdvertisement advertisement) record
    have epoch : (adoptPublisher state config (normalizeAdvertisement advertisement) record).epoch = state.epoch := by
      unfold adoptPublisher
      split
      · exact sameEpoch_wideFrame.adopt ..
      · rfl
    have changes := (@adoptPublisher_changes state config advertisement record checked).resources.later recorded
    have sequence {live : ResourceRecord} := @adoptPublisher_sequence state config (normalizeAdvertisement advertisement)
      record live advertisement.id recorded
    have made {mid : SchedulerState} {live : ResourceRecord} (publishes : Publishes state config advertisement mid live) :
        mid = adoptPublisher state config (normalizeAdvertisement advertisement) record := by
      obtain ⟨other, accepted, same⟩ := publishes.adopted
      cases checked.symm.trans accepted
      exact same
    have slips_adopted {live : ResourceRecord} (moved : record.worker.isNull = false ∧ record.boot ≠ advertisement.boot)
        (displaces : state.Displaces advertisement.worker advertisement.boot) :=
      @PublicationSlips.adopted state config advertisement record live checked moved displaces
    have adoptions : ∃ mid, mid = adoptPublisher state config (normalizeAdvertisement advertisement) record := ⟨_, rfl⟩
    obtain ⟨mid, is⟩ := adoptions
    rw [← is] at adopted epoch changes
    simp only [← is] at sequence made slips_adopted ⊢
    obtain ⟨live, found, -⟩ := changes
    have found' : mid.resources.find? (normalizeAdvertisement advertisement).id = some live := found
    simp only [found']
    cases lives : publishLiveChecks (normalizeAdvertisement advertisement) live with
    | error status =>
      simp only [adopted, not_not]
      constructor
      · intro both
        exact slips_adopted both.2.1 both.2.2 found (by rw [lives]; rfl)
      · intro slips
        refine ⟨rfl, ?_⟩
        cases slips with
        | adopted accepted moved displaces =>
          cases checked.symm.trans accepted
          exact ⟨moved, displaces⟩
        | written publishes =>
          have there := publishes.found
          rw [made publishes] at there
          cases found.symm.trans there
          cases lives.symm.trans publishes.accepted
    | ok =>
      have publishes : Publishes state config advertisement mid live := ⟨⟨record, checked, is⟩, found, lives⟩
      simp only [epoch]
      cases valid : validateResourceRecord (publishedRecord state.epoch (normalizeAdvertisement advertisement) live)
          config.limits with
      | error status =>
        refine iff_of_true ⟨rfl, fun same => ?_⟩ (.written publishes (by rw [valid]; rfl))
        have there := Table.find?_set_self mid.resources
          (publishedRecord state.epoch (normalizeAdvertisement advertisement) live)
        have resources : mid.resources.set
            (publishedRecord state.epoch (normalizeAdvertisement advertisement) live) = state.resources :=
          same.resources
        rw [resources] at there
        have counted : live.stateSequence + 1 = record.stateSequence :=
          congrArg ResourceRecord.stateSequence (Option.some.inj (recorded.symm.trans there)).symm
        rw [sequence found] at counted
        simp at counted
      | ok =>
        refine iff_of_false (fun both => by cases both.1) fun slips => ?_
        cases slips with
        | adopted accepted moved displaces there refused =>
          cases checked.symm.trans accepted
          rw [← is] at there
          cases found.symm.trans there
          rw [lives] at refused
          cases refused
        | written publishes invalid =>
          have there := publishes.found
          rw [made publishes] at there
          cases found.symm.trans there
          rw [valid] at invalid
          cases invalid

end Resources

/-- The candidate a call would commit: every requirement has one, and the search finds a combination. -/
def SchedulingCall.best (call : SchedulingCall) (config : EngineConfig) : Option RankingCandidate :=
  let plans := buildPlans call.state call.stored.request config.limits
  if (plans.find? fun plan => plan.candidates.isEmpty).isSome then none
  else
    (config.candidateSort.sort (searchPlacements call.state call.stored.request config.limits plans).candidates).head?

/-- How a call ends: without a candidate, without room for it, or with its commit. -/
inductive SchedulingCall.Ends (call : SchedulingCall) (config : EngineConfig) (ids : IdGenerator) : Scheduled → Prop
  | unplaced {decision : Decision} (none : call.best config = none) (outcome : decision.outcome = .noPlacement) :
    Ends call config ids ⟨storeNoPlacement call.state call.stored decision, ⟨ids.counter + 1⟩, .ok decision⟩
  | full {best : RankingCandidate} {status : Status} (found : call.best config = some best)
      (bounds : checkCommitBounds call.state config.limits = .error status) :
    Ends call config ids ⟨call.state, ⟨ids.counter + 1⟩, .error status⟩
  | commits {best : RankingCandidate} (explanation : Explanation) (ranked : List RankingCandidate)
      (found : call.best config = some best) (bounds : checkCommitBounds call.state config.limits = .ok ()) :
    Ends call config ids
      (commitPlacement call.state config ids call.stored call.generation call.reassignments explanation ranked best)

theorem SchedulingCall.scheduled_ends (call : SchedulingCall) (config : EngineConfig) (ids : IdGenerator) :
    call.Ends config ids (call.scheduled config ids) := by
  unfold SchedulingCall.scheduled scheduleLocked
  simp only [IdGenerator.next, IdGenerator.nextValue]
  cases blocked : (buildPlans call.state call.stored.request config.limits).find? fun plan =>
      plan.candidates.isEmpty with
  | some plan =>
    have none : call.best config = none := by
      simp only [SchedulingCall.best, blocked]
      rfl
    exact .unplaced none rfl
  | none =>
    have best : call.best config = (config.candidateSort.sort (searchPlacements call.state call.stored.request
        config.limits (buildPlans call.state call.stored.request config.limits)).candidates).head? := by
      simp only [SchedulingCall.best, blocked]
      rfl
    simp only
    cases ranked : config.candidateSort.sort (searchPlacements call.state call.stored.request config.limits
        (buildPlans call.state call.stored.request config.limits)).candidates with
    | nil =>
      rw [ranked] at best
      exact .unplaced best rfl
    | cons first others =>
      rw [ranked] at best
      cases bounds : checkCommitBounds call.state config.limits with
      | error status => exact .full best bounds
      | ok => exact .commits _ _ best bounds

/-- A call that has found its candidate and cannot commit it, by the resources it leaves. -/
inductive SchedulingCall.Stuck (call : SchedulingCall) (config : EngineConfig) : ResourceTable → Prop
  | full {best : RankingCandidate} (found : call.best config = some best)
      (bounds : (checkCommitBounds call.state config.limits).isOk = false) : Stuck call config call.state.resources
  | broken {best : RankingCandidate} {resources : ResourceTable} {status : Status}
      (found : call.best config = some best) (bounds : checkCommitBounds call.state config.limits = .ok ())
      (loop : commitLoop call.state.resources (best.selection.zip call.stored.request.requirements) =
        (resources, .error status)) : Stuck call config resources

section Scheduling

variable {config : EngineConfig}

/-- A call fails exactly when it is stuck. -/
theorem SchedulingCall.scheduled_stuck (call : SchedulingCall) (config : EngineConfig) (ids : IdGenerator) :
    ((call.scheduled config ids).result.isOk = true ∧ ∀ resources, ¬ call.Stuck config resources) ∨
      ∃ resources, (call.scheduled config ids).result.isOk = false ∧
        SameRecords { call.state with resources := resources } (call.scheduled config ids).state ∧
        ∀ other, call.Stuck config other ↔ other = resources := by
  have ends := call.scheduled_ends config ids
  generalize call.scheduled config ids = scheduled at ends ⊢
  cases ends with
  | unplaced none outcome =>
    left
    refine ⟨rfl, fun resources stuck => ?_⟩
    cases stuck with
    | full found => cases none.symm.trans found
    | broken found => cases none.symm.trans found
  | full found bounds =>
    right
    refine ⟨call.state.resources, rfl, .refl _, fun other => ⟨fun stuck => ?_, fun same => ?_⟩⟩
    · cases stuck with
      | full => rfl
      | broken other within => cases bounds.symm.trans within
    · rw [same]
      exact .full found (by rw [bounds]; rfl)
  | @commits first explanation ranked best bounds =>
    simp only [commitPlacement]
    cases loop : commitLoop call.state.resources (first.selection.zip call.stored.request.requirements) with
    | mk resources taken =>
      cases taken with
      | error status =>
        right
        refine ⟨resources, rfl, ⟨rfl, rfl, rfl, rfl, rfl⟩, fun other => ⟨fun stuck => ?_, fun same => ?_⟩⟩
        · cases stuck with
          | full found beyond =>
            rw [bounds] at beyond
            cases beyond
          | broken found within broke =>
            cases best.symm.trans found
            cases loop.symm.trans broke
            rfl
        · rw [same]
          exact .broken best bounds loop
      | ok both =>
        left
        refine ⟨rfl, fun other stuck => ?_⟩
        cases stuck with
        | full found beyond =>
          rw [bounds] at beyond
          cases beyond
        | broken found within broke =>
          cases best.symm.trans found
          cases loop.symm.trans broke

variable {engine : Engine}

theorem submitRequest_refused (request : ScheduleRequest) :
    ((submitRequest engine.state engine.config engine.ids request).result.isOk = false ∧
        ¬ SameRecords engine.state (submitRequest engine.state engine.config engine.ids request).state) ↔
      ∃ call resources, engine.Calls (.submitRequest request) call ∧ call.Stuck engine.config resources := by
  cases checked : submitChecks engine.state engine.config (normalizeScheduleRequest request) with
  | error status =>
    simp only [submitRequest, checked]
    refine iff_of_false (fun both => both.2 (.refl _)) fun calls => ?_
    obtain ⟨call, resources, calls, -⟩ := calls
    cases calls with
    | submit accepted => cases checked.symm.trans accepted
  | ok =>
    simp only [submitRequest, checked]
    obtain ⟨-, absent, -⟩ := submitChecks_ok checked
    let call : SchedulingCall :=
      ⟨admitRequest engine.state engine.config (normalizeScheduleRequest request),
        submittedRequest engine.state (normalizeScheduleRequest request), {}, 0⟩
    have one {other : SchedulingCall} (calls : engine.Calls (.submitRequest request) other) : other = call := by
      cases calls
      rfl
    rcases call.scheduled_stuck engine.config engine.ids with ⟨placed, free⟩ | ⟨resources, failed, same, stuck⟩
    · refine iff_of_false (fun both => ?_) fun calls => ?_
      · have failed : (call.scheduled engine.config engine.ids).result.isOk = false := both.1
        rw [placed] at failed
        cases failed
      · obtain ⟨other, resources, calls, stuck⟩ := calls
        rw [one calls] at stuck
        exact free resources stuck
    · refine iff_of_true ⟨failed, fun unchanged => ?_⟩ ⟨call, resources, .submit checked, (stuck resources).mpr rfl⟩
      have requests : engine.state.requests.emplace
          (submittedRequest engine.state (normalizeScheduleRequest request)) = engine.state.requests :=
        same.requests.symm.trans unchanged.requests
      have there := Table.find?_emplace engine.state.requests
        (submittedRequest engine.state (normalizeScheduleRequest request)) (normalizeScheduleRequest request).id
      rw [requests, absent] at there
      have there := there.trans (if_pos rfl)
      cases there

theorem replaceTermination_differs {state : SchedulerState} {record : PlacementRecord} {target : PlacementState}
    {reason fallback : Text} (found : state.placements.find? record.id = some record)
    (live : placementStateIsLive record.state) (closed : placementStateIsLive target = false) :
    (replaceTermination state record target reason fallback).placements ≠ state.placements := by
  intro same
  rw [replaceTermination_live live] at same
  have there := Table.find?_set_self state.placements
    (record.finish target (reasonOr reason fallback) (state.transitionSequence + 1))
  have placements : state.placements.set
    (record.finish target (reasonOr reason fallback) (state.transitionSequence + 1)) = state.placements := same
  rw [placements] at there
  have ended : record.state = target := congrArg PlacementRecord.state (Option.some.inj (found.symm.trans there))
  rw [ended, closed] at live
  cases live

theorem replaceTermination_same {state : SchedulerState} {record : PlacementRecord} {target : PlacementState}
    {reason fallback : Text} (found : state.placements.find? record.id = some record)
    (closed : placementStateIsLive target = false) :
    SameRecords state (replaceTermination state record target reason fallback) ↔
      placementStateIsLive record.state = false := by
  constructor
  · intro same
    apply Bool.eq_false_of_not_eq_true
    intro live
    exact replaceTermination_differs found live closed same.placements
  · intro ended
    rw [replaceTermination_closed ended]
    exact .refl _

section Replacement

variable {placement : PlacementId} {generation : PlacementGeneration} {epoch : CoordinatorEpoch} {reason : Text}

/-- A reassignment that ends a live placement and stops there. -/
structure ReassignmentStops (state : SchedulerState) (placement : PlacementId) (generation : PlacementGeneration)
    (epoch : CoordinatorEpoch) (record : PlacementRecord) : Prop where
  accepted : reassignChecks state placement generation epoch = .ok record
  live : placementStateIsLive record.state
  exhausted : ∀ stored, state.requests.find? record.request = some stored →
    stored.request.maxReassignments ≤ record.reassignmentCount

/-- An operation makes one call. -/
theorem Engine.Calls.unique {operation : Operation} {call other : SchedulingCall} (calls : engine.Calls operation call)
    (makes : engine.Calls operation other) : call = other := by
  cases calls with
  | submit =>
    cases makes
    rfl
  | reassign accepted recorded =>
    cases makes with
    | reassign accepted' recorded' =>
      cases accepted.symm.trans accepted'
      cases recorded.symm.trans recorded'
      rfl
  | preempt accepted recorded =>
    cases makes with
    | preempt accepted' recorded' =>
      cases accepted.symm.trans accepted'
      cases recorded.symm.trans recorded'
      rfl

theorem reassignPlacement_called {call : SchedulingCall}
    (calls : engine.Calls (.reassignPlacement placement generation epoch reason) call) :
    (reassignPlacement engine.state engine.config engine.ids placement generation epoch reason).result.isOk =
        (call.scheduled engine.config engine.ids).result.isOk ∧
      ((call.scheduled engine.config engine.ids).result.isOk = false →
        (reassignPlacement engine.state engine.config engine.ids placement generation epoch reason).state =
          (call.scheduled engine.config engine.ids).state) := by
  cases calls with
  | reassign accepted recorded budget =>
    have open' := UInt32.not_le.mpr budget
    simp only [reassignPlacement, accepted, recorded, if_neg open', SchedulingCall.scheduled]
    generalize scheduleLocked _ engine.config engine.ids _ _ _ = scheduled
    obtain ⟨after, ids, result⟩ := scheduled
    cases result with
    | error status => exact ⟨rfl, fun _ => rfl⟩
    | ok decision =>
      simp only
      split
      · exact ⟨rfl, fun failed => by cases failed⟩
      · exact ⟨rfl, fun failed => by cases failed⟩

theorem preemptPlacement_called {call : SchedulingCall}
    (calls : engine.Calls (.preemptPlacement placement generation epoch reason) call) :
    (preemptPlacement engine.state engine.config engine.ids placement generation epoch reason).result.isOk =
        (call.scheduled engine.config engine.ids).result.isOk ∧
      ((call.scheduled engine.config engine.ids).result.isOk = false →
        (preemptPlacement engine.state engine.config engine.ids placement generation epoch reason).state =
          (call.scheduled engine.config engine.ids).state) := by
  cases calls with
  | preempt accepted recorded allowed budget =>
    have able := not_or.mpr ⟨Bool.not_eq_false _ ▸ allowed, UInt32.not_le.mpr budget⟩
    simp only [preemptPlacement, accepted, recorded, if_neg able, SchedulingCall.scheduled]
    generalize scheduleLocked _ engine.config engine.ids _ _ _ = scheduled
    obtain ⟨after, ids, result⟩ := scheduled
    cases result with
    | error status => exact ⟨rfl, fun _ => rfl⟩
    | ok decision => exact ⟨rfl, fun failed => by cases failed⟩

theorem reassignPlacement_ends {record : PlacementRecord}
    (checked : reassignChecks engine.state placement generation epoch = .ok record) :
    (∃ call : SchedulingCall, engine.Calls (.reassignPlacement placement generation epoch reason) call ∧
        call.state = replaceTermination engine.state record .reassignmentRequired reason
          (ascii "reassigned by controller") ∧
        ∀ other, ¬ ReassignmentStops engine.state placement generation epoch other) ∨
      ((∀ call, ¬ engine.Calls (.reassignPlacement placement generation epoch reason) call) ∧
        (∀ stored, engine.state.requests.find? record.request = some stored →
          stored.request.maxReassignments ≤ record.reassignmentCount) ∧
        (reassignPlacement engine.state engine.config engine.ids placement generation epoch reason).result.isOk =
          false ∧
        (reassignPlacement engine.state engine.config engine.ids placement generation epoch reason).state =
          replaceTermination engine.state record .reassignmentRequired reason (ascii "reassigned by controller")) := by
  obtain ⟨found, -⟩ := reassignChecks_ok checked
  have changes := (@replaceTermination_changes engine.state record .reassignmentRequired reason
    (ascii "reassigned by controller") found rfl).requests
  cases recorded : (replaceTermination engine.state record .reassignmentRequired reason
      (ascii "reassigned by controller")).requests.find? record.request with
  | none =>
    right
    refine ⟨fun call calls => ?_, fun stored there => ?_, ?_, ?_⟩
    · cases calls with
      | reassign accepted recorded' =>
        cases checked.symm.trans accepted
        cases recorded.symm.trans recorded'
    · obtain ⟨later, kept, -⟩ := changes.later there
      cases recorded.symm.trans kept
    · simp only [reassignPlacement, checked, recorded]
      rfl
    · simp only [reassignPlacement, checked, recorded]
  | some stored =>
    have before {other : StoredRequest} (there : engine.state.requests.find? record.request = some other) :
        stored.request = other.request := by
      obtain ⟨later, kept, same⟩ := changes.later there
      cases recorded.symm.trans kept
      exact same
    by_cases spent : stored.request.maxReassignments ≤ record.reassignmentCount
    · right
      refine ⟨fun call calls => ?_, fun other there => ?_, ?_, ?_⟩
      · cases calls with
        | reassign accepted recorded' budget =>
          cases checked.symm.trans accepted
          cases recorded.symm.trans recorded'
          exact UInt32.not_le.mpr budget spent
      · rw [← before there]
        exact spent
      · simp only [reassignPlacement, checked, recorded, if_pos spent]
        rfl
      · simp only [reassignPlacement, checked, recorded, if_pos spent]
    · left
      obtain ⟨earlier, there, -⟩ := changes.earlier recorded
      refine ⟨_, .reassign checked recorded (UInt32.not_le.mp spent), rfl, fun other stops => ?_⟩
      cases checked.symm.trans stops.accepted
      have exhausted := stops.exhausted earlier there
      rw [← before there] at exhausted
      exact spent exhausted

theorem reassignPlacement_refused :
    ((reassignPlacement engine.state engine.config engine.ids placement generation epoch reason).result.isOk = false ∧
        ¬ SameRecords engine.state
          (reassignPlacement engine.state engine.config engine.ids placement generation epoch reason).state) ↔
      (∃ record, ReassignmentStops engine.state placement generation epoch record) ∨
        ∃ record call resources, engine.state.placements.find? placement = some record ∧
          engine.Calls (.reassignPlacement placement generation epoch reason) call ∧
          call.Stuck engine.config resources ∧
          (placementStateIsLive record.state ∨ resources ≠ engine.state.resources) := by
  cases checked : reassignChecks engine.state placement generation epoch with
  | error status =>
    simp only [reassignPlacement, checked]
    refine iff_of_false (fun both => both.2 (.refl _)) fun slips => ?_
    rcases slips with ⟨record, stops⟩ | ⟨record, call, resources, -, calls, -⟩
    · cases checked.symm.trans stops.accepted
    · cases calls with
      | reassign accepted => cases checked.symm.trans accepted
  | ok record =>
    obtain ⟨found, -⟩ := reassignChecks_ok checked
    have here := reassignChecks_found checked
    have same_iff := @replaceTermination_same engine.state record .reassignmentRequired reason
      (ascii "reassigned by controller") found rfl
    rcases @reassignPlacement_ends engine placement generation epoch reason record checked with
      ⟨call, calls, is, noStop⟩ | ⟨noCall, exhausted, failed, stopped⟩
    · obtain ⟨results, states⟩ := reassignPlacement_called calls
      rw [results]
      rw [← is] at same_iff
      rcases call.scheduled_stuck engine.config engine.ids with ⟨placed, free⟩ | ⟨resources, failed, same, stuck⟩
      · refine iff_of_false (fun both => ?_) fun slips => ?_
        · cases placed.symm.trans both.1
        · rcases slips with ⟨other, stops⟩ | ⟨_, other, resources, -, makes, stuck, -⟩
          · exact noStop other stops
          · rw [← calls.unique makes] at stuck
            exact free resources stuck
      · rw [states failed]
        constructor
        · intro both
          refine .inr ⟨record, call, resources, here, calls, (stuck resources).mpr rfl, ?_⟩
          by_contra kept
          obtain ⟨closed, unbooked⟩ := not_or.mp kept
          have ended := same_iff.mpr (Bool.eq_false_of_not_eq_true closed)
          have booked : resources = engine.state.resources := not_not.mp unbooked
          have back : SameRecords engine.state { call.state with resources := resources } :=
            ⟨ended.epoch, booked, ended.requests, ended.placements, ended.reservations⟩
          exact both.2 (back.trans same)
        · intro slips
          refine ⟨failed, fun unchanged => ?_⟩
          rcases slips with ⟨other, stops⟩ | ⟨other, second, booked, there, makes, stuck', changed⟩
          · exact noStop other stops
          · cases here.symm.trans there
            rw [← calls.unique makes] at stuck'
            have is' := (stuck booked).mp stuck'
            rcases changed with live | booking
            · have stayed : call.state.placements = engine.state.placements :=
                same.placements.symm.trans unchanged.placements
              rw [is] at stayed
              exact replaceTermination_differs found live rfl stayed
            · rw [is'] at booking
              exact booking (same.resources.symm.trans unchanged.resources)
    · rw [stopped, same_iff, Bool.not_eq_false]
      constructor
      · intro both
        exact .inl ⟨record, checked, both.2, exhausted⟩
      · intro slips
        refine ⟨failed, ?_⟩
        rcases slips with ⟨other, stops⟩ | ⟨_, call, _, -, calls, -⟩
        · cases checked.symm.trans stops.accepted
          exact stops.live
        · exact absurd calls (noCall call)

theorem preemptPlacement_refused :
    ((preemptPlacement engine.state engine.config engine.ids placement generation epoch reason).result.isOk = false ∧
        ¬ SameRecords engine.state
          (preemptPlacement engine.state engine.config engine.ids placement generation epoch reason).state) ↔
      ∃ call resources, engine.Calls (.preemptPlacement placement generation epoch reason) call ∧
        call.Stuck engine.config resources := by
  cases checked : preemptChecks engine.state placement generation epoch with
  | error status =>
    simp only [preemptPlacement, checked]
    refine iff_of_false (fun both => both.2 (.refl _)) fun calls => ?_
    obtain ⟨call, resources, calls, -⟩ := calls
    cases calls with
    | preempt accepted => cases checked.symm.trans accepted
  | ok record =>
    obtain ⟨found, live⟩ := preemptChecks_ok checked
    have differs := @replaceTermination_differs engine.state record .preempted reason
      (ascii "preempted to free a constrained resource") found live rfl
    have one {call : SchedulingCall}
        (calls : engine.Calls (.preemptPlacement placement generation epoch reason) call) : ∃ stored,
        (replaceTermination engine.state record .preempted reason
          (ascii "preempted to free a constrained resource")).requests.find? record.request = some stored ∧
        ¬ (stored.request.allowPreemption = false ∨ stored.request.maxReassignments ≤ record.reassignmentCount) ∧
        call = ⟨reopenRequest (replaceTermination engine.state record .preempted reason
            (ascii "preempted to free a constrained resource")) stored,
          { stored with state := .submitted }, record.generation.bump, record.reassignmentCount + 1⟩ := by
      cases calls with
      | @preempt _ _ _ _ other stored accepted recorded allowed budget =>
        cases checked.symm.trans accepted
        refine ⟨stored, recorded, ?_, rfl⟩
        simp only [not_or, Bool.not_eq_false, UInt32.not_le]
        exact ⟨allowed, budget⟩
    cases recorded : (replaceTermination engine.state record .preempted reason
        (ascii "preempted to free a constrained resource")).requests.find? record.request with
    | none =>
      simp only [preemptPlacement, checked, recorded]
      refine iff_of_false (fun both => by cases both.1) fun exists' => ?_
      obtain ⟨call, resources, calls, -⟩ := exists'
      obtain ⟨stored, there, -⟩ := one calls
      cases recorded.symm.trans there
    | some stored =>
      by_cases closed : stored.request.allowPreemption = false ∨
          stored.request.maxReassignments ≤ record.reassignmentCount
      · simp only [preemptPlacement, checked, recorded, if_pos closed]
        refine iff_of_false (fun both => by cases both.1) fun exists' => ?_
        obtain ⟨call, resources, calls, -⟩ := exists'
        obtain ⟨other, there, opened, -⟩ := one calls
        cases recorded.symm.trans there
        exact opened closed
      · have able := closed
        simp only [not_or, Bool.not_eq_false, UInt32.not_le] at able
        have calls : engine.Calls (.preemptPlacement placement generation epoch reason) _ :=
          .preempt checked recorded able.1 able.2
        obtain ⟨results, states⟩ := preemptPlacement_called calls
        rw [results]
        rcases SchedulingCall.scheduled_stuck _ engine.config engine.ids with
          ⟨placed, free⟩ | ⟨resources, failed, same, stuck⟩
        · refine iff_of_false (fun both => ?_) fun exists' => ?_
          · cases placed.symm.trans both.1
          · obtain ⟨call, resources, makes, stuck⟩ := exists'
            rw [← calls.unique makes] at stuck
            exact free resources stuck
        · rw [states failed]
          refine iff_of_true ⟨failed, fun unchanged => ?_⟩ ⟨_, resources, calls, (stuck resources).mpr rfl⟩
          exact differs (same.placements.symm.trans unchanged.placements)

end Replacement

end Scheduling

section Others

variable {state : SchedulerState} {config : EngineConfig}

theorem workerConnected_same (worker : WorkerId) (boot : WorkerBootId) :
    ¬ SameRecords state (workerConnected state config worker boot).1 ↔
      workerChecks worker boot = .ok () ∧ state.Displaces worker boot := by
  unfold workerConnected
  cases checked : workerChecks worker boot with
  | error status => exact iff_of_false (fun differs => differs (.refl _)) fun holds => by cases holds.1
  | ok =>
    simp only [adoptWorkerIncarnation_same, not_not]
    exact (and_iff_right trivial).symm

theorem retireResource_refused (resource : ResourceId) (generation : ResourceGeneration)
    (refused : (retireResource state config resource generation).2.isOk = false) :
    (retireResource state config resource generation).1 = state := by
  unfold retireResource at refused ⊢
  split
  · rfl
  · rename_i accepted
    simp only [accepted] at refused
    cases refused

theorem cancelRequest_refused (request : ScheduleRequestId) (reason : Text)
    (refused : (cancelRequest state config request reason).2.status.code ≠ .ok) :
    (cancelRequest state config request reason).1 = state := by
  have reported (progress : SchedulerState × CancellationReport) (ids : List PlacementId) :
      (ids.foldl (cancelTurn request reason) progress).2.status = progress.2.status := by
    induction ids generalizing progress with
    | nil => rfl
    | cons id rest ih =>
      rw [List.foldl_cons, ih]
      unfold cancelTurn
      split
      · rfl
      · split <;> rfl
  unfold cancelRequest at refused ⊢
  split
  · rfl
  · rename_i valid
    simp only [valid] at refused
    split
    · rfl
    · rename_i found
      simp only [found] at refused
      rw [reported] at refused
      exact absurd rfl refused

theorem markWorkerLost_refused (worker : WorkerId) (boot : WorkerBootId) (detail : Text)
    (refused : (markWorkerLost state config worker boot detail).2.status.code ≠ .ok) :
    (markWorkerLost state config worker boot detail).1 = state := by
  rw [ne_eq, markWorkerLost_reported] at refused
  unfold markWorkerLost
  split
  · rfl
  · rename_i accepted
    exact absurd accepted refused

end Others

/-- The branches in which an operation changes the records and reports no success, or reports one that the
    coordinator does not look at. -/
inductive Engine.Slips (engine : Engine) : Operation → Prop
  | connected {worker : WorkerId} {boot : WorkerBootId} (accepted : workerChecks worker boot = .ok ())
      (displaces : engine.state.Displaces worker boot) : Slips engine (.workerConnected worker boot)
  | registered {advertisement : ResourceAdvertisement}
      (accepted : registerChecks engine.state engine.config advertisement = .ok ())
      (displaces : advertisement.worker.isNull = false ∧
        engine.state.Displaces advertisement.worker advertisement.boot)
      (invalid : (validateResourceRecord (registeredRecord engine.state.epoch (normalizeAdvertisement advertisement))
        engine.config.limits).isOk = false) : Slips engine (.registerResource advertisement)
  | published {advertisement : ResourceAdvertisement}
      (slips : PublicationSlips engine.state engine.config advertisement) :
    Slips engine (.publishResourceState advertisement)
  | submitted {request : ScheduleRequest} {call : SchedulingCall} {resources : ResourceTable}
      (calls : engine.Calls (.submitRequest request) call) (stuck : call.Stuck engine.config resources) :
    Slips engine (.submitRequest request)
  | stopped {placement : PlacementId} {generation : PlacementGeneration} {epoch : CoordinatorEpoch} {reason : Text}
      {record : PlacementRecord} (stops : ReassignmentStops engine.state placement generation epoch record) :
    Slips engine (.reassignPlacement placement generation epoch reason)
  | reassigned {placement : PlacementId} {generation : PlacementGeneration} {epoch : CoordinatorEpoch}
      {reason : Text} {record : PlacementRecord} {call : SchedulingCall} {resources : ResourceTable}
      (found : engine.state.placements.find? placement = some record)
      (calls : engine.Calls (.reassignPlacement placement generation epoch reason) call)
      (stuck : call.Stuck engine.config resources)
      (changed : placementStateIsLive record.state ∨ resources ≠ engine.state.resources) :
    Slips engine (.reassignPlacement placement generation epoch reason)
  | preempted {placement : PlacementId} {generation : PlacementGeneration} {epoch : CoordinatorEpoch}
      {reason : Text} {call : SchedulingCall} {resources : ResourceTable}
      (calls : engine.Calls (.preemptPlacement placement generation epoch reason) call)
      (stuck : call.Stuck engine.config resources) :
    Slips engine (.preemptPlacement placement generation epoch reason)

end LabScheduler
