import LabScheduler.Engine.Refused

namespace LabScheduler

open Foundation

/-- No placement is added, no reservation becomes active, and no resource authoritative. -/
structure AdmitsNothing (before after : SchedulerState) : Prop where
  placements : ∀ placement ∈ after.placements.entries, before.placements.find? placement.id ≠ none
  reservations : ∀ reservation ∈ after.reservations.entries, reservation.state = .active →
    ∃ earlier, before.reservations.find? reservation.id = some earlier ∧ earlier.state = .active
  resources : ∀ resource ∈ after.resources.entries, resource.dynamicAuthoritative →
    ∃ earlier, before.resources.find? resource.id = some earlier ∧ earlier.dynamicAuthoritative

namespace AdmitsNothing

theorem refl (state : SchedulerState) : AdmitsNothing state state := by
  constructor
  · intro placement member
    rw [Table.find?_of_mem member]
    exact Option.some_ne_none placement
  · exact fun reservation member active => ⟨reservation, Table.find?_of_mem member, active⟩
  · exact fun resource member authoritative => ⟨resource, Table.find?_of_mem member, authoritative⟩

theorem trans {a b c : SchedulerState} (first : AdmitsNothing a b) (second : AdmitsNothing b c) :
    AdmitsNothing a c := by
  constructor
  · intro placement member
    obtain ⟨middle, found⟩ := Option.ne_none_iff_exists'.mp (second.placements placement member)
    have key : middle.id = placement.id := Table.key_of_find? found
    rw [← key]
    exact first.placements middle (Table.mem_of_find? found)
  · intro reservation member active
    obtain ⟨middle, found, still⟩ := second.reservations reservation member active
    have key : middle.id = reservation.id := Table.key_of_find? found
    rw [← key]
    exact first.reservations middle (Table.mem_of_find? found) still
  · intro resource member authoritative
    obtain ⟨middle, found, still⟩ := second.resources resource member authoritative
    have key : middle.id = resource.id := ResourceTable.id_of_find? found
    rw [← key]
    exact first.resources middle (Table.mem_of_find? found) still

end AdmitsNothing

theorem Change.admitsNothing {state after : SchedulerState} (change : Change state after) :
    AdmitsNothing state after := by
  constructor
  · intro placement member
    obtain ⟨before, there, named, -⟩ := change.placements.of_mem member
    rw [← named, Table.find?_of_mem there]
    exact Option.some_ne_none before
  · intro reservation member active
    obtain ⟨before, there, named, progresses⟩ := change.reservations.of_mem member
    have same : reservation = before := progresses.active active
    rw [← same] at there
    exact ⟨reservation, Table.find?_of_mem there, active⟩
  · intro resource member authoritative
    obtain ⟨before, there, named, lapses⟩ := change.resources.of_mem member
    rw [← named]
    exact ⟨before, Table.find?_of_mem there, lapses.authority authoritative⟩

def SchedulingCall.Commits (call : SchedulingCall) (config : EngineConfig) : Prop :=
  ∃ best resources taken, call.best config = some best ∧ checkCommitBounds call.state config.limits = .ok () ∧
    commitLoop call.state.resources (best.selection.zip call.stored.request.requirements) = (resources, .ok taken)

theorem SchedulingCall.scheduled_placed (call : SchedulingCall) (config : EngineConfig) (ids : IdGenerator) :
    (∃ decision, (call.scheduled config ids).result = .ok decision ∧ decision.outcome = .placed) ↔
      call.Commits config := by
  have ends := call.scheduled_ends config ids
  generalize call.scheduled config ids = scheduled at ends ⊢
  cases ends with
  | unplaced none outcome =>
    apply iff_of_false
    · intro placed
      obtain ⟨decision, decided, placed⟩ := placed
      cases decided
      cases outcome.symm.trans placed
    · intro commits
      obtain ⟨best, resources, taken, found, -⟩ := commits
      cases none.symm.trans found
  | full found bounds =>
    apply iff_of_false
    · intro placed
      obtain ⟨decision, decided, -⟩ := placed
      cases decided
    · intro commits
      obtain ⟨_, _, _, _, within, -⟩ := commits
      cases bounds.symm.trans within
  | @commits first explanation ranked best bounds =>
    simp only [commitPlacement]
    cases loop : commitLoop call.state.resources (first.selection.zip call.stored.request.requirements) with
    | mk resources taken =>
      cases taken with
      | error status =>
        apply iff_of_false
        · intro placed
          obtain ⟨decision, decided, -⟩ := placed
          cases decided
        · intro commits
          obtain ⟨other, _, _, found, -, booked⟩ := commits
          cases best.symm.trans found
          cases loop.symm.trans booked
      | ok both =>
        apply iff_of_true
        · exact ⟨_, rfl, rfl⟩
        · exact ⟨first, resources, both, best, bounds, loop⟩

/-- What lets an operation admit something although the scheduler is shutting down: a call of it commits under an
    identity that is new, or it recovers a placement or a static resource. -/
inductive Engine.Admits (engine : Engine) : Operation → Prop
  | committed {operation : Operation} {call : SchedulingCall} (calls : engine.Calls operation call)
      (commits : call.Commits engine.config)
      (fresh : engine.state.placements.find? engine.ids.commitIds.1.placement = none ∨
        engine.state.reservations.find? engine.ids.commitIds.1.reservation = none) : Admits engine operation
  | recovered {durable : DurableState} (accepted : importChecks engine.state durable = .ok ())
      (brings : durable.placements ≠ [] ∨
        ∃ persisted ∈ durable.resources, persisted.worker.isNull ∧ persisted.lifecycle ≠ .retired) :
    Admits engine (.importState durable)

theorem recoveredResource_authoritative {epoch : CoordinatorEpoch} {persisted : ResourceRecord} :
    (recoveredResource epoch persisted).dynamicAuthoritative ↔
      persisted.worker.isNull ∧ persisted.lifecycle ≠ .retired := by
  simp only [recoveredResource]
  split
  · rename_i unowned
    simp [unowned]
  · rename_i owned
    simp [owned]

section Step

variable {engine : Engine} {operation : Operation} {call : SchedulingCall}

theorem Engine.Calls.step_same (calls : engine.Calls operation call) :
    SameRecords (call.scheduled engine.config engine.ids).state (engine.step operation).1.state := by
  rcases calls.step_audited with same | ⟨kind, detail, audited⟩
  · rw [same]
    exact .refl _
  · rw [audited]
    exact ⟨rfl, rfl, rfl, rfl, rfl⟩

/-- While the scheduler shuts down, a call that does not commit under a new identity admits nothing. -/
theorem Engine.Calls.admitsNothing (calls : engine.Calls operation call) (spared : ¬ engine.Admits operation) :
    AdmitsNothing call.state (call.scheduled engine.config engine.ids).state := by
  have result : ScheduleResult call.state engine.config engine.ids call.stored call.generation call.reassignments
    (call.scheduled engine.config engine.ids) := scheduleLocked_result
  have rebooks := call.rebooks engine.config engine.ids
  have places := call.scheduled_placed engine.config engine.ids
  have resources : ∀ resource ∈ (call.scheduled engine.config engine.ids).state.resources.entries,
      resource.dynamicAuthoritative →
        ∃ earlier, call.state.resources.find? resource.id = some earlier ∧ earlier.dynamicAuthoritative := by
    intro resource member authoritative
    obtain ⟨before, there, named, rebooked⟩ := rebooks.of_mem member
    have vouched : before.dynamicAuthoritative := by
      rw [← rebooked]
      exact authoritative
    rw [← named]
    exact ⟨before, Table.find?_of_mem there, vouched⟩
  have here := AdmitsNothing.refl call.state
  generalize call.scheduled engine.config engine.ids = scheduled at result rebooks places resources
  cases result with
  | noPlacement => exact ⟨here.placements, here.reservations, resources⟩
  | refused => exact here
  | broken => exact ⟨here.placements, here.reservations, resources⟩
  | @placed selection booked selected claims placement decision after chosen loop committed decided room
      resources_after requests_after placements_after reservations_after =>
    have commits : call.Commits engine.config := places.mp ⟨decision, rfl, decided.1⟩
    have used : engine.state.placements.find? engine.ids.commitIds.1.placement ≠ none ∧
        engine.state.reservations.find? engine.ids.commitIds.1.reservation ≠ none := by
      constructor
      · exact fun fresh => spared (.committed calls commits (.inl fresh))
      · exact fun fresh => spared (.committed calls commits (.inr fresh))
    obtain ⟨known, there⟩ := Option.ne_none_iff_exists'.mp used.1
    obtain ⟨held, kept⟩ := Option.ne_none_iff_exists'.mp used.2
    obtain ⟨later, present, -⟩ := calls.placements.later there
    obtain ⟨still, stays, -⟩ := calls.reservations.later kept
    have placementId : placement.id = engine.ids.commitIds.1.placement := by
      rw [committed]
      rfl
    have reservationId : (newReservation call.state placement claims).id = engine.ids.commitIds.1.reservation := by
      rw [committed]
      rfl
    have placements : after.placements = call.state.placements := by
      rw [placements_after]
      exact Table.emplace_taken (b := later) (placementId ▸ present)
    have reservations : after.reservations = call.state.reservations := by
      rw [reservations_after]
      exact Table.emplace_taken (b := still) (reservationId ▸ stays)
    constructor
    · rw [placements]
      exact here.placements
    · rw [reservations]
      exact here.reservations
    · exact resources

theorem Engine.step_admitsNothing (shut : engine.state.shuttingDown) (spared : ¬ engine.Admits operation) :
    AdmitsNothing engine.state (engine.step operation).1.state := by
  refine Engine.step_preserves ?_ ?_ ?_ ?_ ?_ ?_ (.refl engine.state)
  case refine_1 =>
    intro state after change sofar
    exact sofar.trans change.admitsNothing
  case refine_2 =>
    intro state after write sofar
    cases write <;> exact ⟨sofar.placements, sofar.reservations, sofar.resources⟩
  case refine_3 =>
    intro advertisement mid record _ registers _
    have accepted := registers.accepted
    simp only [registerChecks, check_bind_ok, check_ok] at accepted
    rw [shut] at accepted
    cases accepted.2.1
  case refine_4 =>
    intro advertisement mid live _ publishes _
    obtain ⟨record, accepted, -⟩ := publishes.adopted
    simp only [publishChecks, check_bind_ok, check_ok] at accepted
    rw [shut] at accepted
    cases accepted.2.1
  case refine_5 =>
    intro call calls sofar
    exact sofar.trans (calls.admitsNothing spared)
  case refine_6 =>
    intro durable same accepted
    have rebuilt := rebuildState_rebuilt accepted
    subst same
    constructor
    · intro placement member
      obtain ⟨persisted, listed, -⟩ := rebuilt.placements placement member
      exact absurd (.recovered accepted (.inl (List.ne_nil_of_mem listed))) spared
    · intro reservation member active
      exact absurd active (rebuilt.not_active member)
    · intro resource member authoritative
      obtain ⟨persisted, listed, made⟩ := rebuilt.resources resource member
      obtain ⟨unowned, stays⟩ := recoveredResource_authoritative.mp (made ▸ authoritative)
      exact absurd (.recovered accepted (.inr ⟨persisted, listed, unowned, stays⟩)) spared

theorem Engine.Calls.admits (calls : engine.Calls operation call) (commits : call.Commits engine.config)
    (fresh : engine.state.placements.find? engine.ids.commitIds.1.placement = none ∨
      engine.state.reservations.find? engine.ids.commitIds.1.reservation = none) :
    ¬ AdmitsNothing engine.state (engine.step operation).1.state := by
  have result : ScheduleResult call.state engine.config engine.ids call.stored call.generation call.reassignments
    (call.scheduled engine.config engine.ids) := scheduleLocked_result
  obtain ⟨made, decided, placed⟩ := (call.scheduled_placed engine.config engine.ids).mpr commits
  have same := calls.step_same
  generalize call.scheduled engine.config engine.ids = scheduled at result decided same
  cases result with
  | noPlacement outcome =>
    cases decided
    rw [outcome] at placed
    cases placed
  | refused => cases decided
  | broken => cases decided
  | @placed selection booked selected claims placement decision after chosen loop committed decided room
      resources_after requests_after placements_after reservations_after =>
    intro admits
    cases fresh with
    | inl unused =>
      have absent : call.state.placements.find? placement.id = none := by
        rw [committed]
        exact calls.placements.absent unused
      have found : (engine.step operation).1.state.placements.find? placement.id = some placement := by
        rw [same.placements, placements_after, Table.emplace_fresh absent]
        exact Table.find?_set_self ..
      apply admits.placements placement (Table.mem_of_find? found)
      rw [committed]
      exact unused
    | inr unused =>
      have named : (newReservation call.state placement claims).id = engine.ids.commitIds.1.reservation := by
        rw [committed]
        rfl
      have absent : call.state.reservations.find? (newReservation call.state placement claims).id = none := by
        rw [named]
        exact calls.reservations.absent unused
      have found : (engine.step operation).1.state.reservations.find? (newReservation call.state placement claims).id =
          some (newReservation call.state placement claims) := by
        rw [same.reservations, reservations_after, Table.emplace_fresh absent]
        exact Table.find?_set_self ..
      obtain ⟨earlier, there, -⟩ := admits.reservations _ (Table.mem_of_find? found) rfl
      rw [named, unused] at there
      cases there

theorem importState_admits {durable : DurableState} (accepted : importChecks engine.state durable = .ok ())
    (brings : durable.placements ≠ [] ∨
      ∃ persisted ∈ durable.resources, persisted.worker.isNull ∧ persisted.lifecycle ≠ .retired) :
    ¬ AdmitsNothing engine.state (engine.step (.importState durable)).1.state := by
  have after : SameRecords (rebuildState engine.state durable).state
      (engine.step (.importState durable)).1.state := by
    simp only [Engine.step, importState, accepted]
    exact ⟨rfl, rfl, rfl, rfl, rfl⟩
  obtain ⟨valid, noResource, -, noPlacement, -⟩ := importChecks_ok accepted
  intro admits
  cases brings with
  | inl placements =>
    obtain ⟨persisted, listed⟩ := List.exists_mem_of_ne_nil _ placements
    obtain ⟨placement, found⟩ := Option.ne_none_iff_exists'.mp (rebuildState_placement engine.state listed)
    rw [← after.placements] at found
    obtain ⟨earlier, there⟩ := Option.ne_none_iff_exists'.mp (admits.placements placement (Table.mem_of_find? found))
    have member := Table.mem_of_find? there
    rw [noPlacement] at member
    cases member
  | inr static =>
    obtain ⟨persisted, listed, unowned, stays⟩ := static
    have distinct := validateDurableState_resources valid
    obtain ⟨resource, found⟩ := Option.ne_none_iff_exists'.mp (rebuildState_resource engine.state listed)
    obtain ⟨origin, known, made⟩ := (rebuildState_rebuilt accepted).resources resource (Table.mem_of_find? found)
    have key : resource.id = persisted.id := ResourceTable.id_of_find? found
    rw [made, recoveredResource_id] at key
    have same : origin = persisted := List.inj_on_of_nodup_map distinct known listed key
    have authoritative : resource.dynamicAuthoritative := by
      rw [made, same]
      exact recoveredResource_authoritative.mpr ⟨unowned, stays⟩
    rw [← after.resources] at found
    obtain ⟨earlier, there, -⟩ := admits.resources resource (Table.mem_of_find? found) authoritative
    have member := Table.mem_of_find? there
    rw [noResource] at member
    cases member

theorem Engine.admitsNothing_iff (shut : engine.state.shuttingDown) :
    AdmitsNothing engine.state (engine.step operation).1.state ↔ ¬ engine.Admits operation := by
  constructor
  · intro nothing admits
    cases admits with
    | committed calls commits fresh => exact calls.admits commits fresh nothing
    | recovered accepted brings => exact importState_admits accepted brings nothing
  · exact Engine.step_admitsNothing shut

end Step

abbrev StaysShut (state after : SchedulerState) : Prop := state.shuttingDown → after.shuttingDown

theorem scheduleLocked_shuttingDown (state : SchedulerState) (config : EngineConfig) (ids : IdGenerator)
    (stored : StoredRequest) (generation : PlacementGeneration) (reassignments : UInt32) :
    (scheduleLocked state config ids stored generation reassignments).state.shuttingDown = state.shuttingDown := by
  unfold scheduleLocked
  simp only [IdGenerator.next, IdGenerator.nextValue]
  split
  · rfl
  · split
    · rfl
    · split
      · rfl
      · unfold commitPlacement
        extract_lets request
        generalize commitLoop _ _ = loop
        obtain ⟨resources, taken⟩ := loop
        cases taken with
        | error status => rfl
        | ok both =>
          simp only [pushAudit, installPlacement, serveTenant]
          split <;> rfl

theorem staysShut_wideFrame : WideFrame StaysShut where
  refl _ := id
  trans first second shut := second (first shut)
  audit _ _ _ _ := id
  ended _ _ _ _ _ := id
  marked _ _ _ _ _ _ := id
  completed _ _ _ _ _ _ := id
  requests _ _ _ := id
  scheduled _ _ _ shut := (scheduleLocked_shuttingDown ..).trans shut
  records _ _ _ _ := id
  shutdown _ _ := rfl

theorem rebuildState_shuttingDown (state : SchedulerState) (durable : DurableState) :
    (rebuildState state durable).state.shuttingDown = state.shuttingDown := by
  let keeps (recovery : Recovery) : Prop := recovery.state.shuttingDown = state.shuttingDown
  have resources : keeps (durable.resources.foldl recoverResource (openRecovery state durable)) := by
    refine List.foldlRecOn _ _ rfl fun recovery sofar persisted _ => ?_
    obtain ⟨_, _, same, -⟩ := recoverResource_state recovery persisted
    exact (congrArg SchedulerState.shuttingDown same).trans sofar
  have requests : keeps (durable.requests.foldl recoverRequest
      (durable.resources.foldl recoverResource (openRecovery state durable))) :=
    List.foldlRecOn _ _ resources fun _ sofar _ _ => sofar
  have placements : keeps (durable.placements.foldl recoverPlacement (durable.requests.foldl recoverRequest
      (durable.resources.foldl recoverResource (openRecovery state durable)))) := by
    refine List.foldlRecOn _ _ requests fun recovery sofar persisted _ => ?_
    obtain ⟨_, _, same, -⟩ := recoverPlacement_state recovery persisted
    exact (congrArg SchedulerState.shuttingDown same).trans sofar
  exact List.foldlRecOn _ _ placements fun _ sofar _ _ => sofar

theorem Engine.step_shuttingDown (engine : Engine) (operation : Operation) :
    StaysShut engine.state (engine.step operation).1.state := by
  by_cases leaves : leavesEpoch operation
  · exact step_wideFrame staysShut_wideFrame leaves
  · cases operation with
    | adoptEpoch epoch =>
      change StaysShut engine.state (adoptEpoch engine.state engine.config epoch).1
      unfold LabScheduler.adoptEpoch
      split
      · exact id
      · exact id
    | importState durable =>
      change StaysShut engine.state (importState engine.state engine.config engine.ids durable).1
      unfold LabScheduler.importState
      split
      · exact id
      · exact (rebuildState_shuttingDown engine.state durable).trans
    | _ => exact absurd rfl leaves

/-- After a shutdown has begun, no operation of a run admits anything if and only if none commits under a new identity
    or recovers a placement or a static resource; and then the run as a whole admits nothing. -/
theorem shutdown_admits_nothing {engine : Engine} {operations : List Operation}
    (shut : (engine.step .beginShutdown).2 = .status (.ok ())) :
    (Guarded Engine.step (fun engine operation => AdmitsNothing engine.state (engine.step operation).1.state)
        (engine.step .beginShutdown).1 operations ↔
      Guarded Engine.step (fun engine operation => ¬ engine.Admits operation)
        (engine.step .beginShutdown).1 operations) ∧
    (Guarded Engine.step (fun engine operation => ¬ engine.Admits operation)
        (engine.step .beginShutdown).1 operations →
      AdmitsNothing (engine.step .beginShutdown).1.state
        ((engine.step .beginShutdown).1.runs operations).state) := by
  let closing (engine : Engine) : Prop := engine.state.shuttingDown
  have begun : closing (engine.step .beginShutdown).1 := by
    change Reply.status (beginShutdown engine.state engine.config).2 = _ at shut
    show (beginShutdown engine.state engine.config).1.shuttingDown
    unfold beginShutdown at shut ⊢
    split at shut
    · cases shut
    · rename_i open'
      rw [if_neg open']
      rfl
  constructor
  · have closes (engine : Engine) (operation : Operation) (shut : closing engine) :
        closing (engine.step operation).1 := engine.step_shuttingDown operation shut
    exact guarded_congr closes (fun engine operation shut => Engine.admitsNothing_iff shut) begun
  · intro guarded
    let holds (later : Engine) : Prop := closing later ∧ AdmitsNothing (engine.step .beginShutdown).1.state later.state
    have kept : holds ((engine.step .beginShutdown).1.runs operations) := by
      refine run_invariant (fun later operation sofar spared => ?_) guarded ⟨begun, .refl _⟩
      obtain ⟨shut, nothing⟩ := sofar
      exact ⟨later.step_shuttingDown operation shut, nothing.trans (Engine.step_admitsNothing shut spared)⟩
    exact kept.2

namespace Bench

def placedOnce : Engine := (Engine.fresh {}).runs start

def replacement : Operation := .reassignPlacement ⟨3⟩ ⟨1⟩ ⟨1⟩ []

end Bench

theorem shutdown_admits_nothing_bench :
    AdmitsNothing (Bench.placedOnce.step .beginShutdown).1.state
      ((Bench.placedOnce.step .beginShutdown).1.runs
        [.submitRequest (Bench.request 6 2), .publishResourceState Bench.advertisement]).state := by
  apply (shutdown_admits_nothing rfl).2
  refine ⟨fun admits => ?_, fun admits => ?_, trivial⟩
  · cases admits with
    | committed calls =>
      cases calls with
      | submit accepted =>
        revert accepted
        decide +kernel
  · cases admits with
    | committed calls => cases calls

/-- A reassignment after the shutdown has begun adds a placement with an active reservation. -/
theorem shutdown_reassigns :
    (Bench.placedOnce.step .beginShutdown).2 = .status (.ok ()) ∧
      (Bench.placedOnce.step .beginShutdown).1.state.placements.entries.map (·.state) = [.reserved] ∧
      (((Bench.placedOnce.step .beginShutdown).1.step Bench.replacement).1.state.placements.entries.map (·.state)) =
        [.reassignmentRequired, .reserved] ∧
      ¬ AdmitsNothing (Bench.placedOnce.step .beginShutdown).1.state
        ((Bench.placedOnce.step .beginShutdown).1.step Bench.replacement).1.state := by
  have added : ∃ placement ∈
      ((Bench.placedOnce.step .beginShutdown).1.step Bench.replacement).1.state.placements.entries,
      (Bench.placedOnce.step .beginShutdown).1.state.placements.find? placement.id = none := by decide +kernel
  refine ⟨rfl, by decide +kernel, by decide +kernel, fun nothing => ?_⟩
  obtain ⟨placement, member, absent⟩ := added
  exact nothing.placements placement member absent

end LabScheduler
