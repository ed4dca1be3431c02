import LabScheduler.Engine.Calls
import LabScheduler.Engine.Commit
import LabScheduler.Engine.Rebuilt

namespace LabScheduler

open Foundation

theorem Change.workers {state after : SchedulerState} (change : Change state after) : KeepsWorkers state after := by
  cases change with
  | books _ _ _ _ _ workers => exact workers
  | invalidate => exact .same rfl
  | retire => exact .same rfl
  | finish => exact .same rfl
  | mark => exact .same rfl
  | complete => exact .same rfl

/-- The incarnations a call of `mark_worker_lost` reports as lost. -/
def Engine.reportedLost (engine : Engine) : Operation → List Incarnation
  | .markWorkerLost worker boot detail | .workerDisconnected worker boot detail =>
    if (markWorkerLost engine.state engine.config worker boot detail).2.status.code = .ok then [(worker, boot)] else []
  | _ => []

/-- The incarnations of the worker table in whose place the operation adopts another. -/
def Engine.replaced (engine : Engine) (operation : Operation) : List Incarnation :=
  let taken (record : WorkerRecord) : Bool :=
    ((engine.step operation).1.state.workers.find? record.id).any fun later => later.boot != record.boot
  (engine.state.workers.entries.filter taken).map fun record => (record.id, record.boot)

/-- An engine, and the incarnations that have ended in its run. -/
structure Watch where
  engine : Engine
  dead : List Incarnation := []

namespace Watch

def fresh (config : EngineConfig) : Watch := { engine := .fresh config }

def step (watch : Watch) (operation : Operation) : Watch × Reply :=
  ({ engine := (watch.engine.step operation).1
     dead := watch.dead ++ watch.engine.reportedLost operation ++ watch.engine.replaced operation },
    (watch.engine.step operation).2)

abbrev runs (watch : Watch) (operations : List Operation) : Watch := run step watch operations

theorem runs_engine (watch : Watch) (operations : List Operation) :
    (watch.runs operations).engine = watch.engine.runs operations :=
  run_project (fun _ _ => rfl) watch operations

/-- No registration and no publication that passes its checks carries an incarnation that has ended. -/
def RefusesDead (watch : Watch) : Operation → Prop
  | .registerResource advertisement =>
    ∀ mid record, Registers watch.engine.state watch.engine.config advertisement mid record →
      (advertisement.worker, advertisement.boot) ∉ watch.dead
  | .publishResourceState advertisement =>
    ∀ mid live, Publishes watch.engine.state watch.engine.config advertisement mid live →
      (advertisement.worker, advertisement.boot) ∉ watch.dead
  | _ => True

end Watch

/-- What has ended is silent, also what was replaced since `start`. -/
structure Buried (dead : List Incarnation) (start state : SchedulerState) : Prop where
  silent : ∀ incarnation ∈ dead, incarnation.1.isNull = false ∧ Silent state incarnation
  workers : KeepsWorkers start state

namespace Buried

variable {dead : List Incarnation} {start state after : SchedulerState}

theorem quieten (buried : Buried dead start state) (workers : KeepsWorkers state after)
    (quieter : ∀ {incarnation}, Silent state incarnation → Silent after incarnation) : Buried dead start after := by
  constructor
  · intro incarnation ended
    obtain ⟨named, silent⟩ := buried.silent incarnation ended
    exact ⟨named, quieter silent⟩
  · constructor
    intro id record found
    obtain ⟨mid, there, kept⟩ := buried.workers.stays found
    obtain ⟨later, here, stays⟩ := workers.stays there
    refine ⟨later, here, ?_⟩
    rcases kept with boot | ⟨named, silent⟩
    · rw [boot] at stays
      exact stays
    · exact .inr ⟨named, quieter silent⟩

theorem change (change : Change state after) (buried : Buried dead start state) : Buried dead start after :=
  buried.quieten change.workers (Changes.silent (.single change))

theorem write (write : RequestWrite state after) (buried : Buried dead start state) : Buried dead start after := by
  cases write <;> exact buried.quieten (.same rfl) fun silent => silent

end Buried

theorem enterIncarnation_boot {state : SchedulerState} {worker : WorkerId} {record : WorkerRecord}
    (boot : WorkerBootId) (found : state.workers.find? worker = some record) :
    ∃ entered, (enterIncarnation state worker boot).workers.find? worker = some entered ∧ entered.boot = boot := by
  let entered : WorkerRecord :=
    { record with
      boot := boot
      connected := true
      registrationSequence := state.workerSequence + 1
      detail := ascii "new incarnation adopted" }
  have named : record.id = worker := Table.key_of_find? found
  have key : entered.id = worker := named
  refine ⟨entered, ?_, rfl⟩
  simp only [enterIncarnation, found]
  change (state.workers.set entered).find? worker = some entered
  rw [Table.find?_set]
  exact if_pos key

theorem adoptWorkerIncarnation_boot (state : SchedulerState) (config : EngineConfig) (worker : WorkerId)
    (boot : WorkerBootId) (detail : Text) :
    ∃ record, (adoptWorkerIncarnation state config worker boot detail).1.workers.find? worker = some record ∧
      record.boot = boot := by
  unfold adoptWorkerIncarnation
  split
  · rename_i absent
    let first : WorkerRecord :=
      { id := worker
        boot := boot
        connected := true
        registrationSequence := state.workerSequence + 1
        detail := ascii "first incarnation observed by this coordinator" }
    refine ⟨first, ?_, rfl⟩
    change (state.workers.emplace first).find? worker = some first
    have key : first.id = worker := rfl
    rw [Table.find?_emplace, absent]
    exact if_pos key
  · rename_i record found
    have key : record.id = worker := Table.key_of_find? found
    split
    · rename_i same
      refine ⟨{ record with connected := true, detail := detail }, ?_, same⟩
      have written : ({ record with connected := true, detail := detail } : WorkerRecord).id = worker := key
      exact (Table.find?_set ..).trans (if_pos written)
    · obtain ⟨later, there, -⟩ := invalidateWorkerIncarnation_boot config record.boot detail found
      exact enterIncarnation_boot boot there

/-- The table of workers that a message of an incarnation is accepted with. -/
def Speaks (start mid : SchedulerState) (incarnation : Incarnation) : Prop :=
  mid.workers = start.workers ∨
    ∃ record, mid.workers.find? incarnation.1 = some record ∧ record.boot = incarnation.2

theorem Registers.speaks {state mid : SchedulerState} {config : EngineConfig}
    {advertisement : ResourceAdvertisement} {record : ResourceRecord}
    (registers : Registers state config advertisement mid record) :
    Speaks state mid (advertisement.worker, advertisement.boot) := by
  rw [registers.adopted]
  unfold adoptOwner
  split
  · exact .inl rfl
  · exact .inr (adoptWorkerIncarnation_boot ..)

theorem Publishes.speaks {state mid : SchedulerState} {config : EngineConfig}
    {advertisement : ResourceAdvertisement} {live : ResourceRecord}
    (publishes : Publishes state config advertisement mid live) :
    Speaks state mid (advertisement.worker, advertisement.boot) := by
  obtain ⟨record, -, rfl⟩ := publishes.adopted
  unfold adoptPublisher
  split
  · exact .inr (adoptWorkerIncarnation_boot ..)
  · exact .inl rfl

namespace Buried

variable {dead : List Incarnation} {start state after : SchedulerState}

theorem admitted {incarnation : Incarnation} (buried : Buried dead start state)
    (speaks : Speaks start state incarnation) (alive : incarnation ∉ dead) (workers : after.workers = state.workers)
    (resources : ∀ resource ∈ after.resources.entries,
      (resource.worker, resource.boot) = incarnation ∨ resource ∈ state.resources.entries) :
    Buried dead start after := by
  have quiet {other : Incarnation} (silent : Silent state other) (differs : incarnation ≠ other) :
      Silent after other := by
    intro resource member owner boot
    rcases resources resource member with own | there
    · have same : (resource.worker, resource.boot) = other := Prod.ext owner boot
      exact absurd (own.symm.trans same) differs
    · exact silent resource there owner boot
  constructor
  · intro other ended
    obtain ⟨named, silent⟩ := buried.silent other ended
    have differs : incarnation ≠ other := by
      intro same
      exact alive (same ▸ ended)
    exact ⟨named, quiet silent differs⟩
  · rcases speaks with same | ⟨current, there, boot⟩
    · exact .same (workers.trans same)
    · constructor
      intro id record found
      obtain ⟨later, here, stays⟩ := buried.workers.stays found
      rw [workers]
      refine ⟨later, here, ?_⟩
      by_cases kept : later.boot = record.boot
      · exact .inl kept
      · obtain ⟨named, silent⟩ := stays.resolve_left kept
        refine .inr ⟨named, quiet silent ?_⟩
        intro same
        have worker : incarnation.1 = id := congrArg Prod.fst same
        rw [worker, here] at there
        cases there
        exact kept (boot.trans (congrArg Prod.snd same))

theorem booked {turns : List (CandidateResource × ResourceRequirement)} {selected : List SelectedResource}
    {claims : List ReservationClaim} (booked : Booked state.resources turns after.resources selected claims)
    (workers : after.workers = state.workers) (buried : Buried dead start state) : Buried dead start after := by
  refine buried.quieten (.same workers) fun {incarnation} silent resource member owner boot => ?_
  obtain ⟨before, there, reserved, rfl⟩ := booked.of_mem member
  exact silent before there owner boot

theorem scheduled {config : EngineConfig} {ids : IdGenerator} {stored : StoredRequest}
    {generation : PlacementGeneration} {reassignments : UInt32} {scheduled : Scheduled}
    (result : ScheduleResult state config ids stored generation reassignments scheduled)
    (buried : Buried dead start state) : Buried dead start scheduled.state := by
  cases result with
  | noPlacement => exact buried.quieten (.same rfl) fun silent => silent
  | refused => exact buried
  | @broken selection resources status chosen loop =>
    obtain ⟨_, _, _, _, -, booked⟩ := commitLoop_error loop
    exact .booked booked rfl buried
  | placed chosen loop committed decided room resources_after requests_after placements_after reservations_after
      unitCurrent_after workers_after =>
    have booked := commitLoop_ok loop
    rw [← resources_after] at booked
    exact .booked booked workers_after buried

theorem recover {durable : DurableState} (rebuilt : Rebuilt durable start after)
    (ended : ∀ incarnation ∈ dead, incarnation.1.isNull = false) : Buried dead start after := by
  constructor
  · intro incarnation member
    refine ⟨ended incarnation member, fun resource there owner boot => ?_⟩
    obtain ⟨persisted, -, rfl⟩ := rebuilt.resources resource there
    have named : persisted.worker.isNull = false := by
      rw [← recoveredResource_worker durable.epoch.bump persisted, owner]
      exact ended incarnation member
    simp only [recoveredResource, named, Bool.false_eq_true, if_false]
  · constructor
    intro id record found
    obtain ⟨later, there, rfl⟩ := rebuilt.workers.later found
    exact ⟨record, there, .inl rfl⟩

end Buried

namespace Buried

variable {watch : Watch} {operation : Operation}

theorem step (buried : Buried watch.dead watch.engine.state watch.engine.state)
    (refuses : watch.RefusesDead operation) :
    Buried watch.dead watch.engine.state (watch.engine.step operation).1.state := by
  have ended incarnation member := (buried.silent incarnation member).1
  refine Engine.step_preserves Buried.change Buried.write ?_ ?_ ?_ ?_ buried
  · intro advertisement mid record same registers buried
    subst same
    refine buried.admitted registers.speaks (refuses mid record registers) rfl fun resource member => ?_
    rcases Table.mem_emplace member with rfl | there
    · rw [registers.made]
      exact .inl rfl
    · exact .inr there
  · intro advertisement mid live same publishes buried
    subst same
    refine buried.admitted publishes.speaks (refuses mid live publishes) rfl fun resource member => ?_
    rcases Table.mem_set.mp member with rfl | ⟨there, -⟩
    · exact .inl rfl
    · exact .inr there
  · intro call calls buried
    exact buried.scheduled scheduleLocked_result
  · intro durable same accepted
    exact .recover (rebuildState_rebuilt accepted) ended

end Buried

theorem lostChecks_code {state : SchedulerState} {worker : WorkerId} {boot : WorkerBootId} {status : Status}
    (refused : lostChecks state worker boot = .error status) : status.code ≠ .ok := by
  have code : status.code = .invalidIdentity ∨ status.code = .notFound ∨ status.code = .staleWorker := by
    rcases check_bind_error refused with unnamed | unknown
    · rcases check_bind_error unnamed with worker | boot
      · exact .inl (check_code worker)
      · exact .inl (check_code boot)
    · split at unknown
      · cases unknown
        exact .inr (.inl rfl)
      · exact .inr (.inr (check_code unknown))
  intro ok
  rw [ok] at code
  simp at code

theorem invalidateWorkerIncarnation_status (state : SchedulerState) (config : EngineConfig) (worker : WorkerId)
    (boot : WorkerBootId) (detail : Text) :
    (invalidateWorkerIncarnation state config worker boot detail).2.status.code = .ok := by
  have reported (affected : List ResourceId) (progress : SchedulerState × ResourceLossReport)
      (ids : List PlacementId) :
      (ids.foldl (losePlacement worker boot affected) progress).2.status = progress.2.status := by
    induction ids generalizing progress with
    | nil => rfl
    | cons id rest ih =>
      rw [List.foldl_cons, ih]
      unfold losePlacement
      split
      · rfl
      · split <;> rfl
  simp only [invalidateWorkerIncarnation, reported]

theorem markWorkerLost_reported (state : SchedulerState) (config : EngineConfig) (worker : WorkerId)
    (boot : WorkerBootId) (detail : Text) :
    (markWorkerLost state config worker boot detail).2.status.code = .ok ↔ lostChecks state worker boot = .ok () := by
  unfold markWorkerLost
  split
  · rename_i refused
    simp [refused, lostChecks_code refused]
  · rename_i accepted
    simp [accepted, invalidateWorkerIncarnation_status]

theorem markWorkerLost_silent {state : SchedulerState} {config : EngineConfig} {worker : WorkerId}
    {boot : WorkerBootId} {detail : Text}
    (reported : (markWorkerLost state config worker boot detail).2.status.code = .ok) :
    worker.isNull = false ∧ Silent (markWorkerLost state config worker boot detail).1 (worker, boot) := by
  unfold markWorkerLost at reported ⊢
  cases checked : lostChecks state worker boot with
  | error status =>
    rw [checked] at reported
    exact absurd reported (lostChecks_code checked)
  | ok =>
    unfold lostChecks at checked
    simp only [check_bind_ok] at checked
    exact ⟨workerChecks_ok checked.1, invalidateWorkerIncarnation_silent state config worker boot detail⟩

theorem Engine.reportedLost_silent {engine : Engine} {operation : Operation} {incarnation : Incarnation}
    (member : incarnation ∈ engine.reportedLost operation) :
    incarnation.1.isNull = false ∧ Silent (engine.step operation).1.state incarnation := by
  have lost {worker : WorkerId} {boot : WorkerBootId} {detail : Text}
      (member : incarnation ∈ if (markWorkerLost engine.state engine.config worker boot detail).2.status.code = .ok
        then [(worker, boot)] else []) :
      incarnation.1.isNull = false ∧
        Silent (markWorkerLost engine.state engine.config worker boot detail).1 incarnation := by
    split at member
    · rename_i reported
      cases List.mem_singleton.mp member
      exact markWorkerLost_silent reported
    · cases member
  cases operation with
  | markWorkerLost => exact lost member
  | workerDisconnected => exact lost member
  | _ => cases member

namespace Watch

variable {watch : Watch} {operation : Operation}

theorem replaced_silent {start after : SchedulerState} (workers : KeepsWorkers start after)
    {record later : WorkerRecord} (member : record ∈ start.workers.entries)
    (found : after.workers.find? record.id = some later) (differs : later.boot ≠ record.boot) :
    record.id.isNull = false ∧ Silent after (record.id, record.boot) := by
  obtain ⟨current, there, stays⟩ := workers.stays (Table.find?_of_mem member)
  rw [found] at there
  cases there
  exact stays.resolve_left differs

theorem step_buried (buried : Buried watch.dead watch.engine.state watch.engine.state)
    (refuses : watch.RefusesDead operation) :
    Buried (watch.step operation).1.dead (watch.step operation).1.engine.state (watch.step operation).1.engine.state := by
  have after := Buried.step buried refuses
  refine ⟨fun incarnation member => ?_, .same rfl⟩
  rcases List.mem_append.mp member with earlier | replaced
  · rcases List.mem_append.mp earlier with dead | lost
    · exact after.silent incarnation dead
    · exact Engine.reportedLost_silent lost
  · obtain ⟨record, kept, rfl⟩ := List.mem_map.mp replaced
    obtain ⟨there, taken⟩ := List.mem_filter.mp kept
    obtain ⟨later, found, differs⟩ := (Option.any_eq_true ..).mp taken
    exact replaced_silent after.workers there found (by simpa using differs)

theorem runs_buried {config : EngineConfig} {operations : List Operation}
    (guarded : Guarded step RefusesDead (fresh config) operations) :
    Buried ((fresh config).runs operations).dead ((fresh config).runs operations).engine.state
      ((fresh config).runs operations).engine.state := by
  let holds (watch : Watch) : Prop := Buried watch.dead watch.engine.state watch.engine.state
  have initial : holds (fresh config) := ⟨nofun, .same rfl⟩
  have kept : holds ((fresh config).runs operations) :=
    run_invariant (fun watch operation sofar refuses => step_buried sofar refuses) guarded initial
  exact kept

end Watch

/-- An incarnation that was reported lost, or in whose place another was adopted, is authoritative for
    nothing ever after, as long as the checks let none of its registrations and publications through. -/
theorem dead_incarnations_silent {config : EngineConfig} {operations : List Operation}
    (guarded : Guarded Watch.step Watch.RefusesDead (Watch.fresh config) operations) :
    ∀ incarnation ∈ ((Watch.fresh config).runs operations).dead,
      Silent ((Engine.fresh config).runs operations).state incarnation := by
  intro incarnation dead
  have buried := Watch.runs_buried guarded
  rw [Watch.runs_engine] at buried
  exact (buried.silent incarnation dead).2

def Bench.owned (boot : UInt64) : ResourceAdvertisement :=
  { Bench.advertisement with worker := ⟨21⟩, boot := ⟨boot⟩ }

def Bench.restarted : List Operation := [.registerResource (Bench.owned 1), .workerConnected ⟨21⟩ ⟨2⟩]

theorem dead_incarnations_silent_bench :
    ∃ incarnation ∈ ((Watch.fresh {}).runs Bench.restarted).dead,
      Silent ((Engine.fresh {}).runs Bench.restarted).state incarnation := by
  have silent := @dead_incarnations_silent {} Bench.restarted ⟨fun _ _ _ => List.not_mem_nil, trivial, trivial⟩
  have dead : ((Watch.fresh {}).runs Bench.restarted).dead ≠ [] := by decide
  obtain ⟨incarnation, member⟩ := List.exists_mem_of_ne_nil _ dead
  exact ⟨incarnation, member, silent incarnation member⟩

/-- The record still carries the old boot identity, and a publication under it is taken for a current one. -/
theorem stale_publication_restores_authority :
    let operations := Bench.restarted ++ [.publishResourceState (Bench.owned 1)]
    ¬ ∀ incarnation ∈ ((Watch.fresh {}).runs operations).dead,
      Silent ((Engine.fresh {}).runs operations).state incarnation := by
  decide

end LabScheduler
