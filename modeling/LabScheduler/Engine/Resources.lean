import LabScheduler.Engine.State

namespace LabScheduler

open Foundation

def copyAdvertisement (source : ResourceAdvertisement) (target : ResourceRecord) : ResourceRecord :=
  { target with toDescription := source }

def registerChecks (state : SchedulerState) (config : EngineConfig) (advertisement : ResourceAdvertisement) :
    Check := do
  validateAdvertisement advertisement config.limits
  check (state.shuttingDown = false) .shuttingDown (ascii "coordinator is shutting down")
  check (state.resources.size < config.limits.maxResources.toNat) .resourceExhausted
    (ascii "resource registry has reached its configured bound")
  check (state.resources.find? advertisement.id = none) .duplicateIdentity
    (ascii "resource is already registered: " ++ advertisement.id.toText)

/-- Adoption before a registration: a resource without a worker has no incarnation. -/
def adoptOwner (state : SchedulerState) (config : EngineConfig) (advertisement : ResourceAdvertisement) :
    SchedulerState :=
  if advertisement.worker.isNull then state
  else
    (adoptWorkerIncarnation state config advertisement.worker advertisement.boot
      (ascii "resource registration")).1

def registeredRecord (epoch : CoordinatorEpoch) (advertisement : ResourceAdvertisement) : ResourceRecord :=
  { copyAdvertisement advertisement {} with
    lifecycle := .current
    generation := ⟨1⟩
    healthGeneration := ⟨1⟩
    capacityGeneration := ⟨1⟩
    stateSequence := 1
    validatedEpoch := epoch
    dynamicAuthoritative := true
    authorityDetail := ascii "registered in coordinator epoch " ++ epoch.toText
    reservedSlots := 0 }

def registerResource (state : SchedulerState) (config : EngineConfig)
    (advertisement : ResourceAdvertisement) : SchedulerState × Except Status ResourceRecord :=
  match registerChecks state config advertisement with
  | .error status => (state, .error status)
  | .ok () =>
    let advertisement := normalizeAdvertisement advertisement
    let state := adoptOwner state config advertisement
    let record := registeredRecord state.epoch advertisement
    match validateResourceRecord record config.limits with
    | .error status => (state, .error status)
    | .ok () =>
      let state := { state with resources := state.resources.emplace record }
      (pushAudit state config (ascii "resource.registered") (resourceSummary record), .ok record)

def publishChecks (state : SchedulerState) (config : EngineConfig) (advertisement : ResourceAdvertisement) :
    Except Status ResourceRecord := do
  validateAdvertisement advertisement config.limits
  check (state.shuttingDown = false) .shuttingDown (ascii "coordinator is shutting down")
  match state.resources.find? advertisement.id with
  | none => fail .notFound (ascii "unknown resource: " ++ advertisement.id.toText)
  | some record => do
    check (record.worker = advertisement.worker) .unauthorized
      (ascii "resource " ++ record.id.toText ++ ascii " is owned by a different worker")
    check (record.lifecycle ≠ .retired) .unauthorized
      (ascii "resource is retired and no longer accepts advertisements: " ++ record.id.toText)
    return record

/-- A publication from another boot than the record's goes through adoption first. -/
def adoptPublisher (state : SchedulerState) (config : EngineConfig) (advertisement : ResourceAdvertisement)
    (record : ResourceRecord) : SchedulerState :=
  if record.worker.isNull = false ∧ record.boot ≠ advertisement.boot then
    (adoptWorkerIncarnation state config advertisement.worker advertisement.boot
      (ascii "resource state publication")).1
  else state

def publishLiveChecks (advertisement : ResourceAdvertisement) (live : ResourceRecord) : Check := do
  check (live.resourceClass = advertisement.resourceClass) .invalidArgument
    (ascii "resource class cannot change after registration")
  check (live.reservedSlots ≤ advertisement.capacity.slots) .capacityExhausted
    (ascii "advertised capacity would invalidate active reservations on " ++ live.id.toText)
  check (advertisement.advertisedOccupancy.toUInt64 + live.reservedSlots.toUInt64 ≤
      advertisement.capacity.slots.toUInt64) .capacityExhausted
    (ascii "advertised occupancy plus active reservations exceeds capacity on " ++ live.id.toText)

def publishedRecord (epoch : CoordinatorEpoch) (advertisement : ResourceAdvertisement)
    (live : ResourceRecord) : ResourceRecord :=
  { copyAdvertisement advertisement live with
    lifecycle := .current
    generation := live.generation.bump
    stateSequence := live.stateSequence + 1
    validatedEpoch := epoch
    dynamicAuthoritative := true
    authorityDetail := ascii "state published in coordinator epoch " ++ epoch.toText
    capacityGeneration :=
      if live.capacity = advertisement.capacity then live.capacityGeneration
      else live.capacityGeneration.bump
    healthGeneration :=
      if live.health = advertisement.health ∧ live.readiness = advertisement.readiness then
        live.healthGeneration
      else live.healthGeneration.bump }

def publishResourceState (state : SchedulerState) (config : EngineConfig)
    (advertisement : ResourceAdvertisement) : SchedulerState × Except Status ResourceRecord :=
  match publishChecks state config advertisement with
  | .error status => (state, .error status)
  | .ok record =>
    let advertisement := normalizeAdvertisement advertisement
    let state := adoptPublisher state config advertisement record
    match state.resources.find? advertisement.id with
    | none => (state, fail .internalError (ascii "resource disappeared during incarnation adoption"))
    | some live =>
      match publishLiveChecks advertisement live with
      | .error status => (state, .error status)
      | .ok () =>
        -- The record is written before `validate_resource_record` sees it.
        let published := publishedRecord state.epoch advertisement live
        let state := { state with resources := state.resources.set published }
        match validateResourceRecord published config.limits with
        | .error status => (state, .error status)
        | .ok () =>
          (pushAudit state config (ascii "resource.published") (resourceSummary published), .ok published)

def retireChecks (state : SchedulerState) (resource : ResourceId) (expectedGeneration : ResourceGeneration) :
    Except Status ResourceRecord := do
  resource.validate
  match state.resources.find? resource with
  | none => fail .notFound (ascii "unknown resource: " ++ resource.toText)
  | some record => do
    check (expectedGeneration.isNull ∨ record.generation = expectedGeneration) .staleResource
      (ascii "resource generation " ++ expectedGeneration.toText ++
        ascii " is not the current generation " ++ record.generation.toText)
    check (record.reservedSlots = 0) .reservationConflict
      (ascii "resource still holds reserved capacity: " ++ record.id.toText)
    return record

def ResourceRecord.retire (record : ResourceRecord) : ResourceRecord :=
  { record with
    lifecycle := .retired
    dynamicAuthoritative := false
    generation := record.generation.bump
    validatedEpoch := {}
    authorityDetail := ascii "retired" }

def retireResource (state : SchedulerState) (config : EngineConfig) (resource : ResourceId)
    (expectedGeneration : ResourceGeneration) : SchedulerState × Except Status ResourceRecord :=
  match retireChecks state resource expectedGeneration with
  | .error status => (state, .error status)
  | .ok record =>
    let retired := record.retire
    let state := { state with resources := state.resources.set retired }
    (pushAudit state config (ascii "resource.retired") (resourceSummary retired), .ok retired)

def workerChecks (worker : WorkerId) (boot : WorkerBootId) : Check := do
  worker.validate
  boot.validate

def workerConnected (state : SchedulerState) (config : EngineConfig) (worker : WorkerId)
    (boot : WorkerBootId) : SchedulerState × ResourceLossReport :=
  match workerChecks worker boot with
  | .error status => (state, { status := status })
  | .ok () => adoptWorkerIncarnation state config worker boot (ascii "worker connected")

def lostChecks (state : SchedulerState) (worker : WorkerId) (boot : WorkerBootId) : Check := do
  workerChecks worker boot
  match state.workers.find? worker with
  | none => fail .notFound (ascii "unknown worker: " ++ worker.toText)
  | some record =>
    check (record.boot = boot) .staleWorker
      (ascii "worker " ++ worker.toText ++ ascii " boot=" ++ boot.toText ++
        ascii " is not the current incarnation")

def markWorkerLost (state : SchedulerState) (config : EngineConfig) (worker : WorkerId)
    (boot : WorkerBootId) (detail : Text) : SchedulerState × ResourceLossReport :=
  match lostChecks state worker boot with
  | .error status => (state, { status := status })
  | .ok () => invalidateWorkerIncarnation state config worker boot detail

def workerDisconnected (state : SchedulerState) (config : EngineConfig) (worker : WorkerId)
    (boot : WorkerBootId) (detail : Text) : SchedulerState × ResourceLossReport :=
  markWorkerLost state config worker boot detail

def adoptEpochChecks (state : SchedulerState) (epoch : CoordinatorEpoch) : Check := do
  epoch.validate
  check (state.epoch < epoch) .generationMismatch
    (ascii "refusing to adopt epoch " ++ epoch.toText ++
      ascii " that does not advance the current epoch " ++ state.epoch.toText)

def adoptEpoch (state : SchedulerState) (config : EngineConfig) (epoch : CoordinatorEpoch) :
    SchedulerState × Check :=
  match adoptEpochChecks state epoch with
  | .error status => (state, .error status)
  | .ok () => (pushAudit { state with epoch := epoch } config (ascii "epoch.adopted") epoch.toText, .ok ())

def beginShutdown (state : SchedulerState) (config : EngineConfig) : SchedulerState × Check :=
  if state.shuttingDown then
    (state, fail .shuttingDown (ascii "coordinator is already shutting down"))
  else
    (pushAudit { state with shuttingDown := true } config (ascii "coordinator.shutdown")
      (ascii "scheduler entered shutdown"), .ok ())

end LabScheduler
