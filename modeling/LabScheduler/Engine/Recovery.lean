import LabScheduler.Engine.State
import LabScheduler.Durable

namespace LabScheduler

open Foundation

structure RecoveryReport where
  status : Status := {}
  previousEpoch : CoordinatorEpoch := {}
  currentEpoch : CoordinatorEpoch := {}
  resourcesRequiringRevalidation : List ResourceId := []
  reconciledPlacements : List AffectedPlacement := []
  revokedReservations : List ReservationId := []
  requestsPreserved : UInt32 := 0
  placementHistoryPreserved : UInt32 := 0
  detail : Text := []
  deriving DecidableEq

structure IdFloor where
  value : UInt64 := 0
  deriving DecidableEq

def IdFloor.observe {kind : IdKind} (floor : IdFloor) (id : StrongId kind) : IdFloor :=
  if floor.value < id.value then ⟨id.value⟩ else floor

/-- The locals of `import_state`, beside the scheduler state it rebuilds. -/
structure Recovery where
  state : SchedulerState
  report : RecoveryReport := {}
  floor : IdFloor := {}

def recoveredResource (epoch : CoordinatorEpoch) (persisted : ResourceRecord) : ResourceRecord :=
  let record := { persisted with reservedSlots := 0, generation := persisted.generation.bump }
  if record.worker.isNull then
    let lifecycle := if record.lifecycle = .retired then ResourceLifecycle.retired else .current
    { record with
      lifecycle := lifecycle
      dynamicAuthoritative := lifecycle == .current
      validatedEpoch := epoch
      authorityDetail := ascii "coordinator owned static resource restored as current" }
  else
    { record with
      lifecycle := if record.lifecycle = .retired then .retired else .registered
      dynamicAuthoritative := false
      validatedEpoch := {}
      authorityDetail := ascii
        "dynamic state is not authoritative until the owning worker re-registers after coordinator restart" }

/-- The worker entry a worker-owned resource brings back, unless the worker is known. -/
def recoverWorker (recovery : Recovery) (record : ResourceRecord) : Recovery :=
  match recovery.state.workers.find? record.worker with
  | some _ => recovery
  | none =>
    let sequence := recovery.state.workerSequence + 1
    let restored : WorkerRecord :=
      { id := record.worker
        boot := record.boot
        connected := false
        registrationSequence := sequence
        detail := ascii "restored from durable state; incarnation is not connected" }
    { recovery with
      state :=
        { recovery.state with
          workerSequence := sequence
          workers := recovery.state.workers.emplace restored }
      floor := (recovery.floor.observe record.worker).observe record.boot }

/-- A worker-owned resource has to be revalidated, and brings its worker back. -/
def recoverOwner (recovery : Recovery) (record : ResourceRecord) : Recovery :=
  if record.worker.isNull then recovery
  else
    recoverWorker
      { recovery with
        report :=
          { recovery.report with
            resourcesRequiringRevalidation :=
              recovery.report.resourcesRequiringRevalidation ++ [record.id] } }
      record

def recoverResource (recovery : Recovery) (persisted : ResourceRecord) : Recovery :=
  let record := recoveredResource recovery.state.epoch persisted
  let recovery := recoverOwner { recovery with floor := recovery.floor.observe record.id } record
  { recovery with state := { recovery.state with resources := recovery.state.resources.emplace record } }

def recoveredRequest (persisted : StoredRequest) : StoredRequest :=
  let stored :=
    if persisted.state = .placed then
      { persisted with
        state := .submitted
        detail := ascii "placement authority revoked by coordinator restart" }
    else persisted
  { stored with currentPlacement := {} }

def recoverRequest (recovery : Recovery) (persisted : StoredRequest) : Recovery :=
  let request := persisted.request
  { state := { recovery.state with requests := recovery.state.requests.emplace (recoveredRequest persisted) }
    report := { recovery.report with requestsPreserved := recovery.report.requestsPreserved + 1 }
    floor := (((recovery.floor.observe request.id).observe request.experiment).observe
      request.experimentGeneration).observe request.trial }

def PlacementRecord.revoke (placement : PlacementRecord) (sequence : UInt64) : PlacementRecord :=
  { placement with
    state := .reassignmentRequired
    detail := ascii "coordinator restart revoked placement authority; reassignment required"
    transitionSequence := sequence }

def recoverPlacement (recovery : Recovery) (persisted : PlacementRecord) : Recovery :=
  let floor := ((((recovery.floor.observe persisted.id).observe persisted.request).observe
    persisted.decision).observe persisted.reservation).observe persisted.lease
  let preserved := recovery.report.placementHistoryPreserved + 1
  if placementStateIsLive persisted.state then
    let sequence := recovery.state.transitionSequence + 1
    let placement := persisted.revoke sequence
    { state :=
        { recovery.state with
          transitionSequence := sequence
          placements := recovery.state.placements.emplace placement }
      report :=
        { recovery.report with
          reconciledPlacements := recovery.report.reconciledPlacements ++
            [⟨placement.id, placement.generation, placement.state, placement.detail⟩]
          placementHistoryPreserved := preserved }
      floor := floor }
  else
    { state := { recovery.state with placements := recovery.state.placements.emplace persisted }
      report := { recovery.report with placementHistoryPreserved := preserved }
      floor := floor }

def recoveredReservation (persisted : ReservationRecord) : ReservationRecord :=
  if persisted.state = .active then
    { persisted with state := .revoked, detail := ascii "revoked by coordinator restart" }
  else persisted

def recoverReservation (recovery : Recovery) (persisted : ReservationRecord) : Recovery :=
  { state :=
      { recovery.state with
        reservations := recovery.state.reservations.emplace (recoveredReservation persisted) }
    report :=
      { recovery.report with
        revokedReservations := recovery.report.revokedReservations ++
          if persisted.state = .active then [persisted.id] else [] }
    floor := ((recovery.floor.observe persisted.id).observe persisted.lease).observe persisted.placement }

def importChecks (state : SchedulerState) (durable : DurableState) : Check := do
  validateDurableState durable
  check (state.resources.isEmpty ∧ state.requests.isEmpty ∧ state.placements.isEmpty ∧
      state.reservations.isEmpty) .busy (ascii "import_state requires an empty scheduler state")

def openRecovery (state : SchedulerState) (durable : DurableState) : Recovery :=
  { state := { state with epoch := durable.epoch.bump }
    report := { previousEpoch := durable.epoch, currentEpoch := durable.epoch.bump }
    floor := ⟨durable.idCounter⟩ }

def rebuildState (state : SchedulerState) (durable : DurableState) : Recovery :=
  let recovery := durable.resources.foldl recoverResource (openRecovery state durable)
  let recovery := durable.requests.foldl recoverRequest recovery
  let recovery := durable.placements.foldl recoverPlacement recovery
  durable.reservations.foldl recoverReservation recovery

def importState (state : SchedulerState) (config : EngineConfig) (ids : IdGenerator)
    (durable : DurableState) : SchedulerState × IdGenerator × Except Status RecoveryReport :=
  match importChecks state durable with
  | .error status => (state, ids, .error status)
  | .ok () =>
    let recovery := rebuildState state durable
    let report := recovery.report
    (pushAudit recovery.state config (ascii "coordinator.recovered")
        (report.previousEpoch.toText ++ ascii " -> " ++ report.currentEpoch.toText),
      ids.observe (recovery.floor.value + 1),
      .ok { report with
        detail := ascii
          "durable state restored; coordinator epoch advanced and prior live authority revoked" })

def exportState (state : SchedulerState) (config : EngineConfig) (ids : IdGenerator) : DurableState :=
  { formatVersion := kPersistenceFormatVersion
    epoch := state.epoch
    limits := config.limits
    defaultWeights := config.defaultWeights
    idCounter := ids.counter
    resources := state.resources.entries
    requests := state.requests.entries
    placements := state.placements.entries
    reservations := state.reservations.entries }

end LabScheduler
