import LabScheduler.Engine.Candidates
import LabScheduler.Foundation.Table
import Mathlib.Data.Prod.Lex

namespace LabScheduler

open Foundation

structure EngineConfig where
  limits : Limits := {}
  defaultWeights : RankingWeights := RankingWeights.default
  idSeed : UInt64 := 1
  recordAudit : Bool := true
  candidateSort : CandidateSort := .stable

structure AuditRecord where
  sequence : UInt64 := 0
  kind : Text := []
  detail : Text := []
  deriving DecidableEq

structure AffectedPlacement where
  placement : PlacementId := {}
  generation : PlacementGeneration := {}
  state : PlacementState := .reserved
  detail : Text := []
  deriving DecidableEq

structure WorkerRecord where
  id : WorkerId := {}
  boot : WorkerBootId := {}
  connected : Bool := false
  registrationSequence : UInt64 := 0
  detail : Text := []
  deriving DecidableEq

structure ResourceLossReport where
  status : Status := {}
  worker : WorkerId := {}
  boot : WorkerBootId := {}
  incarnationAdopted : Bool := false
  invalidatedResources : List ResourceId := []
  affectedPlacements : List AffectedPlacement := []
  releasedReservations : List ReservationId := []
  detail : Text := []
  deriving DecidableEq

/-- One schedulable unit: an experiment, its generation and an optional trial. -/
structure UnitKey where
  experiment : ExperimentId := {}
  generation : ExperimentGeneration := {}
  trial : TrialId := {}
  deriving DecidableEq

def UnitKey.toLexTriple (unit : UnitKey) : ExperimentId ×ₗ (ExperimentGeneration ×ₗ TrialId) :=
  toLex (unit.experiment, toLex (unit.generation, unit.trial))

theorem UnitKey.toLexTriple_injective : Function.Injective UnitKey.toLexTriple := by
  rintro ⟨a, b, c⟩ ⟨a', b', c'⟩ same
  have split : (a, b, c) = (a', b', c') := same
  cases split
  rfl

instance : LinearOrder UnitKey := LinearOrder.lift' UnitKey.toLexTriple UnitKey.toLexTriple_injective

def ScheduleRequest.unit (request : ScheduleRequest) : UnitKey :=
  ⟨request.experiment, request.experimentGeneration, request.trial⟩

def PlacementRecord.unit (placement : PlacementRecord) : UnitKey :=
  ⟨placement.experiment, placement.experimentGeneration, placement.trial⟩

abbrev ResourceTable := Table (fun record : ResourceRecord => record.id)
theorem ResourceTable.id_of_find? {resources : ResourceTable} {id : ResourceId} {resource : ResourceRecord}
    (found : resources.find? id = some resource) : resource.id = id := by
  have same := Table.key_of_find? found
  exact same

abbrev RequestTable := Table StoredRequest.id
abbrev PlacementTable := Table PlacementRecord.id
abbrev ReservationTable := Table ReservationRecord.id
abbrev UnitTable := Table (Prod.fst : UnitKey × PlacementId → UnitKey)

structure SchedulerState where
  epoch : CoordinatorEpoch := {}
  shuttingDown : Bool := false
  workers : Table WorkerRecord.id := Table.empty
  resources : ResourceTable := Table.empty
  requests : RequestTable := Table.empty
  placements : PlacementTable := Table.empty
  reservations : ReservationTable := Table.empty
  decisions : Table Explanation.decision := Table.empty
  unitCurrent : UnitTable := Table.empty
  tenantService : Table (Prod.fst : Text × UInt64 → Text) := Table.empty
  audit : List AuditRecord := []
  auditSequence : UInt64 := 0
  requestSequence : UInt64 := 0
  placementSequence : UInt64 := 0
  transitionSequence : UInt64 := 0
  reservationSequence : UInt64 := 0
  workerSequence : UInt64 := 0

/-- The audit log keeps its last `max_audit_records` entries. -/
def appendAudit (limits : Limits) (audit : List AuditRecord) (record : AuditRecord) : List AuditRecord :=
  let audit := audit ++ [record]
  audit.drop (audit.length - limits.maxAuditRecords.toNat)

def pushAudit (state : SchedulerState) (config : EngineConfig) (kind detail : Text) : SchedulerState :=
  { state with
    auditSequence := if config.recordAudit then state.auditSequence + 1 else state.auditSequence
    audit :=
      if config.recordAudit then
        appendAudit config.limits state.audit ⟨state.auditSequence + 1, kind, detail⟩
      else state.audit }

def availableSlots (resource : ResourceRecord) : UInt32 :=
  let used := resource.advertisedOccupancy + resource.reservedSlots
  if resource.capacity.slots ≤ used then 0 else resource.capacity.slots - used

/-- The branch below the guard is the clamp of `release_reservation`. -/
def ResourceRecord.giveBack (resource : ResourceRecord) (slots : UInt32) : ResourceRecord :=
  { resource with
    reservedSlots := if slots ≤ resource.reservedSlots then resource.reservedSlots - slots else 0 }

def releaseClaim (resources : ResourceTable) (claim : ReservationClaim) : ResourceTable :=
  match resources.find? claim.resource with
  | none => resources
  | some resource => resources.set (resource.giveBack claim.slots)

theorem releaseClaim_find? (resources : ResourceTable) (claim : ReservationClaim) (id : ResourceId) :
    (releaseClaim resources claim).find? id =
      (resources.find? id).map fun resource =>
        if claim.resource = id then resource.giveBack claim.slots else resource := by
  unfold releaseClaim
  split
  · rename_i absent
    split
    · rename_i same
      rw [← same, absent]
      rfl
    · simp
  · rename_i resource found
    have same : resource.id = claim.resource := ResourceTable.id_of_find? found
    have key : (resource.giveBack claim.slots).id = claim.resource := same
    by_cases hit : claim.resource = id
    · subst hit
      rw [Table.find?_set, if_pos key, found]
      simp
    · rw [Table.find?_set_ne _ (key ▸ hit)]
      simp [hit]

/-- What a list of claims gives back to the resource `id`. -/
def ResourceRecord.giveBackAll (resource : ResourceRecord) (claims : List ReservationClaim) : ResourceRecord :=
  claims.foldl
    (fun resource claim => if claim.resource = resource.id then resource.giveBack claim.slots else resource)
    resource

theorem releaseClaims_find? (claims : List ReservationClaim) (resources : ResourceTable) (id : ResourceId) :
    (claims.foldl releaseClaim resources).find? id =
      (resources.find? id).map fun resource => resource.giveBackAll claims := by
  induction claims generalizing resources with
  | nil => simp [ResourceRecord.giveBackAll]
  | cons claim rest ih =>
    rw [List.foldl_cons, ih, releaseClaim_find?]
    cases found : resources.find? id with
    | none => rfl
    | some resource =>
      have same : resource.id = id := ResourceTable.id_of_find? found
      simp [ResourceRecord.giveBackAll, same]

theorem ResourceRecord.giveBackAll_eq (resource : ResourceRecord) (claims : List ReservationClaim) :
    resource.giveBackAll claims =
      { resource with reservedSlots := (resource.giveBackAll claims).reservedSlots } := by
  induction claims generalizing resource with
  | nil => rfl
  | cons claim rest ih =>
    unfold giveBackAll at ih ⊢
    rw [List.foldl_cons, ih]
    split <;> rfl

theorem ResourceRecord.giveBackAll_id (resource : ResourceRecord) (claims : List ReservationClaim) :
    (resource.giveBackAll claims).id = resource.id := by
  rw [giveBackAll_eq]

/-- The two tables `release_reservation` writes. The flag it returns is read by no caller. -/
def releaseReservation (state : SchedulerState) (reservation : ReservationRecord)
    (target : ReservationState) (detail : Text) : ResourceTable × ReservationTable :=
  if reservation.state ≠ .active then (state.resources, state.reservations)
  else
    (reservation.claims.foldl releaseClaim state.resources,
      state.reservations.set { reservation with state := target, detail := detail })

def revokeReservation (state : SchedulerState) (reservation : ReservationRecord) (detail : Text) :
    ResourceTable × ReservationTable :=
  releaseReservation state reservation .revoked detail

def checkEpoch (state : SchedulerState) (epoch : CoordinatorEpoch) : Check := do
  epoch.validate
  check (epoch = state.epoch) .staleEpoch
    (ascii "coordinator epoch " ++ epoch.toText ++ ascii " is not the current epoch " ++ state.epoch.toText)

def resourceSummary (resource : ResourceRecord) : Text :=
  resource.id.toText ++ ascii " " ++ resourceClassName resource.resourceClass ++ ascii " '" ++
    resource.name ++ ascii "' gen=" ++ decimalU64 resource.generation.value ++ ascii " cap=" ++
    decimalU32 resource.capacity.slots ++ ascii " occ=" ++ decimalU32 resource.totalOccupancy ++
    ascii " " ++ healthStateName resource.health ++ ascii " " ++ readinessStateName resource.readiness ++
    (if resource.dynamicAuthoritative then ascii " authoritative" else ascii " NOT_AUTHORITATIVE")

def joinComma : List Text → Text
  | [] => []
  | [last] => last
  | part :: rest => part ++ ascii "," ++ joinComma rest

def placementSummary (placement : PlacementRecord) : Text :=
  placement.id.toText ++ ascii " gen=" ++ decimalU64 placement.generation.value ++ ascii " " ++
    placementStateName placement.state ++ ascii " request=" ++ placement.request.toText ++
    ascii " resources=" ++ joinComma (placement.resources.map fun selected => selected.resource.toText)

/-- The reservation half of `terminate_placement`. -/
def closeReservation (state : SchedulerState) (placement : PlacementRecord) (target : PlacementState) :
    ResourceTable × ReservationTable :=
  match state.reservations.find? placement.reservation with
  | none => (state.resources, state.reservations)
  | some reservation =>
    match target with
    | .preempted | .reassignmentRequired | .lost => revokeReservation state reservation placement.detail
    | _ => releaseReservation state reservation .released placement.detail

/-- What `terminate_placement` makes of the reservation. -/
def closedState : PlacementState → ReservationState
  | .preempted | .reassignmentRequired | .lost => .revoked
  | .reserved | .assigned | .running | .completed | .failed | .cancelled => .released

def ReservationRecord.close (reservation : ReservationRecord) (target : PlacementState) (detail : Text) :
    ReservationRecord :=
  { reservation with state := closedState target, detail := detail }

theorem closedState_ne_active (target : PlacementState) : closedState target ≠ .active := by
  cases target <;> nofun

/-- An active reservation is closed and its claims given back; anything else stays. -/
theorem closeReservation_cases (state : SchedulerState) (placement : PlacementRecord)
    (target : PlacementState) :
    (closeReservation state placement target = (state.resources, state.reservations) ∧
        ∀ reservation, state.reservations.find? placement.reservation = some reservation →
          reservation.state ≠ .active) ∨
      ∃ reservation, state.reservations.find? placement.reservation = some reservation ∧
        reservation.state = .active ∧
        closeReservation state placement target =
          (reservation.claims.foldl releaseClaim state.resources,
            state.reservations.set (reservation.close target placement.detail)) := by
  unfold closeReservation
  split
  · rename_i absent
    exact .inl ⟨rfl, fun _ found => by simp [absent] at found⟩
  · rename_i reservation found
    by_cases active : reservation.state = .active
    · refine .inr ⟨reservation, found, active, ?_⟩
      cases target <;> simp [revokeReservation, releaseReservation, active, ReservationRecord.close, closedState]
    · refine .inl ⟨?_, fun other same => ?_⟩
      · cases target <;> simp [revokeReservation, releaseReservation, active]
      · rw [found] at same
        cases same
        exact active

/-- The state a request falls to when its current placement ends in `target`. -/
def StoredRequest.settle (stored : StoredRequest) (target : PlacementState) (detail : Text) : StoredRequest :=
  let stored := { stored with currentPlacement := {} }
  match target with
  | .completed => { stored with state := .completed, detail := detail }
  | .failed => { stored with state := .failed, detail := detail }
  | .cancelled => { stored with state := .cancelled, detail := detail }
  | .preempted | .reassignmentRequired | .lost => { stored with state := .submitted, detail := detail }
  | .reserved | .assigned | .running => stored

/-- The request half of `terminate_placement`. -/
def settleRequest (requests : RequestTable) (placement : PlacementRecord) (target : PlacementState) :
    RequestTable :=
  match requests.find? placement.request with
  | none => requests
  | some stored =>
    if stored.currentPlacement = placement.id then requests.set (stored.settle target placement.detail)
    else requests

/-- The unit half of `terminate_placement`. -/
def clearUnit (unitCurrent : UnitTable) (placement : PlacementRecord) : UnitTable :=
  match unitCurrent.find? placement.unit with
  | none => unitCurrent
  | some entry => if entry.2 = placement.id then unitCurrent.erase placement.unit else unitCurrent

def PlacementRecord.finish (placement : PlacementRecord) (target : PlacementState) (detail : Text)
    (sequence : UInt64) : PlacementRecord :=
  { placement with state := target, detail := detail, transitionSequence := sequence }

/-- `terminate_placement` past its guard. -/
def endPlacement (state : SchedulerState) (placement : PlacementRecord) (target : PlacementState)
    (detail : Text) : SchedulerState :=
  let sequence := state.transitionSequence + 1
  let ended := placement.finish target detail sequence
  let closed := closeReservation state ended target
  { state with
    transitionSequence := sequence
    placements := state.placements.set ended
    resources := closed.1
    reservations := closed.2
    requests := settleRequest state.requests ended target
    unitCurrent := clearUnit state.unitCurrent ended }

/-- `placement` is the record as it stands in the table; the record left there is returned. -/
def terminatePlacement (state : SchedulerState) (placement : PlacementRecord) (target : PlacementState)
    (detail : Text) : SchedulerState × PlacementRecord :=
  if placementStateIsLive placement.state then
    (endPlacement state placement target detail,
      placement.finish target detail (state.transitionSequence + 1))
  else (state, placement)

/-- The test by which `invalidate_worker_incarnation` picks a resource. -/
def ResourceRecord.heldBy (resource : ResourceRecord) (worker : WorkerId) (boot : WorkerBootId) : Bool :=
  resource.worker == worker && resource.boot == boot &&
    (resource.dynamicAuthoritative || resource.lifecycle == .current)

def ResourceRecord.invalidate (resource : ResourceRecord) : ResourceRecord :=
  { resource with
    dynamicAuthoritative := false
    lifecycle := .lost
    health := .unknown
    readiness := .unknown
    healthDetail := ascii "incarnation lost"
    generation := resource.generation.bump
    healthGeneration := resource.healthGeneration.bump
    capacityGeneration := resource.capacityGeneration.bump
    validatedEpoch := {}
    authorityDetail := ascii "incarnation lost; fresh registration required" }

def ResourceRecord.loseIncarnation (worker : WorkerId) (boot : WorkerBootId) (resource : ResourceRecord) :
    ResourceRecord :=
  if resource.heldBy worker boot then resource.invalidate else resource

theorem ResourceRecord.loseIncarnation_id (worker : WorkerId) (boot : WorkerBootId)
    (resource : ResourceRecord) : (resource.loseIncarnation worker boot).id = resource.id := by
  unfold loseIncarnation
  split <;> rfl

def PlacementRecord.touches (placement : PlacementRecord) (worker : WorkerId) (boot : WorkerBootId)
    (affected : List ResourceId) : Bool :=
  (placement.worker == worker && placement.workerBoot == boot) ||
    placement.resources.any fun selected => affected.contains selected.resource

/-- One turn of the placement loop of `invalidate_worker_incarnation`. -/
def losePlacement (worker : WorkerId) (boot : WorkerBootId) (affected : List ResourceId)
    (progress : SchedulerState × ResourceLossReport) (id : PlacementId) :
    SchedulerState × ResourceLossReport :=
  match progress.1.placements.find? id with
  | none => progress
  | some placement =>
    if placementStateIsLive placement.state && placement.touches worker boot affected then
      let (state, ended) := terminatePlacement progress.1 placement .reassignmentRequired
        (ascii "resource incarnation lost; reassignment required")
      let revoked :=
        match state.reservations.find? placement.reservation with
        | none => []
        | some reservation => if reservation.state = .revoked then [placement.reservation] else []
      (state,
        { progress.2 with
          affectedPlacements :=
            progress.2.affectedPlacements ++ [⟨ended.id, ended.generation, ended.state, ended.detail⟩]
          releasedReservations := progress.2.releasedReservations ++ revoked })
    else progress

def disconnectWorker (state : SchedulerState) (worker : WorkerId) (boot : WorkerBootId) (detail : Text) :
    SchedulerState :=
  match state.workers.find? worker with
  | none => state
  | some record =>
    if record.boot = boot then
      { state with workers := state.workers.set { record with connected := false, detail := detail } }
    else state

/-- The resource loop of `invalidate_worker_incarnation`. -/
def invalidateResources (state : SchedulerState) (worker : WorkerId) (boot : WorkerBootId) :
    SchedulerState :=
  { state with
    resources := state.resources.mapEntries (ResourceRecord.loseIncarnation worker boot)
      (ResourceRecord.loseIncarnation_id worker boot) }

def invalidateWorkerIncarnation (state : SchedulerState) (config : EngineConfig) (worker : WorkerId)
    (boot : WorkerBootId) (detail : Text) : SchedulerState × ResourceLossReport :=
  let affected := (state.resources.entries.filter fun resource => resource.heldBy worker boot).map
    fun resource => resource.id
  let report : ResourceLossReport :=
    { worker := worker, boot := boot, detail := detail, invalidatedResources := affected }
  let (state, report) := state.placements.keys.foldl (losePlacement worker boot affected)
    (invalidateResources state worker boot, report)
  let state := disconnectWorker state worker boot detail
  (pushAudit state config (ascii "worker.incarnation_invalidated")
    (worker.toText ++ ascii " boot=" ++ boot.toText ++ ascii " " ++ detail), report)

def enterIncarnation (state : SchedulerState) (worker : WorkerId) (boot : WorkerBootId) : SchedulerState :=
  let sequence := state.workerSequence + 1
  match state.workers.find? worker with
  | none => state
  | some record =>
    { state with
      workerSequence := sequence
      workers := state.workers.set
        { record with
          boot := boot
          connected := true
          registrationSequence := sequence
          detail := ascii "new incarnation adopted" } }

def adoptWorkerIncarnation (state : SchedulerState) (config : EngineConfig) (worker : WorkerId)
    (boot : WorkerBootId) (detail : Text) : SchedulerState × ResourceLossReport :=
  match state.workers.find? worker with
  | none =>
    let sequence := state.workerSequence + 1
    let record : WorkerRecord :=
      { id := worker, boot := boot, connected := true, registrationSequence := sequence
        detail := ascii "first incarnation observed by this coordinator" }
    let state := { state with workerSequence := sequence, workers := state.workers.emplace record }
    (pushAudit state config (ascii "worker.connected")
        (worker.toText ++ ascii " boot=" ++ boot.toText ++ ascii " (first incarnation)"),
      { worker := worker, boot := boot, incarnationAdopted := true
        detail := ascii "first incarnation observed by this coordinator" })
  | some record =>
    if record.boot = boot then
      ({ state with workers := state.workers.set { record with connected := true, detail := detail } },
        { worker := worker, boot := boot, detail := detail })
    else
      let lost := invalidateWorkerIncarnation state config worker record.boot detail
      (pushAudit (enterIncarnation lost.1 worker boot) config (ascii "worker.reincarnated")
          (worker.toText ++ ascii " boot=" ++ boot.toText ++ ascii " replaced boot=" ++ record.boot.toText),
        { lost.2 with incarnationAdopted := true })

end LabScheduler
