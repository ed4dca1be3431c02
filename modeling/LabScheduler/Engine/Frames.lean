import LabScheduler.Engine.Calls
import LabScheduler.Engine.Commit

namespace LabScheduler

open Foundation

/-- A relation between states that no write but one to the resource records, to the workers or to the epoch breaks. -/
structure Frame (R : SchedulerState → SchedulerState → Prop) : Prop where
  refl : ∀ state, R state state
  trans : ∀ {a b c}, R a b → R b c → R a c
  audit : ∀ state config kind detail, R state (pushAudit state config kind detail)
  ended : ∀ state placement {target} detail, placementStateIsLive target = false →
    R state (endPlacement state placement target detail)
  marked : ∀ state {placement} target detail, state.placements.find? placement.id = some placement →
    placementStateIsLive placement.state → R state (markPlacement state placement target detail).1
  completed : ∀ state (placement : PlacementRecord) {target} note detail, placementStateIsLive target = false →
    R state (endPlacement { state with placements := state.placements.set (placement.recordCompletion note) }
      (placement.recordCompletion note) target detail)
  requests : ∀ state requests sequence, R state { state with requests := requests, requestSequence := sequence }
  scheduled : ∀ (call : SchedulingCall) config ids, R call.state (call.scheduled config ids).state

namespace Frame

variable {R : SchedulerState → SchedulerState → Prop} (frame : Frame R) (state : SchedulerState) (config : EngineConfig)

include frame

theorem terminate (placement : PlacementRecord) {target : PlacementState} (detail : Text)
    (closed : placementStateIsLive target = false) : R state (terminatePlacement state placement target detail).1 := by
  unfold terminatePlacement
  split
  · exact frame.ended state placement detail closed
  · exact frame.refl state

theorem mark {record : PlacementRecord} (target : PlacementState) (detail kind summary : Text)
    (found : state.placements.find? record.id = some record) (live : placementStateIsLive record.state) :
    R state (pushAudit (markPlacement state record target detail).1 config kind summary) := by
  have marked : R state (markPlacement state record target detail).1 := frame.marked state target detail found live
  exact frame.trans marked (frame.audit ..)

theorem markAssigned (placement : PlacementId) (generation : PlacementGeneration) (epoch : CoordinatorEpoch)
    (boot : WorkerBootId) : R state (markAssigned state config placement generation epoch boot).1 := by
  unfold LabScheduler.markAssigned
  split
  · exact frame.refl state
  · rename_i record accepted
    obtain ⟨_, checked, rest⟩ := except_bind_ok.mp accepted
    simp at rest
    obtain ⟨-, rfl⟩ := rest
    obtain ⟨found, live⟩ := markChecks_ok checked
    exact frame.mark state config .assigned _ _ _ found live

theorem markRunning (placement : PlacementId) (generation : PlacementGeneration) (epoch : CoordinatorEpoch)
    (boot : WorkerBootId) : R state (markRunning state config placement generation epoch boot).1 := by
  unfold LabScheduler.markRunning
  split
  · exact frame.refl state
  · rename_i record accepted
    obtain ⟨found, live⟩ := markChecks_ok accepted
    exact frame.mark state config .running _ _ _ found live

theorem reportCompletion (claim : CompletionClaim) : R state (reportCompletion state config claim).1 := by
  unfold LabScheduler.reportCompletion
  split
  · exact frame.refl state
  · split
    · exact frame.refl state
    · rename_i record found
      split
      · exact frame.refl state
      · rename_i accepted
        extract_lets noted written
        have live : placementStateIsLive record.state := completionChecks_live accepted
        have live : placementStateIsLive noted.state := live
        simp only [terminatePlacement, if_pos live]
        have closed : placementStateIsLive (if claim.succeeded then PlacementState.completed else .failed) = false := by
          split <;> rfl
        exact frame.trans (frame.completed state record claim.detail _ closed) (frame.audit ..)

theorem cancelPlacement (placement : PlacementId) (generation : PlacementGeneration) (epoch : CoordinatorEpoch)
    (reason : Text) : R state (cancelPlacement state config placement generation epoch reason).1 := by
  unfold LabScheduler.cancelPlacement
  split
  · exact frame.refl state
  · split
    · exact frame.refl state
    · split
      · exact frame.refl state
      · extract_lets report
        split
        · exact frame.refl state
        · split
          · exact frame.refl state
          · split
            · exact frame.trans (frame.terminate state _ _ rfl) (frame.audit ..)
            · exact frame.refl state

theorem closeRequest (request : ScheduleRequestId) (detail : Text) : R state (closeRequest state request detail) := by
  unfold LabScheduler.closeRequest
  split
  · exact frame.refl state
  · exact frame.requests state _ state.requestSequence

theorem cancelTurn (request : ScheduleRequestId) (reason : Text) (progress : SchedulerState × CancellationReport)
    (id : PlacementId) : R progress.1 (cancelTurn request reason progress id).1 := by
  unfold LabScheduler.cancelTurn
  split
  · exact frame.refl progress.1
  · split
    · exact frame.terminate progress.1 _ _ rfl
    · exact frame.refl progress.1

theorem cancelRequest (request : ScheduleRequestId) (reason : Text) :
    R state (cancelRequest state config request reason).1 := by
  unfold LabScheduler.cancelRequest
  split
  · exact frame.refl state
  · split
    · exact frame.refl state
    · let reached (progress : SchedulerState × CancellationReport) : Prop := R state progress.1
      have initial : reached (state, { request := request }) := frame.refl state
      have looped : reached (state.placements.keys.foldl (LabScheduler.cancelTurn request reason)
          (state, { request := request })) :=
        List.foldlRecOn _ _ initial fun progress sofar id _ =>
          frame.trans sofar (frame.cancelTurn request reason progress id)
      exact frame.trans (frame.trans looped (frame.closeRequest ..)) (frame.audit ..)

theorem admits (request : ScheduleRequest) : R state (admitRequest state config request) := by
  let stored := submittedRequest state request
  have written : R state { state with
      requests := state.requests.emplace stored, requestSequence := state.requestSequence + 1 } := frame.requests ..
  exact frame.trans written (frame.audit ..)

theorem submitRequest (ids : IdGenerator) (request : ScheduleRequest) :
    R state (submitRequest state config ids request).state := by
  unfold LabScheduler.submitRequest
  extract_lets normalized
  split
  · exact frame.refl state
  · have admitted : R state (admitRequest state config normalized) := frame.admits ..
    exact frame.trans admitted
      (frame.scheduled ⟨admitRequest state config normalized, submittedRequest state normalized, {}, 0⟩ config ids)

theorem reassignPlacement (ids : IdGenerator) (placement : PlacementId) (generation : PlacementGeneration)
    (epoch : CoordinatorEpoch) (reason : Text) :
    R state (reassignPlacement state config ids placement generation epoch reason).state := by
  unfold LabScheduler.reassignPlacement
  split
  · exact frame.refl state
  · rename_i record accepted
    extract_lets ended
    have first : R state ended := frame.terminate state record _ rfl
    split
    · exact first
    · rename_i stored recorded
      split
      · exact first
      · extract_lets scheduled
        have second : R ended scheduled.state :=
          frame.scheduled ⟨ended, stored, record.generation.bump, record.reassignmentCount + 1⟩ config ids
        have both := frame.trans first second
        split
        · exact both
        · extract_lets report
          split
          · exact frame.trans both (frame.audit ..)
          · exact both

theorem preemptPlacement (ids : IdGenerator) (placement : PlacementId) (generation : PlacementGeneration)
    (epoch : CoordinatorEpoch) (reason : Text) :
    R state (preemptPlacement state config ids placement generation epoch reason).state := by
  unfold LabScheduler.preemptPlacement
  split
  · exact frame.refl state
  · rename_i record accepted
    extract_lets ended report
    have first : R state ended := frame.terminate state record _ rfl
    split
    · exact first
    · rename_i stored recorded
      extract_lets reopened submitted scheduled
      have second : R ended reopened := frame.requests ended _ ended.requestSequence
      have sofar := frame.trans first second
      split
      · exact sofar
      · have third : R reopened scheduled.state :=
          frame.scheduled ⟨reopened, submitted, record.generation.bump, record.reassignmentCount + 1⟩ config ids
        have all := frame.trans sofar third
        split
        · exact all
        · exact frame.trans all (frame.audit ..)

end Frame

namespace Engine

/-- The operations that write no resource record, no worker and no epoch themselves. -/
def leavesRecords : Operation → Bool
  | .adoptEpoch .. | .beginShutdown | .workerConnected .. | .workerDisconnected .. | .markWorkerLost ..
  | .registerResource .. | .publishResourceState .. | .retireResource .. | .importState .. => false
  | _ => true

theorem step_frame {R : SchedulerState → SchedulerState → Prop} (frame : Frame R) {engine : Engine}
    {operation : Operation} (leaves : leavesRecords operation) : R engine.state (engine.step operation).1.state := by
  cases operation with
  | submitRequest => exact frame.submitRequest ..
  | markAssigned => exact frame.markAssigned ..
  | markRunning => exact frame.markRunning ..
  | reportCompletion => exact frame.reportCompletion ..
  | reassignPlacement => exact frame.reassignPlacement ..
  | preemptPlacement => exact frame.preemptPlacement ..
  | cancelPlacement => exact frame.cancelPlacement ..
  | cancelRequest => exact frame.cancelRequest ..
  | exportState => exact frame.refl _
  | _ => cases leaves

end Engine

/-- A relation that those writes do not break either, with the epoch left alone. -/
structure WideFrame (R : SchedulerState → SchedulerState → Prop) : Prop extends Frame R where
  records : ∀ state resources workers sequence,
    R state { state with resources := resources, workers := workers, workerSequence := sequence }
  shutdown : ∀ state, R state { state with shuttingDown := true }

namespace WideFrame

variable {R : SchedulerState → SchedulerState → Prop} (wide : WideFrame R) (state : SchedulerState)
  (config : EngineConfig)

include wide

theorem workers (workers : Table WorkerRecord.id) (sequence : UInt64) :
    R state { state with workers := workers, workerSequence := sequence } := wide.records state state.resources ..

theorem resources (resources : ResourceTable) : R state { state with resources := resources } :=
  wide.records state resources state.workers state.workerSequence

theorem losePlacement (worker : WorkerId) (boot : WorkerBootId) (affected : List ResourceId)
    (progress : SchedulerState × ResourceLossReport) (id : PlacementId) :
    R progress.1 (losePlacement worker boot affected progress id).1 := by
  unfold LabScheduler.losePlacement
  split
  · exact wide.refl progress.1
  · split
    · exact wide.terminate progress.1 _ _ rfl
    · exact wide.refl progress.1

theorem disconnect (worker : WorkerId) (boot : WorkerBootId) (detail : Text) :
    R state (disconnectWorker state worker boot detail) := by
  unfold LabScheduler.disconnectWorker
  split
  · exact wide.refl state
  · split
    · exact wide.workers state _ state.workerSequence
    · exact wide.refl state

theorem invalidate (worker : WorkerId) (boot : WorkerBootId) (detail : Text) :
    R state (invalidateWorkerIncarnation state config worker boot detail).1 := by
  unfold invalidateWorkerIncarnation
  extract_lets affected report
  let reached (progress : SchedulerState × ResourceLossReport) : Prop := R state progress.1
  have initial : reached (invalidateResources state worker boot, report) := wide.resources ..
  have looped : reached (state.placements.keys.foldl (LabScheduler.losePlacement worker boot affected)
      (invalidateResources state worker boot, report)) :=
    List.foldlRecOn _ _ initial fun progress sofar id _ =>
      wide.trans sofar (wide.losePlacement worker boot affected progress id)
  exact wide.trans (wide.trans looped (wide.disconnect ..)) (wide.audit ..)

theorem enter (worker : WorkerId) (boot : WorkerBootId) : R state (enterIncarnation state worker boot) := by
  unfold enterIncarnation
  extract_lets sequence
  split
  · exact wide.refl state
  · exact wide.workers ..

theorem adopt (worker : WorkerId) (boot : WorkerBootId) (detail : Text) :
    R state (adoptWorkerIncarnation state config worker boot detail).1 := by
  unfold adoptWorkerIncarnation
  split
  · extract_lets sequence record connected
    have entered : R state connected := wide.workers ..
    exact wide.trans entered (wide.audit ..)
  · split
    · exact wide.workers state _ state.workerSequence
    · extract_lets lost
      have invalidated : R state lost.1 := wide.invalidate ..
      exact wide.trans (wide.trans invalidated (wide.enter ..)) (wide.audit ..)

theorem markLost (worker : WorkerId) (boot : WorkerBootId) (detail : Text) :
    R state (markWorkerLost state config worker boot detail).1 := by
  unfold markWorkerLost
  split
  · exact wide.refl state
  · exact wide.invalidate ..

theorem connect (worker : WorkerId) (boot : WorkerBootId) : R state (workerConnected state config worker boot).1 := by
  unfold workerConnected
  split
  · exact wide.refl state
  · exact wide.adopt ..

theorem register (advertisement : ResourceAdvertisement) :
    R state (registerResource state config advertisement).1 := by
  unfold registerResource
  split
  · exact wide.refl state
  · extract_lets normalized mid record registered
    have adopted : R state mid := by
      change R state (adoptOwner state config normalized)
      unfold adoptOwner
      split
      · exact wide.refl state
      · exact wide.adopt ..
    split
    · exact adopted
    · have added : R mid registered := wide.resources ..
      exact wide.trans (wide.trans adopted added) (wide.audit ..)

theorem publish (advertisement : ResourceAdvertisement) :
    R state (publishResourceState state config advertisement).1 := by
  unfold publishResourceState
  split
  · exact wide.refl state
  · rename_i record checked
    extract_lets normalized mid
    have adopted : R state mid := by
      change R state (adoptPublisher state config normalized record)
      unfold adoptPublisher
      split
      · exact wide.adopt ..
      · exact wide.refl state
    split
    · exact adopted
    · split
      · exact adopted
      · extract_lets published written
        have sofar : R state written := wide.trans adopted (wide.resources ..)
        split
        · exact sofar
        · exact wide.trans sofar (wide.audit ..)

theorem retire (resource : ResourceId) (generation : ResourceGeneration) :
    R state (retireResource state config resource generation).1 := by
  unfold retireResource
  split
  · exact wide.refl state
  · extract_lets retired written
    have sofar : R state written := wide.resources ..
    exact wide.trans sofar (wide.audit ..)

theorem beginShutdown : R state (beginShutdown state config).1 := by
  unfold LabScheduler.beginShutdown
  split
  · exact wide.refl state
  · exact wide.trans (wide.shutdown state) (wide.audit ..)

end WideFrame

namespace Engine

def leavesEpoch : Operation → Bool
  | .adoptEpoch .. | .importState .. => false
  | _ => true

theorem step_wideFrame {R : SchedulerState → SchedulerState → Prop} (wide : WideFrame R) {engine : Engine}
    {operation : Operation} (leaves : leavesEpoch operation) : R engine.state (engine.step operation).1.state := by
  cases operation with
  | adoptEpoch => cases leaves
  | importState => cases leaves
  | beginShutdown => exact wide.beginShutdown ..
  | workerConnected => exact wide.connect ..
  | workerDisconnected => exact wide.markLost ..
  | markWorkerLost => exact wide.markLost ..
  | registerResource => exact wide.register ..
  | publishResourceState => exact wide.publish ..
  | retireResource => exact wide.retire ..
  | _ => exact step_frame wide.toFrame rfl

end Engine

/-- A resource record that differs in its reserved slots only. -/
def ResourceRecord.Rebooked (before after : ResourceRecord) : Prop :=
  { after with reservedSlots := before.reservedSlots } = before

namespace ResourceRecord.Rebooked

theorem refl (resource : ResourceRecord) : resource.Rebooked resource := rfl

theorem trans {a b c : ResourceRecord} (first : a.Rebooked b) (second : b.Rebooked c) : a.Rebooked c := by
  unfold Rebooked at *
  rw [← first, ← second]

theorem giveBackAll (resource : ResourceRecord) (claims : List ReservationClaim) :
    resource.Rebooked (resource.giveBackAll claims) := by
  unfold Rebooked
  rw [giveBackAll_eq]

theorem takeAll (resource : ResourceRecord) (claims : List ReservationClaim) :
    resource.Rebooked (resource.takeAll claims) := by
  unfold Rebooked
  rw [takeAll_eq]

end ResourceRecord.Rebooked

abbrev Rebooks (state after : SchedulerState) : Prop :=
  Table.Evolves ResourceRecord.Rebooked state.resources after.resources

theorem Rebooks.of_eq {state after : SchedulerState} (same : after.resources = state.resources) :
    Rebooks state after :=
  Table.Evolves.of_eq ResourceRecord.Rebooked.refl same

theorem Rebooks.refl (state : SchedulerState) : Rebooks state state := .of_eq rfl

theorem Rebooks.trans {a b c : SchedulerState} (first : Rebooks a b) (second : Rebooks b c) : Rebooks a c :=
  Table.Evolves.trans ResourceRecord.Rebooked.trans first second

theorem endPlacement_rebooks (state : SchedulerState) (placement : PlacementRecord) (target : PlacementState)
    (detail : Text) : Rebooks state (endPlacement state placement target detail) := by
  let ended := placement.finish target detail (state.transitionSequence + 1)
  rcases closeReservation_cases state ended target with ⟨same, -⟩ | ⟨reservation, -, -, result⟩
  · exact .of_eq (congrArg Prod.fst same)
  · have resources : (endPlacement state placement target detail).resources =
        reservation.claims.foldl releaseClaim state.resources := congrArg Prod.fst result
    unfold Rebooks
    rw [resources]
    exact .map (releaseClaims_find? _ _) fun resource => .giveBackAll resource _

theorem SchedulingCall.rebooks (call : SchedulingCall) (config : EngineConfig) (ids : IdGenerator) :
    Rebooks call.state (call.scheduled config ids).state := by
  have result : ScheduleResult call.state config ids call.stored call.generation call.reassignments
    (call.scheduled config ids) := scheduleLocked_result
  generalize call.scheduled config ids = scheduled at result
  obtain ⟨turns, selected, claims, booked⟩ := result.booked
  exact .map booked.find? fun resource => .takeAll resource claims

theorem rebooks_frame : Frame Rebooks where
  refl := .refl
  trans := .trans
  audit _ _ _ _ := .of_eq rfl
  ended state placement _ detail _ := endPlacement_rebooks state placement _ detail
  marked _ _ _ _ _ _ := .of_eq rfl
  completed _ _ _ _ detail _ := endPlacement_rebooks _ _ _ detail
  requests _ _ _ := .of_eq rfl
  scheduled := SchedulingCall.rebooks

theorem Engine.Calls.rebooks {engine : Engine} {operation : Operation} {call : SchedulingCall}
    (calls : engine.Calls operation call) : Rebooks engine.state call.state := by
  cases calls with
  | submit => exact .of_eq rfl
  | reassign => exact rebooks_frame.terminate engine.state _ _ rfl
  | preempt => exact rebooks_frame.terminate engine.state _ _ rfl

end LabScheduler
