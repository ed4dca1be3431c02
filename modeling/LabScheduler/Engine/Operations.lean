import LabScheduler.Foundation.Run
import LabScheduler.Engine.Resources
import LabScheduler.Engine.Lifecycle
import LabScheduler.Engine.Recovery

namespace LabScheduler

open Foundation

/-- The public operations of `SchedulerEngine`. Of the `const` ones, none of which writes, only
    `export_state` is listed. -/
inductive Operation
  | adoptEpoch (epoch : CoordinatorEpoch)
  | beginShutdown
  | workerConnected (worker : WorkerId) (boot : WorkerBootId)
  | workerDisconnected (worker : WorkerId) (boot : WorkerBootId) (detail : Text)
  | markWorkerLost (worker : WorkerId) (boot : WorkerBootId) (detail : Text)
  | registerResource (advertisement : ResourceAdvertisement)
  | publishResourceState (advertisement : ResourceAdvertisement)
  | retireResource (resource : ResourceId) (expectedGeneration : ResourceGeneration)
  | submitRequest (request : ScheduleRequest)
  | markAssigned (placement : PlacementId) (generation : PlacementGeneration) (epoch : CoordinatorEpoch)
      (workerBoot : WorkerBootId)
  | markRunning (placement : PlacementId) (generation : PlacementGeneration) (epoch : CoordinatorEpoch)
      (workerBoot : WorkerBootId)
  | reportCompletion (claim : CompletionClaim)
  | reassignPlacement (placement : PlacementId) (generation : PlacementGeneration)
      (epoch : CoordinatorEpoch) (reason : Text)
  | preemptPlacement (placement : PlacementId) (generation : PlacementGeneration)
      (epoch : CoordinatorEpoch) (reason : Text)
  | cancelPlacement (placement : PlacementId) (generation : PlacementGeneration)
      (epoch : CoordinatorEpoch) (reason : Text)
  | cancelRequest (request : ScheduleRequestId) (reason : Text)
  | importState (durable : DurableState)
  | exportState

inductive Reply
  | status (result : Check)
  | loss (report : ResourceLossReport)
  | resource (result : Except Status ResourceRecord)
  | decision (result : Except Status Decision)
  | placement (result : Except Status PlacementRecord)
  | completion (outcome : CompletionOutcome)
  | reassignment (result : Except Status ReassignmentReport)
  | cancellation (report : CancellationReport)
  | recovery (result : Except Status RecoveryReport)
  | durable (state : DurableState)

structure Engine where
  config : EngineConfig
  ids : IdGenerator
  state : SchedulerState

namespace Engine

def fresh (config : EngineConfig) : Engine :=
  { config := config, ids := ⟨config.idSeed⟩, state := { epoch := ⟨1⟩ } }

def keep {α : Type} (engine : Engine) (reply : α → Reply) (result : SchedulerState × α) : Engine × Reply :=
  ({ engine with state := result.1 }, reply result.2)

def draw {α : Type} (engine : Engine) (reply : Except Status α → Reply) (outcome : Outcome α) :
    Engine × Reply :=
  ({ engine with state := outcome.state, ids := outcome.ids }, reply outcome.result)

def step (engine : Engine) : Operation → Engine × Reply
  | .adoptEpoch epoch => engine.keep .status (adoptEpoch engine.state engine.config epoch)
  | .beginShutdown => engine.keep .status (beginShutdown engine.state engine.config)
  | .workerConnected worker boot =>
    engine.keep .loss (workerConnected engine.state engine.config worker boot)
  | .workerDisconnected worker boot detail =>
    engine.keep .loss (workerDisconnected engine.state engine.config worker boot detail)
  | .markWorkerLost worker boot detail =>
    engine.keep .loss (markWorkerLost engine.state engine.config worker boot detail)
  | .registerResource advertisement =>
    engine.keep .resource (registerResource engine.state engine.config advertisement)
  | .publishResourceState advertisement =>
    engine.keep .resource (publishResourceState engine.state engine.config advertisement)
  | .retireResource resource expectedGeneration =>
    engine.keep .resource (retireResource engine.state engine.config resource expectedGeneration)
  | .submitRequest request =>
    engine.draw .decision (submitRequest engine.state engine.config engine.ids request)
  | .markAssigned placement generation epoch workerBoot =>
    engine.keep .placement (markAssigned engine.state engine.config placement generation epoch workerBoot)
  | .markRunning placement generation epoch workerBoot =>
    engine.keep .placement (markRunning engine.state engine.config placement generation epoch workerBoot)
  | .reportCompletion claim => engine.keep .completion (reportCompletion engine.state engine.config claim)
  | .reassignPlacement placement generation epoch reason =>
    engine.draw .reassignment
      (reassignPlacement engine.state engine.config engine.ids placement generation epoch reason)
  | .preemptPlacement placement generation epoch reason =>
    engine.draw .reassignment
      (preemptPlacement engine.state engine.config engine.ids placement generation epoch reason)
  | .cancelPlacement placement generation epoch reason =>
    engine.keep .cancellation (cancelPlacement engine.state engine.config placement generation epoch reason)
  | .cancelRequest request reason =>
    engine.keep .cancellation (cancelRequest engine.state engine.config request reason)
  | .importState durable =>
    let (state, ids, result) := importState engine.state engine.config engine.ids durable
    ({ engine with state := state, ids := ids }, .recovery result)
  | .exportState => (engine, .durable (exportState engine.state engine.config engine.ids))

abbrev runs (engine : Engine) (operations : List Operation) : Engine := run step engine operations

end Engine

namespace Bench

def advertisement : ResourceAdvertisement :=
  { id := ⟨7⟩, name := ascii "bench", capacity := { slots := 2 }, health := .healthy, readiness := .ready }

def request (id experiment : UInt64) : ScheduleRequest :=
  { id := ⟨id⟩, experiment := ⟨experiment⟩, experimentGeneration := ⟨1⟩
    requirements := [{ name := ascii "slot" }] }

def start : List Operation := [.registerResource advertisement, .submitRequest (request 5 1)]

/-- A completed placement of request 5, as a durable state may carry it. -/
def completed (id reservation : UInt64) : PlacementRecord :=
  { id := ⟨id⟩, generation := ⟨1⟩, request := ⟨5⟩, experiment := ⟨1⟩, experimentGeneration := ⟨1⟩
    resources := [{ resource := ⟨7⟩, generation := ⟨1⟩, slots := 1 }]
    reservation := ⟨reservation⟩, state := .completed }

def durable (placements : List PlacementRecord) : DurableState :=
  { epoch := ⟨1⟩
    resources := [registeredRecord ⟨1⟩ advertisement]
    requests := [{ request := request 5 1, state := .completed }]
    placements := placements }

end Bench

end LabScheduler
