import LabScheduler.Cluster.Server
import LabScheduler.Foundation.Session

namespace LabScheduler

open Foundation

/-- What the encoders of a client accept, and what its decoders make of a payload. -/
structure ClientCodec where
  encodes : Message → Check
  helloAck : Payload → Except Status HelloAckMessage
  resourceAck : Payload → Except Status ResourceAckMessage
  lifecycleAck : Payload → Except Status LifecycleAckMessage
  completionAck : Payload → Except Status CompletionAckMessage
  assign : Payload → Except Status AssignMessage
  error : Payload → Except Status ErrorMessage

structure WorkerConfig where
  worker : WorkerId := {}
  boot : WorkerBootId := {}
  /-- The resources of `make_profile`. -/
  resources : Except Status (List ResourceAdvertisement) := .ok []
  holdAssignments : Bool := false
  task : Option (AuthorityEnvelope → Check × Text) := none
  codec : ClientCodec

structure WorkerTally where
  resourceIds : List ResourceId := []
  completedAssignments : UInt32 := 0
  rejectedAssignments : UInt32 := 0

def WorkerTally.completes (tally : WorkerTally) : WorkerTally :=
  { tally with completedAssignments := tally.completedAssignments + 1 }

def WorkerTally.rejects (tally : WorkerTally) : WorkerTally :=
  { tally with rejectedAssignments := tally.rejectedAssignments + 1 }

/-- A conversation over a connection: a message goes out, and a payload is received or a status of the failure. -/
abbrev Conversation (α : Type) := Session Message (Except Status Payload) α

abbrev WorkerM (α : Type) := ExceptT Status (StateT WorkerTally Conversation) α

namespace CoordinatorClient

variable (codec : ClientCodec)

def transact (message : Message) : Conversation (Except Status Payload) := .ask message .done

/-- The shape of a `call_…`: whatever frame is received, its payload is decoded as the reply. -/
def call {α : Type} (decode : Payload → Except Status α) (message : Message) : WorkerM α := do
  let _ ← MonadExcept.ofExcept (codec.encodes message)
  let payload ← ExceptT.mk (StateT.lift (transact message))
  MonadExcept.ofExcept (decode payload)

def callHello (message : HelloMessage) : WorkerM HelloAckMessage := call codec codec.helloAck (.hello message)

def callRegister (advertisement : ResourceAdvertisement) : WorkerM ResourceAckMessage :=
  call codec codec.resourceAck (.registerResource advertisement)

def callPublish (advertisement : ResourceAdvertisement) : WorkerM ResourceAckMessage :=
  call codec codec.resourceAck (.publishState advertisement)

def callAssignAck (message : AuthorityMessage) : WorkerM LifecycleAckMessage :=
  call codec codec.lifecycleAck (.assignAck message)

def callRunning (message : AuthorityMessage) : WorkerM LifecycleAckMessage :=
  call codec codec.lifecycleAck (.running message)

def callCompletion (claim : CompletionClaim) : WorkerM CompletionAckMessage :=
  call codec codec.completionAck (.completion claim)

end CoordinatorClient

def syntheticWorkloadResult (authority : AuthorityEnvelope) (workload : Text) : Text :=
  let mixed (hash : UInt64) (selected : SelectedResource) : UInt64 := mix64 (hash ^^^ selected.resource.value)
  let hash := authority.resources.foldl mixed (fnv1a64 workload)
  authority.placement.toText ++ ascii "/" ++ hexU64 hash 16

namespace WorkerAgent

open CoordinatorClient

variable (config : WorkerConfig)

/-- A resource that the coordinator has already is published instead. -/
def advertise (advertisement : ResourceAdvertisement) : WorkerM Unit := do
  let registered ← callRegister config.codec advertisement
  let ack ← if registered.code = .duplicateIdentity then callPublish config.codec advertisement else pure registered
  if ack.code ≠ .ok then throw ⟨ack.code, ascii "resource advertisement rejected: " ++ ack.detail⟩
  modify fun tally => { tally with resourceIds := tally.resourceIds ++ [advertisement.id] }

def start : WorkerM HelloAckMessage := do
  let ack ← callHello config.codec { worker := config.worker, boot := config.boot }
  let resources ← MonadExcept.ofExcept config.resources
  resources.forM (advertise config)
  return ack

def completionClaim (authority : AuthorityEnvelope) (executed : Check) (detail : Text) : CompletionClaim :=
  { placement := authority.placement
    placementGeneration := authority.placementGeneration
    experiment := authority.experiment
    experimentGeneration := authority.experimentGeneration
    epoch := authority.epoch
    workerBoot := config.boot
    resources := authority.resources.map fun selected => selected.resource
    resourceGenerations := authority.resources.map fun selected => selected.generation
    succeeded := executed.isOk
    detail := detail }

def handleAssignment (message : AssignMessage) : WorkerM Unit := do
  let envelope := message.authority
  let authority : AuthorityMessage :=
    { placement := envelope.placement
      generation := envelope.placementGeneration
      epoch := envelope.epoch
      workerBoot := envelope.workerBoot }
  let reply ← callAssignAck config.codec authority
  if reply.code ≠ .ok then
    modify WorkerTally.rejects
    throw ⟨reply.code, ascii "assignment rejected: " ++ reply.detail⟩
  let _ ← callRunning config.codec authority
  if config.holdAssignments then return
  let (executed, detail) : Check × Text :=
    match config.task with
    | some task => task envelope
    | none => (.ok (), syntheticWorkloadResult envelope message.workload)
  let completion ← callCompletion config.codec (completionClaim config envelope executed detail)
  modify (if completion.accepted then WorkerTally.completes else WorkerTally.rejects)

end WorkerAgent

inductive Hearing
  | handle (message : AssignMessage)
  | exit
  | stop (status : Status)
  | skip

def hear (codec : ClientCodec) (frame : Sent) : Hearing :=
  match frame.type with
  | .assign =>
    match codec.assign frame.payload with
    | .ok message => .handle message
    | .error status => .stop status
  | .shutdown => .exit
  | .error =>
    match codec.error frame.payload with
    | .ok error => .stop ⟨error.code, error.message⟩
    | .error _ => .stop ⟨.protocolError, ascii "coordinator reported an undecodable error"⟩
  | _ => .skip

theorem hear_handles {codec : ClientCodec} {frame : Sent} {message : AssignMessage} :
    hear codec frame = .handle message ↔ frame.type = .assign ∧ codec.assign frame.payload = .ok message := by
  unfold hear
  split
  · rename_i assigns
    split
    · rename_i decoded
      simp [assigns, decoded]
    · rename_i decoded
      simp [decoded]
  · rename_i exits
    simp [exits]
  · rename_i fails
    split <;> simp [fails]
  · rename_i other _ _
    constructor
    · intro skips
      cases skips
    · intro assigns
      exact absurd assigns.1 other

inductive WorkerRest
  | loop (tally : WorkerTally)
  | ended (result : Check) (tally : WorkerTally)

/-- A worker, with the rest of its program. It is `awaiting` when its call was sent and its reply is not received, and
    `reading` when its loop waits for a frame. -/
structure WorkerAgent where
  program : Conversation WorkerRest
  awaiting : Bool := false
  reading : Bool := false
  correlation : Nat := 0
  exitRequested : Bool := false

namespace WorkerAgent

def launch (config : WorkerConfig) : WorkerAgent :=
  let program : Conversation WorkerRest := do
    let (result, tally) ← (start config).run {}
    match result with
    | .ok _ => return .loop tally
    | .error status => return .ended (.error status) tally
  { program := program }

variable (agent : WorkerAgent) (config : WorkerConfig)

def assigned (tally : WorkerTally) (message : AssignMessage) : WorkerAgent :=
  let program : Conversation WorkerRest := do
    let (_, tally) ← (handleAssignment config message).run tally
    return .loop tally
  { agent with program := program, reading := false }

def hears (tally : WorkerTally) : Hearing → WorkerAgent
  | .handle message => agent.assigned config tally message
  | .exit => { agent with reading := false, exitRequested := true }
  | .stop status => { agent with program := .done (.ended (.error status) tally), reading := false }
  | .skip => { agent with reading := false }

end WorkerAgent

end LabScheduler
