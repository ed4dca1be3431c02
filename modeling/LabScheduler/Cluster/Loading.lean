import LabScheduler.Cluster.Server
import LabScheduler.Codec.Restart
import LabScheduler.Engine.Lives

namespace LabScheduler

open Foundation

/-- The bytes of the files: each holds the container that `save_durable_state` wrote. -/
def Disk.files (disk : Disk) : FileSystem := fun path => (disk path).map encodeDurableState

/-- What a write puts on the disk is what a save that reports success leaves in the file. -/
theorem Disk.files_saved {disk : Disk} {path : Text} {durable : DurableState} {opens : Bool} {faults : Nat → Bool}
    (saved : ((saveDurableState durable path opens).run faults disk.files).2 = .ok ()) :
    Disk.files (Function.update disk path (some durable)) path =
      (saveDurableState durable path opens).final faults disk.files path := by
  rw [saveDurableState_ok saved, Disk.files, Function.update_self]
  rfl

/-- A state that `load_durable_state` reads back and `import_state` accepts. -/
structure Restorable (limits : Limits) (durable : DurableState) : Prop extends Loadable limits durable where
  note : productLine.length ≤ limits.maxStringLength.toNat
  room : limits.maxPersistenceBytes.toNat + kPersistenceHeaderSize < 2 ^ 64
  valid : validateDurableState durable = .ok ()

/-- The codec of the repository: no encoder of a payload refuses, and a state is read back from its container. -/
def Codec.container : Codec where
  encodes _ := true
  decodes limits durable := decodeDurableState (encodeDurableState durable) limits >>= fun _ => .ok ()

theorem Codec.container_decodes {limits : Limits} {durable : DurableState} (restorable : Restorable limits durable) :
    Codec.container.decodes limits durable = .ok () :=
  except_bind_ok.mpr ⟨_, decode_saved restorable.toLoadable restorable.note, rfl⟩

-- no check and no loop of a recovery looks at the note
theorem validateClaims_noted (durable : DurableState) (active : Bool) (claimed : ClaimedSlots)
    (claims : List ReservationClaim) :
    validateClaims (noted durable) active claimed claims = validateClaims durable active claimed claims := by
  induction claims generalizing claimed with
  | nil => rfl
  | cons claim rest ih => exact bind_congr fun claimed => ih claimed

theorem validateReservations_noted (durable : DurableState) (seen : List ReservationId) (claimed : ClaimedSlots)
    (reservations : List ReservationRecord) :
    validateReservations (noted durable) seen claimed reservations =
      validateReservations durable seen claimed reservations := by
  induction reservations generalizing seen claimed with
  | nil => rfl
  | cons reservation rest ih =>
    refine bind_congr fun _ => bind_congr fun _ => ?_
    rw [validateClaims_noted]
    exact bind_congr fun claimed => ih _ claimed

theorem validateDurableState_noted (durable : DurableState) :
    validateDurableState (noted durable) = validateDurableState durable := by
  have reservations : validateReservations (noted durable) [] (fun _ => 0) (noted durable).reservations =
      validateReservations durable [] (fun _ => 0) durable.reservations := validateReservations_noted ..
  unfold validateDurableState
  rw [reservations]
  rfl

theorem importState_noted (state : SchedulerState) (config : EngineConfig) (ids : IdGenerator)
    (durable : DurableState) : importState state config ids (noted durable) = importState state config ids durable := by
  have checks : importChecks state (noted durable) = importChecks state durable := by
    unfold importChecks
    rw [validateDurableState_noted]
  unfold importState
  rw [checks]
  rfl

theorem importChecks_restorable {limits : Limits} {durable : DurableState} {config : EngineConfig}
    (restorable : Restorable limits durable) : importChecks (Engine.fresh config).state durable = .ok () := by
  unfold importChecks
  rw [restorable.valid]
  rfl

namespace CoordinatorServer

/-- `start`, over the bytes of the state file. -/
def startFrom (config : CoordinatorConfig) (files : FileSystem) : Except Status Engine := do
  let engine := Engine.fresh config.engine
  if config.statePath = [] ∨ files config.statePath = none then return engine
  let durable ← loadDurableState files config.statePath config.limits none
  match importState engine.state engine.config engine.ids durable with
  | (_, _, .error status) => throw status
  | (state, ids, .ok _) => return { engine with state := state, ids := ids }

section Files

variable {config : CoordinatorConfig} {disk : Disk}

theorem startFrom_none (absent : config.statePath = [] ∨ disk config.statePath = none) :
    startFrom config disk.files = .ok (Engine.fresh config.engine) := by
  have none : config.statePath = [] ∨ disk.files config.statePath = none :=
    absent.imp_right fun missing => @congrArg _ _ (disk config.statePath) none (Option.map encodeDurableState) missing
  unfold startFrom
  rw [if_pos none]
  rfl

theorem startFrom_some {durable : DurableState} (path : config.statePath ≠ [])
    (held : disk config.statePath = some durable) (restorable : Restorable config.limits durable) :
    startFrom config disk.files =
      .ok ((Engine.fresh config.engine).step (.importState durable)).1 := by
  have bytes : disk.files config.statePath = some (encodeDurableState durable) := congrArg (Option.map _) held
  have there : ¬ (config.statePath = [] ∨ disk.files config.statePath = none) := by
    rw [bytes]
    exact fun absent => absent.elim path nofun
  unfold startFrom
  rw [if_neg there]
  have read := load_saved restorable.toLoadable restorable.note restorable.room bytes
  have accepted := @importChecks_restorable _ _ config.engine restorable
  refine except_bind_ok.mpr ⟨_, read, ?_⟩
  rw [importState_noted]
  simp only [Engine.step, importState, accepted]
  rfl

/-- The start of the model is the start over the bytes. -/
theorem start_files (codec : config.codec = .container)
    (reads : ∀ durable, disk config.statePath = some durable → Restorable config.limits durable) :
    startFrom config disk.files = (start config disk).map CoordinatorServer.engine := by
  unfold start
  by_cases path : config.statePath = []
  · rw [startFrom_none (.inl path), if_pos path]
    rfl
  · rw [if_neg path]
    cases held : disk config.statePath with
    | none =>
      rw [startFrom_none (.inr held)]
      rfl
    | some durable =>
      have restorable := reads durable held
      have decodes := Codec.container_decodes restorable
      rw [← codec] at decodes
      have accepted := @importChecks_restorable _ _ config.engine restorable
      rw [startFrom_some path held restorable]
      simp only [decodes, Engine.step, importState, accepted]
      rfl

end Files

end CoordinatorServer

end LabScheduler
