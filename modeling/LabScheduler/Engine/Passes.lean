import LabScheduler.Engine.Ledger
import LabScheduler.Engine.Pairing

namespace LabScheduler

open Foundation Relation

inductive Move (engine : Engine) (operation : Operation) : SchedulerState → SchedulerState → Prop
  | change {state after : SchedulerState} (change : Change state after) : Move engine operation state after
  | write {state after : SchedulerState} (write : RequestWrite state after) : Move engine operation state after
  | register {advertisement : ResourceAdvertisement} {mid : SchedulerState} {record : ResourceRecord}
      (registers : Registers engine.state engine.config advertisement mid record) :
    Move engine operation mid { mid with resources := mid.resources.emplace record }
  | publish {advertisement : ResourceAdvertisement} {mid : SchedulerState} {live : ResourceRecord}
      (same : operation = .publishResourceState advertisement)
      (publishes : Publishes engine.state engine.config advertisement mid live) :
    Move engine operation mid (publishWrite mid advertisement live)
  | schedule {call : SchedulingCall} (calls : engine.Calls operation call) :
    Move engine operation call.state (call.scheduled engine.config engine.ids).state
  | recover {durable : DurableState} {state : SchedulerState} (same : operation = .importState durable)
      (accepted : importChecks engine.state durable = .ok ()) :
    Move engine operation state (rebuildState engine.state durable).state

abbrev Engine.Passes (engine : Engine) (operation : Operation) : SchedulerState → Prop :=
  ReflTransGen (Move engine operation) engine.state

theorem Engine.passes_step (engine : Engine) (operation : Operation) :
    engine.Passes operation (engine.step operation).1.state := by
  refine Engine.step_preserves (fun change passes => passes.tail (.change change))
    (fun write passes => passes.tail (.write write)) ?_ ?_ ?_ ?_ .refl
  · intro advertisement mid record _ registers passes
    exact passes.tail (.register registers)
  · intro advertisement mid live same publishes passes
    exact passes.tail (.publish same publishes)
  · intro call calls passes
    exact passes.tail (.schedule calls)
  · intro durable same accepted
    exact .tail .refl (.recover same accepted)

section Progress

variable {engine : Engine} {operation : Operation} {state after : SchedulerState}

/-- A record that is there is never taken away and only progresses. -/
structure Kept (before after : SchedulerState) : Prop where
  placements : Table.Extends PlacementRecord.Progresses before.placements after.placements
  reservations : Table.Extends ReservationRecord.Progresses before.reservations after.reservations

theorem Kept.refl (state : SchedulerState) : Kept state state :=
  ⟨.refl PlacementRecord.Progresses.refl _, .refl ReservationRecord.Progresses.refl _⟩

theorem Kept.trans {a b c : SchedulerState} (first : Kept a b) (second : Kept b c) : Kept a c :=
  ⟨first.placements.trans PlacementRecord.Progresses.trans second.placements,
    first.reservations.trans ReservationRecord.Progresses.trans second.reservations⟩

theorem Kept.of_eq {before after : SchedulerState} (placements : after.placements = before.placements)
    (reservations : after.reservations = before.reservations) : Kept before after := by
  constructor
  · rw [placements]
    exact (Kept.refl before).placements
  · rw [reservations]
    exact (Kept.refl before).reservations

theorem SchedulingCall.extends_tables (call : SchedulingCall) (config : EngineConfig) (ids : IdGenerator) :
    Table.Extends Eq call.state.placements (call.scheduled config ids).state.placements ∧
      Table.Extends Eq call.state.reservations (call.scheduled config ids).state.reservations := by
  have result : ScheduleResult call.state config ids call.stored call.generation call.reassignments
    (call.scheduled config ids) := scheduleLocked_result
  generalize call.scheduled config ids = scheduled at result
  have same : Table.Extends Eq call.state.placements call.state.placements ∧
    Table.Extends Eq call.state.reservations call.state.reservations := ⟨.refl Eq.refl _, .refl Eq.refl _⟩
  cases result with
  | noPlacement => exact same
  | refused => exact same
  | broken => exact same
  | placed chosen loop committed decided room resources_after requests_after placements_after
      reservations_after =>
    rw [placements_after, reservations_after]
    exact ⟨.emplace Eq.refl .., .emplace Eq.refl ..⟩

theorem SchedulingCall.kept (call : SchedulingCall) (config : EngineConfig) (ids : IdGenerator) :
    Kept call.state (call.scheduled config ids).state := by
  obtain ⟨placements, reservations⟩ := call.extends_tables config ids
  exact ⟨placements.mono fun same => same ▸ .refl _, reservations.mono fun same => same ▸ .refl _⟩

theorem Move.kept (move : Move engine operation state after)
    (occupied : engine.state.placements.entries ≠ [] ∨ engine.state.reservations.entries ≠ []) :
    Kept state after := by
  cases move with
  | change change => exact ⟨change.placements.toExtends, change.reservations.toExtends⟩
  | write write => cases write <;> exact .of_eq rfl rfl
  | register => exact .of_eq rfl rfl
  | publish => exact .of_eq rfl rfl
  | schedule => exact SchedulingCall.kept ..
  | recover _ accepted =>
    obtain ⟨-, -, -, placements, reservations⟩ := importChecks_ok accepted
    rcases occupied with some | some
    · exact absurd placements some
    · exact absurd reservations some

theorem Engine.Passes.kept (passes : engine.Passes operation state)
    (occupied : engine.state.placements.entries ≠ [] ∨ engine.state.reservations.entries ≠ []) :
    Kept engine.state state := by
  induction passes with
  | refl => exact .refl _
  | tail _ move ih => exact ih.trans (move.kept occupied)

/-- Over a whole operation: what is there stays, and once closed it is frozen. -/
theorem Engine.step_kept (engine : Engine) (operation : Operation) :
    Kept engine.state (engine.step operation).1.state := by
  have passes := engine.passes_step operation
  constructor
  · constructor
    intro id placement found
    have occupied : engine.state.placements.entries ≠ [] := List.ne_nil_of_mem (Table.mem_of_find? found)
    exact (passes.kept (.inl occupied)).placements.later found
  · constructor
    intro id reservation found
    have occupied : engine.state.reservations.entries ≠ [] := List.ne_nil_of_mem (Table.mem_of_find? found)
    exact (passes.kept (.inr occupied)).reservations.later found

theorem Engine.runs_kept (engine : Engine) (operations : List Operation) :
    Kept engine.state (engine.runs operations).state := by
  induction operations generalizing engine with
  | nil => exact .refl _
  | cons operation rest ih => exact (engine.step_kept operation).trans (ih (engine.step operation).1)

structure Remembers (before after : SchedulerState) : Prop where
  resources : ∀ {id : ResourceId}, before.resources.find? id ≠ none → after.resources.find? id ≠ none
  requests : ∀ {id : ScheduleRequestId}, before.requests.find? id ≠ none → after.requests.find? id ≠ none

theorem Remembers.same {before after : SchedulerState} (resources : after.resources = before.resources)
    (requests : after.requests = before.requests) : Remembers before after := by
  constructor
  · intro id present
    rwa [resources]
  · intro id present
    rwa [requests]

theorem find?_set_present {κ α : Type} [LinearOrder κ] {key : α → κ} {table : Table key} {a : α} {k : κ}
    (present : table.find? k ≠ none) : (table.set a).find? k ≠ none := by
  rw [Table.find?_set]
  split
  · nofun
  · exact present

theorem find?_emplace_present {κ α : Type} [LinearOrder κ] {key : α → κ} {table : Table key} {a : α} {k : κ}
    (present : table.find? k ≠ none) : (table.emplace a).find? k ≠ none :=
  (Table.Extends.emplace Eq.refl table a).present present

theorem RequestWrite.remembers (write : RequestWrite state after) : Remembers state after := by
  cases write with
  | enroll => exact ⟨fun present => present, find?_emplace_present⟩
  | rewrite => exact ⟨fun present => present, find?_set_present⟩

theorem Booked.present {resources after : ResourceTable} {turns : List (CandidateResource × ResourceRequirement)}
    {selected : List SelectedResource} {claims : List ReservationClaim}
    (booked : Booked resources turns after selected claims) {id : ResourceId} (present : resources.find? id ≠ none) :
    after.find? id ≠ none := by
  rw [booked.find?]
  simpa using present

theorem SchedulingCall.remembers (call : SchedulingCall) (config : EngineConfig) (ids : IdGenerator) :
    Remembers call.state (call.scheduled config ids).state := by
  have result : ScheduleResult call.state config ids call.stored call.generation call.reassignments
    (call.scheduled config ids) := scheduleLocked_result
  generalize call.scheduled config ids = scheduled at result
  have booked := result.booked
  obtain ⟨turns, selected, claims, booked⟩ := booked
  refine ⟨booked.present, ?_⟩
  cases result with
  | noPlacement => exact find?_set_present
  | refused => exact fun present => present
  | broken => exact fun present => present
  | placed chosen loop committed decided room resources_after requests_after =>
    rw [requests_after]
    exact find?_set_present

theorem Move.remembers (move : Move engine operation state after)
    (calm : ∀ durable, operation = .importState durable → importChecks engine.state durable ≠ .ok ()) :
    Remembers state after := by
  cases move with
  | change change => exact ⟨change.resources.present, change.requests.present⟩
  | write write => exact write.remembers
  | register => exact ⟨find?_emplace_present, fun present => present⟩
  | publish => exact ⟨find?_set_present, fun present => present⟩
  | schedule => exact SchedulingCall.remembers ..
  | recover same accepted => exact absurd accepted (calm _ same)

theorem Engine.Passes.remembers (passes : engine.Passes operation state)
    (calm : ∀ durable, operation = .importState durable → importChecks engine.state durable ≠ .ok ()) :
    Remembers engine.state state := by
  induction passes with
  | refl => exact .same rfl rfl
  | tail _ move ih =>
    have moved := move.remembers calm
    exact ⟨fun present => moved.resources (ih.resources present), fun present => moved.requests (ih.requests present)⟩

theorem calm_of_occupied (occupied : engine.state.placements.entries ≠ []) :
    ∀ durable, operation = .importState durable → importChecks engine.state durable ≠ .ok () := by
  intro durable _ accepted
  obtain ⟨-, -, -, placements, -⟩ := importChecks_ok accepted
  exact occupied placements

end Progress

theorem Change.ends {state after : SchedulerState} (change : Change state after) {placement : PlacementRecord}
    (found : state.placements.find? placement.id = some placement)
    (live : placementStateIsLive placement.state) :
    (∃ later, after.placements.find? placement.id = some later ∧ placementStateIsLive later.state) ∨
      ∃ target detail, placementStateIsLive target = false ∧
        after = endPlacement state placement target detail := by
  have rewritten {written : PlacementRecord} (stays : placementStateIsLive written.state) :
      ∃ later, (state.placements.set written).find? placement.id = some later ∧
        placementStateIsLive later.state := by
    rw [Table.find?_set]
    split
    · exact ⟨written, rfl, stays⟩
    · exact ⟨placement, found, live⟩
  cases change with
  | books _ _ placements => exact .inl ⟨placement, placements ▸ found, live⟩
  | invalidate => exact .inl ⟨placement, found, live⟩
  | retire => exact .inl ⟨placement, found, live⟩
  | @finish other target detail there running closed =>
    by_cases same : other.id = placement.id
    · rw [same, found] at there
      cases there
      exact .inr ⟨target, detail, closed, rfl⟩
    · have key : (other.finish target detail (state.transitionSequence + 1)).id ≠ placement.id := same
      exact .inl ⟨placement, (Table.find?_set_ne _ key).trans found, live⟩
  | mark detail there running stays => exact .inl (rewritten stays)
  | complete detail there running => exact .inl (rewritten running)

end LabScheduler
