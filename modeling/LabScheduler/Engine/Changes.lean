import LabScheduler.Engine.Operations
import LabScheduler.Foundation.Evolution

namespace LabScheduler

open Foundation Relation

abbrev Incarnation := WorkerId × WorkerBootId

/-- No resource is authoritative for the incarnation. -/
def Silent (state : SchedulerState) (incarnation : Incarnation) : Prop :=
  ∀ resource ∈ state.resources.entries, resource.worker = incarnation.1 → resource.boot = incarnation.2 →
    resource.dynamicAuthoritative = false

instance (state : SchedulerState) (incarnation : Incarnation) : Decidable (Silent state incarnation) :=
  inferInstanceAs (Decidable (∀ resource ∈ state.resources.entries, _ → _ → _))

/-- A worker stays with its incarnation, unless that is silent. -/
structure KeepsWorkers (state after : SchedulerState) : Prop where
  stays : ∀ {id : WorkerId} {record : WorkerRecord}, state.workers.find? id = some record →
    ∃ later, after.workers.find? id = some later ∧
      (later.boot = record.boot ∨ (id.isNull = false ∧ Silent after (id, record.boot)))

theorem KeepsWorkers.same {state after : SchedulerState} (same : after.workers = state.workers) :
    KeepsWorkers state after := by
  constructor
  intro id record found
  exact ⟨record, same ▸ found, .inl rfl⟩

theorem KeepsWorkers.written {state after : SchedulerState} {record later : WorkerRecord}
    (written : after.workers = state.workers.set later)
    (found : state.workers.find? later.id = some record)
    (allowed : later.boot = record.boot ∨ (later.id.isNull = false ∧ Silent after (later.id, record.boot))) :
    KeepsWorkers state after := by
  constructor
  intro id other there
  rw [written]
  by_cases same : later.id = id
  · subst same
    rw [found] at there
    cases there
    exact ⟨later, Table.find?_set_self .., allowed⟩
  · exact ⟨other, (Table.find?_set_ne _ same).trans there, .inl rfl⟩

/-- The counters that number the requests and the reservations stand as they did. -/
structure SameCounters (state after : SchedulerState) : Prop where
  requests : after.requestSequence = state.requestSequence
  reservations : after.reservationSequence = state.reservationSequence

inductive Change : SchedulerState → SchedulerState → Prop
  | books {state after : SchedulerState} (resources : after.resources = state.resources)
      (requests : after.requests = state.requests) (placements : after.placements = state.placements)
      (reservations : after.reservations = state.reservations)
      (unitCurrent : after.unitCurrent = state.unitCurrent) (workers : KeepsWorkers state after)
      (counters : SameCounters state after) : Change state after
  | invalidate (state : SchedulerState) (worker : WorkerId) (boot : WorkerBootId) :
    Change state (invalidateResources state worker boot)
  | retire {state : SchedulerState} {record : ResourceRecord}
      (found : state.resources.find? record.id = some record) (unreserved : record.reservedSlots = 0) :
    Change state { state with resources := state.resources.set record.retire }
  | finish {state : SchedulerState} {placement : PlacementRecord} {target : PlacementState} (detail : Text)
      (found : state.placements.find? placement.id = some placement)
      (live : placementStateIsLive placement.state) (closed : placementStateIsLive target = false) :
    Change state (endPlacement state placement target detail)
  | mark {state : SchedulerState} {placement : PlacementRecord} {target : PlacementState} (detail : Text)
      (found : state.placements.find? placement.id = some placement)
      (live : placementStateIsLive placement.state) (stays : placementStateIsLive target) :
    Change state (markPlacement state placement target detail).1
  | complete {state : SchedulerState} {placement : PlacementRecord} (detail : Text)
      (found : state.placements.find? placement.id = some placement)
      (live : placementStateIsLive placement.state) :
    Change state { state with placements := state.placements.set (placement.recordCompletion detail) }

def ResourceRecord.offer (resource : ResourceRecord) : Description :=
  { resource.toDescription with health := .unknown, healthDetail := [], readiness := .unknown }

structure ResourceRecord.Lapses (before after : ResourceRecord) : Prop where
  offer : after.offer = before.offer
  authority : after.dynamicAuthoritative → before.dynamicAuthoritative
  reserved : after.reservedSlots ≤ before.reservedSlots

def PlacementRecord.terms (placement : PlacementRecord) : PlacementRecord :=
  { placement with
    state := .reserved, completionRecorded := false, detail := [], transitionSequence := 0
    completionDetail := [] }

structure PlacementRecord.Progresses (before after : PlacementRecord) : Prop where
  terms : after.terms = before.terms
  live : placementStateIsLive after.state → placementStateIsLive before.state
  frozen : placementStateIsLive before.state = false → after = before

def ReservationRecord.terms (reservation : ReservationRecord) : ReservationRecord :=
  { reservation with state := .active, detail := [] }

structure ReservationRecord.Progresses (before after : ReservationRecord) : Prop where
  terms : after.terms = before.terms
  active : after.state = .active → after = before
  frozen : before.state ≠ .active → after = before

namespace ResourceRecord.Lapses

theorem refl (resource : ResourceRecord) : resource.Lapses resource := ⟨rfl, id, UInt32.le_refl _⟩

theorem trans {a b c : ResourceRecord} (first : a.Lapses b) (second : b.Lapses c) : a.Lapses c :=
  ⟨second.offer.trans first.offer, fun authority => first.authority (second.authority authority),
    UInt32.le_trans second.reserved first.reserved⟩

variable {before after : ResourceRecord} (lapses : before.Lapses after)

include lapses

theorem id : after.id = before.id := by
  have same := congrArg (fun offer : Description => offer.id) lapses.offer
  exact same

theorem capacity : after.capacity = before.capacity := by
  have same := congrArg (fun offer => offer.capacity) lapses.offer
  exact same

theorem sharing : after.sharing = before.sharing := by
  have same := congrArg (fun offer => offer.sharing) lapses.offer
  exact same

theorem advertised : after.advertisedOccupancy = before.advertisedOccupancy := by
  have same := congrArg (fun offer => offer.advertisedOccupancy) lapses.offer
  exact same

theorem worker : after.worker = before.worker := by
  have same := congrArg (fun offer => offer.worker) lapses.offer
  exact same

theorem boot : after.boot = before.boot := by
  have same := congrArg (fun offer => offer.boot) lapses.offer
  exact same

end ResourceRecord.Lapses

namespace PlacementRecord.Progresses

theorem refl (placement : PlacementRecord) : placement.Progresses placement :=
  ⟨rfl, fun live => live, fun _ => rfl⟩

theorem trans {a b c : PlacementRecord} (first : a.Progresses b) (second : b.Progresses c) : a.Progresses c := by
  refine ⟨second.terms.trans first.terms, fun live => first.live (second.live live), fun closed => ?_⟩
  have same := first.frozen closed
  rw [second.frozen (same ▸ closed), same]

variable {before after : PlacementRecord} (progresses : before.Progresses after)

include progresses

theorem id : after.id = before.id := by
  have same := congrArg PlacementRecord.id progresses.terms
  exact same

theorem generation : after.generation = before.generation := by
  have same := congrArg PlacementRecord.generation progresses.terms
  exact same

theorem request : after.request = before.request := by
  have same := congrArg PlacementRecord.request progresses.terms
  exact same

theorem unit : after.unit = before.unit := by
  have same := congrArg PlacementRecord.unit progresses.terms
  exact same

theorem resources : after.resources = before.resources := by
  have same := congrArg PlacementRecord.resources progresses.terms
  exact same

theorem reservation : after.reservation = before.reservation := by
  have same := congrArg PlacementRecord.reservation progresses.terms
  exact same

theorem reassignmentCount : after.reassignmentCount = before.reassignmentCount := by
  have same := congrArg PlacementRecord.reassignmentCount progresses.terms
  exact same

end PlacementRecord.Progresses

namespace ReservationRecord.Progresses

theorem refl (reservation : ReservationRecord) : reservation.Progresses reservation :=
  ⟨rfl, fun _ => rfl, fun _ => rfl⟩

theorem trans {a b c : ReservationRecord} (first : a.Progresses b) (second : b.Progresses c) :
    a.Progresses c := by
  refine ⟨second.terms.trans first.terms, fun active => ?_, fun closed => ?_⟩
  · have same := second.active active
    rw [same] at active ⊢
    exact first.active active
  · have same := first.frozen closed
    rw [second.frozen (same ▸ closed), same]

end ReservationRecord.Progresses

theorem ReservationRecord.close_progresses {reservation : ReservationRecord}
    (active : reservation.state = .active) (target : PlacementState) (detail : Text) :
    reservation.Progresses (reservation.close target detail) :=
  ⟨rfl, fun open' => absurd open' (closedState_ne_active target), fun closed => absurd active closed⟩

theorem PlacementRecord.progresses_of_live {before after : PlacementRecord} (terms : after.terms = before.terms)
    (live : placementStateIsLive before.state) : before.Progresses after :=
  ⟨terms, fun _ => live, fun closed => by rw [live] at closed; cases closed⟩

theorem ResourceRecord.giveBack_lapses (resource : ResourceRecord) (slots : UInt32) :
    resource.Lapses (resource.giveBack slots) := by
  refine ⟨rfl, fun authority => authority, ?_⟩
  unfold giveBack
  split
  · rename_i enough
    rw [UInt32.le_iff_toNat_le, UInt32.toNat_sub_of_le _ _ enough]
    omega
  · exact UInt32.zero_le

theorem ResourceRecord.giveBackAll_lapses (resource : ResourceRecord) (claims : List ReservationClaim) :
    resource.Lapses (resource.giveBackAll claims) := by
  refine List.foldlRecOn _ _ (Lapses.refl resource) fun left sofar claim _ => ?_
  split
  · exact sofar.trans (left.giveBack_lapses claim.slots)
  · exact sofar

theorem ResourceRecord.loseIncarnation_lapses (worker : WorkerId) (boot : WorkerBootId)
    (resource : ResourceRecord) : resource.Lapses (resource.loseIncarnation worker boot) := by
  unfold loseIncarnation
  split
  · exact ⟨rfl, nofun, UInt32.le_refl _⟩
  · exact .refl resource

def StoredRequest.Keeps (before after : StoredRequest) : Prop := after.request = before.request

theorem StoredRequest.Keeps.refl (stored : StoredRequest) : stored.Keeps stored := rfl

theorem settleRequest_evolves (requests : RequestTable) (placement : PlacementRecord) (target : PlacementState) :
    Table.Evolves StoredRequest.Keeps requests (settleRequest requests placement target) := by
  unfold settleRequest
  split
  · exact .refl StoredRequest.Keeps.refl _
  · rename_i stored found
    have named := Table.key_of_find? found
    split
    · have same : (stored.settle target placement.detail).request = stored.request := by
        cases target <;> rfl
      have there : requests.find? (stored.settle target placement.detail).id = some stored := by
        rw [StoredRequest.id, same, ← StoredRequest.id, named, found]
      exact .set StoredRequest.Keeps.refl there same
    · exact .refl StoredRequest.Keeps.refl _

namespace Change

variable {state after : SchedulerState}

theorem resources (change : Change state after) :
    Table.Evolves ResourceRecord.Lapses state.resources after.resources := by
  have same := Table.Evolves.refl ResourceRecord.Lapses.refl state.resources
  cases change with
  | books resources => exact .of_eq ResourceRecord.Lapses.refl resources
  | invalidate worker boot =>
    exact .map (Table.find?_mapEntries _ _ (ResourceRecord.loseIncarnation_id worker boot))
      (ResourceRecord.loseIncarnation_lapses worker boot)
  | retire found => exact .set ResourceRecord.Lapses.refl found ⟨rfl, nofun, UInt32.le_refl _⟩
  | @finish placement target detail found live closed =>
    let ended := placement.finish target detail (state.transitionSequence + 1)
    change Table.Evolves _ _ (closeReservation state ended target).1
    rcases closeReservation_cases state ended target with ⟨kept, -⟩ | ⟨reservation, -, -, given⟩
    · rw [kept]
      exact same
    · rw [given]
      exact .map (releaseClaims_find? _ _) fun resource => resource.giveBackAll_lapses _
  | mark => exact same
  | complete => exact same

theorem requests (change : Change state after) :
    Table.Evolves StoredRequest.Keeps state.requests after.requests := by
  cases change with
  | books _ requests => exact .of_eq StoredRequest.Keeps.refl requests
  | invalidate => exact .refl StoredRequest.Keeps.refl _
  | retire => exact .refl StoredRequest.Keeps.refl _
  | finish => exact settleRequest_evolves ..
  | mark => exact .refl StoredRequest.Keeps.refl _
  | complete => exact .refl StoredRequest.Keeps.refl _

theorem placements (change : Change state after) :
    Table.Evolves PlacementRecord.Progresses state.placements after.placements := by
  have same := Table.Evolves.refl PlacementRecord.Progresses.refl state.placements
  cases change with
  | books _ _ placements => exact .of_eq PlacementRecord.Progresses.refl placements
  | invalidate => exact same
  | retire => exact same
  | finish detail found live =>
    exact .set PlacementRecord.Progresses.refl found (PlacementRecord.progresses_of_live rfl live)
  | mark detail found live =>
    exact .set PlacementRecord.Progresses.refl found (PlacementRecord.progresses_of_live rfl live)
  | complete detail found live =>
    exact .set PlacementRecord.Progresses.refl found (PlacementRecord.progresses_of_live rfl live)

theorem reservations (change : Change state after) :
    Table.Evolves ReservationRecord.Progresses state.reservations after.reservations := by
  have same := Table.Evolves.refl ReservationRecord.Progresses.refl state.reservations
  cases change with
  | books _ _ _ reservations => exact .of_eq ReservationRecord.Progresses.refl reservations
  | invalidate => exact same
  | retire => exact same
  | @finish placement target detail found live closed =>
    let ended := placement.finish target detail (state.transitionSequence + 1)
    change Table.Evolves _ _ (closeReservation state ended target).2
    rcases closeReservation_cases state ended target with ⟨kept, -⟩ | ⟨reservation, there, active, closed⟩
    · rw [kept]
      exact same
    · have named := Table.key_of_find? there
      rw [closed]
      exact .set ReservationRecord.Progresses.refl (named ▸ there) (reservation.close_progresses active ..)
  | mark => exact same
  | complete => exact same

theorem counters (change : Change state after) : SameCounters state after := by
  cases change with
  | books _ _ _ _ _ _ counters => exact counters
  | invalidate => exact ⟨rfl, rfl⟩
  | retire => exact ⟨rfl, rfl⟩
  | finish => exact ⟨rfl, rfl⟩
  | mark => exact ⟨rfl, rfl⟩
  | complete => exact ⟨rfl, rfl⟩

end Change

theorem Change.reservations_cases {state after : SchedulerState} (change : Change state after) :
    after.reservations = state.reservations ∨
      ∃ reservation target detail, state.reservations.find? reservation.id = some reservation ∧
        reservation.state = .active ∧
        after.reservations = state.reservations.set (reservation.close target detail) := by
  cases change with
  | books _ _ _ reservations => exact .inl reservations
  | invalidate => exact .inl rfl
  | retire => exact .inl rfl
  | @finish placement target detail found live closed =>
    let ended := placement.finish target detail (state.transitionSequence + 1)
    rcases closeReservation_cases state ended target with ⟨kept, -⟩ | ⟨reservation, there, active, closed⟩
    · exact .inl (congrArg Prod.snd kept)
    · have named := Table.key_of_find? there
      exact .inr ⟨reservation, target, ended.detail, named ▸ there, active, congrArg Prod.snd closed⟩
  | mark => exact .inl rfl
  | complete => exact .inl rfl

abbrev Changes : SchedulerState → SchedulerState → Prop := ReflTransGen Change

theorem Changes.preserve {invariant : SchedulerState → Prop} {state after : SchedulerState}
    (changes : Changes state after)
    (preserved : ∀ {state after}, Change state after → invariant state → invariant after)
    (initial : invariant state) : invariant after := by
  induction changes with
  | refl => exact initial
  | tail _ last ih => exact preserved last ih

theorem Changes.books {state after : SchedulerState} (resources : after.resources = state.resources)
    (requests : after.requests = state.requests) (placements : after.placements = state.placements)
    (reservations : after.reservations = state.reservations)
    (unitCurrent : after.unitCurrent = state.unitCurrent) (workers : KeepsWorkers state after)
    (counters : SameCounters state after) : Changes state after :=
  .single (.books resources requests placements reservations unitCurrent workers counters)

namespace Changes

variable {state after : SchedulerState} (changes : Changes state after)

include changes

theorem resources : Table.Evolves ResourceRecord.Lapses state.resources after.resources := by
  induction changes with
  | refl => exact .refl ResourceRecord.Lapses.refl _
  | tail _ last ih => exact ih.trans ResourceRecord.Lapses.trans last.resources

theorem requests : Table.Evolves StoredRequest.Keeps state.requests after.requests := by
  induction changes with
  | refl => exact .refl StoredRequest.Keeps.refl _
  | tail _ last ih => exact ih.trans (fun first second => Eq.trans second first) last.requests

theorem placements : Table.Evolves PlacementRecord.Progresses state.placements after.placements := by
  induction changes with
  | refl => exact .refl PlacementRecord.Progresses.refl _
  | tail _ last ih => exact ih.trans PlacementRecord.Progresses.trans last.placements

theorem reservations : Table.Evolves ReservationRecord.Progresses state.reservations after.reservations := by
  induction changes with
  | refl => exact .refl ReservationRecord.Progresses.refl _
  | tail _ last ih => exact ih.trans ReservationRecord.Progresses.trans last.reservations

end Changes

theorem changes_pushAudit {state after : SchedulerState} (changes : Changes state after)
    (config : EngineConfig) (kind detail : Text) : Changes state (pushAudit after config kind detail) :=
  changes.tail (.books rfl rfl rfl rfl rfl (.same rfl) ⟨rfl, rfl⟩)

theorem changes_foldl {α β : Type} {turn : SchedulerState × β → α → SchedulerState × β}
    (each : ∀ progress item, Changes progress.1 (turn progress item).1) (items : List α)
    (progress : SchedulerState × β) : Changes progress.1 (items.foldl turn progress).1 := by
  induction items generalizing progress with
  | nil => exact .refl
  | cons item rest ih => exact (each progress item).trans (ih _)

theorem terminatePlacement_changes {state : SchedulerState} {placement : PlacementRecord}
    {target : PlacementState} (detail : Text)
    (found : state.placements.find? placement.id = some placement)
    (closed : placementStateIsLive target = false) :
    Changes state (terminatePlacement state placement target detail).1 := by
  unfold terminatePlacement
  split
  · rename_i live
    exact .single (.finish detail found live closed)
  · exact .refl

theorem losePlacement_changes (worker : WorkerId) (boot : WorkerBootId) (affected : List ResourceId)
    (progress : SchedulerState × ResourceLossReport) (id : PlacementId) :
    Changes progress.1 (losePlacement worker boot affected progress id).1 := by
  unfold losePlacement
  split
  · exact .refl
  · rename_i placement found
    have same := Table.key_of_find? found
    split
    · exact terminatePlacement_changes _ (same ▸ found) rfl
    · exact .refl

theorem disconnectWorker_changes (state : SchedulerState) (worker : WorkerId) (boot : WorkerBootId)
    (detail : Text) : Changes state (disconnectWorker state worker boot detail) := by
  unfold disconnectWorker
  split
  · exact .refl
  · rename_i record found
    have key : record.id = worker := Table.key_of_find? found
    split
    · let later : WorkerRecord := { record with connected := false, detail := detail }
      have here : state.workers.find? later.id = some record := key ▸ found
      exact .books rfl rfl rfl rfl rfl (.written rfl here (.inl rfl)) ⟨rfl, rfl⟩
    · exact .refl

theorem invalidateWorkerIncarnation_loses (state : SchedulerState) (config : EngineConfig)
    (worker : WorkerId) (boot : WorkerBootId) (detail : Text) :
    Changes (invalidateResources state worker boot)
      (invalidateWorkerIncarnation state config worker boot detail).1 := by
  unfold invalidateWorkerIncarnation
  extract_lets affected report
  have looped := changes_foldl (losePlacement_changes worker boot affected) state.placements.keys
    (invalidateResources state worker boot, report)
  exact changes_pushAudit (looped.trans (disconnectWorker_changes ..)) ..

theorem invalidateWorkerIncarnation_changes (state : SchedulerState) (config : EngineConfig)
    (worker : WorkerId) (boot : WorkerBootId) (detail : Text) :
    Changes state (invalidateWorkerIncarnation state config worker boot detail).1 :=
  .trans (.single (.invalidate ..)) (invalidateWorkerIncarnation_loses ..)

theorem invalidateResources_silent (state : SchedulerState) (worker : WorkerId) (boot : WorkerBootId) :
    Silent (invalidateResources state worker boot) (worker, boot) := by
  intro resource member owner same
  obtain ⟨before, -, rfl⟩ := List.mem_map.mp member
  unfold ResourceRecord.loseIncarnation at owner same ⊢
  split at owner
  · rename_i held
    rw [if_pos held]
    rfl
  · rename_i unheld
    rw [if_neg unheld] at same ⊢
    by_contra authority
    have authority : before.dynamicAuthoritative = true := by simpa using authority
    exact unheld (by simp [ResourceRecord.heldBy, owner, same, authority])

theorem Changes.silent {state after : SchedulerState} (changes : Changes state after)
    {incarnation : Incarnation} (silent : Silent state incarnation) : Silent after incarnation := by
  intro resource member owner boot
  obtain ⟨before, there, -, lapses⟩ := changes.resources.of_mem member
  have unheard := silent before there (lapses.worker ▸ owner) (lapses.boot ▸ boot)
  by_contra authority
  have restored := lapses.authority (by simpa using authority)
  rw [unheard] at restored
  cases restored

theorem invalidateWorkerIncarnation_silent (state : SchedulerState) (config : EngineConfig)
    (worker : WorkerId) (boot : WorkerBootId) (detail : Text) :
    Silent (invalidateWorkerIncarnation state config worker boot detail).1 (worker, boot) :=
  (invalidateWorkerIncarnation_loses ..).silent (invalidateResources_silent state worker boot)

theorem enterIncarnation_changes {state : SchedulerState} {worker : WorkerId} (boot : WorkerBootId)
    (named : worker.isNull = false)
    (silent : ∀ record, state.workers.find? worker = some record → Silent state (worker, record.boot)) :
    Changes state (enterIncarnation state worker boot) := by
  unfold enterIncarnation
  extract_lets sequence
  split
  · exact .refl
  · rename_i record found
    have key : record.id = worker := Table.key_of_find? found
    have unheard := silent record found
    rw [← key] at found named unheard
    exact .books rfl rfl rfl rfl rfl (.written rfl found (.inr ⟨named, unheard⟩)) ⟨rfl, rfl⟩

theorem terminatePlacement_workers (state : SchedulerState) (placement : PlacementRecord)
    (target : PlacementState) (detail : Text) :
    (terminatePlacement state placement target detail).1.workers = state.workers := by
  unfold terminatePlacement
  split <;> rfl

theorem losePlacement_workers (worker : WorkerId) (boot : WorkerBootId) (affected : List ResourceId)
    (progress : SchedulerState × ResourceLossReport) (id : PlacementId) :
    (losePlacement worker boot affected progress id).1.workers = progress.1.workers := by
  unfold losePlacement
  split
  · rfl
  · split
    · exact terminatePlacement_workers ..
    · rfl

theorem invalidateWorkerIncarnation_boot {state : SchedulerState} {worker : WorkerId} {record : WorkerRecord}
    (config : EngineConfig) (boot : WorkerBootId) (detail : Text)
    (found : state.workers.find? worker = some record) :
    ∃ later, (invalidateWorkerIncarnation state config worker boot detail).1.workers.find? worker = some later ∧
      later.boot = record.boot := by
  unfold invalidateWorkerIncarnation
  extract_lets affected report
  let quiet (progress : SchedulerState × ResourceLossReport) : Prop := progress.1.workers = state.workers
  have looped : quiet (state.placements.keys.foldl (losePlacement worker boot affected)
      (invalidateResources state worker boot, report)) :=
    List.foldlRecOn _ _ rfl fun progress sofar id _ => (losePlacement_workers worker boot affected progress id).trans sofar
  generalize state.placements.keys.foldl (losePlacement worker boot affected)
      (invalidateResources state worker boot, report) = progress at looped
  change ∃ later, (disconnectWorker progress.1 worker boot detail).workers.find? worker = some later ∧ _
  have found : progress.1.workers.find? worker = some record := looped ▸ found
  unfold disconnectWorker
  rw [found]
  dsimp only
  split
  · have key : record.id = worker := Table.key_of_find? found
    refine ⟨{ record with connected := false, detail := detail }, ?_, rfl⟩
    rw [Table.find?_set]
    exact if_pos key
  · exact ⟨record, found, rfl⟩

theorem enterIncarnation_replaces {state : SchedulerState} (config : EngineConfig) {worker : WorkerId}
    {record : WorkerRecord} (named : worker.isNull = false) (found : state.workers.find? worker = some record)
    (boot : WorkerBootId) (detail : Text) :
    Changes (invalidateWorkerIncarnation state config worker record.boot detail).1
      (enterIncarnation (invalidateWorkerIncarnation state config worker record.boot detail).1 worker boot) := by
  have silent := invalidateWorkerIncarnation_silent state config worker record.boot detail
  obtain ⟨later, there, same⟩ := invalidateWorkerIncarnation_boot config record.boot detail found
  refine enterIncarnation_changes boot named fun other here => ?_
  rw [there] at here
  cases here
  rw [same]
  exact silent

theorem adoptWorkerIncarnation_changes (state : SchedulerState) (config : EngineConfig) {worker : WorkerId}
    (named : worker.isNull = false) (boot : WorkerBootId) (detail : Text) :
    Changes state (adoptWorkerIncarnation state config worker boot detail).1 := by
  unfold adoptWorkerIncarnation
  split
  · rename_i absent
    let record : WorkerRecord :=
      { id := worker
        boot := boot
        connected := true
        registrationSequence := state.workerSequence + 1
        detail := ascii "first incarnation observed by this coordinator" }
    refine .books rfl rfl rfl rfl rfl ⟨fun {id other} there => ⟨other, ?_, .inl rfl⟩⟩ ⟨rfl, rfl⟩
    change (state.workers.emplace record).find? id = some other
    rw [Table.find?_emplace, there]
    split <;> rfl
  · rename_i record found
    split
    · have key : record.id = worker := Table.key_of_find? found
      let later : WorkerRecord := { record with connected := true, detail := detail }
      have here : state.workers.find? later.id = some record := key ▸ found
      exact .books rfl rfl rfl rfl rfl (.written rfl here (.inl rfl)) ⟨rfl, rfl⟩
    · have lost := invalidateWorkerIncarnation_changes state config worker record.boot detail
      exact changes_pushAudit (lost.trans (enterIncarnation_replaces config named found boot detail)) ..

theorem workerChecks_ok {worker : WorkerId} {boot : WorkerBootId} (valid : workerChecks worker boot = .ok ()) :
    worker.isNull = false := by
  simp only [workerChecks, check_bind_ok, StrongId.validate_ok] at valid
  rw [← Bool.not_eq_true, StrongId.isNull_iff]
  exact valid.1

theorem workerConnected_changes (state : SchedulerState) (config : EngineConfig) (worker : WorkerId)
    (boot : WorkerBootId) : Changes state (workerConnected state config worker boot).1 := by
  unfold workerConnected
  split
  · exact .refl
  · rename_i valid
    exact adoptWorkerIncarnation_changes _ _ (workerChecks_ok valid) ..

theorem markWorkerLost_changes (state : SchedulerState) (config : EngineConfig) (worker : WorkerId)
    (boot : WorkerBootId) (detail : Text) :
    Changes state (markWorkerLost state config worker boot detail).1 := by
  unfold markWorkerLost
  split
  · exact .refl
  · exact invalidateWorkerIncarnation_changes ..

theorem adoptEpoch_changes (state : SchedulerState) (config : EngineConfig) (epoch : CoordinatorEpoch) :
    Changes state (adoptEpoch state config epoch).1 := by
  unfold adoptEpoch
  split
  · exact .refl
  · exact .books rfl rfl rfl rfl rfl (.same rfl) ⟨rfl, rfl⟩

theorem beginShutdown_changes (state : SchedulerState) (config : EngineConfig) :
    Changes state (beginShutdown state config).1 := by
  unfold beginShutdown
  split
  · exact .refl
  · exact .books rfl rfl rfl rfl rfl (.same rfl) ⟨rfl, rfl⟩

theorem retireChecks_ok {state : SchedulerState} {resource : ResourceId}
    {expectedGeneration : ResourceGeneration} {record : ResourceRecord}
    (accepted : retireChecks state resource expectedGeneration = .ok record) :
    state.resources.find? record.id = some record ∧ record.reservedSlots = 0 := by
  unfold retireChecks at accepted
  simp only [check_bind_ok] at accepted
  obtain ⟨-, accepted⟩ := accepted
  split at accepted
  · cases accepted
  · rename_i found
    simp at accepted
    obtain ⟨-, unreserved, rfl⟩ := accepted
    exact ⟨Table.key_of_find? found ▸ found, unreserved⟩

theorem retireResource_changes (state : SchedulerState) (config : EngineConfig) (resource : ResourceId)
    (expectedGeneration : ResourceGeneration) :
    Changes state (retireResource state config resource expectedGeneration).1 := by
  unfold retireResource
  split
  · exact .refl
  · rename_i record accepted
    obtain ⟨found, unreserved⟩ := retireChecks_ok accepted
    exact changes_pushAudit (.single (.retire found unreserved)) ..

theorem adoptOwner_changes (state : SchedulerState) (config : EngineConfig) (advertisement : ResourceAdvertisement) :
    Changes state (adoptOwner state config advertisement) := by
  unfold adoptOwner
  split
  · exact .refl
  · rename_i named
    exact adoptWorkerIncarnation_changes _ _ (Bool.eq_false_of_not_eq_true named) ..

/-- What `register_resource` has established when it adds the record. -/
structure Registers (state : SchedulerState) (config : EngineConfig) (advertisement : ResourceAdvertisement)
    (mid : SchedulerState) (record : ResourceRecord) : Prop where
  accepted : registerChecks state config advertisement = .ok ()
  adopted : mid = adoptOwner state config (normalizeAdvertisement advertisement)
  made : record = registeredRecord mid.epoch (normalizeAdvertisement advertisement)
  valid : validateResourceRecord record config.limits = .ok ()

namespace Registers

variable {state mid : SchedulerState} {config : EngineConfig} {advertisement : ResourceAdvertisement}
  {record : ResourceRecord} (registers : Registers state config advertisement mid record)

include registers

theorem changes : Changes state mid := by
  rw [registers.adopted]
  exact adoptOwner_changes ..

theorem unreserved : record.reservedSlots = 0 := by
  rw [registers.made]
  rfl

theorem absent : mid.resources.find? record.id = none := by
  have accepted := registers.accepted
  simp only [registerChecks, check_bind_ok, check_ok] at accepted
  have absent : state.resources.find? record.id = none := by
    rw [registers.made]
    exact accepted.2.2.2
  exact registers.changes.resources.absent absent

end Registers

theorem registerResource_cases (state : SchedulerState) (config : EngineConfig)
    (advertisement : ResourceAdvertisement) :
    Changes state (registerResource state config advertisement).1 ∨
      ∃ mid record, Registers state config advertisement mid record ∧
        (registerResource state config advertisement).1 =
          pushAudit { mid with resources := mid.resources.emplace record } config
            (ascii "resource.registered") (resourceSummary record) := by
  unfold registerResource
  split
  · exact .inl .refl
  · rename_i accepted
    extract_lets normalized mid record registered
    have adopted : Changes state mid := adoptOwner_changes ..
    split
    · exact .inl adopted
    · rename_i valid
      exact .inr ⟨mid, record, ⟨accepted, rfl, rfl, valid⟩, rfl⟩

/-- What `publish_resource_state` has established when it writes the record. -/
structure Publishes (state : SchedulerState) (config : EngineConfig) (advertisement : ResourceAdvertisement)
    (mid : SchedulerState) (live : ResourceRecord) : Prop where
  adopted : ∃ record, publishChecks state config advertisement = .ok record ∧
    mid = adoptPublisher state config (normalizeAdvertisement advertisement) record
  found : mid.resources.find? advertisement.id = some live
  accepted : publishLiveChecks (normalizeAdvertisement advertisement) live = .ok ()

def publishWrite (mid : SchedulerState) (advertisement : ResourceAdvertisement) (live : ResourceRecord) :
    SchedulerState :=
  { mid with
    resources := mid.resources.set (publishedRecord mid.epoch (normalizeAdvertisement advertisement) live) }

theorem publishChecks_worker {state : SchedulerState} {config : EngineConfig}
    {advertisement : ResourceAdvertisement} {record : ResourceRecord}
    (accepted : publishChecks state config advertisement = .ok record) : record.worker = advertisement.worker := by
  unfold publishChecks at accepted
  simp only [check_bind_ok] at accepted
  obtain ⟨-, -, accepted⟩ := accepted
  split at accepted
  · cases accepted
  · simp at accepted
    obtain ⟨owner, -, rfl⟩ := accepted
    exact owner

theorem publishChecks_found {state : SchedulerState} {config : EngineConfig}
    {advertisement : ResourceAdvertisement} {record : ResourceRecord}
    (accepted : publishChecks state config advertisement = .ok record) :
    state.resources.find? advertisement.id = some record := by
  unfold publishChecks at accepted
  simp only [check_bind_ok] at accepted
  obtain ⟨-, -, accepted⟩ := accepted
  split at accepted
  · cases accepted
  · rename_i found
    simp at accepted
    obtain ⟨-, -, rfl⟩ := accepted
    exact found

theorem adoptPublisher_changes {state : SchedulerState} {config : EngineConfig}
    {advertisement : ResourceAdvertisement} {record : ResourceRecord}
    (accepted : publishChecks state config advertisement = .ok record) :
    Changes state (adoptPublisher state config (normalizeAdvertisement advertisement) record) := by
  unfold adoptPublisher
  split
  · rename_i owned
    have named : (normalizeAdvertisement advertisement).worker.isNull = false :=
      publishChecks_worker accepted ▸ owned.1
    exact adoptWorkerIncarnation_changes _ _ named ..
  · exact .refl

theorem Publishes.changes {state : SchedulerState} {config : EngineConfig}
    {advertisement : ResourceAdvertisement} {mid : SchedulerState} {live : ResourceRecord}
    (publishes : Publishes state config advertisement mid live) : Changes state mid := by
  obtain ⟨record, accepted, rfl⟩ := publishes.adopted
  exact adoptPublisher_changes accepted

theorem publishResourceState_cases (state : SchedulerState) (config : EngineConfig)
    (advertisement : ResourceAdvertisement) :
    Changes state (publishResourceState state config advertisement).1 ∨
      ∃ mid live, Publishes state config advertisement mid live ∧
        Changes (publishWrite mid advertisement live) (publishResourceState state config advertisement).1 := by
  unfold publishResourceState
  split
  · exact .inl .refl
  · rename_i record checked
    extract_lets normalized mid
    have adopted : Changes state mid := adoptPublisher_changes checked
    split
    · exact .inl adopted
    · rename_i live found
      split
      · exact .inl adopted
      · rename_i accepted
        refine .inr ⟨mid, live, ⟨⟨record, checked, rfl⟩, found, accepted⟩, ?_⟩
        extract_lets published written
        split
        · exact .refl
        · exact .books rfl rfl rfl rfl rfl (.same rfl) ⟨rfl, rfl⟩

theorem markChecks_ok {state : SchedulerState} {placement : PlacementId} {generation : PlacementGeneration}
    {epoch : CoordinatorEpoch} {workerBoot : WorkerBootId} {record : PlacementRecord}
    (accepted : markChecks state placement generation epoch workerBoot = .ok record) :
    state.placements.find? record.id = some record ∧ placementStateIsLive record.state := by
  unfold markChecks at accepted
  simp only [check_bind_ok] at accepted
  obtain ⟨-, -, -, accepted⟩ := accepted
  split at accepted
  · cases accepted
  · rename_i found
    simp at accepted
    obtain ⟨-, -, live, rfl⟩ := accepted
    exact ⟨Table.key_of_find? found ▸ found, live⟩

theorem markAssigned_changes (state : SchedulerState) (config : EngineConfig) (placement : PlacementId)
    (generation : PlacementGeneration) (epoch : CoordinatorEpoch) (workerBoot : WorkerBootId) :
    Changes state (markAssigned state config placement generation epoch workerBoot).1 := by
  unfold markAssigned
  split
  · exact .refl
  · rename_i record accepted
    obtain ⟨_, checked, rest⟩ := except_bind_ok.mp accepted
    simp at rest
    obtain ⟨-, rfl⟩ := rest
    obtain ⟨found, live⟩ := markChecks_ok checked
    exact changes_pushAudit (.single (.mark _ found live rfl)) ..

theorem markRunning_changes (state : SchedulerState) (config : EngineConfig) (placement : PlacementId)
    (generation : PlacementGeneration) (epoch : CoordinatorEpoch) (workerBoot : WorkerBootId) :
    Changes state (markRunning state config placement generation epoch workerBoot).1 := by
  unfold markRunning
  split
  · exact .refl
  · rename_i record accepted
    obtain ⟨found, live⟩ := markChecks_ok accepted
    exact changes_pushAudit (.single (.mark _ found live rfl)) ..

theorem completionChecks_live {state : SchedulerState} {claim : CompletionClaim} {record : PlacementRecord}
    (accepted : completionChecks state claim record = .ok ()) : placementStateIsLive record.state := by
  simp only [completionChecks, check_bind_ok, check_ok] at accepted
  exact accepted.2.2.2.2.2.1

theorem reportCompletion_changes (state : SchedulerState) (config : EngineConfig) (claim : CompletionClaim) :
    Changes state (reportCompletion state config claim).1 := by
  unfold reportCompletion
  split
  · exact .refl
  · split
    · exact .refl
    · rename_i record found
      split
      · exact .refl
      · rename_i accepted
        have live := completionChecks_live accepted
        have found := Table.key_of_find? found ▸ found
        have noted : Changes state _ := .single (.complete claim.detail found live)
        refine changes_pushAudit (noted.trans (terminatePlacement_changes _ ?_ ?_)) ..
        · exact Table.find?_set_self ..
        · cases claim.succeeded <;> rfl

theorem cancelPlacement_changes (state : SchedulerState) (config : EngineConfig) (placement : PlacementId)
    (generation : PlacementGeneration) (epoch : CoordinatorEpoch) (reason : Text) :
    Changes state (cancelPlacement state config placement generation epoch reason).1 := by
  unfold cancelPlacement
  split
  · exact .refl
  · split
    · exact .refl
    · split
      · exact .refl
      · rename_i record found
        extract_lets report
        have found := Table.key_of_find? found ▸ found
        split
        · exact .refl
        · split
          · exact .refl
          · split
            · exact changes_pushAudit (terminatePlacement_changes _ found rfl) ..
            · exact .refl

theorem cancelTurn_changes (request : ScheduleRequestId) (reason : Text)
    (progress : SchedulerState × CancellationReport) (id : PlacementId) :
    Changes progress.1 (cancelTurn request reason progress id).1 := by
  unfold cancelTurn
  split
  · exact .refl
  · rename_i placement found
    have found := Table.key_of_find? found ▸ found
    split
    · exact terminatePlacement_changes _ found rfl
    · exact .refl

end LabScheduler
