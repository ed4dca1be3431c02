import LabScheduler.Engine.Lives

namespace LabScheduler

open Foundation

section ClosedForm

/-- The worker of a resource joins the workers, unless it is among them already. -/
def enlistOwner (workers : Table WorkerRecord.id × UInt64) (record : ResourceRecord) :
    Table WorkerRecord.id × UInt64 :=
  if record.worker.isNull then workers
  else
    match workers.1.find? record.worker with
    | some _ => workers
    | none =>
      (workers.1.emplace
          { id := record.worker
            boot := record.boot
            connected := false
            registrationSequence := workers.2 + 1
            detail := ascii "restored from durable state; incarnation is not connected" },
        workers.2 + 1)

/-- A live placement is revoked under the next number, the others come back as they are. -/
def restorePlacement (placements : PlacementTable × UInt64) (persisted : PlacementRecord) :
    PlacementTable × UInt64 :=
  if placementStateIsLive persisted.state then
    (placements.1.emplace (persisted.revoke (placements.2 + 1)), placements.2 + 1)
  else (placements.1.emplace persisted, placements.2)

theorem enlistOwner_recovered (workers : Table WorkerRecord.id × UInt64) (epoch : CoordinatorEpoch)
    (persisted : ResourceRecord) : enlistOwner workers (recoveredResource epoch persisted) = enlistOwner workers persisted := by
  unfold enlistOwner
  rw [recoveredResource_worker, recoveredResource_boot]

theorem recoverWorker_enlists {recovery : Recovery} {record : ResourceRecord} (owned : record.worker.isNull = false) :
    (recoverWorker recovery record).state =
      { recovery.state with
        workers := (enlistOwner (recovery.state.workers, recovery.state.workerSequence) record).1
        workerSequence := (enlistOwner (recovery.state.workers, recovery.state.workerSequence) record).2 } := by
  simp only [recoverWorker, enlistOwner, owned, Bool.false_eq_true, if_false]
  cases known : recovery.state.workers.find? record.worker <;> rfl

theorem recoverOwner_enlists (recovery : Recovery) (record : ResourceRecord) :
    (recoverOwner recovery record).state =
      { recovery.state with
        workers := (enlistOwner (recovery.state.workers, recovery.state.workerSequence) record).1
        workerSequence := (enlistOwner (recovery.state.workers, recovery.state.workerSequence) record).2 } := by
  unfold recoverOwner
  split
  · rename_i unowned
    simp only [enlistOwner, unowned, if_true]
  · rename_i owned
    exact recoverWorker_enlists (Bool.eq_false_iff.mpr owned)

theorem recoverResource_enlists (recovery : Recovery) (persisted : ResourceRecord) :
    (recoverResource recovery persisted).state =
      { recovery.state with
        workers := (enlistOwner (recovery.state.workers, recovery.state.workerSequence) persisted).1
        workerSequence := (enlistOwner (recovery.state.workers, recovery.state.workerSequence) persisted).2
        resources := recovery.state.resources.emplace (recoveredResource recovery.state.epoch persisted) } := by
  unfold recoverResource
  extract_lets record owned
  have same : owned.state = _ := recoverOwner_enlists { recovery with floor := recovery.floor.observe record.id } record
  change { owned.state with resources := owned.state.resources.emplace record } = _
  rw [same]
  simp only [record, enlistOwner_recovered]
  rfl

theorem recoverResources_state (resources : List ResourceRecord) (recovery : Recovery) :
    (resources.foldl recoverResource recovery).state =
      { recovery.state with
        workers := (resources.foldl enlistOwner (recovery.state.workers, recovery.state.workerSequence)).1
        workerSequence := (resources.foldl enlistOwner (recovery.state.workers, recovery.state.workerSequence)).2
        resources := resources.foldl
          (fun table persisted => table.emplace (recoveredResource recovery.state.epoch persisted))
          recovery.state.resources } := by
  induction resources generalizing recovery with
  | nil => rfl
  | cons persisted rest ih => simp only [List.foldl_cons, ih, recoverResource_enlists]

theorem recoverRequests_state (requests : List StoredRequest) (recovery : Recovery) :
    (requests.foldl recoverRequest recovery).state =
      { recovery.state with
        requests := requests.foldl (fun table persisted => table.emplace (recoveredRequest persisted))
          recovery.state.requests } := by
  induction requests generalizing recovery with
  | nil => rfl
  | cons persisted rest ih => simp only [List.foldl_cons, ih, recoverRequest]

theorem recoverPlacement_restores (recovery : Recovery) (persisted : PlacementRecord) :
    (recoverPlacement recovery persisted).state =
      { recovery.state with
        placements := (restorePlacement (recovery.state.placements, recovery.state.transitionSequence) persisted).1
        transitionSequence :=
          (restorePlacement (recovery.state.placements, recovery.state.transitionSequence) persisted).2 } := by
  unfold recoverPlacement restorePlacement
  extract_lets floor preserved sequence placement
  split <;> rfl

theorem recoverPlacements_state (placements : List PlacementRecord) (recovery : Recovery) :
    (placements.foldl recoverPlacement recovery).state =
      { recovery.state with
        placements :=
          (placements.foldl restorePlacement (recovery.state.placements, recovery.state.transitionSequence)).1
        transitionSequence :=
          (placements.foldl restorePlacement (recovery.state.placements, recovery.state.transitionSequence)).2 } := by
  induction placements generalizing recovery with
  | nil => rfl
  | cons persisted rest ih => simp only [List.foldl_cons, ih, recoverPlacement_restores]

theorem recoverReservations_state (reservations : List ReservationRecord) (recovery : Recovery) :
    (reservations.foldl recoverReservation recovery).state =
      { recovery.state with
        reservations := reservations.foldl (fun table persisted => table.emplace (recoveredReservation persisted))
          recovery.state.reservations } := by
  induction reservations generalizing recovery with
  | nil => rfl
  | cons persisted rest ih => simp only [List.foldl_cons, ih, recoverReservation]

theorem rebuildState_state (state : SchedulerState) (durable : DurableState) :
    (rebuildState state durable).state =
      { state with
        epoch := durable.epoch.bump
        workers := (durable.resources.foldl enlistOwner (state.workers, state.workerSequence)).1
        workerSequence := (durable.resources.foldl enlistOwner (state.workers, state.workerSequence)).2
        resources := durable.resources.foldl
          (fun table persisted => table.emplace (recoveredResource durable.epoch.bump persisted)) state.resources
        requests := durable.requests.foldl (fun table persisted => table.emplace (recoveredRequest persisted))
          state.requests
        placements := (durable.placements.foldl restorePlacement (state.placements, state.transitionSequence)).1
        transitionSequence :=
          (durable.placements.foldl restorePlacement (state.placements, state.transitionSequence)).2
        reservations := durable.reservations.foldl
          (fun table persisted => table.emplace (recoveredReservation persisted)) state.reservations } := by
  simp only [rebuildState, recoverReservations_state, recoverPlacements_state, recoverRequests_state,
    recoverResources_state, openRecovery]

end ClosedForm

section Accepted

variable {durable other : DurableState}

/-- What `validate_durable_state` asks of a reservation, whatever its state. -/
structure ReservationRecord.Checked (durable : DurableState) (reservation : ReservationRecord) : Prop where
  named : reservation.id.value ≠ 0
  header : validateReservationHeader durable reservation = .ok ()
  claims : ∀ claim ∈ reservation.claims,
    claim.resource ∈ durable.resources.map (fun resource => resource.id) ∧ claim.slots ≠ 0

theorem validateClaim_checked {active : Bool} {claimed result : ClaimedSlots} {claim : ReservationClaim}
    (accepted : validateClaim durable active claimed claim = .ok result) :
    claim.resource ∈ durable.resources.map (fun resource => resource.id) ∧ claim.slots ≠ 0 := by
  unfold validateClaim at accepted
  split at accepted
  · cases accepted
  · rename_i resource found
    obtain ⟨slots, -⟩ := check_bind_ok.mp accepted
    have named : resource.id = claim.resource := by simpa using List.find?_some found
    exact ⟨List.mem_map.mpr ⟨resource, List.mem_of_find?_eq_some found, named⟩, check_ok.mp slots⟩

theorem validateClaims_checked {active : Bool} {claimed result : ClaimedSlots} {claims : List ReservationClaim}
    (accepted : validateClaims durable active claimed claims = .ok result) {claim : ReservationClaim}
    (member : claim ∈ claims) :
    claim.resource ∈ durable.resources.map (fun resource => resource.id) ∧ claim.slots ≠ 0 := by
  induction claims generalizing claimed with
  | nil => cases member
  | cons first rest ih =>
    obtain ⟨_, head, others⟩ := except_bind_ok.mp accepted
    rcases List.mem_cons.mp member with rfl | later
    · exact validateClaim_checked head
    · exact ih others later

theorem validateReservations_checked {seen : List ReservationId} {claimed result : ClaimedSlots}
    {reservations : List ReservationRecord}
    (accepted : validateReservations durable seen claimed reservations = .ok result)
    {reservation : ReservationRecord} (member : reservation ∈ reservations) : reservation.Checked durable := by
  induction reservations generalizing seen claimed with
  | nil => cases member
  | cons first rest ih =>
    simp only [validateReservations, insertUnique, check_bind_ok, check_ok] at accepted
    obtain ⟨⟨named, -⟩, header, accepted⟩ := accepted
    obtain ⟨_, claims, others⟩ := except_bind_ok.mp accepted
    rcases List.mem_cons.mp member with rfl | later
    · exact ⟨named, header, fun claim listed => validateClaims_checked claims listed⟩
    · exact ih others later

theorem validateClaims_inactive {claimed : ClaimedSlots} {claims : List ReservationClaim}
    (checked : ∀ claim ∈ claims,
      claim.resource ∈ durable.resources.map (fun resource => resource.id) ∧ claim.slots ≠ 0) :
    validateClaims durable false claimed claims = .ok claimed := by
  induction claims with
  | nil => rfl
  | cons claim rest ih =>
    obtain ⟨⟨known, slots⟩, others⟩ := List.forall_mem_cons.mp checked
    obtain ⟨resource, listed, same⟩ := List.mem_map.mp known
    have first : validateClaim durable false claimed claim = .ok claimed := by
      unfold validateClaim
      split
      · rename_i none
        have apart := List.find?_eq_none.mp none resource listed
        simp [same] at apart
      · exact check_bind_ok.mpr ⟨check_ok.mpr slots, rfl⟩
    unfold validateClaims
    rw [first]
    exact ih others

theorem validateReservations_inactive {seen : List ReservationId} {claimed : ClaimedSlots}
    {reservations : List ReservationRecord} (checked : ∀ reservation ∈ reservations, reservation.Checked durable)
    (inactive : ∀ reservation ∈ reservations, reservation.state ≠ .active)
    (fresh : ∀ reservation ∈ reservations, reservation.id ∉ seen)
    (distinct : (reservations.map ReservationRecord.id).Nodup) :
    validateReservations durable seen claimed reservations = .ok claimed := by
  induction reservations generalizing seen with
  | nil => rfl
  | cons reservation rest ih =>
    obtain ⟨⟨named, header, claims⟩, checked⟩ := List.forall_mem_cons.mp checked
    obtain ⟨closed, inactive⟩ := List.forall_mem_cons.mp inactive
    obtain ⟨new, fresh⟩ := List.forall_mem_cons.mp fresh
    obtain ⟨apart, distinct⟩ := List.nodup_cons.mp distinct
    have quiet : (reservation.state == .active) = false := beq_eq_false_iff_ne.mpr closed
    have later : ∀ other ∈ rest, other.id ∉ reservation.id :: seen := by
      intro other member again
      rcases List.mem_cons.mp again with same | before
      · exact apart (List.mem_map.mpr ⟨other, member, same⟩)
      · exact fresh other member before
    simp only [validateReservations, insertUnique, check_bind_ok, check_ok]
    refine ⟨⟨named, new⟩, header, ?_⟩
    rw [quiet, validateClaims_inactive claims]
    exact ih checked inactive later distinct

theorem validateResourceRecord_recovered {limits : Limits} {epoch : CoordinatorEpoch} {persisted : ResourceRecord}
    (valid : validateResourceRecord persisted limits = .ok ()) :
    validateResourceRecord (recoveredResource epoch persisted) limits = .ok () := by
  have advertisement := validateResourceRecord_advertisement valid
  have fits := (validateAdvertisement_capacity advertisement).2
  have same : (recoveredResource epoch persisted).toDescription = persisted.toDescription := by
    simp only [recoveredResource]
    split <;> rfl
  have free : (recoveredResource epoch persisted).reservedSlots = 0 := by
    simp only [recoveredResource]
    split <;> rfl
  simp only [validateResourceRecord, check_bind_ok, check_ok, ResourceRecord.totalOccupancy, same, free]
  refine ⟨advertisement, fun retired => retired.2 rfl, ?_⟩
  rw [UInt32.add_zero]
  exact fits

end Accepted

section Restart

attribute [ext] SchedulerState

variable {engine : Engine} {config : EngineConfig}

theorem recoveredRequest_id (persisted : StoredRequest) : (recoveredRequest persisted).id = persisted.id :=
  congrArg ScheduleRequest.id (recoveredRequest_request persisted)

theorem exported_tables (engine : Engine) (config : EngineConfig) :
    let rebuilt := (rebuildState (Engine.fresh config).state engine.exported).state
    rebuilt.resources = engine.state.resources.mapEntries (recoveredResource engine.state.epoch.bump)
        (recoveredResource_id _) ∧
      rebuilt.requests = engine.state.requests.mapEntries recoveredRequest recoveredRequest_id ∧
      rebuilt.reservations = engine.state.reservations.mapEntries recoveredReservation recoveredReservation_id := by
  intro rebuilt
  have state : rebuilt = _ := rebuildState_state (Engine.fresh config).state engine.exported
  rw [state]
  exact ⟨Table.refill _ _, Table.refill _ _, Table.refill _ _⟩

theorem exported_placements (engine : Engine) (config : EngineConfig)
    (ended : ∀ placement ∈ engine.state.placements.entries, placementStateIsLive placement.state = false) :
    let rebuilt := (rebuildState (Engine.fresh config).state engine.exported).state
    rebuilt.placements = engine.state.placements ∧ rebuilt.transitionSequence = 0 := by
  intro rebuilt
  have state : rebuilt = _ := rebuildState_state (Engine.fresh config).state engine.exported
  have fill (placements : List PlacementRecord) (table : PlacementTable) (sequence : UInt64)
      (ended : ∀ placement ∈ placements, placementStateIsLive placement.state = false) :
      placements.foldl restorePlacement (table, sequence) =
        (placements.foldl (fun table persisted => table.emplace persisted) table, sequence) := by
    induction placements generalizing table with
    | nil => rfl
    | cons persisted rest ih =>
      obtain ⟨first, others⟩ := List.forall_mem_cons.mp ended
      simp only [List.foldl_cons, restorePlacement, first, Bool.false_eq_true, if_false, ih _ others]
  have filled := fill _ Table.empty 0 ended
  rw [state]
  constructor
  · refine (congrArg Prod.fst filled).trans ?_
    have kept : engine.state.placements.mapEntries id (fun _ => rfl) = engine.state.placements :=
      Table.mapEntries_fixed fun _ _ => rfl
    exact (Table.refill engine.state.placements fun _ => rfl).trans kept
  · exact congrArg Prod.snd filled

theorem Engine.live_accepted (accepted : importChecks (Engine.fresh config).state engine.exported = .ok ()) :
    let later := (engine.live (.restart config)).1
    later.config = config ∧ ∃ kind detail, later.state =
      pushAudit (rebuildState (Engine.fresh config).state engine.exported).state config kind detail := by
  simp only [Engine.live, Engine.step, importState, accepted]
  exact ⟨rfl, _, _, rfl⟩

theorem fresh_accepts (config : EngineConfig) {durable : DurableState} (loads : validateDurableState durable = .ok ()) :
    importChecks (Engine.fresh config).state durable = .ok () := by
  unfold importChecks
  rw [loads]
  rfl

/-- An engine as a restart leaves it: nothing in it has authority, and the rest is that of a fresh one. -/
structure Engine.Restarted (config : EngineConfig) (engine : Engine) : Prop where
  configured : engine.config = config
  resources : ∀ record ∈ engine.state.resources.entries, ∃ persisted, record = recoveredResource engine.state.epoch persisted
  requests : ∀ stored ∈ engine.state.requests.entries, recoveredRequest stored = stored
  placements : ∀ placement ∈ engine.state.placements.entries, placementStateIsLive placement.state = false
  reservations : ∀ reservation ∈ engine.state.reservations.entries, reservation.state ≠ .active
  workers : (engine.state.workers, engine.state.workerSequence) =
    engine.state.resources.entries.foldl enlistOwner (Table.empty, 0)
  rest : engine.state =
    { (Engine.fresh config).state with
      epoch := engine.state.epoch
      resources := engine.state.resources
      requests := engine.state.requests
      placements := engine.state.placements
      reservations := engine.state.reservations
      workers := engine.state.workers
      workerSequence := engine.state.workerSequence
      transitionSequence := engine.state.transitionSequence
      audit := engine.state.audit
      auditSequence := if config.recordAudit then 1 else 0 }

theorem recoveredRequest_again (persisted : StoredRequest) :
    recoveredRequest (recoveredRequest persisted) = recoveredRequest persisted := by
  unfold recoveredRequest
  by_cases placed : persisted.state = .placed
  · simp [placed]
  · simp [placed]

theorem enlistOwners_recovered (resources : List ResourceRecord) (epoch : CoordinatorEpoch)
    (workers : Table WorkerRecord.id × UInt64) :
    (resources.map (recoveredResource epoch)).foldl enlistOwner workers = resources.foldl enlistOwner workers := by
  simp only [List.foldl_map, enlistOwner_recovered]

theorem Engine.live_restarted (loads : validateDurableState engine.exported = .ok ()) :
    Restarted config (engine.live (.restart config)).1 := by
  have accepted := fresh_accepts config loads
  obtain ⟨same, kind, detail, after⟩ := Engine.live_accepted accepted
  have rebuilt := rebuildState_rebuilt accepted
  have state := rebuildState_state (Engine.fresh config).state engine.exported
  obtain ⟨resources, requests, -⟩ := exported_tables engine config
  have epoch : (engine.live (.restart config)).1.state.epoch = engine.state.epoch.bump := by
    rw [after]
    exact rebuildState_epoch ..
  constructor
  case configured => exact same
  case resources =>
    rw [epoch, after]
    intro record member
    obtain ⟨persisted, -, made⟩ := rebuilt.resources record member
    exact ⟨persisted, made⟩
  case requests =>
    rw [after]
    intro stored member
    obtain ⟨persisted, -, rfl⟩ := rebuilt.requests stored member
    exact recoveredRequest_again persisted
  case placements =>
    rw [after]
    exact fun placement member => rebuilt.not_live member
  case reservations =>
    rw [after]
    exact fun reservation member => rebuilt.not_active member
  case workers =>
    rw [after]
    change (_, _) = (rebuildState (Engine.fresh config).state engine.exported).state.resources.entries.foldl _ _
    rw [resources]
    refine Eq.trans ?_ (enlistOwners_recovered _ _ _).symm
    change ((rebuildState _ _).state.workers, (rebuildState _ _).state.workerSequence) = _
    rw [state]
    rfl
  case rest =>
    rw [after]
    unfold pushAudit
    rw [state]
    rfl

theorem validatePlacement_terms {durable other : DurableState} {before after : PlacementRecord}
    (terms : after.terms = before.terms)
    (resources : other.resources.map (fun resource => resource.id) = durable.resources.map fun resource => resource.id)
    (requests : other.requests.map StoredRequest.id = durable.requests.map StoredRequest.id)
    (valid : validatePlacement durable before = .ok ()) : validatePlacement other after = .ok () := by
  have generation := congrArg PlacementRecord.generation terms
  have request := congrArg PlacementRecord.request terms
  have selects := congrArg PlacementRecord.resources terms
  have generation : after.generation = before.generation := generation
  have request : after.request = before.request := request
  have selects : after.resources = before.resources := selects
  unfold validatePlacement at valid ⊢
  rw [generation, request, selects, resources, requests]
  exact valid

theorem ReservationRecord.Checked.recovered {durable other : DurableState} {reservation : ReservationRecord}
    (checked : reservation.Checked durable)
    (resources : other.resources.map (fun resource => resource.id) = durable.resources.map fun resource => resource.id)
    (placements : durable.placements.map PlacementRecord.id ⊆ other.placements.map PlacementRecord.id) :
    (recoveredReservation reservation).Checked other := by
  obtain ⟨named, header, claims⟩ := checked
  simp only [validateReservationHeader, check_bind_ok, check_ok] at header
  obtain ⟨lease, some, known⟩ := header
  have id := recoveredReservation_id reservation
  have fields : (recoveredReservation reservation).lease = reservation.lease ∧
      (recoveredReservation reservation).claims = reservation.claims ∧
      (recoveredReservation reservation).placement = reservation.placement := by
    unfold recoveredReservation
    split <;> exact ⟨rfl, rfl, rfl⟩
  obtain ⟨leased, claimed, placed⟩ := fields
  constructor
  case named => rwa [id]
  case header =>
    simp only [validateReservationHeader, check_bind_ok, check_ok, leased, claimed, placed]
    exact ⟨lease, some, placements known⟩
  case claims =>
    rw [claimed, resources]
    exact claims

/-- What a coordinator that loaded `durable` exports, if nothing has happened since. -/
structure Reexported (durable other : DurableState) : Prop where
  formatVersion : other.formatVersion = kPersistenceFormatVersion
  limits : other.limits = durable.limits
  epoch : other.epoch = durable.epoch.bump
  resourceIds : other.resources.map (fun resource => resource.id) = durable.resources.map fun resource => resource.id
  requestIds : other.requests.map StoredRequest.id = durable.requests.map StoredRequest.id
  placementIds : durable.placements.map PlacementRecord.id ⊆ other.placements.map PlacementRecord.id
  distinct : (other.placements.map PlacementRecord.id).Nodup
  reservationIds : other.reservations.map ReservationRecord.id = durable.reservations.map ReservationRecord.id
  resources : ∀ record ∈ other.resources,
    ∃ persisted ∈ durable.resources, record = recoveredResource durable.epoch.bump persisted
  requests : ∀ stored ∈ other.requests, ∃ persisted ∈ durable.requests, stored = recoveredRequest persisted
  placements : ∀ placement ∈ other.placements, ∃ persisted ∈ durable.placements, placement.terms = persisted.terms
  reservations : ∀ reservation ∈ other.reservations,
    (∃ persisted ∈ durable.reservations, reservation = recoveredReservation persisted) ∧ reservation.state ≠ .active
  unreserved : ∀ resource ∈ other.resources, resource.reservedSlots = 0

theorem Engine.live_reexported (accepted : importChecks (Engine.fresh config).state engine.exported = .ok ())
    (limits : config.limits = engine.config.limits) :
    Reexported engine.exported (engine.live (.restart config)).1.exported := by
  obtain ⟨same, kind, detail, after⟩ := Engine.live_accepted accepted
  have rebuilt := rebuildState_rebuilt accepted
  have epoch := rebuildState_epoch (Engine.fresh config).state engine.exported
  have present {persisted : PlacementRecord} (member : persisted ∈ engine.exported.placements) :=
    rebuildState_placement (Engine.fresh config).state member
  obtain ⟨resources, requests, reservations⟩ := exported_tables engine config
  generalize (rebuildState (Engine.fresh config).state engine.exported).state = state at *
  generalize (engine.live (.restart config)).1 = later at *
  have resourceTable : later.state.resources = state.resources := by rw [after]; rfl
  have requestTable : later.state.requests = state.requests := by rw [after]; rfl
  have placementTable : later.state.placements = state.placements := by rw [after]; rfl
  have reservationTable : later.state.reservations = state.reservations := by rw [after]; rfl
  constructor
  case formatVersion => rfl
  case limits =>
    change later.config.limits = engine.config.limits
    rw [same, limits]
  case epoch =>
    change later.state.epoch = _
    rw [after]
    exact epoch
  case resourceIds =>
    change later.state.resources.keys = engine.state.resources.keys
    rw [resourceTable, resources, Table.keys_mapEntries]
  case requestIds =>
    change later.state.requests.keys = engine.state.requests.keys
    rw [requestTable, requests, Table.keys_mapEntries]
  case placementIds =>
    intro id member
    obtain ⟨persisted, listed, rfl⟩ := List.mem_map.mp member
    obtain ⟨placement, found⟩ := Option.ne_none_iff_exists'.mp (present listed)
    change _ ∈ later.state.placements.keys
    rw [placementTable]
    exact Table.mem_keys found
  case distinct => exact later.state.placements.keys_nodup
  case reservationIds =>
    change later.state.reservations.keys = engine.state.reservations.keys
    rw [reservationTable, reservations, Table.keys_mapEntries]
  case resources => exact fun record member => rebuilt.resources record (resourceTable ▸ member)
  case requests => exact fun stored member => rebuilt.requests stored (requestTable ▸ member)
  case placements => exact fun placement member => rebuilt.placement_terms (placementTable ▸ member)
  case reservations =>
    intro reservation member
    have there : reservation ∈ state.reservations.entries := reservationTable ▸ member
    exact ⟨rebuilt.reservations reservation there, rebuilt.not_active there⟩
  case unreserved => exact fun resource member => rebuilt.unreserved (resourceTable ▸ member)

/-- Records made from valid ones, one by one, are valid. -/
theorem validateUnique_made {α : Type} {kind : IdKind} {identity : α → StrongId kind} {what : Text}
    {test retest : α → Check} {records others : List α} (valid : validateUnique identity what test [] records = .ok ())
    (distinct : (others.map identity).Nodup)
    (made : ∀ other ∈ others, ∃ record ∈ records,
      identity other = identity record ∧ (test record = .ok () → retest other = .ok ())) :
    validateUnique identity what retest [] others = .ok () := by
  obtain ⟨fine, -⟩ := validateUnique_ok.mp valid
  refine validateUnique_ok.mpr ⟨fun other member => ?_, distinct⟩
  obtain ⟨record, listed, same, kept⟩ := made other member
  obtain ⟨named, -, passes⟩ := fine record listed
  rw [same]
  exact ⟨named, List.not_mem_nil, kept passes⟩

section Reexport

variable {durable other : DurableState}

theorem Reexported.placements_length (again : Reexported durable other) :
    other.placements.length ≤ durable.placements.length := by
  have inside : other.placements.map PlacementRecord.id ⊆ durable.placements.map PlacementRecord.id := by
    intro id member
    obtain ⟨placement, listed, rfl⟩ := List.mem_map.mp member
    obtain ⟨persisted, before, terms⟩ := again.placements placement listed
    exact List.mem_map.mpr ⟨persisted, before, (congrArg PlacementRecord.id terms).symm⟩
  have fewer := (again.distinct.subperm inside).length_le
  rwa [List.length_map, List.length_map] at fewer

theorem Reexported.reserved (again : Reexported durable other) {claimed : ClaimedSlots}
    (checked : validateReservations durable [] (fun _ => 0) durable.reservations = .ok claimed) :
    validateReservations other [] (fun _ => 0) other.reservations = .ok fun _ => 0 := by
  have distinct := (validateReservations_distinct checked).2
  rw [← again.reservationIds] at distinct
  refine validateReservations_inactive ?_ (fun reservation member => (again.reservations reservation member).2)
    (fun _ _ => List.not_mem_nil) distinct
  intro reservation member
  obtain ⟨⟨persisted, listed, rfl⟩, -⟩ := again.reservations reservation member
  exact (validateReservations_checked checked listed).recovered again.resourceIds again.placementIds

theorem Reexported.loads (again : Reexported durable other) (loads : validateDurableState durable = .ok ())
    (room : durable.epoch.bump.value ≠ 0) : validateDurableState other = .ok () := by
  simp only [validateDurableState, check_bind_ok, check_ok] at loads ⊢
  obtain ⟨-, -, ⟨fewResources, fewRequests, fewPlacements, fewReservations⟩, resources, requests, placements,
    reserved⟩ := loads
  obtain ⟨claimed, checked, -⟩ := except_bind_ok.mp reserved
  have distinctResources := (validateUnique_ok.mp resources).2
  have distinctRequests := (validateUnique_ok.mp requests).2
  rw [← again.resourceIds] at distinctResources
  rw [← again.requestIds] at distinctRequests
  have sameResources := congrArg List.length again.resourceIds
  have sameRequests := congrArg List.length again.requestIds
  have sameReservations := congrArg List.length again.reservationIds
  simp only [List.length_map] at sameResources sameRequests sameReservations
  rw [again.limits, again.epoch, sameResources, sameRequests, sameReservations]
  refine ⟨again.formatVersion, room, ⟨fewResources, fewRequests, again.placements_length.trans fewPlacements,
    fewReservations⟩, validateUnique_made resources distinctResources ?_,
    validateUnique_made requests distinctRequests ?_, validateUnique_made placements again.distinct ?_,
    except_bind_ok.mpr ⟨_, again.reserved checked, ?_⟩⟩
  · intro record member
    obtain ⟨persisted, listed, rfl⟩ := again.resources record member
    exact ⟨persisted, listed, recoveredResource_id .., validateResourceRecord_recovered⟩
  · intro stored member
    obtain ⟨persisted, listed, rfl⟩ := again.requests stored member
    refine ⟨persisted, listed, recoveredRequest_id .., fun valid => ?_⟩
    rw [recoveredRequest_request]
    exact valid
  · intro placement member
    obtain ⟨persisted, listed, terms⟩ := again.placements placement member
    have id := congrArg PlacementRecord.id terms
    exact ⟨persisted, listed, id, validatePlacement_terms terms again.resourceIds again.requestIds⟩
  · rw [check_forM_ok]
    intro resource member
    rw [again.unreserved resource member]
    rfl

end Reexport

/-- The next coordinator loads what the first one has, as long as there is an epoch left to enter. -/
theorem Engine.live_loads (loads : validateDurableState engine.exported = .ok ())
    (limits : config.limits = engine.config.limits) (room : engine.state.epoch.bump.value ≠ 0) :
    validateDurableState (engine.live (.restart config)).1.exported = .ok () :=
  (Engine.live_reexported (fresh_accepts config loads) limits).loads loads room

/-- A resource after further restarts, the last of which entered `epoch`. -/
def ResourceRecord.resumed (record : ResourceRecord) (restarts : Nat) (epoch : CoordinatorEpoch) : ResourceRecord :=
  { record with
    generation := ⟨record.generation.value + UInt64.ofNat restarts⟩
    validatedEpoch := if record.worker.isNull then epoch else {} }

theorem recoveredResource_again (entered epoch later : CoordinatorEpoch) (persisted : ResourceRecord) (restarts : Nat) :
    recoveredResource later ((recoveredResource entered persisted).resumed restarts epoch) =
      (recoveredResource entered persisted).resumed (restarts + 1) later := by
  have next : UInt64.ofNat (restarts + 1) = UInt64.ofNat restarts + 1 := UInt64.ofNat_add restarts 1
  by_cases unowned : persisted.worker.isNull
  · by_cases retired : persisted.lifecycle = .retired
    · simp [recoveredResource, ResourceRecord.resumed, unowned, retired, next, StrongId.bump, UInt64.add_assoc]
    · simp [recoveredResource, ResourceRecord.resumed, unowned, retired, next, StrongId.bump, UInt64.add_assoc]
  · by_cases retired : persisted.lifecycle = .retired
    · simp [recoveredResource, ResourceRecord.resumed, unowned, retired, next, StrongId.bump, UInt64.add_assoc]
    · simp [recoveredResource, ResourceRecord.resumed, unowned, retired, next, StrongId.bump, UInt64.add_assoc]

theorem recoveredResource_resumed (epoch : CoordinatorEpoch) (persisted : ResourceRecord) :
    (recoveredResource epoch persisted).resumed 0 epoch = recoveredResource epoch persisted := by
  by_cases unowned : persisted.worker.isNull
  · simp [recoveredResource, ResourceRecord.resumed, unowned]
  · simp [recoveredResource, ResourceRecord.resumed, unowned]

/-- What `restarts` more restarts make of an engine that has been restarted: the history and the workers are the same,
    the epoch and the generations have gone on, and the next coordinator can load it. -/
structure Engine.Resumed (restarts : Nat) (first later : Engine) : Prop where
  epoch : later.state.epoch.value = first.state.epoch.value + UInt64.ofNat restarts
  state : later.state =
    { first.state with
      epoch := later.state.epoch
      resources := first.state.resources.mapEntries
        (fun record => record.resumed restarts later.state.epoch) (fun _ => rfl)
      transitionSequence := later.state.transitionSequence
      audit := later.state.audit }
  loads : validateDurableState later.exported = .ok ()

theorem Engine.Restarted.again (restarted : engine.Restarted config)
    (loads : validateDurableState engine.exported = .ok ()) :
    let later := (engine.live (.restart config)).1
    later.state =
      { engine.state with
        epoch := engine.state.epoch.bump
        resources := engine.state.resources.mapEntries (recoveredResource engine.state.epoch.bump) (recoveredResource_id _)
        transitionSequence := 0
        audit := later.state.audit } := by
  intro later
  have accepted := fresh_accepts config loads
  obtain ⟨-, kind, detail, after⟩ := Engine.live_accepted accepted
  have state := rebuildState_state (Engine.fresh config).state engine.exported
  have enlisted := restarted.workers
  obtain ⟨resources, requests, reservations⟩ := exported_tables engine config
  obtain ⟨placements, transition⟩ := exported_placements engine config restarted.placements
  have requestTable : engine.state.requests.mapEntries recoveredRequest recoveredRequest_id = engine.state.requests :=
    Table.mapEntries_fixed restarted.requests
  have reservationTable : engine.state.reservations.mapEntries recoveredReservation recoveredReservation_id =
      engine.state.reservations :=
    Table.mapEntries_fixed fun reservation member => if_neg (restarted.reservations reservation member)
  have kept {α : Type} (field : SchedulerState → α) := congrArg field state
  have workers := congrArg Prod.fst restarted.workers
  have workerSequence := congrArg Prod.snd restarted.workers
  rw [after, restarted.rest]
  ext1
  case epoch => exact rebuildState_epoch ..
  case resources => exact resources
  case requests => exact requests.trans requestTable
  case placements => exact placements
  case reservations => exact reservations.trans reservationTable
  case transitionSequence => exact transition
  case workers => exact (kept SchedulerState.workers).trans workers.symm
  case workerSequence => exact (kept SchedulerState.workerSequence).trans workerSequence.symm
  case shuttingDown => exact kept SchedulerState.shuttingDown
  case decisions => exact kept SchedulerState.decisions
  case unitCurrent => exact kept SchedulerState.unitCurrent
  case tenantService => exact kept SchedulerState.tenantService
  case requestSequence => exact kept SchedulerState.requestSequence
  case placementSequence => exact kept SchedulerState.placementSequence
  case reservationSequence => exact kept SchedulerState.reservationSequence
  case audit => rfl
  case auditSequence =>
    have none := kept SchedulerState.auditSequence
    have none : (rebuildState (Engine.fresh config).state engine.exported).state.auditSequence = 0 := none
    simp only [pushAudit, none]
    rfl

theorem Engine.Resumed.again {restarts : Nat} {first later : Engine} (restarted : first.Restarted config)
    (settled : later.Restarted config) (resumed : Resumed restarts first later)
    (room : first.state.epoch.value.toNat + (restarts + 1) < 2 ^ 64) :
    Resumed (restarts + 1) first (later.live (.restart config)).1 := by
  have next : UInt64.ofNat (restarts + 1) = UInt64.ofNat restarts + 1 := UInt64.ofNat_add restarts 1
  have entered : later.state.epoch.bump.value = first.state.epoch.value + UInt64.ofNat (restarts + 1) := by
    rw [StrongId.bump, resumed.epoch, next, UInt64.add_assoc]
  have positive : later.state.epoch.bump.value ≠ 0 := by
    intro wrapped
    have sum := congrArg UInt64.toNat (entered.symm.trans wrapped)
    rw [UInt64.toNat_add, UInt64.toNat_ofNat', Nat.add_mod_mod, Nat.mod_eq_of_lt room] at sum
    cases sum
  have loads := Engine.live_loads resumed.loads (congrArg EngineConfig.limits settled.configured.symm) positive
  have again := settled.again resumed.loads
  generalize (later.live (.restart config)).1 = last at again loads
  have epoch : last.state.epoch = later.state.epoch.bump := congrArg SchedulerState.epoch again
  have before : later.state.resources = first.state.resources.mapEntries
      (fun record => record.resumed restarts later.state.epoch) (fun _ => rfl) :=
    congrArg SchedulerState.resources resumed.state
  have resources : last.state.resources = first.state.resources.mapEntries
      (fun record => record.resumed (restarts + 1) last.state.epoch) (fun _ => rfl) := by
    have after : last.state.resources =
        later.state.resources.mapEntries (recoveredResource later.state.epoch.bump) (recoveredResource_id _) :=
      congrArg SchedulerState.resources again
    rw [after, epoch, before]
    apply Table.ext_entries
    refine List.map_map.trans (List.map_congr_left fun record member => ?_)
    obtain ⟨persisted, rfl⟩ := restarted.resources record member
    exact recoveredResource_again ..
  refine ⟨by rw [epoch, entered], ?_, loads⟩
  have carried {α : Type} (field : SchedulerState → α) := congrArg field again
  have kept {α : Type} (field : SchedulerState → α) := congrArg field resumed.state
  ext1
  case epoch => rfl
  case resources => exact resources
  case transitionSequence => rfl
  case audit => rfl
  case requests => exact (carried SchedulerState.requests).trans (kept SchedulerState.requests)
  case placements => exact (carried SchedulerState.placements).trans (kept SchedulerState.placements)
  case reservations => exact (carried SchedulerState.reservations).trans (kept SchedulerState.reservations)
  case workers => exact (carried SchedulerState.workers).trans (kept SchedulerState.workers)
  case workerSequence => exact (carried SchedulerState.workerSequence).trans (kept SchedulerState.workerSequence)
  case shuttingDown => exact (carried SchedulerState.shuttingDown).trans (kept SchedulerState.shuttingDown)
  case decisions => exact (carried SchedulerState.decisions).trans (kept SchedulerState.decisions)
  case unitCurrent => exact (carried SchedulerState.unitCurrent).trans (kept SchedulerState.unitCurrent)
  case tenantService => exact (carried SchedulerState.tenantService).trans (kept SchedulerState.tenantService)
  case requestSequence => exact (carried SchedulerState.requestSequence).trans (kept SchedulerState.requestSequence)
  case placementSequence =>
    exact (carried SchedulerState.placementSequence).trans (kept SchedulerState.placementSequence)
  case reservationSequence =>
    exact (carried SchedulerState.reservationSequence).trans (kept SchedulerState.reservationSequence)
  case auditSequence => exact (carried SchedulerState.auditSequence).trans (kept SchedulerState.auditSequence)

theorem Engine.Restarted.resumed {first : Engine} (restarted : first.Restarted config)
    (loads : validateDurableState first.exported = .ok ()) : Resumed 0 first first := by
  refine ⟨(UInt64.add_zero _).symm, ?_, loads⟩
  have resources : first.state.resources.mapEntries
      (fun record => record.resumed 0 first.state.epoch) (fun _ => rfl) = first.state.resources := by
    refine Table.mapEntries_fixed fun record member => ?_
    obtain ⟨persisted, rfl⟩ := restarted.resources record member
    exact recoveredResource_resumed ..
  rw [resources]

/-- The restarts in a row, by induction on their number. -/
theorem Engine.Restarted.restarts {first : Engine} (restarted : first.Restarted config)
    (loads : validateDurableState first.exported = .ok ()) (restarts : Nat)
    (room : first.state.epoch.value.toNat + restarts < 2 ^ 64) :
    let later := first.lives (List.replicate restarts (.restart config))
    later.Restarted config ∧ Resumed restarts first later := by
  induction restarts with
  | zero => exact ⟨restarted, restarted.resumed loads⟩
  | succ restarts ih =>
    obtain ⟨settled, resumed⟩ := ih (by omega)
    intro later
    have last : later = ((first.lives (List.replicate restarts (.restart config))).live (.restart config)).1 := by
      simp only [later, Engine.lives, List.replicate_succ', run_append]
      rfl
    rw [last]
    exact ⟨Engine.live_restarted resumed.loads, resumed.again restarted settled room⟩

end Restart

theorem rebuildState_reconciled (state : SchedulerState) {durable : DurableState}
    (ended : ∀ placement ∈ durable.placements, placementStateIsLive placement.state = false) :
    (rebuildState state durable).report.reconciledPlacements = [] := by
  let quiet (recovery : Recovery) : Prop := recovery.report.reconciledPlacements = []
  have opened : quiet (openRecovery state durable) := rfl
  have owner (recovery : Recovery) (record : ResourceRecord) (sofar : quiet recovery) :
      quiet (recoverOwner recovery record) := by
    unfold recoverOwner
    split
    · exact sofar
    · unfold recoverWorker
      split <;> exact sofar
  have resources : quiet (durable.resources.foldl recoverResource (openRecovery state durable)) :=
    List.foldlRecOn _ _ opened fun recovery sofar persisted _ =>
      owner { recovery with floor := recovery.floor.observe _ } _ sofar
  have requests : quiet (durable.requests.foldl recoverRequest
      (durable.resources.foldl recoverResource (openRecovery state durable))) :=
    List.foldlRecOn _ _ resources fun _ sofar _ _ => sofar
  have placements : quiet (durable.placements.foldl recoverPlacement (durable.requests.foldl recoverRequest
      (durable.resources.foldl recoverResource (openRecovery state durable)))) := by
    refine List.foldlRecOn _ _ requests fun recovery sofar persisted listed => ?_
    unfold recoverPlacement
    extract_lets floor preserved sequence placement
    rw [if_neg (Bool.eq_false_iff.mp (ended persisted listed))]
    exact sofar
  exact List.foldlRecOn _ _ placements fun _ sofar _ _ => sofar

/-- However often a coordinator is restarted before it does anything, it comes back to the same history: whatever it
    could load once it can load again, and only the epoch, the resource generations and the counters that start anew
    show how often that has been. -/
theorem restarts_keep_history {engine : Engine} {config : EngineConfig} (restarts : Nat)
    (limits : config.limits = engine.config.limits) (loads : validateDurableState engine.exported = .ok ())
    (room : engine.state.epoch.value.toNat + restarts + 1 < 2 ^ 64) :
    let first := (engine.live (.restart config)).1
    let later := first.lives (List.replicate restarts (.restart config))
    Engine.Resumed restarts first later ∧
      ∃ report, (later.live (.restart config)).2 = .recovery (.ok report) ∧
        report.reconciledPlacements = [] ∧ report.revokedReservations = [] := by
  intro first later
  have accepted := fresh_accepts config loads
  obtain ⟨-, kind, detail, after⟩ := Engine.live_accepted accepted
  have epoch : first.state.epoch = engine.state.epoch.bump := by
    change first.state = _ at after
    rw [after]
    exact rebuildState_epoch ..
  have entered : first.state.epoch.value.toNat = engine.state.epoch.value.toNat + 1 := by
    rw [epoch, StrongId.bump, UInt64.toNat_add, UInt64.toNat_one]
    omega
  have positive : engine.state.epoch.bump.value ≠ 0 := by
    intro wrapped
    have zero := congrArg UInt64.toNat wrapped
    rw [epoch] at entered
    rw [entered] at zero
    cases zero
  have restarted : first.Restarted config := Engine.live_restarted loads
  have loaded : validateDurableState first.exported = .ok () := Engine.live_loads loads limits positive
  obtain ⟨settled, resumed⟩ := restarted.restarts loaded restarts (by omega)
  refine ⟨resumed, ?_⟩
  have again := fresh_accepts config resumed.loads
  let report := (rebuildState (Engine.fresh config).state later.exported).report
  refine ⟨{ report with
    detail := ascii "durable state restored; coordinator epoch advanced and prior live authority revoked" }, ?_, ?_, ?_⟩
  · simp only [Engine.live, Engine.step, importState]
    rw [again]
  · exact rebuildState_reconciled _ settled.placements
  · refine (rebuildState_revoked _ _).trans ?_
    have none : later.exported.reservations.filter (fun persisted => persisted.state = .active) = [] := by
      refine List.filter_eq_nil_iff.mpr fun reservation member => ?_
      simpa using settled.reservations reservation member
    rw [none]
    rfl

theorem restarts_keep_history_bench :
    let engine := (Engine.fresh {}).runs Bench.start
    let first := (engine.live (.restart {})).1
    Engine.Resumed 3 first (first.lives (List.replicate 3 (.restart {}))) :=
  (@restarts_keep_history ((Engine.fresh {}).runs Bench.start) {} 3 rfl (by decide) (by decide)).1

end LabScheduler
