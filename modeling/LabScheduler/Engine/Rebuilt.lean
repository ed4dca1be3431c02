import LabScheduler.Engine.Changes

namespace LabScheduler

open Foundation

/-- What `import_state` leaves in the tables: the persisted records, no authority among them. -/
structure Rebuilt (durable : DurableState) (before after : SchedulerState) : Prop where
  resources : ∀ resource ∈ after.resources.entries, ∃ persisted ∈ durable.resources,
    resource = recoveredResource durable.epoch.bump persisted
  requests : ∀ stored ∈ after.requests.entries, ∃ persisted ∈ durable.requests,
    stored = recoveredRequest persisted
  placements : ∀ placement ∈ after.placements.entries, ∃ persisted ∈ durable.placements,
    (placementStateIsLive persisted.state = false ∧ placement = persisted) ∨
      ∃ sequence, placement = persisted.revoke sequence
  reservations : ∀ reservation ∈ after.reservations.entries, ∃ persisted ∈ durable.reservations,
    reservation = recoveredReservation persisted
  unitCurrent : after.unitCurrent = before.unitCurrent
  workers : Table.Extends Eq before.workers after.workers

theorem recoverWorker_state (recovery : Recovery) (record : ResourceRecord) :
    ∃ workers sequence, (recoverWorker recovery record).state =
        { recovery.state with workers := workers, workerSequence := sequence } ∧
      Table.Extends Eq recovery.state.workers workers := by
  unfold recoverWorker
  split
  · exact ⟨_, _, rfl, .refl Eq.refl _⟩
  · exact ⟨_, _, rfl, .emplace Eq.refl ..⟩

theorem recoverOwner_state (recovery : Recovery) (record : ResourceRecord) :
    ∃ workers sequence, (recoverOwner recovery record).state =
        { recovery.state with workers := workers, workerSequence := sequence } ∧
      Table.Extends Eq recovery.state.workers workers := by
  unfold recoverOwner
  split
  · exact ⟨_, _, rfl, .refl Eq.refl _⟩
  · exact recoverWorker_state ..

theorem recoverResource_state (recovery : Recovery) (persisted : ResourceRecord) :
    ∃ workers sequence, (recoverResource recovery persisted).state =
        { recovery.state with
          workers := workers
          workerSequence := sequence
          resources := recovery.state.resources.emplace (recoveredResource recovery.state.epoch persisted) } ∧
      Table.Extends Eq recovery.state.workers workers := by
  unfold recoverResource
  extract_lets record owned
  obtain ⟨workers, sequence, same, more⟩ := recoverOwner_state
    { recovery with floor := recovery.floor.observe record.id } record
  refine ⟨workers, sequence, ?_, more⟩
  change { owned.state with resources := owned.state.resources.emplace record } = _
  have same : owned.state = { recovery.state with workers := workers, workerSequence := sequence } := same
  rw [same]

theorem recoverPlacement_state (recovery : Recovery) (persisted : PlacementRecord) :
    ∃ placement sequence, (recoverPlacement recovery persisted).state =
        { recovery.state with
          transitionSequence := sequence
          placements := recovery.state.placements.emplace placement } ∧
      ((placementStateIsLive persisted.state = false ∧ placement = persisted) ∨
        (placementStateIsLive persisted.state ∧ ∃ sequence, placement = persisted.revoke sequence)) := by
  unfold recoverPlacement
  extract_lets floor preserved sequence placement
  split
  · rename_i live
    exact ⟨_, _, rfl, .inr ⟨live, _, rfl⟩⟩
  · rename_i ended
    exact ⟨_, _, rfl, .inl ⟨by simpa using ended, rfl⟩⟩

theorem importChecks_ok {state : SchedulerState} {durable : DurableState}
    (accepted : importChecks state durable = .ok ()) :
    validateDurableState durable = .ok () ∧ state.resources.entries = [] ∧ state.requests.entries = [] ∧
      state.placements.entries = [] ∧ state.reservations.entries = [] := by
  simpa [importChecks, Table.isEmpty] using accepted

theorem rebuildState_rebuilt {state : SchedulerState} {durable : DurableState}
    (accepted : importChecks state durable = .ok ()) :
    Rebuilt durable state (rebuildState state durable).state := by
  obtain ⟨-, noResource, noRequest, noPlacement, noReservation⟩ := importChecks_ok accepted
  let built (recovery : Recovery) : Prop :=
    Rebuilt durable state recovery.state ∧ recovery.state.epoch = durable.epoch.bump
  have opened : built (openRecovery state durable) := by
    refine ⟨⟨?_, ?_, ?_, ?_, rfl, .refl Eq.refl _⟩, rfl⟩
    all_goals simp [openRecovery, noResource, noRequest, noPlacement, noReservation]
  suffices done : built (rebuildState state durable) from done.1
  unfold rebuildState
  refine List.foldlRecOn _ _ (List.foldlRecOn _ _ (List.foldlRecOn _ _ (List.foldlRecOn _ _ opened ?_) ?_) ?_) ?_
  · rintro recovery ⟨sofar, epoch⟩ persisted member
    obtain ⟨workers, sequence, same, more⟩ := recoverResource_state recovery persisted
    unfold built
    rw [same]
    refine ⟨{ sofar with
      resources := fun resource there => ?_
      workers := sofar.workers.trans Eq.trans more }, epoch⟩
    rcases Table.mem_emplace there with rfl | before
    · exact ⟨persisted, member, by rw [epoch]⟩
    · exact sofar.resources resource before
  · rintro recovery ⟨sofar, epoch⟩ persisted member
    refine ⟨{ sofar with requests := fun stored there => ?_ }, epoch⟩
    rcases Table.mem_emplace there with rfl | before
    · exact ⟨persisted, member, rfl⟩
    · exact sofar.requests stored before
  · rintro recovery ⟨sofar, epoch⟩ persisted member
    obtain ⟨placement, sequence, same, shape⟩ := recoverPlacement_state recovery persisted
    unfold built
    rw [same]
    refine ⟨{ sofar with placements := fun other there => ?_ }, epoch⟩
    rcases Table.mem_emplace there with rfl | before
    · exact ⟨persisted, member, shape.imp_right fun revoked => revoked.2⟩
    · exact sofar.placements other before
  · rintro recovery ⟨sofar, epoch⟩ persisted member
    refine ⟨{ sofar with reservations := fun reservation there => ?_ }, epoch⟩
    rcases Table.mem_emplace there with rfl | before
    · exact ⟨persisted, member, rfl⟩
    · exact sofar.reservations reservation before

namespace Rebuilt

variable {durable : DurableState} {before after : SchedulerState}

theorem unreserved (rebuilt : Rebuilt durable before after) {resource : ResourceRecord}
    (member : resource ∈ after.resources.entries) : resource.reservedSlots = 0 := by
  obtain ⟨persisted, -, rfl⟩ := rebuilt.resources resource member
  simp only [recoveredResource]
  split <;> rfl

theorem placement_terms (rebuilt : Rebuilt durable before after) {placement : PlacementRecord}
    (member : placement ∈ after.placements.entries) :
    ∃ persisted ∈ durable.placements, placement.terms = persisted.terms := by
  obtain ⟨persisted, there, ⟨-, rfl⟩ | ⟨sequence, rfl⟩⟩ := rebuilt.placements placement member
  · exact ⟨placement, there, rfl⟩
  · exact ⟨persisted, there, rfl⟩

theorem not_live (rebuilt : Rebuilt durable before after) {placement : PlacementRecord}
    (member : placement ∈ after.placements.entries) : placementStateIsLive placement.state = false := by
  obtain ⟨persisted, -, ⟨ended, rfl⟩ | ⟨sequence, rfl⟩⟩ := rebuilt.placements placement member
  · exact ended
  · rfl

theorem not_active (rebuilt : Rebuilt durable before after) {reservation : ReservationRecord}
    (member : reservation ∈ after.reservations.entries) : reservation.state ≠ .active := by
  obtain ⟨persisted, -, rfl⟩ := rebuilt.reservations reservation member
  unfold recoveredReservation
  split
  · nofun
  · assumption

end Rebuilt

theorem recoverOwner_revoked (recovery : Recovery) (record : ResourceRecord) :
    (recoverOwner recovery record).report.revokedReservations = recovery.report.revokedReservations := by
  unfold recoverOwner
  split
  · rfl
  · unfold recoverWorker
    split <;> rfl

theorem recoverResource_revoked (recovery : Recovery) (persisted : ResourceRecord) :
    (recoverResource recovery persisted).report.revokedReservations = recovery.report.revokedReservations :=
  recoverOwner_revoked ..

theorem recoverPlacement_revoked (recovery : Recovery) (persisted : PlacementRecord) :
    (recoverPlacement recovery persisted).report.revokedReservations = recovery.report.revokedReservations := by
  unfold recoverPlacement
  split <;> rfl

theorem recoverReservations_revoked (reservations : List ReservationRecord) (recovery : Recovery) :
    (reservations.foldl recoverReservation recovery).report.revokedReservations =
      recovery.report.revokedReservations ++
        (reservations.filter fun persisted => persisted.state = .active).map ReservationRecord.id := by
  induction reservations generalizing recovery with
  | nil => simp
  | cons persisted rest ih =>
    rw [List.foldl_cons, ih]
    by_cases active : persisted.state = .active
    · simp [recoverReservation, active]
    · simp [recoverReservation, active]

theorem recoveredResource_id (epoch : CoordinatorEpoch) (persisted : ResourceRecord) :
    (recoveredResource epoch persisted).id = persisted.id := by
  simp only [recoveredResource]
  split <;> rfl

theorem recoveredResource_worker (epoch : CoordinatorEpoch) (persisted : ResourceRecord) :
    (recoveredResource epoch persisted).worker = persisted.worker := by
  simp only [recoveredResource]
  split <;> rfl

theorem recoveredResource_boot (epoch : CoordinatorEpoch) (persisted : ResourceRecord) :
    (recoveredResource epoch persisted).boot = persisted.boot := by
  simp only [recoveredResource]
  split <;> rfl

theorem recoveredRequest_request (persisted : StoredRequest) :
    (recoveredRequest persisted).request = persisted.request := by
  simp only [recoveredRequest]
  split <;> rfl

theorem recoveredReservation_id (persisted : ReservationRecord) :
    (recoveredReservation persisted).id = persisted.id := by
  unfold recoveredReservation
  split <;> rfl

/-- Each of the four loops leaves the tables of the others. -/
theorem rebuildState_tables (state : SchedulerState) (durable : DurableState) :
    let first := durable.resources.foldl recoverResource (openRecovery state durable)
    let second := durable.requests.foldl recoverRequest first
    let third := durable.placements.foldl recoverPlacement second
    (rebuildState state durable).state.resources = first.state.resources ∧
      (rebuildState state durable).state.requests = second.state.requests ∧
      (rebuildState state durable).state.placements = third.state.placements := by
  intro first second third
  let keeps {α : Type} (field : SchedulerState → α) (before : Recovery) (recovery : Recovery) : Prop :=
    field recovery.state = field before.state
  have requests : keeps SchedulerState.resources first second := List.foldlRecOn _ _ rfl fun _ sofar _ _ => sofar
  have resources : keeps SchedulerState.resources first third := by
    refine List.foldlRecOn _ _ requests fun recovery sofar persisted _ => ?_
    obtain ⟨_, _, same, -⟩ := recoverPlacement_state recovery persisted
    exact (congrArg SchedulerState.resources same).trans sofar
  have requested : keeps SchedulerState.requests second third := by
    refine List.foldlRecOn _ _ rfl fun recovery sofar persisted _ => ?_
    obtain ⟨_, _, same, -⟩ := recoverPlacement_state recovery persisted
    exact (congrArg SchedulerState.requests same).trans sofar
  let last := durable.reservations.foldl recoverReservation third
  have placed : keeps SchedulerState.placements third last := List.foldlRecOn _ _ rfl fun _ sofar _ _ => sofar
  exact ⟨List.foldlRecOn _ _ resources fun _ sofar _ _ => sofar,
    List.foldlRecOn _ _ requested fun _ sofar _ _ => sofar, placed⟩

section Present

variable (state : SchedulerState) {durable : DurableState}

theorem rebuildState_resource {persisted : ResourceRecord} (member : persisted ∈ durable.resources) :
    (rebuildState state durable).state.resources.find? persisted.id ≠ none := by
  have writes (recovery : Recovery) (item : ResourceRecord) : ∃ record : ResourceRecord, record.id = item.id ∧
      (recoverResource recovery item).state.resources = recovery.state.resources.emplace record := by
    obtain ⟨_, _, same, -⟩ := recoverResource_state recovery item
    exact ⟨_, recoveredResource_id .., congrArg SchedulerState.resources same⟩
  rw [(rebuildState_tables state durable).1]
  exact Table.present_fill (fun recovery : Recovery => recovery.state.resources) writes _ _ member

theorem rebuildState_request {persisted : StoredRequest} (member : persisted ∈ durable.requests) :
    (rebuildState state durable).state.requests.find? persisted.id ≠ none := by
  have writes (recovery : Recovery) (item : StoredRequest) : ∃ record : StoredRequest, record.id = item.id ∧
      (recoverRequest recovery item).state.requests = recovery.state.requests.emplace record :=
    ⟨recoveredRequest item, congrArg ScheduleRequest.id (recoveredRequest_request item), rfl⟩
  rw [(rebuildState_tables state durable).2.1]
  exact Table.present_fill (fun recovery : Recovery => recovery.state.requests) writes _ _ member

theorem rebuildState_placement {persisted : PlacementRecord} (member : persisted ∈ durable.placements) :
    (rebuildState state durable).state.placements.find? persisted.id ≠ none := by
  have writes (recovery : Recovery) (item : PlacementRecord) : ∃ record : PlacementRecord, record.id = item.id ∧
      (recoverPlacement recovery item).state.placements = recovery.state.placements.emplace record := by
    obtain ⟨placement, _, same, shape⟩ := recoverPlacement_state recovery item
    refine ⟨placement, ?_, congrArg SchedulerState.placements same⟩
    rcases shape with ⟨-, rfl⟩ | ⟨-, sequence, rfl⟩
    · rfl
    · rfl
  rw [(rebuildState_tables state durable).2.2]
  exact Table.present_fill (fun recovery : Recovery => recovery.state.placements) writes _ _ member

theorem rebuildState_reservation {persisted : ReservationRecord} (member : persisted ∈ durable.reservations) :
    (rebuildState state durable).state.reservations.find? persisted.id ≠ none := by
  have writes (recovery : Recovery) (item : ReservationRecord) : ∃ record : ReservationRecord, record.id = item.id ∧
      (recoverReservation recovery item).state.reservations = recovery.state.reservations.emplace record :=
    ⟨recoveredReservation item, recoveredReservation_id item, rfl⟩
  exact Table.present_fill (fun recovery : Recovery => recovery.state.reservations) writes _ _ member

theorem rebuildState_ended (accepted : importChecks state durable = .ok ()) {persisted : PlacementRecord}
    (member : persisted ∈ durable.placements) (ended : placementStateIsLive persisted.state = false) :
    (rebuildState state durable).state.placements.find? persisted.id = some persisted := by
  obtain ⟨valid, -, -, none, -⟩ := importChecks_ok accepted
  have distinct := (validateDurableState_ok valid).2.2.2
  let shaped (recovery : Recovery) : Prop := ∀ placement ∈ recovery.state.placements.entries,
    ∃ origin ∈ durable.placements, (placementStateIsLive origin.state = false ∧ placement = origin) ∨
      (placementStateIsLive origin.state ∧ ∃ sequence, placement = origin.revoke sequence)
  have opened : shaped (openRecovery state durable) := by simp [shaped, openRecovery, none]
  have resources : shaped (durable.resources.foldl recoverResource (openRecovery state durable)) := by
    refine List.foldlRecOn _ _ opened fun recovery sofar item _ => ?_
    obtain ⟨_, _, same, -⟩ := recoverResource_state recovery item
    unfold shaped
    rw [same]
    exact sofar
  have requests : shaped (durable.requests.foldl recoverRequest
      (durable.resources.foldl recoverResource (openRecovery state durable))) :=
    List.foldlRecOn _ _ resources fun _ sofar _ _ => sofar
  have placements : shaped (durable.placements.foldl recoverPlacement (durable.requests.foldl recoverRequest
      (durable.resources.foldl recoverResource (openRecovery state durable)))) := by
    refine List.foldlRecOn _ _ requests fun recovery sofar item listed => ?_
    obtain ⟨placement, _, same, shape⟩ := recoverPlacement_state recovery item
    unfold shaped
    rw [same]
    intro other there
    rcases Table.mem_emplace there with rfl | before
    · exact ⟨item, listed, shape⟩
    · exact sofar other before
  obtain ⟨placement, found⟩ := Option.ne_none_iff_exists'.mp (rebuildState_placement state member)
  have there := Table.mem_of_find? found
  rw [(rebuildState_tables state durable).2.2] at there
  obtain ⟨origin, listed, shape⟩ := placements placement there
  have named : placement.id = persisted.id := Table.key_of_find? found
  rcases shape with ⟨-, rfl⟩ | ⟨live, sequence, rfl⟩
  · have equal := List.inj_on_of_nodup_map distinct listed member named
    rw [found, equal]
  · have equal := List.inj_on_of_nodup_map distinct listed member named
    rw [equal, ended] at live
    cases live

end Present

theorem rebuildState_epoch (state : SchedulerState) (durable : DurableState) :
    (rebuildState state durable).state.epoch = durable.epoch.bump := by
  let advanced (recovery : Recovery) : Prop := recovery.state.epoch = durable.epoch.bump
  have resources : advanced (durable.resources.foldl recoverResource (openRecovery state durable)) := by
    refine List.foldlRecOn _ _ rfl fun recovery sofar persisted _ => ?_
    obtain ⟨_, _, same, -⟩ := recoverResource_state recovery persisted
    exact (congrArg SchedulerState.epoch same).trans sofar
  have requests : advanced (durable.requests.foldl recoverRequest
      (durable.resources.foldl recoverResource (openRecovery state durable))) :=
    List.foldlRecOn _ _ resources fun _ sofar _ _ => sofar
  have placements : advanced (durable.placements.foldl recoverPlacement (durable.requests.foldl recoverRequest
      (durable.resources.foldl recoverResource (openRecovery state durable)))) := by
    refine List.foldlRecOn _ _ requests fun recovery sofar persisted _ => ?_
    obtain ⟨_, _, same, -⟩ := recoverPlacement_state recovery persisted
    exact (congrArg SchedulerState.epoch same).trans sofar
  exact List.foldlRecOn _ _ placements fun _ sofar _ _ => sofar

theorem rebuildState_revoked (state : SchedulerState) (durable : DurableState) :
    (rebuildState state durable).report.revokedReservations =
      (durable.reservations.filter fun persisted => persisted.state = .active).map ReservationRecord.id := by
  let quiet (recovery : Recovery) : Prop := recovery.report.revokedReservations = []
  have opened : quiet (openRecovery state durable) := rfl
  have resources : quiet (durable.resources.foldl recoverResource (openRecovery state durable)) :=
    List.foldlRecOn _ _ opened fun recovery sofar persisted _ =>
      (recoverResource_revoked recovery persisted).trans sofar
  have requests : quiet (durable.requests.foldl recoverRequest
      (durable.resources.foldl recoverResource (openRecovery state durable))) :=
    List.foldlRecOn _ _ resources fun _ sofar _ _ => sofar
  have placements : quiet (durable.placements.foldl recoverPlacement (durable.requests.foldl recoverRequest
      (durable.resources.foldl recoverResource (openRecovery state durable)))) :=
    List.foldlRecOn _ _ requests fun recovery sofar persisted _ =>
      (recoverPlacement_revoked recovery persisted).trans sofar
  have quietly : _ = ([] : List ReservationId) := placements
  unfold rebuildState
  rw [recoverReservations_revoked, quietly, List.nil_append]

end LabScheduler
