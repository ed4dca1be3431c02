import LabScheduler.Engine.Incarnation
import LabScheduler.Engine.Frames

namespace LabScheduler

open Foundation

/-- The placement has the incarnation for its own, or selects a resource of it. -/
def PlacementRecord.TiedTo (placement : PlacementRecord) (incarnation : Incarnation) : Prop :=
  (placement.worker = incarnation.1 ∧ placement.workerBoot = incarnation.2) ∨
    ∃ selected ∈ placement.resources, selected.worker = incarnation.1 ∧ selected.workerBoot = incarnation.2

instance (placement : PlacementRecord) (incarnation : Incarnation) : Decidable (placement.TiedTo incarnation) :=
  inferInstanceAs (Decidable (_ ∨ _))

/-- What the loss of an incarnation is to do: all that is bound to it ends, and nothing else changes. -/
structure LosesOnly (state after : SchedulerState) (incarnation : Incarnation) : Prop where
  silent : Silent after incarnation
  untied : ∀ placement ∈ after.placements.entries, placementStateIsLive placement.state →
    ¬ placement.TiedTo incarnation
  ended : ∀ placement ∈ state.placements.entries, placementStateIsLive placement.state →
    ∀ later, after.placements.find? placement.id = some later → placementStateIsLive later.state = false →
      later.state = .reassignmentRequired ∧
        ∃ reservation, after.reservations.find? later.reservation = some reservation ∧ reservation.state = .revoked
  resources : ∀ resource ∈ state.resources.entries,
    ¬ (resource.worker = incarnation.1 ∧ resource.boot = incarnation.2) →
      ∃ later, after.resources.find? resource.id = some later ∧
        { later with reservedSlots := resource.reservedSlots } = resource
  placements : ∀ placement ∈ state.placements.entries, ¬ placement.TiedTo incarnation →
    after.placements.find? placement.id = some placement

/-- The resources `invalidate_worker_incarnation` takes from the incarnation. -/
def SchedulerState.heldBy (state : SchedulerState) (incarnation : Incarnation) : List ResourceId :=
  (state.resources.entries.filter fun resource => resource.heldBy incarnation.1 incarnation.2).map
    fun resource => resource.id

def takes (worker : WorkerId) (boot : WorkerBootId) (affected : List ResourceId) (placement : PlacementRecord) :
    Bool :=
  placementStateIsLive placement.state && placement.touches worker boot affected

/-- Selecting a resource that the incarnation holds is the same as being bound to it, and the reservations
    of what is bound to it are not released. -/
structure HoldsTied (state : SchedulerState) (incarnation : Incarnation) : Prop where
  tied : ∀ placement ∈ state.placements.entries, placementStateIsLive placement.state →
    (placement.touches incarnation.1 incarnation.2 (state.heldBy incarnation) = true ↔
      placement.TiedTo incarnation)
  unreleased : ∀ placement ∈ state.placements.entries, placementStateIsLive placement.state →
    placement.TiedTo incarnation →
      ∃ reservation, state.reservations.find? placement.reservation = some reservation ∧
        reservation.state ≠ .released

def ReservationRecord.Revokes (before after : ReservationRecord) : Prop :=
  after = before ∨ (before.state = .active ∧ after.state = .revoked)

theorem ReservationRecord.Revokes.trans {a b c : ReservationRecord} (first : a.Revokes b) (second : b.Revokes c) :
    a.Revokes c := by
  rcases first with rfl | ⟨active, revoked⟩
  · exact second
  · rcases second with rfl | ⟨active', -⟩
    · exact .inr ⟨active, revoked⟩
    · rw [revoked] at active'
      cases active'

/-- The placement loop after the turns of `done`. -/
structure Swept (start : SchedulerState) (lost : PlacementRecord → Bool) (done : List PlacementId)
    (state : SchedulerState) : Prop where
  resources : Rebooks start state
  reservations : Table.Evolves ReservationRecord.Revokes start.reservations state.reservations
  absent : ∀ {id}, start.placements.find? id = none → state.placements.find? id = none
  kept : ∀ {id placement}, start.placements.find? id = some placement → (lost placement = false ∨ id ∉ done) →
    state.placements.find? id = some placement
  ended : ∀ {id placement}, start.placements.find? id = some placement → lost placement = true → id ∈ done →
    ∃ later, state.placements.find? id = some later ∧ later.terms = placement.terms ∧
      later.state = .reassignmentRequired ∧
      ∀ reservation, state.reservations.find? placement.reservation = some reservation → reservation.state ≠ .active

namespace Swept

variable {start state : SchedulerState} {lost : PlacementRecord → Bool} {done : List PlacementId}

theorem initial (start : SchedulerState) (lost : PlacementRecord → Bool) : Swept start lost [] start :=
  ⟨.refl _, .refl (fun _ => .inl rfl) _, fun absent => absent, fun found _ => found,
    fun _ _ member => absurd member List.not_mem_nil⟩

theorem skip {id : PlacementId} (swept : Swept start lost done state)
    (spared : ∀ placement, start.placements.find? id = some placement → lost placement = false) :
    Swept start lost (done ++ [id]) state := by
  refine ⟨swept.resources, swept.reservations, swept.absent, fun {key placement} found away => ?_,
    fun {key placement} found taken member => ?_⟩
  · apply swept.kept found
    rcases away with spared | away
    · exact .inl spared
    · exact .inr fun member => away (List.mem_append_left _ member)
  · rcases List.mem_append.mp member with earlier | last
    · exact swept.ended found taken earlier
    · cases List.mem_singleton.mp last
      rw [spared placement found] at taken
      cases taken

theorem close {placement : PlacementRecord} (detail : Text) (swept : Swept start lost done state)
    (found : start.placements.find? placement.id = some placement)
    (taken : lost placement = true) :
    Swept start lost (done ++ [placement.id]) (endPlacement state placement .reassignmentRequired detail) := by
  let ended := placement.finish .reassignmentRequired detail (state.transitionSequence + 1)
  let after := endPlacement state placement .reassignmentRequired detail
  have closing : Table.Evolves ReservationRecord.Revokes state.reservations after.reservations ∧
      ∀ reservation, after.reservations.find? placement.reservation = some reservation →
        reservation.state ≠ .active := by
    rcases closeReservation_cases state ended .reassignmentRequired with
      ⟨same, inactive⟩ | ⟨reservation, there, active, result⟩
    · have reservations : after.reservations = state.reservations := congrArg Prod.snd same
      refine ⟨.of_eq (fun _ => .inl rfl) reservations, ?_⟩
      rw [reservations]
      exact inactive
    · have reservations : after.reservations =
          state.reservations.set (reservation.close .reassignmentRequired ended.detail) := congrArg Prod.snd result
      have named : reservation.id = placement.reservation := Table.key_of_find? there
      refine ⟨?_, fun other here => ?_⟩
      · rw [reservations]
        exact .set (fun _ => .inl rfl) (named ▸ there) (.inr ⟨active, rfl⟩)
      · rw [reservations, Table.find?_set] at here
        have key : (reservation.close .reassignmentRequired ended.detail).id = placement.reservation := named
        rw [if_pos key] at here
        cases here
        exact closedState_ne_active .reassignmentRequired
  obtain ⟨reservations, inactive⟩ := closing
  refine ⟨swept.resources.trans (endPlacement_rebooks ..),
    swept.reservations.trans ReservationRecord.Revokes.trans reservations, fun {key} missing => ?_,
    fun {key other} there away => ?_, fun {key other} there taken' member => ?_⟩
  · have differs : ended.id ≠ key := by
      intro same
      have same : placement.id = key := same
      rw [← same, found] at missing
      cases missing
    exact (Table.find?_set_ne state.placements differs).trans (swept.absent missing)
  · have differs : ended.id ≠ key := by
      intro same
      have same : placement.id = key := same
      rw [← same, found] at there
      cases there
      rcases away with spared | away
      · rw [taken] at spared
        cases spared
      · exact away (List.mem_append_right _ (by simp [← same]))
    apply (Table.find?_set_ne state.placements differs).trans
    apply swept.kept there
    rcases away with spared | away
    · exact .inl spared
    · exact .inr fun member => away (List.mem_append_left _ member)
  · by_cases same : placement.id = key
    · rw [← same, found] at there
      cases there
      refine ⟨ended, ?_, rfl, rfl, inactive⟩
      have key' : ended.id = key := same
      exact (Table.find?_set ..).trans (if_pos key')
    · have earlier : key ∈ done := by
        rcases List.mem_append.mp member with earlier | last
        · exact earlier
        · exact absurd (List.mem_singleton.mp last).symm same
      obtain ⟨later, here, terms, closed, unheld⟩ := swept.ended there taken' earlier
      have differs : ended.id ≠ key := same
      refine ⟨later, (Table.find?_set_ne state.placements differs).trans here, terms, closed,
        fun reservation holds => ?_⟩
      obtain ⟨before, held, revokes⟩ := reservations.earlier holds
      rcases revokes with rfl | ⟨-, revoked⟩
      · exact unheld _ held
      · rw [revoked]
        nofun

section Turns

variable {worker : WorkerId} {boot : WorkerBootId} {affected : List ResourceId}

theorem turn {progress : SchedulerState × ResourceLossReport} {id : PlacementId}
    (swept : Swept start (takes worker boot affected) done progress.1) (fresh : id ∉ done) :
    Swept start (takes worker boot affected) (done ++ [id]) (losePlacement worker boot affected progress id).1 := by
  unfold losePlacement
  cases before : start.placements.find? id with
  | none =>
    have spared : Swept start (takes worker boot affected) (done ++ [id]) progress.1 :=
      swept.skip fun placement found => by rw [before] at found; cases found
    have absent := swept.absent before
    simp only [absent]
    exact spared
  | some placement =>
    have here := swept.kept before (.inr fresh)
    have named : placement.id = id := Table.key_of_find? before
    simp only [here]
    split
    · rename_i taken
      have live : placementStateIsLive placement.state := (Bool.and_eq_true_iff.mp taken).1
      unfold terminatePlacement
      rw [if_pos live]
      subst named
      exact swept.close _ before taken
    · rename_i spared
      apply swept.skip
      intro other there
      rw [before] at there
      cases there
      exact Bool.eq_false_of_not_eq_true spared

theorem loop {ids : List PlacementId} {progress : SchedulerState × ResourceLossReport}
    (distinct : (done ++ ids).Nodup) (swept : Swept start (takes worker boot affected) done progress.1) :
    Swept start (takes worker boot affected) (done ++ ids)
      (ids.foldl (losePlacement worker boot affected) progress).1 := by
  induction ids generalizing done progress with
  | nil => simpa using swept
  | cons id rest ih =>
    have fresh : id ∉ done := by
      intro member
      exact (List.nodup_append.mp distinct).2.2 id member id List.mem_cons_self rfl
    have order : done ++ id :: rest = (done ++ [id]) ++ rest := by simp
    rw [order] at distinct ⊢
    exact ih distinct (swept.turn fresh)

end Turns

theorem same {after : SchedulerState} (swept : Swept start lost done state) (resources : after.resources = state.resources)
    (reservations : after.reservations = state.reservations) (placements : after.placements = state.placements) :
    Swept start lost done after := by
  constructor
  · exact swept.resources.trans (.of_eq resources)
  · rw [reservations]
    exact swept.reservations
  · rw [placements]
    exact swept.absent
  · rw [placements]
    exact swept.kept
  · rw [placements, reservations]
    exact swept.ended

end Swept

theorem disconnectWorker_tables (state : SchedulerState) (worker : WorkerId) (boot : WorkerBootId) (detail : Text) :
    (disconnectWorker state worker boot detail).resources = state.resources ∧
      (disconnectWorker state worker boot detail).reservations = state.reservations ∧
      (disconnectWorker state worker boot detail).placements = state.placements := by
  unfold disconnectWorker
  split
  · exact ⟨rfl, rfl, rfl⟩
  · split <;> exact ⟨rfl, rfl, rfl⟩

theorem invalidateWorkerIncarnation_swept (state : SchedulerState) (config : EngineConfig) (worker : WorkerId)
    (boot : WorkerBootId) (detail : Text) :
    Swept (invalidateResources state worker boot) (takes worker boot (state.heldBy (worker, boot)))
      state.placements.keys (invalidateWorkerIncarnation state config worker boot detail).1 := by
  unfold invalidateWorkerIncarnation
  extract_lets affected report
  have first := Swept.initial (invalidateResources state worker boot) (takes worker boot affected)
  let progress : SchedulerState × ResourceLossReport := (invalidateResources state worker boot, report)
  have looped : Swept (invalidateResources state worker boot) (takes worker boot affected) state.placements.keys
      (state.placements.keys.foldl (losePlacement worker boot affected) progress).1 := by
    have distinct : ([] ++ state.placements.keys).Nodup := state.placements.keys_nodup
    exact Swept.loop distinct first
  obtain ⟨resources, reservations, placements⟩ := disconnectWorker_tables (state.placements.keys.foldl
    (losePlacement worker boot affected) (invalidateResources state worker boot, report)).1 worker boot detail
  exact looped.same resources reservations placements

theorem PlacementRecord.reservation_of_terms {before after : PlacementRecord} (terms : after.terms = before.terms) :
    after.reservation = before.reservation := by
  have same := congrArg PlacementRecord.reservation terms
  exact same

section Invalidated

variable {state after : SchedulerState} {incarnation : Incarnation}
  (swept : Swept (invalidateResources state incarnation.1 incarnation.2)
    (takes incarnation.1 incarnation.2 (state.heldBy incarnation)) state.placements.keys after)

include swept

theorem Swept.silent : Silent after incarnation := by
  intro resource member owner boot
  obtain ⟨before, there, -, rebooked⟩ := swept.resources.of_mem member
  rw [← rebooked] at there
  have quiet := invalidateResources_silent state incarnation.1 incarnation.2 _ there owner boot
  exact quiet

theorem Swept.remains {placement : PlacementRecord} (member : placement ∈ after.placements.entries)
    (live : placementStateIsLive placement.state) :
    state.placements.find? placement.id = some placement ∧
      takes incarnation.1 incarnation.2 (state.heldBy incarnation) placement = false := by
  have here := Table.find?_of_mem member
  cases there : state.placements.find? placement.id with
  | none =>
    have gone := swept.absent there
    rw [here] at gone
    cases gone
  | some before =>
    have named : before.id = placement.id := Table.key_of_find? there
    cases test : takes incarnation.1 incarnation.2 (state.heldBy incarnation) before with
    | true =>
      obtain ⟨later, found, -, ended, -⟩ := swept.ended there test (Table.mem_keys there)
      rw [here] at found
      cases found
      rw [ended] at live
      cases live
    | false =>
      have kept := swept.kept there (.inl test)
      rw [here] at kept
      cases kept
      exact ⟨rfl, test⟩

theorem Swept.elsewhere {resource : ResourceRecord} (member : resource ∈ state.resources.entries)
    (other : ¬ (resource.worker = incarnation.1 ∧ resource.boot = incarnation.2)) :
    ∃ later, after.resources.find? resource.id = some later ∧ resource.Rebooked later := by
  have kept : resource.loseIncarnation incarnation.1 incarnation.2 = resource := by
    refine if_neg fun held => other ?_
    simp only [ResourceRecord.heldBy, Bool.and_eq_true, beq_iff_eq] at held
    exact held.1
  have invalidated : (invalidateResources state incarnation.1 incarnation.2).resources.find? resource.id =
      some resource := by
    unfold invalidateResources
    rw [Table.find?_mapEntries, Table.find?_of_mem member]
    exact congrArg some kept
  exact swept.resources.later invalidated

/-- The loss does what it is to do exactly when it finds exactly what is bound to the incarnation. -/
theorem Swept.losesOnly_iff : LosesOnly state after incarnation ↔ HoldsTied state incarnation := by
  have taken {placement : PlacementRecord} (member : placement ∈ state.placements.entries)
      (live : placementStateIsLive placement.state)
      (touches : placement.touches incarnation.1 incarnation.2 (state.heldBy incarnation)) :
      ∃ later, after.placements.find? placement.id = some later ∧ later.terms = placement.terms ∧
        later.state = .reassignmentRequired ∧ ∀ reservation,
          after.reservations.find? placement.reservation = some reservation → reservation.state ≠ .active := by
    have found := Table.find?_of_mem member
    exact swept.ended found (Bool.and_eq_true_iff.mpr ⟨live, touches⟩) (Table.mem_keys found)
  have spared {placement : PlacementRecord} (member : placement ∈ state.placements.entries)
      (untouched : takes incarnation.1 incarnation.2 (state.heldBy incarnation) placement = false) :
      after.placements.find? placement.id = some placement :=
    swept.kept (Table.find?_of_mem member) (.inl untouched)
  constructor
  · intro loses
    have touched {placement : PlacementRecord} (member : placement ∈ state.placements.entries)
        (live : placementStateIsLive placement.state) (tied : placement.TiedTo incarnation) :
        placement.touches incarnation.1 incarnation.2 (state.heldBy incarnation) := by
      by_contra untouched
      have kept := spared member (by simp [takes, untouched])
      exact loses.untied placement (Table.mem_of_find? kept) live tied
    refine ⟨fun placement member live => ⟨fun touches => ?_, touched member live⟩, fun placement member live tied => ?_⟩
    · by_contra untied
      obtain ⟨later, found, -, ended, -⟩ := taken member live touches
      rw [loses.placements placement member untied] at found
      cases found
      rw [ended] at live
      cases live
    · obtain ⟨later, found, terms, ended, -⟩ := taken member live (touched member live tied)
      obtain ⟨-, reservation, holds, revoked⟩ := loses.ended placement member live later found (by rw [ended]; rfl)
      have names := PlacementRecord.reservation_of_terms terms
      obtain ⟨before, there, revokes⟩ := swept.reservations.earlier holds
      rw [names] at there
      refine ⟨before, there, fun released => ?_⟩
      rcases revokes with rfl | ⟨active, -⟩
      · rw [released] at revoked
        cases revoked
      · rw [released] at active
        cases active
  · intro holds
    refine ⟨swept.silent, fun placement member live tied => ?_, fun placement member live later found closed => ?_,
      fun resource member other => swept.elsewhere member other, fun placement member untied => ?_⟩
    · obtain ⟨there, test⟩ := swept.remains member live
      have touches := (holds.tied placement (Table.mem_of_find? there) live).mpr tied
      simp [takes, live, touches] at test
    · cases test : takes incarnation.1 incarnation.2 (state.heldBy incarnation) placement with
      | false =>
        rw [spared member test] at found
        cases found
        rw [live] at closed
        cases closed
      | true =>
        have touches := (Bool.and_eq_true_iff.mp test).2
        obtain ⟨ended, here, terms, lost, inactive⟩ := taken member live touches
        rw [found] at here
        cases here
        have names := PlacementRecord.reservation_of_terms terms
        obtain ⟨before, there, unreleased⟩ :=
          holds.unreleased placement member live ((holds.tied placement member live).mp touches)
        obtain ⟨reservation, kept, revokes⟩ := swept.reservations.later there
        refine ⟨lost, reservation, names ▸ kept, ?_⟩
        have open' := inactive reservation kept
        rcases revokes with rfl | ⟨-, revoked⟩
        · cases state' : reservation.state with
          | active => exact absurd state' open'
          | released => exact absurd state' unreleased
          | revoked => rfl
        · exact revoked
    · apply spared member
      by_contra test
      obtain ⟨live, touches⟩ := Bool.and_eq_true_iff.mp (Bool.eq_true_of_not_eq_false test)
      exact untied ((holds.tied placement member live).mp touches)

end Invalidated

/-- The operation takes an incarnation as lost, be it reported or replaced by a new boot of its worker.
    `after` is the state the loss leaves, before a registration or publication writes its record. -/
inductive Engine.Loses (engine : Engine) : Operation → Incarnation → SchedulerState → Prop
  | marked {worker : WorkerId} {boot : WorkerBootId} {detail : Text}
      (reported : (markWorkerLost engine.state engine.config worker boot detail).2.status.code = .ok) :
    Loses engine (.markWorkerLost worker boot detail) (worker, boot)
      (markWorkerLost engine.state engine.config worker boot detail).1
  | disconnected {worker : WorkerId} {boot : WorkerBootId} {detail : Text}
      (reported : (workerDisconnected engine.state engine.config worker boot detail).2.status.code = .ok) :
    Loses engine (.workerDisconnected worker boot detail) (worker, boot)
      (workerDisconnected engine.state engine.config worker boot detail).1
  | connected {worker : WorkerId} {boot : WorkerBootId} {record : WorkerRecord}
      (accepted : workerChecks worker boot = .ok ()) (found : engine.state.workers.find? worker = some record)
      (differs : record.boot ≠ boot) :
    Loses engine (.workerConnected worker boot) (worker, record.boot)
      (workerConnected engine.state engine.config worker boot).1
  | registered {advertisement : ResourceAdvertisement} {record : WorkerRecord}
      (accepted : registerChecks engine.state engine.config advertisement = .ok ())
      (owned : advertisement.worker.isNull = false)
      (found : engine.state.workers.find? advertisement.worker = some record)
      (differs : record.boot ≠ advertisement.boot) :
    Loses engine (.registerResource advertisement) (advertisement.worker, record.boot)
      (adoptOwner engine.state engine.config (normalizeAdvertisement advertisement))
  | published {advertisement : ResourceAdvertisement} {resource : ResourceRecord} {record : WorkerRecord}
      (accepted : publishChecks engine.state engine.config advertisement = .ok resource)
      (owned : resource.worker.isNull = false) (moved : resource.boot ≠ advertisement.boot)
      (found : engine.state.workers.find? advertisement.worker = some record)
      (differs : record.boot ≠ advertisement.boot) :
    Loses engine (.publishResourceState advertisement) (advertisement.worker, record.boot)
      (adoptPublisher engine.state engine.config (normalizeAdvertisement advertisement) resource)

theorem enterIncarnation_tables (state : SchedulerState) (worker : WorkerId) (boot : WorkerBootId) :
    (enterIncarnation state worker boot).resources = state.resources ∧
      (enterIncarnation state worker boot).reservations = state.reservations ∧
      (enterIncarnation state worker boot).placements = state.placements := by
  unfold enterIncarnation
  split <;> exact ⟨rfl, rfl, rfl⟩

theorem adoptWorkerIncarnation_swept {state : SchedulerState} {worker : WorkerId} {boot : WorkerBootId}
    {record : WorkerRecord} (config : EngineConfig) (detail : Text)
    (found : state.workers.find? worker = some record) (differs : record.boot ≠ boot) :
    Swept (invalidateResources state worker record.boot) (takes worker record.boot (state.heldBy (worker, record.boot)))
      state.placements.keys (adoptWorkerIncarnation state config worker boot detail).1 := by
  have lost := invalidateWorkerIncarnation_swept state config worker record.boot detail
  obtain ⟨resources, reservations, placements⟩ := enterIncarnation_tables
    (invalidateWorkerIncarnation state config worker record.boot detail).1 worker boot
  unfold adoptWorkerIncarnation
  simp only [found, if_neg differs]
  exact lost.same resources reservations placements

theorem markWorkerLost_swept {state : SchedulerState} {config : EngineConfig} {worker : WorkerId}
    {boot : WorkerBootId} {detail : Text}
    (reported : (markWorkerLost state config worker boot detail).2.status.code = .ok) :
    Swept (invalidateResources state worker boot) (takes worker boot (state.heldBy (worker, boot)))
      state.placements.keys (markWorkerLost state config worker boot detail).1 := by
  unfold markWorkerLost at reported ⊢
  cases checked : lostChecks state worker boot with
  | error status =>
    rw [checked] at reported
    exact absurd reported (lostChecks_code checked)
  | ok => exact invalidateWorkerIncarnation_swept ..

theorem Engine.Loses.swept {engine : Engine} {operation : Operation} {incarnation : Incarnation}
    {after : SchedulerState} (loses : engine.Loses operation incarnation after) :
    Swept (invalidateResources engine.state incarnation.1 incarnation.2)
      (takes incarnation.1 incarnation.2 (engine.state.heldBy incarnation)) engine.state.placements.keys after := by
  cases loses with
  | marked reported => exact markWorkerLost_swept reported
  | disconnected reported => exact markWorkerLost_swept reported
  | connected accepted found differs =>
    unfold workerConnected
    rw [accepted]
    exact adoptWorkerIncarnation_swept _ _ found differs
  | @registered advertisement record accepted owned found differs =>
    have named : (normalizeAdvertisement advertisement).worker.isNull = false := owned
    unfold adoptOwner
    rw [if_neg (by simp [named])]
    exact adoptWorkerIncarnation_swept _ _ found differs
  | published accepted owned moved found differs =>
    unfold adoptPublisher
    rw [if_pos ⟨owned, moved⟩]
    exact adoptWorkerIncarnation_swept _ _ found differs

end LabScheduler
