import LabScheduler.Engine.Validated

namespace LabScheduler

open Foundation

structure Backs (reservation : ReservationRecord) (placement : PlacementRecord) : Prop where
  holder : reservation.placement = placement.id
  generation : reservation.placementGeneration = placement.generation
  request : reservation.request = placement.request
  experiment : reservation.experiment = placement.experiment
  experimentGeneration : reservation.experimentGeneration = placement.experimentGeneration
  agree : List.Forall₂ Agrees reservation.claims placement.resources
  slots : ∀ claim ∈ reservation.claims, 1 ≤ claim.slots
  nonempty : placement.resources ≠ []
  distinct : (placement.resources.map SelectedResource.resource).Nodup

theorem Backs.of_terms {reservation reservation' : ReservationRecord} {placement placement' : PlacementRecord}
    (backs : Backs reservation placement) (reservations : reservation'.terms = reservation.terms)
    (placements : placement'.terms = placement.terms) : Backs reservation' placement' := by
  have kept : Backs reservation.terms placement.terms :=
    ⟨backs.holder, backs.generation, backs.request, backs.experiment, backs.experimentGeneration,
      backs.agree, backs.slots, backs.nonempty, backs.distinct⟩
  rw [← reservations, ← placements] at kept
  exact ⟨kept.holder, kept.generation, kept.request, kept.experiment, kept.experimentGeneration,
    kept.agree, kept.slots, kept.nonempty, kept.distinct⟩

structure Paired (state : SchedulerState) : Prop where
  backed : ∀ placement ∈ state.placements.entries, placementStateIsLive placement.state →
    ∃ reservation, state.reservations.find? placement.reservation = some reservation ∧
      reservation.state = .active ∧ Backs reservation placement
  held : ∀ reservation ∈ state.reservations.entries, reservation.state = .active →
    ∃ placement, state.placements.find? reservation.placement = some placement ∧
      placementStateIsLive placement.state ∧ placement.reservation = reservation.id
  registered : ∀ placement ∈ state.placements.entries, placementStateIsLive placement.state →
    ∀ selected ∈ placement.resources, state.resources.find? selected.resource ≠ none
  unshared : ∀ placement ∈ state.placements.entries, placementStateIsLive placement.state →
    ∀ other ∈ state.placements.entries, placement.reservation = other.reservation → placement = other

/-- The identities the next commit would draw are neither taken nor named. -/
def IdsUnused (state : SchedulerState) (ids : IdGenerator) : Prop :=
  state.placements.find? ids.commitIds.1.placement = none ∧
    state.reservations.find? ids.commitIds.1.reservation = none ∧
    ∀ placement ∈ state.placements.entries, placement.reservation ≠ ids.commitIds.1.reservation

instance (state : SchedulerState) (ids : IdGenerator) : Decidable (IdsUnused state ids) :=
  inferInstanceAs (Decidable (_ ∧ _))

def Engine.DrawsUnused (engine : Engine) (operation : Operation) : Prop :=
  operation.schedules → IdsUnused engine.state engine.ids

instance (engine : Engine) (operation : Operation) : Decidable (engine.DrawsUnused operation) :=
  inferInstanceAs (Decidable (_ → _))

theorem Engine.Calls.unused {engine : Engine} {operation : Operation} {call : SchedulingCall}
    (calls : engine.Calls operation call) (draws : engine.DrawsUnused operation) :
    IdsUnused call.state engine.ids := by
  obtain ⟨placement, reservation, unnamed⟩ := draws calls.schedules
  refine ⟨calls.placements.absent placement, calls.reservations.absent reservation, fun later member => ?_⟩
  obtain ⟨before, there, -, progresses⟩ := calls.placements.of_mem member
  rw [progresses.reservation]
  exact unnamed before there

namespace Paired

variable {state after : SchedulerState}

theorem evolve (paired : Paired state)
    (resources : Table.Evolves ResourceRecord.Lapses state.resources after.resources)
    (placements : Table.Evolves PlacementRecord.Progresses state.placements after.placements)
    (reservations : Table.Evolves ReservationRecord.Progresses state.reservations after.reservations)
    (stays : ∀ placement ∈ after.placements.entries, placementStateIsLive placement.state →
      ∀ reservation, state.reservations.find? placement.reservation = some reservation →
        reservation.state = .active → after.reservations.find? placement.reservation = some reservation)
    (lives : ∀ reservation ∈ after.reservations.entries, reservation.state = .active →
      ∀ placement, after.placements.find? reservation.placement = some placement →
        placement.reservation = reservation.id → placementStateIsLive placement.state) : Paired after := by
  refine ⟨fun placement member live => ?_, fun reservation member active => ?_,
    fun placement member live selected picked => ?_, fun placement member live other there same => ?_⟩
  · obtain ⟨before, earlier, -, progresses⟩ := placements.of_mem member
    obtain ⟨reservation, found, active, backs⟩ := paired.backed before earlier (progresses.live live)
    rw [← progresses.reservation] at found
    exact ⟨reservation, stays placement member live reservation found active, active,
      backs.of_terms rfl progresses.terms⟩
  · obtain ⟨before, earlier, -, progresses⟩ := reservations.of_mem member
    have same := progresses.active active
    obtain ⟨placement, found, -, names⟩ := paired.held before earlier (same ▸ active)
    obtain ⟨later, there, moved⟩ := placements.later found
    rw [← same] at there names
    have names := moved.reservation.trans names
    exact ⟨later, there, lives reservation member active later there names, names⟩
  · obtain ⟨before, earlier, -, progresses⟩ := placements.of_mem member
    rw [progresses.resources] at picked
    exact resources.present (paired.registered before earlier (progresses.live live) selected picked)
  · obtain ⟨first, earlier, named, progresses⟩ := placements.of_mem member
    obtain ⟨second, earlier', named', progresses'⟩ := placements.of_mem there
    have equal := paired.unshared first earlier (progresses.live live) second earlier'
      (progresses.reservation.symm.trans (same.trans progresses'.reservation))
    apply Table.eq_of_key_eq member there
    rw [← named, ← named', equal]

theorem stay (paired : Paired state)
    (resources : Table.Evolves ResourceRecord.Lapses state.resources after.resources)
    (placements : after.placements = state.placements) (reservations : after.reservations = state.reservations) :
    Paired after := by
  refine paired.evolve resources (.of_eq PlacementRecord.Progresses.refl placements)
    (.of_eq ReservationRecord.Progresses.refl reservations) ?_ ?_
  · intro placement member live reservation found active
    rw [reservations]
    exact found
  · intro reservation member active placement found names
    rw [reservations] at member
    obtain ⟨before, there, live, -⟩ := paired.held reservation member active
    rw [placements, there] at found
    cases found
    exact live

theorem rewrite {placement rewritten : PlacementRecord} (paired : Paired state)
    (found : state.placements.find? placement.id = some placement)
    (live : placementStateIsLive placement.state) (terms : rewritten.terms = placement.terms)
    (stays : placementStateIsLive rewritten.state) :
    Paired { state with placements := state.placements.set rewritten } := by
  have progresses := PlacementRecord.progresses_of_live terms live
  have here : state.placements.find? rewritten.id = some placement := progresses.id ▸ found
  refine paired.evolve (.refl ResourceRecord.Lapses.refl _) (.set PlacementRecord.Progresses.refl here progresses)
    (.refl ReservationRecord.Progresses.refl _) (fun _ _ _ _ there _ => there) ?_
  intro reservation member active holder holds names
  obtain ⟨before, there, running, -⟩ := paired.held reservation member active
  have holds : (state.placements.set rewritten).find? reservation.placement = some holder := holds
  rw [Table.find?_set] at holds
  split at holds
  · cases holds
    exact stays
  · rw [there] at holds
    cases holds
    exact running

theorem closes {placement : PlacementRecord} (target : PlacementState) (detail : Text) (paired : Paired state)
    (found : state.placements.find? placement.id = some placement)
    (live : placementStateIsLive placement.state) :
    ∃ reservation, state.reservations.find? placement.reservation = some reservation ∧
      reservation.state = .active ∧ Backs reservation placement ∧
      (endPlacement state placement target detail).resources =
        reservation.claims.foldl releaseClaim state.resources ∧
      (endPlacement state placement target detail).reservations =
        state.reservations.set (reservation.close target detail) := by
  let ended := placement.finish target detail (state.transitionSequence + 1)
  obtain ⟨reservation, held, active, backs⟩ := paired.backed placement (Table.mem_of_find? found) live
  have result : closeReservation state ended target =
      (reservation.claims.foldl releaseClaim state.resources,
        state.reservations.set (reservation.close target detail)) := by
    rcases closeReservation_cases state ended target with ⟨-, inactive⟩ | ⟨other, there, -, result⟩
    · exact absurd active (inactive reservation held)
    · have same := there.symm.trans held
      cases same
      exact result
  exact ⟨reservation, held, active, backs, congrArg Prod.fst result, congrArg Prod.snd result⟩

theorem finish {placement : PlacementRecord} {target : PlacementState} (detail : Text) (paired : Paired state)
    (found : state.placements.find? placement.id = some placement)
    (live : placementStateIsLive placement.state) (closed : placementStateIsLive target = false) :
    Paired (endPlacement state placement target detail) := by
  have change : Change state (endPlacement state placement target detail) := .finish detail found live closed
  have member := Table.mem_of_find? found
  obtain ⟨reservation, held, active, -, -, closes⟩ := paired.closes target detail found live
  have named : reservation.id = placement.reservation := Table.key_of_find? held
  refine paired.evolve change.resources change.placements change.reservations ?_ ?_
  · intro other there running kept found active
    rw [closes]
    rcases Table.mem_set.mp there with rfl | ⟨earlier, differs⟩
    · change placementStateIsLive target at running
      rw [closed] at running
      cases running
    · -- Another placement never names the reservation that is closed here.
      rw [Table.find?_set_ne _ ?_]
      · exact found
      · intro same
        have equal := paired.unshared placement member live other earlier (named.symm.trans same)
        exact differs (equal ▸ rfl)
  · intro other there open' holder holds names
    rw [closes] at there
    rcases Table.mem_set.mp there with rfl | ⟨earlier, differs⟩
    · exact absurd open' (closedState_ne_active target)
    · obtain ⟨before, here, running, same⟩ := paired.held other earlier open'
      have away : placement.id ≠ other.placement := by
        intro equal
        rw [← equal, found] at here
        cases here
        exact differs (same.symm.trans named.symm)
      let ended := placement.finish target detail (state.transitionSequence + 1)
      have key : ended.id ≠ other.placement := away
      have still := (Table.find?_set_ne state.placements key).trans here
      have kept := still.symm.trans holds
      cases kept
      exact running

theorem change (change : Change state after) (paired : Paired state) : Paired after := by
  have resources := change.resources
  cases change with
  | books _ _ placements reservations => exact paired.stay resources placements reservations
  | invalidate => exact paired.stay resources rfl rfl
  | retire => exact paired.stay resources rfl rfl
  | finish detail found live closed => exact paired.finish detail found live closed
  | @mark placement target detail found live stays =>
    let marked := placement.mark target detail (state.transitionSequence + 1)
    have terms : marked.terms = placement.terms := rfl
    have written := paired.rewrite found live terms stays
    exact written.stay resources rfl rfl
  | complete detail found live => exact paired.rewrite found live rfl live

theorem claim_slots (paired : Paired state) {reservation : ReservationRecord} {claim : ReservationClaim}
    (member : reservation ∈ state.reservations.entries) (active : reservation.state = .active)
    (claimed : claim ∈ reservation.claims) : 0 < claim.slots.toNat := by
  obtain ⟨placement, found, live, names⟩ := paired.held reservation member active
  obtain ⟨own, there, -, backs⟩ := paired.backed placement (Table.mem_of_find? found) live
  rw [names, Table.find?_of_mem member] at there
  cases there
  exact UInt32.le_iff_toNat_le.mp (backs.slots claim claimed)

theorem write (write : RequestWrite state after) (paired : Paired state) : Paired after := by
  cases write <;> exact ⟨paired.backed, paired.held, paired.registered, paired.unshared⟩

theorem restock {resources : ResourceTable} (paired : Paired state)
    (present : ∀ {id}, state.resources.find? id ≠ none → resources.find? id ≠ none) :
    Paired { state with resources := resources } :=
  ⟨paired.backed, paired.held,
    fun placement member live selected picked => present (paired.registered placement member live selected picked),
    paired.unshared⟩

theorem register {record : ResourceRecord} (paired : Paired state) :
    Paired { state with resources := state.resources.emplace record } := by
  apply paired.restock
  intro id present
  rw [Table.find?_emplace]
  split
  · exact nofun
  · exact present

theorem publish {advertisement : ResourceAdvertisement} {live : ResourceRecord} (paired : Paired state) :
    Paired (publishWrite state advertisement live) := by
  apply paired.restock
  intro id present
  rw [Table.find?_set]
  split
  · exact nofun
  · exact present

theorem recover {durable : DurableState} (rebuilt : Rebuilt durable state after) : Paired after := by
  have none {placement : PlacementRecord} (member : placement ∈ after.placements.entries) :
      ¬ placementStateIsLive placement.state := by simp [rebuilt.not_live member]
  refine ⟨fun placement member live => ?_, fun reservation member active => ?_,
    fun placement member live => ?_, fun placement member live => ?_⟩
  · exact absurd live (none member)
  · exact absurd active (rebuilt.not_active member)
  · exact absurd live (none member)
  · exact absurd live (none member)

section Commit

variable {config : EngineConfig} {ids : IdGenerator} {stored : StoredRequest}
  {generation : PlacementGeneration} {reassignments : UInt32}

theorem committed_backs {selection : List CandidateResource} {selected : List SelectedResource}
    {claims : List ReservationClaim} (validated : Validated state) (recorded : stored ∈ state.requests.entries)
    (chosen : Chosen state stored.request config.limits selection)
    (booked : Booked state.resources (selection.zip stored.request.requirements) after.resources selected claims) :
    let placement := newPlacement state stored.request ids.commitIds.1 generation reassignments selected
    Backs (newReservation state placement claims) placement := by
  have made := booked.claimsFor chosen.length
  refine ⟨rfl, rfl, rfl, rfl, rfl, booked.agrees, fun claim member => ?_, fun none => ?_, ?_⟩
  · obtain ⟨candidate, picked, claimed⟩ := forall₂_mem_left made member
    have positive := chosen.slots validated recorded picked
    rw [claimed.slots]
    exact UInt32.pos_iff_ne_zero.mpr positive
  · have none : selected = [] := none
    obtain ⟨limits, valid⟩ := validated.requests stored recorded
    have some := (validateScheduleRequest_requirements valid).1
    have count : claims.length = selected.length := booked.agrees.length_eq
    have claimed : claims.length = stored.request.requirements.length := made.length_eq.trans chosen.length
    have positive := List.length_pos_iff.mpr some
    rw [none] at count
    simp only [List.length_nil] at count
    omega
  · have same := forall₂_map_eq booked.agrees Agrees.resource
    change (selected.map SelectedResource.resource).Nodup
    rw [← same]
    exact booked.distinct chosen.length chosen.distinct

theorem scheduled {scheduled : Scheduled}
    (result : ScheduleResult state config ids stored generation reassignments scheduled)
    (paired : Paired state) (validated : Validated state) (recorded : stored ∈ state.requests.entries)
    (unused : IdsUnused state ids) : Paired scheduled.state := by
  cases result with
  | noPlacement => exact ⟨paired.backed, paired.held, paired.registered, paired.unshared⟩
  | refused => exact paired
  | @broken selection resources status chosen loop =>
    obtain ⟨_, _, _, _, -, booked⟩ := commitLoop_error loop
    have restocked : Paired { state with resources := resources } := paired.restock fun present => by
      rw [booked.find?]
      simpa using present
    exact ⟨restocked.backed, restocked.held, restocked.registered, restocked.unshared⟩
  | @placed selection resources selected claims placement decision after chosen loop committed decided room
      resources_after requests_after placements_after reservations_after =>
    obtain ⟨freshPlacement, freshReservation, unnamed⟩ := unused
    have booked := commitLoop_ok loop
    rw [← resources_after] at booked
    have backs : Backs (newReservation state placement claims) placement := by
      rw [committed]
      exact committed_backs validated recorded chosen booked
    have named : placement.id = ids.commitIds.1.placement := by rw [committed]; rfl
    have names : placement.reservation = ids.commitIds.1.reservation := by rw [committed]; rfl
    have live : placementStateIsLive placement.state := by rw [committed]; rfl
    let reservation := newReservation state placement claims
    have placements : after.placements = state.placements.set placement := by
      rw [placements_after, Table.emplace_fresh (named ▸ freshPlacement)]
    have reservations : after.reservations = state.reservations.set reservation := by
      have fresh : state.reservations.find? reservation.id = none := by
        rw [← names] at freshReservation
        exact freshReservation
      rw [reservations_after, Table.emplace_fresh fresh]
    refine ⟨fun other member running => ?_, fun other member active => ?_,
      fun other member running picked selection => ?_, fun first member running second there same => ?_⟩
    · rw [reservations]
      rw [placements] at member
      rcases Table.mem_set.mp member with rfl | ⟨earlier, -⟩
      · exact ⟨reservation, Table.find?_set_self .., rfl, backs⟩
      · obtain ⟨own, found, active, ownBacks⟩ := paired.backed other earlier running
        have differs : reservation.id ≠ other.reservation := fun same => unnamed other earlier (same.symm.trans names)
        exact ⟨own, (Table.find?_set_ne _ differs).trans found, active, ownBacks⟩
    · rw [placements]
      rw [reservations] at member
      rcases Table.mem_set.mp member with rfl | ⟨earlier, -⟩
      · exact ⟨placement, Table.find?_set_self .., live, rfl⟩
      · obtain ⟨own, found, running, ownNames⟩ := paired.held other earlier active
        have differs : placement.id ≠ other.placement := by
          intro same
          rw [← same, named, freshPlacement] at found
          cases found
        exact ⟨own, (Table.find?_set_ne _ differs).trans found, running, ownNames⟩
    · have present {id : ResourceId} (there : state.resources.find? id ≠ none) : after.resources.find? id ≠ none := by
        rw [booked.find?]
        simpa using there
      rw [placements] at member
      rcases Table.mem_set.mp member with rfl | ⟨earlier, -⟩
      · obtain ⟨claim, claimed, agrees⟩ := forall₂_mem_right backs.agree selection
        have registered := booked.registered claimed
        rw [agrees.resource] at registered
        exact present registered
      · exact present (paired.registered other earlier running picked selection)
    · rw [placements] at member there
      rcases Table.mem_set.mp member with rfl | ⟨earlier, -⟩
      · rcases Table.mem_set.mp there with rfl | ⟨later, -⟩
        · rfl
        · exact absurd (same.symm.trans names) (unnamed second later)
      · rcases Table.mem_set.mp there with rfl | ⟨later, -⟩
        · exact absurd (same.trans names) (unnamed first earlier)
        · exact paired.unshared first earlier running second later same

end Commit

theorem step {engine : Engine} {operation : Operation} (paired : Paired engine.state)
    (validated : Validated engine.state) (draws : engine.DrawsUnused operation) :
    Paired (engine.step operation).1.state := by
  refine Engine.step_preserves Paired.change Paired.write ?_ ?_ ?_ ?_ paired
  · intro advertisement mid record _ registers paired
    exact paired.register
  · intro advertisement mid live _ publishes paired
    exact paired.publish
  · intro call calls paired
    exact paired.scheduled scheduleLocked_result (validated.call calls) (Table.mem_of_find? calls.recorded)
      (calls.unused draws)
  · intro durable _ accepted
    exact Paired.recover (rebuildState_rebuilt accepted)

theorem fresh (config : EngineConfig) : Paired (Engine.fresh config).state := by
  constructor
  all_goals exact fun _ member => absurd member List.not_mem_nil

theorem runs {config : EngineConfig} {operations : List Operation}
    (guarded : Guarded Engine.step Engine.DrawsUnused (Engine.fresh config) operations) :
    Validated ((Engine.fresh config).runs operations).state ∧
      Paired ((Engine.fresh config).runs operations).state := by
  let both (state : SchedulerState) : Prop := Validated state ∧ Paired state
  have initial : both (Engine.fresh config).state := ⟨.fresh config, .fresh config⟩
  have kept : both ((Engine.fresh config).runs operations).state := by
    apply Engine.runs_preserve _ guarded initial
    intro engine operation _ sofar draws
    obtain ⟨validated, paired⟩ := sofar
    exact ⟨validated.step operation, paired.step validated draws⟩
  exact kept

/-- A placement is live exactly as long as the reservation it names is active. -/
theorem live_iff (paired : Paired state) {placement : PlacementRecord}
    (member : placement ∈ state.placements.entries) :
    placementStateIsLive placement.state ↔
      ∃ reservation, state.reservations.find? placement.reservation = some reservation ∧
        reservation.state = .active := by
  constructor
  · intro live
    obtain ⟨reservation, found, active, -⟩ := paired.backed placement member live
    exact ⟨reservation, found, active⟩
  · intro named
    obtain ⟨reservation, found, active⟩ := named
    obtain ⟨holder, there, live, names⟩ := paired.held reservation (Table.mem_of_find? found) active
    have named := Table.key_of_find? found
    have same := paired.unshared holder (Table.mem_of_find? there) live placement member (names.trans named)
    exact same ▸ live

end Paired

def Unshared (state : SchedulerState) : Prop :=
  ∀ placement ∈ state.placements.entries, ∀ other ∈ state.placements.entries,
    placement.reservation = other.reservation → placement = other

/-- No two placements of an accepted durable state name one reservation. -/
def ImportsUnshared (engine : Engine) : Operation → Prop
  | .importState durable =>
    importChecks engine.state durable = .ok () → (durable.placements.map PlacementRecord.reservation).Nodup
  | _ => True

namespace Unshared

variable {state after : SchedulerState}

theorem evolve (unshared : Unshared state)
    (placements : Table.Evolves PlacementRecord.Progresses state.placements after.placements) :
    Unshared after := by
  intro placement member other there same
  obtain ⟨first, earlier, named, progresses⟩ := placements.of_mem member
  obtain ⟨second, earlier', named', progresses'⟩ := placements.of_mem there
  have before := progresses.reservation.symm.trans (same.trans progresses'.reservation)
  have equal := unshared first earlier second earlier' before
  apply Table.eq_of_key_eq member there
  rw [← named, ← named', equal]

theorem recover {durable : DurableState} (rebuilt : Rebuilt durable state after)
    (distinct : (durable.placements.map PlacementRecord.reservation).Nodup) : Unshared after := by
  intro placement member other there same
  obtain ⟨first, persisted, terms⟩ := rebuilt.placement_terms member
  obtain ⟨second, persisted', terms'⟩ := rebuilt.placement_terms there
  have names := congrArg PlacementRecord.reservation terms
  have names' := congrArg PlacementRecord.reservation terms'
  have equal : first = second :=
    List.inj_on_of_nodup_map distinct persisted persisted' (names.symm.trans (same.trans names'))
  have id := congrArg PlacementRecord.id terms
  have id' := congrArg PlacementRecord.id terms'
  exact Table.eq_of_key_eq member there (id.trans ((congrArg PlacementRecord.id equal).trans id'.symm))

theorem scheduled {config : EngineConfig} {ids : IdGenerator} {stored : StoredRequest}
    {generation : PlacementGeneration} {reassignments : UInt32} {scheduled : Scheduled}
    (result : ScheduleResult state config ids stored generation reassignments scheduled)
    (unshared : Unshared state) (unused : IdsUnused state ids) : Unshared scheduled.state := by
  cases result with
  | noPlacement => exact unshared
  | refused => exact unshared
  | broken => exact unshared
  | placed chosen loop committed decided room resources_after requests_after placements_after =>
    obtain ⟨-, -, unnamed⟩ := unused
    have names := congrArg PlacementRecord.reservation committed
    intro placement member other there same
    rw [placements_after] at member there
    rcases Table.mem_emplace member with rfl | earlier
    · rcases Table.mem_emplace there with rfl | later
      · rfl
      · exact absurd (same.symm.trans names) (unnamed other later)
    · rcases Table.mem_emplace there with rfl | later
      · exact absurd (same.trans names) (unnamed placement earlier)
      · exact unshared placement earlier other later same

theorem step {engine : Engine} {operation : Operation} (unshared : Unshared engine.state)
    (draws : engine.DrawsUnused operation) (imports : ImportsUnshared engine operation) :
    Unshared (engine.step operation).1.state := by
  refine Engine.step_preserves (fun change unshared => unshared.evolve change.placements) ?_ ?_ ?_ ?_ ?_ unshared
  · intro state after write unshared
    cases write <;> exact unshared
  · intro advertisement mid record _ registers unshared
    exact unshared
  · intro advertisement mid live _ publishes unshared
    exact unshared
  · intro call calls unshared
    exact unshared.scheduled scheduleLocked_result (calls.unused draws)
  · intro durable same accepted
    subst same
    exact Unshared.recover (rebuildState_rebuilt accepted) (imports accepted)

theorem runs {config : EngineConfig} {operations : List Operation}
    (guarded : Guarded Engine.step
      (fun engine operation => engine.DrawsUnused operation ∧ ImportsUnshared engine operation)
      (Engine.fresh config) operations) : Unshared ((Engine.fresh config).runs operations).state := by
  have initial : Unshared (Engine.fresh config).state := fun _ member => absurd member List.not_mem_nil
  apply Engine.runs_preserve _ guarded initial
  intro engine operation _ unshared allowed
  exact unshared.step allowed.1 allowed.2

end Unshared

/-- `import_state` lets two placements name one reservation; while it is not made to, placements and
    reservations pair up in every reachable state. -/
theorem placements_pair_reservations {config : EngineConfig} {operations : List Operation}
    (guarded : Guarded Engine.step
      (fun engine operation => engine.DrawsUnused operation ∧ ImportsUnshared engine operation)
      (Engine.fresh config) operations) :
    let state := ((Engine.fresh config).runs operations).state
    (∀ placement ∈ state.placements.entries,
      (placementStateIsLive placement.state ↔
        ∃ reservation, state.reservations.find? placement.reservation = some reservation ∧
          reservation.state = .active) ∧
      ∀ reservation, state.reservations.find? placement.reservation = some reservation →
        reservation.state = .active →
          Backs reservation placement ∧
          ∀ selected ∈ placement.resources, state.resources.find? selected.resource ≠ none) ∧
    ∀ placement ∈ state.placements.entries, ∀ other ∈ state.placements.entries,
      placement.reservation = other.reservation → placement = other := by
  intro state
  have draws : Guarded Engine.step Engine.DrawsUnused (Engine.fresh config) operations :=
    guarded.weaken fun _ _ allowed => allowed.1
  have paired : Paired state := (Paired.runs draws).2
  refine ⟨fun placement member => ⟨paired.live_iff member, fun reservation found active => ?_⟩,
    Unshared.runs guarded⟩
  have live := (paired.live_iff member).mpr ⟨reservation, found, active⟩
  obtain ⟨own, there, -, backs⟩ := paired.backed placement member live
  have same := there.symm.trans found
  cases same
  exact ⟨backs, paired.registered placement member live⟩

theorem placements_pair_reservations_bench :
    let state := ((Engine.fresh {}).runs Bench.start).state
    ∀ placement ∈ state.placements.entries, placementStateIsLive placement.state →
      ∃ reservation, state.reservations.find? placement.reservation = some reservation ∧
        reservation.state = .active := by
  intro state placement member live
  have pairs := @placements_pair_reservations {} Bench.start
    ⟨⟨by decide, trivial⟩, ⟨by decide, trivial⟩, trivial⟩
  exact (pairs.1 placement member).1.mp live

/-- Two completed placements naming one reservation are imported as they are. -/
theorem import_shares_reservation :
    let operations := [Operation.importState (Bench.durable [Bench.completed 11 9, Bench.completed 12 9])]
    let state := ((Engine.fresh {}).runs operations).state
    Guarded Engine.step Engine.DrawsUnused (Engine.fresh {}) operations ∧
      ¬ ∀ placement ∈ state.placements.entries, ∀ other ∈ state.placements.entries,
        placement.reservation = other.reservation → placement = other := by
  refine ⟨⟨by decide, trivial⟩, ?_⟩
  decide

end LabScheduler
