import LabScheduler.Engine.Passes
import LabScheduler.Foundation.Matching

namespace LabScheduler

open Foundation

/-- The end of a placement, on the tables of its reservation and of the claimed resources. -/
structure Closes (before after : SchedulerState) (placement : PlacementRecord)
    (reservation : ReservationRecord) : Prop where
  active : before.reservations.find? placement.reservation = some reservation ∧ reservation.state = .active
  closed : ∃ closed, after.reservations.find? placement.reservation = some closed ∧
    closed.terms = reservation.terms ∧ (closed.state = .released ∨ closed.state = .revoked)
  returned : ∀ claim ∈ reservation.claims, ∃ held free,
    before.resources.find? claim.resource = some held ∧ after.resources.find? claim.resource = some free ∧
      free.reservedSlots.toNat + claim.slots.toNat = held.reservedSlots.toNat

theorem endPlacement_closes {state : SchedulerState} {placement : PlacementRecord} (target : PlacementState)
    (detail : Text) (paired : Paired state) (ledger : Ledger state)
    (found : state.placements.find? placement.id = some placement)
    (live : placementStateIsLive placement.state) :
    ∃ reservation, Closes state (endPlacement state placement target detail) placement reservation := by
  obtain ⟨reservation, held, active, backs, resources, reservations⟩ := paired.closes target detail found live
  refine ⟨reservation, ⟨held, active⟩, ?_, fun claim claimed => ?_⟩
  · refine ⟨reservation.close target detail, ?_, rfl, ?_⟩
    · have named := Table.key_of_find? held
      rw [reservations, Table.find?_set]
      exact if_pos named
    · change closedState target = .released ∨ closedState target = .revoked
      cases target <;> simp [closedState]
  · have present := ledger.registered reservation (Table.mem_of_find? held) active claim claimed
    obtain ⟨resource, there⟩ := Option.ne_none_iff_exists'.mp present
    have id : resource.id = claim.resource := ResourceTable.id_of_find? there
    have distinct : (reservation.claims.map ReservationClaim.resource).Nodup := by
      rw [forall₂_map_eq backs.agree Agrees.resource]
      exact backs.distinct
    have sum : claimedSum reservation.claims resource.id = claim.slots.toNat := by
      rw [id]
      exact claimedSum_of_nodup distinct claimed
    have share : reservation.claimedOn resource.id ≤ claimedSlotsOn state.reservations resource.id :=
      Table.weight_le_total (Table.mem_of_find? held) fun other => other.claimedOn resource.id
    have own : reservation.claimedOn resource.id = claim.slots.toNat := (if_pos active).trans sum
    have booked := ledger.booked resource (Table.mem_of_find? there)
    refine ⟨resource, resource.giveBackAll reservation.claims, there, ?_, ?_⟩
    · rw [resources, releaseClaims_find?, there]
      rfl
    · rw [giveBackAll_slots, sum]
      omega

/-- How a live placement ends within an operation: by one termination, in a state the operation
    passes through, and what that left is what the operation leaves. -/
def Engine.EndsOnce (engine : Engine) (operation : Operation) (id : PlacementId) (after : SchedulerState) : Prop :=
  ∃ mid placement target detail reservation, engine.Passes operation mid ∧
    mid.placements.find? id = some placement ∧ placementStateIsLive placement.state ∧
    placementStateIsLive target = false ∧
    Closes mid (endPlacement mid placement target detail) placement reservation ∧
    after.placements.find? id = (endPlacement mid placement target detail).placements.find? id ∧
    after.reservations.find? placement.reservation =
      (endPlacement mid placement target detail).reservations.find? placement.reservation

theorem Kept.frozen_placement {before after : SchedulerState} (kept : Kept before after) {id : PlacementId}
    {placement : PlacementRecord} (found : before.placements.find? id = some placement)
    (closed : placementStateIsLive placement.state = false) : after.placements.find? id = some placement := by
  obtain ⟨later, there, progresses⟩ := kept.placements.later found
  rw [there, progresses.frozen closed]

theorem Kept.frozen_reservation {before after : SchedulerState} (kept : Kept before after) {id : ReservationId}
    {reservation : ReservationRecord} (found : before.reservations.find? id = some reservation)
    (closed : reservation.state ≠ .active) : after.reservations.find? id = some reservation := by
  obtain ⟨later, there, progresses⟩ := kept.reservations.later found
  rw [there, progresses.frozen closed]

theorem Engine.EndsOnce.closed {engine : Engine} {operation : Operation} {id : PlacementId} {after : SchedulerState}
    (ends : engine.EndsOnce operation id after) :
    ∃ ended, after.placements.find? id = some ended ∧ placementStateIsLive ended.state = false := by
  obtain ⟨mid, placement, target, detail, -, -, found, -, closed, -, same, -⟩ := ends
  let ended := placement.finish target detail (mid.transitionSequence + 1)
  refine ⟨ended, ?_, closed⟩
  rw [same]
  change (mid.placements.set ended).find? id = some ended
  rw [Table.find?_set]
  exact if_pos (Table.key_of_find? found)

theorem Engine.EndsOnce.kept {engine : Engine} {operation : Operation} {id : PlacementId}
    {state after : SchedulerState} (ends : engine.EndsOnce operation id state) (kept : Kept state after) :
    engine.EndsOnce operation id after := by
  obtain ⟨mid, placement, target, detail, reservation, passes, found, live, closed, closes, same, same'⟩ := ends
  refine ⟨mid, placement, target, detail, reservation, passes, found, live, closed, closes, ?_, ?_⟩
  · have named := Table.key_of_find? found
    let ended := placement.finish target detail (mid.transitionSequence + 1)
    have there : (endPlacement mid placement target detail).placements.find? id = some ended := by
      change (mid.placements.set ended).find? id = some ended
      rw [Table.find?_set]
      exact if_pos named
    rw [there] at same ⊢
    exact kept.frozen_placement same closed
  · obtain ⟨record, there, -, state⟩ := closes.closed
    rw [there] at same' ⊢
    apply kept.frozen_reservation same'
    rcases state with released | revoked
    · rw [released]
      nofun
    · rw [revoked]
      nofun

structure Sound (state : SchedulerState) : Prop where
  validated : Validated state
  paired : Paired state
  ledger : Ledger state

theorem Move.sound {engine : Engine} {operation : Operation} {state after : SchedulerState}
    (move : Move engine operation state after) (sound : Sound state)
    (reasons : 1 ≤ engine.config.limits.maxRejectionReasonsPerEntry) (draws : engine.DrawsUnused operation) :
    Sound after := by
  obtain ⟨validated, paired, ledger⟩ := sound
  cases move with
  | change change => exact ⟨.change change validated, .change change paired, .change change ledger⟩
  | write write => exact ⟨.write write validated, .write write paired, .requestWrite write ledger⟩
  | register registers =>
    exact ⟨validated.register registers.valid, paired.register,
      ledger.register registers.absent registers.unreserved registers.valid⟩
  | publish _ publishes =>
    exact ⟨validated.publish publishes, paired.publish, ledger.publish publishes.found publishes.accepted⟩
  | schedule calls =>
    have recorded := Table.mem_of_find? calls.recorded
    have unused := calls.unused draws
    exact ⟨validated.scheduled scheduleLocked_result recorded,
      paired.scheduled scheduleLocked_result validated recorded unused,
      Ledger.scheduled scheduleLocked_result ledger reasons fun _ => unused.2.1⟩
  | recover _ accepted =>
    have rebuilt := rebuildState_rebuilt accepted
    have valid := (importChecks_ok accepted).1
    exact ⟨.recover rebuilt valid, .recover rebuilt, .recover rebuilt valid⟩

theorem Engine.Passes.sound {engine : Engine} {operation : Operation} {state : SchedulerState}
    (passes : engine.Passes operation state) (sound : Sound engine.state)
    (reasons : 1 ≤ engine.config.limits.maxRejectionReasonsPerEntry) (draws : engine.DrawsUnused operation) :
    Sound state := by
  induction passes with
  | refl => exact sound
  | tail _ move ih => exact move.sound ih reasons draws

theorem Sound.fresh (config : EngineConfig) : Sound (Engine.fresh config).state :=
  ⟨.fresh config, .fresh config, .fresh config⟩

theorem Sound.runs_beside {config : EngineConfig} {operations : List Operation}
    {ok : Engine → Operation → Prop} {invariant : SchedulerState → Prop}
    (reasons : 1 ≤ config.limits.maxRejectionReasonsPerEntry)
    (unused : ∀ engine operation, ok engine operation → engine.DrawsUnused operation)
    (preserved : ∀ engine operation, 1 ≤ engine.config.limits.maxRejectionReasonsPerEntry →
      Sound engine.state → invariant engine.state → ok engine operation → invariant (engine.step operation).1.state)
    (guarded : Guarded Engine.step ok (Engine.fresh config) operations)
    (initial : invariant (Engine.fresh config).state) :
    Sound ((Engine.fresh config).runs operations).state ∧
      invariant ((Engine.fresh config).runs operations).state := by
  let both (state : SchedulerState) : Prop := Sound state ∧ invariant state
  have started : both (Engine.fresh config).state := ⟨.fresh config, initial⟩
  have kept : both ((Engine.fresh config).runs operations).state := by
    apply Engine.runs_preserve _ guarded started
    intro engine operation same sofar allowed
    obtain ⟨sound, holds⟩ := sofar
    have reasons : 1 ≤ engine.config.limits.maxRejectionReasonsPerEntry := same ▸ reasons
    exact ⟨(engine.passes_step operation).sound sound reasons (unused engine operation allowed),
      preserved engine operation reasons sound holds allowed⟩
  exact kept

theorem Engine.Passes.ends {engine : Engine} {operation : Operation} {state : SchedulerState}
    (passes : engine.Passes operation state) (sound : Sound engine.state)
    (reasons : 1 ≤ engine.config.limits.maxRejectionReasonsPerEntry) (draws : engine.DrawsUnused operation)
    {id : PlacementId} {placement : PlacementRecord} (found : engine.state.placements.find? id = some placement)
    (live : placementStateIsLive placement.state) :
    (∃ later, state.placements.find? id = some later ∧ placementStateIsLive later.state) ∨
      engine.EndsOnce operation id state := by
  have occupied : engine.state.placements.entries ≠ [] := List.ne_nil_of_mem (Table.mem_of_find? found)
  induction passes with
  | refl => exact .inl ⟨placement, found, live⟩
  | @tail mid after before move ih =>
    have sofar := Engine.Passes.sound before sound reasons draws
    have kept := move.kept (.inl occupied)
    rcases ih with ⟨record, there, running⟩ | ends
    · cases move with
      | change change =>
        have named := Table.key_of_find? there
        rw [← named] at there ⊢
        rcases change.ends there running with still | ⟨target, detail, closed, rfl⟩
        · exact .inl still
        · obtain ⟨reservation, closes⟩ := endPlacement_closes target detail sofar.paired sofar.ledger there running
          exact .inr ⟨mid, record, target, detail, reservation, before, there, running, closed, closes, rfl, rfl⟩
      | write write => cases write <;> exact .inl ⟨record, there, running⟩
      | register => exact .inl ⟨record, there, running⟩
      | publish => exact .inl ⟨record, there, running⟩
      | @schedule call calls =>
        obtain ⟨same, found, rfl⟩ := (call.extends_tables engine.config engine.ids).1.later there
        exact .inl ⟨record, found, running⟩
      | recover _ accepted =>
        obtain ⟨-, -, -, placements, -⟩ := importChecks_ok accepted
        exact absurd placements occupied
    · exact .inr (ends.kept kept)

def SchedulerState.holds (state : SchedulerState) (id : ReservationId) : Prop :=
  ∃ reservation, state.reservations.find? id = some reservation ∧ reservation.state = .active

instance (state : SchedulerState) (id : ReservationId) : Decidable (state.holds id) :=
  decidable_of_iff ((state.reservations.find? id).any fun reservation => reservation.state = .active)
    (by simp [SchedulerState.holds, Option.any_eq_true])

/-- The slots of a resource that reservations other than one hold before and no longer hold after. -/
def slotsGivenUp (before after : SchedulerState) (except : ReservationId) (resource : ResourceId) : Nat :=
  before.reservations.total fun reservation =>
    if reservation.id = except ∨ after.holds reservation.id then 0 else reservation.claimedOn resource

/-- Each resource that the reservation claims has as many reserved slots less, but for what other reservations gave up
    and took between the two states. -/
def Returns (before after : SchedulerState) (reservation : ReservationRecord) : Prop :=
  ∀ claim ∈ reservation.claims, ∃ held free,
    before.resources.find? claim.resource = some held ∧ after.resources.find? claim.resource = some free ∧
      free.reservedSlots.toNat + claim.slots.toNat + slotsGivenUp before after reservation.id claim.resource =
        held.reservedSlots.toNat + slotsGivenUp after before reservation.id claim.resource

theorem SchedulerState.holds_of_mem {state : SchedulerState} {reservation : ReservationRecord}
    (member : reservation ∈ state.reservations.entries) : state.holds reservation.id ↔ reservation.state = .active := by
  have found : state.reservations.find? reservation.id = some reservation := Table.find?_of_mem member
  simp [SchedulerState.holds, found]

theorem claimedSlotsOn_split {before after : SchedulerState} {except : ReservationId} (resource : ResourceId)
    (ended : ¬ (before.holds except ∧ after.holds except)) :
    claimedSlotsOn before.reservations resource =
      before.reservations.total (fun other =>
        if before.holds other.id ∧ after.holds other.id then other.claimedOn resource else 0) +
        (slotsGivenUp before after except resource +
          before.reservations.total fun other => if other.id = except then other.claimedOn resource else 0) := by
  unfold claimedSlotsOn slotsGivenUp
  rw [← Table.total_add, ← Table.total_add]
  refine Table.total_congr fun other member => ?_
  have idle (not : ¬ before.holds other.id) : other.claimedOn resource = 0 :=
    if_neg fun active => not ((SchedulerState.holds_of_mem member).mpr active)
  by_cases same : other.id = except
  · rw [same, if_neg ended, if_pos (Or.inl rfl), if_pos rfl, Nat.zero_add, Nat.zero_add]
  · by_cases holds : after.holds other.id
    · rw [if_pos (Or.inr holds), if_neg same]
      split
      · rfl
      · rename_i not
        rw [idle fun before => not ⟨before, holds⟩]
    · rw [if_neg fun both => holds both.2, if_neg (not_or.mpr ⟨same, holds⟩), if_neg same, Nat.zero_add, Nat.add_zero]

theorem Kept.staying {before after : SchedulerState} (kept : Kept before after) (resource : ResourceId) :
    before.reservations.total (fun other =>
        if before.holds other.id ∧ after.holds other.id then other.claimedOn resource else 0) =
      after.reservations.total fun other =>
        if after.holds other.id ∧ before.holds other.id then other.claimedOn resource else 0 := by
  have same {id : ReservationId} (holds : after.holds id) (held : before.holds id) :
      ∃ record, before.reservations.find? id = some record ∧ after.reservations.find? id = some record := by
    obtain ⟨record, found, -⟩ := held
    obtain ⟨later, there, active⟩ := holds
    obtain ⟨other, found', progresses⟩ := kept.reservations.later found
    cases there.symm.trans found'
    exact ⟨record, found, progresses.active active ▸ there⟩
  have pairs : before.reservations.Matches after.reservations (fun other => before.holds other.id ∧ after.holds other.id)
      (fun other => after.holds other.id ∧ before.holds other.id) ReservationRecord.id := by
    constructor
    · intro record member both
      obtain ⟨later, found, there⟩ := same both.2 both.1
      have key := Table.key_of_find? there
      exact ⟨later, there, by rw [key]; exact both.symm⟩
    · intro record member both
      obtain ⟨earlier, found, there⟩ := same both.1 both.2
      have key := Table.key_of_find? found
      exact ⟨earlier, Table.mem_of_find? found, by rw [key]; exact both.symm, key⟩
    · intro record member _ other there _ names
      exact Table.eq_of_key_eq member there names
  refine pairs.total_eq fun record member both later there => ?_
  obtain ⟨common, found, there'⟩ := same both.2 both.1
  cases (Table.find?_of_mem member).symm.trans found
  cases there.symm.trans there'
  rfl

theorem Sound.returns {before after : SchedulerState} (sound : Sound before) (later : Sound after)
    (kept : Kept before after) (remembers : Remembers before after) {reservation : ReservationRecord}
    (found : before.reservations.find? reservation.id = some reservation) (active : reservation.state = .active)
    (distinct : (reservation.claims.map ReservationClaim.resource).Nodup)
    (ended : ¬ after.holds reservation.id) : Returns before after reservation := by
  intro claim claimed
  have member := Table.mem_of_find? found
  have registered := sound.ledger.registered reservation member active claim claimed
  obtain ⟨held, there⟩ := Option.ne_none_iff_exists'.mp registered
  obtain ⟨free, here⟩ := Option.ne_none_iff_exists'.mp (remembers.resources registered)
  refine ⟨held, free, there, here, ?_⟩
  have booked := sound.ledger.booked held (Table.mem_of_find? there)
  have booked' := later.ledger.booked free (Table.mem_of_find? here)
  rw [ResourceTable.id_of_find? there] at booked
  rw [ResourceTable.id_of_find? here] at booked'
  have own : before.reservations.total (fun other =>
      if other.id = reservation.id then other.claimedOn claim.resource else 0) = claim.slots.toNat := by
    refine (Table.total_at member _).trans ?_
    rw [ReservationRecord.claimedOn, if_pos active, claimedSum_of_nodup distinct claimed]
  have gone : after.reservations.total (fun other =>
      if other.id = reservation.id then other.claimedOn claim.resource else 0) = 0 := by
    refine Table.total_eq_zero fun other there => ?_
    split
    · rename_i same
      exact if_neg fun active => ended (same ▸ (SchedulerState.holds_of_mem there).mpr active)
    · rfl
  have first := @claimedSlotsOn_split before after reservation.id claim.resource fun both => ended both.2
  have second := @claimedSlotsOn_split after before reservation.id claim.resource fun both => ended both.1
  have staying := kept.staying claim.resource
  omega

/-- A placement that is live before and not after gave its slots back. -/
theorem Sound.gives_back {before after : SchedulerState} (sound : Sound before) (later : Sound after)
    (kept : Kept before after) (remembers : Remembers before after) {placement ended : PlacementRecord}
    (member : placement ∈ before.placements.entries) (live : placementStateIsLive placement.state)
    (there : after.placements.find? placement.id = some ended) (closed : placementStateIsLive ended.state = false) :
    ∃ reservation, before.reservations.find? placement.reservation = some reservation ∧ reservation.state = .active ∧
      Returns before after reservation := by
  obtain ⟨other, found, progresses⟩ := kept.placements.later (Table.find?_of_mem member)
  cases there.symm.trans found
  have same : ended.reservation = placement.reservation := 
    @congrArg _ _ ended.terms placement.terms PlacementRecord.reservation progresses.terms
  obtain ⟨reservation, held, active, backs⟩ := sound.paired.backed placement member live
  have id : reservation.id = placement.reservation := Table.key_of_find? held
  refine ⟨reservation, held, active, ?_⟩
  have distinct : (reservation.claims.map ReservationClaim.resource).Nodup := by
    rw [forall₂_map_eq backs.agree Agrees.resource]
    exact backs.distinct
  refine sound.returns later kept remembers (id ▸ held) active distinct fun holds => ?_
  have running := (later.paired.live_iff (Table.mem_of_find? there)).mpr (by rw [same, ← id]; exact holds)
  rw [closed] at running
  cases running

end LabScheduler
