import LabScheduler.Engine.Termination
import LabScheduler.Foundation.Leases
import LabScheduler.Foundation.Matching

namespace LabScheduler

open Foundation Relation

section Views

/-- The slots that a placement was given, by resource. -/
noncomputable def PlacementRecord.granted (placement : PlacementRecord) : ResourceId →₀ ℕ :=
  (placement.resources.map fun selected => Finsupp.single selected.resource selected.slots.toNat).sum

/-- What a placement holds: all it was given while it is live, and then nothing. -/
noncomputable def PlacementRecord.holding (placement : PlacementRecord) : ResourceId →₀ ℕ :=
  if placementStateIsLive placement.state then placement.granted else 0

def ResourceRecord.room (resource : ResourceRecord) : ℕ :=
  resource.capacity.slots.toNat - resource.advertisedOccupancy.toNat

theorem holding_known {placements : PlacementTable} {id : PlacementId}
    (holds : (placements.find? id).elim 0 PlacementRecord.holding ≠ 0) : id ∈ placements.keys.toFinset := by
  cases found : placements.find? id with
  | none =>
    rw [found] at holds
    exact absurd rfl holds
  | some placement => exact List.mem_toFinset.mpr (Table.mem_keys found)

/-- The live placements, the room of the registered resources, and the placements that have ended. -/
noncomputable def SchedulerState.leases (state : SchedulerState) : Leases PlacementId ResourceId where
  room id := ((state.resources.find? id).map ResourceRecord.room).getD 0
  held := Finsupp.onFinset state.placements.keys.toFinset
    (fun id => (state.placements.find? id).elim 0 PlacementRecord.holding) fun _ => holding_known
  ended := {id | ∃ placement, state.placements.find? id = some placement ∧
    placementStateIsLive placement.state = false}

variable {state : SchedulerState} {placement : PlacementRecord} {id : PlacementId} {resource : ResourceId}

theorem PlacementRecord.granted_apply (placement : PlacementRecord) (resource : ResourceId) :
    placement.granted resource = (placement.resources.map fun selected =>
      if selected.resource = resource then selected.slots.toNat else 0).sum := by
  unfold granted
  induction placement.resources with
  | nil => rfl
  | cons selected rest ih =>
    rw [List.map_cons, List.sum_cons, Finsupp.add_apply, ih, Finsupp.single_apply, List.map_cons, List.sum_cons]

theorem PlacementRecord.holding_apply (placement : PlacementRecord) (resource : ResourceId) :
    placement.holding resource = if placementStateIsLive placement.state then placement.granted resource else 0 := by
  unfold holding
  split <;> rfl

theorem SchedulerState.held_eq (state : SchedulerState) (id : PlacementId) :
    state.leases.held id = (state.placements.find? id).elim 0 PlacementRecord.holding := rfl

theorem SchedulerState.held_of_find? (found : state.placements.find? id = some placement) :
    state.leases.held id = placement.holding := by
  rw [held_eq, found]
  rfl

theorem Backs.granted {reservation : ReservationRecord} (backs : Backs reservation placement) : placement.granted ≠ 0 := by
  obtain ⟨selected, picked⟩ := List.exists_mem_of_ne_nil _ backs.nonempty
  obtain ⟨claim, claimed, agrees⟩ := forall₂_mem_right backs.agree picked
  have positive := UInt32.le_iff_toNat_le.mp (backs.slots claim claimed)
  rw [agrees.slots] at positive
  intro none
  have applied := placement.granted_apply selected.resource
  rw [none, Finsupp.zero_apply, eq_comm, List.sum_eq_zero_iff] at applied
  have zero := applied _ (List.mem_map.mpr ⟨selected, picked, rfl⟩)
  rw [if_pos rfl] at zero
  rw [zero] at positive
  exact absurd positive (by decide)

theorem Backs.claimed {reservation : ReservationRecord} (backs : Backs reservation placement) (resource : ResourceId) :
    placement.granted resource = claimedSum reservation.claims resource := by
  have agree := backs.agree
  rw [PlacementRecord.granted_apply]
  generalize placement.resources = selections at agree
  generalize reservation.claims = claims at agree
  induction agree with
  | nil => rfl
  | @cons claim selected claims rest agrees _ ih =>
    rw [List.map_cons, List.sum_cons, ih, claimedSum_cons, agrees.resource, agrees.slots]

theorem SchedulerState.taken_eq (state : SchedulerState) (resource : ResourceId) :
    state.leases.taken resource = state.placements.total fun placement =>
      if placementStateIsLive placement.state then placement.granted resource else 0 := by
  have sum : state.leases.taken resource =
      ∑ id ∈ state.placements.keys.toFinset, state.leases.held id resource :=
    Finsupp.onFinset_sum (fun _ => holding_known) fun _ => rfl
  rw [sum, List.sum_toFinset _ state.placements.keys_nodup, Table.keys, List.map_map]
  refine congrArg List.sum (List.map_congr_left fun placement member => ?_)
  rw [Function.comp_apply, held_of_find? (Table.find?_of_mem member), PlacementRecord.holding_apply]

theorem Paired.matches (paired : Paired state) :
    state.placements.Matches state.reservations (fun placement => placementStateIsLive placement.state)
      (fun reservation => reservation.state = .active) PlacementRecord.reservation := by
  refine ⟨fun placement member live => ?_, fun reservation member active => ?_, fun placement member live other there _ same => ?_⟩
  · obtain ⟨reservation, found, active, -⟩ := paired.backed placement member live
    exact ⟨reservation, found, active⟩
  · obtain ⟨placement, found, live, names⟩ := paired.held reservation member active
    exact ⟨placement, Table.mem_of_find? found, live, names⟩
  · exact paired.unshared placement member live other there same

/-- What is taken is what the active reservations claim. -/
theorem Paired.taken (paired : Paired state) (resource : ResourceId) :
    state.leases.taken resource = claimedSlotsOn state.reservations resource := by
  rw [SchedulerState.taken_eq]
  refine paired.matches.total_eq fun placement member live reservation found => ?_
  obtain ⟨own, there, -, backs⟩ := paired.backed placement member live
  rw [there] at found
  cases found
  exact backs.claimed resource

theorem Sound.taken (sound : Sound state) {record : ResourceRecord} (member : record ∈ state.resources.entries) :
    state.leases.taken record.id = record.reservedSlots.toNat := by
  rw [sound.paired.taken, sound.ledger.booked record member]

theorem Sound.fair (sound : Sound state) : state.leases.Fair := by
  refine ⟨fun resource => ?_, fun id past => ?_⟩
  · change _ ≤ ((state.resources.find? resource).map ResourceRecord.room).getD 0
    cases found : state.resources.find? resource with
    | none =>
      rw [SchedulerState.taken_eq, Table.total_eq_zero]
      · exact Nat.le_refl 0
      · intro placement member
        split
        · rename_i live
          rw [PlacementRecord.granted_apply, List.sum_eq_zero_iff, List.forall_mem_map]
          intro selected picked
          refine if_neg fun same => ?_
          exact sound.paired.registered placement member live selected picked (same ▸ found)
        · rfl
    | some record =>
      have member := Table.mem_of_find? found
      have fits := sound.ledger.fits record member
      rw [← ResourceTable.id_of_find? found, sound.taken member, Option.map_some, Option.getD_some, ResourceRecord.room]
      omega
  · obtain ⟨placement, found, closed⟩ := past
    rw [SchedulerState.held_of_find? found, PlacementRecord.holding, closed]
    rfl

end Views

section Steps

variable {engine : Engine} {operation : Operation} {state after : SchedulerState} {allowed : Leases.Act → Prop}

/-- What an operation may do with leases: only one that schedules grants any, and the room is another one only after
    an advertisement or a recovery. -/
def Operation.leasing (operation : Operation) : Leases.Act → Prop
  | .grant => operation.schedules
  | .release => True
  | .resize => (∃ advertisement, operation = .registerResource advertisement) ∨
      (∃ advertisement, operation = .publishResourceState advertisement) ∨ ∃ durable, operation = .importState durable
  | .restore => ∃ durable, operation = .importState durable

theorem leases_room (resources : ∀ id, (after.resources.find? id).map ResourceRecord.room =
    (state.resources.find? id).map ResourceRecord.room) : after.leases.room = state.leases.room := by
  funext id
  exact congrArg (fun room => room.getD 0) (resources id)

theorem ResourceRecord.Lapses.room {before after : ResourceRecord} (lapses : before.Lapses after) :
    after.room = before.room := by
  unfold ResourceRecord.room
  rw [lapses.capacity, lapses.advertised]

theorem PlacementRecord.Progresses.granted {before after : PlacementRecord} (progresses : before.Progresses after) :
    after.granted = before.granted := by
  unfold PlacementRecord.granted
  rw [progresses.resources]

theorem PlacementRecord.Progresses.holding {before after : PlacementRecord} (progresses : before.Progresses after) :
    after.holding = before.holding ∨ after.holding = 0 := by
  unfold PlacementRecord.holding
  by_cases live : placementStateIsLive after.state
  · refine .inl ?_
    rw [if_pos live, if_pos (progresses.live live), progresses.granted]
  · exact .inr (if_neg live)

theorem Change.leases (change : Change state after) (paired : Paired state) (may : allowed .release) :
    ReflTransGen (Leases.Moves allowed) state.leases after.leases := by
  have placements := change.placements
  refine Leases.releases may (leases_room fun id => ?_) (fun id => ?_) (Set.ext fun id => ?_)
  · cases found : state.resources.find? id with
    | none => rw [change.resources.absent found]
    | some resource =>
      obtain ⟨lapsed, there, lapses⟩ := change.resources.later found
      rw [there, Option.map_some, Option.map_some, lapses.room]
  · rw [SchedulerState.held_eq, SchedulerState.held_eq]
    cases found : state.placements.find? id with
    | none =>
      rw [placements.absent found]
      exact .inl rfl
    | some placement =>
      obtain ⟨later, there, progresses⟩ := placements.later found
      rw [there]
      exact progresses.holding
  · change (∃ later, after.placements.find? id = some later ∧ placementStateIsLive later.state = false) ↔
      (∃ placement, state.placements.find? id = some placement ∧ placementStateIsLive placement.state = false) ∨
        state.leases.held id ≠ 0 ∧ after.leases.held id = 0
    cases found : state.placements.find? id with
    | none =>
      rw [placements.absent found, SchedulerState.held_eq, found]
      simp
    | some placement =>
      obtain ⟨later, there, progresses⟩ := placements.later found
      rw [there, SchedulerState.held_of_find? found, SchedulerState.held_of_find? there]
      simp only [Option.some.injEq, exists_eq_left']
      by_cases live : placementStateIsLive placement.state
      · obtain ⟨reservation, -, -, backs⟩ := paired.backed placement (Table.mem_of_find? found) live
        have granted := backs.granted
        by_cases still : placementStateIsLive later.state
        · simp [PlacementRecord.holding, live, still, progresses.granted, granted]
        · simp [PlacementRecord.holding, live, still, granted]
      · rw [progresses.frozen (Bool.not_eq_true _ ▸ live)]
        simp [live]

theorem RequestWrite.leases (write : RequestWrite state after) : after.leases = state.leases := by
  cases write <;> rfl

theorem leases_resize (same : after.placements = state.placements) (sound : Sound after) (may : allowed .resize) :
    Leases.Moves allowed state.leases after.leases := by
  have held : after.leases.held = state.leases.held := by
    unfold SchedulerState.leases
    simp only [same]
  have ended : after.leases.ended = state.leases.ended := by
    unfold SchedulerState.leases
    simp only [same]
  have whole : after.leases = { state.leases with room := after.leases.room } := by
    ext1
    · rfl
    · exact held
    · exact ended
  have fits := sound.fair.fits
  unfold Leases.taken at fits
  rw [held] at fits
  rw [whole]
  exact .resize may fits

theorem Booked.room {resources after : ResourceTable} {turns : List (CandidateResource × ResourceRequirement)}
    {selected : List SelectedResource} {claims : List ReservationClaim}
    (booked : Booked resources turns after selected claims) (id : ResourceId) :
    (after.find? id).map ResourceRecord.room = (resources.find? id).map ResourceRecord.room := by
  rw [booked.find?, Option.map_map]
  refine congrArg (fun room => Option.map room _) (funext fun resource => ?_)
  rw [Function.comp_apply, resource.takeAll_eq claims]
  rfl

theorem SchedulingCall.leases {call : SchedulingCall} {config : EngineConfig} {ids : IdGenerator}
    (unused : IdsUnused call.state ids) (sound : Sound (call.scheduled config ids).state) (may : allowed .grant) :
    ReflTransGen (Leases.Moves allowed) call.state.leases (call.scheduled config ids).state.leases := by
  have result : ScheduleResult call.state config ids call.stored call.generation call.reassignments
    (call.scheduled config ids) := scheduleLocked_result
  generalize call.scheduled config ids = scheduled at result sound
  have booked := result.booked
  obtain ⟨turns, selected, claims, booked⟩ := booked
  have room := leases_room booked.room
  cases result with
  | noPlacement => exact .refl
  | refused => exact .refl
  | broken =>
    have same : SchedulerState.leases _ = call.state.leases := Leases.ext room rfl rfl
    rw [same]
  | @placed _ _ _ _ placement _ after chosen loop committed decided bounds resources_after requests_after
      placements_after =>
    have absent : call.state.placements.find? placement.id = none := by
      rw [committed]
      exact unused.1
    have live : placementStateIsLive placement.state := by
      rw [committed]
      rfl
    rw [Table.emplace_fresh absent] at placements_after
    have found : after.placements.find? placement.id = some placement := by
      rw [placements_after]
      exact Table.find?_set_self ..
    obtain ⟨reservation, -, -, backs⟩ := sound.paired.backed placement (Table.mem_of_find? found) live
    have unheld : call.state.leases.held placement.id = 0 := by
      rw [SchedulerState.held_eq, absent]
      rfl
    have fresh : placement.id ∉ call.state.leases.ended := by
      rintro ⟨other, there, -⟩
      rw [absent] at there
      cases there
    have same : after.leases =
        { call.state.leases with held := call.state.leases.held.update placement.id placement.granted } := by
      refine Leases.ext room (Finsupp.ext fun id => ?_) (Set.ext fun id => ?_)
      · rw [Finsupp.update_apply, SchedulerState.held_eq, placements_after]
        split
        · rename_i own
          rw [own, Table.find?_set_self]
          exact if_pos live
        · rename_i apart
          rw [Table.find?_set_ne _ (Ne.symm apart)]
          rfl
      · by_cases own : id = placement.id
        · refine iff_of_false ?_ (own ▸ fresh)
          rintro ⟨other, there, closed⟩
          rw [own, found] at there
          cases there
          rw [live] at closed
          cases closed
        · change (∃ _, _) ↔ ∃ _, _
          rw [placements_after, Table.find?_set_ne _ (Ne.symm own)]
    refine .single ?_
    have fits := sound.fair.fits
    rw [same] at fits ⊢
    exact .grant may unheld fresh backs.granted fun place => (Leases.taken_update unheld _ place).symm.trans_le (fits place)

theorem rebuildState_leases {durable : DurableState} (accepted : importChecks state durable = .ok ())
    (sound : Sound (rebuildState state durable).state) (restore : allowed .restore) (resize : allowed .resize) :
    ReflTransGen (Leases.Moves allowed) state.leases (rebuildState state durable).state.leases := by
  have rebuilt := rebuildState_rebuilt accepted
  obtain ⟨-, -, -, none, -⟩ := importChecks_ok accepted
  have absent (id : PlacementId) : state.placements.find? id = .none := by
    refine Table.find?_eq_none.mpr fun placement member => ?_
    rw [none] at member
    cases member
  generalize (rebuildState state durable).state = after at rebuilt sound
  have idle : state.leases.held = 0 := by
    ext id : 1
    rw [SchedulerState.held_eq, absent]
    rfl
  have closed : after.leases.held = 0 := by
    ext id : 1
    rw [SchedulerState.held_eq]
    cases found : after.placements.find? id with
    | none => rfl
    | some placement => exact if_neg (Bool.eq_false_iff.mp (rebuilt.not_live (Table.mem_of_find? found)))
  have ended : state.leases.ended = ∅ := by
    refine Set.eq_empty_of_forall_notMem fun id => ?_
    rintro ⟨placement, there, -⟩
    rw [absent] at there
    cases there
  have held : after.leases.held = state.leases.held := closed.trans idle.symm
  have recalled : Leases.Moves allowed state.leases
      { state.leases with ended := state.leases.ended ∪ after.leases.ended } := .restore restore idle
  rw [ended, Set.empty_union] at recalled
  have fits := sound.fair.fits
  unfold Leases.taken at fits
  rw [held] at fits
  have whole : after.leases = ⟨after.leases.room, state.leases.held, after.leases.ended⟩ := Leases.ext rfl held rfl
  rw [whole]
  exact .tail (.single recalled) (.resize resize fits)

/-- One operation is a few moves of the allocator. -/
theorem Engine.step_leases (sound : Sound engine.state) (reasons : 1 ≤ engine.config.limits.maxRejectionReasonsPerEntry)
    (draws : engine.DrawsUnused operation) :
    ReflTransGen (Leases.Moves operation.leasing) engine.state.leases (engine.step operation).1.state.leases := by
  let follows (state : SchedulerState) : Prop :=
    Sound state ∧ ReflTransGen (Leases.Moves operation.leasing) engine.state.leases state.leases
  have followed : follows (engine.step operation).1.state := by
    refine Engine.step_preserves ?_ ?_ ?_ ?_ ?_ ?_ ⟨sound, .refl⟩
    · intro state after change sofar
      obtain ⟨sound, moves⟩ := sofar
      have move : Move engine operation state after := .change change
      exact ⟨move.sound sound reasons draws, moves.trans (change.leases sound.paired trivial)⟩
    · intro state after write sofar
      obtain ⟨sound, moves⟩ := sofar
      have move : Move engine operation state after := .write write
      exact ⟨move.sound sound reasons draws, write.leases ▸ moves⟩
    · intro advertisement mid record same registers sofar
      obtain ⟨sound, moves⟩ := sofar
      have move : Move engine operation mid _ := .register registers
      have sound := move.sound sound reasons draws
      exact ⟨sound, moves.tail (leases_resize rfl sound (.inl ⟨advertisement, same⟩))⟩
    · intro advertisement mid live same publishes sofar
      obtain ⟨sound, moves⟩ := sofar
      have move : Move engine operation mid _ := .publish same publishes
      have sound := move.sound sound reasons draws
      exact ⟨sound, moves.tail (leases_resize rfl sound (.inr (.inl ⟨advertisement, same⟩)))⟩
    · intro call calls sofar
      obtain ⟨sound, moves⟩ := sofar
      have move : Move engine operation call.state _ := .schedule calls
      have sound := move.sound sound reasons draws
      exact ⟨sound, moves.trans (call.leases (calls.unused draws) sound calls.schedules)⟩
    · intro durable same accepted
      have move : Move engine operation engine.state _ := .recover same accepted
      have sound := move.sound sound reasons draws
      exact ⟨sound, rebuildState_leases accepted sound ⟨durable, same⟩ (.inr (.inr ⟨durable, same⟩))⟩
  exact followed.2

theorem Engine.runs_leases {operations : List Operation} (sound : Sound engine.state)
    (reasons : 1 ≤ engine.config.limits.maxRejectionReasonsPerEntry)
    (guarded : Guarded Engine.step Engine.DrawsUnused engine operations) :
    Sound (engine.runs operations).state ∧
      ReflTransGen (Leases.Moves fun _ => True) engine.state.leases (engine.runs operations).state.leases := by
  induction operations generalizing engine with
  | nil => exact ⟨sound, .refl⟩
  | cons operation rest ih =>
    obtain ⟨draws, guarded⟩ := guarded
    have reasons' : 1 ≤ (engine.step operation).1.config.limits.maxRejectionReasonsPerEntry := by
      rwa [engine.step_config]
    obtain ⟨last, later⟩ := ih ((engine.passes_step operation).sound sound reasons draws) reasons' guarded
    have first : ReflTransGen (Leases.Moves fun _ => True) engine.state.leases (engine.step operation).1.state.leases :=
      ReflTransGen.mono (fun _ _ (moves : Leases.Moves operation.leasing _ _) => moves.mono fun _ _ => trivial) _ _
        (Engine.step_leases sound reasons draws)
    exact ⟨last, first.trans later⟩

end Steps

/-- A coordinator is such an allocator: it starts with nothing, each operation makes the moves of its kind only, no
    resource is ever taken beyond its room, and what a placement was given it holds whole until it gives it back for
    good. -/
theorem engine_refines_leases {config : EngineConfig} {earlier later : List Operation}
    (reasons : 1 ≤ config.limits.maxRejectionReasonsPerEntry)
    (guarded : Guarded Engine.step Engine.DrawsUnused (Engine.fresh config) (earlier ++ later)) :
    let before := (Engine.fresh config).runs earlier
    (Engine.fresh config).state.leases = ⟨fun _ => 0, 0, ∅⟩ ∧ before.state.leases.Fair ∧
      before.state.leases.Continues (before.runs later).state.leases ∧
        ∀ operation rest, later = operation :: rest →
          ReflTransGen (Leases.Moves operation.leasing) before.state.leases (before.step operation).1.state.leases := by
  intro before
  obtain ⟨past, guarded⟩ := guarded_append.mp guarded
  obtain ⟨sound, -⟩ := Engine.runs_leases (.fresh config) reasons past
  have reasons' : 1 ≤ before.config.limits.maxRejectionReasonsPerEntry := by
    rwa [Engine.runs_config]
  obtain ⟨-, moves⟩ := Engine.runs_leases sound reasons' guarded
  refine ⟨?_, sound.fair, sound.fair.continues moves, ?_⟩
  · refine Leases.ext rfl (Finsupp.ext fun _ => rfl) (Set.eq_empty_of_forall_notMem fun id => ?_)
    rintro ⟨placement, there, -⟩
    cases there
  · rintro operation rest rfl
    exact Engine.step_leases sound reasons' guarded.1

theorem engine_refines_leases_bench :
    let before := (Engine.fresh {}).runs Bench.start
    before.state.placements.entries.map PlacementRecord.state = [.reserved] ∧
      before.state.leases.Continues (before.runs [.cancelRequest ⟨5⟩ []]).state.leases := by
  have draws : Guarded Engine.step Engine.DrawsUnused (Engine.fresh {})
      (Bench.start ++ [.cancelRequest ⟨5⟩ []]) :=
    ⟨by decide +kernel, by decide +kernel, by decide +kernel, trivial⟩
  exact ⟨by decide +kernel, (engine_refines_leases (by decide) draws).2.2.1⟩

end LabScheduler
