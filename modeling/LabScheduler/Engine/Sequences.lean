import LabScheduler.Engine.Lives
import LabScheduler.Engine.Shutdown
import LabScheduler.Engine.Transitions

namespace LabScheduler

open Foundation

/-- A call that finds a candidate and has room for it draws a sequence number for the placement and one for the
    reservation. -/
def SchedulingCall.Opens (call : SchedulingCall) (config : EngineConfig) : Prop :=
  call.best config ≠ none ∧ checkCommitBounds call.state config.limits = .ok ()

theorem SchedulingCall.scheduled_sequences (call : SchedulingCall) (config : EngineConfig) (ids : IdGenerator)
    {after : SchedulerState} (result : after = (call.scheduled config ids).state) :
    (after.placements = call.state.placements ∧ after.transitionSequence = call.state.transitionSequence ∧
        after.reservations = call.state.reservations ∧
          after.reservationSequence = call.state.reservationSequence) ∨
      call.Opens config ∧ FewTransitions 1 call.state after ∧
        after.reservationSequence = call.state.reservationSequence + 1 ∧
        (after.reservations = call.state.reservations ∨ ∃ reservation : ReservationRecord,
          reservation.acquireSequence = call.state.reservationSequence + 1 ∧
            after.reservations = call.state.reservations.emplace reservation) := by
  have ends := call.scheduled_ends config ids
  generalize call.scheduled config ids = scheduled at ends result
  cases ends with
  | unplaced =>
    subst result
    exact .inl ⟨rfl, rfl, rfl, rfl⟩
  | full =>
    subst result
    exact .inl ⟨rfl, rfl, rfl, rfl⟩
  | @commits first explanation ranked best bounds =>
    have opens : call.Opens config := ⟨by rw [best]; exact Option.some_ne_none first, bounds⟩
    refine .inr ⟨opens, ?_⟩
    simp only [commitPlacement] at result
    generalize commitLoop call.state.resources (first.selection.zip call.stored.request.requirements) = loop
      at result
    obtain ⟨resources, taken⟩ := loop
    cases taken with
    | error status =>
      subst result
      exact ⟨⟨1, le_refl 1, .waste .done⟩, rfl, .inl rfl⟩
    | ok both =>
      simp only [pushAudit, installPlacement, serveTenant] at result
      split at result
      · subst result
        exact ⟨⟨1, le_refl 1, .add .done rfl⟩, rfl, .inr ⟨_, rfl, rfl⟩⟩
      · subst result
        exact ⟨⟨1, le_refl 1, .add .done rfl⟩, rfl, .inr ⟨_, rfl, rfl⟩⟩

theorem SchedulingCall.scheduled_submissions (call : SchedulingCall) (config : EngineConfig) (ids : IdGenerator) :
    (call.scheduled config ids).state.requestSequence = call.state.requestSequence := by
  have ends := call.scheduled_ends config ids
  generalize call.scheduled config ids = scheduled at ends
  cases ends with
  | unplaced => rfl
  | full => rfl
  | @commits first explanation ranked best bounds =>
    simp only [commitPlacement]
    generalize commitLoop call.state.resources (first.selection.zip call.stored.request.requirements) = loop
    obtain ⟨resources, taken⟩ := loop
    cases taken with
    | error status => rfl
    | ok both =>
      simp only [pushAudit, installPlacement, serveTenant]
      split <;> rfl

/-- The sequence numbers that an operation may draw for placements: one for each that it ends or moves on, and one
    more where its call opens a commit. -/
inductive Engine.Draws (engine : Engine) (operation : Operation) : Nat → Prop
  | ends : Draws engine operation (engine.endings operation)
  | opens {call : SchedulingCall} (calls : engine.Calls operation call) (opens : call.Opens engine.config) :
    Draws engine operation (engine.endings operation + 1)

section Step

variable {engine : Engine} {operation : Operation} {call : SchedulingCall}

theorem Engine.Calls.transitions (calls : engine.Calls operation call) :
    FewTransitions (engine.endings operation) engine.state call.state := by
  cases calls with
  | submit accepted => exact (FewTransitions.none engine.state _).same rfl rfl
  | reassign accepted recorded budget =>
    simp only [Engine.endings, Engine.granted, accepted]
    exact terminatePlacement_transitions _ (reassignChecks_ok accepted).1
  | @preempt placement generation epoch reason record stored accepted recorded allowed budget =>
    obtain ⟨found, live⟩ := preemptChecks_ok accepted
    have ended := @terminatePlacement_transitions _ _ .preempted
      (reasonOr reason (ascii "preempted to free a constrained resource")) found
    rw [if_pos live] at ended
    simp only [Engine.endings, Engine.granted, accepted]
    exact ended.same rfl rfl

theorem Engine.Calls.step_transitions (calls : engine.Calls operation call) :
    ∃ count, engine.Draws operation count ∧ FewTransitions count engine.state (engine.step operation).1.state := by
  have scheduled : ∃ count, engine.Draws operation count ∧
      FewTransitions count engine.state (call.scheduled engine.config engine.ids).state := by
    rcases call.scheduled_sequences engine.config engine.ids rfl with ⟨placements, sequence, -⟩ | ⟨opens, drawn, -⟩
    · exact ⟨_, .ends, calls.transitions.same placements sequence⟩
    · exact ⟨_, .opens calls opens, calls.transitions.trans drawn⟩
  obtain ⟨count, draws, few⟩ := scheduled
  refine ⟨count, draws, ?_⟩
  rcases calls.step_audited with same | ⟨kind, detail, audited⟩
  · rw [same]
    exact few
  · rw [audited]
    exact few.same rfl rfl

theorem reassignPlacement_transitions (placement : PlacementId) (generation : PlacementGeneration)
    (epoch : CoordinatorEpoch) (reason : Text) :
    ∃ count, engine.Draws (.reassignPlacement placement generation epoch reason) count ∧
      FewTransitions count engine.state
        (engine.step (.reassignPlacement placement generation epoch reason)).1.state := by
  cases accepted : reassignChecks engine.state placement generation epoch with
  | error status =>
    refine ⟨_, .ends, ?_⟩
    simp only [Engine.step, Engine.draw, reassignPlacement, accepted]
    exact .none engine.state _
  | ok record =>
    have ended : FewTransitions (engine.endings (.reassignPlacement placement generation epoch reason)) engine.state
        (replaceTermination engine.state record .reassignmentRequired reason (ascii "reassigned by controller")) := by
      simp only [Engine.endings, Engine.granted, accepted]
      exact terminatePlacement_transitions _ (reassignChecks_ok accepted).1
    cases recorded : (replaceTermination engine.state record .reassignmentRequired reason
        (ascii "reassigned by controller")).requests.find? record.request with
    | none =>
      refine ⟨_, .ends, ?_⟩
      simp only [Engine.step, Engine.draw, reassignPlacement, accepted, recorded]
      exact ended
    | some stored =>
      by_cases spent : stored.request.maxReassignments ≤ record.reassignmentCount
      · refine ⟨_, .ends, ?_⟩
        simp only [Engine.step, Engine.draw, reassignPlacement, accepted, recorded, if_pos spent]
        exact ended
      · exact (Engine.Calls.reassign accepted recorded (UInt32.not_le.mp spent)).step_transitions

theorem preemptPlacement_transitions (placement : PlacementId) (generation : PlacementGeneration)
    (epoch : CoordinatorEpoch) (reason : Text) :
    ∃ count, engine.Draws (.preemptPlacement placement generation epoch reason) count ∧
      FewTransitions count engine.state
        (engine.step (.preemptPlacement placement generation epoch reason)).1.state := by
  cases accepted : preemptChecks engine.state placement generation epoch with
  | error status =>
    refine ⟨_, .ends, ?_⟩
    simp only [Engine.step, Engine.draw, preemptPlacement, accepted]
    exact .none engine.state _
  | ok record =>
    obtain ⟨found, live⟩ := preemptChecks_ok accepted
    have ended : FewTransitions (engine.endings (.preemptPlacement placement generation epoch reason)) engine.state
        (replaceTermination engine.state record .preempted reason
          (ascii "preempted to free a constrained resource")) := by
      have ended := @terminatePlacement_transitions _ _ .preempted
        (reasonOr reason (ascii "preempted to free a constrained resource")) found
      rw [if_pos live] at ended
      simp only [Engine.endings, Engine.granted, accepted]
      exact ended
    cases recorded : (replaceTermination engine.state record .preempted reason
        (ascii "preempted to free a constrained resource")).requests.find? record.request with
    | none =>
      refine ⟨_, .ends, ?_⟩
      simp only [Engine.step, Engine.draw, preemptPlacement, accepted, recorded]
      exact ended
    | some stored =>
      by_cases spent : stored.request.allowPreemption = false ∨
          stored.request.maxReassignments ≤ record.reassignmentCount
      · refine ⟨_, .ends, ?_⟩
        simp only [Engine.step, Engine.draw, preemptPlacement, accepted, recorded, if_pos spent]
        exact ended.same rfl rfl
      · obtain ⟨allowed, budget⟩ := not_or.mp spent
        have calls : engine.Calls (.preemptPlacement placement generation epoch reason) _ :=
          .preempt accepted recorded (Bool.eq_true_of_not_eq_false allowed) (UInt32.not_le.mp budget)
        exact calls.step_transitions

theorem Engine.step_transitions (present : ∀ durable, operation ≠ .importState durable) :
    ∃ count, engine.Draws operation count ∧ FewTransitions count engine.state (engine.step operation).1.state := by
  have still {after : SchedulerState} (placements : after.placements = engine.state.placements)
      (sequence : after.transitionSequence = engine.state.transitionSequence) :
      ∃ count, engine.Draws operation count ∧ FewTransitions count engine.state after :=
    ⟨_, .ends, (FewTransitions.none engine.state _).same placements sequence⟩
  cases operation with
  | adoptEpoch epoch =>
    simp only [Engine.step, Engine.keep, LabScheduler.adoptEpoch]
    split
    · exact still rfl rfl
    · exact still rfl rfl
  | beginShutdown =>
    simp only [Engine.step, Engine.keep, LabScheduler.beginShutdown]
    split
    · exact still rfl rfl
    · exact still rfl rfl
  | retireResource resource generation =>
    simp only [Engine.step, Engine.keep, LabScheduler.retireResource]
    split
    · exact still rfl rfl
    · exact still rfl rfl
  | exportState => exact still rfl rfl
  | importState durable => exact absurd rfl (present durable)
  | workerConnected worker boot => exact ⟨_, .ends, workerConnected_transitions worker boot⟩
  | workerDisconnected worker boot detail => exact ⟨_, .ends, markWorkerLost_transitions worker boot detail⟩
  | markWorkerLost worker boot detail => exact ⟨_, .ends, markWorkerLost_transitions worker boot detail⟩
  | registerResource advertisement => exact ⟨_, .ends, registerResource_transitions advertisement⟩
  | publishResourceState advertisement => exact ⟨_, .ends, publishResourceState_transitions advertisement⟩
  | markAssigned placement generation epoch boot =>
    exact ⟨_, .ends, markAssigned_transitions placement generation epoch boot⟩
  | markRunning placement generation epoch boot =>
    exact ⟨_, .ends, markRunning_transitions placement generation epoch boot⟩
  | reportCompletion claim => exact ⟨_, .ends, reportCompletion_transitions claim⟩
  | cancelPlacement placement generation epoch reason =>
    exact ⟨_, .ends, cancelPlacement_transitions placement generation epoch reason⟩
  | cancelRequest request reason => exact ⟨_, .ends, cancelRequest_transitions request reason⟩
  | reassignPlacement placement generation epoch reason => exact reassignPlacement_transitions ..
  | preemptPlacement placement generation epoch reason => exact preemptPlacement_transitions ..
  | submitRequest request =>
    cases accepted : submitChecks engine.state engine.config (normalizeScheduleRequest request) with
    | error status =>
      simp only [Engine.step, Engine.draw, LabScheduler.submitRequest, accepted]
      exact still rfl rfl
    | ok => exact (Engine.Calls.submit accepted).step_transitions

end Step

abbrev PlacementRecord.Live (placement : PlacementRecord) : Prop := placementStateIsLive placement.state

/-- The sequence numbers that a recovery brings back: those of the requests, of the ended placements and of the
    reservations. -/
structure Restored where
  requests : List UInt64 := []
  placements : List UInt64 := []
  reservations : List UInt64 := []

def DurableState.numbers (durable : DurableState) : Restored where
  requests := durable.requests.map StoredRequest.submittedSequence
  placements := (durable.placements.filter fun placement => !placementStateIsLive placement.state).map
    PlacementRecord.transitionSequence
  reservations := durable.reservations.map ReservationRecord.acquireSequence

/-- The records to recover carry sequence numbers of their own, and none that the recovery draws from the counter for
    the live placements. -/
structure DurableState.Apart (durable : DurableState) (sequence : UInt64) : Prop where
  requests : ∀ a ∈ durable.requests, ∀ b ∈ durable.requests, a.submittedSequence = b.submittedSequence → a = b
  reservations : ∀ a ∈ durable.reservations, ∀ b ∈ durable.reservations,
    a.acquireSequence = b.acquireSequence → a = b
  ended : ∀ a ∈ durable.placements, ∀ b ∈ durable.placements, ¬ a.Live → ¬ b.Live →
    a.transitionSequence = b.transitionSequence → a = b
  room : sequence.toNat + durable.placements.countP (fun placement => placement.Live) < 2 ^ 64
  clear : ∀ placement ∈ durable.placements, ¬ placement.Live →
    placement.transitionSequence.toNat ≤ sequence.toNat ∨
      sequence.toNat + durable.placements.countP (fun placement => placement.Live) <
        placement.transitionSequence.toNat

/-- What the placement loop of a recovery has done so far: the ended placements are as they were persisted, the others
    carry numbers drawn since it began. -/
structure Recovering (durable : DurableState) (sequence : UInt64) (recovery : Recovery) : Prop where
  distinct : recovery.state.placements.Distinct PlacementRecord.transitionSequence
  ended : ∀ placement ∈ recovery.state.placements.entries, ¬ placement.Live
  drawn : ∀ placement ∈ recovery.state.placements.entries, placement ∈ durable.placements ∨
    sequence.toNat < placement.transitionSequence.toNat ∧
      placement.transitionSequence.toNat ≤ recovery.state.transitionSequence.toNat

section Recovery

variable {durable : DurableState} {sequence : UInt64} {recovery : Recovery}

theorem recoverPlacement_recovering {persisted : PlacementRecord} (apart : durable.Apart sequence)
    (listed : persisted ∈ durable.placements) (recovering : Recovering durable sequence recovery)
    (begun : sequence.toNat ≤ recovery.state.transitionSequence.toNat)
    (within : recovery.state.transitionSequence.toNat + (if persisted.Live then 1 else 0) ≤
      sequence.toNat + durable.placements.countP (fun placement => placement.Live)) :
    Recovering durable sequence (recoverPlacement recovery persisted) ∧
      (recoverPlacement recovery persisted).state.transitionSequence.toNat =
        recovery.state.transitionSequence.toNat + (if persisted.Live then 1 else 0) := by
  have room := apart.room
  have one : (1 : UInt64).toNat = 1 := rfl
  by_cases live : persisted.Live
  · rw [if_pos live] at within
    let next := recovery.state.transitionSequence + 1
    have after : (recoverPlacement recovery persisted).state =
        { recovery.state with
          transitionSequence := next
          placements := recovery.state.placements.emplace (persisted.revoke next) } := by
      unfold recoverPlacement
      rw [if_pos live]
    have advanced : next.toNat = recovery.state.transitionSequence.toNat + 1 := by
      show (recovery.state.transitionSequence + 1).toNat = _
      rw [UInt64.toNat_add, one]
      omega
    rw [if_pos live, after]
    refine ⟨?_, advanced⟩
    constructor <;> rw [after]
    · apply recovering.distinct.emplace
      intro other there same
      have value : other.transitionSequence.toNat = next.toNat := congrArg UInt64.toNat same
      rcases recovering.drawn other there with persisted | ⟨-, below⟩
      · have clear := apart.clear other persisted (recovering.ended other there)
        omega
      · omega
    · intro other there
      rcases Table.mem_emplace there with rfl | before
      · exact Bool.false_ne_true
      · exact recovering.ended other before
    · intro other there
      rcases Table.mem_emplace there with rfl | before
      · right
        show sequence.toNat < next.toNat ∧ next.toNat ≤ next.toNat
        omega
      · rcases recovering.drawn other before with persisted | ⟨above, below⟩
        · exact .inl persisted
        · right
          show sequence.toNat < _ ∧ _ ≤ next.toNat
          omega
  · have after : (recoverPlacement recovery persisted).state =
        { recovery.state with placements := recovery.state.placements.emplace persisted } := by
      unfold recoverPlacement
      rw [if_neg live]
    rw [if_neg live, after]
    refine ⟨?_, rfl⟩
    constructor <;> rw [after]
    · cases taken : recovery.state.placements.find? persisted.id with
      | some other =>
        rw [Table.emplace_taken taken]
        exact recovering.distinct
      | none =>
        apply recovering.distinct.emplace
        intro other there same
        rcases recovering.drawn other there with known | ⟨above, below⟩
        · have equal := apart.ended other known persisted listed (recovering.ended other there) live same
          have found := Table.find?_of_mem there
          rw [equal, taken] at found
          cases found
        · have clear := apart.clear persisted listed live
          have value : other.transitionSequence.toNat = persisted.transitionSequence.toNat :=
            congrArg UInt64.toNat same
          rw [if_neg live] at within
          omega
    · intro other there
      rcases Table.mem_emplace there with rfl | before
      · exact live
      · exact recovering.ended other before
    · intro other there
      rcases Table.mem_emplace there with rfl | before
      · exact .inl listed
      · exact recovering.drawn other before

theorem recoverPlacements_recovering {placements : List PlacementRecord} (apart : durable.Apart sequence)
    (listed : ∀ placement ∈ placements, placement ∈ durable.placements)
    (recovering : Recovering durable sequence recovery)
    (begun : sequence.toNat ≤ recovery.state.transitionSequence.toNat)
    (within : recovery.state.transitionSequence.toNat + placements.countP (fun placement => placement.Live) ≤
      sequence.toNat + durable.placements.countP (fun placement => placement.Live)) :
    Recovering durable sequence (placements.foldl recoverPlacement recovery) := by
  induction placements generalizing recovery with
  | nil => exact recovering
  | cons placement rest ih =>
    have counted : (placement :: rest).countP (fun placement => placement.Live) =
        rest.countP (fun placement => placement.Live) + (if placement.Live then 1 else 0) := by
      rw [List.countP_cons]
      simp
    rw [counted] at within
    obtain ⟨turned, next⟩ := recoverPlacement_recovering apart (listed placement List.mem_cons_self) recovering begun
      (by omega)
    apply ih
    · exact fun other there => listed other (List.mem_cons_of_mem _ there)
    · exact turned
    · omega
    · omega

theorem rebuildState_recovering {state : SchedulerState} (accepted : importChecks state durable = .ok ())
    (apart : durable.Apart state.transitionSequence) :
    (rebuildState state durable).state.placements.Distinct PlacementRecord.transitionSequence ∧
      Known PlacementRecord.transitionSequence durable.numbers.placements
        (rebuildState state durable).state.placements (rebuildState state durable).state.transitionSequence := by
  obtain ⟨-, -, -, none, -⟩ := importChecks_ok accepted
  let opened (recovery : Recovery) : Prop :=
    recovery.state.placements = state.placements ∧ recovery.state.transitionSequence = state.transitionSequence
  have resources : opened (durable.resources.foldl recoverResource (openRecovery state durable)) := by
    refine List.foldlRecOn _ _ ⟨rfl, rfl⟩ fun recovery sofar item _ => ?_
    obtain ⟨_, _, same, -⟩ := recoverResource_state recovery item
    unfold opened
    rw [same]
    exact sofar
  let second := durable.requests.foldl recoverRequest
    (durable.resources.foldl recoverResource (openRecovery state durable))
  have requests : opened second := List.foldlRecOn _ _ resources fun _ sofar _ _ => sofar
  obtain ⟨placements, counter⟩ := requests
  have empty : second.state.placements.entries = [] := by rw [placements, none]
  let third := durable.placements.foldl recoverPlacement second
  have recovering : Recovering durable state.transitionSequence third := by
    refine recoverPlacements_recovering apart (fun _ there => there) ⟨?_, ?_, ?_⟩ ?_ ?_
    · intro a member
      rw [empty] at member
      cases member
    · intro a member
      rw [empty] at member
      cases member
    · intro a member
      rw [empty] at member
      cases member
    · rw [counter]
    · rw [counter]
  let carried (recovery : Recovery) : Prop := recovery.state.placements = third.state.placements ∧
    recovery.state.transitionSequence = third.state.transitionSequence
  have last : carried (rebuildState state durable) := List.foldlRecOn _ _ ⟨rfl, rfl⟩ fun _ sofar _ _ => sofar
  obtain ⟨same, sequence⟩ := last
  rw [same, sequence]
  refine ⟨recovering.distinct, fun placement member => ?_⟩
  rcases recovering.drawn placement member with persisted | ⟨-, drawn⟩
  · right
    have ended : placementStateIsLive placement.state = false :=
      Bool.eq_false_iff.mpr (recovering.ended placement member)
    exact List.mem_map_of_mem (List.mem_filter.mpr ⟨persisted, by rw [ended]; rfl⟩)
  · exact .inl drawn

end Recovery

/-- The same request, under the number it was submitted under. -/
structure StoredRequest.Resubmits (before after : StoredRequest) : Prop where
  request : after.request = before.request
  sequence : after.submittedSequence = before.submittedSequence

theorem StoredRequest.Resubmits.refl (stored : StoredRequest) : stored.Resubmits stored := ⟨rfl, rfl⟩

abbrev Resubmits (state after : SchedulerState) : Prop :=
  Table.Evolves StoredRequest.Resubmits state.requests after.requests

theorem Resubmits.set {state after : SchedulerState} {stored written : StoredRequest}
    (result : after.requests = state.requests.set written)
    (recorded : state.requests.find? stored.id = some stored) (same : stored.Resubmits written) :
    Resubmits state after := by
  have named : written.id = stored.id := congrArg ScheduleRequest.id same.request
  unfold LabScheduler.Resubmits
  rw [result]
  exact .set StoredRequest.Resubmits.refl (named ▸ recorded) same

theorem Change.resubmits {state after : SchedulerState} (change : Change state after) : Resubmits state after := by
  have same := Table.Evolves.refl StoredRequest.Resubmits.refl state.requests
  cases change with
  | books _ requests => exact .of_eq StoredRequest.Resubmits.refl requests
  | invalidate => exact same
  | retire => exact same
  | @finish placement target detail =>
    let ended := placement.finish target detail (state.transitionSequence + 1)
    change Table.Evolves _ _ (settleRequest state.requests ended target)
    unfold settleRequest
    split
    · exact same
    · rename_i stored found
      have named : stored.id = ended.request := Table.key_of_find? found
      split
      · have settled : stored.Resubmits (stored.settle target ended.detail) := by
          cases target <;> exact ⟨rfl, rfl⟩
        rw [← named] at found
        have written : Resubmits state
            { state with requests := state.requests.set (stored.settle target ended.detail) } := .set rfl found settled
        exact written
      · exact same
  | mark => exact same
  | complete => exact same

theorem SchedulingCall.resubmits (call : SchedulingCall) (config : EngineConfig) (ids : IdGenerator)
    (recorded : call.state.requests.find? call.stored.id = some call.stored) :
    Resubmits call.state (call.scheduled config ids).state := by
  have result : ScheduleResult call.state config ids call.stored call.generation call.reassignments
    (call.scheduled config ids) := scheduleLocked_result
  generalize call.scheduled config ids = scheduled at result
  cases result with
  | noPlacement => exact .set rfl recorded ⟨rfl, rfl⟩
  | refused => exact .refl StoredRequest.Resubmits.refl _
  | broken => exact .refl StoredRequest.Resubmits.refl _
  | placed chosen loop committed decided room resources_after requests_after =>
    exact .set requests_after recorded ⟨rfl, rfl⟩

/-- What an operation needs for its sequence numbers to be new: its counters do not pass `2 ^ 64`, and the numbers that
    it draws were not brought back by a recovery. -/
structure Engine.Renumbers (engine : Engine) (restored : Restored) (operation : Operation) : Prop where
  placements : ∀ count, engine.Draws operation count →
    engine.state.transitionSequence.toNat + count < 2 ^ 64 ∧
      ∀ number ∈ restored.placements, number.toNat ≤ engine.state.transitionSequence.toNat ∨
        engine.state.transitionSequence.toNat + count < number.toNat
  requests : ∀ request, operation = .submitRequest request →
    submitChecks engine.state engine.config (normalizeScheduleRequest request) = .ok () →
      engine.state.requestSequence.toNat + 1 < 2 ^ 64 ∧ engine.state.requestSequence + 1 ∉ restored.requests
  reservations : ∀ call, engine.Calls operation call → call.Opens engine.config →
    engine.state.reservationSequence.toNat + 1 < 2 ^ 64 ∧ engine.state.reservationSequence + 1 ∉ restored.reservations
  recovery : ∀ durable, operation = .importState durable → importChecks engine.state durable = .ok () →
    durable.Apart engine.state.transitionSequence

/-- The sequence numbers tell the records of a table apart. They were drawn from the counters or brought back, and that
    of a live placement was drawn. -/
structure Sequenced (restored : Restored) (state : SchedulerState) : Prop where
  requests : Accounted StoredRequest.submittedSequence restored.requests state.requests state.requestSequence
  placements : Timely PlacementRecord.transitionSequence PlacementRecord.Live state.placements
    state.transitionSequence
  known : Known PlacementRecord.transitionSequence restored.placements state.placements state.transitionSequence
  reservations : Accounted ReservationRecord.acquireSequence restored.reservations state.reservations
    state.reservationSequence

section Renumbered

variable {engine : Engine} {operation : Operation} {durable : DurableState} {state : SchedulerState}

theorem rebuildState_requests (accepted : importChecks state durable = .ok ())
    (apart : ∀ a ∈ durable.requests, ∀ b ∈ durable.requests, a.submittedSequence = b.submittedSequence → a = b)
    (counter : UInt64) :
    Accounted StoredRequest.submittedSequence durable.numbers.requests (rebuildState state durable).state.requests
      counter := by
  have rebuilt := rebuildState_rebuilt accepted
  have kept (persisted : StoredRequest) :
      (recoveredRequest persisted).submittedSequence = persisted.submittedSequence := by
    simp only [recoveredRequest]
    split <;> rfl
  constructor
  · intro a memberA b memberB same
    obtain ⟨first, listed, madeA⟩ := rebuilt.requests a memberA
    obtain ⟨second, listed', madeB⟩ := rebuilt.requests b memberB
    rw [madeA, madeB, kept, kept] at same
    rw [madeA, madeB, apart first listed second listed' same]
  · intro a member
    obtain ⟨persisted, listed, made⟩ := rebuilt.requests a member
    right
    rw [made, kept]
    exact List.mem_map_of_mem listed

theorem rebuildState_reservations (accepted : importChecks state durable = .ok ())
    (apart : ∀ a ∈ durable.reservations, ∀ b ∈ durable.reservations, a.acquireSequence = b.acquireSequence → a = b)
    (counter : UInt64) :
    Accounted ReservationRecord.acquireSequence durable.numbers.reservations
      (rebuildState state durable).state.reservations counter := by
  have rebuilt := rebuildState_rebuilt accepted
  have kept (persisted : ReservationRecord) :
      (recoveredReservation persisted).acquireSequence = persisted.acquireSequence := by
    unfold recoveredReservation
    split <;> rfl
  constructor
  · intro a memberA b memberB same
    obtain ⟨first, listed, madeA⟩ := rebuilt.reservations a memberA
    obtain ⟨second, listed', madeB⟩ := rebuilt.reservations b memberB
    rw [madeA, madeB, kept, kept] at same
    rw [madeA, madeB, apart first listed second listed' same]
  · intro a member
    obtain ⟨persisted, listed, made⟩ := rebuilt.reservations a member
    right
    rw [made, kept]
    exact List.mem_map_of_mem listed

theorem Engine.step_submitted {restored : Restored} (renumbers : engine.Renumbers restored operation)
    (calm : ∀ durable, operation = .importState durable → importChecks engine.state durable ≠ .ok ())
    (accounted : Accounted StoredRequest.submittedSequence restored.requests engine.state.requests
      engine.state.requestSequence) :
    Accounted StoredRequest.submittedSequence restored.requests (engine.step operation).1.state.requests
      (engine.step operation).1.state.requestSequence := by
  let holds (state : SchedulerState) : Prop :=
    Accounted StoredRequest.submittedSequence restored.requests state.requests state.requestSequence
  have evolved {state after : SchedulerState} (resubmits : Resubmits state after)
      (counter : after.requestSequence = state.requestSequence) (sofar : holds state) : holds after := by
    unfold holds
    rw [counter]
    exact sofar.evolves (resubmits.mono StoredRequest.Resubmits.sequence)
  have changed {state after : SchedulerState} (change : Change state after) (sofar : holds state) : holds after :=
    evolved change.resubmits change.counters.requests sofar
  have initial : holds engine.state := accounted
  suffices after : holds (engine.step operation).1.state from after
  refine Engine.step_keeps changed ?_ ?_ ?_ (fun _ _ sofar => sofar) (fun _ _ sofar => sofar) ?_ ?_ initial
  case refine_1 =>
    intro request is accepted sofar
    obtain ⟨room, new⟩ := renumbers.requests request is accepted
    exact Accounted.add sofar rfl room new
  case refine_2 =>
    intro placement generation epoch reason record stored is preempts sofar
    have ended : holds (replaceTermination engine.state record .preempted reason
        (ascii "preempted to free a constrained resource")) :=
      replaceTermination_preserve changed (preemptChecks_ok preempts.accepted).1 rfl sofar
    have found := preempts.recorded
    have key : stored.id = record.request := Table.key_of_find? found
    rw [← key] at found
    have reopened : Resubmits (replaceTermination engine.state record .preempted reason
        (ascii "preempted to free a constrained resource")) (reopenRequest (replaceTermination engine.state record
          .preempted reason (ascii "preempted to free a constrained resource")) stored) := .set rfl found ⟨rfl, rfl⟩
    exact evolved reopened rfl ended
  case refine_3 =>
    intro state request reason detail is idle sofar
    unfold closeRequest
    split
    · exact sofar
    · rename_i stored found
      have key : stored.id = request := Table.key_of_find? found
      rw [← key] at found
      have closed : Resubmits state
          { state with
            requests := state.requests.set
              { stored with state := .cancelled, currentPlacement := {}, detail := detail } } :=
        .set rfl found ⟨rfl, rfl⟩
      exact evolved closed rfl sofar
  case refine_4 =>
    intro call calls sofar
    exact evolved (call.resubmits engine.config engine.ids calls.recorded) (call.scheduled_submissions ..) sofar
  case refine_5 =>
    intro durable is accepted
    exact absurd accepted (calm durable is)

theorem ReservationRecord.Progresses.acquired {before after : ReservationRecord}
    (progresses : before.Progresses after) : after.acquireSequence = before.acquireSequence := by
  have same : after.terms.acquireSequence = before.terms.acquireSequence := by rw [progresses.terms]
  exact same

theorem Engine.Calls.reservationSequence {call : SchedulingCall} (calls : engine.Calls operation call) :
    call.state.reservationSequence = engine.state.reservationSequence := by
  have ended (record : PlacementRecord) (target : PlacementState) (detail : Text) :
      (terminatePlacement engine.state record target detail).1.reservationSequence =
        engine.state.reservationSequence := by
    unfold terminatePlacement
    split <;> rfl
  cases calls with
  | submit => rfl
  | reassign => exact ended ..
  | preempt => exact ended ..

theorem Engine.step_acquired {restored : Restored} (renumbers : engine.Renumbers restored operation)
    (calm : ∀ durable, operation = .importState durable → importChecks engine.state durable ≠ .ok ())
    (accounted : Accounted ReservationRecord.acquireSequence restored.reservations engine.state.reservations
      engine.state.reservationSequence) :
    Accounted ReservationRecord.acquireSequence restored.reservations (engine.step operation).1.state.reservations
      (engine.step operation).1.state.reservationSequence := by
  let holds (state : SchedulerState) : Prop :=
    Accounted ReservationRecord.acquireSequence restored.reservations state.reservations state.reservationSequence
  have initial : holds engine.state := accounted
  suffices after : holds (engine.step operation).1.state from after
  refine Engine.step_preserves ?_ ?_ (fun _ _ sofar => sofar) (fun _ _ sofar => sofar) ?_ ?_ initial
  case refine_1 =>
    intro state after change sofar
    unfold holds
    rw [change.counters.reservations]
    exact Accounted.evolves sofar (change.reservations.mono ReservationRecord.Progresses.acquired)
  case refine_2 =>
    intro state after write sofar
    cases write <;> exact sofar
  case refine_3 =>
    intro call calls sofar
    unfold holds
    rcases call.scheduled_sequences engine.config engine.ids rfl with ⟨-, -, same, counter⟩ | ⟨opens, -, counter, drawn⟩
    · rw [same, counter]
      exact sofar
    · obtain ⟨room, new⟩ := renumbers.reservations call calls opens
      rw [← calls.reservationSequence] at room new
      rw [counter]
      rcases drawn with same | ⟨reservation, stamped, written⟩
      · rw [same]
        exact Accounted.waste sofar room
      · rw [written]
        exact Accounted.add sofar stamped room new
  case refine_4 =>
    intro durable is accepted
    exact absurd accepted (calm durable is)

/-- A recovery brings back the numbers of the durable state, and draws those of the placements that were live. -/
theorem rebuildState_sequenced (accepted : importChecks state durable = .ok ())
    (apart : durable.Apart state.transitionSequence) :
    Sequenced durable.numbers (rebuildState state durable).state := by
  obtain ⟨distinct, known⟩ := rebuildState_recovering accepted apart
  refine ⟨rebuildState_requests accepted apart.requests _, ⟨distinct, fun placement member live => ?_⟩, known,
    rebuildState_reservations accepted apart.reservations _⟩
  have ended := (rebuildState_rebuilt accepted).not_live member
  cases ended.symm.trans live

def Engine.recovers (engine : Engine) : LifeEvent → Option DurableState
  | .operation (.importState durable) => if importChecks engine.state durable = .ok () then some durable else none
  | .operation _ => none
  | .restart config =>
    if importChecks (Engine.fresh config).state engine.exported = .ok () then some engine.exported else none

/-- A step whose numbers are new keeps the records apart, and a placement that it writes gets a greater one. -/
theorem Engine.step_sequenced {restored : Restored} (renumbers : engine.Renumbers restored operation)
    (sequenced : Sequenced restored engine.state) :
    Sequenced ((engine.recovers (.operation operation)).elim restored DurableState.numbers)
        (engine.step operation).1.state ∧
      Table.Extends (Advances PlacementRecord.transitionSequence) engine.state.placements
        (engine.step operation).1.state.placements := by
  by_cases calm : ∀ durable, operation = .importState durable → importChecks engine.state durable ≠ .ok ()
  · have same : engine.recovers (.operation operation) = none := by
      cases operation with
      | importState durable => exact if_neg (calm durable rfl)
      | _ => rfl
    rw [same]
    have requests := engine.step_submitted renumbers calm sequenced.requests
    have reservations := engine.step_acquired renumbers calm sequenced.reservations
    by_cases present : ∀ durable, operation ≠ .importState durable
    · obtain ⟨count, draws, drawn, within, chain⟩ := engine.step_transitions present
      obtain ⟨room, clear⟩ := renumbers.placements count draws
      obtain ⟨timely, -, extended⟩ := chain.keeps (by omega) room sequenced.placements (sequenced.known.unused clear)
      exact ⟨⟨requests, timely, chain.known (by omega) sequenced.known, reservations⟩, extended⟩
    · obtain ⟨durable, is⟩ := not_forall.mp present
      have is := not_not.mp is
      have unchanged : (engine.step operation).1.state = engine.state := by
        cases accepted : importChecks engine.state durable with
        | error status => simp only [is, Engine.step, importState, accepted]
        | ok => exact absurd accepted (calm durable is)
      rw [unchanged]
      exact ⟨sequenced, .refl (Advances.refl _) _⟩
  · obtain ⟨durable, recovery⟩ := not_forall.mp calm
    obtain ⟨is, accepted⟩ := Classical.not_imp.mp recovery
    have accepted := not_not.mp accepted
    subst is
    obtain ⟨requests, placements, known, reservations⟩ :=
      rebuildState_sequenced accepted (renumbers.recovery durable rfl accepted)
    have recovers : engine.recovers (.operation (.importState durable)) = some durable := if_pos accepted
    rw [recovers]
    simp only [Engine.step, importState, accepted]
    refine ⟨⟨requests, placements, known, reservations⟩, ?_⟩
    constructor
    intro key placement found
    have member := Table.mem_of_find? found
    rw [(importChecks_ok accepted).2.2.2.1] at member
    cases member

end Renumbered

section Lives

variable {engine : Engine} {config : EngineConfig}

/-- A restart that is accepted finds no live placement, and any other step renumbers. -/
def Engine.KeepsNumbers (engine : Engine) (restored : Restored) : LifeEvent → Prop
  | .operation operation => engine.Renumbers restored operation
  | .restart config => importChecks (Engine.fresh config).state engine.exported = .ok () →
    ∀ placement ∈ engine.state.placements.entries, ¬ placement.Live

/-- No placement is taken away, and one that is written over gets a greater transition sequence number. -/
def Engine.Monotonic (engine : Engine) (event : LifeEvent) : Prop :=
  Table.Extends (Advances PlacementRecord.transitionSequence) engine.state.placements
    (engine.live event).1.state.placements

theorem rebuildState_all (accepted : importChecks (Engine.fresh config).state engine.exported = .ok ())
    (ended : ∀ placement ∈ engine.state.placements.entries, ¬ placement.Live) :
    (rebuildState (Engine.fresh config).state engine.exported).state.placements = engine.state.placements := by
  have restored {persisted : PlacementRecord} (member : persisted ∈ engine.state.placements.entries) :=
    rebuildState_ended _ accepted member (Bool.eq_false_iff.mpr (ended persisted member))
  apply Table.ext_of_mem
  intro placement
  constructor
  · intro member
    obtain ⟨persisted, listed, shape⟩ := (rebuildState_rebuilt accepted).placements placement member
    have named : placement.id = persisted.id := by
      rcases shape with ⟨-, same⟩ | ⟨sequence, same⟩
      · rw [same]
      · rw [same]
        rfl
    have found := Table.find?_of_mem member
    rw [named, restored listed] at found
    rw [← Option.some.inj found]
    exact listed
  · exact fun member => Table.mem_of_find? (restored member)

theorem Engine.live_sequenced {restored : Restored} {event : LifeEvent} (sequenced : Sequenced restored engine.state)
    (keeps : engine.KeepsNumbers restored event) :
    Sequenced ((engine.recovers event).elim restored DurableState.numbers) (engine.live event).1.state ∧
      engine.Monotonic event := by
  cases event with
  | operation operation => exact engine.step_sequenced keeps sequenced
  | restart config =>
    cases accepted : importChecks (Engine.fresh config).state engine.exported with
    | error status =>
      have recovers : engine.recovers (.restart config) = none := if_neg (by rw [accepted]; nofun)
      have same : (engine.live (.restart config)).1 = engine := by
        simp only [Engine.live, Engine.step, importState, accepted]
      unfold Monotonic
      rw [recovers, same]
      exact ⟨sequenced, .refl (Advances.refl _) _⟩
    | ok =>
      have recovers : engine.recovers (.restart config) = some engine.exported := if_pos accepted
      have ended := keeps accepted
      have all := rebuildState_all accepted ended
      have back : ∀ placement ∈ engine.state.placements.entries,
          placement.transitionSequence ∈ engine.exported.numbers.placements := by
        intro placement member
        have inert : (!placementStateIsLive placement.state) = true := by
          rw [Bool.eq_false_iff.mpr (ended placement member)]
          rfl
        exact List.mem_map_of_mem (List.mem_filter.mpr ⟨member, inert⟩)
      unfold Monotonic
      rw [recovers]
      simp only [Engine.live, Engine.step, importState, accepted]
      refine ⟨⟨rebuildState_requests accepted sequenced.requests.distinct _, ⟨?_, ?_⟩, ?_,
        rebuildState_reservations accepted sequenced.reservations.distinct _⟩, ?_⟩
      · change Table.Distinct _ (rebuildState (Engine.fresh config).state engine.exported).state.placements
        rw [all]
        exact sequenced.placements.distinct
      · intro placement member live
        change placement ∈ (rebuildState (Engine.fresh config).state engine.exported).state.placements.entries at member
        rw [all] at member
        exact absurd live (ended placement member)
      · intro placement member
        change placement ∈ (rebuildState (Engine.fresh config).state engine.exported).state.placements.entries at member
        rw [all] at member
        exact .inr (back placement member)
      · change Table.Extends _ _ (rebuildState (Engine.fresh config).state engine.exported).state.placements
        rw [all]
        exact .refl (Advances.refl _) _

/-- A scheduler, and the numbers that its last recovery brought back. -/
structure Numbering where
  engine : Engine
  restored : Restored := {}

namespace Numbering

def live (numbering : Numbering) (event : LifeEvent) : Numbering × Reply :=
  (⟨(numbering.engine.live event).1, (numbering.engine.recovers event).elim numbering.restored DurableState.numbers⟩,
    (numbering.engine.live event).2)

def Keeps (numbering : Numbering) (event : LifeEvent) : Prop :=
  numbering.engine.KeepsNumbers numbering.restored event

def fresh (config : EngineConfig) : Numbering := { engine := Engine.fresh config }

end Numbering

theorem fresh_sequenced (config : EngineConfig) : Sequenced {} (Engine.fresh config).state := by
  refine ⟨.empty rfl, ⟨?_, ?_⟩, ?_, .empty rfl⟩
  all_goals
    intro placement member
    cases member

/-- Along a life whose counters stay below `2 ^ 64`, where no number is drawn that the last recovery brought back and no
    restart finds a live placement, the transition sequence number of a placement grows with every write and no two
    records of a table share a number. -/
theorem sequences_monotonic {events : List LifeEvent}
    (guarded : Guarded Numbering.live Numbering.Keeps (Numbering.fresh config) events) :
    Guarded Engine.live Engine.Monotonic (Engine.fresh config) events ∧
      ((Engine.fresh config).lives events).state.requests.Distinct StoredRequest.submittedSequence ∧
      ((Engine.fresh config).lives events).state.placements.Distinct PlacementRecord.transitionSequence ∧
      ((Engine.fresh config).lives events).state.reservations.Distinct ReservationRecord.acquireSequence := by
  let sequenced (numbering : Numbering) : Prop := Sequenced numbering.restored numbering.engine.state
  have kept (numbering : Numbering) (event : LifeEvent) (sofar : sequenced numbering) (keeps : numbering.Keeps event) :
      sequenced (numbering.live event).1 := (Engine.live_sequenced sofar keeps).1
  have initial : sequenced (Numbering.fresh config) := fresh_sequenced config
  have last := run_invariant kept guarded initial
  have follows (numbering : Numbering) (event : LifeEvent) :
      (numbering.live event).1.engine = (numbering.engine.live event).1 := rfl
  have monotonic := guarded.along kept
    (fun numbering event sofar keeps => (Engine.live_sequenced sofar keeps).2) initial
  have engines : (run Numbering.live (Numbering.fresh config) events).engine = (Engine.fresh config).lives events :=
    run_project follows _ events
  rw [← engines]
  exact ⟨(guarded_project follows).mp monotonic, last.requests.distinct, last.placements.distinct,
    last.reservations.distinct⟩

end Lives

/-- Two requests are placed and cancelled, and the scheduler is started again. -/
def Bench.cancelledLife : List LifeEvent :=
  [.operation (.registerResource Bench.advertisement), .operation (.submitRequest (Bench.request 5 1)),
    .operation (.submitRequest (Bench.request 6 2)), .operation (.cancelRequest ⟨5⟩ []),
    .operation (.cancelRequest ⟨6⟩ []), .restart {}]

theorem sequences_monotonic_bench :
    let engine := (Engine.fresh {}).lives Bench.cancelledLife
    engine.state.placements.entries.map PlacementRecord.transitionSequence = [3, 4] ∧
      Guarded Engine.live Engine.Monotonic (Engine.fresh {}) Bench.cancelledLife ∧
      engine.state.requests.Distinct StoredRequest.submittedSequence ∧
      engine.state.placements.Distinct PlacementRecord.transitionSequence ∧
      engine.state.reservations.Distinct ReservationRecord.acquireSequence := by
  have plain {engine : Engine} {operation : Operation} (few : engine.endings operation ≤ 1)
      (low : engine.state.transitionSequence.toNat ≤ 4 ∧ engine.state.requestSequence.toNat ≤ 4 ∧
        engine.state.reservationSequence.toNat ≤ 4)
      (runs : ∀ durable, operation ≠ .importState durable) : engine.Renumbers {} operation := by
    obtain ⟨placements, requests, reservations⟩ := low
    refine ⟨fun count draws => ⟨?_, nofun⟩, fun _ _ _ => ⟨by omega, List.not_mem_nil⟩,
      fun _ _ _ => ⟨by omega, List.not_mem_nil⟩, fun durable is => absurd is (runs durable)⟩
    cases draws <;> omega
  have guarded : Guarded Numbering.live Numbering.Keeps (Numbering.fresh {}) Bench.cancelledLife := by
    refine ⟨plain (by decide +kernel) (by decide +kernel) nofun, plain (by decide +kernel) (by decide +kernel) nofun,
      plain (by decide +kernel) (by decide +kernel) nofun, plain (by decide +kernel) (by decide +kernel) nofun,
      plain (by decide +kernel) (by decide +kernel) nofun, fun _ => ?_, trivial⟩
    have ended : ∀ placement ∈ ((Engine.fresh {}).lives (Bench.cancelledLife.take 5)).state.placements.entries,
        ¬ placement.Live := by decide +kernel
    exact ended
  exact ⟨by decide +kernel, sequences_monotonic guarded⟩

/-- After a restart the numbers start again: the placement whose state changes keeps number 1, and the next request
    is submitted under the number of the first. -/
theorem restart_resets_sequences :
    let restarted := (Bench.placedOnce.live (.restart {})).1
    let resumed := (restarted.live (.operation (.submitRequest (Bench.request 6 2)))).1
    Bench.placedOnce.state.placements.entries.map (fun placement => (placement.state, placement.transitionSequence)) =
        [(.reserved, 1)] ∧
      restarted.state.placements.entries.map (fun placement => (placement.state, placement.transitionSequence)) =
        [(.reassignmentRequired, 1)] ∧
      resumed.state.requests.entries.map (fun stored => (stored.id, stored.submittedSequence)) =
        [(⟨5⟩, 1), (⟨6⟩, 1)] ∧
      ¬ Bench.placedOnce.Monotonic (.restart {}) ∧
      ¬ resumed.state.requests.Distinct StoredRequest.submittedSequence := by
  intro restarted resumed
  refine ⟨by decide +kernel, by decide +kernel, by decide +kernel, fun monotonic => ?_, fun distinct => ?_⟩
  · have before : ∃ placement ∈ Bench.placedOnce.state.placements.entries,
        placement.state = .reserved ∧ placement.transitionSequence = 1 := by decide +kernel
    have after : ∀ placement ∈ restarted.state.placements.entries,
        placement.state = .reassignmentRequired ∧ placement.transitionSequence = 1 := by decide +kernel
    obtain ⟨placement, member, reserved, first⟩ := before
    obtain ⟨later, there, -, advances⟩ := monotonic.to_mem member
    obtain ⟨required, again⟩ := after later there
    cases advances with
    | inl same =>
      rw [same, reserved] at required
      cases required
    | inr greater =>
      rw [first, again] at greater
      exact absurd greater (by decide)
  · have twice : ∃ a ∈ resumed.state.requests.entries, ∃ b ∈ resumed.state.requests.entries,
        a.submittedSequence = b.submittedSequence ∧ a.id ≠ b.id := by decide +kernel
    obtain ⟨a, memberA, b, memberB, same, differ⟩ := twice
    exact differ (congrArg StoredRequest.id (distinct a memberA b memberB same))

end LabScheduler
