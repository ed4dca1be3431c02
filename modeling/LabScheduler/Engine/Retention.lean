import LabScheduler.Engine.Frames
import LabScheduler.Engine.Passes
import LabScheduler.Foundation.Matching

namespace LabScheduler

open Foundation

inductive Capped
  | resources
  | requests
  | placements
  | reservations
  | activePlacements
  | activeReservations
  deriving DecidableEq

namespace Capped

def limit (limits : Limits) : Capped → ℕ
  | .resources => limits.maxResources.toNat
  | .requests => limits.maxRetainedRequests.toNat
  | .placements => limits.maxPlacements.toNat
  | .reservations => limits.maxReservations.toNat
  | .activePlacements => limits.maxActivePlacements.toNat
  | .activeReservations => limits.maxActiveReservations.toNat

def count (state : SchedulerState) : Capped → ℕ
  | .resources => state.resources.size
  | .requests => state.requests.size
  | .placements => state.placements.size
  | .reservations => state.reservations.size
  | .activePlacements => countLivePlacements state
  | .activeReservations => countActiveReservations state

variable {state after : SchedulerState} {limits : Limits}

def Keeps (limits : Limits) (before after : SchedulerState) : Prop :=
  ∀ capped : Capped, capped.count after ≤ max (capped.limit limits) (capped.count before)

theorem Keeps.of_le (fewer : ∀ capped : Capped, capped.count after ≤ capped.count state) : Keeps limits state after :=
  fun capped => (fewer capped).trans (le_max_right _ _)

theorem Keeps.trans {a b c : SchedulerState} (first : Keeps limits a b) (second : Keeps limits b c) :
    Keeps limits a c :=
  fun capped => (second capped).trans (max_le (le_max_left _ _) (first capped))

theorem of_change (change : Change state after) : Keeps limits state after := by
  refine .of_le fun capped => ?_
  cases capped with
  | resources => exact change.resources.size_le
  | requests => exact change.requests.size_le
  | placements => exact change.placements.size_le
  | reservations => exact change.reservations.size_le
  | activePlacements =>
    refine Table.countP_le fun placement member live => ?_
    obtain ⟨before, there, same, progresses⟩ := change.placements.of_mem member
    exact ⟨before, there, same, progresses.live live⟩
  | activeReservations =>
    refine Table.countP_le fun reservation member active => ?_
    obtain ⟨before, there, same, progresses⟩ := change.reservations.of_mem member
    rw [progresses.active (beq_iff_eq.mp active)] at active
    exact ⟨before, there, same, active⟩

theorem of_admit {config : EngineConfig} {request : ScheduleRequest}
    (accepted : submitChecks state config request = .ok ()) :
    Keeps config.limits state (admitRequest state config request) := by
  have room : state.requests.size < config.limits.maxRetainedRequests.toNat := by
    unfold submitChecks at accepted
    obtain ⟨-, -, accepted⟩ := except_bind_ok.mp accepted
    simp only [check_bind_ok, check_ok] at accepted
    exact accepted.2.1
  have grows : (state.requests.emplace (submittedRequest state request)).size ≤ state.requests.size + 1 :=
    Table.size_emplace_le ..
  intro capped
  cases capped with
  | requests =>
    refine le_trans ?_ (le_max_left _ _)
    change (state.requests.emplace (submittedRequest state request)).size ≤ config.limits.maxRetainedRequests.toNat
    omega
  | _ => exact le_max_right _ _

theorem of_register {engine : Engine} {advertisement : ResourceAdvertisement} {mid : SchedulerState}
    {record : ResourceRecord} (registers : Registers engine.state engine.config advertisement mid record) :
    Keeps engine.config.limits mid { mid with resources := mid.resources.emplace record } := by
  have accepted := registers.accepted
  simp only [registerChecks, check_bind_ok, check_ok] at accepted
  have room := accepted.2.2.1
  have before : mid.resources.size ≤ engine.state.resources.size := registers.changes.resources.size_le
  have grows : (mid.resources.emplace record).size ≤ mid.resources.size + 1 := Table.size_emplace_le ..
  intro capped
  cases capped with
  | resources =>
    refine le_trans ?_ (le_max_left _ _)
    change (mid.resources.emplace record).size ≤ engine.config.limits.maxResources.toNat
    omega
  | _ => exact le_max_right _ _

theorem of_publish {engine : Engine} {advertisement : ResourceAdvertisement} {mid : SchedulerState}
    {live : ResourceRecord} (publishes : Publishes engine.state engine.config advertisement mid live) :
    Keeps limits mid (publishWrite mid advertisement live) := by
  have size : (publishWrite mid advertisement live).resources.size ≤ mid.resources.size :=
    Table.Evolves.size_le (R := fun _ _ => True) (.set (fun _ => trivial) publishes.found trivial)
  refine .of_le fun capped => ?_
  cases capped with
  | resources => exact size
  | _ => exact Nat.le_refl _

theorem requests_set {requests : RequestTable} {stored rewritten : StoredRequest}
    (found : requests.find? stored.id = some stored) (same : rewritten.request = stored.request) :
    (requests.set rewritten).size ≤ requests.size := by
  have id : rewritten.id = stored.id := congrArg ScheduleRequest.id same
  exact Table.Evolves.size_le (R := fun _ _ => True) (.set (fun _ => trivial) (id ▸ found) trivial)

theorem of_rewrite {stored rewritten : StoredRequest} (found : state.requests.find? stored.id = some stored)
    (same : rewritten.request = stored.request) :
    Keeps limits state { state with requests := state.requests.set rewritten } := by
  refine .of_le fun capped => ?_
  cases capped with
  | requests => exact requests_set found same
  | _ => exact Nat.le_refl _

theorem of_call {call : SchedulingCall} {config : EngineConfig} {ids : IdGenerator}
    (recorded : call.state.requests.find? call.stored.id = some call.stored) :
    Keeps config.limits call.state (call.scheduled config ids).state := by
  have result : ScheduleResult call.state config ids call.stored call.generation call.reassignments
    (call.scheduled config ids) := scheduleLocked_result
  have resources := (call.rebooks config ids).size_le
  generalize call.scheduled config ids = scheduled at result resources
  cases result with
  | noPlacement =>
    refine .of_le fun capped => ?_
    cases capped with
    | requests => exact requests_set recorded rfl
    | _ => exact Nat.le_refl _
  | refused => exact .of_le fun _ => Nat.le_refl _
  | broken =>
    refine .of_le fun capped => ?_
    cases capped with
    | resources => exact resources
    | _ => exact Nat.le_refl _
  | @placed _ _ _ claims placement _ after chosen loop committed decided room resources_after requests_after
      placements_after reservations_after =>
    simp only [checkCommitBounds, check_bind_ok, check_ok] at room
    obtain ⟨placements, reservations, live, active⟩ := room
    intro capped
    cases capped with
    | resources => exact le_max_of_le_right resources
    | requests =>
      refine le_max_of_le_right ?_
      change after.requests.size ≤ call.state.requests.size
      rw [requests_after]
      exact requests_set recorded rfl
    | placements =>
      refine le_max_of_le_left ?_
      have grows := Table.size_emplace_le call.state.placements placement
      change after.placements.size ≤ config.limits.maxPlacements.toNat
      rw [placements_after]
      omega
    | reservations =>
      refine le_max_of_le_left ?_
      have grows := Table.size_emplace_le call.state.reservations (newReservation call.state placement claims)
      change after.reservations.size ≤ config.limits.maxReservations.toNat
      rw [reservations_after]
      omega
    | activePlacements =>
      refine le_max_of_le_left ?_
      have grows := Table.countP_emplace_le call.state.placements placement fun one => placementStateIsLive one.state
      change after.placements.entries.countP _ ≤ config.limits.maxActivePlacements.toNat
      rw [placements_after]
      unfold countLivePlacements at live
      omega
    | activeReservations =>
      refine le_max_of_le_left ?_
      have grows := Table.countP_emplace_le call.state.reservations (newReservation call.state placement claims)
        fun one => one.state == .active
      change after.reservations.entries.countP _ ≤ config.limits.maxActiveReservations.toNat
      rw [reservations_after]
      unfold countActiveReservations at active
      omega

end Capped

def Engine.StaysRunning (engine : Engine) (operation : Operation) : Prop :=
  ∀ durable, operation = .importState durable → importChecks engine.state durable ≠ .ok ()

theorem Engine.step_capped {engine : Engine} {operation : Operation} (running : engine.StaysRunning operation) :
    Capped.Keeps engine.config.limits engine.state (engine.step operation).1.state := by
  let keeps (state : SchedulerState) : Prop := Capped.Keeps engine.config.limits engine.state state
  have kept : keeps (engine.step operation).1.state := by
    have changed {state after : SchedulerState} (change : Change state after) (sofar : keeps state) : keeps after :=
      sofar.trans (Capped.of_change change)
    refine Engine.step_keeps changed ?_ ?_ ?_ ?_ ?_ ?_ ?_ ?_
    · intro request _ accepted sofar
      exact sofar.trans (Capped.of_admit accepted)
    · intro placement generation epoch reason record stored _ preempts sofar
      have ended : keeps (replaceTermination engine.state record .preempted reason
          (ascii "preempted to free a constrained resource")) :=
        replaceTermination_preserve changed (preemptChecks_ok preempts.accepted).1 rfl sofar
      have recorded := Table.key_of_find? preempts.recorded ▸ preempts.recorded
      exact Capped.Keeps.trans ended (Capped.of_rewrite recorded rfl)
    · intro state request reason detail _ _ sofar
      unfold closeRequest
      split
      · exact sofar
      · rename_i stored found
        have recorded := Table.key_of_find? found ▸ found
        exact sofar.trans (Capped.of_rewrite recorded rfl)
    · intro advertisement mid record _ registers sofar
      exact sofar.trans (Capped.of_register registers)
    · intro advertisement mid live _ publishes sofar
      exact sofar.trans (Capped.of_publish publishes)
    · intro call calls sofar
      exact sofar.trans (Capped.of_call calls.recorded)
    · intro durable same accepted
      exact absurd accepted (running durable same)
    · exact .of_le fun _ => Nat.le_refl _
  exact kept

/-- As long as a coordinator is not recovered from a file, none of its tables grows past its limit, nor does the number
    of live placements and of active reservations. One that held more to begin with does not grow at all. -/
theorem limits_hold {engine : Engine} {operations : List Operation}
    (guarded : Guarded Engine.step Engine.StaysRunning engine operations) (capped : Capped) :
    capped.count (engine.runs operations).state ≤ max (capped.limit engine.config.limits) (capped.count engine.state) := by
  have kept : Capped.Keeps engine.config.limits engine.state (engine.runs operations).state := by
    apply Engine.runs_preserve _ guarded (.of_le fun _ => Nat.le_refl _)
    intro later operation same sofar running
    exact sofar.trans (same ▸ later.step_capped running)
  exact kept capped

namespace Bench

/-- A coordinator that has room for one placement. -/
def narrow : EngineConfig := { limits := { maxPlacements := 1 } }

def twoRequests : List Operation := start ++ [.submitRequest (request 6 2)]

end Bench

theorem limits_hold_bench :
    let state := ((Engine.fresh Bench.narrow).runs Bench.twoRequests).state
    state.requests.size = 2 ∧ state.placements.size ≤ 1 := by
  have running : Guarded Engine.step Engine.StaysRunning (Engine.fresh Bench.narrow) Bench.twoRequests :=
    ⟨nofun, nofun, nofun, trivial⟩
  exact ⟨by decide +kernel, limits_hold running .placements⟩

end LabScheduler
