import LabScheduler.Engine.ExactlyOnce
import LabScheduler.Engine.Anchored

namespace LabScheduler

open Foundation

/-- A requirement that waives current evidence finds no resource eligible that nobody vouches for. -/
def SchedulingCall.WaivesNothing (call : SchedulingCall) (limits : Limits) : Prop :=
  ∀ requirement ∈ call.stored.request.requirements, requirement.requireCurrentEvidence = false →
    ∀ resource ∈ call.state.resources.entries,
      (evaluateResource call.stored.request requirement resource limits).eligible → resource.dynamicAuthoritative

instance (call : SchedulingCall) (limits : Limits) : Decidable (call.WaivesNothing limits) :=
  inferInstanceAs (Decidable (∀ _ ∈ _, _ → ∀ _ ∈ _, _ → _))

/-- A step that books vouched resources only. -/
structure Engine.Vouches (engine : Engine) (operation : Operation) : Prop where
  unused : engine.DrawsUnused operation
  vouched : ∀ call, engine.Calls operation call → call.WaivesNothing engine.config.limits

theorem Engine.Vouches.of_idle {engine : Engine} {operation : Operation} (idle : operation.schedules = false) :
    engine.Vouches operation := by
  constructor
  · intro schedules
    rw [idle] at schedules
    cases schedules
  · intro call calls
    have schedules := calls.schedules
    rw [idle] at schedules
    cases schedules

abbrev Vouched (state : SchedulerState) : Prop :=
  LiveSelections (fun _ resource _ => resource.dynamicAuthoritative) state

theorem evaluateResource_evidence {request : ScheduleRequest} {requirement : ResourceRequirement}
    {resource : ResourceRecord} {limits : Limits} (reasons : 1 ≤ limits.maxRejectionReasonsPerEntry)
    (required : requirement.requireCurrentEvidence)
    (eligible : (evaluateResource request requirement resource limits).eligible) : resource.dynamicAuthoritative := by
  obtain ⟨-, passed⟩ := evaluateResource_eligible reasons eligible
  have test := passed (requirement.requireCurrentEvidence && !resource.dynamicAuthoritative,
    if resource.lifecycle = .registered then .evidenceStale else .evidenceNotAuthoritative) (by simp [hardTests])
  simpa [required] using test

namespace Vouched

theorem step {engine : Engine} {operation : Operation} (vouched : Vouched engine.state) (sound : Sound engine.state)
    (reasons : 1 ≤ engine.config.limits.maxRejectionReasonsPerEntry) (vouches : engine.Vouches operation) :
    Vouched (engine.step operation).1.state := by
  refine LiveSelections.step ?_ vouched sound ?_ ?_
  · intro id before after selected authoritative rebooked
    rw [← rebooked] at authoritative
    exact authoritative
  · intro placement _ _ _ _ call calls selected _ candidate requirement resource pick
    cases required : requirement.requireCurrentEvidence with
    | true => exact evaluateResource_evidence reasons required pick.eligible
    | false =>
      have member := Table.mem_of_find? pick.found
      exact vouches.vouched call calls requirement pick.required required resource member pick.eligible
  · intros
    rfl

theorem runs {config : EngineConfig} {operations : List Operation}
    (reasons : 1 ≤ config.limits.maxRejectionReasonsPerEntry)
    (guarded : Guarded Engine.step Engine.Vouches (Engine.fresh config) operations) :
    Sound ((Engine.fresh config).runs operations).state ∧ Vouched ((Engine.fresh config).runs operations).state := by
  have initial : Vouched (Engine.fresh config).state := fun _ member => absurd member List.not_mem_nil
  exact Sound.runs_beside reasons (fun _ _ vouches => vouches.unused)
    (fun _ _ reasons sound sofar vouches => Vouched.step sofar sound reasons vouches) guarded initial

end Vouched

theorem Sound.selected {state : SchedulerState} {resource : ResourceRecord} (sound : Sound state)
    (member : resource ∈ state.resources.entries) (reserved : 0 < resource.reservedSlots) :
    ∃ placement ∈ state.placements.entries, placementStateIsLive placement.state ∧
      ∃ selected ∈ placement.resources, selected.resource = resource.id := by
  by_contra none
  have unclaimed : claimedSlotsOn state.reservations resource.id = 0 := by
    apply Table.total_eq_zero
    intro reservation there
    unfold ReservationRecord.claimedOn
    split
    · rename_i active
      apply claimedSum_eq_zero
      intro claim claimed same
      obtain ⟨placement, found, live, names⟩ := sound.paired.held reservation there active
      have placed := Table.mem_of_find? found
      obtain ⟨backing, held, -, backs⟩ := sound.paired.backed placement placed live
      rw [names, Table.find?_of_mem there] at held
      cases held
      obtain ⟨selected, picked, agrees⟩ := forall₂_mem_left backs.agree claimed
      exact none ⟨placement, placed, live, selected, picked, agrees.resource.symm.trans same⟩
    · rfl
  have booked := sound.ledger.booked resource member
  have positive := UInt32.lt_iff_toNat_lt.mp reserved
  rw [unclaimed] at booked
  rw [booked] at positive
  exact absurd positive (Nat.not_lt_zero _)

/-- In every run whose commits waive the evidence of no resource that nobody vouches for, a resource with reserved
    slots is authoritative. -/
theorem stale_authority_holds_nothing {config : EngineConfig} {operations : List Operation}
    (reasons : 1 ≤ config.limits.maxRejectionReasonsPerEntry)
    (guarded : Guarded Engine.step Engine.Vouches (Engine.fresh config) operations) :
    ∀ resource ∈ ((Engine.fresh config).runs operations).state.resources.entries,
      0 < resource.reservedSlots → resource.dynamicAuthoritative := by
  intro resource member reserved
  obtain ⟨sound, vouched⟩ := Vouched.runs reasons guarded
  obtain ⟨placement, placed, live, selected, picked, same⟩ := sound.selected member reserved
  exact vouched placement placed live selected picked resource (same ▸ Table.find?_of_mem member)

theorem stale_authority_holds_nothing_bench :
    ∃ resource ∈ ((Engine.fresh {}).runs Bench.vouched).state.resources.entries,
      0 < resource.reservedSlots ∧ resource.dynamicAuthoritative := by
  have guarded : Guarded Engine.step Engine.Vouches (Engine.fresh {}) Bench.vouched := by
    refine ⟨.of_idle rfl, .of_idle rfl, ⟨?_, ?_⟩, trivial⟩
    · decide +kernel
    · intro call calls
      cases calls
      decide +kernel
  have booked : (((Engine.fresh {}).runs Bench.vouched).state.resources.entries.any fun resource =>
      0 < resource.reservedSlots) = true := by decide +kernel
  obtain ⟨resource, member, reserved⟩ := List.any_eq_true.mp booked
  have held : 0 < resource.reservedSlots := of_decide_eq_true reserved
  exact ⟨resource, member, held, stale_authority_holds_nothing (by decide) guarded resource member held⟩

/-- After a recovery nobody vouches for the resource of worker 21, and a waived requirement books it. -/
theorem stale_authority_holds_capacity :
    ¬ ∀ resource ∈ ((Engine.fresh {}).runs Bench.waived).state.resources.entries,
      0 < resource.reservedSlots → resource.dynamicAuthoritative := by
  decide +kernel

end LabScheduler
