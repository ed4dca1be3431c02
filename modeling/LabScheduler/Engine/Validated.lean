import LabScheduler.Engine.Calls
import LabScheduler.Engine.Commit
import LabScheduler.Engine.Rebuilt

namespace LabScheduler

open Foundation

/-- The checks behind every stored record, as far as a claim's slots rest on them. -/
structure Validated (state : SchedulerState) : Prop where
  slots : ∀ resource ∈ state.resources.entries, resource.capacity.slots ≠ 0
  requests : ∀ stored ∈ state.requests.entries, ∃ limits,
    validateScheduleRequest stored.request limits = .ok ()

namespace Validated

variable {state after : SchedulerState}

theorem evolve (validated : Validated state)
    (resources : Table.Evolves ResourceRecord.Lapses state.resources after.resources)
    (requests : Table.Evolves StoredRequest.Keeps state.requests after.requests) : Validated after := by
  constructor
  · intro resource member
    obtain ⟨before, there, -, lapses⟩ := resources.of_mem member
    rw [lapses.capacity]
    exact validated.slots before there
  · intro stored member
    obtain ⟨before, there, -, same⟩ := requests.of_mem member
    rw [same]
    exact validated.requests before there

theorem change (change : Change state after) (validated : Validated state) : Validated after :=
  validated.evolve change.resources change.requests

theorem write (write : RequestWrite state after) (validated : Validated state) : Validated after := by
  cases write with
  | @enroll stored limits absent valid =>
    refine ⟨validated.slots, fun other member => ?_⟩
    rcases Table.mem_emplace member with rfl | there
    · exact ⟨limits, valid⟩
    · exact validated.requests other there
  | @rewrite stored rewritten found same =>
    refine ⟨validated.slots, fun other member => ?_⟩
    rcases Table.mem_set.mp member with rfl | ⟨there, -⟩
    · rw [same]
      exact validated.requests stored (Table.mem_of_find? found)
    · exact validated.requests other there

theorem register {record : ResourceRecord} {limits : Limits} (validated : Validated state)
    (valid : validateResourceRecord record limits = .ok ()) :
    Validated { state with resources := state.resources.emplace record } := by
  obtain ⟨slots, -⟩ := validateAdvertisement_capacity (validateResourceRecord_advertisement valid)
  refine ⟨fun resource member => ?_, validated.requests⟩
  rcases Table.mem_emplace member with rfl | there
  · exact slots
  · exact validated.slots resource there

theorem publish {engine : Engine} {advertisement : ResourceAdvertisement} {live : ResourceRecord}
    (validated : Validated state)
    (publishes : Publishes engine.state engine.config advertisement state live) :
    Validated (publishWrite state advertisement live) := by
  obtain ⟨record, accepted, -⟩ := publishes.adopted
  simp only [publishChecks, check_bind_ok] at accepted
  obtain ⟨slots, -⟩ := validateAdvertisement_capacity accepted.1
  refine ⟨fun resource member => ?_, validated.requests⟩
  rcases Table.mem_set.mp member with rfl | ⟨there, -⟩
  · exact slots
  · exact validated.slots resource there

theorem recover {durable : DurableState} (rebuilt : Rebuilt durable state after)
    (valid : validateDurableState durable = .ok ()) : Validated after := by
  obtain ⟨resources, requests, -⟩ := validateDurableState_ok valid
  constructor
  · intro resource member
    obtain ⟨persisted, there, rfl⟩ := rebuilt.resources resource member
    have checked := validateResourceRecord_advertisement (resources persisted there)
    have slots := (validateAdvertisement_capacity checked).1
    simp only [recoveredResource]
    split <;> exact slots
  · intro stored member
    obtain ⟨persisted, there, rfl⟩ := rebuilt.requests stored member
    have same : (recoveredRequest persisted).request = persisted.request := by
      simp only [recoveredRequest]
      split <;> rfl
    exact ⟨durable.limits, same ▸ requests persisted there⟩

theorem booked {turns : List (CandidateResource × ResourceRequirement)} {selected : List SelectedResource}
    {claims : List ReservationClaim} (validated : Validated state)
    (booked : Booked state.resources turns after.resources selected claims)
    (requests : ∀ stored ∈ after.requests.entries, ∃ before ∈ state.requests.entries,
      stored.request = before.request) : Validated after := by
  constructor
  · intro resource member
    obtain ⟨before, there, reserved, rfl⟩ := booked.of_mem member
    exact validated.slots before there
  · intro stored member
    obtain ⟨before, there, same⟩ := requests stored member
    rw [same]
    exact validated.requests before there

theorem scheduled {config : EngineConfig} {ids : IdGenerator} {stored : StoredRequest}
    {generation : PlacementGeneration} {reassignments : UInt32} {scheduled : Scheduled}
    (result : ScheduleResult state config ids stored generation reassignments scheduled)
    (validated : Validated state) (recorded : stored ∈ state.requests.entries) : Validated scheduled.state := by
  have written {rewritten : StoredRequest} (same : rewritten.request = stored.request) :
      ∀ other ∈ (state.requests.set rewritten).entries, ∃ before ∈ state.requests.entries,
        other.request = before.request := by
    intro other member
    rcases Table.mem_set.mp member with rfl | ⟨there, -⟩
    · exact ⟨stored, recorded, same⟩
    · exact ⟨other, there, rfl⟩
  have kept : ∀ other ∈ state.requests.entries, ∃ before ∈ state.requests.entries,
      other.request = before.request := fun other there => ⟨other, there, rfl⟩
  cases result with
  | noPlacement => exact validated.booked (.nil _) (written rfl)
  | refused => exact validated
  | @broken selection resources status chosen loop =>
    obtain ⟨_, _, _, _, -, booked⟩ := commitLoop_error loop
    exact validated.booked booked kept
  | placed chosen loop committed decided room resources_after requests_after =>
    have booked := commitLoop_ok loop
    rw [← resources_after] at booked
    refine validated.booked booked ?_
    rw [requests_after]
    exact written rfl

theorem step {engine : Engine} (operation : Operation) (validated : Validated engine.state) :
    Validated (engine.step operation).1.state := by
  refine Engine.step_preserves Validated.change Validated.write ?_ ?_ ?_ ?_ validated
  · intro advertisement mid record _ registers validated
    exact validated.register registers.valid
  · intro advertisement mid live _ publishes validated
    exact validated.publish publishes
  · intro call calls validated
    exact validated.scheduled scheduleLocked_result (Table.mem_of_find? calls.recorded)
  · intro durable _ accepted
    exact Validated.recover (rebuildState_rebuilt accepted) (importChecks_ok accepted).1

theorem fresh (config : EngineConfig) : Validated (Engine.fresh config).state := by
  constructor
  all_goals exact fun _ member => absurd member List.not_mem_nil

theorem runs (config : EngineConfig) (operations : List Operation) :
    Validated ((Engine.fresh config).runs operations).state := by
  exact Engine.runs_always (fun _ operation sofar => Validated.step operation sofar) (.fresh config)

theorem call {engine : Engine} {operation : Operation} {call : SchedulingCall}
    (calls : engine.Calls operation call) (validated : Validated engine.state) : Validated call.state :=
  calls.preserve Validated.change Validated.write validated

end Validated

theorem Chosen.slots {state : SchedulerState} {stored : StoredRequest} {limits : Limits}
    {selection : List CandidateResource} (chosen : Chosen state stored.request limits selection)
    (validated : Validated state) (recorded : stored ∈ state.requests.entries)
    {candidate : CandidateResource} (member : candidate ∈ selection) : candidate.slots ≠ 0 := by
  obtain ⟨bounds, valid⟩ := validated.requests stored recorded
  obtain ⟨-, requirements⟩ := validateScheduleRequest_requirements valid
  obtain ⟨requirement, demanded, resource, eligible⟩ := forall₂_mem_left chosen.eligible member
  obtain ⟨-, claimed, -⟩ := eligible.claims
  rw [claimed]
  unfold claimedSlots
  split
  · exact validated.slots resource (Table.mem_of_find? eligible.found)
  · exact validateRequirements_slots requirements demanded

end LabScheduler
