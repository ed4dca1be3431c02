import LabScheduler.Engine.Selection

namespace LabScheduler

open Foundation

/-- What a claim takes from the resource it names. -/
def ResourceRecord.take (resource : ResourceRecord) (slots : UInt32) : ResourceRecord :=
  { resource with reservedSlots := resource.reservedSlots + slots }

def ResourceRecord.takeAll (resource : ResourceRecord) (claims : List ReservationClaim) : ResourceRecord :=
  claims.foldl
    (fun resource claim => if claim.resource = resource.id then resource.take claim.slots else resource)
    resource

theorem ResourceRecord.takeAll_eq (resource : ResourceRecord) (claims : List ReservationClaim) :
    resource.takeAll claims = { resource with reservedSlots := (resource.takeAll claims).reservedSlots } := by
  induction claims generalizing resource with
  | nil => rfl
  | cons claim rest ih =>
    unfold takeAll at ih ⊢
    rw [List.foldl_cons, ih]
    split <;> rfl

theorem ResourceRecord.takeAll_id (resource : ResourceRecord) (claims : List ReservationClaim) :
    (resource.takeAll claims).id = resource.id := by
  rw [takeAll_eq]

theorem set_take_find? {resources : ResourceTable} {id : ResourceId} {resource : ResourceRecord}
    (found : resources.find? resource.id = some resource) (slots : UInt32) :
    (resources.set (resource.take slots)).find? id =
      (resources.find? id).map fun other => if resource.id = other.id then other.take slots else other := by
  have key : (resource.take slots).id = resource.id := rfl
  by_cases hit : resource.id = id
  · subst hit
    rw [Table.find?_set, if_pos key, found]
    simp
  · rw [Table.find?_set_ne _ (key ▸ hit)]
    cases other : resources.find? id with
    | none => rfl
    | some record =>
      have same : record.id = id := ResourceTable.id_of_find? other
      simp [same, hit]

/-- The turns of the commit loop that succeed, and what they leave. -/
inductive Booked : ResourceTable → List (CandidateResource × ResourceRequirement) → ResourceTable →
    List SelectedResource → List ReservationClaim → Prop
  | nil (resources : ResourceTable) : Booked resources [] resources [] []
  | cons {resources after : ResourceTable} {candidate : CandidateResource} {requirement : ResourceRequirement}
      {resource : ResourceRecord} {rest : List (CandidateResource × ResourceRequirement)}
      {selected : List SelectedResource} {claims : List ReservationClaim}
      (found : resources.find? candidate.id = some resource)
      (room : ¬ resource.capacity.slots - candidate.slots < resource.reservedSlots)
      (next : Booked (resources.set (resource.take candidate.slots)) rest after selected claims) :
    Booked resources ((candidate, requirement) :: rest) after
      (selectedResource candidate requirement resource :: selected)
      (reservationClaim candidate resource :: claims)

theorem commitLoop_booked (resources : ResourceTable) (turns : List (CandidateResource × ResourceRequirement)) :
    (∃ selected claims, (commitLoop resources turns).2 = .ok (selected, claims) ∧
        Booked resources turns (commitLoop resources turns).1 selected claims) ∨
      ∃ status done later selected claims, (commitLoop resources turns).2 = .error status ∧
        turns = done ++ later ∧ Booked resources done (commitLoop resources turns).1 selected claims := by
  induction turns generalizing resources with
  | nil => exact .inl ⟨[], [], rfl, .nil _⟩
  | cons turn rest ih =>
    obtain ⟨candidate, requirement⟩ := turn
    unfold commitLoop
    split
    · exact .inr ⟨_, [], _, [], [], rfl, rfl, .nil _⟩
    · rename_i resource found
      split
      · exact .inr ⟨_, [], _, [], [], rfl, rfl, .nil _⟩
      · rename_i room
        rcases ih (resources.set (resource.take candidate.slots)) with
          ⟨selected, claims, result, booked⟩ | ⟨status, done, later, selected, claims, result, rfl, booked⟩
        · refine .inl ⟨_, _, ?_, .cons found room booked⟩
          change Except.map _ (commitLoop (resources.set (resource.take candidate.slots)) rest).2 = _
          rw [result]
          rfl
        · refine .inr ⟨status, (candidate, requirement) :: done, later, _, _, ?_, rfl, .cons found room booked⟩
          change Except.map _ (commitLoop (resources.set (resource.take candidate.slots)) (done ++ later)).2 = _
          rw [result]
          rfl

theorem commitLoop_ok {resources after : ResourceTable} {turns : List (CandidateResource × ResourceRequirement)}
    {selected : List SelectedResource} {claims : List ReservationClaim}
    (loop : commitLoop resources turns = (after, .ok (selected, claims))) :
    Booked resources turns after selected claims := by
  rcases commitLoop_booked resources turns with ⟨_, _, result, booked⟩ | ⟨_, _, _, _, _, result, -⟩
  · rw [loop] at result booked
    cases result
    exact booked
  · rw [loop] at result
    cases result

theorem commitLoop_error {resources after : ResourceTable} {turns : List (CandidateResource × ResourceRequirement)}
    {status : Status} (loop : commitLoop resources turns = (after, .error status)) :
    ∃ done later selected claims, turns = done ++ later ∧ Booked resources done after selected claims := by
  rcases commitLoop_booked resources turns with
    ⟨_, _, result, -⟩ | ⟨_, done, later, selected, claims, -, split, booked⟩
  · rw [loop] at result
    cases result
  · rw [loop] at booked
    exact ⟨done, later, selected, claims, split, booked⟩

/-- A claim and the selected resource it stands beside. -/
structure Agrees (claim : ReservationClaim) (selected : SelectedResource) : Prop where
  resource : claim.resource = selected.resource
  slots : claim.slots = selected.slots
  exclusive : claim.exclusive = selected.exclusive
  generation : claim.generationAtAcquire = selected.generation

structure ClaimsFor (claim : ReservationClaim) (candidate : CandidateResource) : Prop where
  resource : claim.resource = candidate.id
  slots : claim.slots = candidate.slots
  exclusive : claim.exclusive = candidate.exclusive

namespace Booked

variable {resources after : ResourceTable} {turns : List (CandidateResource × ResourceRequirement)}
  {selected : List SelectedResource} {claims : List ReservationClaim}

theorem find? (booked : Booked resources turns after selected claims) (id : ResourceId) :
    after.find? id = (resources.find? id).map fun resource => resource.takeAll claims := by
  induction booked with
  | nil resources => simp [ResourceRecord.takeAll]
  | @cons resources after candidate requirement resource rest selected claims found room next ih =>
    have same : resource.id = candidate.id := ResourceTable.id_of_find? found
    rw [ih, set_take_find? (same.symm ▸ found)]
    cases resources.find? id with
    | none => rfl
    | some other => simp [ResourceRecord.takeAll, reservationClaim]

theorem of_mem (booked : Booked resources turns after selected claims) {resource : ResourceRecord}
    (member : resource ∈ after.entries) :
    ∃ before ∈ resources.entries, ∃ reserved, resource = { before with reservedSlots := reserved } := by
  have there := Table.find?_of_mem member
  rw [booked.find?, Option.map_eq_some_iff] at there
  obtain ⟨before, there, rfl⟩ := there
  exact ⟨before, Table.mem_of_find? there, _, before.takeAll_eq claims⟩

theorem agrees (booked : Booked resources turns after selected claims) :
    List.Forall₂ Agrees claims selected := by
  induction booked with
  | nil => exact .nil
  | cons found room next ih => exact .cons ⟨rfl, rfl, rfl, rfl⟩ ih

theorem claimsFor_turns (booked : Booked resources turns after selected claims) :
    List.Forall₂ ClaimsFor claims (turns.map Prod.fst) := by
  induction booked with
  | nil => exact .nil
  | cons found room next ih => exact .cons ⟨ResourceTable.id_of_find? found, rfl, rfl⟩ ih

theorem claimsFor {selection : List CandidateResource} {requirements : List ResourceRequirement}
    (booked : Booked resources (selection.zip requirements) after selected claims)
    (same : selection.length = requirements.length) : List.Forall₂ ClaimsFor claims selection := by
  have pairs := booked.claimsFor_turns
  rwa [List.map_fst_zip (by omega)] at pairs

theorem distinct {selection : List CandidateResource} {requirements : List ResourceRequirement}
    (booked : Booked resources (selection.zip requirements) after selected claims)
    (same : selection.length = requirements.length) (distinct : (selection.map CandidateResource.id).Nodup) :
    (claims.map ReservationClaim.resource).Nodup := by
  rw [forall₂_map_eq (booked.claimsFor same) ClaimsFor.resource]
  exact distinct

theorem registered (booked : Booked resources turns after selected claims) {claim : ReservationClaim}
    (member : claim ∈ claims) : resources.find? claim.resource ≠ none := by
  induction booked with
  | nil => cases member
  | @cons resources after candidate requirement resource rest selected claims found room next ih =>
    have same : resource.id = candidate.id := ResourceTable.id_of_find? found
    rcases List.mem_cons.mp member with rfl | later
    · change resources.find? resource.id ≠ none
      rw [same, found]
      simp
    · have there := ih later
      rw [set_take_find? (same.symm ▸ found)] at there
      simpa using there

end Booked

/-- What one call of `schedule_locked` can do. -/
inductive ScheduleResult (state : SchedulerState) (config : EngineConfig) (ids : IdGenerator)
    (stored : StoredRequest) (generation : PlacementGeneration) (reassignments : UInt32) : Scheduled → Prop
  | noPlacement {decision : Decision} (outcome : decision.outcome = .noPlacement) :
    ScheduleResult state config ids stored generation reassignments
      ⟨storeNoPlacement state stored decision, ⟨ids.counter + 1⟩, .ok decision⟩
  | refused {status : Status} :
    ScheduleResult state config ids stored generation reassignments
      ⟨state, ⟨ids.counter + 1⟩, .error status⟩
  | broken {selection : List CandidateResource} {resources : ResourceTable} {status : Status}
      (chosen : Chosen state stored.request config.limits selection)
      (loop : commitLoop state.resources (selection.zip stored.request.requirements) =
        (resources, .error status)) :
    ScheduleResult state config ids stored generation reassignments
      ⟨{ beginCommit state with resources := resources }, ids.commitIds.2, .error status⟩
  | placed {selection : List CandidateResource} {resources : ResourceTable}
      {selected : List SelectedResource} {claims : List ReservationClaim} {placement : PlacementRecord}
      {decision : Decision} {after : SchedulerState}
      (chosen : Chosen state stored.request config.limits selection)
      (loop : commitLoop state.resources (selection.zip stored.request.requirements) =
        (resources, .ok (selected, claims)))
      (committed : placement =
        newPlacement state stored.request ids.commitIds.1 generation reassignments selected)
      (decided : decision.outcome = .placed ∧ decision.placement = placement)
      (room : checkCommitBounds state config.limits = .ok ())
      (resources_after : after.resources = resources)
      (requests_after : after.requests = state.requests.set
        { stored with
          state := .placed
          currentPlacement := placement.id
          placementCount := stored.placementCount + 1
          detail := ascii "placed" })
      (placements_after : after.placements = state.placements.emplace placement)
      (reservations_after : after.reservations =
        state.reservations.emplace (newReservation state placement claims))
      (unitCurrent_after : after.unitCurrent = state.unitCurrent.set (stored.request.unit, placement.id))
      (workers_after : after.workers = state.workers) (epoch_after : after.epoch = state.epoch) :
    ScheduleResult state config ids stored generation reassignments ⟨after, ids.commitIds.2, .ok decision⟩

section Result

variable {state : SchedulerState} {config : EngineConfig} {ids : IdGenerator} {stored : StoredRequest}
  {generation : PlacementGeneration} {reassignments : UInt32}

theorem ScheduleResult.booked {scheduled : Scheduled}
    (result : ScheduleResult state config ids stored generation reassignments scheduled) :
    ∃ turns selected claims, Booked state.resources turns scheduled.state.resources selected claims := by
  cases result with
  | noPlacement => exact ⟨[], [], [], .nil _⟩
  | refused => exact ⟨[], [], [], .nil _⟩
  | broken chosen loop =>
    obtain ⟨done, -, selected, claims, -, booked⟩ := commitLoop_error loop
    exact ⟨done, selected, claims, booked⟩
  | placed chosen loop committed decided room resources_after =>
    rw [resources_after]
    exact ⟨_, _, _, commitLoop_ok loop⟩

theorem commitPlacement_result {ranked : List RankingCandidate} {best : RankingCandidate}
    (explanation : Explanation) (chosen : Chosen state stored.request config.limits best.selection)
    (room : checkCommitBounds state config.limits = .ok ()) :
    ScheduleResult state config ids stored generation reassignments
      (commitPlacement state config ids stored generation reassignments explanation ranked best) := by
  unfold commitPlacement
  extract_lets request
  cases loop : commitLoop state.resources (best.selection.zip request.requirements) with
  | mk resources taken =>
    cases taken with
    | error status => exact .broken chosen loop
    | ok both =>
      obtain ⟨selected, claims⟩ := both
      refine .placed chosen loop rfl ⟨rfl, rfl⟩ room ?_ ?_ ?_ ?_ ?_ ?_ ?_
      all_goals
        simp only [pushAudit, installPlacement, serveTenant]
        split <;> rfl

theorem scheduleLocked_result :
    ScheduleResult state config ids stored generation reassignments
      (scheduleLocked state config ids stored generation reassignments) := by
  unfold scheduleLocked
  extract_lets request limits
  simp only [IdGenerator.next, IdGenerator.nextValue]
  split
  · exact .noPlacement rfl
  · split
    · exact .noPlacement rfl
    · rename_i best others sorts
      have ranked := CandidateSort.ranked_of_eq sorts
      split
      · exact .refused
      · rename_i room
        exact commitPlacement_result _ (searchPlacements_allChosen _ _ _ _ ranked.front_mem) room

theorem commitPlacement_decided {ranked : List RankingCandidate} {best : RankingCandidate}
    {explanation : Explanation} {decision : Decision}
    (decided : (commitPlacement state config ids stored generation reassignments explanation ranked best).result =
      .ok decision) :
    decision.authority = authorityEnvelope decision.placement ∧
      decision.explanation.candidates =
        candidateExplanations ranked stored.request.requirements.length config.limits := by
  unfold commitPlacement at decided
  extract_lets request at decided
  generalize commitLoop state.resources (best.selection.zip request.requirements) = loop at decided
  obtain ⟨resources, taken⟩ := loop
  cases taken with
  | error status => cases decided
  | ok both =>
    cases decided
    exact ⟨rfl, rfl⟩

theorem scheduleLocked_placed {decision : Decision}
    (decided : (scheduleLocked state config ids stored generation reassignments).result = .ok decision)
    (placed : decision.outcome = .placed) :
    ∃ explanation best others,
      Ranked (searchPlacements state stored.request config.limits
        (buildPlans state stored.request config.limits)).candidates (best :: others) ∧
      (commitPlacement state config ids stored generation reassignments explanation (best :: others) best).result =
        .ok decision := by
  unfold scheduleLocked at decided
  extract_lets request limits at decided
  simp only [IdGenerator.next, IdGenerator.nextValue] at decided
  split at decided
  · cases decided
    cases placed
  · split at decided
    · cases decided
      cases placed
    · rename_i best others ranked
      split at decided
      · cases decided
      · exact ⟨_, best, others, CandidateSort.ranked_of_eq ranked, decided⟩

theorem scheduleLocked_authority {decision : Decision}
    (decided : (scheduleLocked state config ids stored generation reassignments).result = .ok decision)
    (placed : decision.outcome = .placed) : decision.authority = authorityEnvelope decision.placement := by
  obtain ⟨explanation, best, others, -, committed⟩ := scheduleLocked_placed decided placed
  exact (commitPlacement_decided committed).1

end Result

end LabScheduler
