import LabScheduler.Engine.Loss
import LabScheduler.Engine.Termination

namespace LabScheduler

open Foundation

/-- Every registered resource that a live placement selects is as `holds` asks. -/
def LiveSelections (holds : PlacementId → ResourceRecord → SelectedResource → Prop) (state : SchedulerState) : Prop :=
  ∀ placement ∈ state.placements.entries, placementStateIsLive placement.state →
    ∀ selected ∈ placement.resources, ∀ resource,
      state.resources.find? selected.resource = some resource → holds placement.id resource selected

/-- The reserved slots of a resource have no part in `holds`. -/
def Stable (holds : PlacementId → ResourceRecord → SelectedResource → Prop) : Prop :=
  ∀ id before after selected, holds id before selected → before.Rebooked after → holds id after selected

/-- `selected` is what a commit makes of `resource`, which it found eligible. -/
structure SchedulingCall.Picks (call : SchedulingCall) (limits : Limits) (selected : SelectedResource)
    (candidate : CandidateResource) (requirement : ResourceRequirement) (resource : ResourceRecord) : Prop where
  required : requirement ∈ call.stored.request.requirements
  found : call.state.resources.find? selected.resource = some resource
  eligible : (evaluateResource call.stored.request requirement resource limits).eligible
  made : selected = selectedResource candidate requirement resource

theorem selectedResource_rebooked {before after : ResourceRecord} (candidate : CandidateResource)
    (requirement : ResourceRequirement) (rebooked : before.Rebooked after) :
    selectedResource candidate requirement after = selectedResource candidate requirement before := by
  rw [← rebooked]
  rfl

theorem Booked.made {resources after : ResourceTable} {turns : List (CandidateResource × ResourceRequirement)}
    {selected : List SelectedResource} {claims : List ReservationClaim}
    (booked : Booked resources turns after selected claims) {picked : SelectedResource} (member : picked ∈ selected) :
    ∃ turn ∈ turns, ∃ resource, resources.find? turn.1.id = some resource ∧
      picked = selectedResource turn.1 turn.2 resource := by
  induction booked with
  | nil => cases member
  | @cons resources after candidate requirement resource rest selected claims found room next ih =>
    have same : resource.id = candidate.id := ResourceTable.id_of_find? found
    rcases List.mem_cons.mp member with rfl | later
    · exact ⟨(candidate, requirement), List.mem_cons_self, resource, found, rfl⟩
    · obtain ⟨turn, turned, other, there, made⟩ := ih later
      rw [set_take_find? (same.symm ▸ found), Option.map_eq_some_iff] at there
      obtain ⟨before, there, rfl⟩ := there
      refine ⟨turn, List.mem_cons_of_mem _ turned, before, there, made.trans ?_⟩
      apply selectedResource_rebooked
      split
      · rfl
      · exact .refl before

theorem Booked.picks {call : SchedulingCall} {limits : Limits} {selection : List CandidateResource}
    {after : ResourceTable} {selected : List SelectedResource} {claims : List ReservationClaim}
    (chosen : Chosen call.state call.stored.request limits selection)
    (booked : Booked call.state.resources (selection.zip call.stored.request.requirements) after selected claims)
    {picked : SelectedResource} (member : picked ∈ selected) :
    ∃ candidate requirement resource, call.Picks limits picked candidate requirement resource := by
  obtain ⟨⟨candidate, requirement⟩, turned, resource, found, made⟩ := booked.made member
  obtain ⟨index, below, turn⟩ := List.mem_iff_getElem.mp turned
  have within : index < selection.length := by
    rw [List.length_zip] at below
    omega
  obtain ⟨other, eligible⟩ := chosen.eligible.get within (chosen.length ▸ within)
  rw [List.getElem_zip, Prod.mk.injEq] at turn
  obtain ⟨first, second⟩ := turn
  have here : selection.get ⟨index, within⟩ = candidate := first
  have there : call.stored.request.requirements.get ⟨index, chosen.length ▸ within⟩ = requirement := second
  rw [here, there] at eligible
  have named : candidate.id = other.id := eligible.claims.1
  have same := eligible.found
  rw [← named, found] at same
  cases same
  have key : picked.resource = candidate.id := by
    rw [made]
    exact named.symm
  exact ⟨candidate, requirement, resource, (List.of_mem_zip turned).2, key ▸ found, eligible.eligible, made⟩

def Engine.Commits (engine : Engine) (operation : Operation) (placement : PlacementRecord) : Prop :=
  ∃ call, engine.Calls operation call ∧ placement.id = engine.ids.commitIds.1.placement ∧
    ∀ selected ∈ placement.resources, ∃ candidate requirement resource,
      call.Picks engine.config.limits selected candidate requirement resource

theorem Engine.step_commits (engine : Engine) (operation : Operation) :
    ∀ placement ∈ (engine.step operation).1.state.placements.entries, placementStateIsLive placement.state →
      engine.state.placements.find? placement.id = none → engine.Commits operation placement := by
  let holds (state : SchedulerState) : Prop :=
    ∀ placement ∈ state.placements.entries, placementStateIsLive placement.state →
      engine.state.placements.find? placement.id = none → engine.Commits operation placement
  have changed {state after : SchedulerState} (change : Change state after) (sofar : holds state) : holds after := by
    intro placement member live fresh
    obtain ⟨before, there, named, progresses⟩ := change.placements.of_mem member
    obtain ⟨call, calls, drawn, picks⟩ := sofar before there (progresses.live live) (named ▸ fresh)
    refine ⟨call, calls, named.symm.trans drawn, ?_⟩
    rw [progresses.resources]
    exact picks
  have written {state after : SchedulerState} (write : RequestWrite state after) (sofar : holds state) :
      holds after := by
    cases write <;> exact sofar
  have initial : holds engine.state := by
    intro placement member live fresh
    rw [Table.find?_of_mem member] at fresh
    cases fresh
  refine Engine.step_preserves changed written ?_ ?_ ?_ ?_ initial
  · intro advertisement mid record _ registers sofar
    exact sofar
  · intro advertisement mid live _ publishes sofar
    exact sofar
  · intro call calls sofar
    have result : ScheduleResult call.state engine.config engine.ids call.stored call.generation call.reassignments
      (call.scheduled engine.config engine.ids) := scheduleLocked_result
    generalize call.scheduled engine.config engine.ids = scheduled at result
    cases result with
    | noPlacement => exact sofar
    | refused => exact sofar
    | broken => exact sofar
    | placed chosen loop committed decided room resources_after requests_after placements_after =>
      intro placement member live fresh
      rw [placements_after] at member
      rcases Table.mem_emplace member with rfl | there
      · refine ⟨call, calls, ?_, fun selected picked => ?_⟩
        · rw [committed]
          rfl
        · rw [committed] at picked
          exact (commitLoop_ok loop).picks chosen picked
      · exact sofar placement there live fresh
  · intro durable _ accepted placement member live
    have rebuilt := rebuildState_rebuilt accepted
    rw [rebuilt.not_live member] at live
    cases live

namespace LiveSelections

variable {holds : PlacementId → ResourceRecord → SelectedResource → Prop} {state after : SchedulerState}

section Stable

variable (stable : Stable holds)

include stable

theorem lose {incarnation : Incarnation} (selections : LiveSelections holds state)
    (swept : Swept (invalidateResources state incarnation.1 incarnation.2)
      (takes incarnation.1 incarnation.2 (state.heldBy incarnation)) state.placements.keys after) :
    LiveSelections holds after := by
  intro placement member live selected picked resource found
  obtain ⟨there, spared⟩ := swept.remains member live
  obtain ⟨between, invalidated, rebooked⟩ := swept.resources.earlier found
  unfold invalidateResources at invalidated
  rw [Table.find?_mapEntries, Option.map_eq_some_iff] at invalidated
  obtain ⟨before, here, rfl⟩ := invalidated
  have held := selections placement (Table.mem_of_find? there) live selected picked before here
  have unheld : ¬ before.heldBy incarnation.1 incarnation.2 := by
    intro taken
    have affected : selected.resource ∈ state.heldBy incarnation :=
      List.mem_map.mpr ⟨before, List.mem_filter.mpr ⟨Table.mem_of_find? here, taken⟩, ResourceTable.id_of_find? here⟩
    have through : placement.resources.any fun selected => (state.heldBy incarnation).contains selected.resource :=
      List.any_eq_true.mpr ⟨selected, picked, List.contains_iff_mem.mpr affected⟩
    have touches : placement.touches incarnation.1 incarnation.2 (state.heldBy incarnation) :=
      Bool.or_eq_true_iff.mpr (.inr through)
    simp [takes, live, touches] at spared
  have kept : before.loseIncarnation incarnation.1 incarnation.2 = before := if_neg unheld
  rw [kept] at rebooked
  exact stable _ _ _ _ held rebooked

theorem markLost (selections : LiveSelections holds state) (config : EngineConfig) (worker : WorkerId)
    (boot : WorkerBootId) (detail : Text) :
    LiveSelections holds (markWorkerLost state config worker boot detail).1 := by
  unfold markWorkerLost
  split
  · exact selections
  · let lost : Incarnation := (worker, boot)
    have swept := invalidateWorkerIncarnation_swept state config lost.1 lost.2 detail
    exact selections.lose stable swept

theorem adopt (selections : LiveSelections holds state) (config : EngineConfig) (worker : WorkerId)
    (boot : WorkerBootId) (detail : Text) :
    LiveSelections holds (adoptWorkerIncarnation state config worker boot detail).1 := by
  cases found : state.workers.find? worker with
  | none =>
    unfold adoptWorkerIncarnation
    simp only [found]
    exact selections
  | some record =>
    by_cases same : record.boot = boot
    · unfold adoptWorkerIncarnation
      simp only [found, if_pos same]
      exact selections
    · let lost : Incarnation := (worker, record.boot)
      have swept : Swept (invalidateResources state lost.1 lost.2) (takes lost.1 lost.2 (state.heldBy lost))
          state.placements.keys (adoptWorkerIncarnation state config worker boot detail).1 :=
        adoptWorkerIncarnation_swept config detail found same
      exact selections.lose stable swept

theorem adoptOwner (selections : LiveSelections holds state) (config : EngineConfig)
    (advertisement : ResourceAdvertisement) : LiveSelections holds (adoptOwner state config advertisement) := by
  unfold LabScheduler.adoptOwner
  split
  · exact selections
  · exact selections.adopt stable config advertisement.worker advertisement.boot _

theorem adoptPublisher (selections : LiveSelections holds state) (config : EngineConfig)
    (advertisement : ResourceAdvertisement) (record : ResourceRecord) :
    LiveSelections holds (adoptPublisher state config advertisement record) := by
  unfold LabScheduler.adoptPublisher
  split
  · exact selections.adopt stable config advertisement.worker advertisement.boot _
  · exact selections

end Stable

theorem unselected {record : ResourceRecord} {placement : PlacementRecord} {selected : SelectedResource}
    (paired : Paired state) (ledger : Ledger state) (found : state.resources.find? record.id = some record)
    (unreserved : record.reservedSlots = 0) (member : placement ∈ state.placements.entries)
    (live : placementStateIsLive placement.state) (picked : selected ∈ placement.resources) :
    record.id ≠ selected.resource := by
  intro same
  obtain ⟨reservation, held, active, backs⟩ := paired.backed placement member live
  obtain ⟨claim, claimed, agrees⟩ := forall₂_mem_right backs.agree picked
  have positive := UInt32.le_iff_toNat_le.mp (backs.slots claim claimed)
  have share : reservation.claimedOn record.id ≤ claimedSlotsOn state.reservations record.id :=
    Table.weight_le_total (Table.mem_of_find? held) fun other => other.claimedOn record.id
  have own : reservation.claimedOn record.id = claimedSum reservation.claims record.id := if_pos active
  have part := claimedSum_ge claimed
  rw [agrees.resource, ← same] at part
  have booked := ledger.booked record (Table.mem_of_find? found)
  rw [unreserved] at booked
  have one : (1 : UInt32).toNat = 1 := rfl
  have none : (0 : UInt32).toNat = 0 := rfl
  omega

theorem retire {record : ResourceRecord} (selections : LiveSelections holds state) (paired : Paired state)
    (ledger : Ledger state) (found : state.resources.find? record.id = some record)
    (unreserved : record.reservedSlots = 0) :
    LiveSelections holds { state with resources := state.resources.set record.retire } := by
  intro placement member live selected picked resource there
  have apart : record.id ≠ selected.resource := unselected paired ledger found unreserved member live picked
  have apart : record.retire.id ≠ selected.resource := apart
  have kept := (Table.find?_set_ne state.resources apart).symm.trans there
  exact selections placement member live selected picked resource kept

theorem register {record : ResourceRecord} (selections : LiveSelections holds state) (paired : Paired state) :
    LiveSelections holds { state with resources := state.resources.emplace record } := by
  intro placement member live selected picked resource found
  have there := paired.registered placement member live selected picked
  obtain ⟨earlier, there⟩ := Option.ne_none_iff_exists'.mp there
  have kept : (state.resources.emplace record).find? selected.resource = some earlier := by
    rw [Table.find?_emplace, there]
    split <;> rfl
  rw [kept] at found
  cases found
  exact selections placement member live selected picked resource there

theorem publish {advertisement : ResourceAdvertisement} {live : ResourceRecord}
    (selections : LiveSelections holds state) (found : state.resources.find? advertisement.id = some live)
    (moved : ∀ placement ∈ state.placements.entries, placementStateIsLive placement.state →
      ∀ selected ∈ placement.resources, selected.resource = advertisement.id → holds placement.id live selected →
        holds placement.id (publishedRecord state.epoch (normalizeAdvertisement advertisement) live) selected) :
    LiveSelections holds (publishWrite state advertisement live) := by
  intro placement member running selected picked resource there
  have there : (state.resources.set (publishedRecord state.epoch (normalizeAdvertisement advertisement) live)).find?
      selected.resource = some resource := there
  rw [Table.find?_set] at there
  split at there
  · rename_i same
    cases there
    have same : advertisement.id = selected.resource := same
    have held := selections placement member running selected picked live (same ▸ found)
    exact moved placement member running selected picked same.symm held
  · exact selections placement member running selected picked resource there

theorem calm {engine : Engine} {operation : Operation}
    (stable : Stable holds) (selections : LiveSelections holds engine.state) (leaves : Engine.leavesRecords operation)
    (committed : ∀ placement ∈ (engine.step operation).1.state.placements.entries,
      placementStateIsLive placement.state → engine.state.placements.find? placement.id = none →
        placement.id = engine.ids.commitIds.1.placement → ∀ call, engine.Calls operation call →
          ∀ selected ∈ placement.resources, ∀ candidate requirement resource,
            call.Picks engine.config.limits selected candidate requirement resource →
              holds placement.id resource selected) :
    LiveSelections holds (engine.step operation).1.state := by
  have rebooks : Rebooks engine.state (engine.step operation).1.state := Engine.step_frame rebooks_frame leaves
  intro placement member live selected picked resource found
  obtain ⟨before, there, rebooked⟩ := rebooks.earlier found
  cases earlier : engine.state.placements.find? placement.id with
  | some known =>
    obtain ⟨later, here, progresses⟩ := (engine.step_kept operation).placements.later earlier
    rw [Table.find?_of_mem member] at here
    cases here
    have picked : selected ∈ known.resources := progresses.resources ▸ picked
    have named : known.id = placement.id := Table.key_of_find? earlier
    have held := selections known (Table.mem_of_find? earlier) (progresses.live live) selected picked before there
    exact stable _ _ _ _ (named ▸ held) rebooked
  | none =>
    obtain ⟨call, calls, drawn, picks⟩ := engine.step_commits operation placement member live earlier
    obtain ⟨candidate, requirement, taken, pick⟩ := picks selected picked
    obtain ⟨origin, there', booked⟩ := calls.rebooks.earlier pick.found
    rw [there] at there'
    cases there'
    have held := committed placement member live earlier drawn call calls selected picked candidate requirement taken pick
    have back : taken.Rebooked before := by
      unfold ResourceRecord.Rebooked at booked ⊢
      rw [← booked]
    have earlier : holds placement.id before selected := stable _ _ _ _ held back
    exact stable _ _ _ _ earlier rebooked

theorem step {engine : Engine} {operation : Operation}
    (stable : Stable holds) (selections : LiveSelections holds engine.state) (sound : Sound engine.state)
    (committed : ∀ placement ∈ (engine.step operation).1.state.placements.entries,
      placementStateIsLive placement.state → engine.state.placements.find? placement.id = none →
        placement.id = engine.ids.commitIds.1.placement → ∀ call, engine.Calls operation call →
          ∀ selected ∈ placement.resources, ∀ candidate requirement resource,
            call.Picks engine.config.limits selected candidate requirement resource →
              holds placement.id resource selected)
    (published : ∀ advertisement mid live, operation = .publishResourceState advertisement →
      Publishes engine.state engine.config advertisement mid live →
        ∀ placement ∈ mid.placements.entries, placementStateIsLive placement.state →
          ∀ selected ∈ placement.resources, selected.resource = advertisement.id → holds placement.id live selected →
            holds placement.id (publishedRecord mid.epoch (normalizeAdvertisement advertisement) live) selected) :
    LiveSelections holds (engine.step operation).1.state := by
  cases operation with
  | adoptEpoch epoch =>
    change LiveSelections holds (adoptEpoch engine.state engine.config epoch).1
    unfold LabScheduler.adoptEpoch
    split <;> exact selections
  | beginShutdown =>
    change LiveSelections holds (beginShutdown engine.state engine.config).1
    unfold LabScheduler.beginShutdown
    split <;> exact selections
  | workerConnected worker boot =>
    change LiveSelections holds (workerConnected engine.state engine.config worker boot).1
    unfold LabScheduler.workerConnected
    split
    · exact selections
    · exact selections.adopt stable engine.config worker boot _
  | workerDisconnected worker boot detail => exact selections.markLost stable engine.config worker boot detail
  | markWorkerLost worker boot detail => exact selections.markLost stable engine.config worker boot detail
  | registerResource advertisement =>
    change LiveSelections holds (registerResource engine.state engine.config advertisement).1
    unfold LabScheduler.registerResource
    split
    · exact selections
    · extract_lets normalized mid record registered
      have adopted : LiveSelections holds mid := selections.adoptOwner stable engine.config normalized
      have chain : Changes engine.state mid := adoptOwner_changes ..
      have paired : Paired mid := chain.preserve Paired.change sound.paired
      split
      · exact adopted
      · exact adopted.register paired
  | publishResourceState advertisement =>
    change LiveSelections holds (publishResourceState engine.state engine.config advertisement).1
    unfold LabScheduler.publishResourceState
    split
    · exact selections
    · rename_i record checked
      extract_lets normalized mid
      have adopted : LiveSelections holds mid := selections.adoptPublisher stable engine.config normalized record
      split
      · exact adopted
      · rename_i live found
        split
        · exact adopted
        · rename_i accepted
          have publishes : Publishes engine.state engine.config advertisement mid live :=
            ⟨⟨record, checked, rfl⟩, found, accepted⟩
          have written : LiveSelections holds (publishWrite mid advertisement live) :=
            adopted.publish found (published advertisement mid live rfl publishes)
          extract_lets published after
          split <;> exact written
  | retireResource resource expectedGeneration =>
    change LiveSelections holds (retireResource engine.state engine.config resource expectedGeneration).1
    unfold LabScheduler.retireResource
    split
    · exact selections
    · rename_i record accepted
      obtain ⟨found, unreserved⟩ := retireChecks_ok accepted
      exact selections.retire sound.paired sound.ledger found unreserved
  | importState durable =>
    change LiveSelections holds (importState engine.state engine.config engine.ids durable).1
    unfold LabScheduler.importState
    split
    · exact selections
    · rename_i accepted
      have rebuilt := rebuildState_rebuilt accepted
      intro placement member live
      have closed := rebuilt.not_live member
      rw [live] at closed
      cases closed
  | _ => exact selections.calm stable rfl committed

end LiveSelections

end LabScheduler
