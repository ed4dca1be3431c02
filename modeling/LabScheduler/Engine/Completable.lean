import LabScheduler.Engine.Generations
import LabScheduler.Engine.Vouched

namespace LabScheduler

open Foundation

def Unrecorded (state : SchedulerState) : Prop :=
  ∀ placement ∈ state.placements.entries, placementStateIsLive placement.state → placement.completionRecorded = false

namespace Unrecorded

variable {state : SchedulerState}

theorem ends (unrecorded : Unrecorded state) (placement : PlacementRecord) {target : PlacementState} (detail : Text)
    (closed : placementStateIsLive target = false) : Unrecorded (endPlacement state placement target detail) := by
  intro other member live
  rcases Table.mem_set.mp member with rfl | ⟨there, -⟩
  · have closed' : placementStateIsLive target = true := live
    rw [closed] at closed'
    cases closed'
  · exact unrecorded other there live

theorem wideFrame : WideFrame fun state after => Unrecorded state → Unrecorded after where
  refl _ unrecorded := unrecorded
  trans first second unrecorded := second (first unrecorded)
  audit _ _ _ _ unrecorded := unrecorded
  ended _ placement _ detail closed unrecorded := unrecorded.ends placement detail closed
  marked state placement target detail found live unrecorded := by
    intro other member running
    rcases Table.mem_set.mp member with rfl | ⟨there, -⟩
    · exact unrecorded placement (Table.mem_of_find? found) live
    · exact unrecorded other there running
  completed state placement target note detail closed unrecorded := by
    intro other member live
    rcases Table.mem_set.mp member with rfl | ⟨there, apart⟩
    · have closed' : placementStateIsLive target = true := live
      rw [closed] at closed'
      cases closed'
    · rcases Table.mem_set.mp there with rfl | ⟨there, -⟩
      · exact absurd rfl apart
      · exact unrecorded other there live
  requests _ _ _ unrecorded := unrecorded
  scheduled call config ids unrecorded := by
    have result : ScheduleResult call.state config ids call.stored call.generation call.reassignments
      (call.scheduled config ids) := scheduleLocked_result
    generalize call.scheduled config ids = scheduled at result
    cases result with
    | noPlacement => exact unrecorded
    | refused => exact unrecorded
    | broken => exact unrecorded
    | placed chosen loop committed decided room resources_after requests_after placements_after =>
      intro other member live
      rw [placements_after] at member
      rcases Table.mem_emplace member with rfl | there
      · rw [committed]
        rfl
      · exact unrecorded other there live
  records _ _ _ _ unrecorded := unrecorded
  shutdown _ unrecorded := unrecorded

theorem step {engine : Engine} (unrecorded : Unrecorded engine.state) (operation : Operation) :
    Unrecorded (engine.step operation).1.state := by
  cases operation with
  | adoptEpoch epoch =>
    change Unrecorded (adoptEpoch engine.state engine.config epoch).1
    unfold LabScheduler.adoptEpoch
    split <;> exact unrecorded
  | importState durable =>
    change Unrecorded (importState engine.state engine.config engine.ids durable).1
    unfold LabScheduler.importState
    split
    · exact unrecorded
    · rename_i accepted
      intro placement member live
      rw [(rebuildState_rebuilt accepted).not_live member] at live
      cases live
  | _ => exact Engine.step_wideFrame wideFrame rfl unrecorded

theorem runs (config : EngineConfig) (operations : List Operation) :
    Unrecorded ((Engine.fresh config).runs operations).state := by
  have initial : Unrecorded (Engine.fresh config).state := fun placement member => absurd member List.not_mem_nil
  exact Engine.runs_always (fun _ operation unrecorded => unrecorded.step operation) initial

end Unrecorded

/-- The claim that `WorkerAgent::handle_assignment` sends for an envelope. -/
def handleAssignmentClaim (authority : AuthorityEnvelope) (boot : WorkerBootId) (succeeded : Bool) (detail : Text) :
    CompletionClaim :=
  { placement := authority.placement
    placementGeneration := authority.placementGeneration
    experiment := authority.experiment
    experimentGeneration := authority.experimentGeneration
    epoch := authority.epoch
    workerBoot := boot
    resources := authority.resources.map SelectedResource.resource
    resourceGenerations := authority.resources.map SelectedResource.generation
    succeeded := succeeded
    detail := detail }

theorem reportCompletion_accepted_iff {state : SchedulerState} {config : EngineConfig} {claim : CompletionClaim}
    {record : PlacementRecord} (found : state.placements.find? claim.placement = some record) :
    (reportCompletion state config claim).2.accepted ↔
      claim.placement.isNull = false ∧ completionChecks state claim record = .ok () := by
  have valid : claim.placement.isNull = false ↔ claim.placement.validate = .ok () := by
    simp [StrongId.isNull]
  rw [valid]
  unfold reportCompletion
  split
  · rename_i refused
    simp [refused]
  · rename_i accepted
    simp only [found, accepted, true_and]
    split
    · rename_i refused
      simp [refused]
    · rename_i passed
      simp [passed]

section Claim

variable {state : SchedulerState} {placement record : PlacementRecord} {boot : WorkerBootId} {succeeded : Bool}
  {detail : Text}

theorem checkClaimedResources_own (same : record.resources = placement.resources) :
    checkClaimedResources (handleAssignmentClaim (authorityEnvelope placement) boot succeeded detail) record =
      .ok () := by
  simp [checkClaimedResources, handleAssignmentClaim, authorityEnvelope, same]

theorem zip_map_self {α β : Type} (f : α → β) (items : List α) :
    items.zip (items.map f) = items.map fun item => (item, f item) := by
  induction items with
  | nil => rfl
  | cons first rest ih => simp [ih]

theorem checkClaimedGenerations_own (same : record.resources = placement.resources)
    (registered : ∀ selected ∈ placement.resources, state.resources.find? selected.resource ≠ none)
    (nonempty : placement.resources ≠ []) :
    checkClaimedGenerations state (handleAssignmentClaim (authorityEnvelope placement) boot succeeded detail) record =
        .ok () ↔
      ∀ selected ∈ placement.resources, ∀ resource,
        state.resources.find? selected.resource = some resource → resource.generation = selected.generation := by
  have some : placement.resources.map SelectedResource.generation ≠ [] := by simpa using nonempty
  simp only [checkClaimedGenerations, handleAssignmentClaim, authorityEnvelope, same, if_neg some, check_bind_ok,
    check_ok, List.length_map, true_and, zip_map_self, check_forM_ok, List.forall_mem_map]
  refine forall₂_congr fun selected picked => ?_
  obtain ⟨resource, found⟩ := Option.ne_none_iff_exists'.mp (registered selected picked)
  simp [found]

end Claim

theorem own_claim_accepted {state : SchedulerState} {config : EngineConfig} {placement record : PlacementRecord}
    {succeeded : Bool} {detail : Text} (sound : Sound state) (unrecorded : Unrecorded state)
    (found : state.placements.find? placement.id = some record) (terms : record.terms = placement.terms)
    (live : placementStateIsLive record.state) (epoch : state.epoch = placement.epoch)
    (experiment : placement.experiment.isNull = false)
    (experimentGeneration : placement.experimentGeneration.isNull = false) :
    (reportCompletion state config (handleAssignmentClaim (authorityEnvelope placement) placement.workerBoot succeeded
        detail)).2.accepted ↔
      placement.id.isNull = false ∧ placement.epoch.isNull = false ∧
        ∀ selected ∈ placement.resources, ∀ resource,
          state.resources.find? selected.resource = some resource → resource.generation = selected.generation := by
  let claim := handleAssignmentClaim (authorityEnvelope placement) placement.workerBoot succeeded detail
  have there : state.placements.find? claim.placement = some record := found
  refine (reportCompletion_accepted_iff there).trans (and_congr .rfl ?_)
  have member := Table.mem_of_find? found
  have resources : record.resources = placement.resources := congrArg (fun record => record.resources) terms
  have sameExperiment : placement.experiment = record.experiment :=
    (congrArg (fun record => record.experiment) terms).symm
  have sameGeneration : placement.experimentGeneration = record.experimentGeneration :=
    (congrArg (fun record => record.experimentGeneration) terms).symm
  have generation : placement.generation = record.generation := (congrArg (fun record => record.generation) terms).symm
  have boot : placement.workerBoot = record.workerBoot := (congrArg (fun record => record.workerBoot) terms).symm
  obtain ⟨reservation, held, active, backs⟩ := sound.paired.backed record member live
  have backed : reservationIsActive state record.reservation = true := by simp [reservationIsActive, held, active]
  have uncompleted : record.completionIsRecorded = false := by
    have noted := unrecorded record member live
    unfold PlacementRecord.completionIsRecorded
    rw [noted]
    cases standing : record.state <;> rw [standing] at live <;> first | rfl | cases live
  have registered := sound.paired.registered record member live
  rw [resources] at registered
  have own : checkClaimedResources claim record = .ok () := checkClaimedResources_own resources
  have stamps : checkClaimedGenerations state claim record = .ok () ↔ _ :=
    checkClaimedGenerations_own resources registered (resources ▸ backs.nonempty)
  have passes : checkEpoch state placement.epoch = .ok () ↔ placement.epoch.isNull = false := by
    simp [checkEpoch, epoch, StrongId.isNull]
  simp only [completionChecks, check_bind_ok, check_ok]
  constructor
  · intro accepted
    obtain ⟨current, -, -, -, -, -, -, -, generations, -⟩ := accepted
    exact ⟨passes.mp current, stamps.mp generations⟩
  · intro conditions
    obtain ⟨current, generations⟩ := conditions
    exact ⟨passes.mpr current, ⟨experiment, sameExperiment⟩, ⟨experimentGeneration, sameGeneration⟩, generation,
      uncompleted, live, .inr boot, own, stamps.mpr generations, backed⟩

/-- What a commit leaves of the placement whose envelope it hands out. -/
structure Committed (placement : PlacementRecord) (state : SchedulerState) : Prop where
  experiment : placement.experiment.isNull = false
  experimentGeneration : placement.experimentGeneration.isNull = false
  stands : ∃ record, state.placements.find? placement.id = some record ∧ record.terms = placement.terms
  stamped : ∀ selected ∈ placement.resources, ∃ resource,
    state.resources.find? selected.resource = some resource ∧ resource.generation = selected.generation

theorem Engine.step_committed {engine : Engine} {operation : Operation} {authority : AuthorityEnvelope}
    (handed : (engine.step operation).2.envelope = some authority) (unused : engine.DrawsUnused operation)
    (validated : Validated engine.state) :
    ∃ placement, authority = authorityEnvelope placement ∧ Committed placement (engine.step operation).1.state := by
  obtain ⟨call, decision, calls, decided, envelope⟩ := Engine.step_envelope handed
  obtain ⟨placed, rfl⟩ := Decision.envelope_some envelope
  have enveloped := scheduleLocked_authority decided placed
  have result : ScheduleResult call.state engine.config engine.ids call.stored call.generation call.reassignments
    (call.scheduled engine.config engine.ids) := scheduleLocked_result
  have after := calls.step_changes
  have leaves : Engine.leavesRecords operation := by cases calls <;> rfl
  have rebooks : Rebooks engine.state (engine.step operation).1.state := Engine.step_frame rebooks_frame leaves
  obtain ⟨free, -, -⟩ := calls.unused unused
  have known : Validated call.state := calls.preserve Validated.change Validated.write validated
  generalize call.scheduled engine.config engine.ids = scheduled at decided result after
  cases result with
  | noPlacement outcome =>
    cases decided
    rw [outcome] at placed
    cases placed
  | refused => cases decided
  | broken => cases decided
  | @placed selection resources selected claims placement decision' after' chosen loop committed same room resources_after
      requests_after placements_after =>
    cases decided
    rw [same.2] at enveloped
    refine ⟨placement, enveloped, ?_⟩
    obtain ⟨limits, valid⟩ := known.requests call.stored (Table.mem_of_find? calls.recorded)
    obtain ⟨experiment, experimentGeneration⟩ := validateScheduleRequest_experiment valid
    have first : after'.placements.find? placement.id = some placement := by
      have named : placement.id = engine.ids.commitIds.1.placement := by
        rw [committed]
        rfl
      rw [placements_after, Table.find?_emplace, named, free]
      exact if_pos rfl
    obtain ⟨record, there, progresses⟩ := after.placements.later first
    refine ⟨?_, ?_, ⟨record, there, progresses.terms⟩, fun picked member => ?_⟩
    · rw [committed]
      exact experiment
    · rw [committed]
      exact experimentGeneration
    · rw [committed] at member
      obtain ⟨candidate, requirement, resource, pick⟩ := (commitLoop_ok loop).picks chosen member
      obtain ⟨origin, here, booked⟩ := calls.rebooks.earlier pick.found
      obtain ⟨later, found, rebooked⟩ := rebooks.later here
      refine ⟨later, found, ?_⟩
      rw [rebooked.generation, ← booked.generation, pick.made]
      rfl

/-- A publication that passes its checks for a resource of the envelope. -/
def Engine.Republishes (engine : Engine) (authority : AuthorityEnvelope) : Operation → Prop
  | .publishResourceState advertisement =>
    (∃ selected ∈ authority.resources, selected.resource = advertisement.id) ∧
      ∃ mid live, Publishes engine.state engine.config advertisement mid live
  | _ => False

/-- The placement is known, and while it is live its resources are as they were selected. -/
structure Standing (placement : PlacementRecord) (state : SchedulerState) : Prop where
  known : ∃ record, state.placements.find? placement.id = some record ∧ record.terms = placement.terms
  stamps : LiveSelections (fun id resource selected => id = placement.id → resource.generation = selected.generation)
    state

theorem Committed.standing {placement : PlacementRecord} {state : SchedulerState}
    (committed : Committed placement state) : Standing placement state := by
  refine ⟨committed.stands, fun other member live selected picked resource found named => ?_⟩
  obtain ⟨record, there, terms⟩ := committed.stands
  rw [← named, Table.find?_of_mem member] at there
  cases there
  have same : other.resources = placement.resources := congrArg (fun record => record.resources) terms
  obtain ⟨later, here, stamp⟩ := committed.stamped selected (same ▸ picked)
  rw [found] at here
  cases here
  exact stamp

theorem Standing.step {engine : Engine} {operation : Operation} {placement : PlacementRecord}
    (standing : Standing placement engine.state) (sound : Sound engine.state)
    (unpublished : ¬ engine.Republishes (authorityEnvelope placement) operation) :
    Standing placement (engine.step operation).1.state := by
  obtain ⟨record, found, terms⟩ := standing.known
  constructor
  · obtain ⟨later, there, progresses⟩ := (engine.step_kept operation).placements.later found
    exact ⟨later, there, progresses.terms.trans terms⟩
  · refine LiveSelections.step ?_ standing.stamps sound ?_ ?_
    · intro id before after selected held rebooked named
      rw [rebooked.generation]
      exact held named
    · intro other member live fresh _ _ _ _ _ _ _ _ _ named
      rw [named, found] at fresh
      cases fresh
    · intro advertisement mid live same publishes other member running selected picked key held named
      refine absurd ?_ unpublished
      subst same
      refine ⟨⟨selected, ?_, key⟩, mid, live, publishes⟩
      obtain ⟨⟨checked, accepted, rfl⟩, -⟩ := publishes
      have chain := adoptPublisher_changes accepted
      obtain ⟨before, there, -, progresses⟩ := chain.placements.of_mem member
      have earlier := Table.find?_of_mem there
      rw [← progresses.id, named, found] at earlier
      cases earlier
      have resources : record.resources = placement.resources := congrArg (fun record => record.resources) terms
      change selected ∈ placement.resources
      rw [← resources, ← progresses.resources]
      exact picked

theorem Standing.run {engine : Engine} {later : List Operation} {placement : PlacementRecord}
    (standing : Standing placement engine.state) (sound : Sound engine.state)
    (reasons : 1 ≤ engine.config.limits.maxRejectionReasonsPerEntry)
    (unused : Guarded Engine.step Engine.DrawsUnused engine later)
    (unpublished : Guarded Engine.step
      (fun engine operation => ¬ engine.Republishes (authorityEnvelope placement) operation) engine later) :
    Standing placement (engine.runs later).state := by
  induction later generalizing engine with
  | nil => exact standing
  | cons operation rest ih =>
    have next : Sound (engine.step operation).1.state :=
      (engine.passes_step operation).sound sound reasons unused.1
    have reasons : 1 ≤ (engine.step operation).1.config.limits.maxRejectionReasonsPerEntry :=
      (engine.step_config operation).symm ▸ reasons
    exact ih (standing.step sound unpublished.1) next reasons unused.2 unpublished.2

theorem Engine.Republishes.stamps {engine : Engine} {operation : Operation} {authority : AuthorityEnvelope}
    (republishes : engine.Republishes authority operation) (unwraps : engine.Unwraps operation) :
    ∃ selected ∈ authority.resources, ∀ resource,
      engine.state.resources.find? selected.resource = some resource →
        ∃ later, (engine.step operation).1.state.resources.find? selected.resource = some later ∧
          resource.generation < later.generation := by
  cases operation with
  | publishResourceState advertisement =>
    obtain ⟨⟨selected, picked, key⟩, mid, live, ⟨record, checked, rfl⟩, found, accepted⟩ := republishes
    refine ⟨selected, picked, fun resource there => ?_⟩
    rw [key] at there ⊢
    let normalized := normalizeAdvertisement advertisement
    let published := publishedRecord (adoptPublisher engine.state engine.config normalized record).epoch normalized live
    have named : published.id = advertisement.id := rfl
    have written : (engine.step (.publishResourceState advertisement)).1.state.resources =
        (adoptPublisher engine.state engine.config normalized record).resources.set published := by
      change (publishResourceState engine.state engine.config advertisement).1.resources = _
      have here : (adoptPublisher engine.state engine.config normalized record).resources.find? normalized.id =
        some live := found
      simp only [publishResourceState, checked, here, accepted, normalized]
      split <;> rfl
    have later : (engine.step (.publishResourceState advertisement)).1.state.resources.find? advertisement.id =
        some published := by
      rw [written, ← named]
      exact Table.find?_set_self ..
    refine ⟨published, later, ?_⟩
    have adopted : Bumps engine.state (adoptPublisher engine.state engine.config normalized record) :=
      adoptPublisher_bumps ..
    obtain ⟨other, here, bumped⟩ := adopted.later there
    rw [found] at here
    cases here
    have own : resource.id = advertisement.id := ResourceTable.id_of_find? there
    have unwrapped := unwraps resource (Table.mem_of_find? there) published (own ▸ later)
    have stamped : published.generation = live.generation.bump := rfl
    apply lt_of_le_of_ne ((bumped.stamp stamped).follows unwrapped).ordered
    intro same
    rcases bumped with rebooked | once
    · rw [stamped, rebooked.generation] at same
      exact resource.generation.bump_ne same.symm
    · rw [stamped, once] at same
      exact resource.generation.bump_bump_ne same.symm
  | _ => exact republishes.elim

theorem Committed.outdated {engine : Engine} {later : List Operation} {placement : PlacementRecord}
    (committed : Committed placement engine.state) (unwraps : Guarded Engine.step Engine.Unwraps engine later)
    (published : ¬ Guarded Engine.step
      (fun engine operation => ¬ engine.Republishes (authorityEnvelope placement) operation) engine later) :
    ∃ selected ∈ placement.resources, ∃ resource,
      (engine.runs later).state.resources.find? selected.resource = some resource ∧
        resource.generation ≠ selected.generation := by
  obtain ⟨first, operation, rest, rfl, republishes⟩ := exists_of_not_guarded published
  obtain ⟨before, at_once, after⟩ := guarded_append.mp unwraps
  obtain ⟨selected, picked, stamps⟩ := (not_not.mp republishes).stamps at_once
  obtain ⟨resource, found, stamp⟩ := committed.stamped selected picked
  obtain ⟨reached, there, early⟩ := (engine.runs_follows first before).later found
  obtain ⟨published, here, risen⟩ := stamps reached there
  obtain ⟨last, final, late⟩ := (Engine.runs_follows _ rest after).later here
  refine ⟨selected, picked, last, ?_, fun same => ?_⟩
  · rw [show engine.runs (first ++ operation :: rest) = (run Engine.step engine first).runs (operation :: rest) from
      run_append ..]
    exact final
  · have above : resource.generation < last.generation := lt_of_lt_of_le (lt_of_le_of_lt early.ordered risen) late.ordered
    rw [same, stamp] at above
    exact lt_irrefl _ above

def Engine.Orderly (engine : Engine) (operation : Operation) : Prop :=
  engine.DrawsUnused operation ∧ engine.Unwraps operation

instance (engine : Engine) (operation : Operation) : Decidable (engine.Orderly operation) :=
  inferInstanceAs (Decidable (_ ∧ _))

/-- Of a placement that is live in its own epoch, the claim that its envelope allows is accepted exactly as long as
    no publication of one of its resources has passed its checks since the commit: a publication stamps the resource
    anew, and the claim carries the generations of the selection. Neither identity may be null. -/
theorem placement_completable {config : EngineConfig} {before later : List Operation} {operation : Operation}
    {authority : AuthorityEnvelope} {record : PlacementRecord} {succeeded : Bool} {detail : Text}
    (reasons : 1 ≤ config.limits.maxRejectionReasonsPerEntry)
    (orderly : Guarded Engine.step Engine.Orderly (Engine.fresh config) (before ++ operation :: later))
    (committed : (((Engine.fresh config).runs before).step operation).2.envelope = some authority)
    (found : ((Engine.fresh config).runs (before ++ operation :: later)).state.placements.find? authority.placement =
      some record)
    (live : placementStateIsLive record.state)
    (epoch : ((Engine.fresh config).runs (before ++ operation :: later)).state.epoch = authority.epoch) :
    (reportCompletion ((Engine.fresh config).runs (before ++ operation :: later)).state config
        (handleAssignmentClaim authority authority.workerBoot succeeded detail)).2.accepted ↔
      authority.placement.isNull = false ∧ authority.epoch.isNull = false ∧
        Guarded Engine.step (fun engine operation => ¬ engine.Republishes authority operation)
          (((Engine.fresh config).runs before).step operation).1 later := by
  let start := (Engine.fresh config).runs before
  let engine := (start.step operation).1
  have final := Sound.runs reasons (orderly.weaken fun _ _ orderly => orderly.1)
  have unrecorded := Unrecorded.runs config (before ++ operation :: later)
  have whole : (Engine.fresh config).runs (before ++ operation :: later) = engine.runs later := run_append ..
  rw [whole] at found epoch final unrecorded ⊢
  obtain ⟨early, at_once, late⟩ := guarded_append.mp orderly
  have sound : Sound start.state := Sound.runs reasons (early.weaken fun _ _ orderly => orderly.1)
  have same : start.config = config := (Engine.fresh config).runs_config before
  have enough : 1 ≤ start.config.limits.maxRejectionReasonsPerEntry := same.symm ▸ reasons
  obtain ⟨placement, rfl, stands⟩ := Engine.step_committed committed at_once.1 sound.validated
  obtain ⟨first, there, terms⟩ := stands.stands
  obtain ⟨last, here, progresses⟩ := (engine.runs_kept later).placements.later there
  rw [show (authorityEnvelope placement).placement = placement.id from rfl, here] at found
  cases found
  refine (own_claim_accepted final unrecorded here (progresses.terms.trans terms) live epoch stands.experiment
    stands.experimentGeneration).trans (and_congr .rfl (and_congr .rfl ?_))
  constructor
  · intro current
    by_contra published
    obtain ⟨selected, picked, resource, reached, outdated⟩ :=
      stands.outdated (late.weaken fun _ _ orderly => orderly.2) published
    exact outdated (current selected picked resource reached)
  · intro unpublished selected picked resource reached
    have next : Sound engine.state := (start.passes_step operation).sound sound enough at_once.1
    have enough : 1 ≤ engine.config.limits.maxRejectionReasonsPerEntry := (start.step_config operation).symm ▸ enough
    have standing := stands.standing.run next enough (late.weaken fun _ _ orderly => orderly.1) unpublished
    have resources : record.resources = placement.resources :=
      congrArg (fun record => record.resources) (progresses.terms.trans terms)
    have named : record.id = placement.id := Table.key_of_find? here
    exact standing.stamps record (Table.mem_of_find? here) live selected (resources ▸ picked) resource reached named

namespace Bench

/-- The bench is registered and one slot of it placed. -/
def placed : Engine × Reply :=
  ((Engine.fresh {}).runs [.registerResource advertisement]).step (.submitRequest (request 5 1))

def placedEnvelope : AuthorityEnvelope := placed.2.envelope.getD {}

def assigned : List Operation :=
  [.registerResource advertisement] ++ .submitRequest (request 5 1) :: [.markRunning ⟨2⟩ ⟨1⟩ ⟨1⟩ {}]

end Bench

theorem placement_completable_bench :
    (reportCompletion ((Engine.fresh {}).runs Bench.assigned).state {}
      (handleAssignmentClaim Bench.placedEnvelope Bench.placedEnvelope.workerBoot true [])).2.accepted := by
  have orderly : Guarded Engine.step Engine.Orderly (Engine.fresh {}) Bench.assigned := by
    refine ⟨?_, ?_, ?_, trivial⟩
    · decide +kernel
    · decide +kernel
    · decide +kernel
  have committed : (((Engine.fresh {}).runs [.registerResource Bench.advertisement]).step
      (.submitRequest (Bench.request 5 1))).2.envelope = some Bench.placedEnvelope := by decide +kernel
  have running : ∃ record ∈ ((Engine.fresh {}).runs Bench.assigned).state.placements.find?
      Bench.placedEnvelope.placement, placementStateIsLive record.state := by decide +kernel
  have epoch : ((Engine.fresh {}).runs Bench.assigned).state.epoch = Bench.placedEnvelope.epoch := by decide +kernel
  have known : Bench.placedEnvelope.placement.isNull = false ∧ Bench.placedEnvelope.epoch.isNull = false := by
    decide +kernel
  obtain ⟨record, found, live⟩ := running
  have accepted := @placement_completable {} [.registerResource Bench.advertisement] [.markRunning ⟨2⟩ ⟨1⟩ ⟨1⟩ {}]
    (.submitRequest (Bench.request 5 1)) Bench.placedEnvelope record true [] (by decide) orderly committed found live
    epoch
  exact accepted.mpr ⟨known.1, known.2, fun republishes => republishes.elim, trivial⟩

/-- The same state is published again, and the claim of the live placement is refused. -/
theorem published_placement_incompletable :
    let engine := Bench.placed.1.runs [.publishResourceState Bench.advertisement]
    Bench.placed.2.envelope = some Bench.placedEnvelope ∧ engine.state.epoch = Bench.placedEnvelope.epoch ∧
      (∃ record ∈ engine.state.placements.find? Bench.placedEnvelope.placement, placementStateIsLive record.state) ∧
      (reportCompletion engine.state {}
        (handleAssignmentClaim Bench.placedEnvelope Bench.placedEnvelope.workerBoot true [])).2.status.code =
          .staleResource := by
  decide +kernel

end LabScheduler
