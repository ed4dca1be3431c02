import LabScheduler.Engine.Lives
import LabScheduler.Engine.Selections

namespace LabScheduler

open Foundation

/-- A retired resource: nobody vouches for it, and nothing of it is reserved. -/
structure ResourceRecord.Retired (resource : ResourceRecord) : Prop where
  lifecycle : resource.lifecycle = .retired
  silent : resource.dynamicAuthoritative = false
  unreserved : resource.reservedSlots = 0

def SchedulerState.Retired (state : SchedulerState) (id : ResourceId) : Prop :=
  ∃ record, state.resources.find? id = some record ∧ record.Retired

/-- No retired resource is called eligible for a requirement of the request. -/
def SchedulingCall.SparesRetired (call : SchedulingCall) (limits : Limits) : Prop :=
  ∀ requirement ∈ call.stored.request.requirements, ∀ resource ∈ call.state.resources.entries,
    resource.lifecycle = .retired →
      (evaluateResource call.stored.request requirement resource limits).eligible = false

theorem SchedulingCall.sparesRetired (call : SchedulingCall) {limits : Limits}
    (reasons : 1 ≤ limits.maxRejectionReasonsPerEntry) : call.SparesRetired limits := by
  intro requirement _ resource _ retired
  apply Bool.eq_false_of_not_eq_true
  intro eligible
  obtain ⟨-, passed⟩ := evaluateResource_eligible reasons eligible
  have test := passed (resource.lifecycle == .retired, .resourceRetired) (by simp [hardTests])
  simp [retired] at test

section Call

variable {call : SchedulingCall} {config : EngineConfig} {ids : IdGenerator} {id : ResourceId}

theorem ResourceRecord.takeAll_other {resource : ResourceRecord} {claims : List ReservationClaim}
    (others : ∀ claim ∈ claims, claim.resource ≠ resource.id) : resource.takeAll claims = resource := by
  induction claims with
  | nil => rfl
  | cons claim rest ih =>
    have first : claim.resource ≠ resource.id := others claim List.mem_cons_self
    have kept := ih fun later member => others later (List.mem_cons_of_mem _ member)
    unfold takeAll at kept ⊢
    rw [List.foldl_cons, if_neg first]
    exact kept

/-- The search hands no retired resource to the commit. -/
theorem SchedulingCall.SparesRetired.unpicked {selection : List CandidateResource}
    (spares : call.SparesRetired config.limits) (retired : call.state.Retired id)
    (chosen : Chosen call.state call.stored.request config.limits selection) :
    ∀ candidate ∈ selection, candidate.id ≠ id := by
  intro candidate member same
  obtain ⟨requirement, required, resource, eligible⟩ := forall₂_mem_left chosen.eligible member
  obtain ⟨record, found, retirement⟩ := retired
  have key : resource.id = id := eligible.claims.1.symm.trans same
  have there := eligible.found
  rw [key, found] at there
  cases there
  have refused := spares requirement required resource (Table.mem_of_find? found) retirement.lifecycle
  rw [eligible.eligible] at refused
  cases refused

theorem Booked.retired {resources after : ResourceTable} {turns : List (CandidateResource × ResourceRequirement)}
    {selected : List SelectedResource} {claims : List ReservationClaim} {record : ResourceRecord}
    (booked : Booked resources turns after selected claims) (found : resources.find? id = some record)
    (others : ∀ turn ∈ turns, turn.1.id ≠ id) : after.find? id = some record := by
  have key : record.id = id := ResourceTable.id_of_find? found
  have unclaimed : ∀ claim ∈ claims, claim.resource ≠ record.id := by
    intro claim member same
    obtain ⟨candidate, picked, claims⟩ := forall₂_mem_left booked.claimsFor_turns member
    obtain ⟨turn, turned, rfl⟩ := List.mem_map.mp picked
    exact others turn turned (claims.resource.symm.trans (same.trans key))
  rw [booked.find?, found]
  exact congrArg some (ResourceRecord.takeAll_other unclaimed)

/-- What a call leaves of a retired resource: it books nothing there, and no placement that it commits selects it. -/
structure LeavesRetired (id : ResourceId) (before : SchedulerState) (scheduled : Scheduled) : Prop where
  retired : scheduled.state.Retired id
  unselected : ∀ decision, scheduled.result = .ok decision → decision.outcome = .placed →
    ∀ selected ∈ decision.placement.resources, selected.resource ≠ id
  added : ∀ placement ∈ scheduled.state.placements.entries, placement ∈ before.placements.entries ∨
    ∀ selected ∈ placement.resources, selected.resource ≠ id

theorem SchedulingCall.SparesRetired.scheduled (spares : call.SparesRetired config.limits)
    (retired : call.state.Retired id) : LeavesRetired id call.state (call.scheduled config ids) := by
  have result : ScheduleResult call.state config ids call.stored call.generation call.reassignments
    (call.scheduled config ids) := scheduleLocked_result
  generalize call.scheduled config ids = scheduled at result
  have others {selection : List CandidateResource}
      (chosen : Chosen call.state call.stored.request config.limits selection) :
      ∀ turn ∈ selection.zip call.stored.request.requirements, turn.1.id ≠ id := by
    intro turn turned
    exact spares.unpicked retired chosen turn.1 (List.of_mem_zip turned).1
  have leaves := retired
  obtain ⟨record, found, retirement⟩ := retired
  cases result with
  | noPlacement outcome =>
    refine ⟨leaves, fun decision decided placed => ?_, fun placement member => .inl member⟩
    cases decided
    rw [outcome] at placed
    cases placed
  | refused =>
    refine ⟨leaves, fun decision decided => ?_, fun placement member => .inl member⟩
    cases decided
  | @broken selection resources status chosen loop =>
    refine ⟨⟨record, ?_, retirement⟩, fun decision decided => ?_, fun placement member => .inl member⟩
    · obtain ⟨done, later, _, _, split, booked⟩ := commitLoop_error loop
      apply booked.retired found
      intro turn turned
      exact others chosen turn (split ▸ List.mem_append_left _ turned)
    · cases decided
  | @placed selection resources chosen_resources claims placement decision after chosen loop committed decided room
      resources_after requests_after placements_after =>
    have booked := commitLoop_ok loop
    have unselected : ∀ selected ∈ placement.resources, selected.resource ≠ id := by
      intro selected picked
      rw [committed] at picked
      obtain ⟨turn, turned, resource, there, made⟩ := booked.made picked
      have key : selected.resource = turn.1.id := by
        rw [made]
        exact ResourceTable.id_of_find? there
      rw [key]
      exact others chosen turn turned
    constructor
    · refine ⟨record, ?_, retirement⟩
      rw [resources_after]
      exact booked.retired found (others chosen)
    · intro other same placed
      cases same
      rw [decided.2]
      exact unselected
    · intro other member
      rw [placements_after] at member
      rcases Table.mem_emplace member with rfl | there
      · exact .inr unselected
      · exact .inl there

end Call

section Changes

variable {state after : SchedulerState} {id : ResourceId}

theorem ResourceRecord.Retired.of_lapses {before after : ResourceRecord} (retired : before.Retired)
    (lapses : before.Lapses after) (rebooked : before.Rebooked after) : after.Retired := by
  have unreserved : after.reservedSlots ≤ 0 := retired.unreserved ▸ lapses.reserved
  obtain ⟨lifecycle, silent, -⟩ := retired
  rw [← rebooked] at lifecycle silent
  exact ⟨lifecycle, silent, UInt32.le_zero_iff.mp unreserved⟩

theorem Change.retired (change : Change state after) (retired : state.Retired id) : after.Retired id := by
  obtain ⟨record, found, retirement⟩ := retired
  have key : record.id = id := ResourceTable.id_of_find? found
  have evolves := change.resources
  cases change with
  | books resources => exact ⟨record, resources ▸ found, retirement⟩
  | invalidate worker boot =>
    have unheld : record.heldBy worker boot = false := by
      simp [ResourceRecord.heldBy, retirement.silent, retirement.lifecycle]
    refine ⟨record, ?_, retirement⟩
    unfold invalidateResources
    rw [Table.find?_mapEntries, found]
    apply congrArg some
    unfold ResourceRecord.loseIncarnation
    rw [if_neg (by simp [unheld])]
  | @retire other there unreserved =>
    by_cases same : other.id = id
    · refine ⟨other.retire, ?_, ⟨rfl, rfl, unreserved⟩⟩
      rw [← same]
      exact Table.find?_set_self state.resources other.retire
    · have kept : (state.resources.set other.retire).find? id = state.resources.find? id :=
        Table.find?_set_ne (a := other.retire) state.resources same
      exact ⟨record, kept.trans found, retirement⟩
  | @finish placement target detail there live closed =>
    obtain ⟨later, here, lapses⟩ := evolves.later found
    obtain ⟨other, here', rebooked⟩ := (endPlacement_rebooks state placement target detail).later found
    cases here.symm.trans here'
    exact ⟨later, here, retirement.of_lapses lapses rebooked⟩
  | mark => exact ⟨record, found, retirement⟩
  | complete => exact ⟨record, found, retirement⟩

theorem Changes.retired (changes : Changes state after) (retired : state.Retired id) : after.Retired id :=
  changes.preserve (fun change sofar => change.retired sofar) retired

theorem recoveredResource_retired {record : ResourceRecord} (epoch : CoordinatorEpoch)
    (retired : record.lifecycle = .retired) : (recoveredResource epoch record).Retired := by
  simp only [recoveredResource]
  split
  · constructor
    · simp
    · simp
    · rfl
  · constructor
    · simp
    · rfl
    · rfl

end Changes

/-- The resource is retired, and only placements of `before` select it. -/
structure StaysRetired (before : SchedulerState) (id : ResourceId) (state : SchedulerState) : Prop where
  retired : state.Retired id
  selected : ∀ placement ∈ state.placements.entries, (∃ selected ∈ placement.resources, selected.resource = id) →
    ∃ earlier ∈ before.placements.entries, placement.terms = earlier.terms

/-- A call of the operation finds no retired resource eligible: a rejection reason is kept, or none is looked for. -/
def Engine.Spares (engine : Engine) : LifeEvent → Prop
  | .operation operation => 1 ≤ engine.config.limits.maxRejectionReasonsPerEntry ∨
      ∀ call, engine.Calls operation call → call.SparesRetired engine.config.limits
  | .restart _ => True

theorem publishChecks_lifecycle {state : SchedulerState} {config : EngineConfig}
    {advertisement : ResourceAdvertisement} {record : ResourceRecord}
    (accepted : publishChecks state config advertisement = .ok record) : record.lifecycle ≠ .retired := by
  unfold publishChecks at accepted
  simp only [check_bind_ok] at accepted
  obtain ⟨-, -, accepted⟩ := accepted
  split at accepted
  · cases accepted
  · simp at accepted
    obtain ⟨-, stays, rfl⟩ := accepted
    exact stays

theorem retireChecks_id {state : SchedulerState} {id : ResourceId} {generation : ResourceGeneration}
    {record : ResourceRecord} (accepted : retireChecks state id generation = .ok record) : record.id = id := by
  unfold retireChecks at accepted
  simp only [check_bind_ok] at accepted
  obtain ⟨-, accepted⟩ := accepted
  split at accepted
  · cases accepted
  · rename_i found
    simp at accepted
    obtain ⟨-, -, rfl⟩ := accepted
    exact ResourceTable.id_of_find? found

theorem retireResource_retired {state : SchedulerState} {config : EngineConfig} {id : ResourceId}
    {generation : ResourceGeneration} {record : ResourceRecord}
    (retired : (retireResource state config id generation).2 = .ok record) :
    (retireResource state config id generation).1.Retired id := by
  unfold retireResource at retired ⊢
  split at retired
  · cases retired
  · rename_i live accepted
    obtain ⟨found, unreserved⟩ := retireChecks_ok accepted
    refine ⟨live.retire, ?_, ⟨rfl, rfl, unreserved⟩⟩
    rw [← retireChecks_id accepted]
    exact Table.find?_set_self state.resources live.retire

section Events

variable {engine : Engine} {operation : Operation} {call : SchedulingCall} {before : SchedulerState} {id : ResourceId}

theorem Engine.Calls.retired (calls : engine.Calls operation call) (retired : engine.state.Retired id) :
    call.state.Retired id := by
  cases calls with
  | submit => exact retired
  | reassign accepted =>
    obtain ⟨found, -⟩ := reassignChecks_ok accepted
    exact Changes.retired (replaceTermination_changes found rfl) retired
  | @preempt placement generation epoch reason record stored accepted =>
    obtain ⟨found, -⟩ := preemptChecks_ok accepted
    have ended : Changes engine.state (replaceTermination engine.state record .preempted reason
        (ascii "preempted to free a constrained resource")) := replaceTermination_changes found rfl
    exact ended.retired retired

namespace StaysRetired

theorem step (stays : StaysRetired before id engine.state)
    (spares : ∀ call, engine.Calls operation call → call.SparesRetired engine.config.limits) :
    StaysRetired before id (engine.step operation).1.state := by
  have retired := stays.retired
  refine Engine.step_preserves ?_ ?_ ?_ ?_ ?_ ?_ stays
  case refine_1 =>
    intro state after change sofar
    refine ⟨change.retired sofar.retired, fun placement member names => ?_⟩
    obtain ⟨origin, there, -, progresses⟩ := change.placements.of_mem member
    rw [progresses.resources] at names
    obtain ⟨earlier, known, same⟩ := sofar.selected origin there names
    exact ⟨earlier, known, progresses.terms.trans same⟩
  case refine_2 =>
    intro state after write sofar
    cases write <;> exact ⟨sofar.retired, sofar.selected⟩
  case refine_3 =>
    intro advertisement mid record _ registers sofar
    obtain ⟨other, found, retirement⟩ := sofar.retired
    refine ⟨⟨other, ?_, retirement⟩, sofar.selected⟩
    rw [Table.find?_emplace, found]
    split <;> rfl
  case refine_4 =>
    intro advertisement mid live _ publishes sofar
    obtain ⟨other, found, retirement⟩ := sofar.retired
    refine ⟨⟨other, ?_, retirement⟩, sofar.selected⟩
    obtain ⟨record, accepted, -⟩ := publishes.adopted
    have apart : advertisement.id ≠ id := by
      intro same
      obtain ⟨known, there, lifecycle, -⟩ := retired
      rw [← same, publishChecks_found accepted] at there
      cases there
      exact publishChecks_lifecycle accepted lifecycle
    exact (Table.find?_set_ne mid.resources apart).trans found
  case refine_5 =>
    intro call calls sofar
    have leaves : LeavesRetired id call.state (call.scheduled engine.config engine.ids) :=
      (spares call calls).scheduled sofar.retired
    refine ⟨leaves.retired, fun placement member names => ?_⟩
    rcases leaves.added placement member with there | others
    · exact sofar.selected placement there names
    · obtain ⟨selected, picked, same⟩ := names
      exact absurd same (others selected picked)
  case refine_6 =>
    intro durable _ accepted
    obtain ⟨-, none, -⟩ := importChecks_ok accepted
    obtain ⟨record, found, -⟩ := retired
    have member := Table.mem_of_find? found
    rw [none] at member
    cases member

theorem restart (stays : StaysRetired before id engine.state) (config : EngineConfig) :
    StaysRetired before id (engine.live (.restart config)).1.state := by
  rcases engine.live_restart config with same | ⟨accepted, -, kind, detail, recovered⟩
  · rw [same]
    exact stays
  · rw [recovered]
    have rebuilt := rebuildState_rebuilt accepted
    obtain ⟨record, found, retirement⟩ := stays.retired
    have member := Table.mem_of_find? found
    have key : record.id = id := ResourceTable.id_of_find? found
    constructor
    · have listed : record ∈ engine.exported.resources := member
      obtain ⟨later, there⟩ := Option.ne_none_iff_exists'.mp
        (rebuildState_resource (Engine.fresh config).state listed)
      obtain ⟨persisted, listed, made⟩ := rebuilt.resources later (Table.mem_of_find? there)
      have named : later.id = record.id := ResourceTable.id_of_find? there
      rw [made, recoveredResource_id] at named
      have known : engine.state.resources.find? persisted.id = some persisted := Table.find?_of_mem listed
      rw [named, Table.find?_of_mem member] at known
      cases known
      rw [key] at there
      refine ⟨later, there, ?_⟩
      rw [made]
      exact recoveredResource_retired _ retirement.lifecycle
    · intro placement there names
      obtain ⟨persisted, listed, same⟩ := rebuilt.placement_terms there
      have selects : placement.terms.resources = persisted.terms.resources := by rw [same]
      have selects : placement.resources = persisted.resources := selects
      rw [selects] at names
      obtain ⟨earlier, known, terms⟩ := stays.selected persisted listed names
      exact ⟨earlier, known, same.trans terms⟩

end StaysRetired

theorem Engine.step_unselected {authority : AuthorityEnvelope} (retired : engine.state.Retired id)
    (spares : ∀ call, engine.Calls operation call → call.SparesRetired engine.config.limits)
    (handed : (engine.step operation).2.envelope = some authority) :
    ∀ selected ∈ authority.resources, selected.resource ≠ id := by
  obtain ⟨call, decision, calls, decided, envelope⟩ := Engine.step_envelope handed
  obtain ⟨placed, rfl⟩ := Decision.envelope_some envelope
  have enveloped := scheduleLocked_authority decided placed
  rw [enveloped]
  exact ((spares call calls).scheduled (calls.retired retired)).unselected decision decided placed

end Events

/-- Retirement is final in every life whose calls find no retired resource eligible, restarts included. -/
theorem retirement_final {engine : Engine} {id : ResourceId} {generation : ResourceGeneration}
    {record : ResourceRecord} {events : List LifeEvent}
    (retired : (engine.step (.retireResource id generation)).2 = .resource (.ok record))
    (guarded : Guarded Engine.live Engine.Spares (engine.step (.retireResource id generation)).1 events) :
    StaysRetired (engine.step (.retireResource id generation)).1.state id
        ((engine.step (.retireResource id generation)).1.lives events).state ∧
      ∀ reply ∈ replies Engine.live (engine.step (.retireResource id generation)).1 events,
        ∀ authority, reply.envelope = some authority → ∀ selected ∈ authority.resources, selected.resource ≠ id := by
  let start := (engine.step (.retireResource id generation)).1
  let holds (past : List Reply) (engine : Engine) : Prop := StaysRetired start.state id engine.state ∧
    ∀ reply ∈ past, ∀ authority, reply.envelope = some authority →
      ∀ selected ∈ authority.resources, selected.resource ≠ id
  have initial : holds [] start := by
    have accepted : (retireResource engine.state engine.config id generation).2 = .ok record := by
      change Reply.resource (retireResource engine.state engine.config id generation).2 = _ at retired
      exact Reply.resource.inj retired
    constructor
    · exact ⟨retireResource_retired accepted, fun placement member _ => ⟨placement, member, rfl⟩⟩
    · exact fun reply member => absurd member List.not_mem_nil
  suffices preserved : ∀ past engine event, holds past engine → engine.Spares event →
      holds (past ++ [(engine.live event).2]) (engine.live event).1 from history_invariant preserved guarded initial
  · intro past engine event sofar spares
    obtain ⟨stays, unselected⟩ := sofar
    cases event with
    | operation operation =>
      have free : ∀ call, engine.Calls operation call → call.SparesRetired engine.config.limits := by
        intro call calls
        rcases spares with reasons | free
        · exact call.sparesRetired reasons
        · exact free call calls
      refine ⟨stays.step free, fun reply member => ?_⟩
      rcases List.mem_append.mp member with before | last
      · exact unselected reply before
      · rw [List.mem_singleton.mp last]
        exact fun authority handed => Engine.step_unselected stays.retired free handed
    | restart config =>
      refine ⟨stays.restart config, fun reply member => ?_⟩
      rcases List.mem_append.mp member with before | last
      · exact unselected reply before
      · rw [List.mem_singleton.mp last, Engine.live_restart_envelope]
        exact fun authority handed => nomatch handed

namespace Bench

/-- A request that takes whatever evidence there is. -/
def undemanding : ScheduleRequest :=
  { request 5 1 with requirements := [{ name := ascii "slot", requireCurrentEvidence := false }] }

/-- The bench is about to be retired, by an engine that keeps so many rejection reasons. -/
def retiring (reasons : UInt32) : Engine :=
  (Engine.fresh { limits := { maxRejectionReasonsPerEntry := reasons } }).runs [.registerResource advertisement]

end Bench

theorem retirement_final_bench :
    ((Bench.retiring 1).step (.retireResource ⟨7⟩ {})).1.state.Retired ⟨7⟩ ∧
      ((((Bench.retiring 1).step (.retireResource ⟨7⟩ {})).1.lives
        [.restart {}, .operation (.submitRequest Bench.undemanding)]).state.Retired ⟨7⟩) := by
  have retired : ∃ record, ((Bench.retiring 1).step (.retireResource ⟨7⟩ {})).2 = .resource (.ok record) := ⟨_, rfl⟩
  obtain ⟨record, retired⟩ := retired
  constructor
  · have unguarded : Guarded Engine.live Engine.Spares ((Bench.retiring 1).step (.retireResource ⟨7⟩ {})).1 [] := trivial
    exact (retirement_final retired unguarded).1.retired
  · have guarded : Guarded Engine.live Engine.Spares ((Bench.retiring 1).step (.retireResource ⟨7⟩ {})).1
        [.restart {}, .operation (.submitRequest Bench.undemanding)] := ⟨trivial, .inl (by decide +kernel), trivial⟩
    exact (retirement_final retired guarded).1.retired

/-- Where no rejection reason is kept, a retired resource is booked. -/
theorem retired_resource_placed :
    let retired := (Bench.retiring 0).step (.retireResource ⟨7⟩ {})
    let placed := retired.1.step (.submitRequest Bench.undemanding)
    retired.1.state.Retired ⟨7⟩ ∧ ¬ placed.1.state.Retired ⟨7⟩ ∧
      ∃ placement ∈ placed.1.state.placements.entries, ∃ selected ∈ placement.resources, selected.resource = ⟨7⟩ := by
  intro retired placed
  have accepted : ∃ record, (retireResource (Bench.retiring 0).state (Bench.retiring 0).config ⟨7⟩ {}).2 =
      .ok record := ⟨_, rfl⟩
  obtain ⟨record, accepted⟩ := accepted
  have booked : (placed.1.state.resources.find? ⟨7⟩).map ResourceRecord.reservedSlots = some 1 := by decide +kernel
  refine ⟨retireResource_retired accepted, fun stays => ?_, by decide +kernel⟩
  obtain ⟨later, found, -, -, unreserved⟩ := stays
  rw [found, Option.map_some, unreserved] at booked
  cases booked

end LabScheduler
