import LabScheduler.Engine.Calls

namespace LabScheduler

open Foundation

/-- What scheduling reads of a state: all but the workers and the audit log. -/
def SchedulerState.outline (state : SchedulerState) : SchedulerState :=
  { state with workers := Table.empty, audit := [], auditSequence := 0, workerSequence := 0 }

section Outline

variable (state : SchedulerState) (config : EngineConfig) (ids : IdGenerator)

theorem pushAudit_outline (kind detail : Text) : (pushAudit state config kind detail).outline = state.outline := rfl

theorem searchRecursive_outline (request : ScheduleRequest) (limits : Limits) (bound : Int)
    (plans : List RequirementPlan) (partialScore : Int) (current : List CandidateResource) (outcome : SearchOutcome) :
    searchRecursive state.outline request limits bound plans partialScore current outcome =
      searchRecursive state request limits bound plans partialScore current outcome := by
  induction plans generalizing partialScore current outcome with
  | nil => rfl
  | cons plan rest ih =>
    unfold searchRecursive
    simp only [ih]

theorem searchPlacements_outline (request : ScheduleRequest) (limits : Limits) (plans : List RequirementPlan) :
    searchPlacements state.outline request limits plans = searchPlacements state request limits plans :=
  searchRecursive_outline ..

/-- The state a call leaves, up to the audit log, is that of a call on the outline. -/
structure SameScheduled (left right : Scheduled) : Prop where
  state : left.state.outline = right.state.outline
  ids : left.ids = right.ids
  result : left.result = right.result

theorem commitPlacement_outline (stored : StoredRequest) (generation : PlacementGeneration) (reassignments : UInt32)
    (explanation : Explanation) (ranked : List RankingCandidate) (best : RankingCandidate) :
    SameScheduled (commitPlacement state.outline config ids stored generation reassignments explanation ranked best)
      (commitPlacement state config ids stored generation reassignments explanation ranked best) := by
  unfold commitPlacement
  extract_lets request
  have same : commitLoop state.outline.resources (best.selection.zip request.requirements) =
    commitLoop state.resources (best.selection.zip request.requirements) := rfl
  rw [same]
  obtain ⟨resources, taken⟩ := commitLoop state.resources (best.selection.zip request.requirements)
  cases taken with
  | error status => exact ⟨rfl, rfl, rfl⟩
  | ok both =>
    refine ⟨?_, rfl, rfl⟩
    simp only [pushAudit_outline, installPlacement, serveTenant]
    split <;> rfl

theorem scheduleLocked_outline (stored : StoredRequest) (generation : PlacementGeneration) (reassignments : UInt32) :
    SameScheduled (scheduleLocked state.outline config ids stored generation reassignments)
      (scheduleLocked state config ids stored generation reassignments) := by
  have plans (request : ScheduleRequest) (limits : Limits) :
    buildPlans state.outline request limits = buildPlans state request limits := rfl
  have notes : shutdownNotes state.outline = shutdownNotes state := rfl
  have truncation (request : ScheduleRequest) (limits : Limits) :
    truncationNotes state.outline request limits = truncationNotes state request limits := rfl
  have bounds (limits : Limits) : checkCommitBounds state.outline limits = checkCommitBounds state limits := rfl
  unfold scheduleLocked
  simp only [plans, notes, truncation, bounds, searchPlacements_outline]
  split
  · exact ⟨rfl, rfl, rfl⟩
  · split
    · exact ⟨rfl, rfl, rfl⟩
    · split
      · exact ⟨rfl, rfl, rfl⟩
      · exact commitPlacement_outline ..

theorem submitRequest_outline (request : ScheduleRequest) :
    (submitRequest state.outline config ids request).state.outline = (submitRequest state config ids request).state.outline ∧
      (submitRequest state.outline config ids request).ids = (submitRequest state config ids request).ids ∧
      (submitRequest state.outline config ids request).result = (submitRequest state config ids request).result := by
  have checks (request : ScheduleRequest) :
    submitChecks state.outline config request = submitChecks state config request := rfl
  have stored (request : ScheduleRequest) : submittedRequest state.outline request = submittedRequest state request := rfl
  unfold submitRequest
  simp only [checks, stored]
  generalize normalizeScheduleRequest request = normalized
  split
  · exact ⟨rfl, rfl, rfl⟩
  · -- Both calls start from states with one outline.
    have first := scheduleLocked_outline (admitRequest state.outline config normalized) config ids
      (submittedRequest state normalized) {} 0
    have second := scheduleLocked_outline (admitRequest state config normalized) config ids
      (submittedRequest state normalized) {} 0
    have same : (admitRequest state.outline config normalized).outline = (admitRequest state config normalized).outline :=
      rfl
    rw [same] at first
    exact ⟨first.state.symm.trans second.state, first.ids.symm.trans second.ids, first.result.symm.trans second.result⟩

end Outline

/-- Two engines that differ at most in their workers and their audit logs. -/
structure SameOutline (left right : Engine) : Prop where
  config : left.config = right.config
  ids : left.ids = right.ids
  state : left.state.outline = right.state.outline

theorem SameOutline.submit {left right : Engine} (same : SameOutline left right) (request : ScheduleRequest) :
    SameOutline (left.step (.submitRequest request)).1 (right.step (.submitRequest request)).1 ∧
      (left.step (.submitRequest request)).2 = (right.step (.submitRequest request)).2 := by
  obtain ⟨leftConfig, leftIds, leftState⟩ := left
  obtain ⟨rightConfig, rightIds, rightState⟩ := right
  obtain ⟨config, ids, state⟩ := same
  cases config
  cases ids
  have state : leftState.outline = rightState.outline := state
  obtain ⟨outline, drawn, result⟩ := submitRequest_outline leftState leftConfig leftIds request
  obtain ⟨outline', drawn', result'⟩ := submitRequest_outline rightState leftConfig leftIds request
  rw [state] at outline drawn result
  exact ⟨⟨rfl, drawn.symm.trans drawn', outline.symm.trans outline'⟩,
    congrArg Reply.decision (result.symm.trans result')⟩

theorem SameOutline.replies {left right : Engine} (same : SameOutline left right) (requests : List ScheduleRequest) :
    replies Engine.step left (requests.map .submitRequest) = replies Engine.step right (requests.map .submitRequest) := by
  induction requests generalizing left right with
  | nil => rfl
  | cons request rest ih =>
    obtain ⟨next, answer⟩ := same.submit request
    exact congrArg₂ List.cons answer (ih next)

/-- The state once the advertisements of `done` are registered with a fresh engine. -/
structure Registered (limits : Limits) (done : List ResourceAdvertisement) (state : SchedulerState) : Prop where
  outline : state.outline = { epoch := ⟨1⟩, resources := state.resources }
  resources : ∀ record, record ∈ state.resources.entries ↔ ∃ advertisement ∈ done,
    validateResourceRecord record limits = .ok () ∧
      record = registeredRecord ⟨1⟩ (normalizeAdvertisement advertisement)
  size : state.resources.size ≤ done.length
  workers : ∀ worker ∈ state.workers.entries, ∃ advertisement ∈ done,
    advertisement.worker = worker.id ∧ advertisement.boot = worker.boot

namespace Registered

variable {config : EngineConfig} {done : List ResourceAdvertisement} {state : SchedulerState}
  {advertisement : ResourceAdvertisement}

theorem adopt (registered : Registered config.limits done state)
    (boots : ∀ earlier ∈ done, earlier.worker = advertisement.worker → earlier.boot = advertisement.boot) :
    (adoptOwner state config (normalizeAdvertisement advertisement)).outline = state.outline ∧
      ∀ worker ∈ (adoptOwner state config (normalizeAdvertisement advertisement)).workers.entries,
        ∃ other ∈ done ++ [advertisement], other.worker = worker.id ∧ other.boot = worker.boot := by
  have earlier : ∀ worker ∈ state.workers.entries, ∃ other ∈ done ++ [advertisement],
      other.worker = worker.id ∧ other.boot = worker.boot := by
    intro worker member
    obtain ⟨other, there, same⟩ := registered.workers worker member
    exact ⟨other, List.mem_append_left _ there, same⟩
  have own : advertisement ∈ done ++ [advertisement] := by simp
  unfold adoptOwner
  split
  · exact ⟨rfl, earlier⟩
  · unfold adoptWorkerIncarnation
    split
    · refine ⟨rfl, fun worker member => ?_⟩
      rcases Table.mem_emplace member with rfl | there
      · exact ⟨advertisement, own, rfl, rfl⟩
      · exact earlier worker there
    · rename_i record found
      have known := Table.mem_of_find? found
      obtain ⟨other, there, owner, boot⟩ := registered.workers record known
      have named : record.id = advertisement.worker := Table.key_of_find? found
      have same : record.boot = advertisement.boot := boot.symm.trans (boots other there (owner.trans named))
      have same : record.boot = (normalizeAdvertisement advertisement).boot := same
      rw [if_pos same]
      refine ⟨rfl, fun worker member => ?_⟩
      rcases Table.mem_set.mp member with rfl | ⟨there, -⟩
      · exact earlier record known
      · exact earlier worker there

theorem register (registered : Registered config.limits done state)
    (valid : validateAdvertisement advertisement config.limits = .ok ())
    (room : done.length < config.limits.maxResources.toNat)
    (fresh : ∀ earlier ∈ done, earlier.id ≠ advertisement.id)
    (boots : ∀ earlier ∈ done, earlier.worker = advertisement.worker → earlier.boot = advertisement.boot) :
    Registered config.limits (done ++ [advertisement]) (registerResource state config advertisement).1 := by
  have open_ : state.shuttingDown = false := by
    have same := congrArg SchedulerState.shuttingDown registered.outline
    exact same
  have absent : state.resources.find? advertisement.id = none := by
    apply Option.eq_none_iff_forall_not_mem.mpr
    intro record found
    obtain ⟨earlier, there, -, made⟩ := (registered.resources record).mp (Table.mem_of_find? found)
    have named := ResourceTable.id_of_find? found
    rw [made] at named
    exact fresh earlier there named
  have size := registered.size
  have checks : registerChecks state config advertisement = .ok () := by
    simp only [registerChecks, check_bind_ok, check_ok]
    exact ⟨valid, open_, by omega, absent⟩
  obtain ⟨outline, workers⟩ := registered.adopt boots
  unfold registerResource
  simp only [checks]
  generalize adoptOwner state config (normalizeAdvertisement advertisement) = mid at outline workers
  have resources : mid.resources = state.resources := by
    have same := congrArg SchedulerState.resources outline
    exact same
  have epoch : mid.epoch = ⟨1⟩ := by
    have same := congrArg SchedulerState.epoch (outline.trans registered.outline)
    exact same
  have written : registeredRecord mid.epoch (normalizeAdvertisement advertisement) =
      registeredRecord ⟨1⟩ (normalizeAdvertisement advertisement) := by rw [epoch]
  generalize registeredRecord mid.epoch (normalizeAdvertisement advertisement) = record at written
  have longer : (done ++ [advertisement]).length = done.length + 1 := by simp
  split
  · rename_i refused
    constructor
    · rw [outline, resources]
      exact registered.outline
    · intro record
      rw [resources, registered.resources]
      constructor
      · intro known
        obtain ⟨earlier, there, rest⟩ := known
        exact ⟨earlier, List.mem_append_left _ there, rest⟩
      · intro known
        obtain ⟨earlier, there, passed, made⟩ := known
        rcases List.mem_append.mp there with before | last
        · exact ⟨earlier, before, passed, made⟩
        · cases List.mem_singleton.mp last
          rw [made, ← written, refused] at passed
          cases passed
    · rw [resources, longer]
      omega
    · exact workers
  · rename_i passed
    have free : mid.resources.find? record.id = none := by
      rw [resources, written]
      exact absent
    have added : mid.resources.emplace record = mid.resources.set record := Table.emplace_fresh free
    constructor
    · have core := outline.trans registered.outline
      have after : ({ mid with resources := mid.resources.emplace record } : SchedulerState).outline =
          { mid.outline with resources := mid.resources.emplace record } := rfl
      refine after.trans ?_
      rw [core]
      rfl
    · intro other
      change other ∈ (mid.resources.emplace record).entries ↔ _
      rw [added, Table.mem_set, resources, registered.resources]
      constructor
      · intro known
        rcases known with rfl | ⟨⟨earlier, there, rest⟩, -⟩
        · exact ⟨advertisement, by simp, passed, written⟩
        · exact ⟨earlier, List.mem_append_left _ there, rest⟩
      · intro known
        obtain ⟨earlier, there, accepted, made⟩ := known
        rcases List.mem_append.mp there with before | last
        · refine .inr ⟨⟨earlier, before, accepted, made⟩, ?_⟩
          rw [made, written]
          exact fresh earlier before
        · cases List.mem_singleton.mp last
          exact .inl (made.trans written.symm)
    · have grown : (mid.resources.emplace record).size ≤ mid.resources.size + 1 := Table.size_emplace_le ..
      rw [longer]
      change (mid.resources.emplace record).size ≤ done.length + 1
      rw [resources] at grown ⊢
      omega
    · exact workers

theorem runs {advertisements : List ResourceAdvertisement} {engine : Engine}
    (registered : Registered engine.config.limits done engine.state)
    (valid : ∀ advertisement ∈ advertisements, validateAdvertisement advertisement engine.config.limits = .ok ())
    (distinct : ((done ++ advertisements).map fun advertisement => advertisement.id).Nodup)
    (bounded : (done ++ advertisements).length ≤ engine.config.limits.maxResources.toNat)
    (boots : ∀ a ∈ done ++ advertisements, ∀ b ∈ done ++ advertisements, a.worker = b.worker → a.boot = b.boot) :
    (engine.runs (advertisements.map .registerResource)).config = engine.config ∧
      (engine.runs (advertisements.map .registerResource)).ids = engine.ids ∧
      Registered engine.config.limits (done ++ advertisements)
        (engine.runs (advertisements.map .registerResource)).state := by
  induction advertisements generalizing engine done with
  | nil => exact ⟨rfl, rfl, by simpa using registered⟩
  | cons advertisement rest ih =>
    have regroup : done ++ advertisement :: rest = (done ++ [advertisement]) ++ rest := by simp
    have own : advertisement ∈ done ++ advertisement :: rest := by simp
    have room : done.length < engine.config.limits.maxResources.toNat := by
      rw [List.length_append, List.length_cons] at bounded
      omega
    have fresh : ∀ earlier ∈ done, earlier.id ≠ advertisement.id := by
      intro earlier there
      rw [List.map_append, List.nodup_append] at distinct
      exact distinct.2.2 _ (List.mem_map_of_mem there) _ (by simp)
    have agree : ∀ earlier ∈ done, earlier.worker = advertisement.worker → earlier.boot = advertisement.boot :=
      fun earlier there => boots earlier (List.mem_append_left _ there) advertisement own
    have next := registered.register (valid advertisement List.mem_cons_self) room fresh agree
    rw [regroup] at distinct bounded boots ⊢
    exact @ih (done ++ [advertisement]) (engine.step (.registerResource advertisement)).1 next
      (fun other there => valid other (List.mem_cons_of_mem _ there)) distinct bounded boots

theorem same_resources {limits : Limits} {permuted : List ResourceAdvertisement} {other : SchedulerState}
    (registered : Registered limits done state) (again : Registered limits permuted other)
    (perm : done.Perm permuted) : state.resources = other.resources := by
  apply Table.ext_of_mem
  intro record
  rw [registered.resources, again.resources]
  simp only [perm.mem_iff]

end Registered

/-- Whatever the order in which they are registered, the resources are the same, and so is every answer to the
    requests submitted from then on. -/
theorem registration_order_independent {config : EngineConfig} {advertisements permuted : List ResourceAdvertisement}
    (distinct : (advertisements.map fun advertisement => advertisement.id).Nodup)
    (valid : ∀ advertisement ∈ advertisements, validateAdvertisement advertisement config.limits = .ok ())
    (boots : ∀ a ∈ advertisements, ∀ b ∈ advertisements, a.worker = b.worker → a.boot = b.boot)
    (bounded : advertisements.length ≤ config.limits.maxResources.toNat) (perm : advertisements.Perm permuted)
    (requests : List ScheduleRequest) :
    let first := (Engine.fresh config).runs (advertisements.map .registerResource)
    let second := (Engine.fresh config).runs (permuted.map .registerResource)
    first.state.resources = second.state.resources ∧
      replies Engine.step first (requests.map .submitRequest) =
        replies Engine.step second (requests.map .submitRequest) := by
  intro first second
  have initial : Registered config.limits [] (Engine.fresh config).state :=
    ⟨rfl, fun record => by simp [Engine.fresh, Table.empty], Nat.le_refl _, fun worker member => absurd member List.not_mem_nil⟩
  obtain ⟨configs, drawn, registered⟩ :=
    @Registered.runs [] advertisements (Engine.fresh config) initial valid distinct bounded boots
  have valid' : ∀ advertisement ∈ permuted, validateAdvertisement advertisement config.limits = .ok () :=
    fun advertisement member => valid advertisement (perm.mem_iff.mpr member)
  have distinct' : (permuted.map fun advertisement => advertisement.id).Nodup :=
    (perm.map _).nodup_iff.mp distinct
  have bounded' : permuted.length ≤ config.limits.maxResources.toNat := perm.length_eq ▸ bounded
  have boots' : ∀ a ∈ permuted, ∀ b ∈ permuted, a.worker = b.worker → a.boot = b.boot :=
    fun a here b there => boots a (perm.mem_iff.mpr here) b (perm.mem_iff.mpr there)
  obtain ⟨configs', drawn', registered'⟩ :=
    @Registered.runs [] permuted (Engine.fresh config) initial valid' distinct' bounded' boots'
  have resources : first.state.resources = second.state.resources := registered.same_resources registered' perm
  refine ⟨resources, SameOutline.replies ⟨configs.trans configs'.symm, drawn.trans drawn'.symm, ?_⟩ requests⟩
  have same := registered.outline
  have same' := registered'.outline
  rw [same, same', resources]

/-- The bench, two resources of one worker, and one of another. -/
def Bench.pool : List ResourceAdvertisement :=
  [advertisement, { advertisement with id := ⟨8⟩, worker := ⟨21⟩, boot := ⟨1⟩ },
    { advertisement with id := ⟨9⟩, worker := ⟨21⟩, boot := ⟨1⟩ },
    { advertisement with id := ⟨10⟩, worker := ⟨22⟩, boot := ⟨3⟩ }]

theorem registration_order_independent_bench :
    let first := (Engine.fresh {}).runs (Bench.pool.map .registerResource)
    let second := (Engine.fresh {}).runs (Bench.pool.reverse.map .registerResource)
    let requests := [Bench.request 5 1, Bench.request 6 2]
    first.state.resources = second.state.resources ∧
      replies Engine.step first (requests.map .submitRequest) =
        replies Engine.step second (requests.map .submitRequest) :=
  @registration_order_independent {} Bench.pool Bench.pool.reverse (by decide) (by decide) (by decide) (by decide)
    Bench.pool.reverse_perm.symm _

end LabScheduler
