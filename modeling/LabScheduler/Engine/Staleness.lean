import LabScheduler.Engine.Explaining
import LabScheduler.Engine.Rebuilt
import LabScheduler.Engine.Soundness

namespace LabScheduler

open Foundation

/-- The reasons that say the evidence of a resource is stale. -/
def stalenessReasons : List RejectReason :=
  [.workerIncarnationStale, .evidenceNotAuthoritative, .evidenceStale, .resourceRetired]

theorem mapRejectReason_stale {reason : RejectReason} :
    mapRejectReason reason = .staleResource ↔ reason ∈ stalenessReasons := by
  cases reason <;> decide

theorem reasonPriority_stale {stale other : RejectReason} (member : stale ∈ stalenessReasons)
    (outside : other ∉ stalenessReasons) : reasonPriority stale < reasonPriority other := by
  have low : reasonPriority stale ≤ 3 := by
    cases stale <;> first | exact absurd member (by decide) | decide
  have high : 4 ≤ reasonPriority other := by
    cases other <;> first | exact absurd (by decide) outside | decide
  omega

theorem mem_all (reason : RejectReason) : reason ∈ RejectReason.all := by
  cases reason <;> decide

section Dominant

variable {counts : ReasonCounts}

/-- `best` is counted no less than anything in `seen`, and no worse at an equal count. -/
structure Best (counts : ReasonCounts) (best : RejectReason × UInt32) (seen : List RejectReason) : Prop where
  counted : best.2 = counts best.1
  above : ∀ reason ∈ seen, counts reason ≤ counts best.1
  before : ∀ reason ∈ seen, counts reason = counts best.1 → counts reason ≠ 0 →
    reasonPriority best.1 ≤ reasonPriority reason

def betterReason (counts : ReasonCounts) (best : RejectReason × UInt32) (reason : RejectReason) :
    RejectReason × UInt32 :=
  if best.2 < counts reason ∨
      (counts reason = best.2 ∧ best.1 ≠ .none ∧ reasonPriority reason < reasonPriority best.1) then
    (reason, counts reason)
  else best

theorem dominantReason_fold (counts : ReasonCounts) :
    dominantReason counts = (RejectReason.all.foldl (betterReason counts) (.none, 0)).1 := rfl

theorem Best.step (unnamed : counts .none = 0) {best : RejectReason × UInt32} {seen : List RejectReason}
    (sofar : Best counts best seen) (reason : RejectReason) :
    Best counts (betterReason counts best reason) (seen ++ [reason]) := by
  unfold betterReason
  split
  · rename_i better
    have atLeast : counts best.1 ≤ counts reason := by
      rw [← sofar.counted]
      rcases better with more | ⟨same, -⟩
      · exact UInt32.le_of_lt more
      · exact UInt32.le_of_eq same.symm
    refine ⟨rfl, fun other member => ?_, fun other member same counted => ?_⟩
    · rcases List.mem_append.mp member with earlier | last
      · exact UInt32.le_trans (sofar.above other earlier) atLeast
      · cases List.mem_singleton.mp last
        exact UInt32.le_refl _
    · rcases List.mem_append.mp member with earlier | last
      · have below := sofar.above other earlier
        have tied : counts reason = best.2 := by
          rw [sofar.counted]
          exact UInt32.le_antisymm (same ▸ below) atLeast
        rcases better with more | ⟨-, -, ahead⟩
        · exact absurd (tied ▸ more) (UInt32.lt_irrefl _)
        · have among := sofar.before other earlier (same.trans (tied.trans sofar.counted)) counted
          exact Nat.le_trans (Nat.le_of_lt ahead) among
      · cases List.mem_singleton.mp last
        exact Nat.le_refl _
  · rename_i worse
    rw [not_or, UInt32.not_lt] at worse
    obtain ⟨under, behind⟩ := worse
    refine ⟨sofar.counted, fun other member => ?_, fun other member same counted => ?_⟩
    · rcases List.mem_append.mp member with earlier | last
      · exact sofar.above other earlier
      · cases List.mem_singleton.mp last
        exact sofar.counted ▸ under
    · rcases List.mem_append.mp member with earlier | last
      · exact sofar.before other earlier same counted
      · cases List.mem_singleton.mp last
        by_contra ahead
        refine behind ⟨same.trans sofar.counted.symm, fun none => counted ?_, Nat.lt_of_not_le ahead⟩
        rw [same, none, unnamed]

theorem Best.fold (unnamed : counts .none = 0) {best : RejectReason × UInt32} {seen reasons : List RejectReason}
    (sofar : Best counts best seen) : Best counts (reasons.foldl (betterReason counts) best) (seen ++ reasons) := by
  induction reasons generalizing best seen with
  | nil => simpa using sofar
  | cons reason rest ih =>
    have next := ih (sofar.step unnamed reason)
    rwa [List.append_assoc, List.singleton_append] at next

theorem dominantReason_best (unnamed : counts .none = 0) (reason : RejectReason) :
    counts reason ≤ counts (dominantReason counts) ∧
      (counts reason = counts (dominantReason counts) → counts reason ≠ 0 →
        reasonPriority (dominantReason counts) ≤ reasonPriority reason) := by
  have start : Best counts (.none, 0) [] :=
    ⟨unnamed.symm, fun _ none => absurd none List.not_mem_nil, fun _ none => absurd none List.not_mem_nil⟩
  have best : Best counts _ ([] ++ RejectReason.all) := start.fold unnamed
  rw [dominantReason_fold]
  exact ⟨best.above reason (mem_all reason), best.before reason (mem_all reason)⟩

/-- The failure is staleness as soon as a staleness reason is counted, and no other reason more often. -/
theorem dominantReason_stale (unnamed : counts .none = 0) (some : ∃ reason ∈ stalenessReasons, counts reason ≠ 0) :
    mapRejectReason (dominantReason counts) = .staleResource ↔
      ∃ reason ∈ stalenessReasons, ∀ other ∉ stalenessReasons, counts other ≤ counts reason := by
  rw [mapRejectReason_stale]
  constructor
  · intro stale
    exact ⟨dominantReason counts, stale, fun other _ => (dominantReason_best unnamed other).1⟩
  · rintro ⟨reason, stale, most⟩
    by_contra outside
    obtain ⟨present, member, counted⟩ := some
    obtain ⟨above, tie⟩ := dominantReason_best unnamed reason
    have tied : counts reason = counts (dominantReason counts) := UInt32.le_antisymm above (most _ outside)
    have positive : counts reason ≠ 0 := by
      intro zero
      have below := (dominantReason_best unnamed present).1
      rw [← tied, zero] at below
      exact counted (UInt32.le_zero_iff.mp below)
    have first := reasonPriority_stale stale outside
    exact absurd (tie tied positive) (Nat.not_le_of_lt first)

end Dominant

section Counts

theorem increment_fold (counts : ReasonCounts) (reasons : List RejectReason) (reason : RejectReason) :
    reasons.foldl ReasonCounts.increment counts reason = counts reason + UInt32.ofNat (reasons.count reason) := by
  induction reasons generalizing counts with
  | nil => simp
  | cons first rest ih =>
    rw [List.foldl_cons, ih, List.count_cons, UInt32.ofNat_add, ReasonCounts.increment]
    by_cases same : reason = first
    · subst same
      simp only [if_true, beq_self_eq_true]
      rw [UInt32.add_assoc, UInt32.add_comm 1]
      rfl
    · simp [same, Ne.symm same]

theorem countReasons_eq (eligibilities : List Eligibility) (reason : RejectReason) :
    countReasons eligibilities reason =
      UInt32.ofNat ((eligibilities.flatMap Eligibility.reasons).count reason) := by
  have flat : countReasons eligibilities =
      (eligibilities.flatMap Eligibility.reasons).foldl ReasonCounts.increment fun _ => 0 := by
    rw [List.foldl_flatMap]
    rfl
  rw [flat, increment_fold, UInt32.zero_add]

variable {request : ScheduleRequest} {requirement : ResourceRequirement} {resource : ResourceRecord}
  {limits : Limits}

theorem reject_recorded (eligibility : Eligibility) (reason : RejectReason) (maximum : UInt32) :
    (reject eligibility reason maximum).reasons.Sublist (eligibility.reasons ++ [reason]) := by
  unfold reject
  split
  · exact List.Sublist.refl _
  · exact List.sublist_append_left _ _

theorem runTests_recorded (tests : List (Bool × RejectReason)) (maximum : UInt32) (eligibility : Eligibility) :
    (runTests tests maximum eligibility).reasons.Sublist
      (eligibility.reasons ++ (tests.filter Prod.fst).map Prod.snd) := by
  induction tests generalizing eligibility with
  | nil => simp [runTests]
  | cons test rest ih =>
    have later := ih (applyTest maximum eligibility test)
    refine later.trans ?_
    unfold applyTest
    split
    · rename_i fails
      rw [List.filter_cons_of_pos fails, List.map_cons, List.append_cons]
      exact (reject_recorded ..).append_right _
    · rename_i passes
      rw [List.filter_cons_of_neg passes]

theorem classSpecificReason_mild {reason : RejectReason}
    (fails : classSpecificReason resource requirement = some reason) :
    reason ∉ stalenessReasons ∧ reason ≠ .none := by
  unfold classSpecificReason modelReason gpuReason simulatorReason datasetReason physicalEnvironmentReason
    virtualEnvironmentReason at fails
  repeat' split at fails
  all_goals cases fails <;> decide

/-- The reasons of the tests that a resource fails. -/
def failedReasons (request : ScheduleRequest) (requirement : ResourceRequirement) (resource : ResourceRecord) :
    List RejectReason :=
  ((hardTests request requirement resource).filter Prod.fst).map Prod.snd

theorem evaluateResource_recorded (same : resource.resourceClass = requirement.resourceClass) :
    (evaluateResource request requirement resource limits).reasons.Sublist
      (failedReasons request requirement resource) := by
  have recorded := runTests_recorded (hardTests request requirement resource) limits.maxRejectionReasonsPerEntry {}
  unfold evaluateResource
  extract_lets
  rw [if_neg (not_not.mpr same)]
  split <;> exact recorded

theorem evaluateResource_reasons (same : resource.resourceClass = requirement.resourceClass)
    (rejected : (evaluateResource request requirement resource limits).eligible = false) :
    (evaluateResource request requirement resource limits).reasons ≠ [] := by
  unfold evaluateResource at rejected ⊢
  extract_lets at rejected ⊢
  rw [if_neg (not_not.mpr same)] at rejected ⊢
  split
  · assumption
  · rename_i none
    rw [if_neg none] at rejected
    cases rejected

theorem classSpecificReason_stale {reason : RejectReason} (stale : reason ∈ stalenessReasons) :
    (classSpecificReason resource requirement).getD .none ≠ reason := by
  intro same
  cases fails : classSpecificReason resource requirement with
  | none =>
    rw [← same, fails] at stale
    exact absurd stale (by decide)
  | some specific =>
    rw [← same, fails] at stale
    exact (classSpecificReason_mild fails).1 stale

theorem failedReasons_count (request : ScheduleRequest) (requirement : ResourceRequirement)
    (resource : ResourceRecord) {reason : RejectReason} (stale : reason ∈ stalenessReasons) :
    (failedReasons request requirement resource).count reason ≤ 1 := by
  have other := @classSpecificReason_stale requirement resource reason stale
  have all : (failedReasons request requirement resource).Sublist
      ((hardTests request requirement resource).map Prod.snd) := List.filter_sublist.map _
  refine (all.count_le reason).trans ?_
  simp only [hardTests, List.map_cons, List.map_nil]
  generalize (classSpecificReason resource requirement).getD .none = specific at other
  simp only [stalenessReasons, List.mem_cons, List.not_mem_nil, or_false] at stale
  split <;> split <;> rcases stale with rfl | rfl | rfl | rfl <;>
    simp only [List.count_cons, List.count_nil, beq_iff_eq, reduceCtorEq, other, if_true, if_false, zero_add,
      add_zero, le_refl, Nat.zero_le]

theorem none_not_failed (request : ScheduleRequest) (requirement : ResourceRequirement) (resource : ResourceRecord) :
    RejectReason.none ∉ failedReasons request requirement resource := by
  have named : ∀ test ∈ hardTests request requirement resource, test.1 = true → test.2 ≠ .none := by
    simp only [hardTests, List.forall_mem_cons, List.not_mem_nil, false_implies, implies_true, and_true]
    refine ⟨?_, ?_, ?_, ?_, ?_, ?_, ?_, ?_, ?_, ?_, fun fails => ?specific, ?_, ?_, ?_, ?_⟩
    case specific =>
      obtain ⟨specific, fails⟩ := Option.isSome_iff_exists.mp fails
      rw [fails]
      exact (classSpecificReason_mild fails).2
    all_goals
      intro fails
      first | decide | split <;> decide
  intro member
  obtain ⟨test, failed, same⟩ := List.mem_map.mp member
  obtain ⟨there, fails⟩ := List.mem_filter.mp failed
  exact named test there fails same

end Counts

/-- A number of 32 bits counts the resources. -/
def Sized (state : SchedulerState) : Prop := state.resources.size < 2 ^ 32

namespace Sized

variable {state after : SchedulerState}

theorem within (sized : Sized state)
    (known : ∀ resource ∈ after.resources.entries, resource.id ∈ state.resources.keys) : Sized after := by
  have few := Table.size_le_of_keys known
  rw [Table.keys, List.length_map] at few
  exact Nat.lt_of_le_of_lt few sized

theorem evolve (sized : Sized state)
    (resources : Table.Evolves ResourceRecord.Lapses state.resources after.resources) : Sized after := by
  refine sized.within fun resource member => ?_
  obtain ⟨before, there, same, -⟩ := resources.of_mem member
  exact List.mem_map.mpr ⟨before, there, same⟩

theorem change (change : Change state after) (sized : Sized state) : Sized after :=
  sized.evolve change.resources

theorem write (write : RequestWrite state after) (sized : Sized state) : Sized after := by
  cases write <;> exact sized

theorem register {config : EngineConfig} {advertisement : ResourceAdvertisement} {mid : SchedulerState}
    {record : ResourceRecord} (registers : Registers state config advertisement mid record) :
    Sized { mid with resources := mid.resources.emplace record } := by
  have accepted := registers.accepted
  simp only [registerChecks, check_bind_ok, check_ok] at accepted
  obtain ⟨-, -, room, -⟩ := accepted
  have bound := config.limits.maxResources.toNat_lt
  have adopted : mid.resources.size ≤ state.resources.keys.length := by
    refine Table.size_le_of_keys fun resource member => ?_
    obtain ⟨before, there, same, -⟩ := registers.changes.resources.of_mem member
    exact List.mem_map.mpr ⟨before, there, same⟩
  rw [Table.keys, List.length_map] at adopted
  have grown := Table.size_emplace_le mid.resources record
  unfold Sized
  unfold Table.size at *
  dsimp only at *
  omega

theorem publish {config : EngineConfig} {advertisement : ResourceAdvertisement} {mid : SchedulerState}
    {live : ResourceRecord} (publishes : Publishes state config advertisement mid live) (sized : Sized mid) :
    Sized (publishWrite mid advertisement live) := by
  refine sized.within fun resource member => ?_
  rcases Table.mem_set.mp member with rfl | ⟨there, -⟩
  · exact Table.mem_keys publishes.found
  · exact List.mem_map.mpr ⟨resource, there, rfl⟩

theorem scheduled {config : EngineConfig} {ids : IdGenerator} {stored : StoredRequest}
    {generation : PlacementGeneration} {reassignments : UInt32} {scheduled : Scheduled}
    (result : ScheduleResult state config ids stored generation reassignments scheduled)
    (sized : Sized state) : Sized scheduled.state := by
  obtain ⟨turns, selected, claims, booked⟩ := result.booked
  refine sized.within fun resource member => ?_
  obtain ⟨before, there, reserved, rfl⟩ := booked.of_mem member
  exact List.mem_map.mpr ⟨before, there, rfl⟩

theorem recover {durable : DurableState} (rebuilt : Rebuilt durable state after)
    (valid : validateDurableState durable = .ok ()) : Sized after := by
  simp only [validateDurableState, check_bind_ok, check_ok] at valid
  obtain ⟨-, -, ⟨few, -⟩, -⟩ := valid
  have bound := durable.limits.maxPersistenceRecords.toNat_lt
  have size : after.resources.size ≤ (durable.resources.map fun resource => resource.id).length := by
    refine Table.size_le_of_keys fun resource member => ?_
    obtain ⟨persisted, there, rfl⟩ := rebuilt.resources resource member
    exact List.mem_map.mpr ⟨persisted, there, (recoveredResource_id ..).symm⟩
  rw [List.length_map] at size
  exact Nat.lt_of_le_of_lt (Nat.le_trans size few) bound

theorem step {engine : Engine} (operation : Operation) (sized : Sized engine.state) :
    Sized (engine.step operation).1.state := by
  refine Engine.step_preserves Sized.change Sized.write ?_ ?_ ?_ ?_ sized
  · intro advertisement mid record _ registers _
    exact .register registers
  · intro advertisement mid live _ publishes sized
    exact sized.publish publishes
  · intro call _ sized
    exact sized.scheduled scheduleLocked_result
  · intro durable _ accepted
    exact Sized.recover (rebuildState_rebuilt accepted) (importChecks_ok accepted).1

theorem runs (config : EngineConfig) (operations : List Operation) :
    Sized ((Engine.fresh config).runs operations).state := by
  have empty : Sized (Engine.fresh config).state := Nat.two_pow_pos 32
  exact Engine.runs_always (fun _ operation sofar => Sized.step operation sofar) empty

end Sized

/-- How often a reason is recorded over the rejected resources of a requirement, in the 32 bits of its count. -/
def recordedCount (state : SchedulerState) (request : ScheduleRequest) (limits : Limits)
    (requirement : ResourceRequirement) (reason : RejectReason) : UInt32 :=
  UInt32.ofNat (((rejectedResources state request limits requirement).flatMap fun resource =>
    (evaluateResource request requirement resource limits).reasons).count reason)

section Recorded

variable {state : SchedulerState} {request : ScheduleRequest} {limits : Limits} {requirement : ResourceRequirement}

theorem buildPlan_reasonCounts :
    (buildPlan state request limits requirement).reasonCounts = recordedCount state request limits requirement := by
  funext reason
  unfold buildPlan recordedCount
  dsimp only
  rw [countReasons_eq, List.flatMap_map]

theorem mem_rejectedResources {resource : ResourceRecord} :
    resource ∈ rejectedResources state request limits requirement ↔ resource ∈ state.resources.entries ∧
      resource.resourceClass = requirement.resourceClass ∧
      (evaluateResource request requirement resource limits).eligible = false := by
  unfold rejectedResources relevantResources
  simp only [List.mem_filter, beq_iff_eq, Bool.not_eq_true', and_assoc]

theorem recordedCount_none : recordedCount state request limits requirement .none = 0 := by
  unfold recordedCount
  rw [List.count_eq_zero.mpr]
  · rfl
  · intro recorded
    obtain ⟨resource, member, named⟩ := List.mem_flatMap.mp recorded
    obtain ⟨-, same, -⟩ := mem_rejectedResources.mp member
    exact none_not_failed request requirement resource ((evaluateResource_recorded same).subset named)

theorem recorded_le {resources : List ResourceRecord} {reason : RejectReason} (stale : reason ∈ stalenessReasons)
    (same : ∀ resource ∈ resources, resource.resourceClass = requirement.resourceClass) :
    (resources.flatMap fun resource => (evaluateResource request requirement resource limits).reasons).count reason ≤
      resources.length := by
  induction resources with
  | nil => simp
  | cons resource rest ih =>
    obtain ⟨here, others⟩ := List.forall_mem_cons.mp same
    have recorded : (evaluateResource request requirement resource limits).reasons.Sublist
        (failedReasons request requirement resource) := evaluateResource_recorded here
    have first := recorded.count_le reason
    have once := failedReasons_count request requirement resource stale
    have later := ih others
    rw [List.flatMap_cons, List.count_append, List.length_cons]
    omega

theorem recordedCount_stale (sized : Sized state) {resource : ResourceRecord} {reason : RejectReason}
    (member : resource ∈ rejectedResources state request limits requirement)
    (named : reason ∈ (evaluateResource request requirement resource limits).reasons)
    (stale : reason ∈ stalenessReasons) : recordedCount state request limits requirement reason ≠ 0 := by
  let recorded := (rejectedResources state request limits requirement).flatMap fun resource =>
    (evaluateResource request requirement resource limits).reasons
  have some : 0 < recorded.count reason := List.count_pos_iff.mpr (List.mem_flatMap.mpr ⟨resource, member, named⟩)
  have few : recorded.count reason ≤ (rejectedResources state request limits requirement).length :=
    recorded_le stale fun resource there => (mem_rejectedResources.mp there).2.1
  have among : (rejectedResources state request limits requirement).length ≤ state.resources.size := by
    unfold rejectedResources relevantResources
    exact (List.length_filter_le _ _).trans (List.length_filter_le _ _)
  have small : recorded.count reason < 2 ^ 32 := Nat.lt_of_le_of_lt (few.trans among) sized
  intro zero
  have exact : (UInt32.ofNat (recorded.count reason)).toNat = recorded.count reason :=
    UInt32.toNat_ofNat_of_lt' small
  have none : UInt32.ofNat (recorded.count reason) = 0 := zero
  rw [none] at exact
  exact absurd exact.symm (Nat.ne_of_gt some)

theorem scheduleLocked_blocked {config : EngineConfig} (ids : IdGenerator) {stored : StoredRequest}
    {generation : PlacementGeneration} {reassignments : UInt32}
    (blocked : stored.request.requirements.find? (fun requirement =>
      (buildPlan state stored.request config.limits requirement).candidates.isEmpty) = some requirement) :
    ∃ decision, (scheduleLocked state config ids stored generation reassignments).result = .ok decision ∧
      decision.outcome = .noPlacement ∧ decision.failure = mapRejectReason
        (dominantReason (recordedCount state stored.request config.limits requirement)) := by
  have found : (buildPlans state stored.request config.limits).find? (fun plan => plan.candidates.isEmpty) =
      some (buildPlan state stored.request config.limits requirement) := by
    unfold buildPlans
    rw [List.find?_map]
    exact congrArg (Option.map _) blocked
  unfold scheduleLocked
  simp only [found]
  refine ⟨_, rfl, rfl, ?_⟩
  rw [← buildPlan_reasonCounts]
  rfl

end Recorded

/-- Where a resource is rejected for staleness alone, the blocked requirement is reported as stale exactly when
    no other reason is recorded more often than every staleness reason. -/
theorem staleness_diagnosed_iff {config : EngineConfig} {operations : List Operation} {operation : Operation}
    {call : SchedulingCall} (calls : ((Engine.fresh config).runs operations).Calls operation call)
    {requirement : ResourceRequirement}
    (blocked : call.stored.request.requirements.find? (fun requirement =>
      (buildPlan call.state call.stored.request config.limits requirement).candidates.isEmpty) = some requirement)
    (stale : ∃ resource ∈ rejectedResources call.state call.stored.request config.limits requirement,
      ∀ reason ∈ (evaluateResource call.stored.request requirement resource config.limits).reasons,
        reason ∈ stalenessReasons) (ids : IdGenerator) :
    ∃ decision, (call.scheduled config ids).result = .ok decision ∧ decision.outcome = .noPlacement ∧
      (decision.failure = .staleResource ↔ ∃ reason ∈ stalenessReasons, ∀ other ∉ stalenessReasons,
        recordedCount call.state call.stored.request config.limits requirement other ≤
          recordedCount call.state call.stored.request config.limits requirement reason) := by
  have sized : Sized call.state := calls.preserve Sized.change Sized.write (.runs config operations)
  obtain ⟨resource, member, only⟩ := stale
  obtain ⟨-, same, rejected⟩ := mem_rejectedResources.mp member
  obtain ⟨reason, named⟩ := List.exists_mem_of_ne_nil _ (evaluateResource_reasons same rejected)
  have counted := recordedCount_stale sized member named (only reason named)
  obtain ⟨decision, result, outcome, failure⟩ := scheduleLocked_blocked ids blocked
  refine ⟨decision, result, outcome, ?_⟩
  rw [failure]
  exact dominantReason_stale recordedCount_none ⟨reason, only reason named, counted⟩

namespace Bench

/-- A resource with room for three slots that is retired, and the bench under each other identity. -/
def pensioned (others : List UInt64) : List Operation :=
  [.registerResource { advertisement with capacity := { slots := 8 } }, .retireResource ⟨7⟩ ⟨1⟩] ++
    others.map fun id => .registerResource { advertisement with id := ⟨id⟩ }

def pensionedCall (others : List UInt64) : SchedulingCall :=
  let state := ((Engine.fresh {}).runs (pensioned others)).state
  ⟨admitRequest state {} (normalizeScheduleRequest overask), submittedRequest state (normalizeScheduleRequest overask),
    {}, 0⟩

end Bench

theorem staleness_diagnosed_bench :
    ∃ decision, ((Bench.pensionedCall [8]).scheduled {} {}).result = .ok decision ∧
      decision.outcome = .noPlacement ∧ decision.failure = .staleResource := by
  have accepted : submitChecks ((Engine.fresh {}).runs (Bench.pensioned [8])).state {}
      (normalizeScheduleRequest Bench.overask) = .ok () := by decide
  have calls : ((Engine.fresh {}).runs (Bench.pensioned [8])).Calls (.submitRequest Bench.overask)
      (Bench.pensionedCall [8]) := .submit accepted
  obtain ⟨decision, result, outcome, exactly⟩ :=
    @staleness_diagnosed_iff {} (Bench.pensioned [8]) _ _ calls Bench.threeSlots (by decide) (by decide) {}
  refine ⟨decision, result, outcome, exactly.mpr ⟨.resourceRetired, by decide, fun other _ => ?_⟩⟩
  cases other <;> decide

/-- Two resources that are too small outvote the one that is stale. -/
theorem staleness_outvoted :
    (∃ resource ∈ rejectedResources (Bench.pensionedCall [8, 9]).state Bench.overask {} Bench.threeSlots,
      ∀ reason ∈ (evaluateResource Bench.overask Bench.threeSlots resource {}).reasons,
        reason ∈ stalenessReasons) ∧
      ((Bench.pensionedCall [8, 9]).scheduled {} {}).result.toOption.map
        (fun decision => (decision.outcome, decision.failure)) = some (.noPlacement, .capacityExhausted) := by
  refine ⟨by decide, by decide +kernel⟩

end LabScheduler
