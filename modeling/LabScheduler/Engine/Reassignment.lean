import LabScheduler.Engine.Passes
import LabScheduler.Engine.Currentness

namespace LabScheduler

open Foundation

/-- The placements of each request form a chain: the generation counts the reassignments, no two
    placements share one, and only the newest is live. -/
structure Chained (state : SchedulerState) : Prop where
  budget : ∀ placement ∈ state.placements.entries, ∃ stored,
    state.requests.find? placement.request = some stored ∧
      placement.reassignmentCount ≤ stored.request.maxReassignments
  counted : ∀ placement ∈ state.placements.entries,
    placement.generation.value.toNat = placement.reassignmentCount.toNat + 1
  distinct : ∀ placement ∈ state.placements.entries, ∀ other ∈ state.placements.entries,
    placement.request = other.request → placement.generation = other.generation → placement = other
  newest : ∀ placement ∈ state.placements.entries, placementStateIsLive placement.state →
    ∀ other ∈ state.placements.entries, other.request = placement.request →
      other.generation.value ≤ placement.generation.value

/-- The generation under which `schedule_locked` commits. -/
def committedGeneration (forced : PlacementGeneration) : PlacementGeneration :=
  if forced.isNull then ⟨1⟩ else forced

structure Continues (state : SchedulerState) (stored : StoredRequest) (generation : PlacementGeneration)
    (reassignments : UInt32) : Prop where
  idle : Idle state stored.id
  beyond : ∀ placement ∈ state.placements.entries, placement.request = stored.id →
    placement.generation.value.toNat < (committedGeneration generation).value.toNat
  counted : (committedGeneration generation).value.toNat = reassignments.toNat + 1
  budget : reassignments ≤ stored.request.maxReassignments

namespace Chained

variable {state after : SchedulerState}

theorem evolve (placements : Table.Evolves PlacementRecord.Progresses state.placements after.placements)
    (requests : Table.Extends StoredRequest.Keeps state.requests after.requests) (chained : Chained state) :
    Chained after := by
  refine ⟨fun placement member => ?_, fun placement member => ?_, fun placement member other there same equal => ?_,
    fun placement member live other there same => ?_⟩
  · obtain ⟨before, earlier, -, progresses⟩ := placements.of_mem member
    obtain ⟨stored, found, within⟩ := chained.budget before earlier
    obtain ⟨later, here, kept⟩ := requests.later found
    have kept : later.request = stored.request := kept
    rw [progresses.request, progresses.reassignmentCount]
    exact ⟨later, here, kept ▸ within⟩
  · obtain ⟨before, earlier, -, progresses⟩ := placements.of_mem member
    rw [progresses.generation, progresses.reassignmentCount]
    exact chained.counted before earlier
  · obtain ⟨first, earlier, key, progresses⟩ := placements.of_mem member
    obtain ⟨second, earlier', key', progresses'⟩ := placements.of_mem there
    rw [progresses.request, progresses'.request] at same
    rw [progresses.generation, progresses'.generation] at equal
    have one := chained.distinct first earlier second earlier' same equal
    subst one
    exact Table.eq_of_key_eq member there (key.symm.trans key')
  · obtain ⟨first, earlier, -, progresses⟩ := placements.of_mem member
    obtain ⟨second, earlier', -, progresses'⟩ := placements.of_mem there
    rw [progresses.request, progresses'.request] at same
    rw [progresses.generation, progresses'.generation]
    exact chained.newest first earlier (progresses.live live) second earlier' same

theorem stay (chained : Chained state) (placements : after.placements = state.placements)
    (requests : Table.Extends StoredRequest.Keeps state.requests after.requests) : Chained after :=
  chained.evolve (.of_eq PlacementRecord.Progresses.refl placements) requests

theorem change (change : Change state after) (chained : Chained state) : Chained after :=
  chained.evolve change.placements change.requests.toExtends

theorem write (write : RequestWrite state after) (chained : Chained state) : Chained after := by
  cases write with
  | enroll => exact chained.stay rfl (.emplace StoredRequest.Keeps.refl ..)
  | @rewrite stored rewritten found same =>
    have there : state.requests.find? rewritten.id = some stored := by
      rw [StoredRequest.id, same]
      exact found
    exact chained.stay rfl (Table.Evolves.set StoredRequest.Keeps.refl there same).toExtends

theorem scheduled {config : EngineConfig} {ids : IdGenerator} {stored : StoredRequest}
    {generation : PlacementGeneration} {reassignments : UInt32} {scheduled : Scheduled}
    (result : ScheduleResult state config ids stored generation reassignments scheduled)
    (chained : Chained state) (recorded : state.requests.find? stored.id = some stored)
    (continues : Continues state stored generation reassignments) : Chained scheduled.state := by
  have rewritten {held : StoredRequest} (same : held.request = stored.request) :
      Table.Extends StoredRequest.Keeps state.requests (state.requests.set held) := by
    have there : state.requests.find? held.id = some stored := by
      rw [StoredRequest.id, same]
      exact recorded
    exact (Table.Evolves.set StoredRequest.Keeps.refl there same).toExtends
  cases result with
  | noPlacement => exact chained.stay rfl (rewritten rfl)
  | refused => exact chained
  | broken => exact chained.stay rfl (.refl StoredRequest.Keeps.refl _)
  | @placed selection resources selected claims placement decision after chosen loop committed decided room
      resources_after requests_after placements_after =>
    have made : placement.request = stored.id := by rw [committed]; rfl
    have drawn : placement.generation = committedGeneration generation := by rw [committed]; rfl
    have count : placement.reassignmentCount = reassignments := by rw [committed]; rfl
    let held : StoredRequest :=
      { stored with
        state := .placed
        currentPlacement := placement.id
        placementCount := stored.placementCount + 1
        detail := ascii "placed" }
    have requests : after.requests = state.requests.set held := requests_after
    have kept : Chained { after with placements := state.placements } := by
      refine chained.stay rfl ?_
      change Table.Extends StoredRequest.Keeps state.requests after.requests
      rw [requests]
      exact rewritten rfl
    have key : held.id = placement.request := made.symm
    have apart {other : PlacementRecord} (earlier : other ∈ state.placements.entries)
        (same : other.request = placement.request) :
        other.generation.value.toNat < placement.generation.value.toNat := by
      rw [drawn]
      exact continues.beyond other earlier (same.trans made)
    refine ⟨fun other member => ?_, fun other member => ?_, fun first member second there same equal => ?_,
      fun first member live second there same => ?_⟩
    · rw [placements_after] at member
      rcases Table.mem_emplace member with rfl | earlier
      · refine ⟨held, ?_, ?_⟩
        · rw [requests, Table.find?_set]
          exact if_pos key
        · rw [count]
          exact continues.budget
      · exact kept.budget other earlier
    · rw [placements_after] at member
      rcases Table.mem_emplace member with rfl | earlier
      · rw [drawn, count]
        exact continues.counted
      · exact chained.counted other earlier
    · rw [placements_after] at member there
      rcases Table.mem_emplace member with rfl | earlier
      · rcases Table.mem_emplace there with rfl | earlier'
        · rfl
        · have below := apart earlier' same.symm
          rw [equal] at below
          omega
      · rcases Table.mem_emplace there with rfl | earlier'
        · have below := apart earlier same
          rw [equal] at below
          omega
        · exact chained.distinct first earlier second earlier' same equal
    · rw [placements_after] at member there
      rcases Table.mem_emplace member with rfl | earlier
      · rcases Table.mem_emplace there with rfl | earlier'
        · exact UInt64.le_refl _
        · have below := apart earlier' same
          rw [UInt64.le_iff_toNat_le]
          omega
      · rcases Table.mem_emplace there with rfl | earlier'
        · have closed := continues.idle first earlier (same.symm.trans made)
          rw [closed] at live
          cases live
        · exact chained.newest first earlier live second earlier' same

end Chained

theorem replaceTermination_ends {state : SchedulerState} {record left : PlacementRecord} {target : PlacementState}
    {reason fallback : Text} (found : state.placements.find? record.id = some record)
    (closed : placementStateIsLive target = false)
    (there : (replaceTermination state record target reason fallback).placements.find? record.id = some left) :
    placementStateIsLive left.state = false := by
  by_cases live : placementStateIsLive record.state
  · rw [replaceTermination_live live] at there
    let ended := record.finish target (reasonOr reason fallback) (state.transitionSequence + 1)
    have key : ended.id = record.id := rfl
    change (state.placements.set ended).find? record.id = some left at there
    rw [Table.find?_set, if_pos key] at there
    have same : ended = left := Option.some.inj there
    rw [← same]
    exact closed
  · have finished : placementStateIsLive record.state = false := by simpa using live
    rw [replaceTermination_closed finished, found] at there
    cases there
    exact finished

theorem committedGeneration_bump {generation : PlacementGeneration} {count most : UInt32}
    (counted : generation.value.toNat = count.toNat + 1) (budget : count < most) :
    (committedGeneration generation.bump).value.toNat = count.toNat + 2 ∧ (count + 1).toNat = count.toNat + 1 ∧
      count + 1 ≤ most := by
  have below : count.toNat < most.toNat := UInt32.lt_iff_toNat_lt.mp budget
  have bound := most.toNat_lt
  have value : generation.bump.value.toNat = count.toNat + 2 := by
    change (generation.value + 1).toNat = count.toNat + 2
    rw [UInt64.toNat_add, counted]
    change (count.toNat + 1 + 1) % 2 ^ 64 = count.toNat + 2
    omega
  have next : (count + 1).toNat = count.toNat + 1 := by
    rw [UInt32.toNat_add]
    change (count.toNat + 1) % 2 ^ 32 = count.toNat + 1
    omega
  have named : generation.bump.isNull = false := by
    rw [← Bool.not_eq_true, StrongId.isNull_iff]
    intro null
    rw [null] at value
    change 0 = count.toNat + 2 at value
    omega
  refine ⟨?_, next, ?_⟩
  · rw [committedGeneration, named]
    exact value
  · rw [UInt32.le_iff_toNat_le, next]
    exact below

structure DurableState.Chained (durable : DurableState) : Prop where
  budget : ∀ placement ∈ durable.placements, ∀ stored ∈ durable.requests, stored.id = placement.request →
    placement.reassignmentCount ≤ stored.request.maxReassignments
  counted : ∀ placement ∈ durable.placements,
    placement.generation.value.toNat = placement.reassignmentCount.toNat + 1
  distinct : ∀ placement ∈ durable.placements, ∀ other ∈ durable.placements,
    placement.request = other.request → placement.generation = other.generation → placement = other

/-- A placement that lost its authority is reassigned only while none of its request is newer, and a
    recovery brings chains back. -/
def Engine.ReassignsNewest (engine : Engine) : Operation → Prop
  | .reassignPlacement placement generation epoch _ =>
    ∀ record stored, reassignChecks engine.state placement generation epoch = .ok record →
      record.state = .reassignmentRequired → engine.state.requests.find? record.request = some stored →
      record.reassignmentCount < stored.request.maxReassignments →
      ∀ other ∈ engine.state.placements.entries, other.request = record.request →
        other.generation.value ≤ record.generation.value
  | .importState durable => importChecks engine.state durable = .ok () → durable.Chained
  | _ => True

namespace Chained

variable {engine : Engine} {operation : Operation} {call : SchedulingCall}

theorem replacement {state : SchedulerState} {record : PlacementRecord} {stored : StoredRequest}
    {target : PlacementState} {reason fallback : Text} (chained : Chained state)
    (found : state.placements.find? record.id = some record) (closed : placementStateIsLive target = false)
    (recorded : (replaceTermination state record target reason fallback).requests.find? record.request = some stored)
    (budget : record.reassignmentCount < stored.request.maxReassignments)
    (latest : ∀ other ∈ state.placements.entries, other.request = record.request →
      other.generation.value ≤ record.generation.value) :
    Continues (replaceTermination state record target reason fallback) stored record.generation.bump
      (record.reassignmentCount + 1) := by
  have member := Table.mem_of_find? found
  have named : stored.id = record.request := Table.key_of_find? recorded
  have counted := chained.counted record member
  obtain ⟨value, next, within⟩ := committedGeneration_bump counted budget
  have changes : Changes state (replaceTermination state record target reason fallback) :=
    replaceTermination_changes found closed
  refine ⟨fun placement there made => ?_, fun placement there made => ?_, ?_, within⟩
  · obtain ⟨before, earlier, key, progresses⟩ := changes.placements.of_mem there
    by_contra running
    have live := progresses.live (by simpa using running)
    have same : before.request = record.request := progresses.request.symm.trans (made.trans named)
    -- Only the newest placement was live, and that one has ended.
    have above := chained.newest before earlier live record member same.symm
    have below := latest before earlier same
    have generation : before.generation.value = record.generation.value := UInt64.le_antisymm below above
    have one := chained.distinct before earlier record member same (congrArg StrongId.mk generation)
    subst one
    have here := Table.find?_of_mem there
    have key : placement.id = before.id := key.symm
    rw [key] at here
    have finished := replaceTermination_ends found closed here
    exact running finished
  · obtain ⟨before, earlier, -, progresses⟩ := changes.placements.of_mem there
    have same : before.request = record.request := progresses.request.symm.trans (made.trans named)
    have below := UInt64.le_iff_toNat_le.mp (latest before earlier same)
    rw [progresses.generation]
    omega
  · omega

theorem continues (chained : Chained engine.state) (calls : engine.Calls operation call)
    (newest : engine.ReassignsNewest operation) :
    Continues call.state call.stored call.generation call.reassignments := by
  cases calls with
  | @submit request accepted =>
    obtain ⟨-, absent, -⟩ := submitChecks_ok accepted
    have none {placement : PlacementRecord} (member : placement ∈ engine.state.placements.entries)
        (made : placement.request = (normalizeScheduleRequest request).id) : False := by
      obtain ⟨stored, found, -⟩ := chained.budget placement member
      rw [made, absent] at found
      cases found
    refine ⟨fun placement member made => ?_, fun placement member made => ?_, rfl, UInt32.zero_le⟩
    · exact (none member made).elim
    · exact (none member made).elim
  | @reassign placement generation epoch reason record stored accepted recorded budget =>
    obtain ⟨found, able⟩ := reassignChecks_ok accepted
    refine chained.replacement found rfl recorded budget ?_
    by_cases live : placementStateIsLive record.state
    · exact chained.newest record (Table.mem_of_find? found) live
    · have required : record.state = .reassignmentRequired := able.resolve_left live
      have finished : placementStateIsLive record.state = false := by simpa using live
      rw [replaceTermination_closed finished] at recorded
      exact newest record stored accepted required recorded budget
  | @preempt placement generation epoch reason record stored accepted recorded allowed budget =>
    obtain ⟨found, live⟩ := preemptChecks_ok accepted
    have continues := chained.replacement found rfl recorded budget
      (chained.newest record (Table.mem_of_find? found) live)
    exact ⟨continues.idle, continues.beyond, continues.counted, continues.budget⟩

theorem recover {durable : DurableState} {state : SchedulerState}
    (accepted : importChecks state durable = .ok ()) (chained : durable.Chained) :
    Chained (rebuildState state durable).state := by
  have rebuilt := rebuildState_rebuilt accepted
  obtain ⟨-, -, placements, -⟩ := validateDurableState_ok (importChecks_ok accepted).1
  have persisted {placement : PlacementRecord}
      (member : placement ∈ (rebuildState state durable).state.placements.entries) :
      ∃ before ∈ durable.placements, placement.terms = before.terms := rebuilt.placement_terms member
  have terms {placement before : PlacementRecord} (same : placement.terms = before.terms) :
      before.id = placement.id ∧ before.request = placement.request ∧ before.generation = placement.generation ∧
        before.reassignmentCount = placement.reassignmentCount := by
    have id := congrArg PlacementRecord.id same
    have request := congrArg PlacementRecord.request same
    have generation := congrArg PlacementRecord.generation same
    have count := congrArg PlacementRecord.reassignmentCount same
    exact ⟨id.symm, request.symm, generation.symm, count.symm⟩
  refine ⟨fun placement member => ?_, fun placement member => ?_, fun first member second there same equal => ?_,
    fun placement member live => ?_⟩
  · obtain ⟨before, earlier, same⟩ := persisted member
    obtain ⟨-, request, -, count⟩ := terms same
    have known := placements before earlier
    simp only [validatePlacement, check_bind_ok, check_ok] at known
    obtain ⟨asked, listed, named⟩ := List.mem_map.mp known.2.1
    obtain ⟨stored, found⟩ := Option.ne_none_iff_exists'.mp (rebuildState_request state listed)
    rw [named, request] at found
    obtain ⟨source, there, recovered⟩ := rebuilt.requests stored (Table.mem_of_find? found)
    have kept : stored.request = source.request := by
      rw [recovered]
      simp only [recoveredRequest]
      split <;> rfl
    have key : source.id = before.request := by
      have own : stored.id = placement.request := Table.key_of_find? found
      rw [StoredRequest.id, ← kept, request]
      exact own
    refine ⟨stored, found, ?_⟩
    rw [kept, ← count]
    exact chained.budget before earlier source there key
  · obtain ⟨before, earlier, same⟩ := persisted member
    obtain ⟨-, -, generation, count⟩ := terms same
    rw [← generation, ← count]
    exact chained.counted before earlier
  · obtain ⟨before, earlier, kept⟩ := persisted member
    obtain ⟨before', earlier', kept'⟩ := persisted there
    obtain ⟨id, request, generation, -⟩ := terms kept
    obtain ⟨id', request', generation', -⟩ := terms kept'
    have one := chained.distinct before earlier before' earlier' (request.trans (same.trans request'.symm))
      (generation.trans (equal.trans generation'.symm))
    subst one
    exact Table.eq_of_key_eq member there (id.symm.trans id')
  · rw [rebuilt.not_live member] at live
    cases live

theorem step (chained : Chained engine.state) (newest : engine.ReassignsNewest operation) :
    Chained (engine.step operation).1.state := by
  refine Engine.step_preserves Chained.change Chained.write ?_ ?_ ?_ ?_ chained
  · intro advertisement mid record _ registers sofar
    exact sofar.stay rfl (.refl StoredRequest.Keeps.refl _)
  · intro advertisement mid live _ publishes sofar
    exact sofar.stay rfl (.refl StoredRequest.Keeps.refl _)
  · intro call calls sofar
    exact sofar.scheduled scheduleLocked_result calls.recorded (chained.continues calls newest)
  · intro durable same accepted
    subst same
    exact .recover accepted (newest accepted)

theorem fresh (config : EngineConfig) : Chained (Engine.fresh config).state := by
  constructor
  all_goals exact fun _ member => absurd member List.not_mem_nil

theorem runs {config : EngineConfig} {operations : List Operation}
    (guarded : Guarded Engine.step Engine.ReassignsNewest (Engine.fresh config) operations) :
    Chained ((Engine.fresh config).runs operations).state := by
  exact Engine.runs_preserve (fun _ _ _ sofar newest => Chained.step sofar newest) guarded (.fresh config)

end Chained

/-- A request has as many placements as its budget allows. -/
theorem Chained.count {state : SchedulerState} (chained : Chained state) {stored : StoredRequest}
    (member : stored ∈ state.requests.entries) :
    (state.placements.entries.countP fun placement => placement.request = stored.id) ≤
      1 + stored.request.maxReassignments.toNat := by
  let own := state.placements.entries.filter fun placement => placement.request = stored.id
  let generations := own.map fun placement => placement.generation.value.toNat
  have made {placement : PlacementRecord} (there : placement ∈ own) :
      placement ∈ state.placements.entries ∧ placement.request = stored.id := by
    obtain ⟨earlier, same⟩ := List.mem_filter.mp there
    exact ⟨earlier, of_decide_eq_true same⟩
  have distinct : generations.Nodup := by
    refine List.Nodup.map_on (fun first there second there' same => ?_) (state.placements.nodup.filter _)
    obtain ⟨earlier, request⟩ := made there
    obtain ⟨earlier', request'⟩ := made there'
    have equal : first.generation.value = second.generation.value := UInt64.toNat_inj.mp same
    exact chained.distinct first earlier second earlier' (request.trans request'.symm)
      (congrArg StrongId.mk equal)
  have bounded : generations ⊆ List.range' 1 (1 + stored.request.maxReassignments.toNat) := by
    intro generation there
    obtain ⟨placement, within, same⟩ := List.mem_map.mp there
    obtain ⟨earlier, request⟩ := made within
    obtain ⟨other, found, budget⟩ := chained.budget placement earlier
    have asked : state.requests.find? placement.request = some stored := by
      rw [request]
      exact Table.find?_of_mem member
    rw [asked] at found
    cases found
    have counted := chained.counted placement earlier
    have most := UInt32.le_iff_toNat_le.mp budget
    rw [List.mem_range'_1]
    omega
  have length := (distinct.subperm bounded).length_le
  rw [List.length_map, List.length_range', ← List.countP_eq_length_filter] at length
  exact length

theorem Chained.exported {state : SchedulerState} (chained : Chained state) (config : EngineConfig)
    (ids : IdGenerator) : (exportState state config ids).Chained := by
  refine ⟨fun placement member stored there same => ?_, chained.counted, chained.distinct⟩
  obtain ⟨other, found, budget⟩ := chained.budget placement member
  have asked : state.requests.find? placement.request = some stored := by
    rw [← same]
    exact Table.find?_of_mem there
  rw [asked] at found
  cases found
  exact budget

theorem Engine.Calls.logged {engine : Engine} {operation : Operation} {call : SchedulingCall}
    (calls : engine.Calls operation call) (draws : engine.DrawsFreePlacement operation) {decision : Decision}
    (decided : (call.scheduled engine.config engine.ids).result = .ok decision)
    (placed : decision.outcome = .placed) :
    ∃ placement, (engine.step operation).1.state.placements.find? decision.placement.id = some placement ∧
      placement.terms = decision.placement.terms := by
  have unused := calls.placements.absent (draws calls.schedules)
  have changes := calls.step_changes
  have result : ScheduleResult call.state engine.config engine.ids call.stored call.generation call.reassignments
    (call.scheduled engine.config engine.ids) := scheduleLocked_result
  generalize call.scheduled engine.config engine.ids = scheduled at decided changes result
  cases result with
  | noPlacement outcome =>
    cases decided
    rw [outcome] at placed
    cases placed
  | refused => cases decided
  | broken => cases decided
  | @placed selection resources selected claims placement made after chosen loop committed handed room
      resources_after requests_after placements_after =>
    cases decided
    have named : placement.id = engine.ids.commitIds.1.placement := by rw [committed]; rfl
    have absent : call.state.placements.find? placement.id = none := named ▸ unused
    have found : after.placements.find? placement.id = some placement := by
      rw [placements_after, Table.emplace_fresh absent]
      exact Table.find?_set_self ..
    obtain ⟨later, there, progresses⟩ := changes.placements.later found
    rw [handed.2]
    exact ⟨later, there, progresses.terms⟩

/-- The placements ever made for a request have distinct generations and stay within its budget, as
    long as a placement without authority is reassigned only as the newest of its request. -/
theorem reassignments_chain {config : EngineConfig} {operations : List Operation}
    (guarded : Guarded Engine.step
      (fun engine operation => engine.DrawsFreePlacement operation ∧ engine.ReassignsNewest operation)
      (Engine.fresh config) operations) :
    let engine := (Engine.fresh config).runs operations
    (∀ placement ∈ engine.state.placements.entries, ∀ other ∈ engine.state.placements.entries,
      placement.request = other.request → placement.generation = other.generation → placement = other) ∧
    (∀ stored ∈ engine.state.requests.entries,
      (engine.state.placements.entries.countP fun placement => placement.request = stored.id) ≤
        1 + stored.request.maxReassignments.toNat) ∧
    (∀ first operation second, operations = first ++ operation :: second →
      let before := (Engine.fresh config).runs first
      ∀ call decision, before.Calls operation call →
        (call.scheduled before.config before.ids).result = .ok decision → decision.outcome = .placed →
        ∃ placement, engine.state.placements.find? decision.placement.id = some placement ∧
          placement.terms = decision.placement.terms) ∧
    (exportState engine.state engine.config engine.ids).Chained := by
  intro engine
  have chained : Chained engine.state := Chained.runs (guarded.weaken fun _ _ allowed => allowed.2)
  refine ⟨chained.distinct, fun stored member => chained.count member, ?_, chained.exported _ _⟩
  intro first operation second split before call decision calls decided placed
  rw [split] at guarded
  obtain ⟨-, ⟨draws, -⟩, -⟩ := guarded_append.mp guarded
  obtain ⟨placement, found, terms⟩ := calls.logged draws decided placed
  have whole : engine = (before.step operation).1.runs second := by
    change (Engine.fresh config).runs operations = _
    rw [split]
    exact run_append ..
  have kept := (before.step operation).1.runs_kept second
  rw [← whole] at kept
  obtain ⟨later, there, progresses⟩ := kept.placements.later found
  exact ⟨later, there, progresses.terms.trans terms⟩

/-- The placement of the bench is reassigned, and the one that replaced it too. -/
def Bench.movedTwice : List Operation :=
  Bench.start ++ [.reassignPlacement ⟨3⟩ {} ⟨1⟩ [], .reassignPlacement ⟨7⟩ {} ⟨1⟩ []]

theorem Engine.reassignsNewest_of_live {engine : Engine} {placement : PlacementId} {generation : PlacementGeneration}
    {epoch : CoordinatorEpoch} {reason : Text}
    (live : (reassignChecks engine.state placement generation epoch).map PlacementRecord.state ≠
      .ok .reassignmentRequired) : engine.ReassignsNewest (.reassignPlacement placement generation epoch reason) := by
  intro record stored accepted required
  rw [accepted, Except.map, required] at live
  exact absurd rfl live

theorem reassignments_chain_bench :
    let state := ((Engine.fresh {}).runs Bench.movedTwice).state
    state.placements.entries.map (fun placement => placement.generation.value) = [1, 2, 3] ∧
      (∀ placement ∈ state.placements.entries, ∀ other ∈ state.placements.entries,
        placement.request = other.request → placement.generation = other.generation → placement = other) ∧
      ∀ stored ∈ state.requests.entries,
        (state.placements.entries.countP fun placement => placement.request = stored.id) ≤
          1 + stored.request.maxReassignments.toNat := by
  have guarded : Guarded Engine.step (fun engine operation => engine.DrawsFreePlacement operation ∧
      engine.ReassignsNewest operation) (Engine.fresh {}) Bench.movedTwice := by
    refine ⟨⟨by decide, trivial⟩, ⟨by decide, trivial⟩, ⟨by decide +kernel, Engine.reassignsNewest_of_live ?_⟩,
      ⟨by decide +kernel, Engine.reassignsNewest_of_live ?_⟩, trivial⟩
    · decide +kernel
    · decide +kernel
  obtain ⟨distinct, bounded, -⟩ := reassignments_chain guarded
  exact ⟨by decide +kernel, distinct, bounded⟩
/-- Both reassignments of the first placement make a second generation. -/
theorem reassignment_repeats_generation :
    let state := ((Engine.fresh {}).runs Bench.reassignedTwice).state
    ¬ ∀ placement ∈ state.placements.entries, ∀ other ∈ state.placements.entries,
      placement.request = other.request → placement.generation = other.generation → placement = other := by
  decide

end LabScheduler
