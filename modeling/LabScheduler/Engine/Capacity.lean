import LabScheduler.Engine.Calls
import LabScheduler.Engine.Commit
import LabScheduler.Engine.Rebuilt

namespace LabScheduler

open Foundation

/-- The slots a list of claims takes on a resource. -/
def claimedSum (claims : List ReservationClaim) (id : ResourceId) : Nat :=
  ((claims.filter fun claim => claim.resource = id).map fun claim => claim.slots.toNat).sum

/-- No resource holds more than its capacity, whatever its slots are reserved for. -/
structure Fits (state : SchedulerState) : Prop where
  fits : ∀ resource ∈ state.resources.entries,
    resource.advertisedOccupancy.toNat + resource.reservedSlots.toNat ≤ resource.capacity.slots.toNat

theorem claimedSum_cons (claim : ReservationClaim) (rest : List ReservationClaim) (id : ResourceId) :
    claimedSum (claim :: rest) id = (if claim.resource = id then claim.slots.toNat else 0) + claimedSum rest id := by
  unfold claimedSum
  by_cases same : claim.resource = id <;> simp [same]

theorem claimedSum_append (first second : List ReservationClaim) (id : ResourceId) :
    claimedSum (first ++ second) id = claimedSum first id + claimedSum second id := by
  simp [claimedSum]

theorem claimedSum_eq_zero {claims : List ReservationClaim} {id : ResourceId}
    (none : ∀ claim ∈ claims, claim.resource ≠ id) : claimedSum claims id = 0 := by
  have empty : claims.filter (fun claim => claim.resource = id) = [] := by
    simpa [List.filter_eq_nil_iff] using none
  simp [claimedSum, empty]

theorem claimedSum_ge {claims : List ReservationClaim} {claim : ReservationClaim} (member : claim ∈ claims) :
    claim.slots.toNat ≤ claimedSum claims claim.resource := by
  apply List.single_le_sum
  · exact fun _ _ => Nat.zero_le _
  · exact List.mem_map_of_mem (List.mem_filter.mpr ⟨member, by simp⟩)

theorem claimedSum_of_nodup {claims : List ReservationClaim} {claim : ReservationClaim}
    (distinct : (claims.map ReservationClaim.resource).Nodup) (member : claim ∈ claims) :
    claimedSum claims claim.resource = claim.slots.toNat := by
  induction claims with
  | nil => cases member
  | cons first rest ih =>
    rw [List.map_cons, List.nodup_cons] at distinct
    rw [claimedSum_cons]
    rcases List.mem_cons.mp member with rfl | later
    · have others : claimedSum rest claim.resource = 0 := claimedSum_eq_zero fun other there same =>
        distinct.1 (same ▸ List.mem_map_of_mem there)
      simp [others]
    · have differs : first.resource ≠ claim.resource := fun same =>
        distinct.1 (same ▸ List.mem_map_of_mem later)
      rw [if_neg differs, ih distinct.2 later, Nat.zero_add]

theorem giveBackAll_slots (resource : ResourceRecord) (claims : List ReservationClaim) :
    (resource.giveBackAll claims).reservedSlots.toNat =
      resource.reservedSlots.toNat - claimedSum claims resource.id := by
  induction claims generalizing resource with
  | nil => simp [ResourceRecord.giveBackAll, claimedSum]
  | cons claim rest ih =>
    unfold ResourceRecord.giveBackAll at ih ⊢
    rw [List.foldl_cons, ih, claimedSum_cons]
    by_cases same : claim.resource = resource.id
    · have given : (resource.giveBack claim.slots).reservedSlots.toNat =
          resource.reservedSlots.toNat - claim.slots.toNat := by
        unfold ResourceRecord.giveBack
        split
        · rename_i enough
          exact UInt32.toNat_sub_of_le _ _ enough
        · rename_i short
          have less : resource.reservedSlots.toNat < claim.slots.toNat :=
            UInt32.lt_iff_toNat_lt.mp (UInt32.not_le.mp short)
          simp only [UInt32.toNat_zero]
          omega
      have id : (resource.giveBack claim.slots).id = resource.id := rfl
      simp only [same, if_true, given, id]
      omega
    · simp [same]

theorem takeAll_slots {resource : ResourceRecord} {claims : List ReservationClaim}
    (room : resource.reservedSlots.toNat + claimedSum claims resource.id < 2 ^ 32) :
    (resource.takeAll claims).reservedSlots.toNat =
      resource.reservedSlots.toNat + claimedSum claims resource.id := by
  induction claims generalizing resource with
  | nil => simp [ResourceRecord.takeAll, claimedSum]
  | cons claim rest ih =>
    rw [claimedSum_cons] at room
    have step : (resource.takeAll (claim :: rest)) =
        (if claim.resource = resource.id then resource.take claim.slots else resource).takeAll rest := rfl
    rw [step, claimedSum_cons]
    by_cases same : claim.resource = resource.id
    · have id : (resource.take claim.slots).id = resource.id := rfl
      have taken : (resource.take claim.slots).reservedSlots.toNat =
          resource.reservedSlots.toNat + claim.slots.toNat := by
        simp only [ResourceRecord.take, UInt32.toNat_add]
        simp only [same, if_true] at room
        omega
      simp only [same, if_true] at room ⊢
      rw [ih (by rw [taken, id]; omega), taken, id]
      omega
    · simp only [same, if_false] at room ⊢
      rw [ih (by omega)]
      omega

theorem publishLiveChecks_fits {advertisement : ResourceAdvertisement} {live : ResourceRecord}
    (accepted : publishLiveChecks advertisement live = .ok ()) :
    advertisement.advertisedOccupancy.toNat + live.reservedSlots.toNat ≤ advertisement.capacity.slots.toNat := by
  simp only [publishLiveChecks, check_bind_ok, check_ok, UInt64.le_iff_toNat_le, UInt64.toNat_add,
    UInt32.toNat_toUInt64] at accepted
  have fits := accepted.2.2
  have advertised := advertisement.advertisedOccupancy.toNat_lt
  have reserved := live.reservedSlots.toNat_lt
  omega

theorem totalOccupancy_toNat {resource : ResourceRecord}
    (fits : resource.advertisedOccupancy.toNat + resource.reservedSlots.toNat ≤ resource.capacity.slots.toNat) :
    resource.totalOccupancy.toNat = resource.advertisedOccupancy.toNat + resource.reservedSlots.toNat := by
  have bound := resource.capacity.slots.toNat_lt
  unfold ResourceRecord.totalOccupancy
  rw [UInt32.toNat_add]
  omega

theorem availableSlots_toNat {resource : ResourceRecord}
    (fits : resource.advertisedOccupancy.toNat + resource.reservedSlots.toNat ≤ resource.capacity.slots.toNat) :
    (availableSlots resource).toNat =
      resource.capacity.slots.toNat - (resource.advertisedOccupancy.toNat + resource.reservedSlots.toNat) := by
  have used := totalOccupancy_toNat fits
  unfold ResourceRecord.totalOccupancy at used
  unfold availableSlots
  extract_lets total
  have used : total.toNat = resource.advertisedOccupancy.toNat + resource.reservedSlots.toNat := used
  split
  · rename_i full
    have full := UInt32.le_iff_toNat_le.mp full
    rw [UInt32.toNat_zero]
    omega
  · rename_i free
    have free := UInt32.lt_iff_toNat_lt.mp (UInt32.not_le.mp free)
    rw [UInt32.toNat_sub_of_le _ _ (UInt32.le_iff_toNat_le.mpr (by omega)), used]

section Commit

variable {state : SchedulerState} {request : ScheduleRequest} {limits : Limits}

theorem Eligible.room {requirement : ResourceRequirement} {candidate : CandidateResource}
    {resource : ResourceRecord} (eligible : Eligible state request limits requirement candidate resource)
    (fits : Fits state) (reasons : 1 ≤ limits.maxRejectionReasonsPerEntry) :
    resource.advertisedOccupancy.toNat + resource.reservedSlots.toNat + candidate.slots.toNat ≤
      resource.capacity.slots.toNat := by
  have within := fits.fits resource (Table.mem_of_find? eligible.found)
  obtain ⟨-, passed⟩ := evaluateResource_eligible reasons eligible.eligible
  obtain ⟨-, claimed, -⟩ := eligible.claims
  have free : ¬ availableSlots resource < claimedSlots request requirement resource := by
    have test := passed (decide (availableSlots resource < claimedSlots request requirement resource),
      .capacityExhausted) (by simp [hardTests])
    simpa using test
  have bound := UInt32.le_iff_toNat_le.mp (UInt32.not_lt.mp free)
  rw [availableSlots_toNat within, ← claimed] at bound
  omega

theorem Chosen.room {selection : List CandidateResource} (chosen : Chosen state request limits selection)
    (fits : Fits state) (reasons : 1 ≤ limits.maxRejectionReasonsPerEntry)
    {candidate : CandidateResource} (member : candidate ∈ selection) :
    ∃ resource, state.resources.find? candidate.id = some resource ∧
      resource.advertisedOccupancy.toNat + resource.reservedSlots.toNat + candidate.slots.toNat ≤
        resource.capacity.slots.toNat := by
  obtain ⟨index, below, rfl⟩ := List.mem_iff_getElem.mp member
  obtain ⟨resource, eligible⟩ := chosen.eligible.get below (chosen.length ▸ below)
  refine ⟨resource, ?_, eligible.room fits reasons⟩
  have same := congrArg CandidateResource.id eligible.candidate
  rw [show selection[index].id = resource.id from same]
  exact eligible.found

theorem commitLoop_succeeds {resources : ResourceTable} {turns : List (CandidateResource × ResourceRequirement)}
    (distinct : (turns.map fun turn => turn.1.id).Nodup)
    (room : ∀ turn ∈ turns, ∃ resource, resources.find? turn.1.id = some resource ∧
      resource.reservedSlots.toNat + turn.1.slots.toNat ≤ resource.capacity.slots.toNat) :
    ∃ booked, (commitLoop resources turns).2 = .ok booked := by
  induction turns generalizing resources with
  | nil => exact ⟨_, rfl⟩
  | cons turn rest ih =>
    obtain ⟨candidate, requirement⟩ := turn
    obtain ⟨holder, found, fits⟩ := room (candidate, requirement) List.mem_cons_self
    have found : resources.find? candidate.id = some holder := found
    have fits : holder.reservedSlots.toNat + candidate.slots.toNat ≤ holder.capacity.slots.toNat := fits
    rw [List.map_cons, List.nodup_cons] at distinct
    have below : ¬ holder.capacity.slots - candidate.slots < holder.reservedSlots := by
      rw [UInt32.not_lt, UInt32.le_iff_toNat_le,
        UInt32.toNat_sub_of_le _ _ (UInt32.le_iff_toNat_le.mpr (by omega))]
      omega
    have same : holder.id = candidate.id := ResourceTable.id_of_find? found
    have others : ∀ turn ∈ rest, ∃ resource,
        (resources.set (holder.take candidate.slots)).find? turn.1.id = some resource ∧
        resource.reservedSlots.toNat + turn.1.slots.toNat ≤ resource.capacity.slots.toNat := fun turn member => by
      obtain ⟨other, there, fits⟩ := room turn (List.mem_cons_of_mem _ member)
      refine ⟨other, ?_, fits⟩
      have differs : ¬ holder.id = other.id := fun equal => by
        rw [ResourceTable.id_of_find? there] at equal
        exact distinct.1 (List.mem_map.mpr ⟨turn, member, (same.symm.trans equal).symm⟩)
      rw [set_take_find? (same.symm ▸ found), there, Option.map_some, if_neg differs]
    obtain ⟨booked, result⟩ := ih distinct.2 others
    unfold commitLoop
    simp only [found, if_neg below]
    change ∃ booked, Except.map _ (commitLoop (resources.set (holder.take candidate.slots)) rest).2 = .ok booked
    rw [result]
    exact ⟨_, rfl⟩

theorem Chosen.commits {selection : List CandidateResource} (chosen : Chosen state request limits selection)
    (fits : Fits state) (reasons : 1 ≤ limits.maxRejectionReasonsPerEntry) :
    ∃ booked, (commitLoop state.resources (selection.zip request.requirements)).2 = .ok booked := by
  refine commitLoop_succeeds ?_ fun turn member => ?_
  · rw [map_zip_fst CandidateResource.id chosen.length]
    exact chosen.distinct
  · obtain ⟨resource, found, room⟩ := chosen.room fits reasons (List.of_mem_zip member).1
    exact ⟨resource, found, by omega⟩

/-- The slots a commit takes fit beside what each resource already holds. -/
theorem Chosen.takes {selection : List CandidateResource} {after : ResourceTable}
    {selected : List SelectedResource} {claims : List ReservationClaim}
    (chosen : Chosen state request limits selection) (fits : Fits state)
    (reasons : 1 ≤ limits.maxRejectionReasonsPerEntry)
    (booked : Booked state.resources (selection.zip request.requirements) after selected claims)
    {before : ResourceRecord} (there : before ∈ state.resources.entries) :
    before.advertisedOccupancy.toNat + before.reservedSlots.toNat + claimedSum claims before.id ≤
        before.capacity.slots.toNat ∧
      (before.takeAll claims).reservedSlots.toNat =
        before.reservedSlots.toNat + claimedSum claims before.id := by
  have distinct := booked.distinct chosen.length chosen.distinct
  have room : before.advertisedOccupancy.toNat + before.reservedSlots.toNat + claimedSum claims before.id ≤
      before.capacity.slots.toNat := by
    by_cases named : ∃ claim ∈ claims, claim.resource = before.id
    · obtain ⟨claim, member, same⟩ := named
      obtain ⟨candidate, picked, made⟩ := forall₂_mem_left (booked.claimsFor chosen.length) member
      obtain ⟨resource, found, room⟩ := chosen.room fits reasons picked
      rw [← made.resource, same, Table.find?_of_mem there] at found
      cases found
      have sum := claimedSum_of_nodup distinct member
      rw [same, made.slots] at sum
      rw [sum]
      exact room
    · have none : claimedSum claims before.id = 0 := claimedSum_eq_zero fun claim member same =>
        named ⟨claim, member, same⟩
      have within := fits.fits before there
      omega
  have bound := before.capacity.slots.toNat_lt
  exact ⟨room, takeAll_slots (by omega)⟩

end Commit

namespace Fits

variable {state after : SchedulerState}

theorem change (change : Change state after) (fits : Fits state) : Fits after := by
  constructor
  intro resource member
  obtain ⟨before, there, -, lapses⟩ := change.resources.of_mem member
  have within := fits.fits before there
  have less := UInt32.le_iff_toNat_le.mp lapses.reserved
  rw [lapses.advertised, lapses.capacity]
  omega

theorem write (write : RequestWrite state after) (fits : Fits state) : Fits after := by
  cases write <;> exact ⟨fits.fits⟩

theorem register {record : ResourceRecord} {limits : Limits} (unreserved : record.reservedSlots = 0)
    (valid : validateResourceRecord record limits = .ok ()) (fits : Fits state) :
    Fits { state with resources := state.resources.emplace record } := by
  obtain ⟨-, occupancy⟩ := validateAdvertisement_capacity (validateResourceRecord_advertisement valid)
  constructor
  intro resource member
  rcases Table.mem_emplace member with rfl | there
  · rw [unreserved]
    exact UInt32.le_iff_toNat_le.mp occupancy
  · exact fits.fits resource there

theorem publish {advertisement : ResourceAdvertisement} {live : ResourceRecord}
    (accepted : publishLiveChecks (normalizeAdvertisement advertisement) live = .ok ()) (fits : Fits state) :
    Fits (publishWrite state advertisement live) := by
  constructor
  intro resource member
  rcases Table.mem_set.mp member with rfl | ⟨there, -⟩
  · have within := publishLiveChecks_fits accepted
    exact within
  · exact fits.fits resource there

theorem recover {durable : DurableState} {before : SchedulerState} (rebuilt : Rebuilt durable before after)
    (valid : validateDurableState durable = .ok ()) : Fits after := by
  constructor
  intro resource member
  rw [rebuilt.unreserved member]
  obtain ⟨persisted, there, rfl⟩ := rebuilt.resources resource member
  have checked := (validateDurableState_ok valid).1 persisted there
  have within := UInt32.le_iff_toNat_le.mp
    (validateAdvertisement_capacity (validateResourceRecord_advertisement checked)).2
  simp only [recoveredResource]
  split <;> exact within

theorem scheduled {config : EngineConfig} {ids : IdGenerator} {stored : StoredRequest}
    {generation : PlacementGeneration} {reassignments : UInt32} {scheduled : Scheduled}
    (result : ScheduleResult state config ids stored generation reassignments scheduled)
    (fits : Fits state) (reasons : 1 ≤ config.limits.maxRejectionReasonsPerEntry) : Fits scheduled.state := by
  cases result with
  | noPlacement => exact ⟨fits.fits⟩
  | refused => exact fits
  | broken chosen loop =>
    obtain ⟨booked, succeeds⟩ := chosen.commits fits reasons
    rw [loop] at succeeds
    cases succeeds
  | placed chosen loop committed decided room resources_after =>
    have booked := commitLoop_ok loop
    rw [← resources_after] at booked
    constructor
    intro resource member
    have there := Table.find?_of_mem member
    rw [booked.find?, Option.map_eq_some_iff] at there
    obtain ⟨before, there, rfl⟩ := there
    obtain ⟨within, taken⟩ := chosen.takes fits reasons booked (Table.mem_of_find? there)
    rw [taken, ResourceRecord.takeAll_eq]
    change before.advertisedOccupancy.toNat + _ ≤ before.capacity.slots.toNat
    omega

theorem step {engine : Engine} {operation : Operation} (fits : Fits engine.state)
    (reasons : 1 ≤ engine.config.limits.maxRejectionReasonsPerEntry) : Fits (engine.step operation).1.state := by
  refine Engine.step_preserves Fits.change Fits.write ?_ ?_ ?_ ?_ fits
  · intro advertisement mid record _ registers sofar
    exact .register registers.unreserved registers.valid sofar
  · intro advertisement mid live _ publishes sofar
    exact .publish publishes.accepted sofar
  · intro call calls sofar
    exact .scheduled scheduleLocked_result sofar reasons
  · intro durable _ accepted
    exact .recover (rebuildState_rebuilt accepted) (importChecks_ok accepted).1

theorem fresh (config : EngineConfig) : Fits (Engine.fresh config).state :=
  ⟨fun _ member => absurd member List.not_mem_nil⟩

theorem runs {config : EngineConfig} (reasons : 1 ≤ config.limits.maxRejectionReasonsPerEntry)
    (operations : List Operation) : Fits ((Engine.fresh config).runs operations).state := by
  have free : Guarded Engine.step (fun _ _ => True) (Engine.fresh config) operations :=
    guarded_of_forall (fun _ _ => trivial) _ _
  apply Engine.runs_preserve _ free (.fresh config)
  intro engine operation same fits _
  exact fits.step (same ▸ reasons)

end Fits

end LabScheduler
