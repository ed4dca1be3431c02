import LabScheduler.Engine.Ledger
import LabScheduler.Engine.Operations

namespace LabScheduler

/-- The slots the active reservations of a persisted state claim on a resource. -/
def DurableState.activeSlots (durable : DurableState) (id : ResourceId) : Nat :=
  (durable.reservations.map fun reservation => reservation.claimedOn id).sum

/-- What a persisted resource says about its slots, without a bound on any sum. -/
structure ExactCapacity (durable : DurableState) (resource : ResourceRecord) : Prop where
  mirrors : resource.reservedSlots.toNat = durable.activeSlots resource.id
  fits : resource.advertisedOccupancy.toNat + resource.reservedSlots.toNat ≤ resource.capacity.slots.toNat

section RunningTotals

variable {durable : DurableState} {claimed result : ClaimedSlots}

theorem validateClaim_adds {active : Bool} {claim : ReservationClaim}
    (accepted : validateClaim durable active claimed claim = .ok result) (id : ResourceId) :
    result id = claimed id + if active then (if claim.resource = id then claim.slots.toNat else 0) else 0 := by
  unfold validateClaim at accepted
  split at accepted
  · cases accepted
  · rw [check_bind_ok] at accepted
    obtain ⟨-, accepted⟩ := accepted
    cases active
    case false =>
      cases accepted
      simp
    case true =>
      obtain ⟨-, accepted⟩ := check_bind_ok.mp accepted
      cases accepted
      by_cases same : claim.resource = id
      · simp [ClaimedSlots.add, same]
      · simp [ClaimedSlots.add, same, Ne.symm same]

theorem validateClaims_adds {active : Bool} {claims : List ReservationClaim}
    (accepted : validateClaims durable active claimed claims = .ok result) (id : ResourceId) :
    result id = claimed id + if active then claimedSum claims id else 0 := by
  induction claims generalizing claimed with
  | nil =>
    cases accepted
    cases active <;> simp [claimedSum]
  | cons claim rest ih =>
    obtain ⟨middle, first, others⟩ := except_bind_ok.mp accepted
    rw [ih others, validateClaim_adds first, claimedSum_cons]
    cases active
    case false => rfl
    case true => simp only [if_true, Nat.add_assoc]

theorem validateReservations_adds {seen : List ReservationId} {reservations : List ReservationRecord}
    (accepted : validateReservations durable seen claimed reservations = .ok result) (id : ResourceId) :
    result id = claimed id + (reservations.map fun reservation => reservation.claimedOn id).sum := by
  induction reservations generalizing seen claimed with
  | nil =>
    cases accepted
    rfl
  | cons reservation rest ih =>
    simp only [validateReservations, check_bind_ok] at accepted
    obtain ⟨-, -, accepted⟩ := accepted
    obtain ⟨middle, first, others⟩ := except_bind_ok.mp accepted
    rw [ih others, validateClaims_adds first, List.map_cons, List.sum_cons, ReservationRecord.claimedOn,
      Nat.add_assoc]
    simp only [beq_iff_eq]

end RunningTotals

theorem validateDurableState_mirrors {durable : DurableState} (valid : validateDurableState durable = .ok ())
    {resource : ResourceRecord} (member : resource ∈ durable.resources) :
    resource.reservedSlots.toNat = durable.activeSlots resource.id := by
  simp only [validateDurableState, check_bind_ok] at valid
  obtain ⟨-, -, -, -, -, -, valid⟩ := valid
  obtain ⟨claimed, totals, mirrored⟩ := except_bind_ok.mp valid
  rw [check_forM_ok] at mirrored
  rw [check_ok.mp (mirrored resource member), validateReservations_adds totals, Nat.zero_add]
  rfl

theorem validateResourceRecord_fits {record : ResourceRecord} {limits : Limits}
    (valid : validateResourceRecord record limits = .ok ()) :
    record.advertisedOccupancy.toNat + record.reservedSlots.toNat ≤ record.capacity.slots.toNat ↔
      record.advertisedOccupancy.toNat + record.reservedSlots.toNat < 2 ^ 32 := by
  simp only [validateResourceRecord, check_bind_ok, check_ok] at valid
  obtain ⟨-, -, within⟩ := valid
  have bound := record.capacity.slots.toNat_lt
  constructor
  · intro fits
    omega
  · intro small
    have exact := UInt32.le_iff_toNat_le.mp within
    rw [ResourceRecord.totalOccupancy, UInt32.toNat_add, Nat.mod_eq_of_lt small] at exact
    exact exact

theorem accepted_capacity_exact {durable : DurableState} (valid : validateDurableState durable = .ok ()) :
    (∀ resource ∈ durable.resources, ExactCapacity durable resource) ↔
      ∀ resource ∈ durable.resources,
        resource.advertisedOccupancy.toNat + resource.reservedSlots.toNat < 2 ^ 32 := by
  refine forall₂_congr fun resource member => ?_
  have checked := (validateDurableState_ok valid).1 resource member
  constructor
  · intro exact
    exact (validateResourceRecord_fits checked).mp exact.fits
  · intro small
    exact ⟨validateDurableState_mirrors valid member, (validateResourceRecord_fits checked).mpr small⟩

namespace Bench

/-- One slot reserved on a resource of `slots` slots that advertises `occupied` of them. -/
def filled (slots occupied : UInt32) : DurableState :=
  let resource := registeredRecord ⟨1⟩ advertisement
  { durable [completed 11 4] with
    resources := [{ resource with
      capacity := { resource.capacity with slots := slots }
      advertisedOccupancy := occupied
      reservedSlots := 1 }]
    reservations :=
      [{ id := ⟨4⟩, lease := ⟨1⟩, placement := ⟨11⟩, state := .active
         claims := [{ resource := ⟨7⟩, slots := 1 }] }] }

end Bench

theorem accepted_capacity_exact_bench :
    ∃ resource ∈ (Bench.filled 4 3).resources, ExactCapacity (Bench.filled 4 3) resource := by
  have exact := (@accepted_capacity_exact (Bench.filled 4 3) (by decide)).mpr (by decide)
  exact ⟨_, List.mem_cons_self, exact _ List.mem_cons_self⟩

/-- Every slot there can be is occupied, and one more is reserved: the sum comes back to zero. -/
theorem overcommitted_accepted :
    validateDurableState (Bench.filled 0xffffffff 0xffffffff) = .ok () ∧
      ¬ ∀ resource ∈ (Bench.filled 0xffffffff 0xffffffff).resources,
        ExactCapacity (Bench.filled 0xffffffff 0xffffffff) resource := by
  refine ⟨by decide, fun exact => ?_⟩
  have fits := (exact _ List.mem_cons_self).fits
  exact absurd fits (by decide)

end LabScheduler
