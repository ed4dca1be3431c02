import LabScheduler.Engine.Interchange
import LabScheduler.Engine.Operations

namespace LabScheduler

def largestMemory (resource : ResourceRecord) : Nat :=
  (resource.accelerators.map fun attachment => attachment.memoryBytes.toNat).foldr max 0

/-- The fit of an attachment of `memory` bytes where `minimum` of them are asked for. -/
def exactFit (minimum memory : Nat) : Int :=
  clampUnit (kUnit - ((memory - minimum) * 1000000 / memory : Nat))

def FitsMemory (requirement : ResourceRequirement) (resource : ResourceRecord) : Prop :=
  resource.resourceClass = .gpu ∧ 0 < requirement.minMemoryBytes.toNat ∧
    requirement.minMemoryBytes.toNat ≤ largestMemory resource

instance (requirement : ResourceRequirement) (resource : ResourceRecord) : Decidable (FitsMemory requirement resource) :=
  inferInstanceAs (Decidable (_ ∧ _ ∧ _))

/-- What is in use of a resource once the claim is granted. -/
def totalAfter (resource : ResourceRecord) (eligibility : Eligibility) : Nat :=
  resource.advertisedOccupancy.toNat + resource.reservedSlots.toNat + eligibility.slots.toNat

/-- `compute_additive_values` without a bound on any sum or product. -/
def exactAdditiveValues (state : SchedulerState) (request : ScheduleRequest) (requirement : ResourceRequirement)
    (resource : ResourceRecord) (eligibility : Eligibility) : RankingFactor → Int :=
  let capacity := resource.capacity.slots.toNat
  let residual := capacity - totalAfter resource eligibility
  fun
    | .occupancy => clampUnit (kUnit - (totalAfter resource eligibility * 1000000 / capacity : Nat))
    | .residualCapacity => clampUnit (residual * 1000000 / capacity : Nat)
    | .acceleratorFit =>
      if FitsMemory requirement resource then exactFit requirement.minMemoryBytes.toNat (largestMemory resource)
      else kUnit
    | .modelWarmth => modelWarmth resource
    | .simulatorReadiness => simulatorReadiness resource
    | .fragmentation =>
      if eligibility.exclusive = false ∧ 0 < residual ∧ residual < eligibility.slots.toNat then 0 else kUnit
    | .reuse => if reservedByOtherPlacement state request.experiment resource.id request.id then kUnit else 0
    | .locality | .datasetLocality | .topologyDistance | .fairness | .priority => kUnit

/-- Every factor is exact, no product leaves its word and no divisor is zero. -/
structure ExactFactors (state : SchedulerState) (request : ScheduleRequest) (requirement : ResourceRequirement)
    (resource : ResourceRecord) (eligibility : Eligibility) : Prop where
  values : ∀ factor, computeAdditiveValues state request requirement resource eligibility factor =
    exactAdditiveValues state request requirement resource eligibility factor
  slots : resource.capacity.slots.toNat ≠ 0
  occupied : (resource.totalOccupancy + eligibility.slots).toNat * 1000000 < 2 ^ 63
  residual : resource.capacity.slots.toNat * 1000000 < 2 ^ 63
  excess : FitsMemory requirement resource →
    (largestMemory resource - requirement.minMemoryBytes.toNat) * 1000000 < 2 ^ 64
  memory : FitsMemory requirement resource → largestMemory resource ≠ 0

section Quotients

variable {n m : Nat}

theorem scaled_le (within : n ≤ m) : n * 1000000 / m ≤ 1000000 := by
  apply Nat.div_le_of_le_mul
  omega

theorem le_scaled_iff (positive : 0 < m) : 1000000 ≤ n * 1000000 / m ↔ m ≤ n := by
  rw [Nat.le_div_iff_mul_le positive]
  omega

theorem wrapped_quotient_lt (positive : 0 < m) (small : m < 2 ^ 64) (wraps : 2 ^ 64 ≤ n) : n % 2 ^ 64 / m < n / m := by
  have below : n % 2 ^ 64 + m ≤ n := by omega
  calc n % 2 ^ 64 / m < n % 2 ^ 64 / m + 1 := Nat.lt_succ_self _
    _ = (n % 2 ^ 64 + m) / m := (Nat.add_div_right _ positive).symm
    _ ≤ n / m := Nat.div_le_div_right below

theorem clampUnit_of_le (within : n ≤ 1000000) : clampUnit (kUnit - (n : Int)) = kUnit - (n : Int) := by
  unfold clampUnit kUnit
  rw [if_neg (by omega), if_neg (by omega)]

theorem clampUnit_of_ge (beyond : 1000000 ≤ n) : clampUnit (kUnit - (n : Int)) = 0 := by
  unfold clampUnit kUnit
  split
  · rfl
  · rw [if_neg (by omega)]
    omega

/-- A claim of 32 bits has the exact occupancy factor if it has not wrapped, or has wrapped past the capacity again. -/
theorem occupancy_exact_iff (positive : 0 < m) (small : m < 2 ^ 32) :
    clampUnit (kUnit - (n % 2 ^ 32 * 1000000 / m : Nat)) = clampUnit (kUnit - (n * 1000000 / m : Nat)) ↔
      n < 2 ^ 32 ∨ m ≤ n % 2 ^ 32 := by
  by_cases fits : n < 2 ^ 32
  · rw [Nat.mod_eq_of_lt fits]
    exact iff_of_true rfl (.inl fits)
  · have full : m ≤ n := by omega
    rw [clampUnit_of_ge ((le_scaled_iff positive).mpr full)]
    rw [or_iff_right fits]
    constructor
    · intro none
      by_contra short
      have less : ¬ 1000000 ≤ n % 2 ^ 32 * 1000000 / m := mt (le_scaled_iff positive).mp short
      rw [clampUnit_of_le (by omega)] at none
      unfold kUnit at none
      omega
    · intro full
      exact clampUnit_of_ge ((le_scaled_iff positive).mpr full)

theorem exactFit_antitone {minimum memory larger : Nat} (enough : minimum ≤ memory) (grows : memory ≤ larger) :
    exactFit minimum larger ≤ exactFit minimum memory := by
  unfold exactFit
  rw [clampUnit_of_le (scaled_le (Nat.sub_le ..)), clampUnit_of_le (scaled_le (Nat.sub_le ..))]
  suffices less : (memory - minimum) * 1000000 / memory ≤ (larger - minimum) * 1000000 / larger by omega
  rcases Nat.eq_zero_or_pos memory with rfl | positive
  · simp
  · rw [Nat.le_div_iff_mul_le (by omega)]
    generalize quotient : (memory - minimum) * 1000000 / memory = q
    have floor : q * memory ≤ (memory - minimum) * 1000000 := quotient ▸ Nat.div_mul_le_self ..
    have unit : q ≤ 1000000 := quotient ▸ scaled_le (Nat.sub_le ..)
    calc q * larger = q * memory + q * (larger - memory) := by rw [← Nat.mul_add, Nat.add_sub_cancel' grows]
      _ ≤ (memory - minimum) * 1000000 + 1000000 * (larger - memory) :=
        Nat.add_le_add floor (Nat.mul_le_mul_right _ unit)
      _ = (larger - minimum) * 1000000 := by omega

end Quotients

section Factors

variable {state : SchedulerState} {request : ScheduleRequest} {requirement : ResourceRequirement}
  {resource : ResourceRecord} {eligibility : Eligibility}

theorem foldl_memory (attachments : List AcceleratorAttachment) (start : UInt64) :
    (attachments.foldl (fun memory attachment =>
        if memory < attachment.memoryBytes then attachment.memoryBytes else memory) start).toNat =
      max start.toNat ((attachments.map fun attachment => attachment.memoryBytes.toNat).foldr max 0) := by
  induction attachments generalizing start with
  | nil => simp
  | cons attachment rest ih =>
    rw [List.foldl_cons, ih, List.map_cons, List.foldr_cons]
    split <;> rename_i less <;> rw [UInt64.lt_iff_toNat_lt] at less <;> omega

theorem foldl_largestMemory (resource : ResourceRecord) :
    (resource.accelerators.foldl (fun memory (attachment : AcceleratorAttachment) =>
        if memory < attachment.memoryBytes then attachment.memoryBytes else memory) 0).toNat =
      largestMemory resource := by
  rw [foldl_memory, UInt64.toNat_zero, Nat.zero_max]
  rfl

theorem acceleratorFit_eq (requirement : ResourceRequirement) (resource : ResourceRecord) :
    acceleratorFit requirement resource =
      if FitsMemory requirement resource then
        clampUnit (kUnit - ((largestMemory resource - requirement.minMemoryBytes.toNat) * 1000000 % 2 ^ 64 /
          largestMemory resource : Nat))
      else kUnit := by
  unfold acceleratorFit
  extract_lets memory excess
  have largest : memory.toNat = largestMemory resource := foldl_largestMemory resource
  have asked : 0 < requirement.minMemoryBytes ↔ 0 < requirement.minMemoryBytes.toNat := UInt64.lt_iff_toNat_lt
  have enough : requirement.minMemoryBytes ≤ memory ↔ requirement.minMemoryBytes.toNat ≤ largestMemory resource := by
    rw [UInt64.le_iff_toNat_le, largest]
  by_cases fits : FitsMemory requirement resource
  · obtain ⟨gpu, some, within⟩ := fits
    have positive : 0 < memory := by
      rw [UInt64.lt_iff_toNat_lt, UInt64.toNat_zero, largest]
      omega
    rw [if_pos ⟨gpu, asked.mpr some⟩, if_pos ⟨enough.mpr within, positive⟩, if_pos ⟨gpu, some, within⟩]
    have quotient : excess.toNat =
        (largestMemory resource - requirement.minMemoryBytes.toNat) * 1000000 % 2 ^ 64 / largestMemory resource := by
      change ((memory - requirement.minMemoryBytes) * 1000000 / memory).toNat = _
      rw [UInt64.toNat_div, UInt64.toNat_mul, UInt64.toNat_sub_of_le _ _ (enough.mpr within), largest]
      rfl
    rw [quotient]
  · rw [if_neg fits]
    split
    · rename_i gpu
      refine if_neg fun both => fits ⟨gpu.1, asked.mp gpu.2, enough.mp both.1⟩
    · rfl

/-- The product of an attachment's fit is the only one that can leave its word, and then the fit is another. -/
theorem acceleratorFit_exact_iff :
    acceleratorFit requirement resource = exactAdditiveValues state request requirement resource eligibility
        .acceleratorFit ↔
      (FitsMemory requirement resource →
        (largestMemory resource - requirement.minMemoryBytes.toNat) * 1000000 < 2 ^ 64) := by
  rw [acceleratorFit_eq]
  change _ = ite _ _ _ ↔ _
  by_cases fits : FitsMemory requirement resource
  · rw [if_pos fits, if_pos fits, forall_prop_of_true fits]
    have positive : 0 < largestMemory resource := fits.2.1.trans_le fits.2.2
    have word : largestMemory resource < 2 ^ 64 := by
      rw [← foldl_largestMemory]
      exact UInt64.toNat_lt _
    have unit := @scaled_le (largestMemory resource - requirement.minMemoryBytes.toNat) _ (Nat.sub_le ..)
    unfold exactFit
    rw [clampUnit_of_le unit]
    constructor
    · intro same
      by_contra wraps
      have less := wrapped_quotient_lt positive word (Nat.le_of_not_lt wraps)
      rw [clampUnit_of_le (by omega)] at same
      omega
    · intro small
      rw [Nat.mod_eq_of_lt small, clampUnit_of_le unit]
  · rw [if_neg fits, if_neg fits]
    exact iff_of_true rfl fun holds => absurd holds fits

theorem totalOccupancy_after (resource : ResourceRecord) (eligibility : Eligibility) :
    (resource.totalOccupancy + eligibility.slots).toNat = totalAfter resource eligibility % 2 ^ 32 := by
  unfold totalAfter ResourceRecord.totalOccupancy
  rw [UInt32.toNat_add, UInt32.toNat_add]
  omega

theorem residual_after
    (counted : totalAfter resource eligibility < 2 ^ 32 ∨
      resource.capacity.slots.toNat ≤ totalAfter resource eligibility % 2 ^ 32) :
    (if resource.totalOccupancy + eligibility.slots < resource.capacity.slots then
        resource.capacity.slots - (resource.totalOccupancy + eligibility.slots) else 0).toNat =
      resource.capacity.slots.toNat - totalAfter resource eligibility := by
  have after := totalOccupancy_after resource eligibility
  have bound := resource.capacity.slots.toNat_lt
  split
  · rename_i room
    rw [UInt32.toNat_sub_of_le _ _ (UInt32.le_of_lt room), after]
    rw [UInt32.lt_iff_toNat_lt, after] at room
    omega
  · rename_i full
    rw [UInt32.lt_iff_toNat_lt, after] at full
    rw [UInt32.toNat_zero]
    omega

theorem occupancyFactor_iff (some : resource.capacity.slots.toNat ≠ 0) :
    computeAdditiveValues state request requirement resource eligibility .occupancy =
        exactAdditiveValues state request requirement resource eligibility .occupancy ↔
      totalAfter resource eligibility < 2 ^ 32 ∨
        resource.capacity.slots.toNat ≤ totalAfter resource eligibility % 2 ^ 32 := by
  rw [← occupancy_exact_iff (Nat.pos_of_ne_zero some) resource.capacity.slots.toNat_lt, ← totalOccupancy_after]
  rfl

end Factors

/-- The fixed-point factors are exact if the occupancy to come and the product for the memory keep to their words. -/
theorem additive_factors_exact {state : SchedulerState} {request : ScheduleRequest}
    {requirement : ResourceRequirement} {resource : ResourceRecord} {eligibility : Eligibility} {limits : Limits}
    (valid : validateResourceRecord resource limits = .ok ()) :
    (ExactFactors state request requirement resource eligibility ↔
      (totalAfter resource eligibility < 2 ^ 32 ∨
        resource.capacity.slots.toNat ≤ totalAfter resource eligibility % 2 ^ 32) ∧
      (FitsMemory requirement resource →
        (largestMemory resource - requirement.minMemoryBytes.toNat) * 1000000 < 2 ^ 64)) ∧
      ∀ memory larger, requirement.minMemoryBytes.toNat ≤ memory → memory ≤ larger →
        exactFit requirement.minMemoryBytes.toNat larger ≤ exactFit requirement.minMemoryBytes.toNat memory := by
  refine ⟨?_, fun memory larger => exactFit_antitone⟩
  obtain ⟨slots, -⟩ := validateAdvertisement_capacity (validateResourceRecord_advertisement valid)
  have some : resource.capacity.slots.toNat ≠ 0 := fun none => slots (UInt32.toNat_inj.mp none)
  constructor
  · intro exact
    exact ⟨(occupancyFactor_iff some).mp (exact.values .occupancy),
      acceleratorFit_exact_iff.mp (exact.values .acceleratorFit)⟩
  · intro both
    obtain ⟨counted, fits⟩ := both
    have residual := residual_after counted
    constructor
    case values =>
      intro factor
      cases factor with
      | occupancy => exact (occupancyFactor_iff some).mpr counted
      | residualCapacity => exact congrArg (fun left : Nat => clampUnit (left * 1000000 / _ : Nat)) residual
      | acceleratorFit => exact acceleratorFit_exact_iff.mpr fits
      | fragmentation =>
        unfold computeAdditiveValues exactAdditiveValues
        simp only [UInt32.lt_iff_toNat_lt, UInt32.toNat_zero] at residual ⊢
        rw [residual]
      | _ => rfl
    case slots => exact some
    case occupied =>
      have bound := (resource.totalOccupancy + eligibility.slots).toNat_lt
      omega
    case residual =>
      have bound := resource.capacity.slots.toNat_lt
      omega
    case excess => exact fits
    case memory =>
      intro holds
      have enough := holds.2.2
      have asked := holds.2.1
      omega

namespace Bench

/-- A resource of two attachments, with 6 and 8 GiB. -/
def graphics : ResourceRecord :=
  registeredRecord ⟨1⟩ { advertisement with
    resourceClass := .gpu
    accelerators := [{ id := ⟨3⟩, memoryBytes := 0x180000000 }, { id := ⟨4⟩, memoryBytes := 0x200000000 }] }

def fourGib : ResourceRequirement := { name := ascii "gpu", resourceClass := .gpu, minMemoryBytes := 0x100000000 }

def training : ScheduleRequest := { request 5 1 with requirements := [fourGib] }

end Bench

theorem additive_factors_exact_bench :
    computeAdditiveValues {} Bench.training Bench.fourGib Bench.graphics { eligible := true } .acceleratorFit = 500000 ∧
      ExactFactors {} Bench.training Bench.fourGib Bench.graphics { eligible := true } :=
  ⟨by decide +kernel, (@additive_factors_exact {} Bench.training Bench.fourGib Bench.graphics { eligible := true } {}
    (by decide)).1.mpr ⟨by decide, by decide +kernel⟩⟩

namespace Bench

/-- A resource of one attachment with 32 TiB. -/
def vast : ResourceRecord :=
  registeredRecord ⟨1⟩ { advertisement with
    resourceClass := .gpu
    accelerators := [{ id := ⟨3⟩, memoryBytes := 0x200000000000 }] }

def byte : ResourceRequirement := { name := ascii "gpu", resourceClass := .gpu, minMemoryBytes := 1 }

end Bench

/-- One byte asked of an attachment of 32 TiB: the product wraps, and the fit is that of a smaller attachment. -/
theorem accelerator_fit_wraps :
    validateResourceRecord Bench.vast {} = .ok () ∧
      evaluateResource { Bench.request 5 1 with requirements := [Bench.byte] } Bench.byte Bench.vast {} =
        { eligible := true } ∧
      validateScheduleRequest { Bench.request 5 1 with requirements := [Bench.byte] } {} = .ok () ∧
      computeAdditiveValues {} { Bench.request 5 1 with requirements := [Bench.byte] } Bench.byte Bench.vast
        { eligible := true } .acceleratorFit ≠
      exactAdditiveValues {} { Bench.request 5 1 with requirements := [Bench.byte] } Bench.byte Bench.vast
        { eligible := true } .acceleratorFit := by
  decide

end LabScheduler
