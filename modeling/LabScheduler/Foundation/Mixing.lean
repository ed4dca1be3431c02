import Mathlib.Data.BitVec
import Mathlib.Data.Fintype.EquivFin
import Mathlib.Data.Nat.Prime.Basic

namespace Foundation

variable {width : Nat}

def xorShift (shift : Nat) (word : BitVec width) : BitVec width := word ^^^ (word >>> shift)

theorem xorShift_xorShift (shift : Nat) (word : BitVec width) :
    xorShift shift (xorShift shift word) = xorShift (shift + shift) word := by
  unfold xorShift
  rw [BitVec.ushiftRight_xor_distrib, ← BitVec.shiftRight_add, BitVec.xor_assoc,
    ← BitVec.xor_assoc (word >>> shift), BitVec.xor_self, BitVec.zero_xor]

theorem xorShift_wide {shift : Nat} (wide : width ≤ shift) (word : BitVec width) : xorShift shift word = word := by
  unfold xorShift
  rw [BitVec.ushiftRight_eq_zero wide, BitVec.xor_zero]

theorem xorShift_injective {shift : Nat} (moves : 0 < shift) :
    Function.Injective (xorShift shift : BitVec width → BitVec width) := by
  -- the shift doubles until nothing is left to shift in
  induction remaining : width - shift using Nat.strong_induction_on generalizing shift with
  | h remaining ih =>
    intro first second same
    by_cases wide : width ≤ shift
    · rw [xorShift_wide wide, xorShift_wide wide] at same
      exact same
    · have doubled := congrArg (xorShift shift) same
      rw [xorShift_xorShift, xorShift_xorShift] at doubled
      exact ih (width - (shift + shift)) (by omega) (by omega) rfl doubled

theorem xorShift_bijective {shift : Nat} (moves : 0 < shift) :
    Function.Bijective (xorShift shift : BitVec width → BitVec width) := by
  have finite : Finite (BitVec width) := Finite.of_injective BitVec.toFin BitVec.toFin_injective
  exact Finite.injective_iff_bijective.mp (xorShift_injective moves)

theorem mul_odd_injective {factor : BitVec width} (odd : factor.toNat % 2 = 1) :
    Function.Injective fun word : BitVec width => word * factor := by
  intro first second same
  have cancelled : (first - second) * factor = 0 := by
    rw [sub_mul]
    exact sub_eq_zero.mpr same
  have product := congrArg BitVec.toNat cancelled
  rw [BitVec.toNat_mul] at product
  have coprime : Nat.Coprime (2 ^ width) factor.toNat :=
    Nat.Coprime.pow_left width (Nat.coprime_two_left.mpr (Nat.odd_iff.mpr odd))
  have divides : 2 ^ width ∣ (first - second).toNat :=
    coprime.dvd_of_dvd_mul_right (Nat.dvd_of_mod_eq_zero product)
  have none : (first - second).toNat = 0 := Nat.eq_zero_of_dvd_of_lt divides (first - second).isLt
  exact sub_eq_zero.mp (BitVec.eq_of_toNat_eq none)

theorem mul_odd_bijective {factor : BitVec width} (odd : factor.toNat % 2 = 1) :
    Function.Bijective fun word : BitVec width => word * factor := by
  have finite : Finite (BitVec width) := Finite.of_injective BitVec.toFin BitVec.toFin_injective
  exact Finite.injective_iff_bijective.mp (mul_odd_injective odd)

theorem xor_bijective (mask : BitVec width) : Function.Bijective fun word : BitVec width => word ^^^ mask := by
  have twice : Function.Involutive fun word : BitVec width => word ^^^ mask := by
    intro word
    dsimp only
    rw [BitVec.xor_assoc, BitVec.xor_self, BitVec.xor_zero]
  exact twice.bijective

theorem bijective_of_toBitVec {mixer : UInt64 → UInt64} {onBits : BitVec 64 → BitVec 64}
    (same : ∀ word, (mixer word).toBitVec = onBits word.toBitVec) (bijective : Function.Bijective onBits) :
    Function.Bijective mixer := by
  constructor
  · intro first second equal
    have bits := congrArg UInt64.toBitVec equal
    rw [same, same] at bits
    exact UInt64.toBitVec_inj.mp (bijective.1 bits)
  · intro word
    obtain ⟨bits, mixed⟩ := bijective.2 word.toBitVec
    refine ⟨UInt64.ofBitVec bits, UInt64.toBitVec_inj.mp ?_⟩
    rw [same]
    exact mixed

section Remap

variable {α β : Type*} [DecidableEq β] {f : α → β} {hole filling : β}

theorem remap_eq_iff (injective : Function.Injective f) {a b : α} :
    (if f a = hole then filling else f a) = (if f b = hole then filling else f b) ↔
      a = b ∨ f a = hole ∧ f b = filling ∨ f a = filling ∧ f b = hole := by
  by_cases first : f a = hole
  · by_cases second : f b = hole
    · rw [if_pos first, if_pos second]
      simp [injective (first.trans second.symm)]
    · have apart : a ≠ b := fun same => second (same ▸ first)
      rw [if_pos first, if_neg second]
      simp [first, second, apart, eq_comm]
  · by_cases second : f b = hole
    · have apart : a ≠ b := fun same => first (same ▸ second)
      rw [if_neg first, if_pos second]
      simp [first, second, apart]
    · rw [if_neg first, if_neg second]
      simp [first, second, injective.eq_iff]

end Remap

end Foundation
