import LabScheduler.Foundation.Lexicographic
import LabScheduler.Foundation.Order

namespace LabScheduler

/-- A `std::string`: its bytes. Comparison is bytewise and lexicographic. -/
abbrev Text := List UInt8

instance decidableMemText (text : Text) (texts : List Text) : Decidable (text ∈ texts) := inferInstance

def ascii (literal : String) : Text := literal.toByteArray.data.toList

def kFnvOffsetBasis : UInt64 := 0xcbf29ce484222325
def kFnvPrime : UInt64 := 0x100000001b3

def fnv1a64Continue (seed : UInt64) (bytes : List UInt8) : UInt64 :=
  bytes.foldl (fun hash byte => (hash ^^^ byte.toUInt64) * kFnvPrime) seed

def fnv1a64 (bytes : List UInt8) : UInt64 := fnv1a64Continue kFnvOffsetBasis bytes

def mix64 (value : UInt64) : UInt64 :=
  let value := value + 0x9e3779b97f4a7c15
  let value := (value ^^^ (value >>> 30)) * 0xbf58476d1ce4e5b9
  let value := (value ^^^ (value >>> 27)) * 0x94d049bb133111eb
  value ^^^ (value >>> 31)

/-- `kHexDigits[nibble]`. -/
def hexDigit (nibble : UInt64) : UInt8 :=
  if nibble < 10 then 48 + nibble.toUInt8 else 87 + nibble.toUInt8

def hexU64 (value : UInt64) (width : Nat) : Text :=
  (List.range width).map fun i => hexDigit ((value >>> UInt64.ofNat ((width - 1 - i) * 4)) &&& 0xf)

/-- `static_cast<std::uint32_t>(items.size())`. -/
def lengthU32 {α : Type} (items : List α) : UInt32 := UInt32.ofNat items.length

def toLowerAscii (text : Text) : Text :=
  text.map fun c => if 65 ≤ c ∧ c ≤ 90 then c - 65 + 97 else c

/-- The digit loop of `decimal_u64`, most significant digit first. Twenty turns exhaust any value. -/
def decimalDigits : Nat → UInt64 → Text → Text
  | 0, _, digits => digits
  | turns + 1, value, digits =>
    if value = 0 then digits else decimalDigits turns (value / 10) ((48 + (value % 10).toUInt8) :: digits)

def decimalU64 (value : UInt64) : Text :=
  if value = 0 then ascii "0" else decimalDigits 20 value []

def decimalU32 (value : UInt32) : Text := decimalU64 value.toUInt64

def decimalI64 (value : Int) : Text :=
  if value < 0 then ascii "-" ++ decimalU64 (UInt64.ofNat (-(value + 1)).toNat + 1)
  else decimalU64 (UInt64.ofNat value.toNat)

theorem hexDigit_toNat {nibble : UInt64} (small : nibble.toNat < 16) :
    (hexDigit nibble).toNat = if nibble.toNat < 10 then 48 + nibble.toNat else 87 + nibble.toNat := by
  have zero : (48 : UInt8).toNat = 48 := rfl
  have letter : (87 : UInt8).toNat = 87 := rfl
  unfold hexDigit
  split <;> rename_i below
  · have below : nibble.toNat < 10 := UInt64.lt_iff_toNat_lt.mp below
    rw [if_pos below, UInt8.toNat_add, zero, UInt64.toNat_toUInt8]
    omega
  · have above : ¬ nibble.toNat < 10 := fun less => below (UInt64.lt_iff_toNat_lt.mpr less)
    rw [if_neg above, UInt8.toNat_add, letter, UInt64.toNat_toUInt8]
    omega

theorem hexDigit_lt_iff {a b : UInt64} (smallA : a.toNat < 16) (smallB : b.toNat < 16) :
    (hexDigit a < hexDigit b ↔ a.toNat < b.toNat) ∧ (hexDigit a = hexDigit b ↔ a.toNat = b.toNat) := by
  rw [UInt8.lt_iff_toNat_lt, ← UInt8.toNat_inj, hexDigit_toNat smallA, hexDigit_toNat smallB]
  constructor
  · split <;> split <;> omega
  · split <;> split <;> omega

/-- The digit `hex_u64` writes above `turns` others. -/
def hexNibble (value : UInt64) (turns : Nat) : UInt64 := (value >>> UInt64.ofNat (turns * 4)) &&& 0xf

theorem hexNibble_toNat (value : UInt64) {turns : Nat} (within : turns < 16) :
    (hexNibble value turns).toNat = value.toNat / 16 ^ turns % 16 := by
  have mask : (0xf : UInt64).toNat = 2 ^ 4 - 1 := rfl
  have shift : (UInt64.ofNat (turns * 4)).toNat = turns * 4 :=
    UInt64.toNat_ofNat_of_lt' (by change turns * 4 < 2 ^ 64; omega)
  have power : (2 : Nat) ^ (turns * 4) = 16 ^ turns := by
    rw [Nat.mul_comm, Nat.pow_mul]
  unfold hexNibble
  rw [UInt64.toNat_and, UInt64.toNat_shiftRight, mask, shift, Nat.and_two_pow_sub_one_eq_mod,
    Nat.mod_eq_of_lt (show turns * 4 < 64 by omega), Nat.shiftRight_eq_div_pow, power]

theorem hexU64_succ (value : UInt64) (width : Nat) :
    hexU64 value (width + 1) = hexDigit (hexNibble value width) :: hexU64 value width := by
  unfold hexU64 hexNibble
  rw [List.range_succ_eq_map, List.map_cons, List.map_map]
  congr 1
  apply List.map_congr_left
  intro i member
  have below := List.mem_range.mp member
  have same : width + 1 - 1 - (i + 1) = width - 1 - i := by omega
  simp only [Function.comp_apply, same]

theorem hexU64_length (value : UInt64) (width : Nat) : (hexU64 value width).length = width := by
  simp [hexU64]

theorem hexU64_lt_iff_mod (a b : UInt64) {width : Nat} (within : width ≤ 16) :
    (hexU64 a width < hexU64 b width ↔ a.toNat % 16 ^ width < b.toNat % 16 ^ width) ∧
      (hexU64 a width = hexU64 b width ↔ a.toNat % 16 ^ width = b.toNat % 16 ^ width) := by
  induction width with
  | zero => simp [hexU64, Nat.mod_one]
  | succ width ih =>
    obtain ⟨less, equal⟩ := ih (by omega)
    have firstA : (hexNibble a width).toNat = a.toNat / 16 ^ width % 16 := hexNibble_toNat a (by omega)
    have firstB : (hexNibble b width).toNat = b.toNat / 16 ^ width % 16 := hexNibble_toNat b (by omega)
    have smallA : (hexNibble a width).toNat < 16 := firstA ▸ Nat.mod_lt _ (by omega)
    have smallB : (hexNibble b width).toNat < 16 := firstB ▸ Nat.mod_lt _ (by omega)
    obtain ⟨digitLess, digitEqual⟩ := hexDigit_lt_iff smallA smallB
    have power : 0 < 16 ^ width := Nat.pow_pos (by omega)
    have restA := Nat.mod_lt a.toNat power
    have restB := Nat.mod_lt b.toNat power
    rw [hexU64_succ, hexU64_succ, List.cons_lt_cons_iff, List.cons.injEq, digitLess, digitEqual, less, equal,
      Nat.mod_pow_succ, Nat.mod_pow_succ, ← firstA, ← firstB]
    generalize (hexNibble a width).toNat = digitA at smallA
    generalize (hexNibble b width).toNat = digitB at smallB
    generalize a.toNat % 16 ^ width = lowA at restA ⊢
    generalize b.toNat % 16 ^ width = lowB at restB ⊢
    generalize 16 ^ width = base at power restA restB ⊢
    rcases Nat.lt_trichotomy digitA digitB with before | same | after
    · have gap : base * (digitA + 1) ≤ base * digitB := Nat.mul_le_mul_left base before
      rw [Nat.mul_add] at gap
      constructor <;> constructor <;> intro <;> omega
    · rw [same]
      constructor <;> constructor <;> intro <;> omega
    · have gap : base * (digitB + 1) ≤ base * digitA := Nat.mul_le_mul_left base after
      rw [Nat.mul_add] at gap
      constructor <;> constructor <;> intro <;> omega

theorem hexU64_lt_iff (a b : UInt64) : hexU64 a 16 < hexU64 b 16 ↔ a < b := by
  have whole : (16 : Nat) ^ 16 = 2 ^ 64 := by decide
  have compares := (hexU64_lt_iff_mod a b (Nat.le_refl 16)).1
  rwa [whole, Nat.mod_eq_of_lt a.toNat_lt, Nat.mod_eq_of_lt b.toNat_lt, ← UInt64.lt_iff_toNat_lt] at compares

def isDecimalDigit (c : UInt8) : Bool := decide (48 ≤ c) && decide (c ≤ 57)

/-- The number a run of decimal digits stands for, after the number `start`. -/
def decimalValue (start : Nat) (digits : Text) : Nat :=
  digits.foldl (fun number c => number * 10 + (c.toNat - 48)) start

theorem decimalDigit_toNat (value : UInt64) : (48 + (value % 10).toUInt8).toNat = 48 + value.toNat % 10 := by
  have small : value.toNat % 10 < 10 := Nat.mod_lt _ (by omega)
  have ten : (10 : UInt64).toNat = 10 := rfl
  have base : (48 : UInt8).toNat = 48 := rfl
  rw [UInt8.toNat_add, base, UInt64.toNat_toUInt8, UInt64.toNat_mod, ten]
  omega

theorem decimalDigits_value {turns : Nat} {value : UInt64} (enough : value.toNat < 10 ^ turns) (digits : Text) :
    decimalValue 0 (decimalDigits turns value digits) = decimalValue value.toNat digits := by
  induction turns generalizing value digits with
  | zero =>
    have zero : value.toNat = 0 := by omega
    rw [zero]
    rfl
  | succ turns ih =>
    unfold decimalDigits
    split
    · rename_i zero
      rw [zero]
      rfl
    · have ten : (10 : UInt64).toNat = 10 := rfl
      have quotient : (value / 10).toNat = value.toNat / 10 := by rw [UInt64.toNat_div, ten]
      rw [ih (by rw [quotient]; omega)]
      unfold decimalValue
      rw [List.foldl_cons, quotient, decimalDigit_toNat]
      congr 1
      omega

theorem decimalU64_value (value : UInt64) : decimalValue 0 (decimalU64 value) = value.toNat := by
  unfold decimalU64
  split
  · rename_i zero
    rw [zero]
    decide
  · have bound := value.toNat_lt
    exact decimalDigits_value (by omega) []

theorem decimalU64_injective : Function.Injective decimalU64 := by
  intro a b same
  have values := congrArg (decimalValue 0) same
  rw [decimalU64_value, decimalU64_value] at values
  exact UInt64.toNat_inj.mp values

theorem decimalDigits_digits {turns : Nat} {value : UInt64} {digits : Text}
    (all : ∀ c ∈ digits, isDecimalDigit c) : ∀ c ∈ decimalDigits turns value digits, isDecimalDigit c := by
  induction turns generalizing value digits with
  | zero => exact all
  | succ turns ih =>
    unfold decimalDigits
    split
    · exact all
    · refine ih fun c member => ?_
      rcases List.mem_cons.mp member with rfl | there
      · have number := decimalDigit_toNat value
        have low : (48 : UInt8).toNat = 48 := rfl
        have high : (57 : UInt8).toNat = 57 := rfl
        simp only [isDecimalDigit, Bool.and_eq_true, decide_eq_true_eq, UInt8.le_iff_toNat_le, number, low, high]
        omega
      · exact all c there

theorem decimalU64_digits (value : UInt64) : ∀ c ∈ decimalU64 value, isDecimalDigit c := by
  unfold decimalU64
  split
  · exact List.forall_mem_singleton.mpr rfl
  · exact decimalDigits_digits nofun

example : decimalU64 18446744073709551615 = ascii "18446744073709551615" := by decide

example : hexU64 255 16 = ascii "00000000000000ff" := by decide

end LabScheduler
