import LabScheduler.Canonical
import LabScheduler.Foundation.Digits

namespace LabScheduler

open Foundation

/-- `hex_value`; `none` is its -1. -/
def hexValue (c : UInt8) : Option UInt8 :=
  if 48 ≤ c ∧ c ≤ 57 then some (c - 48)
  else if 97 ≤ c ∧ c ≤ 102 then some (c - 97 + 10)
  else none

/-- One turn of the loop of `hex_u64_decode`. -/
def hexStep (value : UInt64) (c : UInt8) : Option UInt64 :=
  (hexValue c).map fun digit => (value <<< 4) ||| digit.toUInt64

def hexU64Decode (text : Text) (width : Nat) : Option UInt64 :=
  if text.length = width then text.foldlM hexStep 0 else none

/-- One turn of the loop of `parse_decimal_u64`. -/
def decimalStep (value : UInt64) (c : UInt8) : Option UInt64 :=
  if c < 48 ∨ 57 < c then none
  else
    let digit := (c - 48).toUInt64
    if (0xffffffffffffffff - digit) / 10 < value then none else some (value * 10 + digit)

def parseDecimalU64 (text : Text) : Option UInt64 :=
  if text = [] ∨ 20 < text.length then none
  else if 1 < text.length ∧ text.head? = some 48 then none
  else text.foldlM decimalStep 0

def parseDecimalI64 (text : Text) : Option Int64 :=
  if text = [] then none
  else
    let negative := text.head? = some 45
    match parseDecimalU64 (if negative then text.drop 1 else text) with
    | none => none
    | some magnitude =>
      if negative then
        if 0x8000000000000000 < magnitude then none
        else if magnitude = 0x8000000000000000 then some Int64.minValue
        else some (-magnitude.toInt64)
      else if Int64.maxValue.toUInt64 < magnitude then none
      else some magnitude.toInt64

theorem hexValue_toNat {c digit : UInt8} (valued : hexValue c = some digit) :
    digit.toNat < 16 ∧ c.toNat = if digit.toNat < 10 then 48 + digit.toNat else 87 + digit.toNat := by
  have zero : (48 : UInt8).toNat = 48 := rfl
  have nine : (57 : UInt8).toNat = 57 := rfl
  have a : (97 : UInt8).toNat = 97 := rfl
  have f : (102 : UInt8).toNat = 102 := rfl
  have ten : (10 : UInt8).toNat = 10 := rfl
  unfold hexValue at valued
  split at valued
  · rename_i decimal
    cases valued
    obtain ⟨low, high⟩ := decimal
    rw [UInt8.le_iff_toNat_le] at high
    have lower : 48 ≤ c.toNat := UInt8.le_iff_toNat_le.mp low
    rw [UInt8.toNat_sub_of_le _ _ low]
    split <;> omega
  · split at valued
    · rename_i letter
      cases valued
      obtain ⟨low, high⟩ := letter
      rw [UInt8.le_iff_toNat_le] at high
      have lower : 97 ≤ c.toNat := UInt8.le_iff_toNat_le.mp low
      rw [UInt8.toNat_add, UInt8.toNat_sub_of_le _ _ low]
      split <;> omega
    · cases valued

/-- The sixteen digits of `kHexDigits`. -/
def hexAlphabet : Alphabet UInt8 where
  base := 16
  digit n := hexDigit (UInt64.ofNat n)
  value c := (hexValue c).map UInt8.toNat
  value_digit := by decide
  digit_value := by
    intro c n valued
    obtain ⟨digit, found, rfl⟩ := Option.map_eq_some_iff.mp valued
    obtain ⟨small, spelled⟩ := hexValue_toNat found
    have same : (UInt64.ofNat digit.toNat).toNat = digit.toNat :=
      UInt64.toNat_ofNat_of_lt' (by change _ < 2 ^ 64; omega)
    refine ⟨small, UInt8.toNat_inj.mp ?_⟩
    rw [hexDigit_toNat (by rw [same]; exact small), same, spelled]

def decimalAlphabet : Alphabet UInt8 where
  base := 10
  digit n := 48 + UInt8.ofNat n
  value c := if isDecimalDigit c then some (c.toNat - 48) else none
  value_digit := by decide
  digit_value := by
    intro c n valued
    split at valued
    · rename_i decimal
      cases valued
      simp only [isDecimalDigit, Bool.and_eq_true, decide_eq_true_eq, UInt8.le_iff_toNat_le] at decimal
      have zero : (48 : UInt8).toNat = 48 := rfl
      have nine : (57 : UInt8).toNat = 57 := rfl
      have bound := c.toNat_lt
      have small : c.toNat - 48 < 10 := by omega
      refine ⟨small, UInt8.toNat_inj.mp ?_⟩
      rw [UInt8.toNat_add, UInt8.toNat_ofNat_of_lt' (by change _ < 2 ^ 8; omega)]
      omega
    · cases valued

theorem word_injective : Function.Injective UInt64.toNat := fun _ _ same => UInt64.toNat_inj.mp same

theorem word_downward (word : UInt64) (n : Nat) (less : n ≤ word.toNat) : ∃ below : UInt64, below.toNat = n :=
  ⟨UInt64.ofNat n, UInt64.toNat_ofNat_of_lt' (lt_of_le_of_lt less word.toNat_lt)⟩

section Hex

theorem hexStep_toNat {value next : UInt64} {c : UInt8} (room : value.toNat < 2 ^ 60) :
    hexStep value c = some next ↔
      ∃ digit, hexAlphabet.value c = some digit ∧ next.toNat = value.toNat * 16 + digit := by
  have shifted (digit : UInt8) (small : digit.toNat < 16) :
      ((value <<< 4) ||| digit.toUInt64).toNat = value.toNat * 16 + digit.toNat := by
    have moved : (value <<< 4).toNat = value.toNat <<< 4 := by
      have four : (4 : UInt64).toNat = 4 := rfl
      have fits : value.toNat <<< 4 < 2 ^ 64 := by
        rw [Nat.shiftLeft_eq]
        omega
      rw [UInt64.toNat_shiftLeft, four]
      exact Nat.mod_eq_of_lt fits
    rw [UInt64.toNat_or, moved, UInt8.toNat_toUInt64, ← Nat.shiftLeft_add_eq_or_of_lt (by omega), Nat.shiftLeft_eq]
  unfold hexStep
  constructor
  · intro stepped
    obtain ⟨digit, found, rfl⟩ := Option.map_eq_some_iff.mp stepped
    exact ⟨digit.toNat, congrArg (Option.map UInt8.toNat) found, shifted digit (hexValue_toNat found).1⟩
  · intro appended
    obtain ⟨number, valued, same⟩ := appended
    obtain ⟨digit, found, rfl⟩ := Option.map_eq_some_iff.mp valued
    refine Option.map_eq_some_iff.mpr ⟨digit, found, UInt64.toNat_inj.mp ?_⟩
    rw [shifted digit (hexValue_toNat found).1, same]

theorem hexLoop {text : Text} {out : UInt64} (within : text.length ≤ 16) :
    text.foldlM hexStep 0 = some out ↔ hexAlphabet.number 0 text = some out.toNat := by
  let fits (left n : Nat) : Prop := (n + 1) * 16 ^ left ≤ 16 ^ 16
  have turn {left : Nat} {value next : UInt64} {c : UInt8} (room : fits (left + 1) value.toNat) :
      hexStep value c = some next ↔
        ∃ digit, hexAlphabet.value c = some digit ∧ next.toNat = value.toNat * 16 + digit := by
    apply hexStep_toNat
    have power : 16 ^ 1 ≤ 16 ^ (left + 1) := Nat.pow_le_pow_right (by omega) (by omega)
    have free := (Nat.mul_le_mul_left (value.toNat + 1) power).trans room
    omega
  have keeps {left n digit : Nat} (room : fits (left + 1) n) (small : digit < 16) : fits left (n * 16 + digit) := by
    calc (n * 16 + digit + 1) * 16 ^ left ≤ (n + 1) * 16 * 16 ^ left := Nat.mul_le_mul_right _ (by omega)
      _ = (n + 1) * 16 ^ (left + 1) := by rw [Nat.pow_succ', Nat.mul_assoc]
      _ ≤ 16 ^ 16 := room
  have room : fits text.length (0 : UInt64).toNat := by
    show (0 + 1) * 16 ^ text.length ≤ 16 ^ 16
    rw [Nat.zero_add, Nat.one_mul]
    exact Nat.pow_le_pow_right (by omega) within
  exact Alphabet.foldlM_number word_injective word_downward fits turn keeps room

theorem hexU64_fixed (value : UInt64) {width : Nat} (within : width ≤ 16) :
    hexU64 value width = hexAlphabet.fixed width value.toNat := by
  induction width with
  | zero => rfl
  | succ width ih =>
    rw [hexU64_succ, ih (by omega)]
    have nibble : hexNibble value width = UInt64.ofNat (value.toNat / 16 ^ width % 16) := by
      rw [← hexNibble_toNat value (by omega), UInt64.ofNat_toNat]
    rw [nibble]
    rfl

theorem hexU64Decode_eq_some {text : Text} {value : UInt64} :
    hexU64Decode text 16 = some value ↔ text = hexU64 value 16 := by
  have whole : hexAlphabet.base ^ 16 = 2 ^ 64 := by decide
  rw [hexU64_fixed value le_rfl, ← Alphabet.number_fixed_iff (by decide) (whole ▸ value.toNat_lt)]
  unfold hexU64Decode
  split
  · rename_i wide
    simp only [wide, true_and]
    exact hexLoop wide.le
  · rename_i other
    simp [other]

end Hex

section Decimal

theorem decimalStep_toNat {value next : UInt64} {c : UInt8} :
    decimalStep value c = some next ↔
      ∃ digit, decimalAlphabet.value c = some digit ∧ next.toNat = value.toNat * 10 + digit := by
  have zero : (48 : UInt8).toNat = 48 := rfl
  have nine : (57 : UInt8).toNat = 57 := rfl
  have most : (0xffffffffffffffff : UInt64).toNat = 2 ^ 64 - 1 := rfl
  have ten : (10 : UInt64).toNat = 10 := rfl
  have decimal : isDecimalDigit c = true ↔ ¬ (c < 48 ∨ 57 < c) := by
    simp only [isDecimalDigit, Bool.and_eq_true, decide_eq_true_eq, UInt8.le_iff_toNat_le, UInt8.lt_iff_toNat_lt]
    omega
  have bound := value.toNat_lt
  unfold decimalStep
  split
  · rename_i outside
    have none : decimalAlphabet.value c = none := if_neg fun digit => decimal.mp digit outside
    simp [none]
  · rename_i inside
    have valued : decimalAlphabet.value c = some (c.toNat - 48) := if_pos (decimal.mpr inside)
    simp only [UInt8.lt_iff_toNat_lt] at inside
    have digit : (c - 48).toUInt64.toNat = c.toNat - 48 := by
      rw [UInt8.toNat_toUInt64, UInt8.toNat_sub_of_le _ _ (UInt8.le_iff_toNat_le.mpr (by omega)), zero]
    have limit : ((0xffffffffffffffff - (c - 48).toUInt64) / 10).toNat = (2 ^ 64 - 1 - (c.toNat - 48)) / 10 := by
      have below : (c - 48).toUInt64 ≤ 0xffffffffffffffff := by
        rw [UInt64.le_iff_toNat_le, digit]
        omega
      rw [UInt64.toNat_div, UInt64.toNat_sub_of_le _ _ below, digit, most, ten]
    extract_lets figure
    split
    · rename_i large
      rw [UInt64.lt_iff_toNat_lt, limit] at large
      have next_bound := next.toNat_lt
      constructor
      · intro impossible
        cases impossible
      · intro appended
        obtain ⟨number, found, same⟩ := appended
        cases Option.some_inj.mp (valued.symm.trans found)
        omega
    · rename_i fits
      rw [UInt64.lt_iff_toNat_lt, limit] at fits
      have sum : (value * 10 + figure).toNat = value.toNat * 10 + (c.toNat - 48) := by
        rw [UInt64.toNat_add, UInt64.toNat_mul, ten, digit]
        omega
      constructor
      · intro stepped
        cases stepped
        exact ⟨_, valued, sum⟩
      · intro appended
        obtain ⟨number, found, same⟩ := appended
        cases Option.some_inj.mp (valued.symm.trans found)
        exact congrArg some (UInt64.toNat_inj.mp (sum.trans same.symm))

theorem decimalLoop {text : Text} {out : UInt64} :
    text.foldlM decimalStep 0 = some out ↔ decimalAlphabet.number 0 text = some out.toNat :=
  Alphabet.foldlM_number word_injective word_downward (fun _ _ => True) (fun _ => decimalStep_toNat)
    (fun _ _ => trivial) trivial

theorem decimal_number {text : Text} {start : Nat} (digits : ∀ c ∈ text, isDecimalDigit c) :
    decimalAlphabet.number start text = some (decimalValue start text) := by
  induction text generalizing start with
  | nil => rfl
  | cons c rest ih =>
    obtain ⟨first, others⟩ := List.forall_mem_cons.mp digits
    exact Alphabet.number_cons.mpr ⟨_, if_pos first, ih others⟩

theorem decimalU64_number (value : UInt64) : decimalAlphabet.number 0 (decimalU64 value) = some value.toNat := by
  rw [decimal_number (decimalU64_digits value), decimalU64_value]

theorem decimalDigits_head {turns : Nat} {value : UInt64} (some : value ≠ 0) (enough : value.toNat < 10 ^ turns)
    (digits : Text) : ∃ c rest, decimalDigits turns value digits = c :: rest ∧ c ≠ 48 := by
  have ten : (10 : UInt64).toNat = 10 := rfl
  have zero : (0 : UInt64).toNat = 0 := rfl
  have base : (48 : UInt8).toNat = 48 := rfl
  have positive : value.toNat ≠ 0 := fun none => some (UInt64.toNat_inj.mp none)
  induction turns generalizing value digits with
  | zero => omega
  | succ turns ih =>
    have quotient : (value / 10).toNat = value.toNat / 10 := by rw [UInt64.toNat_div, ten]
    unfold decimalDigits
    rw [if_neg some]
    by_cases last : value / 10 = 0
    · have one : decimalDigits turns (value / 10) ((48 + (value % 10).toUInt8) :: digits) =
          (48 + (value % 10).toUInt8) :: digits := by
        rw [last]
        cases turns <;> rfl
      refine ⟨_, _, one, fun same => ?_⟩
      have number := congrArg UInt8.toNat same
      rw [decimalDigit_toNat, base] at number
      have small : value.toNat / 10 = 0 := by rw [← quotient, last, zero]
      omega
    · exact ih last (by rw [quotient]; omega) _ fun none => last (UInt64.toNat_inj.mp none)

theorem decimalU64_canonical (value : UInt64) : decimalAlphabet.Canonical (decimalU64 value) := by
  unfold decimalU64
  split
  · exact ⟨by decide, by decide⟩
  · rename_i some
    have bound := value.toNat_lt
    obtain ⟨c, rest, written, lead⟩ := decimalDigits_head some (show value.toNat < 10 ^ 20 by omega) []
    rw [written]
    refine ⟨List.cons_ne_nil _ _, fun _ same => lead ?_⟩
    exact Option.some_inj.mp same

theorem parseDecimalU64_eq_some {text : Text} {value : UInt64} :
    parseDecimalU64 text = some value ↔ text = decimalU64 value := by
  have canonical : decimalAlphabet.Canonical text ↔ text ≠ [] ∧ ¬ (1 < text.length ∧ text.head? = some 48) :=
    and_congr_right fun _ => not_and.symm
  constructor
  · intro parsed
    unfold parseDecimalU64 at parsed
    split at parsed
    · cases parsed
    · rename_i within
      split at parsed
      · cases parsed
      · rename_i lead
        have own : decimalAlphabet.Canonical text := canonical.mpr ⟨fun empty => within (.inl empty), lead⟩
        exact own.unique (decimalU64_canonical value) (by decide) (decimalLoop.mp parsed) (decimalU64_number value)
  · intro same
    have bound := value.toNat_lt
    have own := canonical.mp (same ▸ decimalU64_canonical value)
    have numbers : decimalAlphabet.number 0 text = some value.toNat := same ▸ decimalU64_number value
    have short : text.length ≤ 20 :=
      (canonical.mpr own).length_le numbers (by decide) (by decide) (by change _ < 10 ^ 20; omega)
    unfold parseDecimalU64
    rw [if_neg (by simp [own.1, short]), if_neg own.2]
    exact decimalLoop.mpr numbers

end Decimal

section Signed

theorem toInt64_eq (magnitude : UInt64) : magnitude.toInt64 = Int64.ofNat magnitude.toNat := by
  apply Int64.toBitVec_inj.mp
  rw [UInt64.toBitVec_toInt64, Int64.toBitVec_ofNat', UInt64.toNat, BitVec.ofNat_toNat, BitVec.setWidth_eq]

theorem negated_toInt {magnitude : UInt64} (within : magnitude.toNat ≤ 2 ^ 63) :
    (if magnitude = 0x8000000000000000 then Int64.minValue else -magnitude.toInt64).toInt = -magnitude.toNat := by
  split
  · rename_i least
    rw [least]
    rfl
  · rw [toInt64_eq, Int64.toInt_neg_ofNat_of_le within]

theorem decimalI64_negative {value : Int} {magnitude : UInt64} (positive : 0 < magnitude.toNat)
    (same : value = -magnitude.toNat) : decimalI64 value = 45 :: decimalU64 magnitude := by
  have bound := magnitude.toNat_lt
  have one : (1 : UInt64).toNat = 1 := rfl
  have rest : UInt64.ofNat (-(value + 1)).toNat + 1 = magnitude := by
    apply UInt64.toNat_inj.mp
    rw [UInt64.toNat_add, one, UInt64.toNat_ofNat_of_lt' (by change _ < 2 ^ 64; omega)]
    omega
  unfold decimalI64
  rw [if_pos (by omega), rest]
  rfl

theorem decimalI64_natural {value : Int} {magnitude : UInt64} (same : value = magnitude.toNat) :
    decimalI64 value = decimalU64 magnitude := by
  unfold decimalI64
  rw [if_neg (by omega), same, Int.toNat_natCast, UInt64.ofNat_toNat]

theorem decimalU64_ne (magnitude : UInt64) (rest : Text) : decimalU64 magnitude ≠ 45 :: rest := by
  intro same
  have digit := decimalU64_digits magnitude 45 (same ▸ List.mem_cons_self)
  exact absurd digit (by decide)

theorem parseDecimalI64_negative {rest : Text} {value : Int64} :
    parseDecimalI64 (45 :: rest) = some value ↔
      ∃ magnitude : UInt64, rest = decimalU64 magnitude ∧ magnitude.toNat ≤ 2 ^ 63 ∧ value.toInt = -magnitude.toNat := by
  have most : (0x8000000000000000 : UInt64).toNat = 2 ^ 63 := rfl
  unfold parseDecimalI64
  simp only [reduceCtorEq, if_false, List.head?_cons, if_true, List.drop_succ_cons, List.drop_zero,
    ← parseDecimalU64_eq_some]
  cases parseDecimalU64 rest with
  | none => simp
  | some magnitude =>
    simp only [Option.some_inj, exists_eq_left']
    by_cases large : 0x8000000000000000 < magnitude
    · rw [if_pos large]
      rw [UInt64.lt_iff_toNat_lt, most] at large
      exact iff_of_false (by simp) fun both => absurd both.1 (not_le.mpr large)
    · rw [if_neg large, ← apply_ite some]
      rw [UInt64.lt_iff_toNat_lt, most, not_lt] at large
      rw [Option.some_inj, ← Int64.toInt_inj, negated_toInt large, and_iff_right large, eq_comm]

theorem parseDecimalI64_natural {text : Text} (unsigned : text.head? ≠ some 45) {value : Int64} :
    parseDecimalI64 text = some value ↔
      ∃ magnitude : UInt64, text = decimalU64 magnitude ∧ magnitude.toNat < 2 ^ 63 ∧ value.toInt = magnitude.toNat := by
  have most : Int64.maxValue.toUInt64.toNat = 2 ^ 63 - 1 := rfl
  unfold parseDecimalI64
  simp only [if_neg unsigned, ← parseDecimalU64_eq_some]
  split
  · rename_i empty
    rw [empty]
    simp [parseDecimalU64]
  · cases parseDecimalU64 text with
    | none => simp
    | some magnitude =>
      simp only [Option.some_inj, exists_eq_left']
      by_cases large : Int64.maxValue.toUInt64 < magnitude
      · rw [if_pos large]
        rw [UInt64.lt_iff_toNat_lt, most] at large
        exact iff_of_false (by simp) fun both => absurd both.1 (by omega)
      · rw [if_neg large]
        rw [UInt64.lt_iff_toNat_lt, most] at large
        have small : magnitude.toNat < 2 ^ 63 := by omega
        rw [Option.some_inj, ← Int64.toInt_inj, toInt64_eq, Int64.toInt_ofNat_of_lt small, and_iff_right small, eq_comm]

theorem parseDecimalI64_decimalI64 (value : Int64) : parseDecimalI64 (decimalI64 value.toInt) = some value := by
  have low := value.le_toInt
  have high := value.toInt_lt
  let magnitude := UInt64.ofNat value.toInt.natAbs
  have number : magnitude.toNat = value.toInt.natAbs := UInt64.toNat_ofNat_of_lt' (by change _ < 2 ^ 64; omega)
  by_cases negative : value.toInt < 0
  · have same : value.toInt = -magnitude.toNat := by omega
    rw [decimalI64_negative (by omega) same]
    exact parseDecimalI64_negative.mpr ⟨magnitude, rfl, by omega, same⟩
  · have same : value.toInt = magnitude.toNat := by omega
    rw [decimalI64_natural same]
    refine (parseDecimalI64_natural fun sign => ?_).mpr ⟨magnitude, rfl, by omega, same⟩
    obtain ⟨rest, written⟩ := List.head?_eq_some_iff.mp sign
    exact decimalU64_ne magnitude rest written

theorem parseDecimalI64_canonical {text : Text} (other : text ≠ ascii "-0") {value : Int64}
    (parsed : parseDecimalI64 text = some value) : text = decimalI64 value.toInt := by
  by_cases signed : text.head? = some 45
  · obtain ⟨rest, rfl⟩ := List.head?_eq_some_iff.mp signed
    obtain ⟨magnitude, rfl, -, same⟩ := parseDecimalI64_negative.mp parsed
    have positive : 0 < magnitude.toNat := by
      apply Nat.pos_of_ne_zero
      intro zero
      have none : magnitude = 0 := UInt64.toNat_inj.mp zero
      rw [none] at other
      exact other (by decide)
    exact (decimalI64_negative positive same).symm
  · obtain ⟨magnitude, rfl, -, same⟩ := (parseDecimalI64_natural signed).mp parsed
    exact (decimalI64_natural same).symm

/-- The unsigned parser reads what the printer writes and nothing else; the signed one reads one form more, that of a
    negative zero. -/
theorem decimal_parsing_canonical (text : Text) :
    (∀ value, parseDecimalU64 text = some value ↔ text = decimalU64 value) ∧
      ((∀ value : Int64, parseDecimalI64 text = some value ↔ text = decimalI64 value.toInt) ↔ text ≠ ascii "-0") := by
  refine ⟨fun _ => parseDecimalU64_eq_some, fun canonical same => ?_, fun other value => ?_⟩
  · have read : parseDecimalI64 text = some 0 := by
      rw [same]
      decide
    rw [(canonical 0).mp read] at same
    exact absurd same (by decide)
  · constructor
    · intro parsed
      exact parseDecimalI64_canonical other parsed
    · intro same
      rw [same]
      exact parseDecimalI64_decimalI64 value

theorem negative_zero_parses :
    ¬ ∀ text (value : Int64), parseDecimalI64 text = some value ↔ text = decimalI64 value.toInt := by
  intro canonical
  have written := (canonical (ascii "-0") 0).mp (by decide)
  exact absurd written (by decide)

end Signed

end LabScheduler
