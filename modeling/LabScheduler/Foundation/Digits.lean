import Mathlib.Data.List.Basic
import Mathlib.Tactic.Ring

namespace Foundation

/-- Digits and their values, one for each number below the base. -/
structure Alphabet (σ : Type*) where
  base : Nat
  digit : Nat → σ
  value : σ → Option Nat
  value_digit : ∀ n < base, value (digit n) = some n
  digit_value : ∀ {c n}, value c = some n → n < base ∧ digit n = c

namespace Alphabet

variable {σ : Type*} (alphabet : Alphabet σ)

/-- The number that a text continues `start` to, if it is made of digits alone. -/
def number (start : Nat) : List σ → Option Nat
  | [] => some start
  | c :: rest => (alphabet.value c).bind fun digit => number (start * alphabet.base + digit) rest

/-- The last `width` digits of a number. -/
def fixed : Nat → Nat → List σ
  | 0, _ => []
  | width + 1, n => alphabet.digit (n / alphabet.base ^ width % alphabet.base) :: fixed width n

variable {alphabet} {text other : List σ} {start n : Nat}

theorem number_cons {c : σ} {rest : List σ} :
    alphabet.number start (c :: rest) = some n ↔
      ∃ digit, alphabet.value c = some digit ∧ alphabet.number (start * alphabet.base + digit) rest = some n :=
  Option.bind_eq_some_iff

theorem fixed_length (width n : Nat) : (alphabet.fixed width n).length = width := by
  induction width with
  | zero => rfl
  | succ width ih => exact congrArg Nat.succ ih

theorem number_above (numbers : alphabet.number start text = some n) :
    start * alphabet.base ^ text.length ≤ n ∧ n < (start + 1) * alphabet.base ^ text.length := by
  induction text generalizing start with
  | nil =>
    cases numbers
    simp
  | cons c rest ih =>
    obtain ⟨digit, valued, numbers⟩ := number_cons.mp numbers
    obtain ⟨small, -⟩ := alphabet.digit_value valued
    obtain ⟨low, high⟩ := ih numbers
    rw [List.length_cons, Nat.pow_succ']
    generalize alphabet.base ^ rest.length = power at low high ⊢
    constructor
    · calc start * (alphabet.base * power) = start * alphabet.base * power := by ring
        _ ≤ (start * alphabet.base + digit) * power := Nat.mul_le_mul_right _ (Nat.le_add_right ..)
        _ ≤ n := low
    · calc n < (start * alphabet.base + digit + 1) * power := high
        _ ≤ (start * alphabet.base + alphabet.base) * power := Nat.mul_le_mul_right _ (by omega)
        _ = (start + 1) * (alphabet.base * power) := by ring

/-- A loop over machine words reads the number, if each turn appends its digit wherever there is room for the rest. -/
theorem foldlM_number {ω : Type*} {toNat : ω → Nat} (injective : Function.Injective toNat)
    (downward : ∀ word n, n ≤ toNat word → ∃ less, toNat less = n) {step : ω → σ → Option ω}
    (fits : Nat → Nat → Prop)
    (turn : ∀ {left : Nat} {word next : ω} {c : σ}, fits (left + 1) (toNat word) →
      (step word c = some next ↔
        ∃ digit, alphabet.value c = some digit ∧ toNat next = toNat word * alphabet.base + digit))
    (keeps : ∀ {left n digit : Nat}, fits (left + 1) n → digit < alphabet.base →
      fits left (n * alphabet.base + digit))
    {word out : ω} (room : fits text.length (toNat word)) :
    text.foldlM step word = some out ↔ alphabet.number (toNat word) text = some (toNat out) := by
  induction text generalizing word with
  | nil => exact Option.some_inj.trans (injective.eq_iff.symm.trans Option.some_inj.symm)
  | cons c rest ih =>
    rw [List.foldlM_cons, number_cons]
    constructor
    · intro loops
      obtain ⟨next, stepped, later⟩ := Option.bind_eq_some_iff.mp loops
      obtain ⟨digit, valued, same⟩ := (turn room).mp stepped
      refine ⟨digit, valued, ?_⟩
      rw [← same]
      exact (ih (same ▸ keeps room (alphabet.digit_value valued).1)).mp later
    · intro numbers
      obtain ⟨digit, valued, numbers⟩ := numbers
      have small := (alphabet.digit_value valued).1
      -- the number only grows, so what comes before the end is a word as well
      have power : 0 < alphabet.base ^ rest.length := Nat.pow_pos (Nat.zero_lt_of_lt small)
      have low := le_trans (Nat.le_mul_of_pos_right _ power) (number_above numbers).1
      obtain ⟨next, same⟩ := downward out _ low
      refine Option.bind_eq_some_iff.mpr ⟨next, (turn room).mpr ⟨digit, valued, same⟩, ?_⟩
      rw [ih (same ▸ keeps room small), same]
      exact numbers

theorem number_lt (numbers : alphabet.number 0 text = some n) : n < alphabet.base ^ text.length := by
  have bound := (number_above numbers).2
  rwa [Nat.zero_add, Nat.one_mul] at bound

theorem number_injective {begun : Nat} (same : text.length = other.length)
    (first : alphabet.number start text = some n) (second : alphabet.number begun other = some n) :
    text = other ∧ start = begun := by
  induction text generalizing start begun other with
  | nil =>
    cases other with
    | nil => exact ⟨rfl, Option.some_inj.mp (first.trans second.symm)⟩
    | cons => cases same
  | cons c rest ih =>
    cases other with
    | nil => cases same
    | cons d others =>
      obtain ⟨digit, valued, numbers⟩ := number_cons.mp first
      obtain ⟨figure, worth, amounts⟩ := number_cons.mp second
      obtain ⟨small, spelled⟩ := alphabet.digit_value valued
      obtain ⟨little, written⟩ := alphabet.digit_value worth
      obtain ⟨equal, level⟩ := ih (Nat.succ_inj.mp same) numbers amounts
      have base : 0 < alphabet.base := Nat.zero_lt_of_lt small
      have digits := congrArg (· % alphabet.base) level
      simp only [Nat.mul_add_mod_self_right, Nat.mod_eq_of_lt small, Nat.mod_eq_of_lt little] at digits
      rw [← spelled, ← written, digits, equal]
      refine ⟨rfl, ?_⟩
      rw [digits] at level
      exact Nat.eq_of_mul_eq_mul_right base (Nat.add_right_cancel level)

theorem number_fixed (positive : 0 < alphabet.base) (width start n : Nat) :
    alphabet.number start (alphabet.fixed width n) =
      some (start * alphabet.base ^ width + n % alphabet.base ^ width) := by
  induction width generalizing start with
  | zero => simp [fixed, number, Nat.mod_one]
  | succ width ih =>
    refine number_cons.mpr ⟨_, alphabet.value_digit _ (Nat.mod_lt _ positive), ?_⟩
    rw [ih, Nat.mod_pow_succ]
    congr 1
    ring

theorem number_fixed_iff (positive : 0 < alphabet.base) {width : Nat} (small : n < alphabet.base ^ width) :
    text.length = width ∧ alphabet.number 0 text = some n ↔ text = alphabet.fixed width n := by
  have written : alphabet.number 0 (alphabet.fixed width n) = some n := by
    rw [number_fixed positive, Nat.zero_mul, Nat.zero_add, Nat.mod_eq_of_lt small]
  constructor
  · intro both
    obtain ⟨wide, numbers⟩ := both
    exact (number_injective (wide.trans (fixed_length width n).symm) numbers written).1
  · intro same
    rw [same]
    exact ⟨fixed_length width n, written⟩

variable (alphabet) in
/-- A text that spends no digit: zero is the one number that begins with the digit zero. -/
def Canonical (text : List σ) : Prop :=
  text ≠ [] ∧ (1 < text.length → text.head? ≠ some (alphabet.digit 0))

theorem Canonical.le (canonical : alphabet.Canonical text) (long : 1 < text.length)
    (numbers : alphabet.number 0 text = some n) : alphabet.base ^ (text.length - 1) ≤ n := by
  cases text with
  | nil => cases numbers; cases long
  | cons c rest =>
    obtain ⟨digit, valued, numbers⟩ := number_cons.mp numbers
    obtain ⟨-, spelled⟩ := alphabet.digit_value valued
    have lead : digit ≠ 0 := by
      intro zero
      rw [zero] at spelled
      exact canonical.2 long (congrArg some spelled.symm)
    have low := (number_above numbers).1
    rw [Nat.zero_mul, Nat.zero_add] at low
    exact le_trans (Nat.le_mul_of_pos_left _ (Nat.pos_of_ne_zero lead)) low

theorem Canonical.length_le (canonical : alphabet.Canonical text) (numbers : alphabet.number 0 text = some n)
    (proper : 1 < alphabet.base) {width : Nat} (some : 0 < width) (small : n < alphabet.base ^ width) :
    text.length ≤ width := by
  by_contra long
  have low := canonical.le (by omega) numbers
  have power : alphabet.base ^ width ≤ alphabet.base ^ (text.length - 1) :=
    Nat.pow_le_pow_right (by omega) (by omega)
  omega

theorem Canonical.unique (first : alphabet.Canonical text) (second : alphabet.Canonical other)
    (proper : 1 < alphabet.base) (numbers : alphabet.number 0 text = some n)
    (amounts : alphabet.number 0 other = some n) : text = other := by
  have left : 0 < other.length := List.length_pos_of_ne_nil second.1
  have right : 0 < text.length := List.length_pos_of_ne_nil first.1
  have shorter := first.length_le numbers proper left (number_lt amounts)
  have longer := second.length_le amounts proper right (number_lt numbers)
  exact (number_injective (le_antisymm shorter longer) numbers amounts).1

end Alphabet

end Foundation
