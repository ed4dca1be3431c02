import LabScheduler.Error
import LabScheduler.Foundation.Decoding

namespace LabScheduler

open Foundation

/-- A `std::span<const std::byte>`, as far as its bytes go. -/
abbrev Bytes := List UInt8

namespace ByteWriter

def u8 (value : UInt8) : Bytes := [value]

def u16 (value : UInt16) : Bytes :=
  [u8 (value &&& 0xff).toUInt8, u8 ((value >>> 8) &&& 0xff).toUInt8].flatten

def u32 (value : UInt32) : Bytes :=
  [u16 (value &&& 0xffff).toUInt16, u16 ((value >>> 16) &&& 0xffff).toUInt16].flatten

def u64 (value : UInt64) : Bytes :=
  [u32 (value &&& 0xffffffff).toUInt32, u32 ((value >>> 32) &&& 0xffffffff).toUInt32].flatten

def boolean (value : Bool) : Bytes := u8 (if value then 1 else 0)

def str (text : Text) : Bytes := [u32 (lengthU32 text), text].flatten

end ByteWriter

structure ByteReader where
  bytes : Bytes
  offset : Nat := 0
  failure : ErrorCode := .protocolError

instance : Source ByteReader UInt8 where
  rest reader := reader.bytes.drop reader.offset
  skip reader count := { reader with offset := reader.offset + count }
  skip_zero _ := rfl
  skip_skip reader m n := by simp only [Nat.add_assoc]
  rest_skip reader n := by simp only [List.drop_drop]

/-- A function of a reader, the bytes it refuses left unread. -/
abbrev Decoder (α : Type) := Reader ByteReader Status α

namespace ByteReader

def remaining (reader : ByteReader) : Nat := reader.bytes.length - reader.offset

def atEnd (reader : ByteReader) : Bool := reader.offset == reader.bytes.length

def fail {α : Type} (what : Text) : Decoder α := fun reader =>
  .error ⟨reader.failure,
    ascii "decoding failed at offset " ++ decimalU64 (UInt64.ofNat reader.offset) ++ ascii ": " ++ what⟩

def u8 : Decoder UInt8 := fun reader =>
  if inside : reader.offset < reader.bytes.length then .ok (reader.bytes[reader.offset], Source.skip reader 1)
  else fail (ascii "truncated u8") reader

def u16 : Decoder UInt16 := do
  let lo ← u8
  let hi ← u8
  return lo.toUInt16 ||| (hi.toUInt16 <<< 8)

def u32 : Decoder UInt32 := do
  let lo ← u16
  let hi ← u16
  return lo.toUInt32 ||| (hi.toUInt32 <<< 16)

def u64 : Decoder UInt64 := do
  let lo ← u32
  let hi ← u32
  return lo.toUInt64 ||| (hi.toUInt64 <<< 32)

def boolean : Decoder Bool := do
  let value ← u8
  if 1 < value then fail (ascii "non-canonical boolean") else return value != 0

def text (maxLength length : UInt32) : Decoder Text := fun reader =>
  if maxLength < length then fail (ascii "string length exceeds configured bound") reader
  else if reader.remaining < length.toNat then fail (ascii "truncated string") reader
  else .ok ((reader.bytes.drop reader.offset).take length.toNat, Source.skip reader length.toNat)

def str (maxLength : UInt32) : Decoder Text := do
  let length ← u32
  text maxLength length

def count (maxCount : UInt32) : Decoder UInt32 := do
  let value ← u32
  if maxCount < value then fail (ascii "record count exceeds configured bound") else return value

def requireEnd : Decoder Unit := fun reader =>
  if reader.atEnd then .ok ((), reader) else fail (ascii "trailing bytes after payload") reader

variable {reader after : ByteReader}

@[simp] theorem fail_ne_ok {α : Type} {what : Text} {value : α} : fail what reader ≠ .ok (value, after) := nofun

@[simp] theorem u8_length (value : UInt8) : (ByteWriter.u8 value).length = 1 := rfl

@[simp] theorem boolean_length (value : Bool) : (ByteWriter.boolean value).length = 1 := rfl

@[simp] theorem u16_length (value : UInt16) : (ByteWriter.u16 value).length = 2 := rfl

@[simp] theorem u32_length (value : UInt32) : (ByteWriter.u32 value).length = 4 := rfl

@[simp] theorem u64_length (value : UInt64) : (ByteWriter.u64 value).length = 8 := rfl

@[simp] theorem str_length (text : Text) : (ByteWriter.str text).length = 4 + text.length := by
  simp [ByteWriter.str]

theorem u8_decodes : Decodes ByteWriter.u8 id u8 (fun _ => True) := by
  intro reader value after
  unfold u8
  by_cases inside : reader.offset < reader.bytes.length
  · rw [dif_pos inside]
    have rest : Source.rest reader = reader.bytes[reader.offset] :: reader.bytes.drop (reader.offset + 1) :=
      List.drop_eq_getElem_cons inside
    constructor
    · intro read
      cases read
      exact ⟨_, trivial, rfl, ⟨_, rest.symm⟩, rfl⟩
    · intro wire
      obtain ⟨_, -, rfl, ⟨tail, there⟩, rfl⟩ := wire
      rw [rest] at there
      cases (List.cons.inj there).1
      rfl
  · rw [dif_neg inside]
    refine iff_of_false fail_ne_ok fun wire => ?_
    obtain ⟨_, -, -, ⟨tail, there⟩, -⟩ := wire
    have past : Source.rest reader = [] := List.drop_eq_nil_of_le (Nat.not_lt.mp inside)
    rw [past] at there
    cases there

theorem halves {value lo hi bits : Nat} (small : lo < 2 ^ bits) :
    value % 2 ^ bits = lo ∧ value / 2 ^ bits = hi ↔ value = lo ||| hi <<< bits := by
  have joined : lo ||| hi <<< bits = lo + 2 ^ bits * hi := by
    rw [Nat.shiftLeft_eq, Nat.mul_comm, Nat.or_comm, ← Nat.two_pow_add_eq_or_of_lt small, Nat.add_comm]
  have positive : 0 < 2 ^ bits := Nat.two_pow_pos bits
  rw [joined]
  constructor
  · intro both
    rw [← both.1, ← both.2, Nat.mod_add_div]
  · intro same
    rw [same, Nat.add_mul_mod_self_left, Nat.mod_eq_of_lt small, Nat.add_mul_div_left _ _ positive,
      Nat.div_eq_of_lt small, Nat.zero_add]
    exact ⟨rfl, rfl⟩

theorem u16_halves (lo hi : UInt8) (value : UInt16) :
    (value &&& 0xff).toUInt8 = lo ∧ ((value >>> 8) &&& 0xff).toUInt8 = hi ↔
      value = lo.toUInt16 ||| (hi.toUInt16 <<< 8) := by
  have mask : (0xff : UInt16).toNat = 2 ^ 8 - 1 := rfl
  have shift : (8 : UInt16).toNat % 16 = 8 := rfl
  have bound := value.toNat_lt
  have small := lo.toNat_lt
  have large := hi.toNat_lt
  have low : (value &&& 0xff).toUInt8.toNat = value.toNat % 2 ^ 8 := by
    rw [UInt16.toNat_toUInt8, UInt16.toNat_and, mask, Nat.and_two_pow_sub_one_eq_mod]
    omega
  have high : ((value >>> 8) &&& 0xff).toUInt8.toNat = value.toNat / 2 ^ 8 := by
    rw [UInt16.toNat_toUInt8, UInt16.toNat_and, mask, Nat.and_two_pow_sub_one_eq_mod, UInt16.toNat_shiftRight, shift,
      Nat.shiftRight_eq_div_pow]
    omega
  have word : (lo.toUInt16 ||| (hi.toUInt16 <<< 8)).toNat = lo.toNat ||| hi.toNat <<< 8 := by
    rw [UInt16.toNat_or, UInt16.toNat_shiftLeft, UInt8.toNat_toUInt16, UInt8.toNat_toUInt16, shift,
      Nat.mod_eq_of_lt (by rw [Nat.shiftLeft_eq]; omega)]
  rw [← UInt8.toNat_inj, ← UInt8.toNat_inj, ← UInt16.toNat_inj, low, high, word]
  exact halves small

theorem u32_halves (lo hi : UInt16) (value : UInt32) :
    (value &&& 0xffff).toUInt16 = lo ∧ ((value >>> 16) &&& 0xffff).toUInt16 = hi ↔
      value = lo.toUInt32 ||| (hi.toUInt32 <<< 16) := by
  have mask : (0xffff : UInt32).toNat = 2 ^ 16 - 1 := rfl
  have shift : (16 : UInt32).toNat % 32 = 16 := rfl
  have bound := value.toNat_lt
  have small := lo.toNat_lt
  have large := hi.toNat_lt
  have low : (value &&& 0xffff).toUInt16.toNat = value.toNat % 2 ^ 16 := by
    rw [UInt32.toNat_toUInt16, UInt32.toNat_and, mask, Nat.and_two_pow_sub_one_eq_mod]
    omega
  have high : ((value >>> 16) &&& 0xffff).toUInt16.toNat = value.toNat / 2 ^ 16 := by
    rw [UInt32.toNat_toUInt16, UInt32.toNat_and, mask, Nat.and_two_pow_sub_one_eq_mod, UInt32.toNat_shiftRight, shift,
      Nat.shiftRight_eq_div_pow]
    omega
  have word : (lo.toUInt32 ||| (hi.toUInt32 <<< 16)).toNat = lo.toNat ||| hi.toNat <<< 16 := by
    rw [UInt32.toNat_or, UInt32.toNat_shiftLeft, UInt16.toNat_toUInt32, UInt16.toNat_toUInt32, shift,
      Nat.mod_eq_of_lt (by rw [Nat.shiftLeft_eq]; omega)]
  rw [← UInt16.toNat_inj, ← UInt16.toNat_inj, ← UInt32.toNat_inj, low, high, word]
  exact halves small

theorem u64_halves (lo hi : UInt32) (value : UInt64) :
    (value &&& 0xffffffff).toUInt32 = lo ∧ ((value >>> 32) &&& 0xffffffff).toUInt32 = hi ↔
      value = lo.toUInt64 ||| (hi.toUInt64 <<< 32) := by
  have mask : (0xffffffff : UInt64).toNat = 2 ^ 32 - 1 := rfl
  have shift : (32 : UInt64).toNat % 64 = 32 := rfl
  have bound := value.toNat_lt
  have small := lo.toNat_lt
  have large := hi.toNat_lt
  have low : (value &&& 0xffffffff).toUInt32.toNat = value.toNat % 2 ^ 32 := by
    rw [UInt64.toNat_toUInt32, UInt64.toNat_and, mask, Nat.and_two_pow_sub_one_eq_mod]
    omega
  have high : ((value >>> 32) &&& 0xffffffff).toUInt32.toNat = value.toNat / 2 ^ 32 := by
    rw [UInt64.toNat_toUInt32, UInt64.toNat_and, mask, Nat.and_two_pow_sub_one_eq_mod, UInt64.toNat_shiftRight, shift,
      Nat.shiftRight_eq_div_pow]
    omega
  have word : (lo.toUInt64 ||| (hi.toUInt64 <<< 32)).toNat = lo.toNat ||| hi.toNat <<< 32 := by
    rw [UInt64.toNat_or, UInt64.toNat_shiftLeft, UInt32.toNat_toUInt64, UInt32.toNat_toUInt64, shift,
      Nat.mod_eq_of_lt (by rw [Nat.shiftLeft_eq]; omega)]
  rw [← UInt32.toNat_inj, ← UInt32.toNat_inj, ← UInt64.toNat_inj, low, high, word]
  exact halves small

theorem u16_decodes : Decodes ByteWriter.u16 id u16 (fun _ => True) := by
  refine Decodes.congr (Reads.decodes <|
    Reads.field (fun value : UInt16 => (value &&& 0xff).toUInt8) u8_decodes fun lo _ =>
    Reads.field (fun value : UInt16 => ((value >>> 8) &&& 0xff).toUInt8) u8_decodes fun hi _ =>
    Reads.done (fun value => ?_) rfl) fun _ => by simp
  rw [true_and]
  exact u16_halves lo hi value

theorem u32_decodes : Decodes ByteWriter.u32 id u32 (fun _ => True) := by
  refine Decodes.congr (Reads.decodes <|
    Reads.field (fun value : UInt32 => (value &&& 0xffff).toUInt16) u16_decodes fun lo _ =>
    Reads.field (fun value : UInt32 => ((value >>> 16) &&& 0xffff).toUInt16) u16_decodes fun hi _ =>
    Reads.done (fun value => ?_) rfl) fun _ => by simp
  rw [true_and]
  exact u32_halves lo hi value

theorem u64_decodes : Decodes ByteWriter.u64 id u64 (fun _ => True) := by
  refine Decodes.congr (Reads.decodes <|
    Reads.field (fun value : UInt64 => (value &&& 0xffffffff).toUInt32) u32_decodes fun lo _ =>
    Reads.field (fun value : UInt64 => ((value >>> 32) &&& 0xffffffff).toUInt32) u32_decodes fun hi _ =>
    Reads.done (fun value => ?_) rfl) fun _ => by simp
  rw [true_and]
  exact u64_halves lo hi value

theorem u32_bytes (value : UInt32) :
    ByteWriter.u32 value =
      [(value &&& 0xff).toUInt8, ((value >>> 8) &&& 0xff).toUInt8, ((value >>> 16) &&& 0xff).toUInt8,
        ((value >>> 24) &&& 0xff).toUInt8] := by
  have byte : (0xff : UInt32).toNat = 2 ^ 8 - 1 := rfl
  have byte16 : (0xff : UInt16).toNat = 2 ^ 8 - 1 := rfl
  have half : (0xffff : UInt32).toNat = 2 ^ 16 - 1 := rfl
  have eight : (8 : UInt32).toNat % 32 = 8 := rfl
  have eight16 : (8 : UInt16).toNat % 16 = 8 := rfl
  have sixteen : (16 : UInt32).toNat % 32 = 16 := rfl
  have last : (24 : UInt32).toNat % 32 = 24 := rfl
  have bound := value.toNat_lt
  simp only [ByteWriter.u32, ByteWriter.u16, ByteWriter.u8, List.flatten_cons, List.flatten_nil, List.append_nil,
    List.cons_append, List.nil_append, List.cons.injEq, and_true, ← UInt8.toNat_inj, UInt16.toNat_toUInt8,
    UInt32.toNat_toUInt8, UInt32.toNat_toUInt16, UInt16.toNat_and, UInt32.toNat_and, UInt16.toNat_shiftRight,
    UInt32.toNat_shiftRight, byte, byte16, half, eight, eight16, sixteen, last, Nat.and_two_pow_sub_one_eq_mod,
    Nat.shiftRight_eq_div_pow]
  omega

theorem u16_ok {value : UInt16} : u16 reader = .ok (value, after) ↔ Consumes (ByteWriter.u16 value) reader after :=
  (u16_decodes reader value after).trans (by simp)

theorem u32_ok {value : UInt32} : u32 reader = .ok (value, after) ↔ Consumes (ByteWriter.u32 value) reader after :=
  (u32_decodes reader value after).trans (by simp)

theorem u64_ok {value : UInt64} : u64 reader = .ok (value, after) ↔ Consumes (ByteWriter.u64 value) reader after :=
  (u64_decodes reader value after).trans (by simp)

theorem boolean_decodes : Decodes ByteWriter.boolean id boolean (fun _ => True) := by
  refine (u8_decodes.convert (fun byte _ reader value after => ?_)).congr fun _ => and_self_iff
  by_cases canonical : 1 < byte
  · simp only [id, if_pos canonical]
    refine iff_of_false fail_ne_ok fun wire => ?_
    obtain ⟨⟨flag, -, rfl, -⟩, -⟩ := wire
    cases flag <;> exact absurd canonical (by decide)
  · have small : byte = 0 ∨ byte = 1 := by
      rw [UInt8.lt_iff_toNat_lt] at canonical
      rw [← UInt8.toNat_inj, ← UInt8.toNat_inj]
      have one : (1 : UInt8).toNat = 1 := rfl
      have zero : (0 : UInt8).toNat = 0 := rfl
      omega
    simp only [id, if_neg canonical, Reader.pure_ok]
    refine and_congr_left fun _ => ?_
    rcases small with rfl | rfl <;> cases value <;> simp

theorem lengthU32_eq {α : Type} {items : List α} {length : UInt32} (bounded : items.length ≤ length.toNat) :
    (lengthU32 items).toNat = items.length := by
  have bound := length.toNat_lt
  exact UInt32.toNat_ofNat_of_lt' (Nat.lt_of_le_of_lt bounded bound)

theorem text_ok {maxLength length : UInt32} {value : Text} :
    text maxLength length reader = .ok (value, after) ↔
      (length ≤ maxLength ∧ value.length = length.toNat) ∧ Consumes value reader after := by
  have left : reader.remaining = (Source.rest reader).length := List.length_drop.symm
  unfold text
  by_cases long : maxLength < length
  · rw [if_pos long]
    exact iff_of_false fail_ne_ok fun both => absurd both.1.1 (UInt32.not_le.mpr long)
  rw [if_neg long, left]
  by_cases truncated : (Source.rest reader).length < length.toNat
  · rw [if_pos truncated]
    refine iff_of_false fail_ne_ok fun both => ?_
    have within := both.2.1.length_le
    omega
  rw [if_neg truncated]
  constructor
  · intro read
    cases read
    have size : ((Source.rest reader).take length.toNat).length = length.toNat := by
      rw [List.length_take]
      omega
    refine ⟨⟨UInt32.not_lt.mp long, size⟩, List.take_prefix _ _, ?_⟩
    exact congrArg (Source.skip reader) size.symm
  · intro both
    obtain ⟨⟨-, size⟩, ⟨tail, there⟩, rfl⟩ := both
    have taken : (Source.rest reader).take length.toNat = value := by
      rw [← there, ← size, List.take_left]
    rw [← size] at taken ⊢
    exact congrArg (fun bytes : Text => Except.ok (bytes, Source.skip reader value.length)) taken

theorem str_decodes (maxLength : UInt32) :
    Decodes ByteWriter.str id (str maxLength) (fun text => text.length ≤ maxLength.toNat) := by
  refine Decodes.congr (Reads.decodes <|
    Reads.field (fun text : Text => lengthU32 text) u32_decodes fun length _ => ?_) fun _ => by rw [true_and]
  intro reader value after
  have plain (bytes : Text) : [bytes].flatten = bytes := by simp
  simp only [id, text_ok, true_and, plain]
  constructor
  · intro read
    obtain ⟨⟨short, size⟩, consumes⟩ := read
    have same : lengthU32 value = length := by
      unfold lengthU32
      rw [size, UInt32.ofNat_toNat]
    refine ⟨value, ⟨same, ?_⟩, rfl, consumes⟩
    rw [size]
    exact UInt32.le_iff_toNat_le.mp short
  · intro wire
    obtain ⟨_, ⟨rfl, short⟩, rfl, consumes⟩ := wire
    have size := lengthU32_eq short
    exact ⟨⟨UInt32.le_iff_toNat_le.mpr (size.trans_le short), size.symm⟩, consumes⟩

theorem count_decodes (maxCount : UInt32) : Decodes ByteWriter.u32 id (count maxCount) (fun value => value ≤ maxCount) := by
  refine (u32_decodes.convert (fun value _ reader result after => ?_)).congr fun _ => Iff.of_eq (true_and _)
  by_cases large : maxCount < value
  · simp only [id, if_pos large]
    refine iff_of_false fail_ne_ok fun wire => ?_
    obtain ⟨⟨_, fits, rfl, -⟩, -⟩ := wire
    exact absurd fits (UInt32.not_le.mpr large)
  · simp only [id, if_neg large, Reader.pure_ok]
    refine and_congr_left fun _ => ⟨fun same => ⟨value, UInt32.not_lt.mp large, rfl, same⟩, fun wire => ?_⟩
    obtain ⟨_, -, rfl, same⟩ := wire
    exact same

theorem requireEnd_ok : requireEnd reader = .ok ((), after) ↔ reader.atEnd ∧ after = reader := by
  unfold requireEnd
  by_cases finished : reader.atEnd
  · simp [finished, eq_comm]
  · rw [if_neg finished]
    exact iff_of_false fail_ne_ok fun both => finished both.1

end ByteReader

end LabScheduler
