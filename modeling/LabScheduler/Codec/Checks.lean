import LabScheduler.Codec.Acceptance
import LabScheduler.Foundation.Refusals
import Mathlib.Data.List.Chain

namespace LabScheduler

open Foundation

namespace ByteReader

/-- The functions of a reader that look at its bytes, each after a look at what is left of them. -/
inductive Basic : {α : Type} → Decoder α → Prop
  | u8 : Basic u8
  | text (maxLength length : UInt32) : Basic (text maxLength length)
  | requireEnd : Basic requireEnd
  | fail {α : Type} (what : Text) : Basic (fail what : Decoder α)

variable {α : Type} {read : Decoder α}

theorem Basic.takes (basic : Basic read) {reader after : ByteReader} {value : α}
    (accepted : read reader = .ok (value, after)) : ∃ bytes, Consumes bytes reader after := by
  cases basic with
  | u8 =>
    obtain ⟨byte, -, -, consumes⟩ := u8_decodes.written accepted
    exact ⟨_, consumes⟩
  | text => exact ⟨value, (text_ok.mp accepted).2⟩
  | requireEnd => exact ⟨[], Consumes.nil.mpr (requireEnd_ok.mp accepted).2⟩
  | fail => exact absurd accepted fail_ne_ok

instance : Boundary ByteReader Status ErrorCode where
  own reader := reader.failure
  code status := status.code
  own_skip _ _ := rfl
  Basic := Basic
  takes basic := basic.takes

theorem Basic.silent (basic : Basic read) : Stops read (fun _ _ => False) := by
  refine Stops.silent (.basic basic) fun reader status fails => ?_
  change status.code = reader.failure
  cases basic with
  | u8 =>
    unfold ByteReader.u8 at fails
    split at fails <;> cases fails
    rfl
  | text =>
    unfold ByteReader.text at fails
    split at fails
    · cases fails
      rfl
    · split at fails <;> cases fails
      rfl
  | requireEnd =>
    unfold ByteReader.requireEnd at fails
    split at fails <;> cases fails
    rfl
  | fail =>
    cases fails
    rfl

abbrev Plain {ω : Type} (write : ω → Bytes) (value : ω → α) (read : Decoder α) (bounds : ω → Prop) : Prop :=
  Judges write value read bounds (fun (_ : ErrorCode) _ => False)

theorem u8_judges : Plain ByteWriter.u8 id u8 (fun _ => True) := ⟨u8_decodes, Basic.u8.silent⟩

theorem u16_judges : Plain ByteWriter.u16 id u16 (fun _ => True) :=
  ⟨u16_decodes, .quiet u8_judges.stops fun _ => .quiet u8_judges.stops fun _ => .pure _⟩

theorem u32_judges : Plain ByteWriter.u32 id u32 (fun _ => True) :=
  ⟨u32_decodes, .quiet u16_judges.stops fun _ => .quiet u16_judges.stops fun _ => .pure _⟩

theorem u64_judges : Plain ByteWriter.u64 id u64 (fun _ => True) :=
  ⟨u64_decodes, .quiet u32_judges.stops fun _ => .quiet u32_judges.stops fun _ => .pure _⟩

theorem refuse_silent {condition : Prop} [Decidable condition] (what : Text) (a : α) :
    Stops (if condition then fail what else pure a) (fun _ _ => False) := by
  by_cases refused : condition
  · rw [if_pos refused]
    exact (Basic.fail what).silent
  · rw [if_neg refused]
    exact .pure a

theorem boolean_judges : Plain ByteWriter.boolean id boolean (fun _ => True) :=
  ⟨boolean_decodes, .quiet u8_judges.stops fun _ => refuse_silent _ _⟩

theorem str_judges (maxLength : UInt32) :
    Plain ByteWriter.str id (str maxLength) (fun text => text.length ≤ maxLength.toNat) :=
  ⟨str_decodes maxLength, .quiet u32_judges.stops fun length => (Basic.text maxLength length).silent⟩

theorem count_judges (maxCount : UInt32) : Plain ByteWriter.u32 id (count maxCount) (fun value => value ≤ maxCount) :=
  ⟨count_decodes maxCount, .quiet u32_judges.stops fun _ => refuse_silent _ _⟩

end ByteReader

namespace RecordCodec

section Checks

variable {α β γ ω : Type}

def checkRefusal (refusal : ErrorCode) (write : ω → Bytes) (bounds passes : ω → Prop) : ErrorCode → Bytes → Prop :=
  fun code input => code = refusal ∧ ∃ w rest, bounds w ∧ input = write w ++ rest ∧ ¬ passes w

theorem check_stops {refusal : ErrorCode} {condition : Prop} [Decidable condition] {message : Text} :
    Stops (Reader.check (check condition refusal message) : Decoder Unit)
      (fun code _ => code = refusal ∧ ¬ condition) := by
  refine (Stops.check _).congr fun code _ => ?_
  simp only [check_error]
  constructor
  · intro refused
    obtain ⟨_, ⟨fails, rfl⟩, rfl⟩ := refused
    exact ⟨rfl, fails⟩
  · intro refused
    obtain ⟨rfl, fails⟩ := refused
    exact ⟨_, ⟨fails, rfl⟩, rfl⟩

theorem checked_stops {refusal : ErrorCode} {write : ω → Bytes} {value : ω → α} {read : Decoder α} {bounds passes : ω → Prop}
    {next : α → Decoder γ} (head : ByteReader.Plain write value read bounds)
    (tail : ∀ w, bounds w → Stops (next (value w)) (fun code _ => code = refusal ∧ ¬ passes w)) :
    Stops (read >>= next) (checkRefusal refusal write bounds passes) := by
  refine (Stops.after head tail).congr fun code input => ?_
  constructor
  · intro refused
    obtain refused | ⟨w, rest, within, there, same, fails⟩ := refused
    · exact refused.elim
    · exact ⟨same, w, rest, within, there, fails⟩
  · intro refused
    obtain ⟨same, w, rest, within, there, fails⟩ := refused
    exact .inr ⟨w, rest, within, there, same, fails⟩

theorem require_stops {refusal : ErrorCode} {condition : Prop} [Decidable condition] {message : Text} {a : α} :
    Stops (Reader.check (check condition refusal message) >>= fun _ => (pure a : Decoder α))
      (fun code _ => code = refusal ∧ ¬ condition) := by
  have unit : Decodes (fun _ : Unit => ([] : Bytes)) id
      (Reader.check (check condition refusal message) : Decoder Unit) (fun _ => condition) := by
    intro reader value after
    rw [Reader.check_ok, check_ok]
    simp
  refine (Stops.after ⟨unit, check_stops⟩ fun _ _ => .pure a).congr fun code input => ?_
  simp

theorem lookup_stops {refusal : ErrorCode} {message : Text} {values : List α} {number : Nat} :
    Stops (match values[number]? with
      | none => Reader.check (fail refusal message)
      | some value => (pure value : Decoder α)) (fun code _ => code = refusal ∧ ¬ number < values.length) := by
  cases found : values[number]? with
  | none =>
    have outside := List.getElem?_eq_none_iff.mp found
    refine (Stops.check _).congr fun code _ => ?_
    constructor
    · intro refused
      obtain ⟨_, fails, rfl⟩ := refused
      cases fails
      exact ⟨rfl, Nat.not_lt.mpr outside⟩
    · intro refused
      exact ⟨_, rfl, refused.1.symm⟩
  | some value =>
    have inside := (List.getElem?_eq_some_iff.mp found).1
    exact (Stops.pure value).congr fun _ _ => (false_iff _).mpr fun refused => refused.2 inside

theorem readEnum_judges [DecidableEq α] [Enumerated α] :
    Judges writeEnum id (readEnum : Decoder α) (fun _ => True) (checkRefusal .corruptPersistence ByteWriter.u8
      (fun _ => True) fun raw => raw.toNat < (Enumerated.values : List α).length) :=
  ⟨readEnum_decodes, checked_stops ByteReader.u8_judges fun _ _ => lookup_stops⟩

theorem readPriority_judges :
    Judges writePriority id readPriority (fun priority => -1000 ≤ priority.toInt ∧ priority.toInt ≤ 1000)
      (checkRefusal .corruptPersistence ByteWriter.u32 (fun _ => True) fun raw => ¬ (raw < 1000 ∨ 3000 < raw)) :=
  ⟨readPriority_decodes, checked_stops ByteReader.u32_judges fun _ _ => require_stops⟩

theorem readReassignments_judges (message : Text) :
    Judges ByteWriter.u32 id (readReassignments message) (fun count => count ≤ 16)
      (checkRefusal .corruptPersistence ByteWriter.u32 (fun _ => True) fun count => ¬ 16 < count) :=
  ⟨readReassignments_decodes message, checked_stops ByteReader.u32_judges fun _ _ => require_stops⟩

def optionalRefusal (refusal : ErrorCode → Bytes → Prop) : ErrorCode → Bytes → Prop := fun code input =>
  ∃ rest, input = ByteWriter.boolean true ++ rest ∧ refusal code rest

theorem readOptional_stops {read : Decoder α} {refusal : ErrorCode → Bytes → Prop} (stops : Stops read refusal) :
    Stops (readOptional read) (optionalRefusal refusal) := by
  have present (flag : Bool) (_ : True) :
      Stops (readPresent read (id flag)) (fun code input => flag = true ∧ refusal code input) := by
    cases flag with
    | false => exact (Stops.pure none).congr fun _ _ => by simp
    | true =>
      have there : readPresent read true = (read >>= fun a => pure (some a) : Decoder (Option α)) := map_eq_pure_bind ..
      rw [id, there]
      exact (stops.quiet fun _ => .pure _).congr fun _ _ => by simp
  refine (Stops.after ByteReader.boolean_judges present).congr fun code input => ?_
  constructor
  · intro refused
    obtain refused | ⟨_, rest, -, there, rfl, refused⟩ := refused
    · exact refused.elim
    · exact ⟨rest, there, refused⟩
  · intro refused
    obtain ⟨rest, there, refused⟩ := refused
    exact .inr ⟨true, rest, trivial, there, rfl, refused⟩

end Checks

section Lists

variable {α γ ω : Type}

/-- A list is refused: some of its items are accepted, and the next one is not, or cannot come after them. -/
def foldRefusal (write : ω → Bytes) (bounds : ω → Prop) (refusal : ErrorCode → Bytes → Prop) (fits : List ω → Prop)
    (follows : List ω → ω → ErrorCode → Prop) (maximum : UInt32) : ErrorCode → Bytes → Prop := fun code input =>
  ∃ (count : UInt32) (items : List ω) (rest : Bytes), count ≤ maximum ∧ items.length < count.toNat ∧
    (∀ w ∈ items, bounds w) ∧ fits items ∧ input = ByteWriter.u32 count ++ ((items.map write).flatten ++ rest) ∧
    (refusal code rest ∨ ∃ w tail, bounds w ∧ rest = write w ++ tail ∧ follows items w code)

theorem readInto_stops {write : ω → Bytes} {value : ω → α} {read : Decoder α} {bounds : ω → Prop}
    {refusal : ErrorCode → Bytes → Prop} {fits : List ω → Prop} {follows : List ω → ω → ErrorCode → Prop}
    (item : Judges write value read bounds refusal) {add : γ → α → Except Status γ} {empty : γ}
    (maximum : UInt32)
    (folds : ∀ items, items.length < maximum.toNat → (∀ w ∈ items, bounds w) →
      (fits items ↔ ∃ made, Reader.fold add (items.map value) empty = .ok made))
    (adds : ∀ items made, items.length < maximum.toNat → (∀ w ∈ items, bounds w) →
      Reader.fold add (items.map value) empty = .ok made → ∀ w, bounds w → ∀ code,
        (follows items w code ↔ ∃ status, add made (value w) = .error status ∧ status.code = code)) :
    Stops (readInto read add maximum empty) (foldRefusal write bounds refusal fits follows maximum) := by
  refine (Stops.after (ByteReader.count_judges maximum) fun count _ =>
    Stops.loop item count.toNat empty).congr fun code input => ?_
  constructor
  · intro refused
    obtain refused | ⟨count, _, below, rfl, items, rest, made, fewer, all, folded, rfl, refused⟩ := refused
    · exact refused.elim
    have short : items.length < maximum.toNat := Nat.lt_of_lt_of_le fewer (UInt32.le_iff_toNat_le.mp below)
    refine ⟨count, items, rest, below, fewer, all, (folds items short all).mpr ⟨made, folded⟩, rfl, ?_⟩
    obtain refused | ⟨w, tail, status, within, there, fails, same⟩ := refused
    · exact .inl refused
    · exact .inr ⟨w, tail, within, there, (adds items made short all folded w within code).mpr ⟨status, fails, same⟩⟩
  · intro refused
    obtain ⟨count, items, rest, below, fewer, all, fit, rfl, refused⟩ := refused
    have short : items.length < maximum.toNat := Nat.lt_of_lt_of_le fewer (UInt32.le_iff_toNat_le.mp below)
    obtain ⟨made, folded⟩ := (folds items short all).mp fit
    refine .inr ⟨count, _, below, rfl, items, rest, made, fewer, all, folded, rfl, ?_⟩
    obtain refused | ⟨w, tail, within, there, refused⟩ := refused
    · exact .inl refused
    · obtain ⟨status, fails, same⟩ := (adds items made short all folded w within code).mp refused
      exact .inr ⟨w, tail, status, within, there, fails, same⟩

def listRefusal (write : ω → Bytes) (bounds : ω → Prop) (refusal : ErrorCode → Bytes → Prop) (maximum : UInt32) :
    ErrorCode → Bytes → Prop :=
  foldRefusal write bounds refusal (fun _ => True) (fun _ _ _ => False) maximum

theorem readList_stops {write : ω → Bytes} {value : ω → α} {read : Decoder α} {bounds : ω → Prop}
    {refusal : ErrorCode → Bytes → Prop} (item : Judges write value read bounds refusal) (maximum : UInt32) :
    Stops (readList read maximum) (listRefusal write bounds refusal maximum) :=
  readInto_stops item maximum (fun _ _ _ => iff_of_true trivial ⟨_, fold_append ..⟩)
    fun _ _ _ _ _ _ _ _ => iff_of_false id (by simp)

/-- A list that is to be ascending is refused with an item of it, or where it does not ascend. -/
def orderedRefusal [LT ω] (write : ω → Bytes) (bounds : ω → Prop) (maximum : UInt32) : ErrorCode → Bytes → Prop :=
  foldRefusal write bounds (fun _ _ => False) Ascending
    (fun items w code => code = .corruptPersistence ∧ ¬ Ascending (items ++ [w])) maximum

theorem readOrdered_stops [LinearOrder ω] {write : ω → Bytes} {read : Decoder ω} {bounds : ω → Prop}
    (item : ByteReader.Plain write id read bounds) (message : Text) (maximum : UInt32) :
    Stops (readInto read (appendOrdered message) maximum []) (orderedRefusal write bounds maximum) := by
  have folded (items made : List ω) :
      Reader.fold (appendOrdered message) (items.map id) [] = .ok made ↔ Ascending items ∧ items = made := by
    rw [List.map_id, fold_appendOrdered]
    rfl
  refine readInto_stops item maximum (fun items _ _ => ?_) fun items made _ _ accepted w _ code => ?_
  · rw [exists_congr (folded items)]
    simp
  · obtain ⟨ascending, rfl⟩ := (folded items made).mp accepted
    have next : Ascending (items ++ [w]) ↔ ∀ previous ∈ items.getLast?, previous < w := by
      have chain : items.IsChain (· < ·) := ascending
      unfold Ascending
      rw [List.isChain_append, and_iff_right chain]
      simp
    rw [next]
    constructor
    · intro refused
      obtain ⟨rfl, fails⟩ := refused
      have stops : check (∀ previous ∈ items.getLast?, previous < w) .corruptPersistence message =
          .error ⟨.corruptPersistence, message⟩ := check_error.mpr ⟨fails, rfl⟩
      refine ⟨⟨.corruptPersistence, message⟩, ?_, rfl⟩
      unfold appendOrdered
      rw [id, stops]
      rfl
    · intro refused
      obtain ⟨status, fails, rfl⟩ := refused
      unfold appendOrdered at fails
      obtain fails | fails := check_bind_error fails
      · obtain ⟨lower, rfl⟩ := check_error.mp fails
        exact ⟨rfl, lower⟩
      · cases fails

end Lists

theorem readId_judges {kind : IdKind} :
    ByteReader.Plain writeId id (readId : Decoder (StrongId kind)) (fun _ => True) :=
  ⟨readId_decodes, .quiet ByteReader.u64_judges.stops fun _ => .pure _⟩

section Capabilities

theorem readCapability_stops :
    Stops readCapability (checkRefusal .corruptPersistence writeCapability (fun capability => capability.name.length ≤ 64)
      fun capability => capabilityIdFromName capability.name = capability.id) := by
  refine (Stops.after readId_judges fun _ _ => Stops.after (ByteReader.str_judges 64) fun _ _ => require_stops).congr
    fun code input => ?_
  constructor
  · intro refused
    obtain refused | ⟨id, _, -, rfl, refused | ⟨name, rest, short, rfl, same, fails⟩⟩ := refused
    · exact refused.elim
    · exact refused.elim
    · exact ⟨same, ⟨id, name⟩, rest, short, by simp [writeCapability], fails⟩
  · intro refused
    obtain ⟨same, ⟨id, name⟩, rest, short, rfl, fails⟩ := refused
    exact .inr ⟨id, ByteWriter.str name ++ rest, trivial, by simp [writeCapability],
      .inr ⟨name, rest, short, rfl, same, fails⟩⟩

/-- A set of capabilities is refused with a name that is not that of its identity, or with an entry that `add` does not
    take after the entries before it. -/
def capabilitiesRefusal (limits : Limits) : ErrorCode → Bytes → Prop :=
  foldRefusal writeCapability
    (fun capability => capability.name.length ≤ 64 ∧ capabilityIdFromName capability.name = capability.id)
    (checkRefusal .corruptPersistence writeCapability (fun capability => capability.name.length ≤ 64)
      fun capability => capabilityIdFromName capability.name = capability.id)
    (fun items => CapabilitiesFit limits ⟨items⟩)
    (fun items capability code =>
      ∃ status, (sortedSet ⟨items⟩).add capability limits = .error status ∧ status.code = code)
    limits.maxCapabilitiesPerResource

theorem readCapabilities_stops (limits : Limits) : Stops (readCapabilities limits) (capabilitiesRefusal limits) := by
  have folded (items : List Capability) (short : items.length ≤ limits.maxCapabilitiesPerResource.toNat)
      (made : CapabilitySet) :
      Reader.fold (fun capabilities capability => CapabilitySet.add capabilities capability limits) (items.map id) {} =
        .ok made ↔ CapabilitiesFit limits ⟨items⟩ ∧ sortedSet ⟨items⟩ = made := by
    rw [List.map_id, capabilitiesFit_iff, and_iff_right short]
    exact fold_add .nil (by simpa using short)
  refine readInto_stops ⟨readCapability_decodes, readCapability_stops⟩ limits.maxCapabilitiesPerResource
    (fun items short _ => ?_) fun items made short _ accepted capability _ code => ?_
  · rw [exists_congr (folded items (Nat.le_of_lt short))]
    simp
  · obtain ⟨-, rfl⟩ := (folded items (Nat.le_of_lt short) made).mp accepted
    rfl

end Capabilities

section Weights

def weightPart : Part ErrorCode UInt8 :=
  .of (fun weight : Int32 => ByteWriter.u32 weight.toUInt32) FairWeight
    (checkRefusal .corruptPersistence (fun weight : Int32 => ByteWriter.u32 weight.toUInt32) (fun _ => True) FairWeight)

theorem readWeightsOf_stops (factors : List RankingFactor) (start : RankingWeights) :
    Stops (readWeightsOf factors start) (refusedIn (factors.map fun _ => weightPart)) := by
  induction factors generalizing start with
  | nil => exact .done start
  | cons factor rest ih =>
    have raw : Decodes (fun weight : Int32 => ByteWriter.u32 weight.toUInt32) Int32.toUInt32 ByteReader.u32
        (fun _ => True) :=
      ByteReader.u32_decodes.along Int32.toUInt32 fun value => ⟨value.toInt32, rfl⟩
    have range (weight : Int32) :
        ¬ (weight.toUInt32.toInt32.toInt < -1000 ∨ 1000 < weight.toUInt32.toInt32.toInt) ↔ FairWeight weight := by
      unfold FairWeight
      rw [Int32.toInt32_toUInt32]
      omega
    refine (Stops.after ⟨raw, ByteReader.u32_judges.stops⟩ fun weight _ => Stops.checked fun _ _ => ih _).congr
      fun code input => ?_
    constructor
    · intro refused
      obtain refused | ⟨weight, later, -, rfl, ⟨status, fails, rfl⟩ | ⟨_, passes, refused⟩⟩ := refused
      · exact refused.elim
      · obtain ⟨unfair, rfl⟩ := check_error.mp fails
        exact .inl ⟨rfl, weight, later, trivial, rfl, (range weight).not.mp unfair⟩
      · exact .inr ⟨_, later, ⟨weight, (range weight).mp (check_ok.mp passes), rfl⟩, rfl, refused⟩
    · intro refused
      obtain ⟨rfl, weight, later, -, rfl, unfair⟩ | ⟨_, later, ⟨weight, fair, rfl⟩, rfl, refused⟩ := refused
      · exact .inr ⟨weight, later, trivial, rfl,
          .inl ⟨_, check_error.mpr ⟨(range weight).not.mpr unfair, rfl⟩, rfl⟩⟩
      · exact .inr ⟨weight, later, trivial, rfl, .inr ⟨(), check_ok.mpr ((range weight).mpr fair), refused⟩⟩

end Weights

end RecordCodec

end LabScheduler
