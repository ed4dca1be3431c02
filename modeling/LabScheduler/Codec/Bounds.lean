import LabScheduler.Codec.Records

namespace LabScheduler

open Foundation

namespace RecordCodec

section Parts

theorem require_ok {condition : Prop} [Decidable condition] {message : Text} {reader after : ByteReader} :
    require condition message reader = .ok ((), after) ↔ condition ∧ after = reader :=
  Reader.check_ok.trans (and_congr_left fun _ => check_ok)

theorem require_bind_ok {condition : Prop} [Decidable condition] {message : Text} {reader after : ByteReader}
    {α : Type} {next : Decoder α} {value : α} :
    (require condition message >>= fun _ => next) reader = .ok (value, after) ↔
      condition ∧ next reader = .ok (value, after) := by
  rw [Reader.bind_ok]
  constructor
  · intro accepted
    obtain ⟨_, _, required, others⟩ := accepted
    obtain ⟨holds, rfl⟩ := require_ok.mp required
    exact ⟨holds, others⟩
  · intro both
    exact ⟨(), reader, require_ok.mpr ⟨both.1, rfl⟩, both.2⟩

theorem readId_decodes {kind : IdKind} : Decodes writeId id (readId : Decoder (StrongId kind)) (fun _ => True) := by
  refine Decodes.congr (Reads.decodes <|
    Reads.field StrongId.value ByteReader.u64_decodes fun value _ =>
    Reads.done (fun id => ?_) rfl) fun _ => by simp
  rw [true_and]
  exact StrongId.value_injective.eq_iff' rfl

theorem readEnum_decodes {α : Type} [DecidableEq α] [Enumerated α] :
    Decodes writeEnum id (readEnum : Decoder α) (fun _ => True) := by
  refine (ByteReader.u8_decodes.convert fun raw _ reader value after => ?_).congr fun _ => and_self_iff
  have number (other : α) :
      UInt8.ofNat ((Enumerated.values : List α).idxOf other) = raw ↔
        (Enumerated.values : List α)[raw.toNat]? = some other := by
    have member := Enumerated.complete other
    have index := List.idxOf_lt_length_of_mem member
    have small : (Enumerated.values : List α).idxOf other < 2 ^ 8 := Nat.lt_of_lt_of_le index Enumerated.small
    constructor
    · intro same
      rw [← same, UInt8.toNat_ofNat_of_lt' small, List.getElem?_eq_getElem index, List.getElem_idxOf]
    · intro found
      obtain ⟨inside, rfl⟩ := List.getElem?_eq_some_iff.mp found
      rw [List.Nodup.idxOf_getElem Enumerated.distinct, UInt8.ofNat_toNat]
  simp only [id, number, true_and]
  cases found : (Enumerated.values : List α)[raw.toNat]? with
  | none =>
    refine iff_of_false nofun fun wire => ?_
    obtain ⟨⟨_, same, -⟩, -⟩ := wire
    cases same
  | some other =>
    rw [Reader.pure_ok]
    refine and_congr_left fun _ => ⟨fun same => ⟨other, rfl, same⟩, fun wire => ?_⟩
    obtain ⟨_, same, rfl⟩ := wire
    exact Option.some_inj.mp same

/-- A list is read back if each item is, and what the loop makes of them is what they stand for. -/
theorem readInto_decodes {α β γ : Type} {write : β → Bytes} {value : β → α} {read : Decoder α} {bounds : β → Prop}
    (item : Decodes write value read bounds) {add : γ → α → Except Status γ} {empty : γ} {made : List β → γ}
    {fits : List β → Prop} (maximum : UInt32)
    (folds : ∀ items : List β, items.length ≤ maximum.toNat → (∀ w ∈ items, bounds w) → ∀ result,
      Reader.fold add (items.map value) empty = .ok result ↔ fits items ∧ made items = result) :
    Decodes (writeList write) made (readInto read add maximum empty)
      (fun items => items.length ≤ maximum.toNat ∧ (∀ w ∈ items, bounds w) ∧ fits items) := by
  have plain (bytes : Bytes) : [bytes].flatten = bytes := by simp
  have rest (count : UInt32) (below : count ≤ maximum) :
      Reads (fun items : List β => True ∧ lengthU32 items = count) (fun items => [(items.map write).flatten]) made
        (Reader.loop read add count.toNat empty)
        (fun items => items.length ≤ maximum.toNat ∧ (∀ w ∈ items, bounds w) ∧ fits items) := by
    intro reader result after
    rw [Reader.loop_ok item]
    simp only [plain, true_and]
    constructor
    · intro looped
      obtain ⟨items, length, within, folded, consumes⟩ := looped
      have short : items.length ≤ maximum.toNat := length.trans_le (UInt32.le_iff_toNat_le.mp below)
      obtain ⟨fit, same⟩ := (folds items short within result).mp folded
      have counted : lengthU32 items = count := by
        unfold lengthU32
        rw [length, UInt32.ofNat_toNat]
      exact ⟨items, ⟨counted, short, within, fit⟩, same, consumes⟩
    · intro wire
      obtain ⟨items, ⟨rfl, short, within, fit⟩, same, consumes⟩ := wire
      exact ⟨items, (ByteReader.lengthU32_eq short).symm, within, (folds items short within result).mpr ⟨fit, same⟩,
        consumes⟩
  refine Decodes.congr (Reads.decodes <| Reads.field lengthU32 (ByteReader.count_decodes maximum) rest) fun items =>
    and_iff_right_of_imp fun both => ?_
  rw [UInt32.le_iff_toNat_le, ByteReader.lengthU32_eq both.1]
  exact both.1

theorem fold_append {α : Type} (items made : List α) :
    Reader.fold (fun made item => (.ok (made ++ [item]) : Except Status (List α))) items made = .ok (made ++ items) := by
  induction items generalizing made with
  | nil => rw [List.append_nil]; rfl
  | cons item rest ih =>
    change Reader.fold _ rest (made ++ [item]) = _
    rw [ih, List.append_assoc]
    rfl

theorem readList_decodes {α β : Type} {write : β → Bytes} {value : β → α} {read : Decoder α} {bounds : β → Prop}
    (item : Decodes write value read bounds) (maximum : UInt32) :
    Decodes (writeList write) (List.map value) (readList read maximum)
      (fun items => items.length ≤ maximum.toNat ∧ ∀ w ∈ items, bounds w) := by
  have folds (items : List β) (_ : items.length ≤ maximum.toNat) (_ : ∀ w ∈ items, bounds w) (result : List α) :
      Reader.fold (fun made item => (.ok (made ++ [item]) : Except Status (List α))) (items.map value) [] = .ok result ↔
        True ∧ items.map value = result := by
    rw [fold_append, List.nil_append, Except.ok.injEq, true_and]
  exact (readInto_decodes item maximum folds).congr fun items => by simp

theorem readItems_decodes {α : Type} {write : α → Bytes} {read : Decoder α} {bounds : α → Prop}
    (item : Decodes write id read bounds) (maximum : UInt32) :
    Decodes (writeList write) id (readList read maximum)
      (fun items => items.length ≤ maximum.toNat ∧ ∀ w ∈ items, bounds w) := by
  have same : (List.map id : List α → List α) = id := List.map_id_fun
  exact same ▸ readList_decodes item maximum

def Ascending {α : Type} [LT α] (items : List α) : Prop := items.IsChain (· < ·)

theorem fold_appendOrdered {α : Type} [LinearOrder α] {message : Text} {items made result : List α} :
    Reader.fold (appendOrdered message) items made = .ok result ↔
      (made.getLast?.toList ++ items).IsChain (· < ·) ∧ made ++ items = result := by
  induction items generalizing made with
  | nil =>
    cases made.getLast? <;> simp [Reader.fold]
  | cons item rest ih =>
    have step : Reader.fold (appendOrdered message) (item :: rest) made =
        appendOrdered message made item >>= fun made => Reader.fold (appendOrdered message) rest made := rfl
    have appended (next : List α) : appendOrdered message made item = .ok next ↔
        (∀ previous ∈ made.getLast?, previous < item) ∧ made ++ [item] = next := by
      unfold appendOrdered
      rw [check_bind_ok, check_ok]
      exact and_congr_right fun _ => ⟨fun same => Except.ok.inj same, fun same => congrArg Except.ok same⟩
    have linked : (made.getLast?.toList ++ item :: rest).IsChain (· < ·) ↔
        (∀ previous ∈ made.getLast?, previous < item) ∧ (item :: rest).IsChain (· < ·) := by
      cases made.getLast? with
      | none => simp
      | some previous => simp [List.isChain_cons_cons]
    have last : (made ++ [item]).getLast?.toList ++ rest = item :: rest := by simp
    rw [step, except_bind_ok, linked]
    simp only [appended, ih]
    constructor
    · intro turns
      obtain ⟨_, ⟨above, rfl⟩, chain, rfl⟩ := turns
      rw [last] at chain
      exact ⟨⟨above, chain⟩, by rw [List.append_assoc]; rfl⟩
    · intro both
      obtain ⟨⟨above, chain⟩, rfl⟩ := both
      exact ⟨_, ⟨above, rfl⟩, last ▸ chain, by rw [List.append_assoc]; rfl⟩

theorem readOrdered_decodes {α : Type} [LinearOrder α] {write : α → Bytes} {read : Decoder α} {bounds : α → Prop}
    (item : Decodes write id read bounds) (message : Text) (maximum : UInt32) :
    Decodes (writeList write) id (readInto read (appendOrdered message) maximum [])
      (fun items => items.length ≤ maximum.toNat ∧ (∀ w ∈ items, bounds w) ∧ Ascending items) := by
  refine readInto_decodes item maximum fun items _ _ result => ?_
  rw [fold_appendOrdered, List.map_id]
  exact Iff.rfl

theorem readOptional_decodes {α β : Type} {write : β → Bytes} {value : β → α} {read : Decoder α} {bounds : β → Prop}
    (item : Decodes write value read bounds) :
    Decodes (writeOptional write) (Option.map value) (readOptional read) (fun present => ∀ w ∈ present, bounds w) := by
  have plain (bytes : Bytes) : [bytes].flatten = bytes := by simp
  have rest (flag : Bool) (_ : True) :
      Reads (fun present : Option β => True ∧ present.isSome = flag) (fun present => [(present.map write).getD []])
        (Option.map value) (readPresent read flag) (fun present => ∀ w ∈ present, bounds w) := by
    intro reader result after
    simp only [plain, true_and]
    cases flag with
    | false =>
      have absent : readPresent read false = (pure none : Decoder (Option α)) := rfl
      rw [absent, Reader.pure_ok]
      constructor
      · intro same
        obtain ⟨rfl, rfl⟩ := same
        exact ⟨none, ⟨rfl, nofun⟩, rfl, Consumes.nil.mpr rfl⟩
      · intro wire
        obtain ⟨present, ⟨missing, -⟩, same, consumes⟩ := wire
        cases present with
        | none => exact ⟨same, Consumes.nil.mp consumes⟩
        | some w => cases missing
    | true =>
      have there : readPresent read true = (read >>= fun a => pure (some a) : Decoder (Option α)) := map_eq_pure_bind ..
      rw [there, Reader.bind_ok]
      constructor
      · intro accepted
        obtain ⟨a, mid, accepted, given⟩ := accepted
        obtain ⟨rfl, rfl⟩ := Reader.pure_ok.mp given
        obtain ⟨w, within, rfl, consumes⟩ := item.written accepted
        exact ⟨some w, ⟨rfl, fun other same => Option.some_inj.mp same ▸ within⟩, rfl, consumes⟩
      · intro wire
        obtain ⟨present, ⟨found, within⟩, same, consumes⟩ := wire
        cases present with
        | none => cases found
        | some w => exact ⟨value w, after, item.reads (within w rfl) consumes, Reader.pure_ok.mpr ⟨same, rfl⟩⟩
  refine Decodes.congr (Reads.decodes <| Reads.field Option.isSome ByteReader.boolean_decodes rest) fun present => ?_
  exact and_iff_right trivial

theorem readMaybe_decodes {α : Type} {write : α → Bytes} {read : Decoder α} {bounds : α → Prop}
    (item : Decodes write id read bounds) :
    Decodes (writeOptional write) id (readOptional read) (fun present => ∀ w ∈ present, bounds w) := by
  have same : (Option.map id : Option α → Option α) = id := Option.map_id
  exact same ▸ readOptional_decodes item

theorem priority_raw (priority : Int32) :
    ((priority + 2000).toUInt32.toNat : Int) = (priority.toInt + 2000) % 2 ^ 32 := by
  have bits : (priority + 2000).toUInt32.toNat = (priority + 2000).toBitVec.toNat := rfl
  have signed : priority.toInt = priority.toBitVec.toInt := rfl
  have offset : (2000 : Int32).toBitVec.toNat = 2000 := rfl
  rw [bits, Int32.toBitVec_add, BitVec.toNat_add, signed, BitVec.toInt_eq_toNat_bmod, offset, Int.bmod_def]
  push_cast
  split <;> omega

theorem readPriority_decodes :
    Decodes writePriority id readPriority
      (fun priority => -1000 ≤ priority.toInt ∧ priority.toInt ≤ 1000) := by
  have range (priority : Int32) :
      ¬ ((priority + 2000).toUInt32 < 1000 ∨ 3000 < (priority + 2000).toUInt32) ↔
        -1000 ≤ priority.toInt ∧ priority.toInt ≤ 1000 := by
    have raw := priority_raw priority
    have low := Int32.minValue_le_toInt priority
    have high := Int32.toInt_le priority
    have least : (1000 : UInt32).toNat = 1000 := rfl
    have most : (3000 : UInt32).toNat = 3000 := rfl
    have bottom : Int32.minValue.toInt = -2147483648 := rfl
    have top : Int32.maxValue.toInt = 2147483647 := rfl
    rw [UInt32.lt_iff_toNat_lt, UInt32.lt_iff_toNat_lt]
    omega
  refine (ByteReader.u32_decodes.convert fun raw _ reader value after => ?_).congr fun _ => and_iff_right trivial
  simp only [id]
  rw [require_bind_ok, Reader.pure_ok, ← and_assoc]
  refine and_congr_left fun _ => ?_
  constructor
  · intro both
    obtain ⟨within, rfl⟩ := both
    have same : (raw.toInt32 - 2000 + 2000).toUInt32 = raw := by
      rw [Int32.sub_add_cancel]
      rfl
    rw [← same] at within
    exact ⟨_, (range _).mp within, same, rfl⟩
  · intro wire
    obtain ⟨priority, within, rfl, rfl⟩ := wire
    exact ⟨(range priority).mpr within, Int32.add_sub_cancel priority 2000⟩

theorem readReassignments_decodes (message : Text) :
    Decodes ByteWriter.u32 id (readReassignments message) (fun count => count ≤ 16) := by
  refine (ByteReader.u32_decodes.convert fun raw _ reader value after => ?_).congr fun _ => and_iff_right trivial
  simp only [id]
  rw [require_bind_ok, Reader.pure_ok, ← and_assoc, UInt32.not_lt]
  refine and_congr_left fun _ => ?_
  constructor
  · intro both
    exact ⟨raw, both.1, rfl, both.2⟩
  · intro wire
    obtain ⟨_, within, rfl, same⟩ := wire
    exact ⟨within, same⟩

def FairWeight (weight : Int32) : Prop := -1000 ≤ weight.toInt ∧ weight.toInt ≤ 1000

theorem readWeightsOf_decodes {factors : List RankingFactor} (distinct : factors.Nodup) (start : RankingWeights) :
    Decodes (fun weights : RankingWeights => (factors.map fun factor => ByteWriter.u32 (weights factor).toUInt32).flatten)
      (fun weights factor => if factor ∈ factors then weights factor else start factor) (readWeightsOf factors start)
      (fun weights => ∀ factor ∈ factors, FairWeight (weights factor)) := by
  induction factors generalizing start with
  | nil =>
    intro reader weights after
    simp only [readWeightsOf, Reader.pure_ok, List.map_nil, List.flatten_nil, Consumes.nil, List.not_mem_nil, if_false]
    constructor
    · intro same
      exact ⟨start, fun _ absent => absent.elim, same⟩
    · intro wire
      obtain ⟨_, -, same⟩ := wire
      exact same
  | cons factor rest ih =>
    obtain ⟨fresh, distinct⟩ := List.nodup_cons.mp distinct
    intro reader weights after
    have turn : readWeightsOf (factor :: rest) start = ByteReader.u32 >>= fun raw =>
        require (¬ (raw.toInt32.toInt < -1000 ∨ 1000 < raw.toInt32.toInt))
          (ascii "persisted ranking weight is out of range") >>= fun _ =>
        readWeightsOf rest fun other => if other = factor then raw.toInt32 else start other := rfl
    have filled {weights : RankingWeights} {raw : Int32} (here : weights factor = raw) :
        (fun other => if other ∈ rest then weights other else if other = factor then raw else start other) =
          fun other => if other ∈ factor :: rest then weights other else start other := by
      funext other
      by_cases same : other = factor
      · subst same
        simp [fresh, here]
      · simp [same]
    rw [turn, Reader.bind_ok]
    simp only [List.map_cons, List.flatten_cons, Consumes.append]
    constructor
    · intro accepted
      obtain ⟨raw, mid, first, checked⟩ := accepted
      obtain ⟨within, others⟩ := require_bind_ok.mp checked
      obtain ⟨written, fair, rfl, consumes⟩ := (ih distinct _).written others
      let whole : RankingWeights := fun other => if other = factor then raw.toInt32 else written other
      have here : whole factor = raw.toInt32 := if_pos rfl
      have away : ∀ other ∈ rest, whole other = written other := by
        intro other member
        have differs : other ≠ factor := by
          intro same
          exact fresh (same ▸ member)
        exact if_neg differs
      refine ⟨whole, ?_, ?_, mid, ?_, ?_⟩
      · refine List.forall_mem_cons.mpr ⟨?_, fun other member => ?_⟩
        · rw [here]
          unfold FairWeight
          omega
        · rw [away other member]
          exact fair other member
      · rw [← filled here]
        funext other
        by_cases member : other ∈ rest
        · rw [if_pos member, if_pos member, away other member]
        · rw [if_neg member, if_neg member]
      · rw [here]
        exact ByteReader.u32_ok.mp first
      · have same : rest.map (fun factor => ByteWriter.u32 (whole factor).toUInt32) =
            rest.map fun factor => ByteWriter.u32 (written factor).toUInt32 :=
          List.map_congr_left fun other member => by rw [away other member]
        rw [same]
        exact consumes
    · intro wire
      obtain ⟨written, fair, rfl, mid, first, consumes⟩ := wire
      obtain ⟨here, others⟩ := List.forall_mem_cons.mp fair
      refine ⟨(written factor).toUInt32, mid, ByteReader.u32_ok.mpr first, require_bind_ok.mpr ⟨?_, ?_⟩⟩
      · unfold FairWeight at here
        change ¬ ((written factor).toInt < -1000 ∨ 1000 < (written factor).toInt)
        omega
      · rw [← filled rfl]
        exact (ih distinct _).reads others consumes

theorem readWeights_decodes :
    Decodes writeWeights id readWeights (fun weights => ∀ factor, FairWeight (weights factor)) := by
  have all (factor : RankingFactor) : factor ∈ RankingFactor.all := by cases factor <;> decide
  intro reader weights after
  refine (readWeightsOf_decodes (by decide) RankingWeights.default reader weights after).trans ?_
  simp only [all, if_true, true_imp_iff]
  exact Iff.rfl

end Parts

section Records

theorem readTopologyDomain_decodes (maximum : UInt32) :
    Decodes writeTopologyDomain id (readTopologyDomain maximum) (fun domain => domain.name.length ≤ maximum.toNat) := by
  refine Decodes.congr (Reads.decodes <|
    Reads.field TopologyDomain.id readId_decodes fun _ _ =>
    Reads.field TopologyDomain.name (ByteReader.str_decodes maximum) fun _ _ =>
    Reads.done (fun domain => ?_) rfl) fun _ => by simp
  cases domain
  simp

theorem readTopology_decodes (maximum : UInt32) :
    Decodes writeTopology id (readTopology maximum) (fun topology =>
      ∀ scope, (topology.domain scope).name.length ≤ maximum.toNat) := by
  refine Decodes.congr (Reads.decodes <|
    Reads.field TopologyDescriptor.host (readTopologyDomain_decodes maximum) fun _ _ =>
    Reads.field TopologyDescriptor.numa (readTopologyDomain_decodes maximum) fun _ _ =>
    Reads.field TopologyDescriptor.rootComplex (readTopologyDomain_decodes maximum) fun _ _ =>
    Reads.field TopologyDescriptor.rack (readTopologyDomain_decodes maximum) fun _ _ =>
    Reads.field TopologyDescriptor.cluster (readTopologyDomain_decodes maximum) fun _ _ =>
    Reads.field TopologyDescriptor.supplied ByteReader.boolean_decodes fun _ _ =>
    Reads.done (fun topology => ?_) rfl) fun topology => ?_
  · cases topology
    simp [and_assoc]
  · simp only [and_true]
    constructor
    · intro within scope
      obtain ⟨host, numa, rootComplex, rack, cluster⟩ := within
      cases scope <;> assumption
    · intro within
      exact ⟨within .host, within .numaDomain, within .rootComplex, within .rack, within .cluster⟩

theorem readAccelerator_decodes (limits : Limits) :
    Decodes writeAccelerator id (readAccelerator limits)
      (fun accelerator => accelerator.model.length ≤ limits.maxStringLength.toNat) := by
  refine Decodes.congr (Reads.decodes <|
    Reads.field AcceleratorAttachment.id readId_decodes fun _ _ =>
    Reads.field AcceleratorAttachment.model (ByteReader.str_decodes limits.maxStringLength) fun _ _ =>
    Reads.field AcceleratorAttachment.memoryBytes ByteReader.u64_decodes fun _ _ =>
    Reads.field AcceleratorAttachment.computeCapabilityMajor ByteReader.u32_decodes fun _ _ =>
    Reads.field AcceleratorAttachment.computeCapabilityMinor ByteReader.u32_decodes fun _ _ =>
    Reads.field AcceleratorAttachment.rootComplex readId_decodes fun _ _ =>
    Reads.done (fun accelerator => ?_) rfl) fun _ => by simp
  cases accelerator
  simp [and_assoc]

end Records

section Capabilities

def ById (a b : Capability) : Prop := a.id ≤ b.id

instance : DecidableRel ById := fun a b => inferInstanceAs (Decidable (a.id ≤ b.id))

instance : Std.Total ById := ⟨fun a b => le_total a.id b.id⟩

instance : IsTrans Capability ById := ⟨fun _ _ _ => le_trans⟩

def sortedSet (capabilities : CapabilitySet) : CapabilitySet := ⟨capabilities.entries.insertionSort ById⟩

/-- Entries that `add` accepts one after another. -/
@[mk_iff] structure CapabilitiesFit (limits : Limits) (capabilities : CapabilitySet) : Prop where
  count : capabilities.entries.length ≤ limits.maxCapabilitiesPerResource.toNat
  valid : ∀ capability ∈ capabilities.entries, CapabilitySet.validateEntry capability = .ok ()
  distinct : (capabilities.entries.map Capability.id).Nodup

theorem sorted_unique {first second : List Capability} (perm : first.Perm second) (ordered : second.Pairwise ById)
    (distinct : (second.map Capability.id).Nodup) : first.insertionSort ById = second := by
  have same := (first.perm_insertionSort ById).trans perm
  refine List.Perm.eq_of_pairwise (fun a b here there below above => ?_) (first.pairwise_insertionSort ById) ordered same
  exact List.inj_on_of_nodup_map distinct (same.mem_iff.mp here) there (le_antisymm below above)

theorem holdsAt_iff {entries : List Capability} (ordered : entries.Pairwise fun a b => a.id < b.id) (id : CapabilityId) :
    CapabilitySet.holdsAt (entries.dropWhile fun entry => entry.id < id) id = false ↔
      id ∉ entries.map Capability.id := by
  induction entries with
  | nil => simp [CapabilitySet.holdsAt]
  | cons entry rest ih =>
    obtain ⟨above, ordered⟩ := List.pairwise_cons.mp ordered
    by_cases below : entry.id < id
    · rw [List.dropWhile_cons_of_pos (by simpa using below), ih ordered, List.map_cons, List.mem_cons, not_or]
      exact (and_iff_right (ne_of_gt below)).symm
    · have later : id ∉ rest.map Capability.id := by
        intro member
        obtain ⟨other, there, rfl⟩ := List.mem_map.mp member
        exact below (above other there)
      rw [List.dropWhile_cons_of_neg (by simpa using below), List.map_cons, List.mem_cons, not_or,
        and_iff_left later]
      exact beq_eq_false_iff_ne.trans ne_comm

theorem add_ok {limits : Limits} {capabilities made : CapabilitySet} {capability : Capability}
    (ordered : capabilities.entries.Pairwise fun a b => a.id < b.id) :
    capabilities.add capability limits = .ok made ↔
      (CapabilitySet.validateEntry capability = .ok () ∧
        capabilities.entries.length < limits.maxCapabilitiesPerResource.toNat ∧
        capability.id ∉ capabilities.entries.map Capability.id) ∧
        ⟨capabilities.entries.orderedInsert ById capability⟩ = made := by
  have inserted : capabilities.entries.orderedInsert ById capability =
      (CapabilitySet.lowerBound capabilities.entries capability.id).1 ++
        capability :: (CapabilitySet.lowerBound capabilities.entries capability.id).2 := by
    have test : (fun entry : Capability => decide (¬ ById capability entry)) = fun entry => decide (entry.id < capability.id) := by
      funext entry
      exact decide_eq_decide.mpr not_le
    rw [List.orderedInsert_eq_take_drop, test]
    unfold CapabilitySet.lowerBound
    rw [List.span_eq_takeWhile_dropWhile]
  have held : CapabilitySet.holdsAt (CapabilitySet.lowerBound capabilities.entries capability.id).2 capability.id = false ↔
      capability.id ∉ capabilities.entries.map Capability.id := by
    unfold CapabilitySet.lowerBound
    rw [List.span_eq_takeWhile_dropWhile]
    exact holdsAt_iff ordered capability.id
  simp only [CapabilitySet.add, CapabilitySet.validateEntry, check_bind_ok, check_ok, held, ← inserted]
  have given : (pure ⟨capabilities.entries.orderedInsert ById capability⟩ : Except Status CapabilitySet) = .ok made ↔
      ⟨capabilities.entries.orderedInsert ById capability⟩ = made :=
    ⟨fun same => Except.ok.inj same, fun same => congrArg Except.ok same⟩
  rw [given]
  tauto

theorem insert_ordered {entries : List Capability} {capability : Capability}
    (ordered : entries.Pairwise fun a b => a.id < b.id) (fresh : capability.id ∉ entries.map Capability.id) :
    (entries.orderedInsert ById capability).Pairwise fun a b => a.id < b.id := by
  have sorted : (entries.orderedInsert ById capability).Pairwise ById :=
    List.Pairwise.orderedInsert capability entries (ordered.imp le_of_lt)
  have ids : ((capability :: entries).map Capability.id).Nodup :=
    List.nodup_cons.mpr ⟨fresh, List.pairwise_map.mpr (ordered.imp ne_of_lt)⟩
  have distinct : ((entries.orderedInsert ById capability).map Capability.id).Nodup :=
    ((entries.perm_orderedInsert ById capability).map Capability.id).nodup_iff.mpr ids
  exact (sorted.and (List.pairwise_map.mp distinct)).imp fun both => lt_of_le_of_ne both.1 both.2

theorem fold_add {limits : Limits} {items : List Capability} {made result : CapabilitySet}
    (ordered : made.entries.Pairwise fun a b => a.id < b.id)
    (room : made.entries.length + items.length ≤ limits.maxCapabilitiesPerResource.toNat) :
    Reader.fold (fun capabilities capability => CapabilitySet.add capabilities capability limits) items made =
        .ok result ↔
      ((∀ capability ∈ items, CapabilitySet.validateEntry capability = .ok ()) ∧
        ((made.entries ++ items).map Capability.id).Nodup) ∧
        (⟨(made.entries ++ items).insertionSort ById⟩ : CapabilitySet) = result := by
  induction items generalizing made with
  | nil =>
    have distinct : (made.entries.map Capability.id).Nodup := List.pairwise_map.mpr (ordered.imp ne_of_lt)
    have sorted : made.entries.Pairwise ById := ordered.imp le_of_lt
    rw [List.append_nil, sorted.insertionSort_eq]
    constructor
    · intro same
      exact ⟨⟨nofun, distinct⟩, Except.ok.inj same⟩
    · intro both
      exact congrArg Except.ok both.2
  | cons capability rest ih =>
    have step : Reader.fold (fun capabilities capability => CapabilitySet.add capabilities capability limits)
        (capability :: rest) made = made.add capability limits >>= fun made =>
          Reader.fold (fun capabilities capability => CapabilitySet.add capabilities capability limits) rest made := rfl
    have perm : (made.entries.orderedInsert ById capability ++ rest).Perm (made.entries ++ capability :: rest) :=
      ((made.entries.perm_orderedInsert ById capability).append_right rest).trans List.perm_middle.symm
    have ids := (perm.map Capability.id).nodup_iff
    have size : (made.entries.orderedInsert ById capability).length = made.entries.length + 1 :=
      (made.entries.perm_orderedInsert ById capability).length_eq
    have same (distinct : ((made.entries ++ capability :: rest).map Capability.id).Nodup) :
        (made.entries.orderedInsert ById capability ++ rest).insertionSort ById =
          (made.entries ++ capability :: rest).insertionSort ById := by
      have sorting := List.perm_insertionSort ById (made.entries ++ capability :: rest)
      exact sorted_unique (perm.trans sorting.symm) (List.pairwise_insertionSort ById _)
        ((sorting.map Capability.id).nodup_iff.mpr distinct)
    rw [List.length_cons] at room
    rw [step, except_bind_ok]
    constructor
    · intro turns
      obtain ⟨_, added, others⟩ := turns
      obtain ⟨⟨valid, -, fresh⟩, rfl⟩ := (add_ok ordered).mp added
      obtain ⟨⟨each, distinct⟩, rfl⟩ := (ih (insert_ordered ordered fresh) (by rw [size]; omega)).mp others
      exact ⟨⟨List.forall_mem_cons.mpr ⟨valid, each⟩, ids.mp distinct⟩, congrArg CapabilitySet.mk (same (ids.mp distinct)).symm⟩
    · intro all
      obtain ⟨⟨each, distinct⟩, rfl⟩ := all
      obtain ⟨valid, each⟩ := List.forall_mem_cons.mp each
      have fresh : capability.id ∉ made.entries.map Capability.id := by
        intro member
        rw [List.map_append, List.map_cons] at distinct
        exact (List.nodup_append.mp distinct).2.2 _ member _ List.mem_cons_self rfl
      refine ⟨_, (add_ok ordered).mpr ⟨⟨valid, by omega, fresh⟩, rfl⟩, ?_⟩
      exact (ih (insert_ordered ordered fresh) (by rw [size]; omega)).mpr
        ⟨⟨each, ids.mpr distinct⟩, congrArg CapabilitySet.mk (same distinct)⟩

theorem readCapability_decodes :
    Decodes writeCapability id readCapability
      (fun capability => capability.name.length ≤ 64 ∧ capabilityIdFromName capability.name = capability.id) := by
  refine Decodes.congr (Reads.decodes <|
    Reads.field Capability.id readId_decodes fun identity _ =>
    Reads.field Capability.name (ByteReader.str_decodes 64) fun name _ => ?_) fun _ => by rw [true_and]; rfl
  intro reader capability after
  rw [require_bind_ok, Reader.pure_ok]
  simp only [true_and, List.flatten_nil, Consumes.nil]
  constructor
  · intro read
    obtain ⟨named, rfl, rfl⟩ := read
    exact ⟨⟨identity, name⟩, ⟨⟨rfl, rfl⟩, named⟩, rfl, rfl⟩
  · intro wire
    obtain ⟨_, ⟨⟨rfl, rfl⟩, named⟩, rfl, rfl⟩ := wire
    exact ⟨named, rfl, rfl⟩

theorem readCapabilities_decodes (limits : Limits) :
    Decodes writeCapabilities sortedSet (readCapabilities limits) (CapabilitiesFit limits) := by
  have folds (items : List Capability) (short : items.length ≤ limits.maxCapabilitiesPerResource.toNat)
      (_ : ∀ capability ∈ items,
        capability.name.length ≤ 64 ∧ capabilityIdFromName capability.name = capability.id) (result : CapabilitySet) :
      Reader.fold (fun capabilities capability => CapabilitySet.add capabilities capability limits) (items.map id) {} =
          .ok result ↔
        ((∀ capability ∈ items, CapabilitySet.validateEntry capability = .ok ()) ∧ (items.map Capability.id).Nodup) ∧
          sortedSet ⟨items⟩ = result := by
    rw [List.map_id]
    exact fold_add .nil (by simpa using short)
  refine ((readInto_decodes readCapability_decodes limits.maxCapabilitiesPerResource folds).along
    CapabilitySet.entries fun items => ⟨⟨items⟩, rfl⟩).congr fun capabilities => ?_
  rw [capabilitiesFit_iff]
  refine and_congr_right fun _ => and_iff_right_of_imp fun both capability member => ?_
  have valid := both.1 capability member
  unfold CapabilitySet.validateEntry validateCapabilityName at valid
  simp only [check_bind_ok, check_ok] at valid
  exact ⟨by simpa using valid.1.2.1, valid.2.2⟩

/-- A set as `add` builds it: the identity of each entry is below the next. -/
def CanonicalSet (capabilities : CapabilitySet) : Prop := capabilities.entries.Pairwise fun a b => a.id < b.id

theorem CanonicalSet.distinct {capabilities : CapabilitySet} (canonical : CanonicalSet capabilities) :
    (capabilities.entries.map Capability.id).Nodup := List.pairwise_map.mpr (canonical.imp ne_of_lt)

theorem CanonicalSet.sortedSet_eq {capabilities : CapabilitySet} (canonical : CanonicalSet capabilities) :
    sortedSet capabilities = capabilities := by
  have sorted : capabilities.entries.Pairwise ById := canonical.imp le_of_lt
  exact congrArg CapabilitySet.mk sorted.insertionSort_eq

theorem sortedSet_canonical {capabilities : CapabilitySet} (distinct : (capabilities.entries.map Capability.id).Nodup) :
    CanonicalSet (sortedSet capabilities) := by
  have sorting := List.perm_insertionSort ById capabilities.entries
  have apart := List.pairwise_map.mp ((sorting.map Capability.id).nodup_iff.mpr distinct)
  exact ((List.pairwise_insertionSort ById capabilities.entries).and apart).imp fun both =>
    lt_of_le_of_ne both.1 both.2

theorem validateFrom_ok {previous : Option Capability} {entries : List Capability} :
    CapabilitySet.validateFrom previous entries = .ok () ↔
      (∀ capability ∈ entries, CapabilitySet.validateEntry capability = .ok ()) ∧
        (previous.toList ++ entries).IsChain fun a b => a.id < b.id := by
  induction entries generalizing previous with
  | nil => cases previous <;> simp [CapabilitySet.validateFrom]
  | cons capability rest ih =>
    have valid : CapabilitySet.validateFrom previous (capability :: rest) = .ok () ↔
        CapabilitySet.validateEntry capability = .ok () ∧ (∀ earlier ∈ previous, earlier.id < capability.id) ∧
          CapabilitySet.validateFrom (some capability) rest = .ok () := by
      simp only [CapabilitySet.validateFrom, check_bind_ok, check_ok]
    rw [valid, ih, List.forall_mem_cons]
    cases previous with
    | none => simp [and_assoc]
    | some earlier =>
      simp only [Option.mem_some_iff, forall_eq', Option.toList_some, List.cons_append, List.nil_append,
        List.isChain_cons_cons]
      tauto

theorem validate_ok {capabilities : CapabilitySet} {limits : Limits} :
    capabilities.validate limits = .ok () ↔ CapabilitiesFit limits capabilities ∧ CanonicalSet capabilities := by
  have chain : capabilities.entries.IsChain (fun a b => a.id < b.id) ↔ CanonicalSet capabilities := by
    have transitive : IsTrans Capability fun a b => a.id < b.id := ⟨fun _ _ _ => lt_trans⟩
    exact List.isChain_iff_pairwise
  simp only [CapabilitySet.validate, check_bind_ok, check_ok]
  rw [validateFrom_ok, Option.toList_none, List.nil_append, chain, capabilitiesFit_iff]
  constructor
  · intro valid
    obtain ⟨count, each, canonical⟩ := valid
    exact ⟨⟨count, each, canonical.distinct⟩, canonical⟩
  · intro both
    obtain ⟨⟨count, each, -⟩, canonical⟩ := both
    exact ⟨count, each, canonical⟩

end Capabilities

end RecordCodec

end LabScheduler
