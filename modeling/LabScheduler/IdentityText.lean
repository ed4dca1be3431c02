import LabScheduler.Identity
import LabScheduler.Numerals

namespace LabScheduler

namespace StrongId

variable {kind : IdKind}

def parse (kind : IdKind) (text : Text) : Option (StrongId kind) :=
  let prefixText := kind.kPrefix
  if text.length ≠ prefixText.length + 1 + 16 then none
  else if text.take prefixText.length ≠ prefixText then none
  else if text[prefixText.length]? ≠ some 45 then none
  else
    match hexU64Decode (text.drop (prefixText.length + 1)) 16 with
    | none => none
    | some value => if value = 0 then none else some ⟨value⟩

theorem framed_iff {text digits : Text} (wide : digits.length = 16) :
    (text.length = kind.kPrefix.length + 1 + 16 ∧ text.take kind.kPrefix.length = kind.kPrefix ∧
        text[kind.kPrefix.length]? = some 45 ∧ text.drop (kind.kPrefix.length + 1) = digits) ↔
      text = kind.kPrefix ++ 45 :: digits := by
  constructor
  · intro framed
    obtain ⟨-, begins, dash, rest⟩ := framed
    have after : text.drop kind.kPrefix.length = 45 :: digits := by
      rw [← rest, List.drop_eq_getElem?_toList_append, dash]
      rfl
    calc text = text.take kind.kPrefix.length ++ text.drop kind.kPrefix.length := (List.take_append_drop ..).symm
      _ = kind.kPrefix ++ 45 :: digits := by rw [begins, after]
  · intro same
    subst same
    refine ⟨?_, by simp, by simp, ?_⟩
    · rw [List.length_append, List.length_cons, wide]
    · rw [← List.drop_drop]
      simp

theorem toText_eq (id : StrongId kind) : id.toText = kind.kPrefix ++ 45 :: hexU64 id.value 16 := by
  have dash : ascii "-" = [45] := by decide
  rw [toText, dash, List.append_assoc]
  rfl

theorem parse_eq_some {text : Text} {id : StrongId kind} :
    parse kind text = some id ↔ id.isNull = false ∧ text = id.toText := by
  have null : id.isNull = false ↔ id.value ≠ 0 := by
    rw [← Bool.not_eq_true, isNull_iff]
  rw [null, toText_eq, ← framed_iff (hexU64_length id.value 16)]
  have digits (rest : Text) :
      (match hexU64Decode rest 16 with
        | none => none
        | some value => if value = 0 then none else some (⟨value⟩ : StrongId kind)) = some id ↔
        id.value ≠ 0 ∧ rest = hexU64 id.value 16 := by
    rw [← hexU64Decode_eq_some]
    cases hexU64Decode rest 16 with
    | none => simp
    | some value =>
      dsimp only
      rw [Option.ite_none_left_eq_some, Option.some_inj, Option.some_inj]
      constructor
      · intro both
        obtain ⟨some, rfl⟩ := both
        exact ⟨some, rfl⟩
      · intro both
        obtain ⟨some, rfl⟩ := both
        exact ⟨some, rfl⟩
  unfold parse
  extract_lets prefixText
  simp only [Option.ite_none_left_eq_some, ne_eq, not_not, digits]
  tauto

def kinds : List IdKind :=
  [.scheduleRequest, .experiment, .experimentGeneration, .trial, .decision, .placement, .placementGeneration,
    .coordinatorEpoch, .resource, .resourceGeneration, .accelerator, .modelResource, .simulator, .dataset,
    .datasetVersion, .environment, .physicalEnvironment, .virtualEnvironment, .capability, .topologyDomain,
    .healthGeneration, .capacityGeneration, .worker, .workerBoot, .reservation, .lease]

theorem kPrefix_injective : Function.Injective IdKind.kPrefix := by
  intro first second same
  have all (kind : IdKind) : kind ∈ kinds := by cases kind <;> decide
  have distinct : (kinds.map IdKind.kPrefix).Nodup := by decide
  exact List.inj_on_of_nodup_map distinct (all first) (all second) same

/-- Each text is read as the one identity of a type that it is written for, if any, and under one type at most. -/
theorem identity_text_bijective :
    (∀ kind text, ∀ id : StrongId kind, parse kind text = some id ↔ id.isNull = false ∧ text = id.toText) ∧
      ∀ kind other text, (parse kind text).isSome → (parse other text).isSome → kind = other := by
  refine ⟨fun _ _ _ => parse_eq_some, fun kind other text first second => ?_⟩
  obtain ⟨id, read⟩ := Option.isSome_iff_exists.mp first
  obtain ⟨same, again⟩ := Option.isSome_iff_exists.mp second
  have written := (parse_eq_some.mp read).2
  have written' := (parse_eq_some.mp again).2
  rw [toText_eq] at written written'
  have frames := written.symm.trans written'
  exact kPrefix_injective (List.append_inj_left' frames (by simp [hexU64_length]))

end StrongId

end LabScheduler
