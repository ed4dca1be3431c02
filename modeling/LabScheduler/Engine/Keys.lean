import LabScheduler.Engine.Optimality
import LabScheduler.Foundation.Sorted

namespace LabScheduler

open Foundation

theorem sortTexts_map (ids : List ResourceId) :
    sortTexts (ids.map StrongId.toText) = (sortIds ids).map StrongId.toText := by
  have perm : (ids.map StrongId.toText).Perm ((sortIds ids).map StrongId.toText) :=
    ((List.perm_insertionSort _ ids).symm).map StrongId.toText
  have same := insertionSort_eq_of_perm perm
  exact same.trans (sortTexts_sortIds ids)

theorem canonicalResourceKey_eq (ids : List ResourceId) :
    canonicalResourceKey ids = joinComma ((sortIds ids).map StrongId.toText) := by
  unfold canonicalResourceKey
  rw [sortTexts_map]

theorem sortIds_length (ids : List ResourceId) : (sortIds ids).length = ids.length :=
  (List.perm_insertionSort _ ids).length_eq

theorem canonicalResourceKey_length (ids : List ResourceId) :
    (canonicalResourceKey ids).length = 21 * ids.length - 1 := by
  rw [canonicalResourceKey_eq, joinComma_length, sortIds_length]

theorem canonicalResourceKey_lt {ids others : List ResourceId} (same : ids.length = others.length) :
    canonicalResourceKey ids < canonicalResourceKey others ↔ sortIds ids < sortIds others := by
  rw [canonicalResourceKey_eq, canonicalResourceKey_eq]
  exact joinComma_lt_iff (by rw [sortIds_length, sortIds_length, same])

theorem canonicalResourceKey_inj {ids others : List ResourceId} :
    canonicalResourceKey ids = canonicalResourceKey others ↔ sortIds ids = sortIds others := by
  constructor
  · intro keys
    have lengths := congrArg List.length keys
    rw [canonicalResourceKey_length, canonicalResourceKey_length] at lengths
    have same : ids.length = others.length := by omega
    apply le_antisymm
    · exact not_lt.mp fun above => absurd ((canonicalResourceKey_lt same.symm).mpr above) (keys ▸ lt_irrefl _)
    · exact not_lt.mp fun below => absurd ((canonicalResourceKey_lt same).mpr below) (keys ▸ lt_irrefl _)
  · intro sorted
    rw [canonicalResourceKey_eq, canonicalResourceKey_eq, sorted]

/-- The tie-break string orders lists of one length as their ascending identity vectors are ordered, and tells apart
    all lists but those that are permutations of each other. -/
theorem canonical_key_order (ids others : List ResourceId) :
    (ids.length = others.length →
      (canonicalResourceKey ids < canonicalResourceKey others ↔ sortIds ids < sortIds others) ∧
      (canonicalResourceKey ids = canonicalResourceKey others ↔ sortIds ids = sortIds others) ∧
      (canonicalResourceKey others < canonicalResourceKey ids ↔ sortIds others < sortIds ids)) ∧
    (canonicalResourceKey ids = canonicalResourceKey others ↔ ids.Perm others) := by
  constructor
  · intro same
    exact ⟨canonicalResourceKey_lt same, canonicalResourceKey_inj, canonicalResourceKey_lt same.symm⟩
  · exact canonicalResourceKey_inj.trans insertionSort_eq_iff

theorem canonical_key_order_bench :
    canonicalResourceKey [⟨10⟩, ⟨9⟩] < canonicalResourceKey [⟨16⟩, ⟨9⟩] := by
  have compares := (canonical_key_order [⟨10⟩, ⟨9⟩] [⟨16⟩, ⟨9⟩]).1 rfl
  exact compares.1.mpr (by decide)

end LabScheduler
