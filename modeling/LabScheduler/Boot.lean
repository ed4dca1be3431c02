import LabScheduler.Foundation.Mixing
import LabScheduler.Identity

namespace LabScheduler

open Foundation

/-- The mixed value of `make_worker_boot_id`, before zero is replaced. -/
def bootValue (worker : WorkerId) (bootCounter processToken : UInt64) : UInt64 :=
  let value := mix64 (worker.value ^^^ (bootCounter * 0x9e3779b97f4a7c15))
  mix64 (value ^^^ processToken)

def makeWorkerBootId (worker : WorkerId) (bootCounter processToken : UInt64) : WorkerBootId :=
  let value := bootValue worker bootCounter processToken
  ⟨if value = 0 then 1 else value⟩

theorem mix64_toBitVec (value : UInt64) :
    (mix64 value).toBitVec = xorShift 31 (xorShift 27 (xorShift 30 (value.toBitVec + 0x9e3779b97f4a7c15#64) *
      0xbf58476d1ce4e5b9#64) * 0x94d049bb133111eb#64) := rfl

theorem mix64_bijective : Function.Bijective mix64 := by
  have adds : Function.Bijective fun word : BitVec 64 => word + 0x9e3779b97f4a7c15#64 :=
    (Equiv.addRight 0x9e3779b97f4a7c15#64).bijective
  have first := (xorShift_bijective (show 0 < 30 by decide)).comp adds
  have scaled := (mul_odd_bijective (show (0xbf58476d1ce4e5b9#64).toNat % 2 = 1 by decide)).comp first
  have second := (xorShift_bijective (show 0 < 27 by decide)).comp scaled
  have rescaled := (mul_odd_bijective (show (0x94d049bb133111eb#64).toNat % 2 = 1 by decide)).comp second
  have third := (xorShift_bijective (show 0 < 31 by decide)).comp rescaled
  exact bijective_of_toBitVec mix64_toBitVec third

theorem bootValue_counter_bijective (worker : WorkerId) (token : UInt64) :
    Function.Bijective fun counter => bootValue worker counter token := by
  have spread : Function.Bijective fun counter : UInt64 => counter * 0x9e3779b97f4a7c15 :=
    bijective_of_toBitVec (fun _ => rfl)
      (mul_odd_bijective (show (0x9e3779b97f4a7c15#64).toNat % 2 = 1 by decide))
  have owned : Function.Bijective fun word : UInt64 => worker.value ^^^ word := by
    refine bijective_of_toBitVec (fun word => ?_) (xor_bijective worker.value.toBitVec)
    exact BitVec.xor_comm ..
  have tokened : Function.Bijective fun word : UInt64 => word ^^^ token :=
    bijective_of_toBitVec (fun _ => rfl) (xor_bijective token.toBitVec)
  have mixed := mix64_bijective.comp (tokened.comp (mix64_bijective.comp (owned.comp spread)))
  exact mixed

theorem bootValue_token_bijective (worker : WorkerId) (counter : UInt64) :
    Function.Bijective fun token => bootValue worker counter token := by
  let value := mix64 (worker.value ^^^ (counter * 0x9e3779b97f4a7c15))
  have tokened : Function.Bijective fun token : UInt64 => value ^^^ token := by
    refine bijective_of_toBitVec (fun word => ?_) (xor_bijective value.toBitVec)
    exact BitVec.xor_comm ..
  have mixed := mix64_bijective.comp tokened
  exact mixed

/-- Each identity is given once, but for the one pair of arguments whose mixed values are 0 and 1. -/
def SeparatesButOnePair (mixed : UInt64 → UInt64) (given : UInt64 → WorkerBootId) : Prop :=
  ∃ zero one, zero ≠ one ∧ mixed zero = 0 ∧ mixed one = 1 ∧
    ∀ first second, first ≠ second →
      (given first = given second ↔ first = zero ∧ second = one ∨ first = one ∧ second = zero)

theorem separatesButOnePair {mixed : UInt64 → UInt64} (bijective : Function.Bijective mixed) :
    SeparatesButOnePair mixed fun argument => ⟨if mixed argument = 0 then 1 else mixed argument⟩ := by
  obtain ⟨zero, at_zero⟩ := bijective.2 0
  obtain ⟨one, at_one⟩ := bijective.2 1
  refine ⟨zero, one, fun same => ?_, at_zero, at_one, fun first second apart => ?_⟩
  · rw [same, at_one] at at_zero
    exact absurd at_zero (by decide)
  · have is_zero (argument : UInt64) : mixed argument = 0 ↔ argument = zero := by
      rw [← at_zero, bijective.1.eq_iff]
    have is_one (argument : UInt64) : mixed argument = 1 ↔ argument = one := by
      rw [← at_one, bijective.1.eq_iff]
    rw [StrongId.mk.injEq, remap_eq_iff bijective.1, is_zero, is_one, is_zero, is_one]
    simp [apart]

/-- `mix64` loses nothing, so a boot identity is never null, and shared by the incarnations of one pair of
    boot counters, or of process tokens, at most. -/
theorem boot_ids_separate :
    Function.Bijective mix64 ∧
      (∀ worker counter token, (makeWorkerBootId worker counter token).isNull = false) ∧
      (∀ worker token, SeparatesButOnePair (fun counter => bootValue worker counter token)
        fun counter => makeWorkerBootId worker counter token) ∧
      ∀ worker counter, SeparatesButOnePair (fun token => bootValue worker counter token)
        fun token => makeWorkerBootId worker counter token := by
  refine ⟨mix64_bijective, fun worker counter token => ?_, fun worker token => ?_, fun worker counter => ?_⟩
  · rw [← Bool.not_eq_true, StrongId.isNull_iff]
    unfold makeWorkerBootId
    generalize bootValue worker counter token = value
    dsimp only
    split
    · decide
    · assumption
  · unfold makeWorkerBootId
    exact separatesButOnePair (bootValue_counter_bijective worker token)
  · unfold makeWorkerBootId
    exact separatesButOnePair (bootValue_token_bijective worker counter)

end LabScheduler
