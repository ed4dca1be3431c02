import Mathlib.Algebra.Order.Ring.Abs
import Mathlib.Tactic.Ring

namespace Foundation

section Ring

variable {R : Type*} [CommRing R] [LinearOrder R]

/-- `shown`, counted in units of `scale`, misses `exact` by at most `error`. -/
def Near (scale error shown exact : R) : Prop := |scale * shown - exact| ≤ error

variable {scale error shown exact : R}

theorem Near.weaken {slack : R} (near : Near scale error shown exact) (less : error ≤ slack) :
    Near scale slack shown exact := near.trans less

variable [IsStrictOrderedRing R]

theorem Near.multiple (scale shown : R) : Near scale 0 shown (scale * shown) := by
  unfold Near
  rw [sub_self, abs_zero]

theorem Near.mul (near : Near scale error shown exact) (factor : R) :
    Near scale (error * |factor|) (shown * factor) (exact * factor) := by
  have split : scale * (shown * factor) - exact * factor = (scale * shown - exact) * factor := by ring
  unfold Near
  rw [split, abs_mul]
  exact mul_le_mul_of_nonneg_right near (abs_nonneg factor)

theorem Near.comp {outer slack middle : R} (second : Near outer slack shown middle)
    (first : Near scale error middle exact) (positive : 0 ≤ scale) :
    Near (scale * outer) (scale * slack + error) shown exact := by
  have split : scale * outer * shown - exact = scale * (outer * shown - middle) + (scale * middle - exact) := by ring
  unfold Near
  calc |scale * outer * shown - exact| = |scale * (outer * shown - middle) + (scale * middle - exact)| := by rw [split]
    _ ≤ |scale * (outer * shown - middle)| + |scale * middle - exact| := abs_add_le ..
    _ ≤ scale * slack + error := by
      rw [abs_mul, abs_of_nonneg positive]
      exact add_le_add (mul_le_mul_of_nonneg_left second positive) first

theorem Near.add {error' shown' exact' : R} (first : Near scale error shown exact)
    (second : Near scale error' shown' exact') :
    Near scale (error + error') (shown + shown') (exact + exact') := by
  have split : scale * (shown + shown') - (exact + exact') = scale * shown - exact + (scale * shown' - exact') := by ring
  unfold Near
  rw [split]
  exact (abs_add_le _ _).trans (add_le_add first second)

/-- The errors of a sum add up. -/
theorem Near.sum {ι : Type*} {items : List ι} {errors shown exact : ι → R}
    (near : ∀ item ∈ items, Near scale (errors item) (shown item) (exact item)) :
    Near scale (items.map errors).sum (items.map shown).sum (items.map exact).sum := by
  induction items with
  | nil => simp [Near]
  | cons item rest ih =>
    simp only [List.map_cons, List.sum_cons]
    exact (near item List.mem_cons_self).add (ih fun other member => near other (List.mem_cons_of_mem _ member))

theorem Near.apart {slack other : R} (first : Near scale error shown exact) (second : Near scale slack other exact) :
    |scale * (shown - other)| ≤ error + slack := by
  have split : scale * (shown - other) = scale * shown - exact - (scale * other - exact) := by ring
  rw [split]
  exact (abs_sub _ _).trans (add_le_add first second)

end Ring

theorem near_tdiv {divisor : ℤ} (positive : 0 < divisor) (exact : ℤ) :
    Near divisor (divisor - 1) (exact.tdiv divisor) exact := by
  have parts := Int.mul_tdiv_add_tmod exact divisor
  have low := Int.lt_tmod_of_pos exact positive
  have high := Int.tmod_lt_of_pos exact positive
  unfold Near
  rw [abs_le]
  omega

end Foundation
