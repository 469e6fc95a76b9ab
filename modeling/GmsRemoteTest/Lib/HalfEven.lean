import Mathlib.Algebra.Order.Floor.Ring

/-! Rounding to the nearest integer, and to the even one of two that are as near. -/
namespace HalfEven

variable {K : Type} [Field K] [LinearOrder K] [FloorRing K]

def nearest (x : K) : ℤ :=
  if Int.fract x < 1 / 2 then ⌊x⌋ else if 1 / 2 < Int.fract x then ⌊x⌋ + 1 else if ⌊x⌋ % 2 = 0 then ⌊x⌋ else ⌊x⌋ + 1

variable [IsStrictOrderedRing K]

theorem abs_nearest_sub (x : K) : |(nearest x : K) - x| ≤ 1 / 2 := by
  have split := Int.floor_add_fract x
  have low := Int.fract_nonneg x
  have high := Int.fract_lt_one x
  unfold nearest
  rw [abs_le]
  split_ifs <;> push_cast <;> constructor <;> linarith

theorem le_nearest {x : K} {n : ℤ} (above : (n : K) - 1 / 2 < x) : n ≤ nearest x := by
  have half := abs_le.mp (abs_nearest_sub x)
  have less : ((n - 1 : ℤ) : K) < nearest x := by
    push_cast
    linarith [half.1]
  exact Int.sub_one_lt_iff.mp (Int.cast_lt.mp less)

theorem nearest_le {x : K} {n : ℤ} (below : x < (n : K) + 1 / 2) : nearest x ≤ n := by
  have half := abs_le.mp (abs_nearest_sub x)
  have less : (nearest x : K) < ((n + 1 : ℤ) : K) := by
    push_cast
    linarith [half.2]
  exact Int.lt_add_one_iff.mp (Int.cast_lt.mp less)

end HalfEven
