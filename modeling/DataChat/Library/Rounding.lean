import Mathlib.Algebra.Order.Floor.Ring
import Mathlib.Algebra.Order.Field.Basic
import Mathlib.Tactic.Linarith
import Mathlib.Tactic.Positivity

/-!
# Rounding to decimals

A number is rounded to the nearest multiple of a power of ten, and to the even one when it stands
halfway.

* `roundHalfEven_mono`, `roundTo_mono`: rounding does not change the order.
* `roundTo_intCast`: an integer stays.
-/

namespace DataChat

variable {K : Type*} [Field K] [LinearOrder K] [FloorRing K]

/-- The nearest integer, and the even one of two that are as near. -/
def roundHalfEven (x : K) : ℤ :=
  if Int.fract x < 1 / 2 then ⌊x⌋
  else if 1 / 2 < Int.fract x then ⌊x⌋ + 1
  else if ⌊x⌋ % 2 = 0 then ⌊x⌋
  else ⌊x⌋ + 1

/-- The nearest number with this many decimals. -/
def roundTo (digits : ℕ) (x : K) : K := roundHalfEven (x * 10 ^ digits) / 10 ^ digits

theorem floor_le_roundHalfEven (x : K) : ⌊x⌋ ≤ roundHalfEven x := by
  unfold roundHalfEven
  split
  · exact le_refl _
  · split
    · omega
    · split
      · exact le_refl _
      · omega

theorem roundHalfEven_le_floor_add_one (x : K) : roundHalfEven x ≤ ⌊x⌋ + 1 := by
  unfold roundHalfEven
  split
  · omega
  · split
    · exact le_refl _
    · split
      · omega
      · exact le_refl _

variable [IsStrictOrderedRing K]

theorem roundHalfEven_intCast (n : ℤ) : roundHalfEven (n : K) = n := by
  unfold roundHalfEven
  rw [Int.fract_intCast, if_pos (by positivity), Int.floor_intCast]

/-- Rounding does not change the order. -/
theorem roundHalfEven_mono {x y : K} (h : x ≤ y) : roundHalfEven x ≤ roundHalfEven y := by
  have hfloor : ⌊x⌋ ≤ ⌊y⌋ := Int.floor_le_floor h
  rcases hfloor.lt_or_eq with hlt | heq
  · have hx := roundHalfEven_le_floor_add_one x
    have hy := floor_le_roundHalfEven y
    omega
  · -- between two integers only the fractions matter
    have hfract : Int.fract x ≤ Int.fract y := by
      unfold Int.fract
      rw [heq]
      linarith
    by_cases hup : roundHalfEven x = ⌊x⌋
    · rw [hup, heq]
      exact floor_le_roundHalfEven y
    · have hhalf : 1 / 2 ≤ Int.fract x := by
        by_contra hlow
        exact hup (if_pos (not_le.mp hlow))
      unfold roundHalfEven at hup ⊢
      rw [if_neg (not_lt.mpr hhalf)] at hup ⊢
      rw [if_neg (not_lt.mpr (hhalf.trans hfract)), ← heq]
      by_cases hx : 1 / 2 < Int.fract x
      · rw [if_pos hx, if_pos (hx.trans_le hfract)]
      · rw [if_neg hx] at hup ⊢
        split_ifs at hup ⊢ with hodd
        all_goals omega

theorem roundTo_mono {digits : ℕ} {x y : K} (h : x ≤ y) : roundTo digits x ≤ roundTo digits y := by
  have hscale : (0 : K) < 10 ^ digits := by positivity
  unfold roundTo
  have hround := roundHalfEven_mono (mul_le_mul_of_nonneg_right h hscale.le)
  exact div_le_div_of_nonneg_right (Int.cast_le.mpr hround) hscale.le

/-- An integer stays. -/
theorem roundTo_intCast (digits : ℕ) (n : ℤ) : roundTo digits (n : K) = n := by
  have hscale : (10 ^ digits : K) ≠ 0 := by positivity
  unfold roundTo
  have hcast : (n : K) * 10 ^ digits = ((n * 10 ^ digits : ℤ) : K) := by
    push_cast
    rfl
  rw [hcast, roundHalfEven_intCast, ← hcast, mul_div_cancel_right₀ _ hscale]

end DataChat
