/-
Module: CachePilot.Lib.Rounding
Layer: Lib
Purpose: Rounding to the nearest integer, ties to the even one, and to a number of decimal places. Rounding is
  monotone and leaves integers alone, so it maps the interval between two integers into itself.
Trusted boundary: none
Main exports: roundHalfEven, roundHalfEven_mono, roundHalfEven_intCast, roundPlaces, roundPlaces_mono
-/
import Mathlib.Algebra.Order.Floor.Ring
import Mathlib.Algebra.Order.Field.Basic
import Mathlib.Algebra.Ring.Parity
import Mathlib.Tactic.Linarith

section HalfEven

variable {K : Type*} [Field K] [LinearOrder K] [FloorRing K]

/-- The nearest integer; of two that are as near the even one. -/
def roundHalfEven (x : K) : ℤ :=
  if Int.fract x < 1 / 2 then ⌊x⌋
  else if 1 / 2 < Int.fract x then ⌊x⌋ + 1
  else if Even ⌊x⌋ then ⌊x⌋
  else ⌊x⌋ + 1

theorem floor_le_roundHalfEven (x : K) : ⌊x⌋ ≤ roundHalfEven x := by
  unfold roundHalfEven
  split_ifs <;> omega

theorem roundHalfEven_le_floor_add_one (x : K) : roundHalfEven x ≤ ⌊x⌋ + 1 := by
  unfold roundHalfEven
  split_ifs <;> omega

variable [IsStrictOrderedRing K]

theorem roundHalfEven_mono {x y : K} (le : x ≤ y) : roundHalfEven x ≤ roundHalfEven y := by
  rcases (Int.floor_le_floor le).lt_or_eq with earlier | same
  · calc roundHalfEven x ≤ ⌊x⌋ + 1 := roundHalfEven_le_floor_add_one x
      _ ≤ ⌊y⌋ := earlier
      _ ≤ roundHalfEven y := floor_le_roundHalfEven y
  · have fractions : Int.fract x ≤ Int.fract y := by
      unfold Int.fract
      rw [same]
      linarith
    unfold roundHalfEven
    rw [same]
    split_ifs <;> first | omega | (exfalso; linarith)

theorem roundHalfEven_intCast (n : ℤ) : roundHalfEven (n : K) = n := by
  have half : (0 : K) < 1 / 2 := by norm_num
  unfold roundHalfEven
  rw [Int.fract_intCast, if_pos half, Int.floor_intCast]

/-- Rounding to a number of decimal places. -/
def roundPlaces (places : ℕ) (x : K) : K := roundHalfEven (x * 10 ^ places) / 10 ^ places

theorem roundPlaces_mono (places : ℕ) : Monotone (roundPlaces places : K → K) := by
  intro x y le
  have scale : (0 : K) < 10 ^ places := by positivity
  apply div_le_div_of_nonneg_right _ scale.le
  exact Int.cast_le.2 (roundHalfEven_mono (mul_le_mul_of_nonneg_right le scale.le))

/-- An integer is left alone. -/
theorem roundPlaces_intCast (places : ℕ) (n : ℤ) : roundPlaces places (n : K) = n := by
  have scale : (10 : K) ^ places ≠ 0 := by positivity
  have whole : (n : K) * 10 ^ places = ((n * 10 ^ places : ℤ) : K) := by push_cast; rfl
  unfold roundPlaces
  rw [whole, roundHalfEven_intCast]
  push_cast
  exact mul_div_cancel_right₀ _ scale

theorem roundPlaces_zero (places : ℕ) : roundPlaces places (0 : K) = 0 := by
  simpa using roundPlaces_intCast (K := K) places 0

theorem roundPlaces_one (places : ℕ) : roundPlaces places (1 : K) = 1 := by
  simpa using roundPlaces_intCast (K := K) places 1

end HalfEven
