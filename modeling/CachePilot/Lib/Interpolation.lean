/-
Module: CachePilot.Lib.Interpolation
Layer: Lib
Purpose: Linear interpolation between the values at natural positions. Between two positions it stays between their
  values, so it is monotone in the position when the values are. A list gives its values, the last one from its end on.
Trusted boundary: none
Main exports: lerp, lerp_mono, clampedAt, clampedAt_mono
-/
import Mathlib.Algebra.Order.Floor.Semiring
import Mathlib.Algebra.Order.Field.Basic
import Mathlib.Data.List.Basic
import Mathlib.Tactic.Linarith

section Lerp

variable {K : Type*} [Field K] [LinearOrder K] [IsStrictOrderedRing K] [FloorSemiring K]

/-- The interpolated value at a position. -/
def lerp (values : ℕ → K) (position : K) : K :=
  values ⌊position⌋₊ + (position - ⌊position⌋₊) * (values (⌊position⌋₊ + 1) - values ⌊position⌋₊)

variable {values : ℕ → K} {x y : K}

/-- Interpolation does not fall below the value before the position. -/
theorem le_lerp (mono : Monotone values) (nonneg : 0 ≤ x) : values ⌊x⌋₊ ≤ lerp values x := by
  have fraction : 0 ≤ x - ⌊x⌋₊ := sub_nonneg.mpr (Nat.floor_le nonneg)
  have step : 0 ≤ values (⌊x⌋₊ + 1) - values ⌊x⌋₊ := sub_nonneg.mpr (mono (Nat.le_succ _))
  exact le_add_of_nonneg_right (mul_nonneg fraction step)

/-- Interpolation does not rise above the value behind the position. -/
theorem lerp_le (mono : Monotone values) : lerp values x ≤ values (⌊x⌋₊ + 1) := by
  have fraction : x - ⌊x⌋₊ ≤ 1 := by
    have floor := Nat.lt_floor_add_one x
    linarith
  have step : 0 ≤ values (⌊x⌋₊ + 1) - values ⌊x⌋₊ := sub_nonneg.mpr (mono (Nat.le_succ _))
  calc lerp values x
      ≤ values ⌊x⌋₊ + 1 * (values (⌊x⌋₊ + 1) - values ⌊x⌋₊) :=
        add_le_add_right (mul_le_mul_of_nonneg_right fraction step) _
    _ = values (⌊x⌋₊ + 1) := by rw [one_mul, add_sub_cancel]

/-- Interpolation between values that never fall never falls. -/
theorem lerp_mono (mono : Monotone values) (nonneg : 0 ≤ x) (le : x ≤ y) : lerp values x ≤ lerp values y := by
  rcases (Nat.floor_le_floor le).eq_or_lt with same | earlier
  · have step : 0 ≤ values (⌊y⌋₊ + 1) - values ⌊y⌋₊ := sub_nonneg.mpr (mono (Nat.le_succ _))
    rw [lerp, lerp, same]
    exact add_le_add_right (mul_le_mul_of_nonneg_right (sub_le_sub_right le _) step) _
  · calc lerp values x ≤ values (⌊x⌋₊ + 1) := lerp_le mono
      _ ≤ values ⌊y⌋₊ := mono earlier
      _ ≤ lerp values y := le_lerp mono (nonneg.trans le)

end Lerp

section Clamped

variable {K : Type*} [Zero K]

/-- The value at a position of a list, the last one from its end on. -/
def clampedAt (items : List K) (position : ℕ) : K := items.getD (min position (items.length - 1)) 0

/-- An item in its place. -/
theorem getElem?_eq_clampedAt {items : List K} (filled : items ≠ []) (position : ℕ) :
    items[min position (items.length - 1)]? = some (clampedAt items position) := by
  have inside : min position (items.length - 1) < items.length := by
    have length := List.length_pos_iff.mpr filled
    omega
  rw [clampedAt, List.getD_eq_getElem?_getD, List.getElem?_eq_getElem inside, Option.getD_some]

/-- The values of a sorted list never fall. -/
theorem clampedAt_mono [Preorder K] {items : List K} (sorted : items.Pairwise (· ≤ ·)) :
    Monotone (clampedAt items) := by
  intro i j le
  cases items with
  | nil => exact le_refl _
  | cons item rest =>
      have filled : item :: rest ≠ [] := List.cons_ne_nil item rest
      have first := getElem?_eq_clampedAt filled i
      have second := getElem?_eq_clampedAt filled j
      have order : min i ((item :: rest).length - 1) ≤ min j ((item :: rest).length - 1) :=
        min_le_min_right _ le
      obtain ⟨inside, here⟩ := List.getElem?_eq_some_iff.mp first
      obtain ⟨inside', there⟩ := List.getElem?_eq_some_iff.mp second
      rw [← here, ← there]
      rcases order.eq_or_lt with same | earlier
      · simp only [same, le_refl]
      · exact List.pairwise_iff_getElem.mp sorted _ _ inside inside' earlier

end Clamped
