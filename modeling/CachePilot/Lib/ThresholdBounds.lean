/-
Module: CachePilot.Lib.ThresholdBounds
Layer: Lib
Purpose: Narrowing down an unknown threshold. The record keeps the best lower and upper bound seen so far;
  evidence that the threshold lies above a value raises the lower bound, evidence that it lies at or below a
  value caps the upper one. Narrowed bounds contain exactly the thresholds of the wider ones that the
  evidence is compatible with, so narrowing is sound and loses nothing. Evidence that contradicts itself puts the
  bounds out of order, and only such evidence does.
Trusted boundary: none
Main exports: ThresholdBounds, ThresholdBounds.raise, ThresholdBounds.cap, ThresholdBounds.Contains,
  ThresholdBounds.contains_raise, ThresholdBounds.contains_cap, ThresholdBounds.contains_narrow,
  ThresholdBounds.upper_foldl_narrow_eq_some_iff, ThresholdBounds.inOrder_foldl_narrow_iff,
  ThresholdBounds.interpolate_between, ThresholdBounds.interpolate_le_iff
-/
import Mathlib.Algebra.Order.Ring.Defs
import Mathlib.Algebra.Order.Ring.Rat
import Mathlib.Tactic.Linarith
import Mathlib.Tactic.Ring

/-- The bounds known so far; a missing one is not known. -/
structure ThresholdBounds (α : Type*) where
  lower : Option α := none
  upper : Option α := none
deriving DecidableEq

namespace ThresholdBounds

variable {α : Type*} [LinearOrder α] {b : ThresholdBounds α} {threshold value : α}

/-- The threshold lies strictly above the value. -/
def raise (b : ThresholdBounds α) (value : α) : ThresholdBounds α :=
  { b with lower := some (b.lower.elim value (max · value)) }

/-- The threshold lies at or below the value. -/
def cap (b : ThresholdBounds α) (value : α) : ThresholdBounds α :=
  { b with upper := some (b.upper.elim value (min · value)) }

/-- The threshold lies above the lower bound and not above the upper one, wherever they are known. -/
def Contains (b : ThresholdBounds α) (threshold : α) : Prop :=
  (∀ l ∈ b.lower, l < threshold) ∧ ∀ u ∈ b.upper, threshold ≤ u

instance (b : ThresholdBounds α) (threshold : α) : Decidable (b.Contains threshold) :=
  inferInstanceAs (Decidable (_ ∧ _))

theorem contains_unknown : Contains ({} : ThresholdBounds α) threshold := by
  constructor
  · intro l known
    cases known
  · intro u known
    cases known

/-- Raising the lower bound keeps exactly the thresholds above the value. -/
theorem contains_raise :
    (b.raise value).Contains threshold ↔ b.Contains threshold ∧ value < threshold := by
  obtain ⟨lower, upper⟩ := b
  cases lower with
  | none => simp [raise, Contains, and_comm]
  | some l =>
      simp only [raise, Contains, Option.elim_some, Option.mem_some_iff, forall_eq', max_lt_iff]
      tauto

/-- Capping the upper bound keeps exactly the thresholds up to the value. -/
theorem contains_cap :
    (b.cap value).Contains threshold ↔ b.Contains threshold ∧ threshold ≤ value := by
  obtain ⟨lower, upper⟩ := b
  cases upper with
  | none => simp [cap, Contains]
  | some u =>
      simp only [cap, Contains, Option.elim_some, Option.mem_some_iff, forall_eq', le_min_iff]
      tauto

theorem max_eq_max_iff {l x y : α} : max l x = max l y ↔ x = y ∨ x ≤ l ∧ y ≤ l := by
  constructor
  · intro same
    rcases le_total x l with below | above
    · rw [max_eq_left below] at same
      exact Or.inr ⟨below, max_eq_left_iff.1 same.symm⟩
    · rcases le_total y l with below' | above'
      · rw [max_eq_left below'] at same
        exact Or.inr ⟨max_eq_left_iff.1 same, below'⟩
      · rw [max_eq_right above, max_eq_right above'] at same
        exact Or.inl same
  · rintro (rfl | ⟨below, below'⟩)
    · rfl
    · rw [max_eq_left below, max_eq_left below']

/-- Two values raise the lower bound alike when they are equal or both below it. -/
theorem raise_eq_raise_iff {x y : α} :
    b.raise x = b.raise y ↔ x = y ∨ ∃ l ∈ b.lower, x ≤ l ∧ y ≤ l := by
  obtain ⟨lower, upper⟩ := b
  cases lower with
  | none => simp [raise]
  | some l => simp [raise, max_eq_max_iff]

/-- Two values cap the upper bound alike when they are equal or both above it. -/
theorem cap_eq_cap_iff {x y : α} :
    b.cap x = b.cap y ↔ x = y ∨ ∃ u ∈ b.upper, u ≤ x ∧ u ≤ y := by
  obtain ⟨lower, upper⟩ := b
  cases upper with
  | none => simp [cap]
  | some u =>
      have dual : min u x = min u y ↔ x = y ∨ u ≤ x ∧ u ≤ y := max_eq_max_iff (α := αᵒᵈ)
      simp [cap, dual]

/-- Bounds around one threshold are in order. -/
theorem Contains.ordered (around : b.Contains threshold) {l u : α} (known : l ∈ b.lower)
    (capped : u ∈ b.upper) : l < u :=
  (around.1 l known).trans_le (around.2 u capped)

/-! ### Evidence -/

/-- One piece of evidence about the threshold. -/
inductive Evidence (α : Type*) where
  | above (value : α)
  | upTo (value : α)

/-- The value that the evidence compares the threshold with. -/
def Evidence.limit : Evidence α → α
  | .above x => x
  | .upTo x => x

/-- The evidence is true of the threshold. -/
def Evidence.Compatible (threshold : α) : Evidence α → Prop
  | .above value => value < threshold
  | .upTo value => threshold ≤ value

/-- Fold one piece of evidence into the bounds. -/
def narrow (b : ThresholdBounds α) : Evidence α → ThresholdBounds α
  | .above value => b.raise value
  | .upTo value => b.cap value

/-- Narrowing keeps exactly the thresholds that the evidence is true of. -/
theorem contains_narrow {e : Evidence α} :
    (b.narrow e).Contains threshold ↔ b.Contains threshold ∧ e.Compatible threshold := by
  cases e with
  | above value => exact contains_raise
  | upTo value => exact contains_cap

/-- The lower bound stays below a threshold as long as no evidence puts the threshold above a value that it
    does not exceed. -/
theorem lower_narrow_lt {e : Evidence α} :
    (∀ l ∈ (b.narrow e).lower, l < threshold) ↔
      (∀ l ∈ b.lower, l < threshold) ∧ ∀ value, e = .above value → value < threshold := by
  obtain ⟨lower, upper⟩ := b
  cases e with
  | above value =>
      cases lower with
      | none => simp [narrow, raise]
      | some l => simp [narrow, raise]
  | upTo value => simp [narrow, cap]

/-- The upper bound stays at a threshold or above as long as no evidence caps it below. -/
theorem le_upper_narrow {e : Evidence α} :
    (∀ u ∈ (b.narrow e).upper, threshold ≤ u) ↔
      (∀ u ∈ b.upper, threshold ≤ u) ∧ ∀ value, e = .upTo value → threshold ≤ value := by
  obtain ⟨lower, upper⟩ := b
  cases e with
  | above value => simp [narrow, raise]
  | upTo value =>
      cases upper with
      | none => simp [narrow, cap]
      | some u => simp [narrow, cap]

/-! ### Contradictory evidence -/

/-- Wherever both bounds are known they are in order. -/
def InOrder (b : ThresholdBounds α) : Prop := ∀ l ∈ b.lower, ∀ u ∈ b.upper, l ≤ u

/-- The lower bound stays at a limit or below as long as no evidence puts the threshold above a value beyond it. -/
theorem lower_narrow_le {limit : α} {e : Evidence α} :
    (∀ l ∈ (b.narrow e).lower, l ≤ limit) ↔
      (∀ l ∈ b.lower, l ≤ limit) ∧ ∀ value, e = .above value → value ≤ limit := by
  obtain ⟨lower, upper⟩ := b
  cases e with
  | above value =>
      cases lower with
      | none => simp [narrow, raise]
      | some l => simp [narrow, raise]
  | upTo value => simp [narrow, cap]

/-- The lower bound after a list of evidence. -/
theorem lower_foldl_narrow_le {limit : α} (evidence : List (Evidence α)) (b : ThresholdBounds α) :
    (∀ l ∈ (evidence.foldl narrow b).lower, l ≤ limit) ↔
      (∀ l ∈ b.lower, l ≤ limit) ∧ ∀ value, .above value ∈ evidence → value ≤ limit := by
  induction evidence generalizing b with
  | nil => simp
  | cons e rest ih =>
      rw [List.foldl_cons, ih, lower_narrow_le, and_assoc]
      simp only [List.mem_cons, or_imp, forall_and, eq_comm]

/-- The upper bound after a list of evidence. -/
theorem le_upper_foldl_narrow {limit : α} (evidence : List (Evidence α)) (b : ThresholdBounds α) :
    (∀ u ∈ (evidence.foldl narrow b).upper, limit ≤ u) ↔
      (∀ u ∈ b.upper, limit ≤ u) ∧ ∀ value, .upTo value ∈ evidence → limit ≤ value := by
  induction evidence generalizing b with
  | nil => simp
  | cons e rest ih =>
      rw [List.foldl_cons, ih, le_upper_narrow, and_assoc]
      simp only [List.mem_cons, or_imp, forall_and, eq_comm]

/-- No upper bound is known as long as no evidence caps it. -/
theorem upper_foldl_narrow_eq_none_iff (evidence : List (Evidence α)) (b : ThresholdBounds α) :
    (evidence.foldl narrow b).upper = none ↔ b.upper = none ∧ ∀ value, .upTo value ∉ evidence := by
  induction evidence generalizing b with
  | nil => simp
  | cons e rest ih =>
      rw [List.foldl_cons, ih]
      cases e with
      | above value => simp [narrow, raise]
      | upTo value =>
          refine iff_of_false (fun both => Option.some_ne_none _ both.1) fun both => ?_
          exact both.2 value List.mem_cons_self

/-- A known upper bound is the one from the start, or it comes from the evidence. -/
theorem mem_upper_foldl_narrow {u : α} (evidence : List (Evidence α)) (b : ThresholdBounds α)
    (known : u ∈ (evidence.foldl narrow b).upper) : u ∈ b.upper ∨ .upTo u ∈ evidence := by
  induction evidence generalizing b with
  | nil => exact Or.inl known
  | cons e rest ih =>
      rcases ih (b.narrow e) known with now | later
      · obtain ⟨lower, upper⟩ := b
        cases e with
        | above value => exact Or.inl now
        | upTo value =>
            cases upper with
            | none =>
                cases now
                exact Or.inr List.mem_cons_self
            | some old =>
                cases now
                rcases min_choice old value with least | least
                · exact Or.inl (congrArg some least.symm)
                · dsimp only [Option.elim_some]
                  rw [least]
                  exact Or.inr List.mem_cons_self
      · exact Or.inr (List.mem_cons_of_mem _ later)

/-- The upper bound that is learned from nothing but a list of evidence is the least cap. -/
theorem upper_foldl_narrow_eq_some_iff {u : α} (evidence : List (Evidence α)) :
    (evidence.foldl narrow {}).upper = some u ↔ IsLeast {value | .upTo value ∈ evidence} u := by
  have least : ∀ bound, (evidence.foldl narrow {}).upper = some bound →
      IsLeast {value | .upTo value ∈ evidence} bound := by
    intro bound known
    refine ⟨(mem_upper_foldl_narrow evidence {} known).resolve_left (Option.not_mem_none bound), ?_⟩
    refine ((le_upper_foldl_narrow evidence {}).mp fun other same => ?_).2
    exact (Option.some.inj (known.symm.trans same)).le
  constructor
  · exact least u
  · intro also
    cases known : (evidence.foldl narrow {}).upper with
    | none => exact absurd also.1 (((upper_foldl_narrow_eq_none_iff evidence {}).mp known).2 u)
    | some bound => exact congrArg some ((least bound known).unique also)

/-- Bounds that are learned from nothing but a list of evidence are in order exactly when no two pieces of it
    contradict each other. -/
theorem inOrder_foldl_narrow_iff (evidence : List (Evidence α)) :
    (evidence.foldl narrow {}).InOrder ↔
      ∀ x y, .above x ∈ evidence → .upTo y ∈ evidence → x ≤ y := by
  have below (limit : α) : (∀ l ∈ (evidence.foldl narrow {}).lower, l ≤ limit) ↔
      ∀ x, .above x ∈ evidence → x ≤ limit := by
    rw [lower_foldl_narrow_le]
    simp
  have beyond (limit : α) : (∀ u ∈ (evidence.foldl narrow {}).upper, limit ≤ u) ↔
      ∀ y, .upTo y ∈ evidence → limit ≤ y := by
    rw [le_upper_foldl_narrow]
    simp
  constructor
  · intro ordered x y above upTo
    have capped : ∀ l ∈ (evidence.foldl narrow {}).lower, l ≤ y := by
      intro l known
      exact (beyond l).1 (ordered l known) y upTo
    exact (below y).1 capped x above
  · intro agree l known
    apply (beyond l).2
    intro y upTo
    exact (below y).2 (fun x above => agree x y above upTo) l known

/-! ### Interpolation -/

section Interpolation

variable {K : Type*} [CommRing K] [LinearOrder K] [IsStrictOrderedRing K] {low high fraction : K}

/-- A point at some fraction of the way lies between the bounds. -/
theorem interpolate_between (ordered : low ≤ high) (nonneg : 0 ≤ fraction)
    (atMost : fraction ≤ 1) :
    low ≤ low + (high - low) * fraction ∧ low + (high - low) * fraction ≤ high := by
  have width : 0 ≤ high - low := sub_nonneg.2 ordered
  have atLeast : 0 ≤ (high - low) * fraction := mul_nonneg width nonneg
  have within : (high - low) * fraction ≤ high - low := mul_le_of_le_one_right width atMost
  constructor
  · linarith
  · linarith

/-- Short of the whole way, a point lies at the upper bound or below exactly when the bounds are in order. -/
theorem interpolate_le_iff (partly : fraction < 1) :
    low + (high - low) * fraction ≤ high ↔ low ≤ high := by
  have rest : 0 < 1 - fraction := sub_pos.2 partly
  have gap : high - (low + (high - low) * fraction) = (high - low) * (1 - fraction) := by ring
  rw [← sub_nonneg, gap, mul_nonneg_iff_of_pos_right rest, sub_nonneg]

end Interpolation

end ThresholdBounds
