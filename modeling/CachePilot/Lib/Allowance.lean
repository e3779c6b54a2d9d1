/-
Module: CachePilot.Lib.Allowance
Layer: Lib
Purpose: Spending under an allowance. A gate admits a charge only while what was spent so far and a
  predicted cost lie below a limit; the charge itself may turn out to be something else. The rules say
  what the gate is worth: whatever the last charge is, all charges before it stay below the limit by the
  prediction, and when no charge exceeds the prediction all of them stay below the limit. With a least
  charge this bounds the number of charges.
Trusted boundary: none
Main exports: Admitted, admitted_append, Admitted.snoc, Admitted.earlier_lt, Admitted.total_lt,
  Admitted.earlier_count_lt, Admitted.count_lt
-/
import Mathlib.Algebra.Order.BigOperators.Group.List

namespace Allowance

variable {K : Type*} [AddCommMonoid K] [PartialOrder K]

/-- Each charge of the list was admitted: what was spent when it was asked for, and its predicted cost,
    lay below the limit. -/
def Admitted (limit predicted : K) : K → List K → Prop
  | _, [] => True
  | spent, x :: xs =>
      spent + predicted < limit ∧ Admitted limit predicted (spent + x) xs

variable {limit predicted spent least x : K} {xs ys : List K}

theorem admitted_append :
    Admitted limit predicted spent (xs ++ ys) ↔
      Admitted limit predicted spent xs ∧ Admitted limit predicted (spent + xs.sum) ys := by
  induction xs generalizing spent with
  | nil => simp [Admitted]
  | cons x xs ih => simp only [List.cons_append, Admitted, ih, List.sum_cons, and_assoc, add_assoc]

/-- One more charge, admitted after all the others. -/
theorem Admitted.snoc (admitted : Admitted limit predicted spent xs)
    (fits : spent + xs.sum + predicted < limit) :
    Admitted limit predicted spent (xs ++ [x]) :=
  admitted_append.2 ⟨admitted, fits, trivial⟩

/-- The last charge was admitted on top of all the others. -/
theorem Admitted.earlier_lt (admitted : Admitted limit predicted spent (xs ++ [x])) :
    spent + xs.sum + predicted < limit :=
  (admitted_append.1 admitted).2.1

variable [IsOrderedAddMonoid K]

/-- Charges that never exceed the prediction stay below the limit. -/
theorem Admitted.total_lt (admitted : Admitted limit predicted spent (xs ++ [x]))
    (most : ∀ y ∈ xs ++ [x], y ≤ predicted) : spent + (xs ++ [x]).sum < limit := by
  have last : x ≤ predicted := most x (by simp)
  calc spent + (xs ++ [x]).sum
      = spent + xs.sum + x := by rw [List.sum_append, List.sum_singleton, add_assoc]
    _ ≤ spent + xs.sum + predicted := by gcongr
    _ < limit := admitted.earlier_lt

/-- Charges of at least `least`, all but the last one, fit below the limit. -/
theorem Admitted.earlier_count_lt (admitted : Admitted limit predicted spent (xs ++ [x]))
    (enough : ∀ y ∈ xs ++ [x], least ≤ y) : spent + xs.length • least + predicted < limit := by
  have earlier : xs.length • least ≤ xs.sum :=
    List.card_nsmul_le_sum xs least fun y member => enough y (List.mem_append_left _ member)
  calc spent + xs.length • least + predicted
      ≤ spent + xs.sum + predicted := by gcongr
    _ < limit := admitted.earlier_lt

/-- Charges between `least` and the prediction, all of them, fit below the limit. -/
theorem Admitted.count_lt (admitted : Admitted limit predicted spent (xs ++ [x]))
    (enough : ∀ y ∈ xs ++ [x], least ≤ y) (most : ∀ y ∈ xs ++ [x], y ≤ predicted) :
    spent + (xs ++ [x]).length • least < limit := by
  have all : (xs ++ [x]).length • least ≤ (xs ++ [x]).sum :=
    List.card_nsmul_le_sum (xs ++ [x]) least enough
  calc spent + (xs ++ [x]).length • least
      ≤ spent + (xs ++ [x]).sum := by gcongr
    _ < limit := admitted.total_lt most

end Allowance
