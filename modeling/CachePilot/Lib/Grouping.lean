/-
Module: CachePilot.Lib.Grouping
Layer: Lib
Purpose: Grouping items by a key, and adding up over them. The groups are the items of each key in their order, the
  group of a key that first occurs earlier before the others. A measure that every step of a fold moves by what its
  item is worth ends at the sum of what all items are worth.
Trusted boundary: none
Main exports: Grouping.groupOf, Grouping.groupBy, Grouping.groupBy_get?, Grouping.sum_groupBy, Grouping.consecutive,
  Grouping.foldl_measure, Grouping.sum_indicator
-/
import Mathlib.Algebra.BigOperators.Group.Finset.Basic
import Mathlib.Algebra.GroupWithZero.Nat
import CachePilot.Lib.Dict

namespace Grouping

/-! ### Groups -/

section Groups

variable {K A : Type*} [DecidableEq K] (key : A → K)

/-- The items with this key, in their order. -/
def groupOf (items : List A) (k : K) : List A := items.filter fun item => key item = k

/-- Add an item to the group of its key. -/
def addTo (groups : Dict K (List A)) (item : A) : Dict K (List A) :=
  groups.set (key item) ((groups.get? (key item)).getD [] ++ [item])

/-- The groups of some items. -/
def groupBy (items : List A) : Dict K (List A) := items.foldl (addTo key) ∅

/-- The group of a key, if there is an item with it. -/
theorem groupBy_get? (items : List A) (k : K) :
    (groupBy key items).get? k = if groupOf key items k = [] then none else some (groupOf key items k) := by
  induction items using List.reverseRecOn with
  | nil => rfl
  | append_singleton items item ih =>
      have last : groupBy key (items ++ [item]) = addTo key (groupBy key items) item := by
        rw [groupBy, List.foldl_append, List.foldl_cons, List.foldl_nil, groupBy]
      have group : groupOf key (items ++ [item]) k =
          groupOf key items k ++ if key item = k then [item] else [] := by
        rw [groupOf, List.filter_append, List.filter_singleton, groupOf]
        simp only [Bool.cond_decide]
      rw [last, addTo, Dict.get?_set, group]
      by_cases same : k = key item
      · subst same
        rw [if_pos rfl, if_pos rfl, ih, if_neg (List.append_ne_nil_of_right_ne_nil _ (List.cons_ne_nil _ _))]
        split
        · rename_i empty
          rw [empty, Option.getD_none]
        · rw [Option.getD_some]
      · rw [if_neg same, if_neg (Ne.symm same), List.append_nil, ih]

theorem groupOf_eq_nil_iff {items : List A} {k : K} : groupOf key items k = [] ↔ k ∉ items.map key := by
  rw [groupOf, List.filter_eq_nil_iff, List.mem_map]
  simp only [decide_eq_true_eq, not_exists, not_and]

theorem mem_keys_groupBy {items : List A} {k : K} : k ∈ (groupBy key items).keys ↔ k ∈ items.map key := by
  rw [Dict.mem_keys_iff, groupBy_get?]
  split
  · rename_i empty
    exact iff_of_false (fun found => nomatch found) ((groupOf_eq_nil_iff key).mp empty)
  · rename_i filled
    exact iff_of_true ⟨_, rfl⟩ (not_not.mp fun absent => filled ((groupOf_eq_nil_iff key).mpr absent))

/-- The values of the groups are the groups of the keys. -/
theorem values_groupBy (items : List A) :
    (groupBy key items).values = (groupBy key items).keys.map (groupOf key items) := by
  rw [Dict.values, Dict.keys, List.map_map]
  refine List.map_congr_left fun entry listed => ?_
  have found := Dict.get?_eq_some_iff.mpr listed
  rw [groupBy_get?] at found
  split at found
  · cases found
  · exact (Option.some.inj found).symm

/-- A sum over the groups is a sum over the keys that occur. -/
theorem sum_groupBy {M : Type*} [AddCommMonoid M] (f : List A → M) (items : List A) :
    ((groupBy key items).values.map f).sum = ∑ k ∈ (items.map key).toFinset, f (groupOf key items k) := by
  have distinct : (groupBy key items).keys.Nodup := (groupBy key items).nodup
  have keys : (groupBy key items).keys.toFinset = (items.map key).toFinset := by
    ext k
    rw [List.mem_toFinset, List.mem_toFinset, mem_keys_groupBy]
  rw [values_groupBy, List.map_map, ← keys, List.sum_toFinset _ distinct]
  rfl

end Groups

/-! ### Folds -/

/-- The pairs of neighbours of a list. -/
def consecutive {A : Type*} (items : List A) : List (A × A) := items.zip items.tail

theorem length_consecutive {A : Type*} (items : List A) : (consecutive items).length = items.length - 1 := by
  rw [consecutive, List.length_zip, List.length_tail]
  omega

/-- What each step adds to a measure, the whole fold adds. -/
theorem foldl_measure {S A M : Type*} [AddCommMonoid M] {step : S → A → S} (m : S → M) (worth : A → M)
    (adds : ∀ s item, m (step s item) = m s + worth item) (s : S) (items : List A) :
    m (items.foldl step s) = m s + (items.map worth).sum := by
  induction items generalizing s with
  | nil => rw [List.foldl_nil, List.map_nil, List.sum_nil, add_zero]
  | cons item rest ih => rw [List.foldl_cons, ih, adds, List.map_cons, List.sum_cons, add_assoc]

/-- Items that are worth one when they have a property are worth as much as there are of them. -/
theorem sum_indicator {A : Type*} (p : A → Bool) (items : List A) :
    (items.map fun item => (p item).toNat).sum = items.countP p := by
  induction items with
  | nil => rfl
  | cons item rest ih =>
      rw [List.map_cons, List.sum_cons, ih, List.countP_cons, add_comm]
      cases p item <;> rfl

end Grouping
