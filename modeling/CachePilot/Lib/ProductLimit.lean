/-
Module: CachePilot.Lib.ProductLimit
Layer: Lib
Purpose: The product-limit estimate of a survival function. An observation is an age and whether it is an event
  there or only the last age it was seen at. At an age the events among the observations at risk there take their
  share of what survived so far, and the estimate is the product over the event ages passed. It lies between zero
  and one, never rises, depends on the multiset of observations alone, and can be computed from the youngest age
  on, removing each group of equal ages from the risk set.
Trusted boundary: none
Main exports: eventsAt, atRiskAt, eventAges, factor, survival, survival_mem_Icc, survival_antitone, survival_perm,
  survival_group_append
-/
import Mathlib.Algebra.BigOperators.Group.Finset.Basic
import Mathlib.Algebra.Order.BigOperators.Ring.Finset
import Mathlib.Algebra.Order.Field.Basic
import Mathlib.Data.List.Count
import Mathlib.Data.Rat.Cast.Order

namespace ProductLimit

open Finset

variable {A : Type*} [LinearOrder A]

/-- The events at an age. -/
def eventsAt (obs : List (A × Bool)) (a : A) : ℕ := obs.countP fun o => o.1 = a ∧ o.2 = true

/-- The observations that have not left before an age. -/
def atRiskAt (obs : List (A × Bool)) (a : A) : ℕ := obs.countP fun o => a ≤ o.1

/-- The ages at which there are events. -/
def eventAges (obs : List (A × Bool)) : Finset A := ((obs.filter fun o => o.2).map Prod.fst).toFinset

section Counts

variable {obs obs' : List (A × Bool)} {a : A}

theorem mem_eventAges_iff : a ∈ eventAges obs ↔ (a, true) ∈ obs := by
  simp [eventAges]

theorem eventsAt_pos_iff : 0 < eventsAt obs a ↔ a ∈ eventAges obs := by
  rw [mem_eventAges_iff, eventsAt, List.countP_pos_iff]
  constructor
  · rintro ⟨⟨b, event⟩, listed, here⟩
    obtain ⟨rfl, rfl⟩ := of_decide_eq_true here
    exact listed
  · intro listed
    exact ⟨_, listed, decide_eq_true ⟨rfl, rfl⟩⟩

/-- Every event at an age is at risk there. -/
theorem eventsAt_le_atRiskAt (obs : List (A × Bool)) (a : A) : eventsAt obs a ≤ atRiskAt obs a := by
  apply List.countP_mono_left
  intro o _ here
  exact decide_eq_true (of_decide_eq_true here).1.ge

theorem eventsAt_perm (same : obs.Perm obs') : eventsAt obs a = eventsAt obs' a := same.countP_eq _

theorem atRiskAt_perm (same : obs.Perm obs') : atRiskAt obs a = atRiskAt obs' a := same.countP_eq _

theorem eventAges_perm (same : obs.Perm obs') : eventAges obs = eventAges obs' := by
  ext a
  rw [mem_eventAges_iff, mem_eventAges_iff, same.mem_iff]

end Counts

variable (K : Type*) [Field K] (obs : List (A × Bool))

/-- What the events at an age leave of those at risk there. -/
def factor (a : A) : K := 1 - (eventsAt obs a : K) / atRiskAt obs a

/-- The product-limit estimate at an age. -/
def survival (a : A) : K := ∏ d ∈ eventAges obs with d ≤ a, factor K obs d

theorem survival_perm {obs obs' : List (A × Bool)} (same : obs.Perm obs') : survival K obs = survival K obs' := by
  funext a
  simp only [survival, factor, eventAges_perm same, eventsAt_perm same, atRiskAt_perm same]

/-- Before the first event everything survives. -/
theorem survival_of_forall_lt {obs : List (A × Bool)} {a : A} (early : ∀ d ∈ eventAges obs, a < d) :
    survival K obs a = 1 := by
  unfold survival
  rw [filter_false_of_mem fun d event => (early d event).not_ge, prod_empty]

/-- Between event ages the estimate does not move. -/
theorem survival_eq_of_passed {obs : List (A × Bool)} {a b : A} (le : a ≤ b)
    (passed : ∀ d ∈ eventAges obs, d ≤ b → d ≤ a) : survival K obs b = survival K obs a := by
  unfold survival
  congr 1
  ext d
  rw [mem_filter, mem_filter]
  constructor
  · rintro ⟨event, reached⟩
    exact ⟨event, passed d event reached⟩
  · rintro ⟨event, reached⟩
    exact ⟨event, reached.trans le⟩

section Order

variable {K} [LinearOrder K] [IsStrictOrderedRing K] {obs}

theorem factor_nonneg (a : A) : 0 ≤ factor K obs a := by
  apply sub_nonneg.2
  apply div_le_one_of_le₀ _ (Nat.cast_nonneg _)
  exact Nat.cast_le.2 (eventsAt_le_atRiskAt obs a)

theorem factor_le_one (a : A) : factor K obs a ≤ 1 :=
  sub_le_self 1 (div_nonneg (Nat.cast_nonneg _) (Nat.cast_nonneg _))

theorem survival_mem_Icc (a : A) : 0 ≤ survival K obs a ∧ survival K obs a ≤ 1 :=
  ⟨prod_nonneg fun d _ => factor_nonneg d, prod_le_one (fun d _ => factor_nonneg d) fun d _ => factor_le_one d⟩

/-- The estimate never rises: a later age has passed more events. -/
theorem survival_antitone : Antitone (survival K obs) := by
  intro a b le
  have passed : {d ∈ eventAges obs | d ≤ a} ⊆ {d ∈ eventAges obs | d ≤ b} :=
    monotone_filter_right _ fun d _ early => early.trans le
  unfold survival
  rw [← prod_sdiff passed]
  apply mul_le_of_le_one_left
  · exact prod_nonneg fun d _ => factor_nonneg d
  · exact prod_le_one (fun d _ => factor_nonneg d) fun d _ => factor_le_one d

end Order

/-! ### A group of equal ages, and older observations -/

section Group

variable {K} {group later : List (A × Bool)} {a d : A} (young : ∀ o ∈ group, o.1 = a)
  (old : ∀ o ∈ later, a < o.1)

include young

theorem eventsAt_group_append (after : a < d) : eventsAt (group ++ later) d = eventsAt later d := by
  unfold eventsAt
  rw [List.countP_append, List.countP_eq_zero.2, zero_add]
  intro o member here
  exact after.ne ((young o member).symm.trans (of_decide_eq_true here).1)

theorem atRiskAt_group_append (after : a < d) : atRiskAt (group ++ later) d = atRiskAt later d := by
  unfold atRiskAt
  rw [List.countP_append, List.countP_eq_zero.2, zero_add]
  intro o member here
  have reached : d ≤ o.1 := of_decide_eq_true here
  rw [young o member] at reached
  exact absurd after reached.not_gt

theorem factor_group_append (after : a < d) : factor K (group ++ later) d = factor K later d := by
  unfold factor
  rw [eventsAt_group_append young after, atRiskAt_group_append young after]

include old

theorem eventsAt_group : eventsAt (group ++ later) a = group.countP fun o => o.2 := by
  unfold eventsAt
  have none : later.countP (fun o => decide (o.1 = a ∧ o.2 = true)) = 0 := by
    rw [List.countP_eq_zero]
    intro o member here
    exact (old o member).ne' (of_decide_eq_true here).1
  rw [List.countP_append, none, add_zero]
  apply List.countP_congr
  intro o member
  simp [young o member]

theorem atRiskAt_group : atRiskAt (group ++ later) a = (group ++ later).length := by
  unfold atRiskAt
  rw [List.countP_eq_length]
  intro o member
  rw [decide_eq_true_eq]
  rcases List.mem_append.1 member with here | there
  · exact (young o here).ge
  · exact (old o there).le

theorem mem_eventAges_group_append :
    d ∈ eventAges (group ++ later) ↔ d = a ∧ 0 < eventsAt (group ++ later) a ∨ d ∈ eventAges later := by
  rw [eventsAt_pos_iff, mem_eventAges_iff, mem_eventAges_iff, mem_eventAges_iff, List.mem_append, List.mem_append]
  constructor
  · rintro (here | there)
    · have same : d = a := young _ here
      subst same
      exact Or.inl ⟨rfl, Or.inl here⟩
    · exact Or.inr there
  · rintro (⟨rfl, here | there⟩ | there)
    · exact Or.inl here
    · exact absurd rfl (old _ there).ne
    · exact Or.inr there

/-- From the age of the group on, the group's factor and the estimate of the older observations. -/
theorem survival_group_append (reached : a ≤ d) :
    survival K (group ++ later) d = factor K (group ++ later) a * survival K later d := by
  have beyond : ∀ e ∈ eventAges later, a < e := fun e event => old _ (mem_eventAges_iff.1 event)
  have factors : ∏ e ∈ eventAges later with e ≤ d, factor K (group ++ later) e = survival K later d :=
    prod_congr rfl fun e event => factor_group_append young (beyond e (mem_filter.1 event).1)
  by_cases events : 0 < eventsAt (group ++ later) a
  · have ages : {e ∈ eventAges (group ++ later) | e ≤ d} = insert a {e ∈ eventAges later | e ≤ d} := by
      ext e
      simp only [mem_filter, mem_insert, mem_eventAges_group_append young old, events, and_true, or_and_right]
      exact or_congr_left (and_iff_left_of_imp fun same => same.trans_le reached)
    have fresh : a ∉ ({e ∈ eventAges later | e ≤ d} : Finset A) :=
      fun member => (beyond a (mem_filter.1 member).1).false
    rw [survival, ages, prod_insert fresh, factors]
  · have ages : eventAges (group ++ later) = eventAges later := by
      ext e
      simp [mem_eventAges_group_append young old, events]
    have whole : factor K (group ++ later) a = 1 := by
      simp [factor, Nat.eq_zero_of_not_pos events]
    rw [survival, ages, factors, whole, one_mul]

end Group

end ProductLimit
