/-
Module: CachePilot.Lib.Breaker
Layer: Lib
Purpose: A circuit breaker that counts failures in a row. A failure adds to the count and opens the breaker
  at the threshold, a success forgets the count, and only a reset closes the breaker. When calls report
  only while the breaker is closed, it is open exactly when the count has reached the threshold; and in
  any case a streak of failures as long as the threshold keeps it open until the next reset.
Trusted boundary: none
Main exports: Breaker, Breaker.Signal, Breaker.observe, Breaker.consistent_observe,
  Breaker.isOpen_of_streak
-/
import Mathlib.Tactic.Common

/-- The failures in a row, and whether calls are refused. -/
structure Breaker where
  failures : ℕ := 0
  isOpen : Bool := false

namespace Breaker

/-- What a guarded call reports, or a reset from outside. -/
inductive Signal where
  | failure
  | success
  | reset
deriving DecidableEq

/-- A breaker that opens at the given number of failures observes one signal. -/
def observe (threshold : ℕ) (b : Breaker) : Signal → Breaker
  | .failure =>
      { failures := b.failures + 1
        isOpen := if threshold ≤ b.failures + 1 then true else b.isOpen }
  | .success => { b with failures := 0 }
  | .reset => {}

/-- The breaker is open exactly when the count has reached the threshold. -/
def Consistent (threshold : ℕ) (b : Breaker) : Prop := b.isOpen = true ↔ threshold ≤ b.failures

variable {threshold : ℕ} {b : Breaker}

theorem consistent_closed (positive : 0 < threshold) : Consistent threshold {} := by
  constructor
  · intro opened
    cases opened
  · intro reached
    exact absurd positive (Nat.not_lt.2 reached)

/-- A call that reports to a closed breaker leaves it consistent, and so does a reset. -/
theorem consistent_observe {signal : Signal} (positive : 0 < threshold)
    (guarded : signal ≠ .reset → b.isOpen = false) :
    Consistent threshold (b.observe threshold signal) := by
  cases signal with
  | failure =>
      have closed := guarded (by decide)
      unfold Consistent observe
      simp [closed]
  | success =>
      have closed := guarded (by decide)
      unfold Consistent observe
      simp [closed, Nat.ne_of_gt positive]
  | reset => exact consistent_closed positive

/-- In a streak of failures every signal counts. -/
theorem failures_of_streak {signals : List Signal} (streak : ∀ s ∈ signals, s = .failure) :
    (signals.foldl (observe threshold) b).failures = b.failures + signals.length := by
  induction signals generalizing b with
  | nil => rfl
  | cons s signals ih =>
      have failed : s = .failure := streak s List.mem_cons_self
      subst failed
      rw [List.foldl_cons, ih fun s member => streak s (List.mem_cons_of_mem _ member)]
      simp only [observe, List.length_cons]
      omega

/-- An open breaker stays open until a reset. -/
theorem isOpen_foldl {signals : List Signal} (opened : b.isOpen = true)
    (unreset : .reset ∉ signals) : (signals.foldl (observe threshold) b).isOpen = true := by
  induction signals generalizing b with
  | nil => exact opened
  | cons s signals ih =>
      apply ih
      · cases s with
        | failure => simp [observe, opened]
        | success => exact opened
        | reset => exact absurd List.mem_cons_self unreset
      · intro member
        exact unreset (List.mem_cons_of_mem _ member)

/-- A streak of failures of the threshold's length opens the breaker, and it stays open until a reset. -/
theorem isOpen_of_streak {streak later : List Signal} (failed : ∀ s ∈ streak, s = .failure)
    (long : threshold ≤ streak.length) (positive : 0 < threshold) (unreset : .reset ∉ later) :
    ((streak ++ later).foldl (observe threshold) b).isOpen = true := by
  rw [List.foldl_append]
  apply isOpen_foldl _ unreset
  rcases List.eq_nil_or_concat streak with rfl | ⟨first, last, rfl⟩
  · exact absurd positive (Nat.not_lt.2 long)
  · rw [List.concat_eq_append] at failed long ⊢
    have final : last = .failure := failed last (by simp)
    have counted : (first.foldl (observe threshold) b).failures = b.failures + first.length :=
      failures_of_streak fun s member => failed s (List.mem_append_left _ member)
    subst final
    rw [List.foldl_append, List.foldl_cons, List.foldl_nil]
    apply if_pos
    rw [counted]
    rw [List.length_append, List.length_singleton] at long
    omega

end Breaker
