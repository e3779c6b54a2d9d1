/-
Module: CachePilot.Proofs.VolatileBoundary
Layer: Proofs
Purpose: Where the boundary of a system prompt lies. The split takes the first match of the first listed pattern
  that matches, so it is the start of the earliest volatile region exactly when no pattern listed later matches
  before that.
Trusted boundary: none
Main exports: EarliestBoundary, FirstListedMatchesFirst, splitSystemLayers_earliest_iff, clockBeforeDate_boundary
-/
import CachePilot.Core.VolatilePatterns

namespace CachePilot

open Regex

/-- A split of a prompt at the start of its earliest volatile region: nothing is lost, no match starts in the
    first part, and the second part is empty exactly when no pattern matches. -/
def EarliestBoundary (patterns : List Regex) (system : String) (layers : String × String) : Prop :=
  layers.1 ++ layers.2 = system ∧
    (∀ pattern ∈ patterns, ∀ i < layers.1.length, ¬StartsAt system.toList pattern i) ∧
    (layers.2 = "" ↔ ∀ pattern ∈ patterns, ∀ i, ¬StartsAt system.toList pattern i)

/-- The first listed pattern that matches at all matches first: each match of a pattern listed after it starts
    where it has matched already. -/
def FirstListedMatchesFirst (patterns : List Regex) (text : List Char) : Prop :=
  ∀ earlier first later, patterns = earlier ++ first :: later →
    (∀ pattern ∈ earlier, ∀ i, ¬StartsAt text pattern i) → (∃ i, StartsAt text first i) →
    ∀ pattern ∈ later, ∀ i, StartsAt text pattern i → ∃ j ≤ i, StartsAt text first j

section Patterns

variable {patterns : List Regex} {text : List Char}

/-- The first match of the first listed pattern that matches. -/
def firstListedMatch (patterns : List Regex) (text : List Char) : Option ℕ :=
  patterns.findSome? fun pattern => pattern.search text

/-- There is no such match exactly when no pattern matches. -/
theorem firstListedMatch_eq_none_iff :
    firstListedMatch patterns text = none ↔ ∀ pattern ∈ patterns, ∀ i, ¬StartsAt text pattern i := by
  simp only [firstListedMatch, List.findSome?_eq_none_iff, search_eq_none_iff]

/-- Where such a match stands in the list. -/
theorem firstListedMatch_eq_some_iff {start : ℕ} :
    firstListedMatch patterns text = some start ↔
      ∃ earlier first later, patterns = earlier ++ first :: later ∧ first.search text = some start ∧
        ∀ pattern ∈ earlier, ∀ i, ¬StartsAt text pattern i := by
  simp only [firstListedMatch, List.findSome?_eq_some_iff, search_eq_none_iff]

/-- The first pattern that matches at all is unique in the list. -/
theorem firstListed_unique {earlier later earlier' later' : List Regex} {first first' : Regex}
    (same : earlier ++ first :: later = earlier' ++ first' :: later')
    (nothing : ∀ pattern ∈ earlier, ∀ i, ¬StartsAt text pattern i) (found : ∃ i, StartsAt text first i)
    (nothing' : ∀ pattern ∈ earlier', ∀ i, ¬StartsAt text pattern i) (found' : ∃ i, StartsAt text first' i) :
    first = first' ∧ later = later' := by
  obtain ⟨i, starts⟩ := found
  obtain ⟨i', starts'⟩ := found'
  rcases List.append_eq_append_iff.mp same with ⟨between, rfl, tail⟩ | ⟨between, rfl, tail⟩
  · cases between with
    | nil => exact List.cons.inj tail
    | cons head rest =>
        rw [List.cons_append, List.cons.injEq] at tail
        rw [tail.1] at starts
        exact absurd starts (nothing' head (by simp) i)
  · cases between with
    | nil => exact ⟨(List.cons.inj tail).1.symm, (List.cons.inj tail).2.symm⟩
    | cons head rest =>
        rw [List.cons_append, List.cons.injEq] at tail
        rw [tail.1] at starts'
        exact absurd starts' (nothing head (by simp) i')

/-- Nothing matches before the first match of the first listed pattern exactly when that pattern matches first. -/
theorem nothing_before_iff {start : ℕ} (found : firstListedMatch patterns text = some start) :
    (∀ pattern ∈ patterns, ∀ i < start, ¬StartsAt text pattern i) ↔ FirstListedMatchesFirst patterns text := by
  obtain ⟨earlier, first, later, split, searched, nothing⟩ := firstListedMatch_eq_some_iff.mp found
  obtain ⟨starts, least⟩ := search_eq_some_iff.mp searched
  constructor
  · intro clear earlier' first' later' split' nothing' found' pattern listed i starts'
    obtain ⟨rfl, rfl⟩ := firstListed_unique (split.symm.trans split') nothing ⟨start, starts⟩ nothing' found'
    refine ⟨start, ?_, starts⟩
    by_contra earlierMatch
    exact clear pattern (by rw [split]; simp [listed]) i (Nat.lt_of_not_le earlierMatch) starts'
  · intro matchesFirst pattern listed i before starts'
    rw [split, List.mem_append, List.mem_cons] at listed
    rcases listed with listed | rfl | listed
    · exact nothing pattern listed i starts'
    · exact least i before starts'
    · obtain ⟨j, notLater, startsFirst⟩ :=
        matchesFirst earlier first later split nothing ⟨start, starts⟩ pattern listed i starts'
      exact least j (Nat.lt_of_le_of_lt notLater before) startsFirst

end Patterns

/-! ### The split -/

variable (classes : CharClasses) (prefixVolatile : List (String → Bool))

/-- The split is at the first match of the first listed pattern that matches. -/
theorem splitSystemLayers_churnPatterns (system : String) :
    splitSystemLayers (churnPatterns classes prefixVolatile) system =
      if system = "" then ("", "")
      else
        match firstListedMatch (volatilePatterns classes) system.toList with
        | some start => (String.ofList (system.toList.take start), String.ofList (system.toList.drop start))
        | none => (system, "") := by
  unfold splitSystemLayers firstListedMatch
  rw [churnPatterns, List.findSome?_map]
  rfl

/-- No volatile pattern matches in an empty text. -/
theorem volatilePatterns_empty {pattern : Regex} (listed : pattern ∈ volatilePatterns classes) (i : ℕ) :
    ¬StartsAt [] pattern i :=
  fun starts => absurd (starts.lt_length (volatilePatterns_wide listed)) (Nat.not_lt_zero i)

/-- The boundary is the earliest volatile region exactly when the first listed pattern that matches at all
    matches first. -/
theorem splitSystemLayers_earliest_iff (system : String) :
    EarliestBoundary (volatilePatterns classes) system
        (splitSystemLayers (churnPatterns classes prefixVolatile) system) ↔
      FirstListedMatchesFirst (volatilePatterns classes) system.toList := by
  have whole := splitSystemLayers_append (churnPatterns classes prefixVolatile) system
  rw [EarliestBoundary, and_iff_right whole, splitSystemLayers_churnPatterns]
  by_cases blank : system = ""
  · subst blank
    have nothing : ∀ pattern ∈ volatilePatterns classes, ∀ i, ¬StartsAt "".toList pattern i :=
      fun pattern listed i => volatilePatterns_empty classes listed i
    rw [if_pos rfl]
    constructor
    · intro _ earlier first later split _ found
      obtain ⟨i, starts⟩ := found
      exact absurd starts (nothing first (by rw [split]; simp) i)
    · intro _
      exact ⟨fun pattern listed i _ => nothing pattern listed i, fun _ => nothing, fun _ => rfl⟩
  · rw [if_neg blank]
    cases found : firstListedMatch (volatilePatterns classes) system.toList with
    | none =>
        have nothing := firstListedMatch_eq_none_iff.mp found
        constructor
        · intro _ earlier first later split _ found'
          obtain ⟨i, starts⟩ := found'
          exact absurd starts (nothing first (by rw [split]; simp) i)
        · intro _
          exact ⟨fun pattern listed i _ => nothing pattern listed i, fun _ => nothing, fun _ => rfl⟩
    | some start =>
        obtain ⟨earlier, first, later, split, searched, _⟩ := firstListedMatch_eq_some_iff.mp found
        have starts := (search_eq_some_iff.mp searched).1
        have listed : first ∈ volatilePatterns classes := by rw [split]; simp
        have inside := starts.lt_length (volatilePatterns_wide listed)
        have width : (String.ofList (system.toList.take start)).length = start := by
          rw [String.length_ofList, List.length_take, Nat.min_eq_left (Nat.le_of_lt inside)]
        have dynamic : String.ofList (system.toList.drop start) ≠ "" := by
          intro empty
          rw [← String.toList_inj, String.toList_ofList, String.toList_empty, List.drop_eq_nil_iff] at empty
          omega
        simp only [width, dynamic, false_iff]
        rw [nothing_before_iff found]
        refine and_iff_left ?_
        intro nothing
        exact nothing first listed start starts

/-- A prompt with a clock time before a date. -/
def clockBeforeDate : String := "Now 3:14 on 2026-08-13."

/-- Its boundary is the date, and the clock time stays in the static prefix. -/
theorem clockBeforeDate_boundary :
    ¬EarliestBoundary (volatilePatterns asciiClasses) clockBeforeDate
      (splitSystemLayers (churnPatterns asciiClasses []) clockBeforeDate) := by
  rintro ⟨-, clear, -⟩
  have split : (splitSystemLayers (churnPatterns asciiClasses []) clockBeforeDate).1.length = 12 := by
    decide +kernel
  rw [split] at clear
  have clock : (VolatilePattern.clockTime asciiClasses).search clockBeforeDate.toList = some 4 := by
    decide +kernel
  exact clear _ (by simp [volatilePatterns]) 4 (by omega) (search_eq_some_iff.mp clock).1

end CachePilot
