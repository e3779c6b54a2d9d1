/-
Module: CachePilot.Lib.Regex
Layer: Lib
Purpose: Regular expressions with character classes and word boundaries. What an expression matches is a relation
  between two positions of a text; the ends of the matches from one position can be computed, and so can the first
  position at which a match starts.
Trusted boundary: none
Main exports: Regex, Regex.Matches, Regex.ends, Regex.mem_ends_iff, Regex.StartsAt, Regex.search,
  Regex.search_eq_some_iff, Regex.search_eq_none_iff, Regex.minWidth, Regex.Matches.width
-/
import Mathlib.Data.List.Basic
import Mathlib.Logic.Relation

namespace CachePilot

/-- Regular expressions; a class is a test of characters, and a boundary stands between a word character and
    something else. -/
inductive Regex where
  | empty
  | one (test : Char → Bool)
  | boundary (isWord : Char → Bool)
  | seq (first second : Regex)
  | alt (left right : Regex)
  | star (body : Regex)

namespace Regex

/-! ### Derived forms -/

/-- One given character. -/
def char (c : Char) : Regex := .one (· == c)

/-- One expression after the other. -/
def all (parts : List Regex) : Regex := parts.foldr .seq .empty

/-- One of several expressions; nothing if there are none. -/
def oneOf (choices : List Regex) : Regex := choices.foldr .alt (.one fun _ => false)

/-- A given text. -/
def word (text : List Char) : Regex := all (text.map char)

/-- An expression or nothing. -/
def optional (r : Regex) : Regex := .alt r .empty

/-- An expression so many times. -/
def times (n : ℕ) (r : Regex) : Regex := all (List.replicate n r)

/-- An expression once or twice. -/
def onceOrTwice (r : Regex) : Regex := .seq r (optional r)

/-- An expression once or more. -/
def plus (r : Regex) : Regex := .seq r (.star r)

/-! ### Matches -/

variable (text : List Char)

/-- A word character stands at a position. -/
def wordAt (isWord : Char → Bool) (i : ℕ) : Bool := text[i]?.any isWord

/-- A word character stands before a position. -/
def wordBefore (isWord : Char → Bool) : ℕ → Bool
  | 0 => false
  | i + 1 => wordAt text isWord i

/-- What an expression matches: a text from one position up to another. -/
def Matches : Regex → ℕ → ℕ → Prop
  | .empty, i, j => i = j
  | .one test, i, j => text[i]?.any test = true ∧ j = i + 1
  | .boundary isWord, i, j => wordBefore text isWord i ≠ wordAt text isWord i ∧ i = j
  | .seq first second, i, j => ∃ k, Matches first i k ∧ Matches second k j
  | .alt left right, i, j => Matches left i j ∨ Matches right i j
  | .star body, i, j => Relation.ReflTransGen (Matches body) i j

/-- The positions a step reaches when it is repeated; a step that stays where it is adds none. -/
def iterateEnds (step : ℕ → List ℕ) : ℕ → ℕ → List ℕ
  | 0, i => [i]
  | fuel + 1, i => i :: (step i).flatMap fun j => if i < j then iterateEnds step fuel j else []

/-- The ends of the matches that start at a position. -/
def ends : Regex → ℕ → List ℕ
  | .empty, i => [i]
  | .one test, i => if text[i]?.any test then [i + 1] else []
  | .boundary isWord, i => if wordBefore text isWord i != wordAt text isWord i then [i] else []
  | .seq first second, i => (ends first i).flatMap (ends second)
  | .alt left right, i => ends left i ++ ends right i
  | .star body, i => iterateEnds (ends body) (text.length - i) i

variable {text}

/-- A character that passes a test stands inside the text. -/
theorem lt_length_of_any {test : Char → Bool} {i : ℕ} (passes : text[i]?.any test = true) : i < text.length := by
  by_contra outside
  rw [List.getElem?_eq_none (by omega)] at passes
  cases passes

/-- A match does not run backwards. -/
theorem Matches.le {r : Regex} : ∀ {i j : ℕ}, Matches text r i j → i ≤ j := by
  induction r with
  | empty => exact fun matched => Nat.le_of_eq matched
  | one test => exact fun matched => by rw [matched.2]; exact Nat.le_succ _
  | boundary isWord => exact fun matched => Nat.le_of_eq matched.2
  | seq first second ihFirst ihSecond =>
      rintro i j ⟨k, matchedFirst, matchedSecond⟩
      exact Nat.le_trans (ihFirst matchedFirst) (ihSecond matchedSecond)
  | alt left right ihLeft ihRight =>
      rintro i j (matched | matched)
      · exact ihLeft matched
      · exact ihRight matched
  | star body ih =>
      intro i j matched
      induction matched with
      | refl => exact Nat.le_refl _
      | tail _ last le => exact Nat.le_trans le (ih last)

/-- A match that moves ends inside the text. -/
theorem Matches.le_length {r : Regex} : ∀ {i j : ℕ}, Matches text r i j → i < j → j ≤ text.length := by
  induction r with
  | empty => exact fun matched moves => absurd matched (Nat.ne_of_lt moves)
  | one test => exact fun matched _ => by rw [matched.2]; exact lt_length_of_any matched.1
  | boundary isWord => exact fun matched moves => absurd matched.2 (Nat.ne_of_lt moves)
  | seq first second ihFirst ihSecond =>
      rintro i j ⟨k, matchedFirst, matchedSecond⟩ moves
      rcases Nat.lt_or_ge k j with later | done
      · exact ihSecond matchedSecond later
      · have ended : k = j := Nat.le_antisymm matchedSecond.le done
        subst ended
        exact ihFirst matchedFirst moves
  | alt left right ihLeft ihRight =>
      rintro i j (matched | matched) moves
      · exact ihLeft matched moves
      · exact ihRight matched moves
  | star body ih =>
      intro i j matched
      induction matched with
      | refl => exact fun moves => absurd moves (Nat.lt_irrefl _)
      | @tail k j _ last inside =>
          intro moves
          rcases Nat.lt_or_ge k j with later | done
          · exact ih last later
          · have ended : k = j := Nat.le_antisymm last.le done
            subst ended
            exact inside moves

/-! ### The ends are the matches -/

section Iterate

variable {step : ℕ → List ℕ} {reach : ℕ → ℕ → Prop} (agree : ∀ i j, j ∈ step i ↔ reach i j)

include agree in
/-- What is computed by repeating a step is reached by repeating it. -/
theorem reflTransGen_of_mem_iterateEnds {fuel : ℕ} :
    ∀ {i j : ℕ}, j ∈ iterateEnds step fuel i → Relation.ReflTransGen reach i j := by
  induction fuel with
  | zero =>
      intro i j member
      rw [List.mem_singleton.mp member]
  | succ fuel ih =>
      intro i j member
      rcases List.mem_cons.mp member with here | further
      · rw [here]
      · obtain ⟨k, stepped, rest⟩ := List.mem_flatMap.mp further
        split at rest
        · exact (ih rest).head ((agree i k).mp stepped)
        · cases rest

/-- A repeated step may stop at once. -/
theorem self_mem_iterateEnds (step : ℕ → List ℕ) (fuel i : ℕ) : i ∈ iterateEnds step fuel i := by
  cases fuel with
  | zero => exact List.mem_singleton_self i
  | succ fuel => exact List.mem_cons_self

include agree in
/-- What is reached by repeating a step is computed, if the fuel covers the way to the end of the text. -/
theorem mem_iterateEnds_of_reflTransGen {limit : ℕ} (forward : ∀ i j, reach i j → i ≤ j)
    (bounded : ∀ i j, reach i j → i < j → j ≤ limit) {i j : ℕ} (reached : Relation.ReflTransGen reach i j) :
    ∀ {fuel : ℕ}, limit - i ≤ fuel → j ∈ iterateEnds step fuel i := by
  induction reached using Relation.ReflTransGen.head_induction_on with
  | refl => exact fun _ => self_mem_iterateEnds step _ j
  | @head i k first _ ih =>
      intro fuel enough
      rcases Nat.lt_or_ge i k with moves | stays
      · have inside := bounded i k first moves
        cases fuel with
        | zero => omega
        | succ fuel =>
            refine List.mem_cons_of_mem _ (List.mem_flatMap.mpr ⟨k, (agree i k).mpr first, ?_⟩)
            rw [if_pos moves]
            exact ih (by omega)
      · have same : i = k := Nat.le_antisymm (forward i k first) stays
        subst same
        exact ih enough

end Iterate

/-- The computed ends are the ends of the matches. -/
theorem mem_ends_iff {r : Regex} : ∀ {i j : ℕ}, j ∈ ends text r i ↔ Matches text r i j := by
  induction r with
  | empty =>
      intro i j
      rw [ends, List.mem_singleton, Matches, eq_comm]
  | one test =>
      intro i j
      rw [ends, Matches]
      split
      · rename_i passes
        rw [List.mem_singleton, and_iff_right passes]
      · rename_i fails
        exact ⟨nofun, fun matched => absurd matched.1 fails⟩
  | boundary isWord =>
      intro i j
      rw [ends, Matches]
      split
      · rename_i stands
        rw [List.mem_singleton, and_iff_right (bne_iff_ne.mp stands), eq_comm]
      · rename_i missing
        exact ⟨nofun, fun matched => absurd (bne_iff_ne.mpr matched.1) missing⟩
  | seq first second ihFirst ihSecond =>
      intro i j
      simp only [ends, Matches, List.mem_flatMap, ihFirst, ihSecond]
  | alt left right ihLeft ihRight =>
      intro i j
      simp only [ends, Matches, List.mem_append, ihLeft, ihRight]
  | star body ih =>
      intro i j
      rw [ends, Matches]
      constructor
      · exact reflTransGen_of_mem_iterateEnds fun _ _ => ih
      · intro reached
        exact mem_iterateEnds_of_reflTransGen (fun _ _ => ih) (fun _ _ matched => matched.le)
          (fun _ _ matched => matched.le_length) reached (Nat.le_refl _)

/-! ### Width -/

/-- A lower bound of the width of a match. -/
def minWidth : Regex → ℕ
  | .empty => 0
  | .one _ => 1
  | .boundary _ => 0
  | .seq first second => minWidth first + minWidth second
  | .alt left right => min (minWidth left) (minWidth right)
  | .star _ => 0

/-- A match is as wide as its expression demands. -/
theorem Matches.width {r : Regex} : ∀ {i j : ℕ}, Matches text r i j → i + r.minWidth ≤ j := by
  induction r with
  | empty => exact fun matched => Nat.le_of_eq matched
  | one test => exact fun matched => Nat.le_of_eq matched.2.symm
  | boundary isWord => exact fun matched => Nat.le_of_eq matched.2
  | seq first second ihFirst ihSecond =>
      rintro i j ⟨k, matchedFirst, matchedSecond⟩
      have early := ihFirst matchedFirst
      have late := ihSecond matchedSecond
      rw [minWidth]
      omega
  | alt left right ihLeft ihRight =>
      rintro i j (matched | matched)
      · exact Nat.le_trans (Nat.add_le_add_left (Nat.min_le_left _ _) i) (ihLeft matched)
      · exact Nat.le_trans (Nat.add_le_add_left (Nat.min_le_right _ _) i) (ihRight matched)
  | star body _ => exact fun matched => Matches.le (r := .star body) matched

/-! ### Search -/

variable (text) in
/-- A match of an expression starts at a position of the text. -/
def StartsAt (r : Regex) (i : ℕ) : Prop := i ≤ text.length ∧ ∃ j, Matches text r i j

variable (text) in
/-- The first position at which a match starts. -/
def search (r : Regex) : Option ℕ :=
  (List.range (text.length + 1)).find? fun i => !(ends text r i).isEmpty

/-- The test of the search is whether there is a match. -/
theorem ends_nonempty_iff {r : Regex} {i : ℕ} : (!(ends text r i).isEmpty) = true ↔ ∃ j, Matches text r i j := by
  rw [Bool.not_eq_true', Bool.eq_false_iff, Ne, List.isEmpty_iff]
  constructor
  · intro some
    obtain ⟨j, found⟩ := List.exists_mem_of_ne_nil _ some
    exact ⟨j, mem_ends_iff.mp found⟩
  · rintro ⟨j, matched⟩
    exact List.ne_nil_of_mem (mem_ends_iff.mpr matched)

/-- The search finds the first position at which a match starts. -/
theorem search_eq_some_iff {r : Regex} {i : ℕ} :
    search text r = some i ↔ StartsAt text r i ∧ ∀ k < i, ¬StartsAt text r k := by
  rw [search, List.find?_range_eq_some, ends_nonempty_iff, List.mem_range]
  constructor
  · rintro ⟨matched, inside, before⟩
    refine ⟨⟨by omega, matched⟩, fun k earlier starts => ?_⟩
    have nothing := before k earlier
    rw [Bool.not_not, List.isEmpty_iff] at nothing
    obtain ⟨j, found⟩ := starts.2
    rw [← mem_ends_iff, nothing] at found
    cases found
  · rintro ⟨⟨inside, matched⟩, before⟩
    refine ⟨matched, by omega, fun k earlier => ?_⟩
    by_contra found
    rw [Bool.not_not] at found
    exact before k earlier ⟨by omega, ends_nonempty_iff.mp (by rw [Bool.eq_false_iff.mpr found, Bool.not_false])⟩

/-- The search finds nothing exactly when no match starts anywhere. -/
theorem search_eq_none_iff {r : Regex} : search text r = none ↔ ∀ i, ¬StartsAt text r i := by
  rw [search, List.find?_eq_none]
  constructor
  · intro nothing i starts
    exact nothing i (List.mem_range.mpr (by have := starts.1; omega)) (ends_nonempty_iff.mpr starts.2)
  · intro nothing i inside found
    exact nothing i ⟨by have := List.mem_range.mp inside; omega, ends_nonempty_iff.mp found⟩

/-- A match that has to contain a character starts before the end of the text. -/
theorem StartsAt.lt_length {r : Regex} {i : ℕ} (starts : StartsAt text r i) (wide : 0 < r.minWidth) :
    i < text.length := by
  obtain ⟨_, j, matched⟩ := starts
  have width := matched.width
  have inside := matched.le_length (by omega)
  omega

end Regex

end CachePilot
