/-
Module: CachePilot.Relay.Correlation
Layer: Relay
Purpose: What the relay reads of the correlation headers of a request: the session id as it is, and the count of
  background targets as the integer that the header value is. A value is Latin-1 text, so its digits are those of
  ASCII. An integer has an optional sign and digits, with single underscores between them, and no more digits than
  the interpreter converts.
Trusted boundary: the reading of observation.py; header values are Latin-1 texts
Main exports: readNumeral, readSigned, parseTargetsCount, parseTargetsCount_toString, PhysicalRequest.correlated
-/
import CachePilot.Lib.RatioText
import CachePilot.Relay.Headers
import CachePilot.Relay.PhysicalRequests

namespace CachePilot

/-- The longest numeral that is converted. -/
def maxDigits : ℕ := 4300

/-- The number of a numeral: digits, with single underscores between them. -/
def readNumeral (text : List Char) : Option ℕ :=
  let groups := text.splitOn '_'
  let digits := groups.flatten
  if groups.all (fun group => decide (group ≠ []) && group.all Char.isDigit) && decide (digits.length ≤ maxDigits)
  then some (Nat.ofDigitChars 10 digits 0)
  else none

/-- The integer of a text without outer blanks. -/
def readSigned : List Char → Option ℤ
  | '-' :: numeral => (readNumeral numeral).map fun n => -(n : ℤ)
  | '+' :: numeral => (readNumeral numeral).map fun n => (n : ℤ)
  | numeral => (readNumeral numeral).map fun n => (n : ℤ)

/-- The active count of background targets. An absent, malformed or negative value claims no target. -/
def parseTargetsCount : Option String → ℕ
  | none => 0
  | some value => ((readSigned (stripBlanks value.toList)).getD 0).toNat

/-! ### The count that is written is read -/

theorem isBlank_of_isDigit {c : Char} (digit : c.isDigit = true) : isBlank c = false := by
  rw [Char.isDigit_iff_toNat] at digit
  rw [isBlank, decide_eq_false_iff_not]
  change 48 ≤ c.toNat ∧ c.toNat ≤ 57 at digit
  omega

/-- Digits have no blank in front. -/
theorem dropWhile_isBlank {digits : List Char} (all : ∀ c ∈ digits, c.isDigit = true) :
    digits.dropWhile isBlank = digits := by
  cases digits with
  | nil => rfl
  | cons c rest =>
      apply List.dropWhile_cons_of_neg
      rw [isBlank_of_isDigit (all c List.mem_cons_self)]
      exact Bool.false_ne_true

theorem stripBlanks_digits {digits : List Char} (all : ∀ c ∈ digits, c.isDigit = true) :
    stripBlanks digits = digits := by
  have reversed : ∀ c ∈ digits.reverse, c.isDigit = true := fun c listed => all c (List.mem_reverse.mp listed)
  rw [stripBlanks, dropWhile_isBlank all, dropWhile_isBlank reversed, List.reverse_reverse]

theorem splitOn_digits {digits : List Char} (all : ∀ c ∈ digits, c.isDigit = true) :
    digits.splitOn '_' = [digits] := by
  apply List.splitOn_eq_singleton
  intro listed
  exact absurd (all '_' listed) (by decide)

theorem readNumeral_digits {digits : List Char} (all : ∀ c ∈ digits, c.isDigit = true) (some : digits ≠ [])
    (short : digits.length ≤ maxDigits) : readNumeral digits = Option.some (Nat.ofDigitChars 10 digits 0) := by
  have digitsOnly : digits.all Char.isDigit = true := List.all_eq_true.mpr all
  rw [readNumeral, splitOn_digits all]
  simp [some, digitsOnly, short]

/-- A text of digits has no sign. -/
theorem readSigned_digits {digits : List Char} (all : ∀ c ∈ digits, c.isDigit = true) :
    readSigned digits = (readNumeral digits).map fun n => (n : ℤ) := by
  unfold readSigned
  split
  · exact absurd (all '-' List.mem_cons_self) (by decide)
  · exact absurd (all '+' List.mem_cons_self) (by decide)
  · rfl

/-- A count is read back from its decimal text. -/
theorem parseTargetsCount_toString {count : ℕ} (short : (toString count).length ≤ maxDigits) :
    parseTargetsCount (some (toString count)) = count := by
  have text : (toString count).toList = Nat.toDigits 10 count := by
    rw [Nat.toString_eq_ofList_toDigits, String.toList_ofList]
  have all : ∀ c ∈ Nat.toDigits 10 count, c.isDigit = true := List.all_eq_true.mp (all_toDigits count)
  rw [← String.length_toList, text] at short
  rw [parseTargetsCount, text, stripBlanks_digits all, readSigned_digits all,
    readNumeral_digits all Nat.toDigits_ne_nil short]
  simp

/-! ### Requests with correlation headers -/

/-- A request, with the session and the count of targets that its headers say. -/
def PhysicalRequest.correlated {B : Type} (request : PhysicalRequest B) : PhysicalRequest B :=
  { request with
    sessionHeader := (getHeader request.headers "x-cachepilot-session").getD ""
    targetsCount := parseTargetsCount (getHeader request.headers "x-cachepilot-targets") }

example : ["5", " 1_0 ", "-3", "+2", "1__0", "", "x"].map (fun value => parseTargetsCount (some value)) =
    [5, 10, 0, 2, 0, 0, 0] := by
  decide +kernel

end CachePilot
