/-
Module: CachePilot.Lib.UtcTime
Layer: Lib
Purpose: Points of time in UTC, with microseconds, and their ISO 8601 text. A point of time is a valid date and time
  of day; the bounds are fields of the type. The text has a fixed width, and reading it gives the point of time back.
Trusted boundary: none
Main exports: UtcTime, UtcTime.isoText, UtcTime.fromIso, UtcTime.fromIso_isoText
-/
import Mathlib.Data.Nat.Notation
import Mathlib.Data.String.Basic
import Mathlib.Tactic.IntervalCases

namespace CachePilot

/-- A leap year of the Gregorian calendar. -/
def isLeapYear (year : ℕ) : Bool := year % 4 == 0 && (year % 100 != 0 || year % 400 == 0)

/-- The number of days of a month. -/
def daysInMonth (year month : ℕ) : ℕ :=
  if month = 2 then (if isLeapYear year then 29 else 28)
  else if month = 4 ∨ month = 6 ∨ month = 9 ∨ month = 11 then 30
  else 31

/-- The parts of a date and a time of day. -/
structure TimeParts where
  year : ℕ
  month : ℕ
  day : ℕ
  hour : ℕ
  minute : ℕ
  second : ℕ
  microsecond : ℕ
deriving DecidableEq, Repr

/-- The parts are those of a point of time. -/
def TimeParts.Valid (p : TimeParts) : Prop :=
  (1 ≤ p.year ∧ p.year ≤ 9999) ∧ (1 ≤ p.month ∧ p.month ≤ 12) ∧ (1 ≤ p.day ∧ p.day ≤ daysInMonth p.year p.month) ∧
    p.hour < 24 ∧ p.minute < 60 ∧ p.second < 60 ∧ p.microsecond < 1000000

instance (p : TimeParts) : Decidable p.Valid := inferInstanceAs (Decidable (_ ∧ _))

/-- A point of time in UTC. -/
structure UtcTime extends TimeParts where
  valid : toTimeParts.Valid
deriving DecidableEq

namespace UtcTime

/-! ### Fixed numbers of digits -/

/-- A decimal digit. -/
def decimalDigit (n : ℕ) : Char := "0123456789".toList.getD n '0'

/-- The value of a decimal digit. -/
def digitValue (c : Char) : ℕ := "0123456789".toList.idxOf c

/-- A number with a fixed number of digits. -/
def fixedDigits : ℕ → ℕ → List Char
  | 0, _ => []
  | width + 1, n => fixedDigits width (n / 10) ++ [decimalDigit (n % 10)]

/-- The number that digits make. -/
def digitsValue (digits : List Char) : ℕ := digits.foldl (fun n c => n * 10 + digitValue c) 0

theorem digitValue_decimalDigit {n : ℕ} (small : n < 10) : digitValue (decimalDigit n) = n := by
  interval_cases n <;> decide

theorem length_fixedDigits (width n : ℕ) : (fixedDigits width n).length = width := by
  induction width generalizing n with
  | zero => rfl
  | succ width ih => rw [fixedDigits, List.length_append, ih, List.length_singleton]

theorem digitsValue_fixedDigits {width n : ℕ} (small : n < 10 ^ width) : digitsValue (fixedDigits width n) = n := by
  induction width generalizing n with
  | zero =>
      rw [pow_zero, Nat.lt_one_iff] at small
      rw [small]
      rfl
  | succ width ih =>
      have front : n / 10 < 10 ^ width := by
        rw [Nat.div_lt_iff_lt_mul (by decide), ← pow_succ]
        exact small
      have value := ih front
      rw [digitsValue] at value
      rw [fixedDigits, digitsValue, List.foldl_append, value, List.foldl_cons, List.foldl_nil,
        digitValue_decimalDigit (Nat.mod_lt _ (by decide))]
      omega

/-- Read so many digits from the front of a text. -/
def readDigits (width : ℕ) (text : List Char) : Option (ℕ × List Char) :=
  let digits := text.take width
  if digits.length = width ∧ digits.all Char.isDigit then some (digitsValue digits, text.drop width) else none

/-- Read one given character from the front of a text. -/
def readMark (mark : Char) : List Char → Option (List Char)
  | c :: rest => if c = mark then some rest else none
  | [] => none

theorem isDigit_decimalDigit (n : ℕ) (small : n < 10) : (decimalDigit n).isDigit = true := by
  interval_cases n <;> decide

theorem all_isDigit_fixedDigits (width n : ℕ) : (fixedDigits width n).all Char.isDigit = true := by
  induction width generalizing n with
  | zero => rfl
  | succ width ih =>
      rw [fixedDigits, List.all_append, ih, List.all_cons, isDigit_decimalDigit _ (Nat.mod_lt _ (by decide))]
      rfl

/-- Digits are read back in front of another text. -/
theorem readDigits_fixedDigits {width n : ℕ} (small : n < 10 ^ width) (rest : List Char) :
    readDigits width (fixedDigits width n ++ rest) = some (n, rest) := by
  have front : (fixedDigits width n ++ rest).take width = fixedDigits width n :=
    List.take_left' (length_fixedDigits width n)
  have back : (fixedDigits width n ++ rest).drop width = rest := List.drop_left' (length_fixedDigits width n)
  rw [readDigits, front, back, length_fixedDigits, all_isDigit_fixedDigits, if_pos ⟨rfl, rfl⟩,
    digitsValue_fixedDigits small]

@[simp] theorem readMark_cons (mark : Char) (rest : List Char) : readMark mark (mark :: rest) = some rest :=
  if_pos rfl

/-! ### The text of a point of time -/

/-- The text of the parts: `YYYY-MM-DDTHH:MM:SS.ffffff+00:00`. -/
def partsText (p : TimeParts) : List Char :=
  fixedDigits 4 p.year ++ '-' :: (fixedDigits 2 p.month ++ '-' :: (fixedDigits 2 p.day ++
    'T' :: (fixedDigits 2 p.hour ++ ':' :: (fixedDigits 2 p.minute ++ ':' :: (fixedDigits 2 p.second ++
      '.' :: (fixedDigits 6 p.microsecond ++ "+00:00".toList))))))

/-- Canonical UTC storage form, with microseconds. -/
def isoText (t : UtcTime) : String := String.ofList (partsText t.toTimeParts)

/-- Read so many digits and the mark behind them. -/
def readField (width : ℕ) (mark : Char) (text : List Char) : Option (ℕ × List Char) :=
  (readDigits width text).bind fun read => (readMark mark read.2).map fun rest => (read.1, rest)

/-- The parts that a text in the storage form names. -/
def readParts (text : List Char) : Option TimeParts :=
  (readField 4 '-' text).bind fun year =>
  (readField 2 '-' year.2).bind fun month =>
  (readField 2 'T' month.2).bind fun day =>
  (readField 2 ':' day.2).bind fun hour =>
  (readField 2 ':' hour.2).bind fun minute =>
  (readField 2 '.' minute.2).bind fun second =>
  (readDigits 6 second.2).bind fun microsecond =>
    if microsecond.2 = "+00:00".toList then
      some
        { year := year.1, month := month.1, day := day.1, hour := hour.1, minute := minute.1,
          second := second.1, microsecond := microsecond.1 }
    else none

/-- Read the storage form. -/
def fromIso (text : String) : Option UtcTime :=
  (readParts text.toList).bind fun p => if valid : p.Valid then some ⟨p, valid⟩ else none

theorem readField_fixedDigits {width n : ℕ} (small : n < 10 ^ width) (mark : Char) (rest : List Char) :
    readField width mark (fixedDigits width n ++ mark :: rest) = some (n, rest) := by
  rw [readField, readDigits_fixedDigits small, Option.bind_some, readMark_cons, Option.map_some]

theorem readParts_partsText {p : TimeParts} (valid : p.Valid) : readParts (partsText p) = some p := by
  obtain ⟨⟨_, year⟩, ⟨_, month⟩, ⟨_, day⟩, hour, minute, second, microsecond⟩ := valid
  have dayBound : daysInMonth p.year p.month ≤ 31 := by
    unfold daysInMonth
    split_ifs <;> decide
  rw [readParts, partsText, readField_fixedDigits (by omega), Option.bind_some,
    readField_fixedDigits (by omega), Option.bind_some, readField_fixedDigits (by omega), Option.bind_some,
    readField_fixedDigits (by omega), Option.bind_some, readField_fixedDigits (by omega), Option.bind_some,
    readField_fixedDigits (by omega), Option.bind_some, readDigits_fixedDigits (by omega), Option.bind_some,
    if_pos rfl]

/-- The storage form is read back. -/
@[simp] theorem fromIso_isoText (t : UtcTime) : fromIso t.isoText = some t := by
  rw [fromIso, isoText, String.toList_ofList, readParts_partsText t.valid, Option.bind_some, dif_pos t.valid]

end UtcTime

end CachePilot
