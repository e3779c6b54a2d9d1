/-
Module: CachePilot.Lib.RatioText
Layer: Lib
Purpose: Texts of exact numbers: an integer is written with a mark behind it, anything else as a fraction. The number
  is read back from its text.
Trusted boundary: none
Main exports: ratioText, readRatio, readRatio_ratioText
-/
import Mathlib.Data.List.TakeWhile
import Mathlib.Data.Rat.Lemmas

namespace CachePilot

/-- The text of a number: an integer with a mark, or a fraction. -/
def ratioText (mark : List Char) (value : ℚ) : List Char :=
  (if value.num < 0 then ['-'] else []) ++
    (Nat.toDigits 10 value.num.natAbs ++ if value.den = 1 then mark else '/' :: Nat.toDigits 10 value.den)

/-- The number that digits, and perhaps a second number, make. -/
def readMagnitude (text : List Char) : ℚ :=
  let numerator := Nat.ofDigitChars 10 (text.takeWhile Char.isDigit) 0
  match text.dropWhile Char.isDigit with
  | '/' :: digits => numerator / Nat.ofDigitChars 10 digits 0
  | _ => numerator

/-- The number with a text. -/
def readRatio : List Char → ℚ
  | '-' :: text => -readMagnitude text
  | text => readMagnitude text

theorem takeWhile_digits {digits : List Char} (all : digits.all Char.isDigit = true) (c : Char) (rest : List Char)
    (stop : c.isDigit = false) :
    (digits ++ c :: rest).takeWhile Char.isDigit = digits ∧
      (digits ++ c :: rest).dropWhile Char.isDigit = c :: rest := by
  induction digits with
  | nil => simp [stop]
  | cons d more ih =>
      rw [List.all_cons, Bool.and_eq_true] at all
      simp [all.1, ih all.2]

theorem all_toDigits (n : ℕ) : (Nat.toDigits 10 n).all Char.isDigit = true :=
  List.all_eq_true.mpr fun _ listed => Nat.isDigit_of_mem_toDigits (by decide) (by decide) listed

theorem readMagnitude_integer {mark : List Char} (marks : mark = [] ∨ mark = ['.', '0']) (n : ℕ) :
    readMagnitude (Nat.toDigits 10 n ++ mark) = n := by
  rcases marks with rfl | rfl
  · have all := List.all_eq_true.mp (all_toDigits n)
    rw [List.append_nil, readMagnitude, List.takeWhile_eq_self_iff.mpr all, List.dropWhile_eq_nil_iff.mpr all]
    simp
  · obtain ⟨front, back⟩ := takeWhile_digits (all_toDigits n) '.' ['0'] rfl
    rw [readMagnitude, front, back]
    simp

theorem readMagnitude_fraction (n d : ℕ) :
    readMagnitude (Nat.toDigits 10 n ++ '/' :: Nat.toDigits 10 d) = n / d := by
  obtain ⟨front, back⟩ := takeWhile_digits (all_toDigits n) '/' (Nat.toDigits 10 d) rfl
  rw [readMagnitude, front, back]
  simp

/-- A number is read back from its text. -/
theorem readRatio_ratioText {mark : List Char} (marks : mark = [] ∨ mark = ['.', '0']) (value : ℚ) :
    readRatio (ratioText mark value) = value := by
  have magnitude : readMagnitude (Nat.toDigits 10 value.num.natAbs ++
      if value.den = 1 then mark else '/' :: Nat.toDigits 10 value.den) = value.num.natAbs / value.den := by
    split
    · rename_i whole
      rw [readMagnitude_integer marks, whole, Nat.cast_one, div_one]
    · exact readMagnitude_fraction _ _
  have quotient := Rat.num_div_den value
  rw [ratioText]
  split
  · rename_i negative
    have sign : (value.num : ℚ) = -(value.num.natAbs : ℚ) := by
      have whole : value.num = -(value.num.natAbs : ℤ) := by omega
      have cast := congrArg (Int.cast (R := ℚ)) whole
      rwa [Int.cast_neg, Int.cast_natCast] at cast
    rw [List.singleton_append, readRatio, magnitude, ← neg_div, ← sign, quotient]
  · rename_i positive
    have sign : (value.num : ℚ) = (value.num.natAbs : ℚ) := by
      have whole : value.num = (value.num.natAbs : ℤ) := by omega
      have cast := congrArg (Int.cast (R := ℚ)) whole
      rwa [Int.cast_natCast] at cast
    obtain ⟨c, rest, shape⟩ := List.exists_cons_of_ne_nil (@Nat.toDigits_ne_nil value.num.natAbs 10)
    have digit : c.isDigit = true := by
      have all := all_toDigits value.num.natAbs
      rw [shape, List.all_cons, Bool.and_eq_true] at all
      exact all.1
    have unsigned : c ≠ '-' := by
      rintro rfl
      cases digit
    rw [List.nil_append]
    rw [shape, List.cons_append] at magnitude ⊢
    rw [readRatio, magnitude, ← sign, quotient]
    intro text same
    exact unsigned (List.cons.inj same).1

end CachePilot
