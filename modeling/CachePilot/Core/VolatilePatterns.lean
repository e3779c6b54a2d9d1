/-
Module: CachePilot.Core.VolatilePatterns
Layer: Core
Purpose: The volatile patterns of the churn classifier as regular expressions: date and time, date, clock time and
  UUID, in the order in which they are tried. What counts as a digit, a word character or a space is that of the
  host language and a parameter. The extended patterns, which only sharpen a verdict, remain a parameter.
Trusted boundary: the reading of the patterns in churn.py; the character classes are parameters
Main exports: CharClasses, asciiClasses, volatilePatterns, churnPatterns
-/
import CachePilot.Core.Churn
import CachePilot.Lib.Regex

namespace CachePilot

/-- The character classes of the patterns. -/
structure CharClasses where
  digit : Char → Bool
  word : Char → Bool
  space : Char → Bool

/-- The character classes on ASCII text. -/
def asciiClasses : CharClasses where
  digit := Char.isDigit
  word c := c.isAlphanum || c == '_'
  space c := c == ' ' || (9 ≤ c.toNat && c.toNat ≤ 13) || (28 ≤ c.toNat && c.toNat ≤ 31)

/-- A hexadecimal digit. -/
def isHexDigit (c : Char) : Bool := c.isDigit || ('a' ≤ c && c ≤ 'f') || ('A' ≤ c && c ≤ 'F')

namespace VolatilePattern

open Regex

variable (classes : CharClasses)

/-- So many digits. -/
def digits (n : ℕ) : Regex := times n (.one classes.digit)

/-- So many hexadecimal digits. -/
def hexDigits (n : ℕ) : Regex := times n (.one isHexDigit)

/-- The edge of a word. -/
def edge : Regex := .boundary classes.word

/-- Year, month and day. -/
def yearMonthDay : Regex := all [digits classes 4, char '-', digits classes 2, char '-', digits classes 2]

/-- Hours, minutes and perhaps seconds. -/
def hoursMinutes : Regex :=
  all [onceOrTwice (.one classes.digit), char ':', digits classes 2, optional (all [char ':', digits classes 2])]

/-- `Z`, or an offset in hours and minutes. -/
def zone : Regex :=
  oneOf [char 'Z',
    all [oneOf [char '+', char '-'], digits classes 2, optional (char ':'), digits classes 2]]

/-- A date and a time. -/
def dateTime : Regex :=
  all [edge classes, yearMonthDay classes, oneOf [char 'T', char ' '], hoursMinutes classes,
    optional (all [char '.', plus (.one classes.digit)]), optional (zone classes), edge classes]

/-- A date. -/
def date : Regex := all [edge classes, yearMonthDay classes, edge classes]

/-- A clock time. -/
def clockTime : Regex :=
  all [edge classes, hoursMinutes classes, .star (.one classes.space),
    optional (oneOf [word ['A', 'M'], word ['P', 'M'], word ['a', 'm'], word ['p', 'm']]), edge classes]

/-- A UUID. -/
def uuid : Regex :=
  all [edge classes, hexDigits 8, char '-', hexDigits 4, char '-', hexDigits 4, char '-', hexDigits 4, char '-',
    hexDigits 12, edge classes]

end VolatilePattern

variable (classes : CharClasses)

/-- The volatile patterns, in the order in which they are tried. -/
def volatilePatterns : List Regex :=
  [VolatilePattern.dateTime classes, VolatilePattern.date classes, VolatilePattern.clockTime classes,
    VolatilePattern.uuid classes]

/-- The patterns of the classifier, each searched for its first match. -/
def churnPatterns (prefixVolatile : List (String → Bool)) : ChurnPatterns where
  volatile := (volatilePatterns classes).map fun pattern text => pattern.search text.toList
  prefixVolatile := prefixVolatile

/-- A match of a volatile pattern contains a character. -/
theorem volatilePatterns_wide {classes : CharClasses} {pattern : Regex}
    (listed : pattern ∈ volatilePatterns classes) : 0 < pattern.minWidth := by
  simp only [volatilePatterns, List.mem_cons, List.not_mem_nil, or_false] at listed
  rcases listed with rfl | rfl | rfl | rfl
  all_goals exact Nat.zero_lt_succ _

end CachePilot
