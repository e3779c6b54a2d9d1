/-
Module: CachePilot.Core.Usage
Layer: Core
Purpose: The usage normaliser: token counts and a cost from the usage payload of a provider, in the dialect that its
  label selects, and the test for cache telemetry in such a payload. A conversion is none where an exception leaves
  it. The counts of a usage record are checked to be nonnegative and its cost to be finite, so a record that fails
  a check is not built. How a text reads as an integer or a decimal and how a float is written are parameters.
Trusted boundary: the reading of usage.py and of the telemetry test; how texts read as numbers is a parameter
Main exports: NumberText, toInt, toDecimal, UsageNormalizer.normalize, usageHasCacheTelemetry
-/
import Mathlib.Data.Rat.Floor
import CachePilot.Core.Adapters

namespace CachePilot

/-- What is used of numbers as texts: the integer and the decimal that a text reads as, and how a float is written. -/
structure NumberText where
  parseInt : String → Option ℤ
  parseDecimal : String → Option JsonFloat
  floatText : ℚ → String

/-! ### Conversions -/

/-- The integer part of a number, towards zero. -/
def truncate (q : ℚ) : ℤ := if 0 ≤ q then ⌊q⌋ else ⌈q⌉

/-- A value as an integer. What is no number counts zero, and so does NaN; an infinite float overflows, which is not
    caught. -/
def toInt (text : NumberText) : Json → Option ℤ
  | .null => some 0
  | .bool value => some (if value then 1 else 0)
  | .int value => some value
  | .float (.finite value) => some (truncate value)
  | .float .infinity => none
  | .float .negInfinity => none
  | .float .nan => some 0
  | .str value => some ((text.parseInt value).getD 0)
  | .arr _ => some 0
  | .obj _ => some 0

/-- A value as a decimal, through its text; none when it has no value or does not read as one. -/
def toDecimal (text : NumberText) : Json → Option JsonFloat
  | .null => none
  | .bool _ => none
  | .int value => some (.finite value)
  | .float (.finite value) => text.parseDecimal (text.floatText value)
  | .float value => some value
  | .str value => text.parseDecimal value
  | .arr _ => none
  | .obj _ => none

/-! ### The usage record -/

/-- A token count must not be negative. -/
def nonNegative (value : ℤ) : Option ℕ := if 0 ≤ value then some value.toNat else none

/-- A cost must be finite. -/
def finiteCost : Option JsonFloat → Option (Option ℚ)
  | none => some none
  | some (.finite value) => some (some value)
  | some _ => none

/-- Build a usage record, with its checks. -/
def TokenUsage.build (promptTokens completionTokens cacheReadTokens cacheWriteTokens : ℤ)
    (cost : Option JsonFloat) : Option TokenUsage := do
  let promptTokens ← nonNegative promptTokens
  let completionTokens ← nonNegative completionTokens
  let cacheReadTokens ← nonNegative cacheReadTokens
  let cacheWriteTokens ← nonNegative cacheWriteTokens
  let cost ← finiteCost cost
  pure { promptTokens, completionTokens, cacheReadTokens, cacheWriteTokens, cost }

namespace UsageNormalizer

/-- The dialect with its own names, in which the input tokens exclude the cached ones. -/
def normalizeAnthropic (text : NumberText) (usage : List (String × Json)) : Option TokenUsage := do
  let read ← toInt text (getOrNull usage "cache_read_input_tokens")
  let write ← toInt text (getOrNull usage "cache_creation_input_tokens")
  let input ← toInt text (getOrNull usage "input_tokens")
  let output ← toInt text (getOrNull usage "output_tokens")
  TokenUsage.build (input + read + write) output read write (toDecimal text (getOrNull usage "cost"))

/-- The cached tokens of the prompt details. -/
def detailsTokens (text : NumberText) (usage : List (String × Json)) : Option ℤ :=
  match getOrNull usage "prompt_tokens_details" with
  | .obj details => toInt text (getOrNull details "cached_tokens")
  | _ => some 0

/-- The cached tokens of the generic dialect: those of the prompt details, or the other name when these are zero. -/
def cachedTokens (text : NumberText) (usage : List (String × Json)) : Option ℤ := do
  let cached ← detailsTokens text usage
  if cached = 0 then toInt text (getOrNull usage "cache_read_input_tokens") else some cached

/-- The generic dialect, in which the prompt tokens include the cached ones. -/
def normalizeGeneric (text : NumberText) (usage : List (String × Json)) : Option TokenUsage := do
  let cached ← cachedTokens text usage
  let write ← toInt text (getOrNull usage "cache_creation_input_tokens")
  let input ← toInt text (getOrNull usage "prompt_tokens")
  let output ← toInt text (getOrNull usage "completion_tokens")
  TokenUsage.build input output cached write (toDecimal text (getOrNull usage "cost"))

/-- The payload's usage object, or the payload itself when it has none under that key. -/
def usageOf (payload : Json) : Json :=
  match payload with
  | .obj members => (getMember members "usage").getD payload
  | _ => .null

/-- The provider label selects the first dialect. -/
def isAnthropic (provider : Option String) : Bool := (provider.getD "").toLower = "anthropic"

/-- The canonical usage of a payload; none when an exception leaves the normaliser. -/
def normalize (text : NumberText) (payload : Json) (provider : Option String) : Option TokenUsage :=
  match usageOf payload with
  | .obj usage => if isAnthropic provider then normalizeAnthropic text usage else normalizeGeneric text usage
  | _ => some {}

end UsageNormalizer

/-! ### Telemetry -/

/-- The keys whose presence is cache telemetry. -/
def telemetryKeys : List String := ["cache_read_tokens", "cache_read_input_tokens", "cache_creation_input_tokens"]

/-- The keys of the prompt details whose presence is cache telemetry. -/
def telemetryDetailsKeys : List String := ["cached_tokens"]

/-- The payload carries cache-telemetry fields. -/
def usageHasCacheTelemetry : Json → Bool
  | .obj usage =>
      telemetryKeys.any (fun key => key ∈ memberKeys usage) ||
        match getOrNull usage "prompt_tokens_details" with
        | .obj details => telemetryDetailsKeys.any fun key => key ∈ memberKeys details
        | _ => false
  | _ => false

/-- A text of decimal digits as a number. -/
def readDigits (digits : List Char) : Option ℕ :=
  if digits ≠ [] ∧ digits.all Char.isDigit then
    some (digits.foldl (fun n digit => n * 10 + (digit.toNat - 48)) 0)
  else none

/-- A text of digits, behind a minus sign or not, as an integer. -/
def readInteger (text : String) : Option ℤ :=
  match text.toList with
  | '-' :: digits => (readDigits digits).map fun n => -(n : ℤ)
  | digits => (readDigits digits).map Int.ofNat

/-- The texts of integers and the special decimals. -/
def sampleNumberText : NumberText where
  parseInt := readInteger
  parseDecimal := fun text =>
    if text = "Infinity" then some .infinity
    else if text = "NaN" then some .nan
    else (readInteger text).map fun n => .finite n
  floatText := fun q => String.ofList (Nat.toDigits 10 q.num.natAbs ++ '/' :: Nat.toDigits 10 q.den)

/-- Null fields and texts that are no numbers count zero. -/
example : UsageNormalizer.normalize sampleNumberText
    (.obj [("usage", .obj [("prompt_tokens", .int 10), ("completion_tokens", .null), ("cost", .str "free"),
      ("prompt_tokens_details", .obj [("cached_tokens", .str "many")]),
      ("cache_read_input_tokens", .float (.finite (7 / 2)))])]) none =
    some { promptTokens := 10, cacheReadTokens := 3 } := by
  decide +kernel

end CachePilot
