/-
Module: CachePilot.Core.Settings
Layer: Core
Purpose: The lease settings read from environment variables. Each variable passes through one of the parsing helpers,
  and each field checks the value it is given against the bounds it declares. A conversion is none where an exception
  leaves it. Floats and decimals are exact rationals with the infinities and NaN; how a text reads as one, and
  whether a bounded float field lets NaN pass, are parameters.
Trusted boundary: the reading of LeaseSettings.from_env; how texts read as numbers is a parameter
Main exports: EnvRuntime, FieldBounds, EnvSettings, envFloat, envFloatOrNone, envInt, envFlag, envBounded,
  pricingFromEnv, LeaseSettings.fromEnv
-/
import Mathlib.Data.Rat.Floor
import CachePilot.Core.Telemetry
import CachePilot.Core.Leases

namespace CachePilot

/-- What is used of texts that stand for values and of the checks of fields. -/
structure EnvRuntime where
  strip : String → String
  parseFloat : String → Option JsonFloat
  parseDecimal : String → Option JsonFloat
  parseInt : String → Option ℤ
  isDigit : String → Bool
  urlsplit : String → Option (String × String)
  nanPasses : Bool
  defaultDbPath : String
  parseFloat_blank : parseFloat "" = none

/-- The environment variables that are set. -/
abbrev Environment := String → Option String

/-! ### Numbers and the bounds of fields -/

/-- The number is less than a bound; NaN is not. -/
def JsonFloat.below : JsonFloat → ℚ → Bool
  | .finite value, bound => value < bound
  | .negInfinity, _ => true
  | _, _ => false

/-- The number is greater than a bound; NaN is not. -/
def JsonFloat.above : JsonFloat → ℚ → Bool
  | .finite value, bound => bound < value
  | .infinity, _ => true
  | _, _ => false

/-- The bounds that a field declares. -/
structure FieldBounds where
  minimum : ℚ
  minimumExclusive : Bool := false
  maximum : Option ℚ := none

/-- The number lies within the bounds. -/
def FieldBounds.Holds (bounds : FieldBounds) : JsonFloat → Prop
  | .finite value =>
      (if bounds.minimumExclusive then bounds.minimum < value else bounds.minimum ≤ value) ∧
        ∀ maximum ∈ bounds.maximum, value ≤ maximum
  | .infinity => bounds.maximum = none
  | .negInfinity => False
  | .nan => False

instance (bounds : FieldBounds) : DecidablePred bounds.Holds := fun value =>
  match value with
  | .finite value =>
      inferInstanceAs (Decidable
        ((if bounds.minimumExclusive then bounds.minimum < value else bounds.minimum ≤ value) ∧
          ∀ maximum ∈ bounds.maximum, value ≤ maximum))
  | .infinity => inferInstanceAs (Decidable (bounds.maximum = none))
  | .negInfinity => inferInstanceAs (Decidable False)
  | .nan => inferInstanceAs (Decidable False)

/-- A float field admits the numbers within its bounds. -/
def floatField (rt : EnvRuntime) (bounds : FieldBounds) (value : JsonFloat) : Option JsonFloat :=
  if value = .nan then if rt.nanPasses then some value else none
  else if bounds.Holds value then some value
  else none

/-- A decimal field admits the finite numbers within its bounds. -/
def decimalField (bounds : FieldBounds) : JsonFloat → Option JsonFloat
  | .finite value => if bounds.Holds (.finite value) then some (.finite value) else none
  | _ => none

/-- An optional float field checks a value that is given. -/
def optionalFloatField (rt : EnvRuntime) (bounds : FieldBounds) : Option JsonFloat → Option (Option JsonFloat)
  | none => some none
  | some value => (floatField rt bounds value).map some

/-- An integer field checks its lower bound. -/
def intField (minimum value : ℤ) : Option ℤ := if minimum ≤ value then some value else none

/-! ### The parsing helpers -/

/-- A float variable; the default when it is not set or does not read as one. -/
def envFloat (rt : EnvRuntime) (raw : Option String) (default : ℚ) : JsonFloat :=
  match raw with
  | none => .finite default
  | some raw => (rt.parseFloat (rt.strip raw)).getD (.finite default)

/-- An optional positive float variable. -/
def envFloatOrNone (rt : EnvRuntime) (raw : Option String) : Option JsonFloat :=
  match raw with
  | none => none
  | some raw =>
      if rt.strip raw = "" then none
      else
        match rt.parseFloat (rt.strip raw) with
        | none => none
        | some value => if value.above 0 then some value else none

/-- A positive integer variable. -/
def envInt (rt : EnvRuntime) (raw : Option String) (default : ℤ) : ℤ :=
  match raw with
  | none => default
  | some raw =>
      match rt.parseInt (rt.strip raw) with
      | none => default
      | some value => if 1 ≤ value then value else default

/-- A flag; the default when it is no word for either. -/
def envFlag (rt : EnvRuntime) (raw : Option String) (default : Bool) : Bool :=
  match raw with
  | none => default
  | some raw =>
      let value := (rt.strip raw).toLower
      if value ∈ ["1", "true", "yes", "on"] then true
      else if value ∈ ["0", "false", "no", "off"] then false
      else default

/-- The bounds that a decimal variable is compared with. -/
structure DecimalRange where
  minimum : ℚ
  maximum : Option ℚ := none
  minimumExclusive : Bool := false
  maximumExclusive : Bool := false

/-- A decimal that is compared with a range; the default when it lies outside. -/
def DecimalRange.accept (range : DecimalRange) (default : ℚ) (value : JsonFloat) : Option JsonFloat :=
  -- The first comparison raises on NaN, and it is made outside the `try`.
  if value = .nan then none
  else if value.below range.minimum ∨ ¬range.minimumExclusive ∧ value = .finite range.minimum then
    some (.finite default)
  else
    match range.maximum with
    | none => some value
    | some maximum =>
        if value.above maximum ∨ ¬range.maximumExclusive ∧ value = .finite maximum then some (.finite default)
        else some value

/-- A decimal variable within bounds. -/
def envBounded (rt : EnvRuntime) (raw : Option String) (default : ℚ) (range : DecimalRange) : Option JsonFloat :=
  match raw with
  | none => some (.finite default)
  | some raw =>
      match rt.parseDecimal (rt.strip raw) with
      | none => some (.finite default)
      | some value => range.accept default value

/-! ### Pricing -/

/-- Configured prices of a million tokens. -/
structure EnvPricing where
  inputPerMtok : JsonFloat
  outputPerMtok : JsonFloat
  cacheReadPerMtok : JsonFloat
  cacheWritePerMtok : JsonFloat
deriving DecidableEq

/-- The rates of some texts, in their order: none inside when one does not read as a rate or is negative, and none
    outside when the comparison raises on NaN. -/
def pricingRates (rt : EnvRuntime) : List String → Option (Option (List JsonFloat))
  | [] => some (some [])
  | raw :: rest =>
      match rt.parseDecimal (rt.strip raw) with
      | none => some none
      | some rate =>
          if rate = .nan then none
          else if rate.below 0 then some none
          else (pricingRates rt rest).map (Option.map (rate :: ·))

def rateBounds : FieldBounds := { minimum := 0 }

/-- Build the pricing table, with its checks. -/
def EnvPricing.build (input output cacheRead cacheWrite : JsonFloat) : Option EnvPricing := do
  let inputPerMtok ← decimalField rateBounds input
  let outputPerMtok ← decimalField rateBounds output
  let cacheReadPerMtok ← decimalField rateBounds cacheRead
  let cacheWritePerMtok ← decimalField rateBounds cacheWrite
  pure { inputPerMtok, outputPerMtok, cacheReadPerMtok, cacheWritePerMtok }

/-- The variables of the rates. -/
def pricingVariables : List String :=
  ["CACHEPILOT_PRICING_INPUT_PER_MTK", "CACHEPILOT_PRICING_OUTPUT_PER_MTK", "CACHEPILOT_PRICING_CACHE_READ_PER_MTK",
    "CACHEPILOT_PRICING_CACHE_WRITE_PER_MTK"]

/-- The texts of some variables, when all are set. -/
def pricingTexts (env : Environment) : List String → Option (List String)
  | [] => some []
  | name :: rest =>
      match env name with
      | none => none
      | some raw => (pricingTexts env rest).map (raw :: ·)

/-- The configured pricing: all rates or none. -/
def pricingFromEnv (rt : EnvRuntime) (env : Environment) : Option (Option EnvPricing) :=
  match pricingTexts env pricingVariables with
  | none => some none
  | some raw =>
      match pricingRates rt raw with
      | none => none
      | some (some [input, output, cacheRead, cacheWrite]) =>
          (EnvPricing.build input output cacheRead cacheWrite).map some
      | some _ => some none

/-! ### The settings -/

/-- The tunables of the economic controller. -/
structure EnvEconomics where
  enabled : Bool
  budgetRatio : JsonFloat
  safetyMargin : JsonFloat := .finite 0
  minimumExpectedSavings : JsonFloat
deriving DecidableEq

/-- The lease settings as the environment gives them: a float may be infinite. -/
structure EnvSettings where
  warmFraction : JsonFloat
  minimumMarginS : JsonFloat
  latencyMultiplier : JsonFloat
  jitterFraction : JsonFloat
  defaultTtlS : JsonFloat
  schedulerIntervalS : JsonFloat
  ttlForceSeconds : Option JsonFloat
  ttlMinimumSamples : ℤ
  dryRun : Bool
  economics : EnvEconomics
  pricing : Option EnvPricing
  resumeProbability : JsonFloat
  detachedResumeProbability : JsonFloat
deriving DecidableEq

namespace LeaseSettings

/-! The bounds that the fields declare. -/

def warmFractionBounds : FieldBounds := { minimum := 0, minimumExclusive := true, maximum := some 1 }

def minimumMarginBounds : FieldBounds := { minimum := 0 }

def latencyMultiplierBounds : FieldBounds := { minimum := 0 }

def jitterFractionBounds : FieldBounds := { minimum := 0, maximum := some 1 }

def defaultTtlBounds : FieldBounds := { minimum := 0, minimumExclusive := true }

def schedulerIntervalBounds : FieldBounds := { minimum := 0, minimumExclusive := true }

def ttlForceBounds : FieldBounds := { minimum := 0, minimumExclusive := true }

def budgetRatioBounds : FieldBounds := { minimum := 0, minimumExclusive := true, maximum := some 1 }

def minimumSavingsBounds : FieldBounds := { minimum := 0 }

def probabilityBounds : FieldBounds := { minimum := 0, maximum := some 1 }

/-- The settings of an environment; none when a helper or a field check raises. -/
def fromEnv (rt : EnvRuntime) (env : Environment) : Option EnvSettings := do
  let warmFraction ← floatField rt warmFractionBounds (envFloat rt (env "CACHEPILOT_LEASE_WARM_FRACTION") (4 / 5))
  let minimumMarginS ← floatField rt minimumMarginBounds (envFloat rt (env "CACHEPILOT_LEASE_MINIMUM_MARGIN_S") 10)
  let latencyMultiplier ←
    floatField rt latencyMultiplierBounds (envFloat rt (env "CACHEPILOT_LEASE_LATENCY_MULTIPLIER") 2)
  let jitterFraction ←
    floatField rt jitterFractionBounds (envFloat rt (env "CACHEPILOT_LEASE_JITTER_FRACTION") (3 / 100))
  let defaultTtlS ← floatField rt defaultTtlBounds (envFloat rt (env "CACHEPILOT_LEASE_DEFAULT_TTL_S") 300)
  let schedulerIntervalS ←
    floatField rt schedulerIntervalBounds (envFloat rt (env "CACHEPILOT_LEASE_SCHEDULER_INTERVAL_S") 1)
  let ttlForceSeconds ← optionalFloatField rt ttlForceBounds (envFloatOrNone rt (env "CACHEPILOT_TTL_FORCE_SECONDS"))
  let ttlMinimumSamples ← intField 1 (envInt rt (env "CACHEPILOT_TTL_MINIMUM_SAMPLES") 3)
  let dryRun := envFlag rt (some ((env "CACHEPILOT_LEASE_DRY_RUN").getD "true")) true
  let enabled := envFlag rt (some ((env "CACHEPILOT_ECONOMICS_ENABLED").getD "true")) true
  let budgetRatio ← (envBounded rt (env "CACHEPILOT_ECONOMICS_BUDGET_RATIO") (7 / 10)
    { minimum := 0, minimumExclusive := true, maximum := some 1 }).bind (decimalField budgetRatioBounds)
  let minimumExpectedSavings ← (envBounded rt (env "CACHEPILOT_ECONOMICS_MINIMUM_EXPECTED_SAVINGS_USD") 0
    { minimum := 0 }).bind (decimalField minimumSavingsBounds)
  let pricing ← pricingFromEnv rt env
  let resumeProbability ← (envBounded rt (env "CACHEPILOT_ECONOMICS_RESUME_PROBABILITY") (95 / 100)
    { minimum := 0, maximum := some 1 }).bind (floatField rt probabilityBounds)
  let detachedResumeProbability ← (envBounded rt (env "CACHEPILOT_ECONOMICS_DETACHED_RESUME_PROBABILITY") (20 / 100)
    { minimum := 0, maximum := some 1 }).bind (floatField rt probabilityBounds)
  pure {
    warmFraction, minimumMarginS, latencyMultiplier, jitterFraction, defaultTtlS, schedulerIntervalS
    ttlForceSeconds, ttlMinimumSamples, dryRun
    economics := { enabled, budgetRatio, minimumExpectedSavings }
    pricing, resumeProbability, detachedResumeProbability }

end LeaseSettings

end CachePilot
