/-
Module: CachePilot.Proofs.EnvironmentSettings
Layer: Proofs
Purpose: Which environments break the relay or lose a legal value. A setting is specified to be the parsed value
  within the field's bounds and the default otherwise; each parsing helper meets its field exactly outside a few
  values, where the field rejects what the helper lets through or the helper discards what the field admits.
Trusted boundary: none
Main exports: FieldBounds.select, LeaseSettings.specified, HarmlessEnvironment, relay_settings_specified_iff
-/
import CachePilot.Core.Usage
import CachePilot.Relay.Config

namespace CachePilot

/-- What a float variable reads as, when it is set and reads. -/
def EnvRuntime.readFloat (rt : EnvRuntime) (raw : Option String) : Option JsonFloat :=
  raw.bind fun raw => rt.parseFloat (rt.strip raw)

/-- What a decimal variable reads as, when it is set and reads. -/
def EnvRuntime.readDecimal (rt : EnvRuntime) (raw : Option String) : Option JsonFloat :=
  raw.bind fun raw => rt.parseDecimal (rt.strip raw)

/-- What an integer variable reads as, when it is set and reads. -/
def EnvRuntime.readInt (rt : EnvRuntime) (raw : Option String) : Option ℤ :=
  raw.bind fun raw => rt.parseInt (rt.strip raw)

/-- The value within the bounds, and the default otherwise. -/
def FieldBounds.select (bounds : FieldBounds) (read : Option JsonFloat) (default : ℚ) : JsonFloat :=
  match read with
  | none => .finite default
  | some value => if bounds.Holds value then value else .finite default

/-- The pricing table of the values, when all of them are read and lie within the bounds. -/
def specifiedPricing (read : List (Option JsonFloat)) : Option EnvPricing :=
  match read with
  | [some input, some output, some cacheRead, some cacheWrite] =>
      if ∀ rate ∈ [input, output, cacheRead, cacheWrite], rateBounds.Holds rate then
        some { inputPerMtok := input, outputPerMtok := output, cacheReadPerMtok := cacheRead,
               cacheWritePerMtok := cacheWrite }
      else none
  | _ => none

/-- The rates as they read. -/
def readRates (rt : EnvRuntime) (env : Environment) : List (Option JsonFloat) :=
  pricingVariables.map fun name => rt.readDecimal (env name)

namespace LeaseSettings

/-- The settings that the fields' bounds specify. -/
def specified (rt : EnvRuntime) (env : Environment) : EnvSettings where
  warmFraction := warmFractionBounds.select (rt.readFloat (env "CACHEPILOT_LEASE_WARM_FRACTION")) (4 / 5)
  minimumMarginS := minimumMarginBounds.select (rt.readFloat (env "CACHEPILOT_LEASE_MINIMUM_MARGIN_S")) 10
  latencyMultiplier := latencyMultiplierBounds.select (rt.readFloat (env "CACHEPILOT_LEASE_LATENCY_MULTIPLIER")) 2
  jitterFraction := jitterFractionBounds.select (rt.readFloat (env "CACHEPILOT_LEASE_JITTER_FRACTION")) (3 / 100)
  defaultTtlS := defaultTtlBounds.select (rt.readFloat (env "CACHEPILOT_LEASE_DEFAULT_TTL_S")) 300
  schedulerIntervalS := schedulerIntervalBounds.select (rt.readFloat (env "CACHEPILOT_LEASE_SCHEDULER_INTERVAL_S")) 1
  ttlForceSeconds := (rt.readFloat (env "CACHEPILOT_TTL_FORCE_SECONDS")).filter fun value => ttlForceBounds.Holds value
  ttlMinimumSamples := ((rt.readInt (env "CACHEPILOT_TTL_MINIMUM_SAMPLES")).filter fun value => 1 ≤ value).getD 3
  dryRun := envFlag rt (some ((env "CACHEPILOT_LEASE_DRY_RUN").getD "true")) true
  economics :=
    { enabled := envFlag rt (some ((env "CACHEPILOT_ECONOMICS_ENABLED").getD "true")) true
      budgetRatio := budgetRatioBounds.select (rt.readDecimal (env "CACHEPILOT_ECONOMICS_BUDGET_RATIO")) (7 / 10)
      minimumExpectedSavings := minimumSavingsBounds.select
        (rt.readDecimal (env "CACHEPILOT_ECONOMICS_MINIMUM_EXPECTED_SAVINGS_USD")) 0 }
  pricing := specifiedPricing (readRates rt env)
  resumeProbability :=
    probabilityBounds.select (rt.readDecimal (env "CACHEPILOT_ECONOMICS_RESUME_PROBABILITY")) (95 / 100)
  detachedResumeProbability :=
    probabilityBounds.select (rt.readDecimal (env "CACHEPILOT_ECONOMICS_DETACHED_RESUME_PROBABILITY")) (20 / 100)

end LeaseSettings

/-! ### The helpers against the fields -/

section Helpers

variable (rt : EnvRuntime) (raw : Option String)

/-- A float helper checks no bounds, so it meets its field exactly when what it reads lies within them. -/
theorem floatField_envFloat_iff {bounds : FieldBounds} {default : ℚ} (legal : bounds.Holds (.finite default)) :
    floatField rt bounds (envFloat rt raw default) = some (bounds.select (rt.readFloat raw) default) ↔
      ∀ value, rt.readFloat raw = some value → bounds.Holds value := by
  have read : envFloat rt raw default = (rt.readFloat raw).getD (.finite default) := by
    cases raw <;> rfl
  rw [read]
  cases rt.readFloat raw with
  | none => simp [FieldBounds.select, floatField, legal]
  | some value =>
      by_cases within : bounds.Holds value
      · have number : value ≠ .nan := by
          rintro rfl
          exact within
        simp [FieldBounds.select, floatField, within, number]
      · by_cases number : value = .nan
        · subst number
          by_cases passes : rt.nanPasses = true <;> simp [FieldBounds.select, floatField, passes, within]
        · simp [FieldBounds.select, floatField, within, number]

/-- The optional helper admits what its field admits. -/
theorem optionalFloatField_envFloatOrNone :
    optionalFloatField rt LeaseSettings.ttlForceBounds (envFloatOrNone rt raw) =
      some ((rt.readFloat raw).filter fun value => LeaseSettings.ttlForceBounds.Holds value) := by
  have read : envFloatOrNone rt raw = (rt.readFloat raw).filter fun value => value.above 0 := by
    cases raw with
    | none => rfl
    | some raw =>
        by_cases blank : rt.strip raw = ""
        · simp [envFloatOrNone, EnvRuntime.readFloat, blank, rt.parseFloat_blank]
        · cases parsed : rt.parseFloat (rt.strip raw) with
          | none => simp [envFloatOrNone, EnvRuntime.readFloat, blank, parsed]
          | some value => simp [envFloatOrNone, EnvRuntime.readFloat, blank, parsed, Option.filter]
  have same (value : JsonFloat) : value.above 0 = true ↔ LeaseSettings.ttlForceBounds.Holds value := by
    cases value <;> simp [JsonFloat.above, FieldBounds.Holds, LeaseSettings.ttlForceBounds]
  rw [read]
  cases rt.readFloat raw with
  | none => rfl
  | some value =>
      by_cases within : LeaseSettings.ttlForceBounds.Holds value
      · have number : value ≠ .nan := by
          rintro rfl
          exact within
        simp [Option.filter, (same value).2 within, within, optionalFloatField, floatField, number]
      · have low : value.above 0 = false := Bool.eq_false_iff.2 fun above => within ((same value).1 above)
        simp [Option.filter, low, within, optionalFloatField]

/-- The integer helper admits what its field admits. -/
theorem intField_envInt :
    intField 1 (envInt rt raw 3) = some (((rt.readInt raw).filter fun value => 1 ≤ value).getD 3) := by
  have read : envInt rt raw 3 = ((rt.readInt raw).filter fun value => 1 ≤ value).getD 3 := by
    cases raw with
    | none => rfl
    | some raw =>
        cases parsed : rt.parseInt (rt.strip raw) with
        | none => simp [envInt, EnvRuntime.readInt, parsed]
        | some value =>
            by_cases positive : 1 ≤ value <;> simp [envInt, EnvRuntime.readInt, parsed, positive, Option.filter]
  have legal : 1 ≤ ((rt.readInt raw).filter fun value => 1 ≤ value).getD 3 := by
    cases rt.readInt raw with
    | none => simp
    | some value =>
        by_cases positive : 1 ≤ value <;> simp [positive, Option.filter]
  rw [read, intField, if_pos legal]

/-- A bounded helper meets its field exactly when it does so on what it reads. -/
theorem envBounded_bind_iff {bounds : FieldBounds} {range : DecimalRange} {default : ℚ}
    {field : JsonFloat → Option JsonFloat} (legal : field (.finite default) = some (.finite default)) :
    (envBounded rt raw default range).bind field = some (bounds.select (rt.readDecimal raw) default) ↔
      ∀ value, rt.readDecimal raw = some value →
        (range.accept default value).bind field = some (if bounds.Holds value then value else .finite default) := by
  have read : envBounded rt raw default range =
      match rt.readDecimal raw with
      | none => some (.finite default)
      | some value => range.accept default value := by
    cases raw <;> rfl
  rw [read]
  cases rt.readDecimal raw with
  | none => simp [FieldBounds.select, legal]
  | some value => simp [FieldBounds.select]

/-- What a range makes of a finite number. -/
theorem accept_finite (range : DecimalRange) (default q : ℚ) :
    range.accept default (.finite q) =
      if (q < range.minimum ∨ ¬range.minimumExclusive ∧ q = range.minimum) ∨
          ∃ maximum ∈ range.maximum, maximum < q ∨ ¬range.maximumExclusive ∧ q = maximum then
        some (.finite default)
      else some (.finite q) := by
  unfold DecimalRange.accept
  cases range.maximum with
  | none => simp [JsonFloat.below]
  | some maximum => simp [JsonFloat.below, JsonFloat.above, ite_or]

/-- The flag of the budget ratio admits the bound that the field excludes, and the helper discards the one that it
    admits. -/
theorem accept_budgetRatio_iff (value : JsonFloat) :
    (DecimalRange.accept { minimum := 0, minimumExclusive := true, maximum := some 1 } (7 / 10) value).bind
        (decimalField LeaseSettings.budgetRatioBounds) =
      some (if LeaseSettings.budgetRatioBounds.Holds value then value else .finite (7 / 10)) ↔
    value ≠ .nan ∧ value ≠ .finite 0 ∧ value ≠ .finite 1 := by
  have legal : decimalField LeaseSettings.budgetRatioBounds (.finite (7 / 10)) = some (.finite (7 / 10)) := by
    decide +kernel
  have bounded : ¬LeaseSettings.budgetRatioBounds.Holds .infinity := by decide
  cases value with
  | nan => simp [DecimalRange.accept]
  | infinity => simp [DecimalRange.accept, JsonFloat.below, JsonFloat.above, bounded, legal]
  | negInfinity => simp [DecimalRange.accept, JsonFloat.below, FieldBounds.Holds, legal]
  | finite q =>
      have holds : LeaseSettings.budgetRatioBounds.Holds (.finite q) ↔ 0 < q ∧ q ≤ 1 := by
        simp [FieldBounds.Holds, LeaseSettings.budgetRatioBounds]
      rw [accept_finite]
      rcases lt_trichotomy q 0 with low | rfl | positive
      · rw [if_pos (Or.inl (Or.inl low)), Option.bind_some, legal, if_neg fun within => (holds.1 within).1.not_gt low]
        simp [low.ne, (low.trans one_pos).ne]
      · refine iff_of_false ?_ fun ⟨_, zero, _⟩ => zero rfl
        decide +kernel
      · rcases lt_trichotomy q 1 with small | rfl | high
        · have within := holds.2 ⟨positive, small.le⟩
          rw [if_neg, Option.bind_some, decimalField, if_pos within, if_pos within]
          · simp [positive.ne', small.ne]
          · simp [positive.not_gt, small.not_gt, small.ne]
        · refine iff_of_false ?_ fun ⟨_, _, one⟩ => one rfl
          decide +kernel
        · rw [if_pos (Or.inr ⟨1, rfl, Or.inl high⟩), Option.bind_some, legal,
            if_neg fun within => (holds.1 within).2.not_gt high]
          simp [positive.ne', high.ne']

/-- Discarding the least saving for the default changes nothing, but an infinite one is let through. -/
theorem accept_minimumSavings_iff (value : JsonFloat) :
    (DecimalRange.accept { minimum := 0 } 0 value).bind (decimalField LeaseSettings.minimumSavingsBounds) =
      some (if LeaseSettings.minimumSavingsBounds.Holds value then value else .finite 0) ↔
    value ≠ .nan ∧ value ≠ .infinity := by
  have legal : decimalField LeaseSettings.minimumSavingsBounds (.finite 0) = some (.finite 0) := by
    decide +kernel
  cases value with
  | nan => simp [DecimalRange.accept]
  | infinity => simp [DecimalRange.accept, JsonFloat.below, decimalField]
  | negInfinity => simp [DecimalRange.accept, JsonFloat.below, FieldBounds.Holds, legal]
  | finite q =>
      have holds : LeaseSettings.minimumSavingsBounds.Holds (.finite q) ↔ 0 ≤ q := by
        simp [FieldBounds.Holds, LeaseSettings.minimumSavingsBounds]
      refine iff_of_true ?_ (by simp)
      rw [accept_finite]
      rcases lt_trichotomy q 0 with low | rfl | positive
      · rw [if_pos (Or.inl (Or.inl low)), Option.bind_some, legal, if_neg fun within => (holds.1 within).not_gt low]
      · decide +kernel
      · have within := holds.2 positive.le
        rw [if_neg, Option.bind_some, decimalField, if_pos within, if_pos within]
        simp [positive.not_gt, positive.ne']

/-- A probability of zero or one is discarded. -/
theorem accept_probability_iff {default : ℚ} (positive : 0 < default) (small : default < 1) (value : JsonFloat) :
    (DecimalRange.accept { minimum := 0, maximum := some 1 } default value).bind
        (floatField rt LeaseSettings.probabilityBounds) =
      some (if LeaseSettings.probabilityBounds.Holds value then value else .finite default) ↔
    value ≠ .nan ∧ value ≠ .finite 0 ∧ value ≠ .finite 1 := by
  have holds (q : ℚ) : LeaseSettings.probabilityBounds.Holds (.finite q) ↔ 0 ≤ q ∧ q ≤ 1 := by
    simp [FieldBounds.Holds, LeaseSettings.probabilityBounds]
  have legal : floatField rt LeaseSettings.probabilityBounds (.finite default) = some (.finite default) := by
    simp [floatField, holds, positive.le, small.le]
  have bounded : ¬LeaseSettings.probabilityBounds.Holds .infinity := by decide
  cases value with
  | nan => simp [DecimalRange.accept]
  | infinity => simp [DecimalRange.accept, JsonFloat.below, JsonFloat.above, bounded, legal]
  | negInfinity => simp [DecimalRange.accept, JsonFloat.below, FieldBounds.Holds, legal]
  | finite q =>
      rw [accept_finite]
      rcases lt_trichotomy q 0 with low | rfl | above
      · rw [if_pos (Or.inl (Or.inl low)), Option.bind_some, legal,
          if_neg fun within => ((holds q).1 within).1.not_gt low]
        simp [low.ne, (low.trans one_pos).ne]
      · rw [if_pos (Or.inl (Or.inr ⟨by decide, rfl⟩)), Option.bind_some, legal, if_pos ((holds 0).2 (by norm_num))]
        simp [positive.ne']
      · rcases lt_trichotomy q 1 with below | rfl | high
        · have within := (holds q).2 ⟨above.le, below.le⟩
          rw [if_neg, Option.bind_some, floatField, if_neg (by simp), if_pos within, if_pos within]
          · simp [above.ne', below.ne]
          · simp [above.not_gt, above.ne', below.not_gt, below.ne]
        · rw [if_pos (Or.inr ⟨1, rfl, Or.inr ⟨by decide, rfl⟩⟩), Option.bind_some, legal,
            if_pos ((holds 1).2 (by norm_num))]
          simp [small.ne]
        · rw [if_pos (Or.inr ⟨1, rfl, Or.inl high⟩), Option.bind_some, legal,
            if_neg fun within => ((holds q).1 within).2.not_gt high]
          simp [above.ne', high.ne']

theorem budgetRatio_eq_iff :
    (envBounded rt raw (7 / 10) { minimum := 0, minimumExclusive := true, maximum := some 1 }).bind
        (decimalField LeaseSettings.budgetRatioBounds) =
      some (LeaseSettings.budgetRatioBounds.select (rt.readDecimal raw) (7 / 10)) ↔
    ∀ value, rt.readDecimal raw = some value → value ≠ .nan ∧ value ≠ .finite 0 ∧ value ≠ .finite 1 := by
  have legal : decimalField LeaseSettings.budgetRatioBounds (.finite (7 / 10)) = some (.finite (7 / 10)) := by
    decide +kernel
  exact (envBounded_bind_iff rt raw legal).trans (forall₂_congr fun value _ => accept_budgetRatio_iff value)

theorem minimumSavings_eq_iff :
    (envBounded rt raw 0 { minimum := 0 }).bind (decimalField LeaseSettings.minimumSavingsBounds) =
      some (LeaseSettings.minimumSavingsBounds.select (rt.readDecimal raw) 0) ↔
    ∀ value, rt.readDecimal raw = some value → value ≠ .nan ∧ value ≠ .infinity := by
  have legal : decimalField LeaseSettings.minimumSavingsBounds (.finite 0) = some (.finite 0) := by
    decide +kernel
  exact (envBounded_bind_iff rt raw legal).trans (forall₂_congr fun value _ => accept_minimumSavings_iff value)

theorem probability_eq_iff {default : ℚ} (positive : 0 < default) (small : default < 1) :
    (envBounded rt raw default { minimum := 0, maximum := some 1 }).bind
        (floatField rt LeaseSettings.probabilityBounds) =
      some (LeaseSettings.probabilityBounds.select (rt.readDecimal raw) default) ↔
    ∀ value, rt.readDecimal raw = some value → value ≠ .nan ∧ value ≠ .finite 0 ∧ value ≠ .finite 1 := by
  have legal : floatField rt LeaseSettings.probabilityBounds (.finite default) = some (.finite default) := by
    simp [floatField, FieldBounds.Holds, LeaseSettings.probabilityBounds, positive.le, small.le]
  exact (envBounded_bind_iff rt raw legal).trans
    (forall₂_congr fun value _ => accept_probability_iff rt positive small value)

/-- The decimal helper raises what is negative to the default, but an infinite value is let through. -/
theorem decimalField_envDecimal_iff :
    decimalField RelayConfig.affinityBounds (envDecimal rt raw 0) =
        some (RelayConfig.affinityBounds.select (rt.readDecimal raw) 0) ↔
      rt.readDecimal raw ≠ some .infinity := by
  have legal : decimalField RelayConfig.affinityBounds (.finite 0) = some (.finite 0) := by
    decide +kernel
  cases raw with
  | none => simp [envDecimal, EnvRuntime.readDecimal, FieldBounds.select, legal]
  | some text =>
      have read : rt.readDecimal (some text) = rt.parseDecimal (rt.strip text) := rfl
      rw [read, envDecimal]
      cases rt.parseDecimal (rt.strip text) with
      | none => simp [FieldBounds.select, legal]
      | some value =>
          cases value with
          | nan => simp [FieldBounds.select, FieldBounds.Holds, legal]
          | infinity => simp [FieldBounds.select, JsonFloat.below, decimalField]
          | negInfinity => simp [FieldBounds.select, FieldBounds.Holds, JsonFloat.below, legal]
          | finite q =>
              have holds : RelayConfig.affinityBounds.Holds (.finite q) ↔ 0 ≤ q := by
                simp [FieldBounds.Holds, RelayConfig.affinityBounds]
              by_cases low : q < 0
              · simp [FieldBounds.select, holds, JsonFloat.below, low, low.not_ge, legal]
              · simp [FieldBounds.select, holds, JsonFloat.below, low, not_lt.1 low, decimalField]

end Helpers

/-! ### Pricing -/

/-- A rate that ends the reading: it does not read, or it is negative. -/
def Unusable (read : Option JsonFloat) : Prop := ∀ rate, read = some rate → rate.below 0 = true

/-- No rate raises: every NaN stands behind an unusable rate, and where a rate is infinite some rate is unusable. -/
structure HarmlessRates (read : List (Option JsonFloat)) : Prop where
  nan : ∀ front back, read = front ++ some .nan :: back → ∃ rate ∈ front, Unusable rate
  infinite : some .infinity ∈ read → ∃ rate ∈ read, Unusable rate

theorem not_unusable_nan : ¬Unusable (some .nan) := fun unusable => Bool.false_ne_true (unusable .nan rfl)

/-- A nonnegative rate that is no NaN lies within the bounds. -/
theorem rateBounds_holds {rate : JsonFloat} (number : rate ≠ .nan) (nonneg : rate.below 0 = false) :
    rateBounds.Holds rate := by
  cases rate with
  | nan => exact absurd rfl number
  | infinity => exact rfl
  | negInfinity => exact absurd nonneg (by decide)
  | finite q =>
      have le : ¬q < 0 := of_decide_eq_false nonneg
      simp [FieldBounds.Holds, rateBounds, not_lt.1 le]

theorem not_holds_of_unusable {read : Option JsonFloat} (unusable : Unusable read) {rate : JsonFloat}
    (reads : read = some rate) : ¬rateBounds.Holds rate := by
  have low := unusable rate reads
  intro within
  cases rate with
  | nan => exact within
  | infinity => exact absurd low (by decide)
  | negInfinity => exact within
  | finite q =>
      have less : q < 0 := of_decide_eq_true low
      have le : 0 ≤ q := by simpa [FieldBounds.Holds, rateBounds] using within
      exact le.not_gt less

section Rates

variable (rt : EnvRuntime)

/-- The texts read one after the other. -/
def readTexts (raw : List String) : List (Option JsonFloat) := raw.map fun text => rt.parseDecimal (rt.strip text)

/-- The loop over the rates raises at a NaN, stops at an unusable rate, or reads all of them. -/
theorem pricingRates_cases (raw : List String) :
    (pricingRates rt raw = none ∧
      ∃ front back, readTexts rt raw = front ++ some .nan :: back ∧ ∀ rate ∈ front, ¬Unusable rate) ∨
    (pricingRates rt raw = some none ∧
      ∃ front rate back, readTexts rt raw = front ++ rate :: back ∧ Unusable rate ∧ some .nan ∉ front) ∨
    ∃ rates, pricingRates rt raw = some (some rates) ∧ readTexts rt raw = rates.map some ∧
      ∀ rate ∈ rates, rate ≠ .nan ∧ rate.below 0 = false := by
  induction raw with
  | nil => exact Or.inr (Or.inr ⟨[], rfl, rfl, by simp⟩)
  | cons text rest ih =>
      rw [readTexts, List.map_cons, ← readTexts, pricingRates]
      cases read : rt.parseDecimal (rt.strip text) with
      | none => exact Or.inr (Or.inl ⟨rfl, [], none, readTexts rt rest, rfl, by simp [Unusable], by simp⟩)
      | some rate =>
          by_cases number : rate = .nan
          · subst number
            exact Or.inl ⟨if_pos rfl, [], readTexts rt rest, rfl, by simp⟩
          · dsimp only
            rw [if_neg number]
            by_cases low : rate.below 0 = true
            · rw [if_pos low]
              refine Or.inr (Or.inl ⟨rfl, [], some rate, readTexts rt rest, rfl, ?_, by simp⟩)
              rintro _ ⟨rfl⟩
              exact low
            · have usable : ¬Unusable (some rate) := fun unusable => low (unusable rate rfl)
              rw [if_neg low]
              rcases ih with ⟨raises, front, back, split, fine⟩ | ⟨stops, front, bad, back, split, unusable, fine⟩ |
                ⟨rates, reads, all, fine⟩
              · refine Or.inl ⟨by rw [raises]; rfl, some rate :: front, back, by rw [split]; rfl, ?_⟩
                exact List.forall_mem_cons.2 ⟨usable, fine⟩
              · refine Or.inr (Or.inl ⟨by rw [stops]; rfl, some rate :: front, bad, back, by rw [split]; rfl,
                  unusable, ?_⟩)
                simp [fine, Ne.symm number]
              · refine Or.inr (Or.inr ⟨rate :: rates, by rw [reads]; rfl, by rw [all]; rfl, ?_⟩)
                exact List.forall_mem_cons.2 ⟨⟨number, Bool.eq_false_iff.2 low⟩, fine⟩

/-- An unusable rate before every NaN makes the rates harmless. -/
theorem HarmlessRates.of_unusable {front back : List (Option JsonFloat)} {rate : Option JsonFloat}
    (unusable : Unusable rate) (fine : some .nan ∉ front) : HarmlessRates (front ++ rate :: back) where
  nan := by
    intro front' back' split
    rcases List.append_eq_append_iff.1 split with ⟨between, rfl, rest⟩ | ⟨between, rfl, rest⟩
    · cases between with
      | nil =>
          rw [List.nil_append, List.cons.injEq] at rest
          exact absurd (rest.1 ▸ unusable) not_unusable_nan
      | cons first between =>
          rw [List.cons_append, List.cons.injEq] at rest
          exact ⟨rate, by simp [rest.1], unusable⟩
    · cases between with
      | nil =>
          rw [List.nil_append, List.cons.injEq] at rest
          exact absurd (rest.1.symm ▸ unusable) not_unusable_nan
      | cons first between =>
          rw [List.cons_append, List.cons.injEq] at rest
          exact absurd (by simp [rest.1]) fine
  infinite := fun _ => ⟨rate, by simp, unusable⟩

/-- A rate outside the bounds leaves no pricing. -/
theorem specifiedPricing_eq_none {read : List (Option JsonFloat)} {rate : Option JsonFloat} (member : rate ∈ read)
    (outside : ∀ value, rate = some value → ¬rateBounds.Holds value) : specifiedPricing read = none := by
  unfold specifiedPricing
  split
  · rename_i input output cacheRead cacheWrite
    rw [if_neg]
    intro within
    have mapped : rate ∈ [input, output, cacheRead, cacheWrite].map some := member
    obtain ⟨value, listed, rfl⟩ := List.mem_map.1 mapped
    exact outside value rfl (within value listed)
  · rfl

theorem pricingTexts_eq_some {env : Environment} {names raw : List String} (texts : pricingTexts env names = some raw) :
    names.map env = raw.map some := by
  induction names generalizing raw with
  | nil =>
      cases texts
      rfl
  | cons name names ih =>
      rw [pricingTexts] at texts
      cases set : env name with
      | none =>
          rw [set] at texts
          cases texts
      | some text =>
          rw [set] at texts
          obtain ⟨rest, more, rfl⟩ := Option.map_eq_some_iff.1 texts
          rw [List.map_cons, List.map_cons, set, ih more]

theorem pricingTexts_eq_none_iff {env : Environment} {names : List String} :
    pricingTexts env names = none ↔ ∃ name ∈ names, env name = none := by
  induction names with
  | nil => simp [pricingTexts]
  | cons name names ih =>
      rw [pricingTexts]
      cases set : env name with
      | none => simp [set]
      | some text => simp [set, ih]

/-- The pricing is harmless when a rate is not set, or the rates are harmless. -/
def HarmlessPricing (env : Environment) : Prop :=
  (∃ name ∈ pricingVariables, env name = none) ∨ HarmlessRates (readRates rt env)

/-- Four rates that are read make a table exactly when none is infinite. -/
theorem build_eq_specified_iff {rates : List JsonFloat} {input output cacheRead cacheWrite : JsonFloat}
    (four : rates = [input, output, cacheRead, cacheWrite])
    (fine : ∀ rate ∈ rates, rate ≠ .nan ∧ rate.below 0 = false) :
    (EnvPricing.build input output cacheRead cacheWrite).map some = some (specifiedPricing (rates.map some)) ↔
      .infinity ∉ rates := by
  have within : ∀ rate ∈ rates, rateBounds.Holds rate :=
    fun rate listed => rateBounds_holds (fine rate listed).1 (fine rate listed).2
  have field : ∀ rate ∈ rates, decimalField rateBounds rate = if rate = .infinity then none else some rate := by
    intro rate listed
    have holds := within rate listed
    cases rate with
    | nan => exact absurd rfl (fine _ listed).1
    | infinity => rfl
    | negInfinity => exact holds.elim
    | finite q => simp [decimalField, holds]
  subst four
  have specified : specifiedPricing ([input, output, cacheRead, cacheWrite].map some) =
      some { inputPerMtok := input, outputPerMtok := output, cacheReadPerMtok := cacheRead,
             cacheWritePerMtok := cacheWrite } := if_pos within
  rw [specified, EnvPricing.build, field input (by simp), field output (by simp), field cacheRead (by simp),
    field cacheWrite (by simp)]
  by_cases a : input = .infinity
  · simp [a]
  · by_cases b : output = .infinity
    · simp [a, b]
    · by_cases c : cacheRead = .infinity
      · simp [a, b, c]
      · by_cases d : cacheWrite = .infinity
        · simp [a, b, c, d]
        · simp [a, b, c, d, eq_comm]

/-- Rates that all read and are not negative are harmless exactly when none is infinite. -/
theorem harmlessRates_iff_of_fine {rates : List JsonFloat}
    (fine : ∀ rate ∈ rates, rate ≠ .nan ∧ rate.below 0 = false) :
    HarmlessRates (rates.map some) ↔ .infinity ∉ rates := by
  constructor
  · intro harmless infinite
    obtain ⟨rate, listed, unusable⟩ := harmless.infinite (List.mem_map_of_mem infinite)
    obtain ⟨value, member, rfl⟩ := List.mem_map.1 listed
    exact Bool.eq_false_iff.1 (fine value member).2 (unusable value rfl)
  · intro finite
    refine ⟨?_, ?_⟩
    · intro front back split
      obtain ⟨value, member, here⟩ := List.mem_map.1 (show some .nan ∈ rates.map some by simp [split])
      exact absurd (Option.some.inj here) (fine value member).1
    · intro infinite
      obtain ⟨value, member, here⟩ := List.mem_map.1 infinite
      exact absurd (Option.some.inj here ▸ member) finite

theorem pricingFromEnv_eq_specified_iff (env : Environment) :
    pricingFromEnv rt env = some (specifiedPricing (readRates rt env)) ↔ HarmlessPricing rt env := by
  cases texts : pricingTexts env pricingVariables with
  | none =>
      obtain ⟨name, listed, unset⟩ := pricingTexts_eq_none_iff.1 texts
      have member : none ∈ readRates rt env := by
        refine List.mem_map.2 ⟨name, listed, ?_⟩
        rw [unset]
        rfl
      rw [pricingFromEnv, texts, specifiedPricing_eq_none member (by simp)]
      exact iff_of_true rfl (Or.inl ⟨name, listed, unset⟩)
  | some raw =>
      have set : ¬∃ name ∈ pricingVariables, env name = none := by
        rw [← pricingTexts_eq_none_iff, texts]
        exact Option.some_ne_none _
      have mapped := pricingTexts_eq_some texts
      have reads : readRates rt env = readTexts rt raw := by
        calc readRates rt env = (pricingVariables.map env).map rt.readDecimal := by rw [List.map_map]; rfl
          _ = readTexts rt raw := by rw [mapped, List.map_map]; rfl
      rw [HarmlessPricing, or_iff_right set, reads, pricingFromEnv, texts]
      dsimp only
      rcases pricingRates_cases rt raw with ⟨raises, front, back, split, fine⟩ |
        ⟨stops, front, rate, back, split, unusable, fine⟩ | ⟨rates, all, split, fine⟩
      · rw [raises]
        refine iff_of_false (Option.some_ne_none _).symm ?_
        intro harmless
        obtain ⟨rate, listed, unusable⟩ := harmless.nan front back split
        exact fine rate listed unusable
      · have member : rate ∈ readTexts rt raw := by simp [split]
        rw [stops, specifiedPricing_eq_none member fun value => not_holds_of_unusable unusable]
        refine iff_of_true rfl ?_
        rw [split]
        exact HarmlessRates.of_unusable unusable fine
      · have four : rates.length = 4 := by
          have lengths := congrArg List.length mapped
          have others := congrArg List.length split
          simp only [readTexts, List.length_map] at lengths others
          rw [← others, ← lengths]
          rfl
        obtain ⟨input, output, cacheRead, cacheWrite, same⟩ := List.length_eq_four.1 four
        rw [all, split, harmlessRates_iff_of_fine fine]
        subst same
        exact build_eq_specified_iff rfl fine

end Rates

/-! ### The environment -/

/-- The lease variables read so that no helper raises, no field rejects and no legal value is discarded. -/
structure HarmlessLeaseVariables (rt : EnvRuntime) (env : Environment) : Prop where
  warmFraction : ∀ value, rt.readFloat (env "CACHEPILOT_LEASE_WARM_FRACTION") = some value →
    LeaseSettings.warmFractionBounds.Holds value
  minimumMarginS : ∀ value, rt.readFloat (env "CACHEPILOT_LEASE_MINIMUM_MARGIN_S") = some value →
    LeaseSettings.minimumMarginBounds.Holds value
  latencyMultiplier : ∀ value, rt.readFloat (env "CACHEPILOT_LEASE_LATENCY_MULTIPLIER") = some value →
    LeaseSettings.latencyMultiplierBounds.Holds value
  jitterFraction : ∀ value, rt.readFloat (env "CACHEPILOT_LEASE_JITTER_FRACTION") = some value →
    LeaseSettings.jitterFractionBounds.Holds value
  defaultTtlS : ∀ value, rt.readFloat (env "CACHEPILOT_LEASE_DEFAULT_TTL_S") = some value →
    LeaseSettings.defaultTtlBounds.Holds value
  schedulerIntervalS : ∀ value, rt.readFloat (env "CACHEPILOT_LEASE_SCHEDULER_INTERVAL_S") = some value →
    LeaseSettings.schedulerIntervalBounds.Holds value
  budgetRatio : ∀ value, rt.readDecimal (env "CACHEPILOT_ECONOMICS_BUDGET_RATIO") = some value →
    value ≠ .nan ∧ value ≠ .finite 0 ∧ value ≠ .finite 1
  minimumSavings : ∀ value, rt.readDecimal (env "CACHEPILOT_ECONOMICS_MINIMUM_EXPECTED_SAVINGS_USD") = some value →
    value ≠ .nan ∧ value ≠ .infinity
  pricing : HarmlessPricing rt env
  resumeProbability : ∀ value, rt.readDecimal (env "CACHEPILOT_ECONOMICS_RESUME_PROBABILITY") = some value →
    value ≠ .nan ∧ value ≠ .finite 0 ∧ value ≠ .finite 1
  detachedResumeProbability :
    ∀ value, rt.readDecimal (env "CACHEPILOT_ECONOMICS_DETACHED_RESUME_PROBABILITY") = some value →
      value ≠ .nan ∧ value ≠ .finite 0 ∧ value ≠ .finite 1

/-- The same of all variables of the relay. -/
structure HarmlessEnvironment (rt : EnvRuntime) (env : Environment) : Prop extends HarmlessLeaseVariables rt env where
  extraCost : rt.readDecimal (env "CACHEPILOT_ROUTE_AFFINITY_EXTRA_COST_USD") ≠ some .infinity
  safetyMargin : rt.readDecimal (env "CACHEPILOT_ROUTE_AFFINITY_SAFETY_MARGIN_USD") ≠ some .infinity

variable (rt : EnvRuntime) (env : Environment)

/-- The settings are built from what each field admits of its variable. -/
theorem LeaseSettings.fromEnv_eq_some_iff (settings : EnvSettings) :
    fromEnv rt env = some settings ↔
      floatField rt warmFractionBounds (envFloat rt (env "CACHEPILOT_LEASE_WARM_FRACTION") (4 / 5)) =
        some settings.warmFraction ∧
      floatField rt minimumMarginBounds (envFloat rt (env "CACHEPILOT_LEASE_MINIMUM_MARGIN_S") 10) =
        some settings.minimumMarginS ∧
      floatField rt latencyMultiplierBounds (envFloat rt (env "CACHEPILOT_LEASE_LATENCY_MULTIPLIER") 2) =
        some settings.latencyMultiplier ∧
      floatField rt jitterFractionBounds (envFloat rt (env "CACHEPILOT_LEASE_JITTER_FRACTION") (3 / 100)) =
        some settings.jitterFraction ∧
      floatField rt defaultTtlBounds (envFloat rt (env "CACHEPILOT_LEASE_DEFAULT_TTL_S") 300) =
        some settings.defaultTtlS ∧
      floatField rt schedulerIntervalBounds (envFloat rt (env "CACHEPILOT_LEASE_SCHEDULER_INTERVAL_S") 1) =
        some settings.schedulerIntervalS ∧
      optionalFloatField rt ttlForceBounds (envFloatOrNone rt (env "CACHEPILOT_TTL_FORCE_SECONDS")) =
        some settings.ttlForceSeconds ∧
      intField 1 (envInt rt (env "CACHEPILOT_TTL_MINIMUM_SAMPLES") 3) = some settings.ttlMinimumSamples ∧
      (envBounded rt (env "CACHEPILOT_ECONOMICS_BUDGET_RATIO") (7 / 10)
          { minimum := 0, minimumExclusive := true, maximum := some 1 }).bind (decimalField budgetRatioBounds) =
        some settings.economics.budgetRatio ∧
      (envBounded rt (env "CACHEPILOT_ECONOMICS_MINIMUM_EXPECTED_SAVINGS_USD") 0 { minimum := 0 }).bind
          (decimalField minimumSavingsBounds) =
        some settings.economics.minimumExpectedSavings ∧
      pricingFromEnv rt env = some settings.pricing ∧
      (envBounded rt (env "CACHEPILOT_ECONOMICS_RESUME_PROBABILITY") (95 / 100)
          { minimum := 0, maximum := some 1 }).bind (floatField rt probabilityBounds) =
        some settings.resumeProbability ∧
      (envBounded rt (env "CACHEPILOT_ECONOMICS_DETACHED_RESUME_PROBABILITY") (20 / 100)
          { minimum := 0, maximum := some 1 }).bind (floatField rt probabilityBounds) =
        some settings.detachedResumeProbability ∧
      settings.dryRun = envFlag rt (some ((env "CACHEPILOT_LEASE_DRY_RUN").getD "true")) true ∧
      settings.economics.enabled = envFlag rt (some ((env "CACHEPILOT_ECONOMICS_ENABLED").getD "true")) true ∧
      settings.economics.safetyMargin = .finite 0 := by
  constructor
  · intro built
    unfold fromEnv at built
    obtain ⟨_, warmFraction, built⟩ := Option.bind_eq_some_iff.1 built
    obtain ⟨_, minimumMarginS, built⟩ := Option.bind_eq_some_iff.1 built
    obtain ⟨_, latencyMultiplier, built⟩ := Option.bind_eq_some_iff.1 built
    obtain ⟨_, jitterFraction, built⟩ := Option.bind_eq_some_iff.1 built
    obtain ⟨_, defaultTtlS, built⟩ := Option.bind_eq_some_iff.1 built
    obtain ⟨_, schedulerIntervalS, built⟩ := Option.bind_eq_some_iff.1 built
    obtain ⟨_, ttlForceSeconds, built⟩ := Option.bind_eq_some_iff.1 built
    obtain ⟨_, ttlMinimumSamples, built⟩ := Option.bind_eq_some_iff.1 built
    obtain ⟨_, budgetRatio, built⟩ := Option.bind_eq_some_iff.1 built
    obtain ⟨_, minimumSavings, built⟩ := Option.bind_eq_some_iff.1 built
    obtain ⟨_, pricing, built⟩ := Option.bind_eq_some_iff.1 built
    obtain ⟨_, resumeProbability, built⟩ := Option.bind_eq_some_iff.1 built
    obtain ⟨_, detachedResumeProbability, built⟩ := Option.bind_eq_some_iff.1 built
    obtain rfl := Option.some.inj built
    exact ⟨warmFraction, minimumMarginS, latencyMultiplier, jitterFraction, defaultTtlS, schedulerIntervalS,
      ttlForceSeconds, ttlMinimumSamples, budgetRatio, minimumSavings, pricing, resumeProbability,
      detachedResumeProbability, rfl, rfl, rfl⟩
  · obtain ⟨_, _, _, _, _, _, _, _, _, ⟨_, _, _, _⟩, _, _, _⟩ := settings
    rintro ⟨warmFraction, minimumMarginS, latencyMultiplier, jitterFraction, defaultTtlS, schedulerIntervalS,
      ttlForceSeconds, ttlMinimumSamples, budgetRatio, minimumSavings, pricing, resumeProbability,
      detachedResumeProbability, dryRun, enabled, margin⟩
    dsimp only at *
    subst dryRun enabled margin
    rw [fromEnv, warmFraction, minimumMarginS, latencyMultiplier, jitterFraction, defaultTtlS, schedulerIntervalS,
      ttlForceSeconds, ttlMinimumSamples, budgetRatio, minimumSavings, pricing, resumeProbability,
      detachedResumeProbability]
    rfl

/-- The settings are the specified ones exactly when every helper meets its field. -/
theorem LeaseSettings.fromEnv_eq_specified_iff :
    fromEnv rt env = some (specified rt env) ↔ HarmlessLeaseVariables rt env := by
  rw [fromEnv_eq_some_iff]
  dsimp only [specified]
  rw [floatField_envFloat_iff rt _ (show warmFractionBounds.Holds (.finite (4 / 5)) by decide +kernel),
    floatField_envFloat_iff rt _ (show minimumMarginBounds.Holds (.finite 10) by decide +kernel),
    floatField_envFloat_iff rt _ (show latencyMultiplierBounds.Holds (.finite 2) by decide +kernel),
    floatField_envFloat_iff rt _ (show jitterFractionBounds.Holds (.finite (3 / 100)) by decide +kernel),
    floatField_envFloat_iff rt _ (show defaultTtlBounds.Holds (.finite 300) by decide +kernel),
    floatField_envFloat_iff rt _ (show schedulerIntervalBounds.Holds (.finite 1) by decide +kernel),
    budgetRatio_eq_iff, minimumSavings_eq_iff, pricingFromEnv_eq_specified_iff,
    probability_eq_iff rt _ (by norm_num) (by norm_num), probability_eq_iff rt _ (by norm_num) (by norm_num)]
  constructor
  · rintro ⟨warmFraction, minimumMarginS, latencyMultiplier, jitterFraction, defaultTtlS, schedulerIntervalS, -, -,
      budgetRatio, minimumSavings, pricing, resumeProbability, detachedResumeProbability, -⟩
    exact { warmFraction, minimumMarginS, latencyMultiplier, jitterFraction, defaultTtlS, schedulerIntervalS,
            budgetRatio, minimumSavings, pricing, resumeProbability, detachedResumeProbability }
  · intro harmless
    exact ⟨harmless.warmFraction, harmless.minimumMarginS, harmless.latencyMultiplier, harmless.jitterFraction,
      harmless.defaultTtlS, harmless.schedulerIntervalS, optionalFloatField_envFloatOrNone rt _, intField_envInt rt _,
      harmless.budgetRatio, harmless.minimumSavings, harmless.pricing, harmless.resumeProbability,
      harmless.detachedResumeProbability, rfl, rfl, rfl⟩

/-- The addresses in effect pass their checks. -/
def ValidAddresses (listen upstream : Option String) (allowExternalBind : Option Bool) : Prop :=
  ∃ url, RelayConfig.effectiveUpstream env upstream = some url ∧ RelayConfig.validUpstream rt url = true ∧
    RelayConfig.validListen rt (RelayConfig.effectiveAllow rt env allowExternalBind)
      (RelayConfig.effectiveListen env listen) = true

/-- With valid addresses, the relay settings are read and are the specified ones exactly in a harmless
    environment. -/
theorem relay_settings_specified_iff (listen upstream : Option String) (allowExternalBind : Option Bool)
    (valid : ValidAddresses rt env listen upstream allowExternalBind) :
    (∃ config, RelayConfig.fromEnv rt env listen upstream allowExternalBind = some config ∧
      LeaseSettings.fromEnv rt env = some (LeaseSettings.specified rt env) ∧
      config.leaseSettings = LeaseSettings.specified rt env ∧
      config.routeAffinityExtraCostUsd = RelayConfig.affinityBounds.select
        (rt.readDecimal (env "CACHEPILOT_ROUTE_AFFINITY_EXTRA_COST_USD")) 0 ∧
      config.routeAffinitySafetyMarginUsd = RelayConfig.affinityBounds.select
        (rt.readDecimal (env "CACHEPILOT_ROUTE_AFFINITY_SAFETY_MARGIN_USD")) 0) ↔
    HarmlessEnvironment rt env := by
  obtain ⟨url, upstreamSet, goodUpstream, goodListen⟩ := valid
  constructor
  · rintro ⟨config, built, settings, -, extraCost, safetyMargin⟩
    rw [RelayConfig.fromEnv, upstreamSet, settings] at built
    dsimp only [Option.bind_eq_bind, Option.bind_some] at built
    obtain ⟨extra, extraField, built⟩ := Option.bind_eq_some_iff.1 built
    obtain ⟨margin, marginField, built⟩ := Option.bind_eq_some_iff.1 built
    rw [goodUpstream, goodListen, Bool.and_self, if_pos rfl] at built
    obtain rfl := Option.some.inj built
    dsimp only at extraCost safetyMargin
    subst extraCost safetyMargin
    exact ⟨(LeaseSettings.fromEnv_eq_specified_iff rt env).1 settings, (decimalField_envDecimal_iff rt _).1 extraField,
      (decimalField_envDecimal_iff rt _).1 marginField⟩
  · intro harmless
    have settings := (LeaseSettings.fromEnv_eq_specified_iff rt env).2 harmless.toHarmlessLeaseVariables
    rw [RelayConfig.fromEnv, upstreamSet, settings, (decimalField_envDecimal_iff rt _).2 harmless.extraCost,
      (decimalField_envDecimal_iff rt _).2 harmless.safetyMargin]
    dsimp only [Option.bind_eq_bind, Option.bind_some]
    rw [goodUpstream, goodListen, Bool.and_self, if_pos rfl]
    exact ⟨_, rfl, rfl, rfl, rfl, rfl⟩

/-! ### Samples -/

theorem sampleDecimal_blank : sampleNumberText.parseDecimal "" = none := by decide +kernel

/-- The texts of integers and of the special values; one upstream. -/
def sampleRuntime : EnvRuntime where
  strip := fun text => text
  parseFloat := sampleNumberText.parseDecimal
  parseDecimal := sampleNumberText.parseDecimal
  parseInt := readInteger
  isDigit := fun text => (readDigits text.toList).isSome
  urlsplit := fun text => if text = "http://localhost:9000" then some ("http", "localhost:9000") else some ("", "")
  nanPasses := true
  defaultDbPath := "/home/user/.hermes/cachepilot/cachepilot.db"
  parseFloat_blank := sampleDecimal_blank

/-- The upstream and one more variable are set. -/
def sampleEnvironment (name value : String) : Environment := fun key =>
  if key = "CACHEPILOT_UPSTREAM" then some "http://localhost:9000"
  else if key = name then some value
  else none

theorem sampleEnvironment_valid :
    ValidAddresses sampleRuntime (sampleEnvironment "CACHEPILOT_LEASE_WARM_FRACTION" "2") none none none :=
  ⟨"http://localhost:9000", by decide +kernel, by decide +kernel, by decide +kernel⟩

theorem sampleEnvironment_valid_one :
    ValidAddresses sampleRuntime (sampleEnvironment "CACHEPILOT_LEASE_WARM_FRACTION" "1") none none none :=
  ⟨"http://localhost:9000", by decide +kernel, by decide +kernel, by decide +kernel⟩

/-- A warm fraction of one is harmless, also at the bound of its field. -/
theorem harmless_sampleEnvironment :
    HarmlessEnvironment sampleRuntime (sampleEnvironment "CACHEPILOT_LEASE_WARM_FRACTION" "1") := by
  have fraction : ∀ value, sampleRuntime.readFloat
      (sampleEnvironment "CACHEPILOT_LEASE_WARM_FRACTION" "1" "CACHEPILOT_LEASE_WARM_FRACTION") = some value →
        LeaseSettings.warmFractionBounds.Holds value := by
    have one : sampleRuntime.readFloat
        (sampleEnvironment "CACHEPILOT_LEASE_WARM_FRACTION" "1" "CACHEPILOT_LEASE_WARM_FRACTION") =
          some (.finite 1) := by
      decide +kernel
    intro value read
    cases one.symm.trans read
    decide +kernel
  have floats : ∀ name ∈ ["CACHEPILOT_LEASE_MINIMUM_MARGIN_S", "CACHEPILOT_LEASE_LATENCY_MULTIPLIER",
      "CACHEPILOT_LEASE_JITTER_FRACTION", "CACHEPILOT_LEASE_DEFAULT_TTL_S", "CACHEPILOT_LEASE_SCHEDULER_INTERVAL_S"],
      sampleRuntime.readFloat (sampleEnvironment "CACHEPILOT_LEASE_WARM_FRACTION" "1" name) = none := by
    decide +kernel
  have decimals : ∀ name ∈ ["CACHEPILOT_ECONOMICS_BUDGET_RATIO", "CACHEPILOT_ECONOMICS_MINIMUM_EXPECTED_SAVINGS_USD",
      "CACHEPILOT_ECONOMICS_RESUME_PROBABILITY", "CACHEPILOT_ECONOMICS_DETACHED_RESUME_PROBABILITY",
      "CACHEPILOT_ROUTE_AFFINITY_EXTRA_COST_USD", "CACHEPILOT_ROUTE_AFFINITY_SAFETY_MARGIN_USD"],
      sampleRuntime.readDecimal (sampleEnvironment "CACHEPILOT_LEASE_WARM_FRACTION" "1" name) = none := by
    decide +kernel
  have unpriced : ∃ name ∈ pricingVariables,
      sampleEnvironment "CACHEPILOT_LEASE_WARM_FRACTION" "1" name = none := by
    decide +kernel
  have absent : ∀ {read : Option JsonFloat} {P : JsonFloat → Prop}, read = none →
      ∀ value, read = some value → P value := by
    rintro _ _ rfl value ⟨⟩
  exact
    { warmFraction := fraction
      minimumMarginS := absent (floats _ (by simp))
      latencyMultiplier := absent (floats _ (by simp))
      jitterFraction := absent (floats _ (by simp))
      defaultTtlS := absent (floats _ (by simp))
      schedulerIntervalS := absent (floats _ (by simp))
      budgetRatio := absent (decimals _ (by simp))
      minimumSavings := absent (decimals _ (by simp))
      pricing := Or.inl unpriced
      resumeProbability := absent (decimals _ (by simp))
      detachedResumeProbability := absent (decimals _ (by simp))
      extraCost := fun read => absurd (read.symm.trans (decimals _ (by simp))) (Option.some_ne_none _)
      safetyMargin := fun read => absurd (read.symm.trans (decimals _ (by simp))) (Option.some_ne_none _) }

/-- A warm fraction above one is no harmless variable: the relay does not start. With one of one it starts with that. -/
theorem relay_settings_specified_sample :
    ¬HarmlessEnvironment sampleRuntime (sampleEnvironment "CACHEPILOT_LEASE_WARM_FRACTION" "2") ∧
    ∃ config, RelayConfig.fromEnv sampleRuntime (sampleEnvironment "CACHEPILOT_LEASE_WARM_FRACTION" "1") none none
        none = some config ∧
      config.leaseSettings =
        LeaseSettings.specified sampleRuntime (sampleEnvironment "CACHEPILOT_LEASE_WARM_FRACTION" "1") ∧
      config.leaseSettings.warmFraction = .finite 1 := by
  have raises : RelayConfig.fromEnv sampleRuntime (sampleEnvironment "CACHEPILOT_LEASE_WARM_FRACTION" "2")
      none none none = none := by
    decide +kernel
  constructor
  · rw [← relay_settings_specified_iff sampleRuntime _ none none none sampleEnvironment_valid]
    rintro ⟨config, built, -⟩
    exact absurd (raises.symm.trans built) (Option.some_ne_none config).symm
  · obtain ⟨config, built, -, specified, -, -⟩ :=
      (relay_settings_specified_iff sampleRuntime _ none none none sampleEnvironment_valid_one).2
        harmless_sampleEnvironment
    refine ⟨config, built, specified, ?_⟩
    rw [specified]
    decide +kernel

/-- Out of its bounds a float variable raises, and so does a budget ratio of zero; a budget ratio of one, which the
    field admits, is discarded. -/
theorem bad_variable_breaks_relay :
    ValidAddresses sampleRuntime (sampleEnvironment "CACHEPILOT_LEASE_WARM_FRACTION" "2") none none none ∧
    LeaseSettings.fromEnv sampleRuntime (sampleEnvironment "CACHEPILOT_LEASE_WARM_FRACTION" "2") = none ∧
    LeaseSettings.fromEnv sampleRuntime (sampleEnvironment "CACHEPILOT_ECONOMICS_BUDGET_RATIO" "0") = none ∧
    (LeaseSettings.fromEnv sampleRuntime (sampleEnvironment "CACHEPILOT_ECONOMICS_BUDGET_RATIO" "1")).map
      (fun settings => settings.economics.budgetRatio) = some (.finite (7 / 10)) ∧
    LeaseSettings.budgetRatioBounds.Holds (.finite 1) :=
  ⟨sampleEnvironment_valid, by decide +kernel, by decide +kernel, by decide +kernel, by decide +kernel⟩

/-- A variable that is not read changes nothing. -/
example :
    (RelayConfig.fromEnv sampleRuntime (sampleEnvironment "CACHEPILOT_OTHER" "2") none none none).isSome = true := by
  decide +kernel

end CachePilot
