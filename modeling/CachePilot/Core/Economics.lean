/-
Module: CachePilot.Core.Economics
Layer: Core
Purpose: Cost estimation, cost resolution and the economic controller. Amounts are exact rationals. The
  bounds that the configuration models check on construction are fields of the structures, so a
  price below zero or a budget ratio outside (0, 1] cannot be built.
Trusted boundary: the reading of economics.py and pricing.py, with exact decimals
Main exports: PricingTable, estimateCost, estimateResumeCosts, CostResolution, resolveCost,
  EconomicConfig, WarmDecision, evaluate, evaluate_warm_budget
-/
import Mathlib.Algebra.Order.Field.Rat
import Mathlib.Tactic.Linarith
import Mathlib.Tactic.Ring
import CachePilot.Core.Telemetry

namespace CachePilot

/-! ### Pricing -/

/-- Price per million tokens for a route and model. -/
structure PricingTable where
  inputPerMtok : ℚ
  outputPerMtok : ℚ
  cacheReadPerMtok : ℚ
  cacheWritePerMtok : ℚ
  inputPerMtok_nonneg : 0 ≤ inputPerMtok := by decide +kernel
  outputPerMtok_nonneg : 0 ≤ outputPerMtok := by decide +kernel
  cacheReadPerMtok_nonneg : 0 ≤ cacheReadPerMtok := by decide +kernel
  cacheWritePerMtok_nonneg : 0 ≤ cacheWritePerMtok := by decide +kernel

/-- Tokens that one unit of a price table pays for. -/
def perMtk : ℚ := 1000000

/-- Estimate the cost of a request from its token usage. Uncached input is what the prompt holds
    beyond the read and the written portion, floored at zero as natural subtraction is. -/
def estimateCost (usage : TokenUsage) (pricing : PricingTable) : ℚ :=
  let uncached := usage.promptTokens - usage.cacheReadTokens - usage.cacheWriteTokens
  let raw :=
    uncached * pricing.inputPerMtok
      + usage.cacheReadTokens * pricing.cacheReadPerMtok
      + usage.cacheWriteTokens * pricing.cacheWritePerMtok
      + usage.completionTokens * pricing.outputPerMtok
  raw / perMtk

/-- Cold and cached resume cost of a prefix. The cold side is priced at the cache-write rate when the
    provider publishes one, and at the plain input rate otherwise. -/
def estimateResumeCosts (prefixTokens : ℕ) (pricing : PricingTable) (completionTokens : ℕ := 0) :
    ℚ × ℚ :=
  let cold : TokenUsage :=
    if 0 < pricing.cacheWritePerMtok then
      { promptTokens := prefixTokens, completionTokens, cacheWriteTokens := prefixTokens }
    else
      { promptTokens := prefixTokens, completionTokens }
  let cached : TokenUsage :=
    { promptTokens := prefixTokens, completionTokens, cacheReadTokens := prefixTokens }
  (estimateCost cold pricing, estimateCost cached pricing)

/-- Where a resolved cost comes from. -/
inductive CostSource where
  | providerReturned
  | livePricing
  | configOverride
  | unknown
deriving DecidableEq, Repr

/-- Result of resolving a request's cost. -/
structure CostResolution where
  amount : Option ℚ
  source : CostSource
deriving DecidableEq

def CostResolution.isKnown (r : CostResolution) : Bool :=
  r.amount.isSome && r.source != .unknown

/-- Provider-returned usage, then live pricing, then the configured override. -/
def CostResolver.resolve (usage : TokenUsage) (pricing : Option PricingTable)
    (override : Option ℚ) : CostResolution :=
  match usage.cost, pricing, override with
  | some cost, _, _ => { amount := some cost, source := .providerReturned }
  | none, some table, _ => { amount := some (estimateCost usage table), source := .livePricing }
  | none, none, some price => { amount := some price, source := .configOverride }
  | none, none, none => { amount := none, source := .unknown }

/-! ### The economic controller -/

/-- Verdict of one warm evaluation. -/
inductive WarmAction where
  | warm
  | economicStop
  | skipUnknownPricing
  | skipNoContinuation
  | skipNotEconomic
deriving DecidableEq, Repr

/-- Tunables of the economic controller. -/
structure EconomicConfig where
  enabled : Bool := true
  budgetRatio : ℚ := 7 / 10
  safetyMargin : ℚ := 0
  minimumExpectedSavings : ℚ := 0
  budgetRatio_pos : 0 < budgetRatio := by decide +kernel
  budgetRatio_le_one : budgetRatio ≤ 1 := by decide +kernel
  safetyMargin_nonneg : 0 ≤ safetyMargin := by decide +kernel
  minimumExpectedSavings_nonneg : 0 ≤ minimumExpectedSavings := by decide +kernel

/-- The controller with every tunable at its default. -/
def EconomicConfig.standard : EconomicConfig := {}

/-- Explainable outcome of one warm evaluation. -/
structure WarmDecision where
  action : WarmAction
  reason : String
  resumeProbability : ℚ
  expectedAvoidableLoss : ℚ
  expectedValue : ℚ
  nextWarmCost : ℚ
  cumulativeWarmCost : ℚ
  maxWarmBudget : ℚ
  remainingBudget : ℚ
  safetyMargin : ℚ
deriving DecidableEq

def WarmDecision.shouldWarm (d : WarmDecision) : Bool := d.action == .warm

/-- What the controller is asked about one lease. -/
structure EconomicInputs where
  coldResumeCost : ℚ
  cachedResumeCost : ℚ
  nextWarmCost : ℚ
  cumulativeWarmCost : ℚ
  resumeProbability : ℚ
  pricingKnown : Bool := true

namespace EconomicController

/-- The record of a verdict, with the budget it was judged against. -/
def decision (config : EconomicConfig) (inputs : EconomicInputs) (action : WarmAction)
    (reason : String) (avoidable expected : ℚ) : WarmDecision :=
  let maxBudget := expected * config.budgetRatio
  { action, reason
    resumeProbability := inputs.resumeProbability
    expectedAvoidableLoss := avoidable
    expectedValue := expected
    nextWarmCost := inputs.nextWarmCost
    cumulativeWarmCost := inputs.cumulativeWarmCost
    maxWarmBudget := maxBudget
    remainingBudget := maxBudget - inputs.cumulativeWarmCost
    safetyMargin := config.safetyMargin }

/-- Evaluate one warm decision for a lease. -/
def evaluate (config : EconomicConfig) (inputs : EconomicInputs) : WarmDecision :=
  if !inputs.pricingKnown then
    decision config inputs .skipUnknownPricing
      "pricing unknown — never claim savings with incomplete cost data" 0 0
  else if inputs.resumeProbability ≤ 0 then
    decision config inputs .skipNoContinuation "zero continuation probability — never warm" 0 0
  else
    let avoidable := inputs.coldResumeCost - inputs.cachedResumeCost
    if avoidable ≤ 0 then
      decision config inputs .skipNotEconomic
        "no avoidable loss (cold resume not more expensive than cached resume)" avoidable 0
    else
      let expected := inputs.resumeProbability * avoidable
      let maxBudget := expected * config.budgetRatio
      let remaining := maxBudget - inputs.cumulativeWarmCost
      if expected ≤ inputs.nextWarmCost + config.safetyMargin then
        decision config inputs .skipNotEconomic
          "expected avoidable loss does not cover next warm cost + safety margin"
          avoidable expected
      else if inputs.nextWarmCost ≥ remaining then
        decision config inputs .economicStop
          "cumulative warm cost exhausted the warm budget — let the cache expire"
          avoidable expected
      else
        let netSavings := expected - (inputs.cumulativeWarmCost + inputs.nextWarmCost)
        if netSavings < config.minimumExpectedSavings then
          decision config inputs .skipNotEconomic "expected net savings below minimum"
            avoidable expected
        else
          decision config inputs .warm "due_and_economically_positive" avoidable expected

@[simp] theorem decision_action (config : EconomicConfig) (inputs : EconomicInputs)
    (action : WarmAction) (reason : String) (avoidable expected : ℚ) :
    (decision config inputs action reason avoidable expected).action = action := rfl

/-- The controller says WARM exactly when every one of its conditions holds. -/
theorem evaluate_shouldWarm_iff (config : EconomicConfig) (inputs : EconomicInputs) :
    (evaluate config inputs).shouldWarm = true ↔
      inputs.pricingKnown = true ∧ 0 < inputs.resumeProbability ∧
      inputs.cachedResumeCost < inputs.coldResumeCost ∧
      inputs.nextWarmCost + config.safetyMargin <
        inputs.resumeProbability * (inputs.coldResumeCost - inputs.cachedResumeCost) ∧
      inputs.nextWarmCost <
        inputs.resumeProbability * (inputs.coldResumeCost - inputs.cachedResumeCost)
          * config.budgetRatio - inputs.cumulativeWarmCost ∧
      config.minimumExpectedSavings ≤
        inputs.resumeProbability * (inputs.coldResumeCost - inputs.cachedResumeCost)
          - (inputs.cumulativeWarmCost + inputs.nextWarmCost) := by
  unfold evaluate WarmDecision.shouldWarm
  by_cases pricing : inputs.pricingKnown = true
  · by_cases probability : inputs.resumeProbability ≤ 0
    · simp [pricing, probability, not_lt.2 probability]
    · by_cases loss : inputs.coldResumeCost - inputs.cachedResumeCost ≤ 0
      · have noLoss : ¬ inputs.cachedResumeCost < inputs.coldResumeCost :=
          not_lt.2 (sub_nonpos.1 loss)
        simp [pricing, probability, loss, noLoss]
      · have someLoss : inputs.cachedResumeCost < inputs.coldResumeCost :=
          lt_of_not_ge fun le => loss (sub_nonpos.2 le)
        simp only [pricing, Bool.not_true, Bool.false_eq_true, if_false, probability, loss,
          not_le.1 probability, someLoss, true_and]
        split
        · rename_i uncovered
          simp [not_lt.2 uncovered]
        · rename_i covered
          split
          · rename_i exhausted
            simp [not_lt.2 exhausted]
          · rename_i fits
            split
            · rename_i below
              simp [not_le.2 below]
            · rename_i enough
              simp [not_le.1 covered, not_le.1 fits, not_lt.1 enough]
  · simp [pricing]

/-- A warm verdict leaves room for the next warm in the budget. -/
theorem evaluate_warm_budget {config : EconomicConfig} {inputs : EconomicInputs}
    (warm : (evaluate config inputs).shouldWarm = true) :
    inputs.cumulativeWarmCost + inputs.nextWarmCost <
      config.budgetRatio * inputs.resumeProbability *
        (inputs.coldResumeCost - inputs.cachedResumeCost) := by
  have fits := ((evaluate_shouldWarm_iff config inputs).1 warm).2.2.2.2.1
  calc inputs.cumulativeWarmCost + inputs.nextWarmCost
      < inputs.resumeProbability * (inputs.coldResumeCost - inputs.cachedResumeCost)
          * config.budgetRatio := by linarith
    _ = config.budgetRatio * inputs.resumeProbability *
          (inputs.coldResumeCost - inputs.cachedResumeCost) := by ring

end EconomicController

end CachePilot
