/-
Module: CachePilot.Proofs.WarmDecisions
Layer: Proofs
Purpose: The verdict of the economic controller. A warm is decided exactly when every guard of the evaluation is
  passed, with the comparisons strict or not as the guards have them. A verdict stays WARM when the request gets
  cheaper or the loss it avoids larger, and the budget that a verdict records is the one it was judged against.
Trusted boundary: none
Main exports: EconomicInputs.expectedLoss, Improves, evaluate_warm_iff, warm_of_improves, evaluate_recorded_budget,
  economic_decision_characterised
-/
import CachePilot.Core.Economics

namespace CachePilot

/-- What is lost without a warm, weighted with the probability that the target resumes. -/
def EconomicInputs.expectedLoss (inputs : EconomicInputs) : ℚ :=
  inputs.resumeProbability * (inputs.coldResumeCost - inputs.cachedResumeCost)

namespace EconomicController

/-- Every guard of the evaluation is passed. -/
structure Economic (config : EconomicConfig) (inputs : EconomicInputs) : Prop where
  pricing : inputs.pricingKnown = true
  continuation : 0 < inputs.resumeProbability
  loss : inputs.cachedResumeCost < inputs.coldResumeCost
  covered : inputs.nextWarmCost + config.safetyMargin < inputs.expectedLoss
  budget : inputs.nextWarmCost < config.budgetRatio * inputs.expectedLoss - inputs.cumulativeWarmCost
  savings : config.minimumExpectedSavings ≤
    inputs.expectedLoss - inputs.cumulativeWarmCost - inputs.nextWarmCost

theorem shouldWarm_iff_action (d : WarmDecision) : d.shouldWarm = true ↔ d.action = .warm := by
  unfold WarmDecision.shouldWarm
  exact beq_iff_eq

theorem evaluate_warm_iff (config : EconomicConfig) (inputs : EconomicInputs) :
    (evaluate config inputs).action = .warm ↔ Economic config inputs := by
  rw [← shouldWarm_iff_action, evaluate_shouldWarm_iff, mul_comm _ config.budgetRatio, ← sub_sub]
  constructor
  · rintro ⟨pricing, continuation, loss, covered, budget, savings⟩
    exact ⟨pricing, continuation, loss, covered, budget, savings⟩
  · rintro ⟨pricing, continuation, loss, covered, budget, savings⟩
    exact ⟨pricing, continuation, loss, covered, budget, savings⟩

/-- The second request is at least as good as the first: no cost of warming is higher, and neither the probability,
    nor the avoidable loss, nor the share of it that may be spent is lower. -/
structure Improves (config config' : EconomicConfig) (inputs inputs' : EconomicInputs) : Prop where
  pricing : inputs'.pricingKnown = inputs.pricingKnown
  margin : config'.safetyMargin = config.safetyMargin
  minimum : config'.minimumExpectedSavings = config.minimumExpectedSavings
  next : inputs'.nextWarmCost ≤ inputs.nextWarmCost
  cumulative : inputs'.cumulativeWarmCost ≤ inputs.cumulativeWarmCost
  probability : inputs.resumeProbability ≤ inputs'.resumeProbability
  loss : inputs.coldResumeCost - inputs.cachedResumeCost ≤ inputs'.coldResumeCost - inputs'.cachedResumeCost
  ratio : config.budgetRatio ≤ config'.budgetRatio

variable {config config' : EconomicConfig} {inputs inputs' : EconomicInputs}

theorem Economic.expectedLoss_pos (economic : Economic config inputs) : 0 < inputs.expectedLoss :=
  mul_pos economic.continuation (sub_pos.2 economic.loss)

/-- The expected loss grows with the probability and with the loss. -/
theorem Improves.expectedLoss_le (improves : Improves config config' inputs inputs')
    (economic : Economic config inputs) : inputs.expectedLoss ≤ inputs'.expectedLoss := by
  have loss : 0 ≤ inputs.coldResumeCost - inputs.cachedResumeCost := (sub_pos.2 economic.loss).le
  have probability : 0 ≤ inputs'.resumeProbability := economic.continuation.le.trans improves.probability
  calc inputs.expectedLoss
      ≤ inputs'.resumeProbability * (inputs.coldResumeCost - inputs.cachedResumeCost) :=
        mul_le_mul_of_nonneg_right improves.probability loss
    _ ≤ inputs'.expectedLoss := mul_le_mul_of_nonneg_left improves.loss probability

/-- So does what may be spent of it. -/
theorem Improves.budget_le (improves : Improves config config' inputs inputs')
    (economic : Economic config inputs) :
    config.budgetRatio * inputs.expectedLoss ≤ config'.budgetRatio * inputs'.expectedLoss := by
  have ratio : 0 ≤ config'.budgetRatio := config'.budgetRatio_pos.le
  calc config.budgetRatio * inputs.expectedLoss
      ≤ config'.budgetRatio * inputs.expectedLoss :=
        mul_le_mul_of_nonneg_right improves.ratio economic.expectedLoss_pos.le
    _ ≤ config'.budgetRatio * inputs'.expectedLoss :=
        mul_le_mul_of_nonneg_left (improves.expectedLoss_le economic) ratio

theorem Improves.economic (improves : Improves config config' inputs inputs')
    (economic : Economic config inputs) : Economic config' inputs' := by
  have expected := improves.expectedLoss_le economic
  have budget := improves.budget_le economic
  have next := improves.next
  have cumulative := improves.cumulative
  refine ⟨?_, ?_, ?_, ?_, ?_, ?_⟩
  · rw [improves.pricing]
    exact economic.pricing
  · exact economic.continuation.trans_le improves.probability
  · exact sub_pos.1 ((sub_pos.2 economic.loss).trans_le improves.loss)
  · rw [improves.margin]
    linarith [economic.covered]
  · linarith [economic.budget]
  · rw [improves.minimum]
    linarith [economic.savings]

/-- What a WARM or an ECONOMIC_STOP verdict records as its budget. -/
structure RecordsBudget (config : EconomicConfig) (inputs : EconomicInputs) (d : WarmDecision) : Prop where
  maxBudget : d.maxWarmBudget = config.budgetRatio * inputs.expectedLoss
  remaining : d.remainingBudget = config.budgetRatio * inputs.expectedLoss - inputs.cumulativeWarmCost
  warm : d.action = .warm → inputs.nextWarmCost < d.remainingBudget
  stop : d.action = .economicStop → d.remainingBudget ≤ inputs.nextWarmCost

/-- A verdict that is judged against the budget records the budget it was judged against. -/
theorem evaluate_recorded_budget (config : EconomicConfig) (inputs : EconomicInputs)
    (judged : (evaluate config inputs).action = .warm ∨ (evaluate config inputs).action = .economicStop) :
    RecordsBudget config inputs (evaluate config inputs) := by
  have recorded (action : WarmAction) (reason : String) :
      (decision config inputs action reason (inputs.coldResumeCost - inputs.cachedResumeCost)
          inputs.expectedLoss).remainingBudget =
        config.budgetRatio * inputs.expectedLoss - inputs.cumulativeWarmCost := by
    simp [decision, mul_comm]
  revert judged
  unfold evaluate
  dsimp only
  rw [← EconomicInputs.expectedLoss, mul_comm inputs.expectedLoss]
  split
  · simp
  split
  · simp
  split
  · simp
  split
  · simp
  split
  · rename_i exhausted
    intro judged
    refine ⟨mul_comm _ _, recorded _ _, by simp, ?_⟩
    rw [recorded]
    exact fun _ => exhausted
  · rename_i fits
    split
    · simp
    · intro judged
      refine ⟨mul_comm _ _, recorded _ _, ?_, by simp⟩
      rw [recorded]
      exact fun _ => not_le.1 fits

/-- The controller warms exactly when every guard is passed; a better request is warmed too; and the budgets that a
    verdict for or against the budget records are the ones it was judged against. -/
theorem economic_decision_characterised (config : EconomicConfig) (inputs : EconomicInputs) :
    ((evaluate config inputs).action = .warm ↔ Economic config inputs) ∧
      (∀ config' inputs', Improves config config' inputs inputs' →
        (evaluate config inputs).action = .warm → (evaluate config' inputs').action = .warm) ∧
      ((evaluate config inputs).action = .warm ∨ (evaluate config inputs).action = .economicStop →
        RecordsBudget config inputs (evaluate config inputs)) := by
  refine ⟨evaluate_warm_iff config inputs, ?_, evaluate_recorded_budget config inputs⟩
  intro config' inputs' improves warm
  rw [evaluate_warm_iff] at warm ⊢
  exact improves.economic warm

/-- Seven tenths of an expected loss of ten are seven: a warm of exactly that stops, a cheaper one goes on. -/
example :
    (evaluate EconomicConfig.standard
      { coldResumeCost := 12, cachedResumeCost := 2, nextWarmCost := 7, cumulativeWarmCost := 0
        resumeProbability := 1 }).action = .economicStop ∧
    (evaluate EconomicConfig.standard
      { coldResumeCost := 12, cachedResumeCost := 2, nextWarmCost := 6, cumulativeWarmCost := 0
        resumeProbability := 1 }).action = .warm := by
  decide +kernel

end EconomicController

end CachePilot
