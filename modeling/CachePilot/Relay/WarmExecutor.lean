/-
Module: CachePilot.Relay.WarmExecutor
Layer: Relay
Purpose: The executor of warms. It reads the response to a bounded request with the adapter: the usage, the outcome and
  the cost; an exception of the normaliser leaves the executor. What comes back where nothing is sent or the transport
  fails has no usage and is given with the step that ends the warm. Log lines are left out.
Trusted boundary: the reading of warm_executor.py and of the adapter; how texts read as numbers is a parameter
Main exports: OpenAICompatibleAdapter.parseUsage, OpenAICompatibleAdapter.classifyCacheResult,
  HttpWarmExecutor.readResponse
-/
import CachePilot.Core.Scheduler
import CachePilot.Core.Usage

namespace CachePilot

namespace OpenAICompatibleAdapter

/-- The usage of a response whose body is an object, and otherwise nothing or the body. -/
def usageField (payload : Option (List (String × Json))) : Json :=
  match payload with
  | some members => (getMember members "usage").getD (.obj members)
  | none => .null

/-- Normalise the usage of a response. -/
def parseUsage (text : NumberText) (payload : Option (List (String × Json))) : Option TokenUsage :=
  UsageNormalizer.normalize text (usageField payload) (some "openai")

/-- Honest outcome classification. -/
def classifyCacheResult (statusCode : ℕ) (usage : TokenUsage) (payload : Option (List (String × Json))) : Outcome :=
  classifyOutcome statusCode (usageHasCacheTelemetry (usageField payload)) usage.cacheReadTokens

end OpenAICompatibleAdapter

namespace HttpWarmExecutor

/-- The cost of a warm: what the provider returned, else an estimate with the configured prices, else zero. -/
def resolveCost (pricing : Option PricingTable) (usage : TokenUsage) : ℚ :=
  match usage.cost, pricing with
  | some cost, _ => cost
  | none, some pricing => estimateCost usage pricing
  | none, none => 0

/-- What is made of a response. -/
def readResponse (text : NumberText) (pricing : Option PricingTable) (statusCode : ℕ)
    (payload : Option (List (String × Json))) : ExecuteResult :=
  match OpenAICompatibleAdapter.parseUsage text payload with
  | none => .raised
  | some usage =>
      .returned
        { outcome := some (OpenAICompatibleAdapter.classifyCacheResult statusCode usage payload)
          usage
          costUsd := resolveCost pricing usage }

end HttpWarmExecutor

end CachePilot
