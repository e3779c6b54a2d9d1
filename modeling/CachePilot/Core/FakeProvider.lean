/-
Module: CachePilot.Core.FakeProvider
Layer: Core
Purpose: The deterministic fake provider: a prefix cache that maps a cache fingerprint to the time at which its
  entry expires, filled by every miss and, if so configured, extended by every hit. The seeded generator and
  the number taken from a digest are parameters. So is the pricing, which a completion does not read.
Trusted boundary: the reading of fake_provider.py; the seeded generator is a parameter
Main exports: FakeProviderConfig, FakeProvider, FakeProvider.isCached, FakeProvider.complete,
  FakeProviderResult.costOf, FakeProviderConfig.resumeCosts, FakeProviderResult.responsePayload
-/
import Mathlib.Algebra.Order.Ring.Rat
import CachePilot.Core.Economics
import CachePilot.Core.Identity

namespace CachePilot

/-- Configuration of the fake provider. The number of completion tokens is fixed, or comes from a range whose
    bounds differ: a completion over an empty range raises. -/
structure FakeProviderConfig where
  provider : String := "fake-provider"
  route : String := "fake-route-1"
  deployment : String := "edge-fake-1"
  ttlS : ℚ := 300
  prefixTokens : ℕ := 4000
  latencyBaseMs : ℚ := 100
  latencyJitterMs : ℚ := 50
  refreshOnHit : Bool := false
  completionTokens : Option ℕ := none
  completionMin : ℕ := 50
  completionMax : ℕ := 500
  ttlS_pos : 0 < ttlS := by decide +kernel
  prefixTokens_pos : 1 ≤ prefixTokens := by decide
  completionMin_pos : 1 ≤ completionMin := by decide
  completionRange : completionTokens.isSome = true ∨ completionMin ≠ completionMax := by decide

theorem FakeProviderConfig.standardTtl_pos : (0 : ℚ) < 300 := by decide +kernel

/-- The configuration with every field at its default. -/
def FakeProviderConfig.standard : FakeProviderConfig where
  ttlS_pos := standardTtl_pos

/-- The generator's draws, between zero and one, and the number in the first four bytes of a digest. -/
structure FakeRandomness where
  uniform : ℕ → ℚ
  digestPrefix : String → ℕ

/-- Outcome of one fake completion. -/
structure FakeProviderResult where
  cacheFingerprint : String
  requestFingerprint : String
  provider : String
  model : String
  usage : TokenUsage
  latencyMs : ℚ
  route : String
  deployment : String
  cacheHit : Bool
  expiresAt : Option ℚ

/-- The state of the simulator: when each entry expires, and how often the generator was asked. -/
structure FakeProvider where
  cache : Dict String ℚ := ∅
  draws : ℕ := 0

namespace FakeProvider

/-- The request's cache fingerprint is unexpired. -/
def isCached (prims : TextPrimitives) (p : FakeProvider) (request : CanonicalRequest) (now : ℚ) :
    Bool :=
  (p.cache.get? (CachePilot.cacheFingerprint prims request)).any fun expiresAt => now < expiresAt

/-- The fixed number of completion tokens, or one derived from the request fingerprint. -/
def completionTokens (random : FakeRandomness) (config : FakeProviderConfig)
    (requestFingerprint : String) : ℕ :=
  match config.completionTokens with
  | some tokens => tokens
  | none =>
      let span : ℤ := (config.completionMax : ℤ) - config.completionMin
      (config.completionMin + (random.digestPrefix requestFingerprint : ℤ).fmod span).toNat

/-- Simulate one completion: serve the prefix from an unexpired entry, else write it. -/
def complete (prims : TextPrimitives) (random : FakeRandomness) (config : FakeProviderConfig)
    (p : FakeProvider) (request : CanonicalRequest) (now : ℚ) : FakeProvider × FakeProviderResult :=
  let cacheFp := CachePilot.cacheFingerprint prims request
  let requestFp := CachePilot.requestFingerprint prims request
  let hit := p.isCached prims request now
  let latencyMs := config.latencyBaseMs + config.latencyJitterMs * random.uniform p.draws
  let completion := completionTokens random config requestFp
  let usage : TokenUsage :=
    if hit then
      { promptTokens := config.prefixTokens
        completionTokens := completion
        cacheReadTokens := config.prefixTokens }
    else
      { promptTokens := config.prefixTokens
        completionTokens := completion
        cacheWriteTokens := config.prefixTokens }
  -- A hit keeps the entry's expiry unless the provider extends it.
  let cache :=
    if hit && !config.refreshOnHit then p.cache else p.cache.set cacheFp (now + config.ttlS)
  ({ cache, draws := p.draws + 1 },
    { cacheFingerprint := cacheFp
      requestFingerprint := requestFp
      provider := config.provider
      model := request.model
      usage
      latencyMs
      route := config.route
      deployment := config.deployment
      cacheHit := hit
      expiresAt := cache.get? cacheFp })

end FakeProvider

/-- Estimated cost of a completion under the configured pricing. -/
def FakeProviderResult.costOf (pricing : PricingTable) (result : FakeProviderResult) : ℚ :=
  estimateCost result.usage pricing

/-- The cold and the cached resume cost of the simulated prefix. -/
def FakeProviderConfig.resumeCosts (config : FakeProviderConfig) (pricing : PricingTable)
    (completionTokens : ℕ := 0) : ℚ × ℚ :=
  estimateResumeCosts config.prefixTokens pricing completionTokens

/-- The body of the response that carries a result. The usage follows the OpenAI dialect. -/
def FakeProviderResult.responsePayload (result : FakeProviderResult) : List (String × Json) :=
  [("id", .str ("fake-" ++ String.ofList (result.requestFingerprint.toList.take 12))),
    ("object", .str "chat.completion"),
    ("model", .str result.model),
    ("choices", .arr [.obj [("index", .int 0),
      ("message", .obj [("role", .str "assistant"), ("content", .str "fake completion")]),
      ("finish_reason", .str "stop")]]),
    ("usage", .obj [("prompt_tokens", .int result.usage.promptTokens),
      ("completion_tokens", .int result.usage.completionTokens),
      ("prompt_tokens_details", .obj [("cached_tokens", .int result.usage.cacheReadTokens)]),
      ("cache_creation_input_tokens", .int result.usage.cacheWriteTokens)])]

end CachePilot
