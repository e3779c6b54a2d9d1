/-
Module: CachePilot.Core.Telemetry
Layer: Core
Purpose: The values that travel between the provider, the warm executor and the lease manager: cache
  outcomes, normalised token usage, JSON bodies, memory-only request snapshots and warm results.
  Token counts are natural numbers, which is the validator of `TokenUsage` as a type; money and times
  are rationals.
Trusted boundary: the reading of telemetry.py, usage.py, snapshots.py and adapters.py, with exact numbers
Main exports: Outcome, TokenUsage, Json, RequestSnapshot, SnapshotStore, WarmResult
-/
import Mathlib.Data.Rat.Defs
import CachePilot.Lib.Dict

namespace CachePilot

/-- Cache outcome classification. -/
inductive Outcome where
  | confirmedHit
  | missRebuilt
  | successUnverified
  | failed
deriving DecidableEq, Repr, Inhabited

/-- The two outcomes that are evidence about the cache entry itself. -/
def Outcome.isVerified : Outcome → Bool
  | .confirmedHit | .missRebuilt => true
  | .successUnverified | .failed => false

/-- Classify one observed request and its response: every status outside 200 to 299 failed, and a success
    is confirmed, rebuilt or unverified by the cache telemetry it carries. -/
def classifyOutcome (statusCode : ℕ) (telemetryPresent : Bool) (cacheReadTokens : ℕ) : Outcome :=
  if ¬ (200 ≤ statusCode ∧ statusCode < 300) then .failed
  else if telemetryPresent then
    if 0 < cacheReadTokens then .confirmedHit else .missRebuilt
  else .successUnverified

/-- Canonical, provider-agnostic token usage. -/
structure TokenUsage where
  promptTokens : ℕ := 0
  completionTokens : ℕ := 0
  cacheReadTokens : ℕ := 0
  cacheWriteTokens : ℕ := 0
  cost : Option ℚ := none
deriving DecidableEq

/-- A JSON number that was not written as an integer. -/
inductive JsonFloat where
  | finite (value : ℚ)
  | infinity
  | negInfinity
  | nan
deriving DecidableEq

/-- Parsed JSON, with object members in document order. -/
inductive Json where
  | null
  | bool (value : Bool)
  | int (value : ℤ)
  | float (value : JsonFloat)
  | str (value : String)
  | arr (items : List Json)
  | obj (members : List (String × Json))

/-- One in-memory snapshot of a cache-producing request. -/
structure RequestSnapshot where
  cacheFingerprint : String
  body : List (String × Json)
  upstreamUrl : String
  replayHeaders : List (String × String) := []
  storedAt : ℚ

/-- Memory-only request snapshots by cache fingerprint. -/
abbrev SnapshotStore := Dict String RequestSnapshot

namespace SnapshotStore

/-- Remember the latest cache-producing request for a cache identity. -/
def store (s : SnapshotStore) (snapshot : RequestSnapshot) : SnapshotStore :=
  Dict.set s snapshot.cacheFingerprint snapshot

/-- Forget a snapshot. -/
def drop (s : SnapshotStore) (cacheFingerprint : String) : SnapshotStore :=
  Dict.erase s cacheFingerprint

/-- Cache identities with a live snapshot. -/
def fingerprints (s : SnapshotStore) : List String := Dict.keys s

end SnapshotStore

/-- Result of one warm execution. No outcome means that the adapter declined to build a bounded
    request: nothing was sent and nothing was paid for. -/
structure WarmResult where
  outcome : Option Outcome
  usage : TokenUsage := {}
  costUsd : ℚ := 0
deriving DecidableEq

/-- The result is evidence that the cache entry exists: a confirmed hit, or a rebuild that wrote tokens. -/
def WarmResult.touchesCache (result : WarmResult) : Bool :=
  result.outcome = some .confirmedHit ∨
    (result.outcome = some .missRebuilt ∧ 0 < result.usage.cacheWriteTokens)

end CachePilot
