/-
Module: CachePilot.Core.StoredRecords
Layer: Core
Purpose: What the tables of the telemetry store hold: for each table the columns that its statements name, the values
  that are written for a record, position by position, and the record that is read back from a row. Times are stored
  as ISO texts, prices as decimal texts, flags as integers, and the targets of a lease as a JSON array. A value that
  does not read as its type is refused, as the models that hold the rows refuse it.
Trusted boundary: the reading of storage.py; floats are exact, integers fit 64 bits, decimals read back as written
Main exports: StorageTexts, RequestEventRecord, StoredRequestEvent, ChurnEventRecord, StoredChurnEvent,
  LeaseSnapshot, StoredLeaseRow, ProfileRecord, TtlObservationRecord, RouteEventRecord
-/
import CachePilot.Core.Churn
import CachePilot.Core.Leases
import CachePilot.Core.Storage
import CachePilot.Core.Survival
import CachePilot.Lib.SqlTable
import CachePilot.Lib.TextArray
import CachePilot.Lib.UtcTime

namespace CachePilot

/-- The text primitives, and the text of a decimal number. A number is read back from the text of a decimal and
    from that of a float. -/
structure StorageTexts where
  prims : TextPrimitives
  decimalText : ℚ → String
  readDecimal : String → Option ℚ
  read_decimalText : ∀ value, readDecimal (decimalText value) = some value
  read_floatRepr : ∀ value, readDecimal (prims.floatRepr value) = some value

/-! ### Names of enumerations -/

/-- The outcome with a stored name. -/
def Outcome.ofValue (name : String) : Option Outcome :=
  [Outcome.confirmedHit, .missRebuilt, .successUnverified, .failed].find? fun outcome => outcome.value = name

/-- Classification of a miss on a repeated logical request. -/
inductive RouteMissVerdict where
  | routeInstability
  | shortTtl
  | clean
deriving DecidableEq, Repr

/-- The stored name of a verdict. -/
def RouteMissVerdict.value : RouteMissVerdict → String
  | .routeInstability => "route_instability"
  | .shortTtl => "short_ttl"
  | .clean => "clean"

/-- The verdict with a stored name. -/
def RouteMissVerdict.ofValue (name : String) : Option RouteMissVerdict :=
  [RouteMissVerdict.routeInstability, .shortTtl, .clean].find? fun verdict => verdict.value = name

@[simp] theorem Outcome.ofValue_value (outcome : Outcome) : Outcome.ofValue outcome.value = some outcome := by
  cases outcome <;> decide +kernel

@[simp] theorem RouteMissVerdict.ofValue_value (verdict : RouteMissVerdict) :
    RouteMissVerdict.ofValue verdict.value = some verdict := by
  cases verdict <;> decide +kernel

/-! ### Values of the columns -/

namespace StorageTexts

variable (texts : StorageTexts)

/-- A price or NULL. -/
def ofDecimal (value : Option ℚ) : SqlValue := .ofText (value.map texts.decimalText)

/-- A price or NULL, as a number. A text that is no number reads like NULL. -/
def textToDecimal (value : SqlValue) : Option ℚ := value.text?.bind texts.readDecimal

@[simp] theorem textToDecimal_ofDecimal (value : Option ℚ) :
    texts.textToDecimal (texts.ofDecimal value) = value := by
  cases value with
  | none => rfl
  | some value => exact texts.read_decimalText value

@[simp] theorem textToDecimal_floatRepr (value : ℚ) :
    texts.textToDecimal (.text (texts.prims.floatRepr value)) = some value :=
  texts.read_floatRepr value

@[simp] theorem textToDecimal_ofFloat (value : Option ℚ) :
    texts.textToDecimal (.ofText (value.map texts.prims.floatRepr)) = value := by
  cases value with
  | none => rfl
  | some value => exact texts.read_floatRepr value

end StorageTexts

namespace SqlValue

/-- A time in its storage form. -/
def ofTime (time : UtcTime) : SqlValue := .text time.isoText

/-- Read a time. -/
def time? (value : SqlValue) : Option UtcTime := value.text?.bind UtcTime.fromIso

/-- The targets of a lease, sorted, as a JSON array. -/
def ofTargets (targets : List String) : SqlValue :=
  .text (String.ofList (QuotedText.writeTexts (targets.map String.toList)))

/-- Read the targets of a lease. -/
def targets? (value : SqlValue) : Option (List String) :=
  (value.text?.bind fun text => QuotedText.readTexts text.toList).map fun targets => targets.map String.ofList

/-- Read an outcome. -/
def outcome? (value : SqlValue) : Option Outcome := value.text?.bind Outcome.ofValue

/-- Read a verdict. -/
def verdict? (value : SqlValue) : Option RouteMissVerdict := value.text?.bind RouteMissVerdict.ofValue

@[simp] theorem time?_ofTime (time : UtcTime) : (ofTime time).time? = some time := by
  rw [time?, ofTime, text?_text, Option.bind_some, UtcTime.fromIso_isoText]

@[simp] theorem targets?_ofTargets (targets : List String) : (ofTargets targets).targets? = some targets := by
  rw [targets?, ofTargets, text?_text, Option.bind_some, String.toList_ofList, QuotedText.readTexts_writeTexts,
    Option.map_some, List.map_map]
  have same : String.ofList ∘ String.toList = id := funext fun text => String.ofList_toList
  rw [same, List.map_id]

@[simp] theorem outcome?_value (outcome : Outcome) : (SqlValue.text outcome.value).outcome? = some outcome :=
  outcome.ofValue_value

@[simp] theorem verdict?_value (verdict : RouteMissVerdict) :
    (SqlValue.text verdict.value).verdict? = some verdict :=
  verdict.ofValue_value

end SqlValue

/-- The value at a position of a row; there is none behind the end. -/
def rowAt (row : List SqlValue) (position : ℕ) : SqlValue := row.getD position .null

/-! ### `request_events` -/

/-- One observed provider request, as it is handed to the store. -/
structure RequestEventRecord where
  requestFingerprint : String
  cacheFingerprint : String
  provider : String
  model : String
  routeHash : Option String := none
  usage : TokenUsage := {}
  outcome : Outcome
  requestKind : String := "normal"
  sessionHash : Option String := none
  timestamp : UtcTime
  systemHash : Option String := none
  toolsHash : Option String := none
  historyHash : Option String := none
  toolsSetHash : Option String := none

/-- A row of `request_events`. -/
structure StoredRequestEvent where
  id : ℕ
  sessionHash : Option String := none
  timestamp : UtcTime
  provider : String
  model : String
  routeHash : Option String := none
  requestFingerprint : String
  cacheFingerprint : String
  systemHash : Option String := none
  toolsHash : Option String := none
  historyHash : Option String := none
  inputTokens : ℕ := 0
  outputTokens : ℕ := 0
  cacheReadTokens : ℕ := 0
  cacheWriteTokens : ℕ := 0
  costUsd : Option ℚ := none
  requestKind : String := "normal"
  outcome : Outcome
  toolsSetHash : Option String := none
deriving DecidableEq

/-- `request_events` columns in row order. -/
def requestEventColumns : List String :=
  ["id", "session_hash", "timestamp", "provider", "model", "route_hash", "request_fingerprint",
    "cache_fingerprint", "system_hash", "tools_hash", "history_hash", "input_tokens", "output_tokens",
    "cache_read_tokens", "cache_write_tokens", "cost_usd", "request_kind", "outcome", "tools_set_hash"]

/-- The columns that an insert of a request event names. -/
def requestInsertColumns : List String :=
  ["session_hash", "timestamp", "provider", "model", "route_hash",
    "request_fingerprint", "cache_fingerprint", "system_hash",
    "tools_hash", "history_hash", "input_tokens", "output_tokens",
    "cache_read_tokens", "cache_write_tokens", "cost_usd",
    "request_kind", "outcome", "tools_set_hash"]

/-- The values of a request event. -/
def requestValues (texts : StorageTexts) (event : RequestEventRecord) : List SqlValue :=
  [.ofText event.sessionHash, .ofTime event.timestamp, .text event.provider, .text event.model,
    .ofText event.routeHash, .text event.requestFingerprint, .text event.cacheFingerprint,
    .ofText event.systemHash, .ofText event.toolsHash, .ofText event.historyHash,
    .ofNat event.usage.promptTokens, .ofNat event.usage.completionTokens, .ofNat event.usage.cacheReadTokens,
    .ofNat event.usage.cacheWriteTokens, texts.ofDecimal event.usage.cost, .text event.requestKind,
    .text event.outcome.value, .ofText event.toolsSetHash]

/-- Read a row of `request_events`. -/
def rowToRequestEvent (texts : StorageTexts) (row : List SqlValue) : Option StoredRequestEvent := do
  let id ← (rowAt row 0).nat?
  let sessionHash ← (rowAt row 1).nullText?
  let timestamp ← (rowAt row 2).time?
  let provider ← (rowAt row 3).text?
  let model ← (rowAt row 4).text?
  let routeHash ← (rowAt row 5).nullText?
  let requestFingerprint ← (rowAt row 6).text?
  let cacheFingerprint ← (rowAt row 7).text?
  let systemHash ← (rowAt row 8).nullText?
  let toolsHash ← (rowAt row 9).nullText?
  let historyHash ← (rowAt row 10).nullText?
  let inputTokens ← (rowAt row 11).nat?
  let outputTokens ← (rowAt row 12).nat?
  let cacheReadTokens ← (rowAt row 13).nat?
  let cacheWriteTokens ← (rowAt row 14).nat?
  let costUsd := texts.textToDecimal (rowAt row 15)
  let requestKind ← (rowAt row 16).text?
  let outcome ← (rowAt row 17).outcome?
  let toolsSetHash ← (rowAt row 18).nullText?
  pure
    { id, sessionHash, timestamp, provider, model, routeHash, requestFingerprint, cacheFingerprint,
      systemHash, toolsHash, historyHash, inputTokens, outputTokens, cacheReadTokens, cacheWriteTokens,
      costUsd, requestKind, outcome, toolsSetHash }

/-! ### `churn_events` -/

/-- A cache-identity transition, as it is handed to the store. -/
structure ChurnEventRecord where
  timestamp : UtcTime
  sessionHash : Option String := none
  previousCacheFingerprint : String
  newCacheFingerprint : String
  provider : Option String := none
  model : Option String := none
  routeHash : Option String := none
  flags : ChurnFlags := {}
  likelyCause : Option String := none
  confidence : Option ℚ := none
  estimatedPrefixLossTokens : Option ℕ := none
  firstDivergentOffset : Option ℕ := none
  firstDivergentLayer : Option String := none
deriving DecidableEq

/-- A row of `churn_events`. -/
structure StoredChurnEvent extends ChurnEventRecord where
  id : ℕ
deriving DecidableEq

/-- `churn_events` columns in row order. -/
def churnEventColumns : List String :=
  ["id", "timestamp", "session_hash", "previous_cache_fingerprint", "new_cache_fingerprint", "provider",
    "model", "route_hash", "system_changed", "tools_changed", "history_changed", "route_changed",
    "cache_key_changed", "model_changed", "likely_cause", "confidence", "estimated_prefix_loss_tokens",
    "first_divergent_offset", "first_divergent_layer"]

/-- The columns that an insert of a churn event names. -/
def churnInsertColumns : List String :=
  ["timestamp", "session_hash", "previous_cache_fingerprint",
    "new_cache_fingerprint", "provider", "model", "route_hash",
    "system_changed", "tools_changed", "history_changed",
    "route_changed", "cache_key_changed", "model_changed",
    "likely_cause", "confidence", "estimated_prefix_loss_tokens",
    "first_divergent_offset", "first_divergent_layer"]

/-- The values of a churn event. -/
def churnValues (churn : ChurnEventRecord) : List SqlValue :=
  [.ofTime churn.timestamp, .ofText churn.sessionHash, .text churn.previousCacheFingerprint,
    .text churn.newCacheFingerprint, .ofText churn.provider, .ofText churn.model, .ofText churn.routeHash,
    .ofFlag churn.flags.systemChanged, .ofFlag churn.flags.toolsChanged, .ofFlag churn.flags.historyChanged,
    .ofFlag churn.flags.routeChanged, .ofFlag churn.flags.cacheKeyChanged, .ofFlag churn.flags.modelChanged,
    .ofText churn.likelyCause, .ofReal churn.confidence, .ofNat? churn.estimatedPrefixLossTokens,
    .ofNat? churn.firstDivergentOffset, .ofText churn.firstDivergentLayer]

/-- Read a row of `churn_events`. -/
def rowToChurnEvent (row : List SqlValue) : Option StoredChurnEvent := do
  let id ← (rowAt row 0).nat?
  let timestamp ← (rowAt row 1).time?
  let sessionHash ← (rowAt row 2).nullText?
  let previousCacheFingerprint ← (rowAt row 3).text?
  let newCacheFingerprint ← (rowAt row 4).text?
  let provider ← (rowAt row 5).nullText?
  let model ← (rowAt row 6).nullText?
  let routeHash ← (rowAt row 7).nullText?
  let systemChanged ← (rowAt row 8).flag?
  let toolsChanged ← (rowAt row 9).flag?
  let historyChanged ← (rowAt row 10).flag?
  let routeChanged ← (rowAt row 11).flag?
  let cacheKeyChanged ← (rowAt row 12).flag?
  let modelChanged ← (rowAt row 13).flag?
  let likelyCause ← (rowAt row 14).nullText?
  let confidence ← (rowAt row 15).nullReal?
  let estimatedPrefixLossTokens ← (rowAt row 16).nullNat?
  let firstDivergentOffset ← (rowAt row 17).nullNat?
  let firstDivergentLayer ← (rowAt row 18).nullText?
  pure
    { id, timestamp, sessionHash, previousCacheFingerprint, newCacheFingerprint, provider, model, routeHash,
      flags :=
        { systemChanged, toolsChanged, historyChanged, routeChanged, cacheKeyChanged, modelChanged },
      likelyCause, confidence, estimatedPrefixLossTokens, firstDivergentOffset, firstDivergentLayer }

/-! ### `leases` -/

theorem text_le_isTrans : IsTrans String (· ≤ ·) := inferInstance

theorem text_le_antisymm : Std.Antisymm fun a b : String => a ≤ b := inferInstance

theorem text_le_total : Std.Total fun a b : String => a ≤ b := inferInstance

/-- Texts in their order. -/
def sortedTexts (texts : Finset String) : List String :=
  @Finset.sort String texts (· ≤ ·) _ text_le_isTrans text_le_antisymm text_le_total

/-- What the store is given of a lease: its durable fields. -/
structure LeaseSnapshot extends LeaseIdentity where
  leaseId : String
  lastRealRequestAt : ℚ
  lastCacheTouchAt : Option ℚ := none
  lastConfirmedHitAt : Option ℚ := none
  estimatedTtlS : ℚ
  ttlConfidence : ℚ
  activeTargets : Finset String := ∅
  generation : ℕ := 0
  warmCount : ℕ := 0
  warmCostUsd : ℚ := 0
  estimatedColdResumeCostUsd : Option ℚ := none
  estimatedCachedResumeCostUsd : Option ℚ := none
  state : LeaseState := .inactive
deriving DecidableEq

/-- What a row of `leases` says of a lease. The session and the URL are hashed, and the targets are sorted. -/
structure LeaseRecord where
  leaseId : String
  sessionHash : Option String
  provider : String
  model : String
  apiMode : String
  baseUrlHash : String
  authScopeHash : String
  routeFingerprint : Option String
  requestFingerprint : String
  cacheFingerprint : String
  systemFingerprint : String
  toolsFingerprint : String
  historyPrefixFingerprint : String
  lastRealRequestAt : ℚ
  lastCacheTouchAt : Option ℚ
  lastConfirmedHitAt : Option ℚ
  estimatedTtlS : ℚ
  ttlConfidence : ℚ
  activeTargets : List String
  generation : ℕ
  warmCount : ℕ
  warmCostUsd : ℚ
  estimatedColdResumeCostUsd : Option ℚ
  estimatedCachedResumeCostUsd : Option ℚ
  state : String
  updatedAt : UtcTime
deriving DecidableEq

/-- A row of `leases`. -/
structure StoredLeaseRow extends LeaseRecord where
  id : ℕ
deriving DecidableEq

/-- `leases` columns in row order. -/
def leaseColumns : List String :=
  ["id", "lease_id", "session_hash", "provider", "model", "api_mode", "base_url_hash", "auth_scope_hash",
    "route_fingerprint", "request_fingerprint", "cache_fingerprint", "system_fingerprint",
    "tools_fingerprint", "history_prefix_fingerprint", "last_real_request_at", "last_cache_touch_at",
    "last_confirmed_hit_at", "estimated_ttl_s", "ttl_confidence", "active_targets_json", "generation",
    "warm_count", "warm_cost_usd", "estimated_cold_resume_cost_usd", "estimated_cached_resume_cost_usd",
    "state", "updated_at"]

/-- The columns that an insert of a lease names: all but the row id. -/
def leaseInsertColumns : List String := leaseColumns.tail

/-- The values of a lease: the session and the URL are hashed, the targets are sorted, costs are texts. -/
def leaseValues (texts : StorageTexts) (lease : LeaseSnapshot) (now : UtcTime) : List SqlValue :=
  [.text lease.leaseId,
    .ofText (if lease.sessionId = "" then none else some (texts.prims.sha256 lease.sessionId)),
    .text lease.provider, .text lease.model, .text lease.apiMode,
    .text (texts.prims.sha256 lease.baseUrl), .text lease.authScopeHash, .ofText lease.routeFingerprint,
    .text lease.requestFingerprint, .text lease.cacheFingerprint, .text lease.systemFingerprint,
    .text lease.toolsFingerprint, .text lease.historyPrefixFingerprint, .real lease.lastRealRequestAt,
    .ofReal lease.lastCacheTouchAt, .ofReal lease.lastConfirmedHitAt, .real lease.estimatedTtlS,
    .real lease.ttlConfidence, .ofTargets (sortedTexts lease.activeTargets), .ofNat lease.generation,
    .ofNat lease.warmCount, .text (texts.prims.floatRepr lease.warmCostUsd),
    .ofText (lease.estimatedColdResumeCostUsd.map texts.prims.floatRepr),
    .ofText (lease.estimatedCachedResumeCostUsd.map texts.prims.floatRepr), .text lease.state.value,
    .ofTime now]

/-- Read a row of `leases`. -/
def rowToLease (texts : StorageTexts) (row : List SqlValue) : Option StoredLeaseRow := do
  let id ← (rowAt row 0).nat?
  let leaseId ← (rowAt row 1).text?
  let sessionHash ← (rowAt row 2).nullText?
  let provider ← (rowAt row 3).text?
  let model ← (rowAt row 4).text?
  let apiMode ← (rowAt row 5).text?
  let baseUrlHash ← (rowAt row 6).text?
  let authScopeHash ← (rowAt row 7).text?
  let routeFingerprint ← (rowAt row 8).nullText?
  let requestFingerprint ← (rowAt row 9).text?
  let cacheFingerprint ← (rowAt row 10).text?
  let systemFingerprint ← (rowAt row 11).text?
  let toolsFingerprint ← (rowAt row 12).text?
  let historyPrefixFingerprint ← (rowAt row 13).text?
  let lastRealRequestAt ← (rowAt row 14).real?
  let lastCacheTouchAt ← (rowAt row 15).nullReal?
  let lastConfirmedHitAt ← (rowAt row 16).nullReal?
  let estimatedTtlS ← (rowAt row 17).real?
  let ttlConfidence ← (rowAt row 18).real?
  let activeTargets ← (rowAt row 19).targets?
  let generation ← (rowAt row 20).nat?
  let warmCount ← (rowAt row 21).nat?
  let warmCostUsd := (texts.textToDecimal (rowAt row 22)).getD 0
  let estimatedColdResumeCostUsd := texts.textToDecimal (rowAt row 23)
  let estimatedCachedResumeCostUsd := texts.textToDecimal (rowAt row 24)
  let state ← (rowAt row 25).text?
  let updatedAt ← (rowAt row 26).time?
  pure
    { id, leaseId, sessionHash, provider, model, apiMode, baseUrlHash, authScopeHash, routeFingerprint,
      requestFingerprint, cacheFingerprint, systemFingerprint, toolsFingerprint, historyPrefixFingerprint,
      lastRealRequestAt, lastCacheTouchAt, lastConfirmedHitAt, estimatedTtlS, ttlConfidence, activeTargets,
      generation, warmCount, warmCostUsd, estimatedColdResumeCostUsd, estimatedCachedResumeCostUsd, state,
      updatedAt }

/-! ### `provider_profiles` -/

/-- A route profile, as it is handed to the store. -/
structure ProfileRecord extends RouteContext where
  lowerBoundS : Option ℚ := none
  upperBoundS : Option ℚ := none
  estimatedTtlS : Option ℚ := none
  confidence : Confidence := Confidence.fresh
  latencyP50Ms : Option ℚ := none
  latencyP95Ms : Option ℚ := none
  sampleCount : ℕ := 0
  updatedAt : Option UtcTime := none
deriving DecidableEq

/-- The route key that a profile is stored under. -/
def ProfileRecord.profileKey (profile : ProfileRecord) : String :=
  joinKey profile.provider profile.model profile.apiMode profile.endpointHash profile.routeHash

/-- `provider_profiles` columns in row order. -/
def profileColumns : List String :=
  ["provider", "model", "api_mode", "endpoint_hash", "route_hash", "ttl_lower_s", "ttl_upper_s",
    "ttl_estimate_s", "ttl_confidence", "latency_p50_ms", "latency_p95_ms", "sample_count", "updated_at",
    "profile_key"]

/-- The columns that an upsert of a profile names. -/
def profileInsertColumns : List String :=
  ["provider", "model", "api_mode", "endpoint_hash", "route_hash",
    "ttl_lower_s", "ttl_upper_s", "ttl_estimate_s", "ttl_confidence",
    "latency_p50_ms", "latency_p95_ms", "sample_count", "updated_at",
    "profile_key"]

/-- The columns that an upsert replaces in the row of a known key. -/
def profileUpdatedColumns : List String :=
  ["ttl_lower_s", "ttl_upper_s", "ttl_estimate_s", "ttl_confidence", "latency_p50_ms", "latency_p95_ms",
    "sample_count", "updated_at"]

/-- The values of a profile; without a time of its last change it is now. -/
def profileValues (profile : ProfileRecord) (now : UtcTime) : List SqlValue :=
  [.text profile.provider, .text profile.model, .text profile.apiMode, .text profile.endpointHash,
    .ofText profile.routeHash, .ofReal profile.lowerBoundS, .ofReal profile.upperBoundS,
    .ofReal profile.estimatedTtlS, .real profile.confidence.value, .ofReal profile.latencyP50Ms,
    .ofReal profile.latencyP95Ms, .ofNat profile.sampleCount, .ofTime (profile.updatedAt.getD now),
    .text profile.profileKey]

/-- A confidence within its bounds. -/
def Confidence.ofValue (value : ℚ) : Option Confidence :=
  if bounds : confidenceFloor ≤ value ∧ value ≤ confidenceCeil then some ⟨value, bounds.1, bounds.2⟩ else none

@[simp] theorem Confidence.ofValue_value (c : Confidence) : Confidence.ofValue c.value = some c :=
  dif_pos ⟨c.floor_le, c.le_ceil⟩

/-- Read a row of `provider_profiles`. -/
def rowToProfile (row : List SqlValue) : Option ProfileRecord := do
  let provider ← (rowAt row 0).text?
  let model ← (rowAt row 1).text?
  let apiMode ← (rowAt row 2).text?
  let endpointHash ← (rowAt row 3).text?
  let routeHash ← (rowAt row 4).nullText?
  let lowerBoundS ← (rowAt row 5).nullReal?
  let upperBoundS ← (rowAt row 6).nullReal?
  let estimatedTtlS ← (rowAt row 7).nullReal?
  let confidenceValue ← (rowAt row 8).real?
  let confidence ← Confidence.ofValue confidenceValue
  let latencyP50Ms ← (rowAt row 9).nullReal?
  let latencyP95Ms ← (rowAt row 10).nullReal?
  let sampleCount ← (rowAt row 11).nat?
  let updatedAt ← (rowAt row 12).time?
  pure
    { provider, model, apiMode, endpointHash, routeHash, lowerBoundS, upperBoundS, estimatedTtlS, confidence,
      latencyP50Ms, latencyP95Ms, sampleCount, updatedAt := some updatedAt }

/-! ### `ttl_observations` -/

/-- A TTL observation, as it is handed to the store. -/
structure TtlObservationRecord where
  timestamp : UtcTime
  cacheFingerprint : String
  routeHash : Option String
  idleAgeS : Option ℚ
  outcome : Outcome
  clean : Bool
  provider : Option String := none
  model : Option String := none
  apiMode : Option String := none
  endpointHash : Option String := none
deriving DecidableEq

/-- A row of `ttl_observations`. -/
structure StoredTtlObservation extends TtlObservationRecord where
  id : ℕ
deriving DecidableEq

/-- `ttl_observations` columns in row order. -/
def ttlObservationColumns : List String :=
  ["id", "timestamp", "cache_fingerprint", "route_hash", "idle_age_s", "outcome", "clean", "provider",
    "model", "api_mode", "endpoint_hash"]

/-- The columns that an insert of a TTL observation names. -/
def ttlObservationInsertColumns : List String :=
  ["timestamp", "cache_fingerprint", "route_hash", "idle_age_s",
    "outcome", "clean", "provider", "model", "api_mode", "endpoint_hash"]

/-- The values of a TTL observation. -/
def ttlObservationValues (obs : TtlObservationRecord) : List SqlValue :=
  [.ofTime obs.timestamp, .text obs.cacheFingerprint, .ofText obs.routeHash, .ofReal obs.idleAgeS,
    .text obs.outcome.value, .ofFlag obs.clean, .ofText obs.provider, .ofText obs.model, .ofText obs.apiMode,
    .ofText obs.endpointHash]

/-- Read a row of `ttl_observations`. -/
def rowToTtlObservation (row : List SqlValue) : Option StoredTtlObservation := do
  let id ← (rowAt row 0).nat?
  let timestamp ← (rowAt row 1).time?
  let cacheFingerprint ← (rowAt row 2).text?
  let routeHash ← (rowAt row 3).nullText?
  let idleAgeS ← (rowAt row 4).nullReal?
  let outcome ← (rowAt row 5).outcome?
  let clean ← (rowAt row 6).flag?
  let provider ← (rowAt row 7).nullText?
  let model ← (rowAt row 8).nullText?
  let apiMode ← (rowAt row 9).nullText?
  let endpointHash ← (rowAt row 10).nullText?
  pure
    { id, timestamp, cacheFingerprint, routeHash, idleAgeS, outcome, clean, provider, model, apiMode,
      endpointHash }

/-! ### `route_events` -/

/-- An observed route transition, as it is handed to the store. -/
structure RouteEventRecord where
  timestamp : UtcTime
  sessionHash : Option String := none
  cacheFingerprint : String
  requestFingerprint : Option String := none
  previousRouteHash : Option String := none
  newRouteHash : Option String := none
  gateway : Option String := none
  upstreamProvider : Option String := none
  endpoint : Option String := none
  region : Option String := none
  deployment : Option String := none
  verdict : RouteMissVerdict
deriving DecidableEq

/-- A row of `route_events`. -/
structure StoredRouteEvent extends RouteEventRecord where
  id : ℕ
deriving DecidableEq

/-- `route_events` columns in row order. -/
def routeEventColumns : List String :=
  ["id", "timestamp", "session_hash", "cache_fingerprint", "request_fingerprint", "previous_route_hash",
    "new_route_hash", "gateway", "upstream_provider", "endpoint", "region", "deployment", "verdict"]

/-- The columns that an insert of a route event names. -/
def routeInsertColumns : List String :=
  ["timestamp", "session_hash", "cache_fingerprint",
    "request_fingerprint", "previous_route_hash", "new_route_hash",
    "gateway", "upstream_provider", "endpoint", "region", "deployment",
    "verdict"]

/-- The values of a route event. -/
def routeValues (event : RouteEventRecord) : List SqlValue :=
  [.ofTime event.timestamp, .ofText event.sessionHash, .text event.cacheFingerprint,
    .ofText event.requestFingerprint, .ofText event.previousRouteHash, .ofText event.newRouteHash,
    .ofText event.gateway, .ofText event.upstreamProvider, .ofText event.endpoint, .ofText event.region,
    .ofText event.deployment, .text event.verdict.value]

/-- Read a row of `route_events`. -/
def rowToRouteEvent (row : List SqlValue) : Option StoredRouteEvent := do
  let id ← (rowAt row 0).nat?
  let timestamp ← (rowAt row 1).time?
  let sessionHash ← (rowAt row 2).nullText?
  let cacheFingerprint ← (rowAt row 3).text?
  let requestFingerprint ← (rowAt row 4).nullText?
  let previousRouteHash ← (rowAt row 5).nullText?
  let newRouteHash ← (rowAt row 6).nullText?
  let gateway ← (rowAt row 7).nullText?
  let upstreamProvider ← (rowAt row 8).nullText?
  let endpoint ← (rowAt row 9).nullText?
  let region ← (rowAt row 10).nullText?
  let deployment ← (rowAt row 11).nullText?
  let verdict ← (rowAt row 12).verdict?
  pure
    { id, timestamp, sessionHash, cacheFingerprint, requestFingerprint, previousRouteHash, newRouteHash,
      gateway, upstreamProvider, endpoint, region, deployment, verdict }

end CachePilot
