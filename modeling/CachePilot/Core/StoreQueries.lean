/-
Module: CachePilot.Core.StoreQueries
Layer: Core
Purpose: The reports that the store is asked for: the health of the cache, the requests and the recorded cost of each
  provider, the route changes, the last observation of a fingerprint and the clean ones of a profile. They count and
  sum over rows as the statements name them; a row that does not read as its record makes the query raise. Costs are
  exact numbers.
Trusted boundary: the reading of the report queries in storage.py, with exact costs
Main exports: CacheHealthStats, CacheHealthStats.record, CacheHealthStats.fromOutcomes, RouteIntelStats,
  ProviderSummary, TelemetryStore.aggregates, TelemetryStore.providerSummary, TelemetryStore.costTotals,
  TelemetryStore.routeChanges, TelemetryStore.routeIntelStats, TelemetryStore.lastTtlObservation,
  TelemetryStore.cleanObservationsForProfile
-/
import CachePilot.Core.TelemetryStore

namespace CachePilot

/-! ### Cache health -/

/-- Aggregated cache health. -/
structure CacheHealthStats where
  total : ℕ := 0
  confirmedHits : ℕ := 0
  misses : ℕ := 0
  unverified : ℕ := 0
  failed : ℕ := 0
  churnEvents : ℕ := 0
  routeChanges : ℕ := 0
deriving DecidableEq

namespace CacheHealthStats

/-- Accumulate one classified outcome. -/
def record (stats : CacheHealthStats) (outcome : Outcome) : CacheHealthStats :=
  let stats := { stats with total := stats.total + 1 }
  match outcome with
  | .confirmedHit => { stats with confirmedHits := stats.confirmedHits + 1 }
  | .missRebuilt => { stats with misses := stats.misses + 1 }
  | .successUnverified => { stats with unverified := stats.unverified + 1 }
  | .failed => { stats with failed := stats.failed + 1 }

def fromOutcomes (outcomes : List Outcome) : CacheHealthStats := outcomes.foldl record {}

end CacheHealthStats

/-- Route-intelligence aggregates. -/
structure RouteIntelStats where
  routeSwitches : ℕ := 0
  instabilityVerdicts : ℕ := 0
  shortTtlVerdicts : ℕ := 0
  lastSwitchAt : Option UtcTime := none
deriving DecidableEq

/-- The requests of one provider, and what they are recorded to have cost; none when no cost is recorded. -/
structure ProviderSummary where
  provider : String
  requests : ℕ
  recordedCostUsd : Option ℚ
deriving DecidableEq

namespace TelemetryStore

variable (texts : StorageTexts) (store : TelemetryStore)

/-- Cache-health aggregates over every stored event. -/
def aggregates : CacheHealthStats where
  total := store.requestEvents.rows.length
  confirmedHits := store.requestEvents.countWhere "outcome" (.text Outcome.confirmedHit.value)
  misses := store.requestEvents.countWhere "outcome" (.text Outcome.missRebuilt.value)
  unverified := store.requestEvents.countWhere "outcome" (.text Outcome.successUnverified.value)
  failed := store.requestEvents.countWhere "outcome" (.text Outcome.failed.value)
  churnEvents := store.churnEvents.rows.length
  routeChanges := store.churnEvents.countWhere "route_changed" (.integer 1)

/-! ### Providers and costs -/

/-- The providers of the request events, in order; the column is never NULL. -/
def providers : List String :=
  sortedTexts (store.requestEvents.rows.filterMap fun row => (row.column "provider").text?).toFinset

/-- The rows of a provider with a recorded cost. -/
def costRows (provider : String) : List SqlRow :=
  store.requestEvents.rows.filter fun row =>
    row.column "provider" = .text provider && row.column "cost_usd" ≠ .null

/-- Per-provider request counts and recorded cost. `SUM` is NULL without a recorded cost, and a text that is no
    number counts as nothing. -/
def providerSummary : List ProviderSummary :=
  store.providers.map fun provider =>
    let costs := store.costRows provider
    { provider
      requests := store.requestEvents.countWhere "provider" (.text provider)
      recordedCostUsd :=
        if costs = [] then none
        else some (costs.map fun row => (texts.textToDecimal (row.column "cost_usd")).getD 0).sum }

/-- Add the cost of one row to the total of its provider. -/
def addCost (totals : Dict String ℚ) (row : SqlRow) : Dict String ℚ :=
  match (row.column "provider").text?, texts.textToDecimal (row.column "cost_usd") with
  | some provider, some cost => totals.set provider ((totals.get? provider).getD 0 + cost)
  | _, _ => totals

/-- Recorded provider-returned cost summed per provider. -/
def costTotals : Dict String ℚ :=
  (store.requestEvents.rows.filter fun row => row.column "cost_usd" ≠ .null).foldl (addCost texts) ∅

/-! ### Churn and routes -/

/-- Most recent churn events whose route identity changed. -/
def routeChanges (limit : ℤ) : Option (List StoredChurnEvent) :=
  (SqlTable.limited limit
      (store.churnEvents.rows.reverse.filter fun row => row.column "route_changed" = .integer 1)).mapM fun row =>
    rowToChurnEvent (row.select churnEventColumns)

/-- Route-switch and instability aggregates. -/
def routeIntelStats : Option RouteIntelStats := do
  let last ←
    match store.routeEvents.rows.getLast? with
    | none => some none
    | some row => (row.column "timestamp").time?.map some
  some
    { routeSwitches := store.routeEvents.rows.length
      instabilityVerdicts := store.routeEvents.countWhere "verdict" (.text RouteMissVerdict.routeInstability.value)
      shortTtlVerdicts := store.routeEvents.countWhere "verdict" (.text RouteMissVerdict.shortTtl.value)
      lastSwitchAt := last }

/-! ### TTL observations -/

/-- The row is an observation of the cache fingerprint. -/
def rowOfFingerprint (cacheFingerprint : String) (row : SqlRow) : Bool :=
  row.column "cache_fingerprint" = .text cacheFingerprint

/-- Most recent TTL observation of one cache fingerprint. -/
def lastTtlObservation (cacheFingerprint : String) : Option (Option StoredTtlObservation) :=
  match store.ttlObservations.rows.reverse.find? (rowOfFingerprint cacheFingerprint) with
  | none => some none
  | some row => (rowToTtlObservation (row.select ttlObservationColumns)).map some

/-- The row is a clean one that is attributed to the route; an absent route is NULL. -/
def rowOfProfile (context : RouteContext) (row : SqlRow) : Bool :=
  row.column "clean" = .integer 1 && row.column "provider" = .text context.provider &&
    row.column "model" = .text context.model && row.column "api_mode" = .text context.apiMode &&
    row.column "endpoint_hash" = .text context.endpointHash && row.column "route_hash" = .ofText context.routeHash

/-- Clean TTL observations attributed to one route, oldest first. -/
def cleanObservationsForProfile (context : RouteContext) : Option (List StoredTtlObservation) :=
  (store.ttlObservations.rows.filter (rowOfProfile context)).mapM fun row =>
    rowToTtlObservation (row.select ttlObservationColumns)

end TelemetryStore

end CachePilot
