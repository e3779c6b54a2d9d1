/-
Module: CachePilot.Core.StoredLearner
Layer: Core
Purpose: The TTL learner over the tables of the store. It reads the last observation of the fingerprint, asks whether a
  churn event lies between, records the row, and then reads, refines and writes the profile of the route. Times are
  those of the host; ages are seconds as exact numbers. A query that meets a row it cannot read raises, and what was
  written before stays.
Trusted boundary: the reading of TTLLearner.learn over the statements of storage.py, with exact ages
Main exports: ObservedOutcome, ProfileRecord.asProfile, ProfileRecord.observe, StoredAnswer, TelemetryStore.learn,
  curveFromProfile
-/
import CachePilot.Core.StoreQueries

namespace CachePilot

/-- Seconds, from the start of the first year on. -/
def UtcTime.seconds (t : UtcTime) : ℚ := (t.instant : ℚ) / 1000000

theorem no_offset_small : -(dayLength : ℤ) < 0 ∧ (0 : ℤ) < dayLength := by decide

/-- A time of UTC as a time with an offset. -/
def AwareTime.ofUtc (t : UtcTime) : AwareTime where
  toTimeParts := t.toTimeParts
  valid := t.valid
  offset := 0
  offset_small := no_offset_small

/-- One observed outcome fed to the learner. -/
structure ObservedOutcome where
  outcome : Outcome
  cacheFingerprint : String
  routeHash : Option String
  provider : String
  model : String
  apiMode : String
  endpoint : String
  timestamp : UtcTime
deriving DecidableEq

namespace ObservedOutcome

variable (endpointHash : String → String) (obs : ObservedOutcome)

/-- The columns that identify the route of an observation. -/
def context : RouteContext where
  provider := obs.provider
  model := obs.model
  apiMode := obs.apiMode
  endpointHash := endpointHash obs.endpoint
  routeHash := obs.routeHash

/-- The key of the route an observation was made on. -/
def profileKey : String := joinKey obs.provider obs.model obs.apiMode (endpointHash obs.endpoint) obs.routeHash

/-- The time since the previous observation, unless time did not move forward. -/
def idleAgeSince (previous : TtlObservationRecord) : Option ℚ :=
  let delta := obs.timestamp.seconds - previous.timestamp.seconds
  if 0 < delta then some delta else none

/-- A fresh profile for the route of an observation; a name of no characters is refused. -/
def freshProfile : Option ProfileRecord :=
  if obs.provider = "" ∨ obs.model = "" ∨ obs.apiMode = "" then none
  else some { toRouteContext := obs.context endpointHash }

/-- The row that the learner records for an observation. -/
def row (idleAgeS : Option ℚ) (clean : Bool) : TtlObservationRecord where
  timestamp := obs.timestamp
  cacheFingerprint := obs.cacheFingerprint
  routeHash := obs.routeHash
  idleAgeS := idleAgeS
  outcome := obs.outcome
  clean := clean
  provider := some obs.provider
  model := some obs.model
  apiMode := some obs.apiMode
  endpointHash := some (endpointHash obs.endpoint)

end ObservedOutcome

/-! ### Profiles -/

/-- The learned columns of a profile, without the latencies that nothing learns. -/
def ProfileRecord.asProfile (profile : ProfileRecord) : TTLProfile where
  toRouteContext := profile.toRouteContext
  lowerBoundS := profile.lowerBoundS
  upperBoundS := profile.upperBoundS
  estimatedTtlS := profile.estimatedTtlS
  confidence := profile.confidence
  sampleCount := profile.sampleCount
  updatedAt := profile.updatedAt.map UtcTime.seconds

/-- Apply one clean observation to the learned columns. -/
def ProfileRecord.observe (profile : ProfileRecord) (outcome : Outcome) (idleAgeS : Option ℚ) : ProfileRecord :=
  let learned := profile.asProfile.observe outcome idleAgeS
  { profile with
    lowerBoundS := learned.lowerBoundS
    upperBoundS := learned.upperBoundS
    estimatedTtlS := learned.estimatedTtlS
    confidence := learned.confidence
    sampleCount := learned.sampleCount }

/-- What a call of the learner comes back with. -/
inductive StoredAnswer where
  | returned (profile : Option ProfileRecord)
  | raised
deriving DecidableEq

namespace TelemetryStore

variable (store : TelemetryStore)

/-- The cache identity stayed stable across the pair: time moved forward on one route, and no churn event touched the
    fingerprint in between. -/
def cleanPair (obs : ObservedOutcome) (previous : Option StoredTtlObservation) : Option Bool :=
  match previous with
  | none => some false
  | some previous =>
      if (obs.idleAgeSince previous.toTtlObservationRecord).isSome = true ∧ previous.routeHash = obs.routeHash then
        (store.churnBetween obs.cacheFingerprint (.ofUtc previous.timestamp) (.ofUtc obs.timestamp)).map not
      else some false

/-- The row that is recorded for an observation. -/
def learnedRow (endpointHash : String → String) (obs : ObservedOutcome) : Option TtlObservationRecord := do
  let previous ← store.lastTtlObservation obs.cacheFingerprint
  let clean ← store.cleanPair obs previous
  some (obs.row endpointHash (previous.bind fun previous => obs.idleAgeSince previous.toTtlObservationRecord) clean)

/-- Refine the profile of the route from the row that was just recorded. A profile that is written has the time of the
    observation, so the clock is not read for it. -/
def refineProfile (endpointHash : String → String) (obs : ObservedOutcome) (previous : Option StoredTtlObservation)
    (clean : Bool) : TelemetryStore × StoredAnswer :=
  let idleAgeS := previous.bind fun previous => obs.idleAgeSince previous.toTtlObservationRecord
  match store.profileFor (obs.profileKey endpointHash) with
  | none => (store, .raised)
  | some profile =>
      if clean = true ∧ idleAgeS.isSome = true then
        match profile <|> obs.freshProfile endpointHash with
        | none => (store, .raised)
        | some profile =>
            let profile := { profile.observe obs.outcome idleAgeS with updatedAt := some obs.timestamp }
            (store.upsertProfile profile obs.timestamp, .returned (some profile))
      else
        match previous, profile with
        | some previous, some profile =>
            -- A new route context: its confidence starts fresh, its bounds stay.
            if previous.routeHash ≠ obs.routeHash then
              let profile := { profile with confidence := Confidence.fresh, updatedAt := some obs.timestamp }
              (store.upsertProfile profile obs.timestamp, .returned (some profile))
            else (store, .returned (some profile))
        | _, profile => (store, .returned profile)

/-- Record one observation and refine the route profile. The row is written first, so it stays when the profile
    raises. -/
def learn (endpointHash : String → String) (obs : ObservedOutcome) : TelemetryStore × StoredAnswer :=
  match store.lastTtlObservation obs.cacheFingerprint with
  | none => (store, .raised)
  | some previous =>
      match store.cleanPair obs previous with
      | none => (store, .raised)
      | some clean =>
          let idleAgeS := previous.bind fun previous => obs.idleAgeSince previous.toTtlObservationRecord
          (store.recordTtlObservation (obs.row endpointHash idleAgeS clean)).refineProfile endpointHash obs previous
            clean

end TelemetryStore

/-! ### Curves of profiles -/

/-- A recorded observation as the estimator reads it. A row of the time before its route was recorded has no names. -/
def TtlObservationRecord.asObservation (obs : TtlObservationRecord) : StoredTTLObservation where
  timestamp := obs.timestamp.seconds
  cacheFingerprint := obs.cacheFingerprint
  routeHash := obs.routeHash
  idleAgeS := obs.idleAgeS
  outcome := obs.outcome
  clean := obs.clean
  provider := obs.provider.getD ""
  model := obs.model.getD ""
  apiMode := obs.apiMode.getD ""
  endpointHash := obs.endpointHash.getD ""

/-- Survival curve for one route profile from the store. -/
def curveFromProfile (store : TelemetryStore) (profile : ProfileRecord) : Option SurvivalCurve := do
  let observations ← store.cleanObservationsForProfile profile.toRouteContext
  curveFromObservations (some profile.profileKey)
    (observations.map fun obs => obs.toTtlObservationRecord.asObservation)

end CachePilot
