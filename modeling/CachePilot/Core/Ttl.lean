/-
Module: CachePilot.Core.Ttl
Layer: Core
Purpose: Route-aware TTL learning: the profile of one route with its bounds, estimate and confidence, the
  observations and churn events in the store, the learner that pairs consecutive observations of one cache
  fingerprint, and the resolver with its override hierarchy. Times and ages are rationals, so the arithmetic
  is exact; stored timestamps have microsecond precision and sort as text the way they sort as times, so a
  query by time compares the times. The hash of an endpoint is a parameter. Latency columns, which are
  always empty, and log lines are left out.
Trusted boundary: the reading of ttl.py, with exact times and ages; the endpoint hash is a parameter
Main exports: TTLProfile, TTLProfile.observe, TTLProfile.estimate, TtlStore, TtlStore.learn, TtlEvent,
  TtlStore.ofHistory, TTLResolver, TTLResolver.resolve
-/
import Mathlib.Algebra.Order.Ring.Rat
import Mathlib.Tactic.NormNum
import CachePilot.Core.Telemetry
import CachePilot.Lib.KeyedLog
import CachePilot.Lib.ThresholdBounds

namespace CachePilot

/-! ### Confidence -/

/-- A learned TTL is trusted from this confidence on. -/
def highConfidenceThreshold : ℚ := 7 / 10

def confidenceFloor : ℚ := 5 / 100

def confidenceCeil : ℚ := 95 / 100

def hitDelta : ℚ := 5 / 100

def missDelta : ℚ := 2 / 100

def unverifiedDelta : ℚ := -5 / 100

def inconsistentDelta : ℚ := -5 / 100

/-- The interval is interpolated towards its lower side. -/
def estimateIntervalFraction : ℚ := 35 / 100

/-- A confidence, clamped between its floor and its ceiling. -/
structure Confidence where
  value : ℚ
  floor_le : confidenceFloor ≤ value
  le_ceil : value ≤ confidenceCeil
deriving DecidableEq

namespace Confidence

/-- Every profile starts here, and a route change brings it back here. -/
def fresh : Confidence where
  value := 1 / 2
  floor_le := by norm_num [confidenceFloor]
  le_ceil := by norm_num [confidenceCeil]

/-- Move by a delta and clamp. -/
def adjust (c : Confidence) (delta : ℚ) : Confidence where
  value := min confidenceCeil (max confidenceFloor (c.value + delta))
  floor_le := le_min (by norm_num [confidenceFloor, confidenceCeil]) (le_max_left _ _)
  le_ceil := min_le_left _ _

end Confidence

/-! ### Profiles -/

/-- Provider, model, API mode, endpoint hash and route hash, joined into the key of a route. -/
def joinKey (provider model apiMode endpointHash : String) (routeHash : Option String) : String :=
  "|".intercalate [provider, model, apiMode, endpointHash, routeHash.getD ""]

/-- The columns that identify a route profile. -/
structure RouteContext where
  provider : String
  model : String
  apiMode : String
  endpointHash : String
  routeHash : Option String := none
deriving DecidableEq

/-- One route's learned TTL bounds. -/
structure TTLProfile extends RouteContext where
  lowerBoundS : Option ℚ := none
  upperBoundS : Option ℚ := none
  estimatedTtlS : Option ℚ := none
  confidence : Confidence := Confidence.fresh
  sampleCount : ℕ := 0
  updatedAt : Option ℚ := none
deriving DecidableEq

namespace TTLProfile

/-- The route key this profile is stored under. -/
def profileKey (p : TTLProfile) : String :=
  joinKey p.provider p.model p.apiMode p.endpointHash p.routeHash

/-- The two bounds together. -/
def bounds (p : TTLProfile) : ThresholdBounds ℚ where
  lower := p.lowerBoundS
  upper := p.upperBoundS

/-- Favors the lower side of the interval; without an upper bound the larger of the hint and the lower
    bound, and nothing when neither is known. -/
def estimate (p : TTLProfile) (adapterHint : Option ℚ) : Option ℚ :=
  match p.upperBoundS with
  | some upper =>
      let lower := p.lowerBoundS.getD 0
      some (lower + (upper - lower) * estimateIntervalFraction)
  | none =>
      if adapterHint = none ∧ p.lowerBoundS = none then none
      else some (max (adapterHint.getD 0) (p.lowerBoundS.getD 0))

def adjustConfidence (p : TTLProfile) (delta : ℚ) : TTLProfile :=
  { p with confidence := p.confidence.adjust delta }

/-- The lower bound after a hit at this idle age. -/
def lowerAfterHit (p : TTLProfile) (idleAgeS : ℚ) : ℚ := max (p.lowerBoundS.getD 0) idleAgeS

/-- The upper bound after a miss at this idle age. -/
def upperAfterMiss (p : TTLProfile) (idleAgeS : ℚ) : ℚ := p.upperBoundS.elim idleAgeS (min · idleAgeS)

/-- The raised lower bound does not contradict a known upper bound. -/
def hitConsistent (p : TTLProfile) (idleAgeS : ℚ) : Bool :=
  p.upperBoundS.all fun upper => p.lowerAfterHit idleAgeS ≤ upper

/-- The lowered upper bound does not contradict a known lower bound. -/
def missConsistent (p : TTLProfile) (idleAgeS : ℚ) : Bool :=
  p.lowerBoundS.all fun lower => lower ≤ p.upperAfterMiss idleAgeS

/-- A hit at this idle age raises the lower bound. -/
def observeHit (p : TTLProfile) (idleAgeS : ℚ) : TTLProfile :=
  { p with
    sampleCount := p.sampleCount + 1
    lowerBoundS := some (p.lowerAfterHit idleAgeS)
    confidence := p.confidence.adjust
      (if p.hitConsistent idleAgeS then hitDelta else inconsistentDelta) }

/-- A miss at this idle age caps the upper bound. -/
def observeMiss (p : TTLProfile) (idleAgeS : ℚ) : TTLProfile :=
  { p with
    sampleCount := p.sampleCount + 1
    upperBoundS := some (p.upperAfterMiss idleAgeS)
    confidence := p.confidence.adjust
      (if p.missConsistent idleAgeS then missDelta else inconsistentDelta) }

/-- The stored estimate follows the bounds. -/
def reestimate (p : TTLProfile) : TTLProfile := { p with estimatedTtlS := p.estimate none }

/-- Apply one clean observation. A failed one is no evidence and changes nothing; an unverified one lowers
    the confidence and is no sample; a hit or a miss without a usable idle age refines nothing. -/
def observe (p : TTLProfile) (outcome : Outcome) (idleAgeS : Option ℚ) : TTLProfile :=
  match outcome, idleAgeS with
  | .failed, _ => p
  | .successUnverified, _ => (p.adjustConfidence unverifiedDelta).reestimate
  | .confirmedHit, some age => (if 0 ≤ age then p.observeHit age else p).reestimate
  | .missRebuilt, some age => (if 0 ≤ age then p.observeMiss age else p).reestimate
  | .confirmedHit, none => p.reestimate
  | .missRebuilt, none => p.reestimate

end TTLProfile

/-! ### The store -/

/-- One observed outcome fed to the learner. -/
structure TTLObservation where
  outcome : Outcome
  cacheFingerprint : String
  routeHash : Option String
  provider : String
  model : String
  apiMode : String
  endpoint : String
  timestamp : ℚ
deriving DecidableEq

/-- A recorded observation. Rows come in the order of their ids. -/
structure StoredTTLObservation where
  timestamp : ℚ
  cacheFingerprint : String
  routeHash : Option String
  idleAgeS : Option ℚ
  outcome : Outcome
  clean : Bool
  provider : String
  model : String
  apiMode : String
  endpointHash : String
deriving DecidableEq

/-- The columns of a churn event that the learner's query reads. -/
structure ChurnRecord where
  timestamp : ℚ
  previousCacheFingerprint : String
  newCacheFingerprint : String
deriving DecidableEq

/-- The event is a transition from or to the cache fingerprint. -/
def ChurnRecord.touches (e : ChurnRecord) (cacheFingerprint : String) : Bool :=
  e.previousCacheFingerprint = cacheFingerprint ∨ e.newCacheFingerprint = cacheFingerprint

/-- The tables that TTL learning reads and writes. -/
structure TtlStore where
  profiles : Dict String TTLProfile := ∅
  observations : List StoredTTLObservation := []
  churnEvents : List ChurnRecord := []

/-- What a call of the learner comes back with; the construction of a profile validates the names. -/
inductive LearnAnswer where
  | returned (profile : Option TTLProfile)
  | raised
deriving DecidableEq

namespace TtlStore

/-- The route profile for one profile key. -/
def profileFor (s : TtlStore) (key : String) : Option TTLProfile := s.profiles.get? key

/-- Insert or update one route profile under its own key; an update keeps the identity columns. -/
def upsertProfile (s : TtlStore) (profile : TTLProfile) : TtlStore :=
  let row :=
    match s.profileFor profile.profileKey with
    | some stored => { profile with toRouteContext := stored.toRouteContext }
    | none => profile
  { s with profiles := s.profiles.set profile.profileKey row }

/-- Most recent observation of one cache fingerprint. -/
def lastTtlObservation (s : TtlStore) (cacheFingerprint : String) : Option StoredTTLObservation :=
  KeyedLog.lastFor StoredTTLObservation.cacheFingerprint s.observations cacheFingerprint

def recordTtlObservation (s : TtlStore) (row : StoredTTLObservation) : TtlStore :=
  { s with observations := s.observations ++ [row] }

def recordChurn (s : TtlStore) (event : ChurnRecord) : TtlStore :=
  { s with churnEvents := s.churnEvents ++ [event] }

/-- A churn event touched the fingerprint inside the closed window. -/
def churnBetween (s : TtlStore) (cacheFingerprint : String) (start stop : ℚ) : Bool :=
  s.churnEvents.any fun e =>
    e.touches cacheFingerprint && decide (start ≤ e.timestamp) && decide (e.timestamp ≤ stop)

end TtlStore

/-- The key of the route an observation was made on. -/
def TTLObservation.profileKey (endpointHash : String → String) (obs : TTLObservation) : String :=
  joinKey obs.provider obs.model obs.apiMode (endpointHash obs.endpoint) obs.routeHash

/-- The time since the previous observation, unless time did not move forward. -/
def TTLObservation.idleAgeSince (obs : TTLObservation) (previous : StoredTTLObservation) : Option ℚ :=
  let delta := obs.timestamp - previous.timestamp
  if 0 < delta then some delta else none

/-- A fresh profile for the route of an observation; a name of no characters is refused. -/
def TTLObservation.freshProfile (endpointHash : String → String) (obs : TTLObservation) :
    Option TTLProfile :=
  if obs.provider = "" ∨ obs.model = "" ∨ obs.apiMode = "" then none
  else
    some
      { provider := obs.provider
        model := obs.model
        apiMode := obs.apiMode
        endpointHash := endpointHash obs.endpoint
        routeHash := obs.routeHash }

namespace TtlStore

/-- The row that the learner records for an observation. -/
def rowOf (endpointHash : String → String) (obs : TTLObservation) (idleAgeS : Option ℚ)
    (clean : Bool) : StoredTTLObservation where
  timestamp := obs.timestamp
  cacheFingerprint := obs.cacheFingerprint
  routeHash := obs.routeHash
  idleAgeS := idleAgeS
  outcome := obs.outcome
  clean := clean
  provider := obs.provider
  model := obs.model
  apiMode := obs.apiMode
  endpointHash := endpointHash obs.endpoint

/-- The cache identity stayed stable across the pair: the same route, and no churn in between. -/
def stablePair (s : TtlStore) (obs : TTLObservation) (previous : StoredTTLObservation) : Bool :=
  decide (previous.routeHash = obs.routeHash) &&
    !s.churnBetween obs.cacheFingerprint previous.timestamp obs.timestamp

/-- Record one observation and refine the route profile. The row is written first, so it stays when the
    construction of a fresh profile raises. -/
def learn (endpointHash : String → String) (s : TtlStore) (obs : TTLObservation) :
    TtlStore × LearnAnswer :=
  let key := obs.profileKey endpointHash
  let previous := s.lastTtlObservation obs.cacheFingerprint
  let idleAgeS := previous.bind obs.idleAgeSince
  let clean := previous.any fun previous =>
    (obs.idleAgeSince previous).isSome && s.stablePair obs previous
  let s := s.recordTtlObservation (rowOf endpointHash obs idleAgeS clean)
  let profile := s.profileFor key
  if clean = true ∧ idleAgeS.isSome = true then
    match profile <|> obs.freshProfile endpointHash with
    | none => (s, .raised)
    | some profile =>
        let profile := { profile.observe obs.outcome idleAgeS with updatedAt := some obs.timestamp }
        (s.upsertProfile profile, .returned (some profile))
  else
    match previous, profile with
    | some previous, some profile =>
        -- A new route context: its confidence starts fresh, its bounds stay.
        if previous.routeHash ≠ obs.routeHash then
          let profile :=
            { profile with confidence := Confidence.fresh, updatedAt := some obs.timestamp }
          (s.upsertProfile profile, .returned (some profile))
        else (s, .returned (some profile))
    | _, profile => (s, .returned profile)

end TtlStore

/-! ### Histories -/

/-- What reaches the store: observations through the learner, and churn events. -/
inductive TtlEvent where
  | observed (obs : TTLObservation)
  | churned (event : ChurnRecord)

namespace TtlStore

def apply (endpointHash : String → String) (s : TtlStore) : TtlEvent → TtlStore
  | .observed obs => (s.learn endpointHash obs).1
  | .churned event => s.recordChurn event

/-- The store after a history, from an empty one. -/
def ofHistory (endpointHash : String → String) (events : List TtlEvent) : TtlStore :=
  events.foldl (apply endpointHash) {}

end TtlStore

/-- The observations of a history, in order. -/
def observationsOf (events : List TtlEvent) : List TTLObservation :=
  events.filterMap fun
    | .observed obs => some obs
    | .churned _ => none

/-- The churn events of a history, in order. -/
def churnOf (events : List TtlEvent) : List ChurnRecord :=
  events.filterMap fun
    | .observed _ => none
    | .churned event => some event

/-! ### The resolver -/

/-- A TTL supplied by the provider adapter. -/
structure TTLHint where
  ttlS : ℚ
  confidence : ℚ
  source : String
deriving DecidableEq

/-- Where a resolved TTL comes from. -/
inductive TTLSource where
  | force
  | learned
  | adapterHint
  | default
deriving DecidableEq, Repr

/-- One TTL resolution with its provenance. -/
structure TTLResolution where
  ttlS : ℚ
  confidence : ℚ
  source : TTLSource
deriving DecidableEq

/-- The override hierarchy for one lease's route. -/
structure TTLResolver where
  lookup : Option (String → Option TTLProfile) := none
  forceSeconds : Option ℚ := none
  defaultTtlS : ℚ := 300
  minimumSamples : ℤ := 3

/-- The learned TTL of a profile, if the profile is trusted. -/
def TTLProfile.trustedEstimate (p : TTLProfile) (minimumSamples : ℤ) (adapterHint : Option ℚ) :
    Option ℚ :=
  (p.estimate adapterHint).filter fun _ =>
    decide (highConfidenceThreshold ≤ p.confidence.value) &&
      decide (minimumSamples ≤ p.sampleCount)

/-- A forced TTL, else a trusted learned one, else a positive hint, else the default. -/
def TTLResolver.resolve (r : TTLResolver) (endpointHash : String → String)
    (provider model apiMode endpoint : String) (routeHash : Option String)
    (adapterHint : Option TTLHint) : TTLResolution :=
  match r.forceSeconds with
  | some seconds => { ttlS := seconds, confidence := 1, source := .force }
  | none =>
      let profile := r.lookup.bind fun find =>
        find (joinKey provider model apiMode (endpointHash endpoint) routeHash)
      let learned := profile.bind fun p =>
        (p.trustedEstimate r.minimumSamples (adapterHint.map TTLHint.ttlS)).map fun ttlS =>
          { ttlS, confidence := p.confidence.value, source := .learned : TTLResolution }
      let hinted := (adapterHint.filter fun hint => 0 < hint.ttlS).map fun hint =>
        { ttlS := hint.ttlS, confidence := hint.confidence, source := .adapterHint : TTLResolution }
      (learned <|> hinted).getD { ttlS := r.defaultTtlS, confidence := 1 / 2, source := .default }

end CachePilot
