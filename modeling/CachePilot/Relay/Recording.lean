/-
Module: CachePilot.Relay.Recording
Layer: Relay
Purpose: What the observer does with one request, from the first query to the last write, over the tables of the store:
  it reads the last event of the session, keeps the body, writes the event, records a change of the cache identity,
  analyses a change of the route, and feeds the learner. The change is recorded before the learner is fed. A request
  or a churn event that cannot be written leaves the rest undone; the route analysis and the learner fail on their
  own. A restart forgets the bodies and nothing else.
Trusted boundary: the reading of RequestObserver over the statements of storage.py
Main exports: RecorderConfig, RecorderReach, Recorder, Recorder.previousEvent, RecorderConfig.churnRecord,
  Recorder.record, RecorderAction, recorderStep
-/
import CachePilot.Core.StoredLearner
import CachePilot.Core.TopologyReport
import CachePilot.Relay.ChurnRecords
import CachePilot.Relay.RouteAffinity

namespace CachePilot

/-! ### Conversions -/

/-- A stored request event as it was handed to the store. -/
def StoredRequestEvent.asRecord (row : StoredRequestEvent) : RequestEventRecord where
  requestFingerprint := row.requestFingerprint
  cacheFingerprint := row.cacheFingerprint
  provider := row.provider
  model := row.model
  routeHash := row.routeHash
  usage :=
    { promptTokens := row.inputTokens
      completionTokens := row.outputTokens
      cacheReadTokens := row.cacheReadTokens
      cacheWriteTokens := row.cacheWriteTokens
      cost := row.costUsd }
  outcome := row.outcome
  requestKind := row.requestKind
  sessionHash := row.sessionHash
  timestamp := row.timestamp
  systemHash := row.systemHash
  toolsHash := row.toolsHash
  historyHash := row.historyHash
  toolsSetHash := row.toolsSetHash

/-- A recorded event as the classifier reads it. -/
def RequestEventRecord.asEvent (event : RequestEventRecord) : TelemetryEvent where
  requestFingerprint := event.requestFingerprint
  cacheFingerprint := event.cacheFingerprint
  provider := event.provider
  model := event.model
  routeHash := event.routeHash
  usage := event.usage
  outcome := event.outcome
  sessionHash := event.sessionHash
  timestamp := event.timestamp.seconds
  systemHash := event.systemHash
  toolsHash := event.toolsHash
  historyHash := event.historyHash
  toolsSetHash := event.toolsSetHash

/-- The event of a request at a time of the host. -/
def TelemetryEvent.recordAt (event : TelemetryEvent) (timestamp : UtcTime) : RequestEventRecord where
  requestFingerprint := event.requestFingerprint
  cacheFingerprint := event.cacheFingerprint
  provider := event.provider
  model := event.model
  routeHash := event.routeHash
  usage := event.usage
  outcome := event.outcome
  sessionHash := event.sessionHash
  timestamp
  systemHash := event.systemHash
  toolsHash := event.toolsHash
  historyHash := event.historyHash
  toolsSetHash := event.toolsSetHash

/-- The observation of a request at a time of the host. -/
def TTLObservation.outcomeAt (obs : TTLObservation) (timestamp : UtcTime) : ObservedOutcome where
  outcome := obs.outcome
  cacheFingerprint := obs.cacheFingerprint
  routeHash := obs.routeHash
  provider := obs.provider
  model := obs.model
  apiMode := obs.apiMode
  endpoint := obs.endpoint
  timestamp

/-! ### The observer -/

/-- What the observer of a process is given. -/
structure RecorderConfig (B : Type) where
  texts : StorageTexts
  patterns : ChurnPatterns
  text : BodyText B
  bytes : B → ℕ
  churnDetectionEnabled : Bool := true
  routeIntelEnabled : Bool := true

/-- How far a call of the learner comes: it writes nothing, or the row of the observation, or the profile too. -/
inductive LearnerReach where
  | nothing
  | row
  | profile
deriving DecidableEq

/-- Which of its writes succeed. -/
structure RecorderReach where
  requestStored : Bool := true
  churnStored : Bool := true
  routeStored : Bool := true
  learner : LearnerReach := .profile
deriving DecidableEq

/-- The tables, and the last bodies in memory. -/
structure Recorder (B : Type) where
  store : TelemetryStore := {}
  lastBody : Dict String B := ∅

namespace RecorderConfig

variable {B : Type} (cfg : RecorderConfig B)

/-- What the bodies are kept with. -/
def observer : ObserverConfig B where
  churnDetectionEnabled := cfg.churnDetectionEnabled
  patterns := cfg.patterns
  prims := cfg.texts.prims
  text := cfg.text
  bytes := cfg.bytes

/-- The churn event of a change, with its classification. -/
def churnRecord (previous event : RequestEventRecord) (previousBody currentBody : Option B) : ChurnEventRecord :=
  let classification :=
    classifyChurn cfg.patterns cfg.texts.prims cfg.text previous.asEvent event.asEvent previousBody currentBody
  { timestamp := event.timestamp
    sessionHash := event.sessionHash
    previousCacheFingerprint := previous.cacheFingerprint
    newCacheFingerprint := event.cacheFingerprint
    provider := some event.provider
    model := some event.model
    routeHash := event.routeHash
    flags := churnFlags previous.asEvent event.asEvent
    likelyCause := classification.likelyCause
    confidence := classification.confidence
    estimatedPrefixLossTokens := classification.estimatedPrefixLossTokens
    firstDivergentOffset := classification.firstDivergentByte.map DivergenceHint.offset
    firstDivergentLayer := classification.firstDivergentByte.map fun hint => hint.layer.value }

/-- Record a change of the cache identity, unless churn detection is off. A write that fails raises. -/
def recordChurn (store : TelemetryStore) (previous : Option RequestEventRecord) (event : RequestEventRecord)
    (previousBody currentBody : Option B) (churnStored : Bool) : Option TelemetryStore :=
  match previous with
  | none => some store
  | some previous =>
      if previous.cacheFingerprint = event.cacheFingerprint ∨ cfg.churnDetectionEnabled = false then some store
      else if churnStored then some (store.recordChurn (cfg.churnRecord previous event previousBody currentBody))
      else none

/-- Record a change of the route with its verdict, if route intelligence is on. -/
def runRouteIntel (store : TelemetryStore) (previous : Option RequestEventRecord) (event : RequestEventRecord)
    (route : RouteIdentity) (routeStored : Bool) : TelemetryStore :=
  match previous with
  | none => store
  | some previous =>
      if cfg.routeIntelEnabled = true ∧ previous.routeHash ≠ event.routeHash ∧ routeStored = true then
        store.recordRouteEvent (RouteChange.record { previous, event, route })
      else store

/-- Feed one observed outcome into the learner. -/
def feedTtlLearner (store : TelemetryStore) (obs : ObservedOutcome) : LearnerReach → TelemetryStore
  | .nothing => store
  | .row => (store.learnedRow cfg.texts.prims.sha256 obs).elim store store.recordTtlObservation
  | .profile => (store.learn cfg.texts.prims.sha256 obs).1

end RecorderConfig

namespace Recorder

variable {B : Type} (cfg : RecorderConfig B) (x : Recorder B)

/-- The last event of a session, if there is one; a row that cannot be read raises. -/
def previousEvent (sessionHash : Option String) : Option (Option RequestEventRecord) :=
  match sessionHash with
  | none => some none
  | some sessionHash =>
      (x.store.lastEventForSession cfg.texts sessionHash).map fun found => found.map StoredRequestEvent.asRecord

/-- Record one request. -/
def record (event : RequestEventRecord) (obs : ObservedOutcome) (route : RouteIdentity) (body : Option B)
    (reach : RecorderReach) : Recorder B :=
  match x.previousEvent cfg event.sessionHash with
  | none => x
  | some previous =>
      let (previousBody, kept) :=
        RequestObserver.rememberBody cfg.observer { lastBody := x.lastBody } event.sessionHash body
      let x := { x with lastBody := kept.lastBody }
      if reach.requestStored then
        let store := x.store.recordRequest cfg.texts event
        match cfg.recordChurn store previous event previousBody body reach.churnStored with
        | none => { x with store }
        | some store =>
            let store := cfg.runRouteIntel store previous event route reach.routeStored
            { x with store := cfg.feedTtlLearner store obs reach.learner }
      else x

end Recorder

/-- One observed request, with its response and how far its recording comes; or the relay starts again. -/
inductive RecorderAction (B : Type) where
  | observe (request : PhysicalRequest B) (responseHeaders : List (String × String)) (usage : TokenUsage)
      (outcome : Outcome) (now : UtcTime) (reach : RecorderReach)
  | restart

/-- One step of the observer; a request that cannot be read is not recorded. -/
def recorderStep {B : Type} (cfg : RecorderConfig B) (x : Recorder B) : RecorderAction B → Option (Recorder B)
  | .observe request responseHeaders usage outcome now reach =>
      match request.observe cfg.texts.prims cfg.text responseHeaders usage outcome now.seconds with
      | none => some x
      | some observed =>
          some
            (x.record cfg (observed.event.recordAt now) (observed.observation.outcomeAt now)
              (extractRouteIdentity request.upstreamUrl responseHeaders) (some request.body) reach)
  | .restart => some { x with lastBody := ∅ }

end CachePilot
