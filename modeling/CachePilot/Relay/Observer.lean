/-
Module: CachePilot.Relay.Observer
Layer: Relay
Purpose: What the observer records of one request: the telemetry event with the hashes of its content, the
  observation that the TTL learner is fed with, and the flags of a churn event against the session's previous
  event. The route is the one that the response names; everything else is read from the request as the lease
  controller reads it. A churn event is classified from the two bodies, or from the stored hashes when one of them
  is missing or cannot be read.
Trusted boundary: the reading of observation.py; the body parser and the digest are parameters
Main exports: TelemetryEvent, PhysicalRequest.observedCanonical, ObservedRequest, PhysicalRequest.observe,
  churnFlags, classifyChurn
-/
import CachePilot.Core.Churn
import CachePilot.Core.Ttl
import CachePilot.Relay.PhysicalRequests

namespace CachePilot

/-- One observed provider request: fingerprints and hashes, no content. -/
structure TelemetryEvent where
  requestFingerprint : String
  cacheFingerprint : String
  provider : String
  model : String
  routeHash : Option String
  usage : TokenUsage
  outcome : Outcome
  sessionHash : Option String
  timestamp : ℚ
  systemHash : Option String
  toolsHash : Option String
  historyHash : Option String
  toolsSetHash : Option String

/-- Hash a correlation-header value for storage. -/
def hashCorrelationValue (prims : TextPrimitives) (value : String) : Option String :=
  if value = "" then none else some (prims.sha256 value)

/-- The event that is recorded for a canonical request. -/
def telemetryEvent (prims : TextPrimitives) (c : CanonicalRequest) (usage : TokenUsage) (outcome : Outcome)
    (routeHash : Option String) (sessionHeader : String) (historyHash : Option String) (timestamp : ℚ) :
    TelemetryEvent where
  requestFingerprint := requestFingerprint prims c
  cacheFingerprint := cacheFingerprint prims c
  provider := c.provider
  model := c.model
  routeHash := routeHash
  usage := usage
  outcome := outcome
  sessionHash := hashCorrelationValue prims sessionHeader
  timestamp := timestamp
  systemHash := some c.systemHash
  toolsHash := some c.toolsHash
  historyHash := historyHash
  toolsSetHash := c.toolsSetHash

/-- What the learner is fed with for a canonical request. -/
def ttlObservation (c : CanonicalRequest) (cacheFp : String) (outcome : Outcome) (routeHash : Option String)
    (timestamp : ℚ) : TTLObservation where
  outcome := outcome
  cacheFingerprint := cacheFp
  routeHash := routeHash
  provider := c.provider
  model := c.model
  apiMode := c.apiMode.value
  endpoint := c.endpoint
  timestamp := timestamp

/-- What is recorded for one request. -/
structure ObservedRequest where
  event : TelemetryEvent
  observation : TTLObservation

namespace PhysicalRequest

variable {B : Type} (prims : TextPrimitives) (text : BodyText B) (request : PhysicalRequest B)

/-- The canonical request as the observer builds it, with the route that the response names. -/
def observedCanonical (responseHeaders : List (String × String)) : Option CanonicalRequest :=
  buildCanonicalRequest prims text request.body request.path request.upstreamUrl
    ((extractRouteIdentity request.upstreamUrl responseHeaders).routeHash prims)
    (deriveAuthScope prims request.headers)

/-- What the observer records for a request and its response; none when the request cannot be read. -/
def observe (responseHeaders : List (String × String)) (usage : TokenUsage) (outcome : Outcome)
    (timestamp : ℚ) : Option ObservedRequest :=
  match request.observedCanonical prims text responseHeaders, extractHistoryHash prims text request.body with
  | some c, some historyHash =>
      let routeHash := (extractRouteIdentity request.upstreamUrl responseHeaders).routeHash prims
      let event :=
        telemetryEvent prims c usage outcome routeHash request.sessionHeader historyHash timestamp
      some { event, observation := ttlObservation c event.cacheFingerprint outcome routeHash timestamp }
  | _, _ => none

end PhysicalRequest

/-! ### Churn -/

/-- The flags of the transition between two events. -/
def churnFlags (previous event : TelemetryEvent) : ChurnFlags :=
  let systemChanged := decide (previous.systemHash ≠ event.systemHash)
  let toolsChanged := decide (previous.toolsHash ≠ event.toolsHash)
  let historyChanged := decide (previous.historyHash ≠ event.historyHash)
  let routeChanged := decide (previous.routeHash ≠ event.routeHash)
  let modelChanged := decide (previous.model ≠ event.model)
  { systemChanged, toolsChanged, historyChanged, routeChanged, modelChanged
    cacheKeyChanged :=
      !(systemChanged || toolsChanged || historyChanged || routeChanged || modelChanged) }

/-- The hashes that are stored with an event. -/
def TelemetryEvent.storedHashes (event : TelemetryEvent) : LayeredHashes where
  systemHash := event.systemHash
  toolsHash := event.toolsHash
  historyHash := event.historyHash
  routeHash := event.routeHash
  model := some event.model

/-- The content of the request of an event, as it is classified. -/
def TelemetryEvent.content (prims : TextPrimitives) (event : TelemetryEvent) (payload : List (String × Json)) :
    Option RequestContent :=
  requestContentFromPayload prims payload event.routeHash (some event.model) none

/-- Classify the transition between two events, from the two bodies when both can be read. -/
def classifyChurn {B : Type} (patterns : ChurnPatterns) (prims : TextPrimitives) (text : BodyText B)
    (previous event : TelemetryEvent) (previousBody currentBody : Option B) : ChurnClassification :=
  let contents := do
    let previousPayload ← previousBody.bind (jsonOrNone text)
    let currentPayload ← currentBody.bind (jsonOrNone text)
    let previousContent ← previous.content prims previousPayload
    let currentContent ← event.content prims currentPayload
    pure (previousContent, currentContent)
  match contents with
  | some (previousContent, currentContent) => Churn.classify patterns prims previousContent currentContent true
  | none => Churn.classifyHashes previous.storedHashes event.storedHashes true

end CachePilot
