/-
Module: CachePilot.Relay.ChurnRecords
Layer: Relay
Purpose: How the observer records requests one after the other. The events of the store survive a restart; the last
  body of each session is kept in memory only, up to a size and for a number of sessions, of which the oldest is
  evicted. A request that changes the cache fingerprint of its session is classified against the session's last
  event, with the body that was kept. A write that fails leaves the rest of the recording undone.
Trusted boundary: the reading of RequestObserver; the events of the store are the list of what was written
Main exports: ObserverConfig, RequestObserver, ObserverAction, RequestObserver.rememberBody, RequestObserver.record,
  observerStep
-/
import CachePilot.Lib.Execution
import CachePilot.Relay.Observer

namespace CachePilot

/-- What the observer of a process is given, and how long a body is. -/
structure ObserverConfig (B : Type) where
  churnDetectionEnabled : Bool := true
  patterns : ChurnPatterns
  prims : TextPrimitives
  text : BodyText B
  bytes : B → ℕ

/-- The size up to which a body is kept. -/
def bodyCacheMaxBytes : ℕ := 1048576

/-- The number of sessions whose last body is kept. -/
def bodyCacheMaxSessions : ℕ := 32

/-- A recorded change of a session's cache fingerprint. -/
structure ChurnEvent where
  timestamp : ℚ
  sessionHash : Option String
  previousCacheFingerprint : String
  newCacheFingerprint : String
  provider : String
  model : String
  routeHash : Option String
  flags : ChurnFlags
  classification : ChurnClassification

/-- The stored events, newest first, and the last bodies in memory. -/
structure RequestObserver (B : Type) where
  requestEvents : List TelemetryEvent := []
  churnEvents : List ChurnEvent := []
  lastBody : Dict String B := ∅

/-- One observed request, with its response and whether the two writes succeed; or the relay starts again. -/
inductive ObserverAction (B : Type) where
  | observe (request : PhysicalRequest B) (responseHeaders : List (String × String)) (usage : TokenUsage)
      (outcome : Outcome) (timestamp : ℚ) (requestStored churnStored : Bool)
  | restart

namespace RequestObserver

variable {B : Type}

/-- The most recent event of a session. -/
def lastEventForSession (o : RequestObserver B) (sessionHash : String) : Option TelemetryEvent :=
  o.requestEvents.find? fun event => event.sessionHash = some sessionHash

/-- Make room for a session that is not known yet. -/
def evictOldest (bodies : Dict String B) (sessionHash : String) : Dict String B :=
  if sessionHash ∉ bodies.keys ∧ bodyCacheMaxSessions ≤ bodies.keys.length then
    match bodies.keys with
    | [] => bodies
    | oldest :: _ => bodies.erase oldest
  else bodies

/-- Keep the last body of a session; the body that was kept before is returned. -/
def rememberBody (cfg : ObserverConfig B) (o : RequestObserver B) (sessionHash : Option String)
    (body : Option B) : Option B × RequestObserver B :=
  match sessionHash, body with
  | some sessionHash, some body =>
      if !cfg.churnDetectionEnabled then (none, o)
      else if bodyCacheMaxBytes < cfg.bytes body then (none, o)
      else
        (o.lastBody.get? sessionHash,
          { o with lastBody := (evictOldest o.lastBody sessionHash).set sessionHash body })
  | _, _ => (none, o)

/-- The churn event of a change, with its classification. -/
def churnEvent (cfg : ObserverConfig B) (previous event : TelemetryEvent) (previousBody currentBody : Option B) :
    ChurnEvent where
  timestamp := event.timestamp
  sessionHash := event.sessionHash
  previousCacheFingerprint := previous.cacheFingerprint
  newCacheFingerprint := event.cacheFingerprint
  provider := event.provider
  model := event.model
  routeHash := event.routeHash
  flags := churnFlags previous event
  classification := classifyChurn cfg.patterns cfg.prims cfg.text previous event previousBody currentBody

/-- Record the change from the previous event, unless churn detection is off. -/
def recordChurn (cfg : ObserverConfig B) (o : RequestObserver B) (previous event : TelemetryEvent)
    (previousBody currentBody : Option B) (churnStored : Bool) : RequestObserver B :=
  if cfg.churnDetectionEnabled && churnStored then
    { o with churnEvents := churnEvent cfg previous event previousBody currentBody :: o.churnEvents }
  else o

/-- Record an event: the previous event of the session is read first, then the body is kept, then the event is
    written and the change is recorded. -/
def record (cfg : ObserverConfig B) (o : RequestObserver B) (event : TelemetryEvent) (body : Option B)
    (requestStored churnStored : Bool) : RequestObserver B :=
  let previous := event.sessionHash.bind o.lastEventForSession
  let (previousBody, o) := rememberBody cfg o event.sessionHash body
  if requestStored then
    let o := { o with requestEvents := event :: o.requestEvents }
    match previous with
    | none => o
    | some previous =>
        if previous.cacheFingerprint ≠ event.cacheFingerprint then
          recordChurn cfg o previous event previousBody body churnStored
        else o
  else o

end RequestObserver

/-- One step of the observer; a request that cannot be read is not recorded. -/
def observerStep {B : Type} (cfg : ObserverConfig B) (o : RequestObserver B) :
    ObserverAction B → Option (RequestObserver B)
  | .observe request responseHeaders usage outcome timestamp requestStored churnStored =>
      match request.observe cfg.prims cfg.text responseHeaders usage outcome timestamp with
      | none => some o
      | some observed => some (o.record cfg observed.event (some request.body) requestStored churnStored)
  | .restart => some { o with lastBody := ∅ }

end CachePilot
