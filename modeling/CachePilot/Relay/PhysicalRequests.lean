/-
Module: CachePilot.Relay.PhysicalRequests
Layer: Relay
Purpose: The relay over physical requests. What reaches the controller is a request with its bytes, path, URL
  and headers; the controller builds the canonical request from them, and files the lease under its fields
  and its two fingerprints. A request of which no canonical request can be built raises inside the controller,
  which then tracks nothing. The count of background targets is modelled as it is after parsing.
Trusted boundary: the reading of lease_controller.py; the body parser and the digest are parameters
Main exports: PhysicalRequest, PhysicalRequest.canonical, PhysicalRequest.startRequest, PhysicalAction,
  physicalStep, credentialHeaders, credentials
-/
import CachePilot.Relay.LeaseController
import CachePilot.Relay.Observation

namespace CachePilot

/-- A request as it arrives at the relay; an absent session header reads like an empty one. -/
structure PhysicalRequest (B : Type) where
  body : B
  path : String := ""
  upstreamUrl : String
  headers : List (String × String) := []
  sessionHeader : String := ""
  targetsCount : ℕ := 0
  answer : ResolverAnswer := .noResolver

/-- The identity that the controller asks the registry for. -/
def leaseIdentity (prims : TextPrimitives) (sessionId : String) (c : CanonicalRequest) : LeaseIdentity where
  sessionId := sessionId
  provider := c.provider
  model := c.model
  apiMode := c.apiMode.value
  baseUrl := c.endpoint
  authScopeHash := c.authScope
  routeFingerprint := c.route
  requestFingerprint := requestFingerprint prims c
  cacheFingerprint := cacheFingerprint prims c
  systemFingerprint := c.systemHash
  toolsFingerprint := c.toolsHash
  historyPrefixFingerprint := c.promptKey

namespace PhysicalRequest

variable {B : Type} (prims : TextPrimitives) (text : BodyText B) (request : PhysicalRequest B)

/-- The canonical request, with the route that is observable before the response. -/
def canonical : Option CanonicalRequest :=
  buildCanonicalRequest prims text request.body request.path request.upstreamUrl
    ((requestRouteIdentity request.upstreamUrl).routeHash prims) (deriveAuthScope prims request.headers)

/-- What the controller starts with, when the canonical request can be built. -/
def startRequest : Option StartRequest :=
  (request.canonical prims text).map fun c =>
    { identity := leaseIdentity prims request.sessionHeader c
      targetsCount := request.targetsCount
      body := jsonOrNone text request.body
      upstreamUrl := request.upstreamUrl
      headers := request.headers
      answer := request.answer }

end PhysicalRequest

/-- A physical request arrives, one that was tracked ends, or the scheduler and the clock move. -/
inductive PhysicalAction (B : Type) where
  | arrives (request : PhysicalRequest B)
  | requestEnd (ctx : LeaseRequestContext) (outcome : Outcome) (usage : Option TokenUsage)
      (routeHash : Option String) (answer : ResolverAnswer)
  | scheduler (a : Action)

/-- What the relay does in a step, none when the request cannot be read. -/
def PhysicalAction.read {B : Type} (prims : TextPrimitives) (text : BodyText B) :
    PhysicalAction B → Option RelayAction
  | .arrives request => (request.startRequest prims text).map .requestStart
  | .requestEnd ctx outcome usage routeHash answer =>
      some (.requestEnd ctx outcome usage routeHash answer)
  | .scheduler a => some (.scheduler a)

/-- One step of the relay over physical requests. A request that cannot be read changes nothing. -/
def physicalStep {B : Type} (cfg : ControllerConfig) (prims : TextPrimitives) (text : BodyText B) (r : Relay)
    (a : PhysicalAction B) : Option Relay :=
  match a.read prims text with
  | some action => relayStep cfg r action
  | none => some r

theorem physicalStep_of_read {B : Type} {cfg : ControllerConfig} {prims : TextPrimitives} {text : BodyText B}
    {a : PhysicalAction B} {action : RelayAction} (known : a.read prims text = some action) (r : Relay) :
    physicalStep cfg prims text r a = relayStep cfg r action := by
  rw [physicalStep, known]

/-- A run over physical requests is the run of the relay over what was read of them. -/
theorem exec_physicalStep {B : Type} (cfg : ControllerConfig) (prims : TextPrimitives) (text : BodyText B)
    (r : Relay) (acts : List (PhysicalAction B)) :
    Execution.exec (physicalStep cfg prims text) r acts =
      Execution.exec (relayStep cfg) r (acts.filterMap (PhysicalAction.read prims text)) := by
  induction acts generalizing r with
  | nil => rfl
  | cons a acts ih =>
      rw [Execution.exec_cons]
      cases known : a.read prims text with
      | none => rw [physicalStep, known, List.filterMap_cons_none known, Option.bind_some, ih]
      | some action =>
          rw [physicalStep_of_read known, List.filterMap_cons_some known, Execution.exec_cons]
          exact congrArg _ (funext fun t => ih t)

/-- The replayed headers that authenticate. -/
def credentialHeaders : List String := ["authorization", "api-key"]

/-- The values of the credential headers among replayed ones. -/
def credentials (replayed : List (String × String)) : List (Option String) :=
  credentialHeaders.map fun name => replayed.lookup name

end CachePilot
