/-
Module: CachePilot.Relay.RouteAffinity
Layer: Relay
Purpose: Route affinity in the relay. When a response arrives the observer records the request and analyses a change
  of the session's route; right behind it the controller ends the request, drops a pin that was consumed and may set
  a new one, from the newest route change of the whole session. When a request arrives the controller starts it, and
  a live pin of its lease goes into the body that is forwarded. The adapter that writes the pin into the body is
  given. The store's tables are the lists of what was recorded; a route change is kept with the two events it was
  read from. How far the observer comes with its writes is given with each step. Which pin went into which request
  is kept only to be spoken about.
Trusted boundary: the reading of proxy.py and lease_controller.py; the tables are lists of what was recorded
Main exports: RouteChange, TelemetryLog, TelemetryLog.recorded, AffinityRelayConfig, affinityRoute,
  reconcileAffinity, applyAffinity, AffinityRelay, AffinityAction, affinityStep
-/
import CachePilot.Core.RouteAffinity
import CachePilot.Core.TelemetryStore
import CachePilot.Relay.Exchanges

namespace CachePilot

/-! ### What the observer records -/

/-- A change of a session's route: its previous event, the event of the request, and the route of the response. -/
structure RouteChange where
  previous : RequestEventRecord
  event : RequestEventRecord
  route : RouteIdentity

namespace RouteChange

variable (change : RouteChange)

/-- The same logical request: nothing but the route has changed. -/
def identityStable : Bool :=
  change.previous.systemHash = change.event.systemHash && change.previous.toolsHash = change.event.toolsHash &&
    change.previous.historyHash = change.event.historyHash && change.previous.model = change.event.model &&
    change.previous.provider = change.event.provider

def verdict : RouteMissVerdict :=
  RouterMissClassifier.classify (some change.previous.outcome) change.previous.routeHash change.event.outcome
    change.event.routeHash change.identityStable

/-- The route event that is handed to the store. -/
def record : RouteEventRecord where
  timestamp := change.event.timestamp
  sessionHash := change.event.sessionHash
  cacheFingerprint := change.event.cacheFingerprint
  requestFingerprint := some change.event.requestFingerprint
  previousRouteHash := change.previous.routeHash
  newRouteHash := change.event.routeHash
  gateway := change.route.gateway
  upstreamProvider := change.route.upstreamProvider
  endpoint := change.route.endpoint
  region := change.route.region
  deployment := change.route.deployment
  verdict := change.verdict

end RouteChange

/-- The request events and the route changes that were recorded, oldest first. -/
structure TelemetryLog where
  requests : List RequestEventRecord := []
  routeChanges : List RouteChange := []

/-- How far the observer comes with one request: it writes nothing, or the request event, or it analyses the route
    too. -/
inductive ObserverReach where
  | nothing
  | request
  | analysed
deriving DecidableEq

namespace TelemetryLog

variable (log : TelemetryLog)

/-- Most recent request event for one session. -/
def lastEventForSession (sessionHash : String) : Option RequestEventRecord :=
  log.requests.reverse.find? fun event => event.sessionHash = some sessionHash

/-- Newest route change of one session that was recorded from a time on; a time that has no date raises. -/
def lastRouteChangeForSession (sessionHash : String) (since : ℚ) : Option (Option RouteChange) :=
  (UtcTime.fromTimestamp since).map fun moment =>
    log.routeChanges.reverse.find? fun change => change.record.Since sessionHash moment

/-- The route change that an event makes, if its session was on another route before. -/
def routeChange? (event : RequestEventRecord) (route : RouteIdentity) : Option RouteChange :=
  match event.sessionHash.bind log.lastEventForSession with
  | none => none
  | some previous => if previous.routeHash = event.routeHash then none else some { previous, event, route }

/-- What is recorded for an event. -/
def recorded (event : RequestEventRecord) (route : RouteIdentity) : ObserverReach → TelemetryLog
  | .nothing => log
  | .request => { log with requests := log.requests ++ [event] }
  | .analysed =>
      { requests := log.requests ++ [event]
        routeChanges := log.routeChanges ++ (log.routeChange? event route).toList }

end TelemetryLog

/-- The event as it is handed to the store; a clock that shows no date raises. -/
def TelemetryEvent.record (event : TelemetryEvent) : Option RequestEventRecord :=
  (UtcTime.now event.timestamp).map fun timestamp =>
    { requestFingerprint := event.requestFingerprint
      cacheFingerprint := event.cacheFingerprint
      provider := event.provider
      model := event.model
      routeHash := event.routeHash
      usage := event.usage
      outcome := event.outcome
      sessionHash := event.sessionHash
      timestamp
      systemHash := event.systemHash
      toolsHash := event.toolsHash
      historyHash := event.historyHash
      toolsSetHash := event.toolsSetHash }

/-! ### Settings -/

/-- What a provider adapter does with a pin. It gives back the request with the route pinned, or none when it leaves
    the request as it is or raises. -/
structure AffinityAdapter where
  canPinRoute : Bool := false
  applyRouteAffinity : List (String × Json) → String → Option (List (String × Json)) := fun _ _ => none

/-- Constructor arguments of the proxy and its controller. -/
structure AffinityRelayConfig where
  controller : ControllerConfig := {}
  routeAffinityEnabled : Bool := false
  affinity : AffinityConfig := {}
  affinityExtraCostUsd : ℚ := 0
  hasStore : Bool := true
  adapter : AffinityAdapter := {}

/-! ### The controller's part -/

section Controller

variable (cfg : AffinityRelayConfig)

/-- Expected cache recompute savings: from the lease's cost estimates, else from the configured pricing table. None
    when pricing is unknown. -/
def affinitySavings (lease : CacheLease) : Option ℚ :=
  match lease.estimatedColdResumeCostUsd, lease.estimatedCachedResumeCostUsd with
  | some cold, some cached => some (cold - cached)
  | _, _ =>
      match cfg.controller.manager.settings.pricing, lease.prefixTokens with
      | some pricing, some prefixTokens =>
          if prefixTokens = 0 then none
          else
            let (cold, cached) := estimateResumeCosts prefixTokens pricing
            some (cold - cached)
      | _, _ => none

/-- A hash that is there and not empty. -/
def truthyHash (hash : Option String) : Option String := hash.filter fun text => text ≠ ""

/-- The route that a lease is to be pinned to: the one in front of the newest route change of its session, when that
    change made a warm request miss and the economic gate approves. -/
def affinityRoute (prims : TextPrimitives) (log : TelemetryLog) (lease : CacheLease) : Option String := do
  let found ← log.lastRouteChangeForSession (prims.sha256 lease.sessionId) lease.lastRealRequestAt
  let change ← found
  guard (change.verdict = .routeInstability)
  let previous ← truthyHash change.record.previousRouteHash
  let _ ← truthyHash change.record.newRouteHash
  let savings ← affinitySavings cfg lease
  guard (RouteAffinityPolicy.evaluate cfg.affinity savings cfg.affinityExtraCostUsd
    cfg.controller.manager.settings.resumeProbability).apply
  pure previous

/-- Set a lease-scoped, temporary affinity to the previous route. -/
def maybeSetAffinity (prims : TextPrimitives) (log : TelemetryLog) (now : ℚ) (registry : RouteAffinityRegistry)
    (leaseId : LeaseId) (lease : CacheLease) : RouteAffinityRegistry :=
  match affinityRoute cfg prims log lease with
  | some route => registry.set leaseId route (now + max lease.estimatedTtlS 0) lease.generation
  | none => registry

/-- A pin whose generation the lease has left behind was consumed. -/
def dropConsumed (registry : RouteAffinityRegistry) (leaseId : LeaseId) (generation : ℕ) : RouteAffinityRegistry :=
  match registry.generationFor leaseId with
  | some set => if set < generation then registry.clear leaseId else registry
  | none => registry

/-- Keep affinity reversible, then set a fresh pin when warranted. -/
def reconcileAffinity (prims : TextPrimitives) (log : TelemetryLog) (world : World) (registry : RouteAffinityRegistry)
    (leaseId : LeaseId) (outcome : Outcome) : RouteAffinityRegistry :=
  if !cfg.affinity.enabled || !cfg.hasStore then registry
  else
    match world.lease? leaseId with
    | none => registry
    | some t =>
        if outcome = .failed then registry.clear leaseId
        else
          maybeSetAffinity cfg prims log world.clock (dropConsumed registry leaseId t.lease.generation) leaseId t.lease

/-- The pin of a lease's request, if affinity is on and the lease exists. -/
def activeAffinityRoute (world : World) (registry : RouteAffinityRegistry) (leaseId : LeaseId) :
    RouteAffinityRegistry × Option AffinityEntry :=
  if !cfg.affinity.enabled then (registry, none)
  else
    match world.lease? leaseId with
    | none => (registry, none)
    | some t => registry.activeRouteFor world.clock leaseId t.lease.generation

/-! ### The proxy's part -/

/-- The body with a route pinned; none when it is forwarded as it is. -/
def pinnedBody {B : Type} (text : BodyText B) (body : B) (route : String) : Option B := do
  let parsed ← jsonOrNone text body
  let modified ← cfg.adapter.applyRouteAffinity parsed route
  text.serialise modified

/-- Apply an active route affinity to the forwarded body: the pin that was applied, and the body with it. -/
def applyAffinity {B : Type} (text : BodyText B) (world : World) (registry : RouteAffinityRegistry) (body : B)
    (ctx : Option LeaseRequestContext) : RouteAffinityRegistry × Option (AffinityEntry × B) :=
  match ctx with
  | none => (registry, none)
  | some ctx =>
      if !cfg.routeAffinityEnabled || !cfg.adapter.canPinRoute then (registry, none)
      else
        let (registry, active) := activeAffinityRoute cfg world registry ctx.leaseId
        (registry, do
          let entry ← active
          let pinned ← pinnedBody cfg text body entry.route
          pure (entry, pinned))

end Controller

/-! ### Forwarded requests -/

/-- A request that waits for its response, with the body that was forwarded. -/
structure Forwarded (B : Type) where
  request : PhysicalRequest B
  ctx : Option LeaseRequestContext

/-- A pin that went into a forwarded request, and when. -/
structure AffinityUse (B : Type) where
  entry : AffinityEntry
  eid : ExchangeId
  forwarded : Forwarded B
  usedAt : ℚ

/-- The controller with its pins, what the store holds, the requests that wait, and the uses of pins. -/
structure AffinityRelay (B : Type) where
  controller : LeaseController := {}
  registry : RouteAffinityRegistry := {}
  log : TelemetryLog := {}
  waiting : Dict ExchangeId (Forwarded B) := ∅
  uses : List (AffinityUse B) := []

/-- A request arrives, its response was observed, it failed, or an exception left it; or the scheduler and the
    clock move. -/
inductive AffinityAction (B : Type) where
  | arrives (eid : ExchangeId) (request : PhysicalRequest B)
  | completes (eid : ExchangeId) (response : UpstreamResponse) (condition : ObserverCondition)
      (reach : ObserverReach) (answer : ResolverAnswer)
  | fails (eid : ExchangeId) (condition : ObserverCondition) (reach : ObserverReach) (answer : ResolverAnswer)
  | leaves (eid : ExchangeId)
  | scheduler (a : Action)

section Steps

variable {B : Type} (cfg : AffinityRelayConfig) (prims : TextPrimitives) (text : BodyText B)

namespace AffinityRelay

/-- What the store holds when the observer is done with a request; one that it cannot read raises. -/
def observed (x : AffinityRelay B) (request : PhysicalRequest B) (responseHeaders : List (String × String))
    (usage : TokenUsage) (outcome : Outcome) (reach : ObserverReach) : TelemetryLog :=
  let observation := request.observe prims text responseHeaders usage outcome x.controller.world.clock
  match observation.bind fun o => o.event.record with
  | some event => x.log.recorded event (extractRouteIdentity request.upstreamUrl responseHeaders) reach
  | none => x.log

/-- The request is ended with the controller. A resolver that raises leaves the pins as they are. -/
def leaseEnd (x : AffinityRelay B) (ctx : Option LeaseRequestContext) (outcome : Outcome)
    (usage : Option TokenUsage) (routeHash : Option String) (answer : ResolverAnswer) : AffinityRelay B :=
  match ctx with
  | none => x
  | some ctx =>
      let controller := x.controller.onRequestEnd cfg.controller ctx outcome usage routeHash answer
      let registry :=
        if cfg.controller.enabled ∧ answer ≠ .raised then
          reconcileAffinity cfg prims x.log controller.world x.registry ctx.leaseId outcome
        else x.registry
      { x with controller, registry }

/-- The controller has started the request; it is sent with the pin of its lease, if there is one to apply. -/
def send (x : AffinityRelay B) (eid : ExchangeId) (request : PhysicalRequest B) (controller : LeaseController)
    (ctx : Option LeaseRequestContext) : AffinityRelay B :=
  let registry := if ctx.isSome then x.registry.prune controller.world.manager.leases.keys else x.registry
  let (registry, pinned) := applyAffinity cfg text controller.world registry request.body ctx
  match pinned with
  | none => { x with controller, registry, waiting := x.waiting.set eid { request, ctx } }
  | some (entry, body) =>
      let forwarded : Forwarded B := { request := { request with body }, ctx }
      { x with
        controller
        registry
        waiting := x.waiting.set eid forwarded
        uses := x.uses ++ [{ entry, eid, forwarded, usedAt := controller.world.clock }] }

/-- The request is forwarded. -/
def forward (x : AffinityRelay B) (eid : ExchangeId) (request : PhysicalRequest B) : AffinityRelay B :=
  let (controller, ctx) := x.controller.receive cfg.controller prims text request
  x.send cfg text eid request controller ctx

end AffinityRelay

/-- One step of the relay. -/
def affinityStep (x : AffinityRelay B) : AffinityAction B → Option (AffinityRelay B)
  | .arrives eid request =>
      match x.waiting.get? eid with
      | some _ => none
      | none => some (x.forward cfg prims text eid request)
  | .completes eid response condition reach answer =>
      match x.waiting.get? eid with
      | none => none
      | some f =>
          let log := x.observed prims text f.request response.headers ((response.usage .recording).getD {})
            (response.outcome .recording) reach
          let routeHash := (extractRouteIdentity f.request.upstreamUrl response.headers).routeHash prims
          let x := { x with log, waiting := x.waiting.erase eid }
          some (x.leaseEnd cfg prims f.ctx (response.outcome condition) (response.usage condition) routeHash answer)
  | .fails eid condition reach answer =>
      match x.waiting.get? eid with
      | none => none
      | some f =>
          let log := x.observed prims text f.request [] {} .failed reach
          let x := { x with log, waiting := x.waiting.erase eid }
          some (x.leaseEnd cfg prims f.ctx ((observeFailure condition).getD .failed) none none answer)
  | .leaves eid => some { x with waiting := x.waiting.erase eid }
  | .scheduler a =>
      if a.isScheduler then
        (step cfg.controller.manager x.controller.world a).map fun world =>
          { x with controller := { x.controller with world } }
      else none

/-- The relay starts with an empty manager, no pins, an empty store and no requests. -/
def AffinityRelay.Initial (x : AffinityRelay B) : Prop :=
  x.controller.world.Initial ∧ x.controller.targetIds = ∅ ∧ x.registry.entries = ∅ ∧ x.registry.issued = [] ∧
    x.log.requests = [] ∧ x.log.routeChanges = [] ∧ x.waiting = ∅ ∧ x.uses = []

end Steps

end CachePilot
