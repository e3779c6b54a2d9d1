/-
Module: CachePilot.Relay.Exchanges
Layer: Relay
Purpose: Requests with their responses. An exchange is a request that the controller tracks and that waits for its
  response; it completes when the response was observed and the request ended with the route that the response
  names, it fails without a response, or it is left by an exception and never ended. A streaming response is
  observed when its headers arrive, a bounded one when its body was read; nothing happens to the lease before.
  The forwarded body is the request's own: no route affinity is pinned.
Trusted boundary: the reading of RelayProxy.forward, with one step for all that happens when a response was read
Main exports: UpstreamResponse, Exchange, Exchanges, ExchangeAction, exchangeStep,
  LeaseController.beforeRefresh, LeaseController.resolvedKey
-/
import CachePilot.Relay.Observer
import CachePilot.Relay.Proxy

namespace CachePilot

/-! ### The key that a refresh resolves -/

/-- The key of the route that the lease's TTL is resolved for. -/
def CacheLease.profileKey (endpointHash : String → String) (lease : CacheLease) : String :=
  joinKey lease.provider lease.model lease.apiMode (endpointHash lease.baseUrl) lease.routeFingerprint

namespace LeaseController

/-- The world when the end of a request comes to refresh the TTL of its lease. -/
def beforeRefresh (cfg : ControllerConfig) (c : LeaseController) (ctx : LeaseRequestContext)
    (outcome : Outcome) (usage : Option TokenUsage) (routeHash : Option String) : World :=
  let w := c.world.applyTo ctx.leaseId (TrackedLease.afterNormalRequest c.world.clock outcome)
  let w := World.refreshCosts cfg.manager w ctx.leaseId usage
  w.observeRoute ctx.leaseId routeHash

/-- The key that the end of a request resolves its lease's TTL for; nothing is resolved when tracking is off. -/
def resolvedKey (endpointHash : String → String) (cfg : ControllerConfig) (c : LeaseController)
    (ctx : LeaseRequestContext) (outcome : Outcome) (usage : Option TokenUsage)
    (routeHash : Option String) : Option String :=
  if cfg.enabled then
    ((c.beforeRefresh cfg ctx outcome usage routeHash).lease? ctx.leaseId).map fun t =>
      t.lease.profileKey endpointHash
  else none

/-- The end of a request refreshes the TTL in that world. -/
theorem lease?_onRequestEnd (cfg : ControllerConfig) (c : LeaseController) (ctx : LeaseRequestContext)
    (outcome : Outcome) (usage : Option TokenUsage) (routeHash : Option String) (answer : ResolverAnswer)
    (enabled : cfg.enabled = true) (id : LeaseId) :
    (c.onRequestEnd cfg ctx outcome usage routeHash answer).world.lease? id =
      ((c.beforeRefresh cfg ctx outcome usage routeHash).applyTo ctx.leaseId
        (TrackedLease.refreshTtl answer)).lease? id := by
  unfold onRequestEnd beforeRefresh
  rw [enabled]
  dsimp only
  split
  · rename_i off
    cases off
  split
  · split <;> rfl
  · rfl

end LeaseController

/-! ### Exchanges -/

/-- What came back from the upstream, and what the observer reads from a bounded body. -/
structure UpstreamResponse where
  statusCode : ℕ
  streams : Bool
  headers : List (String × String) := []
  body : ObservedBody := {}

namespace UpstreamResponse

/-- The outcome that the request is ended with. -/
def outcome (response : UpstreamResponse) (condition : ObserverCondition) : Outcome :=
  if response.streams then (observeStreaming condition response.statusCode).getD .successUnverified
  else (observeBounded condition response.statusCode response.body).1.getD .successUnverified

/-- The usage that the request is ended with. -/
def usage (response : UpstreamResponse) (condition : ObserverCondition) : Option TokenUsage :=
  if response.streams then none
  else some (observeBounded condition response.statusCode response.body).2

end UpstreamResponse

/-- A tracked request that waits for its response. -/
structure Exchange (B : Type) where
  request : PhysicalRequest B
  ctx : LeaseRequestContext

abbrev ExchangeId := ℕ

/-- The controller and the exchanges that are under way. -/
structure Exchanges (B : Type) where
  controller : LeaseController := {}
  waiting : Dict ExchangeId (Exchange B) := ∅

/-- A request arrives, its response was observed, it failed, or an exception left it; or the scheduler and the
    clock move. -/
inductive ExchangeAction (B : Type) where
  | arrives (eid : ExchangeId) (request : PhysicalRequest B)
  | completes (eid : ExchangeId) (response : UpstreamResponse) (condition : ObserverCondition)
      (answer : ResolverAnswer)
  | fails (eid : ExchangeId) (condition : ObserverCondition) (answer : ResolverAnswer)
  | leaves (eid : ExchangeId)
  | scheduler (a : Action)

section Steps

variable {B : Type} (cfg : ControllerConfig) (prims : TextPrimitives) (text : BodyText B)

/-- What the controller makes of a request; one that cannot be read raises and is not tracked. -/
def LeaseController.receive (c : LeaseController) (request : PhysicalRequest B) :
    LeaseController × Option LeaseRequestContext :=
  match request.startRequest prims text with
  | some start => c.onRequestStart cfg start
  | none => (c, none)

/-- The route that the response of an exchange names. -/
def Exchange.routeHash (e : Exchange B) (responseHeaders : List (String × String)) : Option String :=
  (extractRouteIdentity e.request.upstreamUrl responseHeaders).routeHash prims

/-- What the observer records when it records the exchange. -/
def Exchange.observe (e : Exchange B) (response : UpstreamResponse) (timestamp : ℚ) :
    Option ObservedRequest :=
  e.request.observe prims text response.headers ((response.usage .recording).getD {})
    (response.outcome .recording) timestamp

/-- One step of the relay over exchanges. -/
def exchangeStep (x : Exchanges B) : ExchangeAction B → Option (Exchanges B)
  | .arrives eid request =>
      match x.waiting.get? eid with
      | some _ => none
      | none =>
          match x.controller.receive cfg prims text request with
          | (controller, some ctx) => some { controller, waiting := x.waiting.set eid { request, ctx } }
          | (controller, none) => some { x with controller }
  | .completes eid response condition answer =>
      match x.waiting.get? eid with
      | none => none
      | some e =>
          some
            { controller := x.controller.onRequestEnd cfg e.ctx (response.outcome condition)
                (response.usage condition) (e.routeHash prims response.headers) answer
              waiting := x.waiting.erase eid }
  | .fails eid condition answer =>
      match x.waiting.get? eid with
      | none => none
      | some e =>
          some
            { controller := x.controller.onRequestEnd cfg e.ctx ((observeFailure condition).getD .failed)
                none none answer
              waiting := x.waiting.erase eid }
  | .leaves eid => some { x with waiting := x.waiting.erase eid }
  | .scheduler a =>
      if a.isScheduler then
        (step cfg.manager x.controller.world a).map fun world =>
          { x with controller := { x.controller with world } }
      else none

/-- The requests that arrive in a run. -/
def arrivedRequests (acts : List (ExchangeAction B)) : List (PhysicalRequest B) :=
  acts.filterMap fun
    | .arrives _ request => some request
    | _ => none

/-- The relay starts with an empty manager, no target ids and no exchanges. -/
def Exchanges.Initial (x : Exchanges B) : Prop :=
  x.controller.world.Initial ∧ x.controller.targetIds = ∅ ∧ x.waiting = ∅

end Steps

end CachePilot
