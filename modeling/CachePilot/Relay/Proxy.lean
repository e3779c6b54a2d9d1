/-
Module: CachePilot.Relay.Proxy
Layer: Relay
Purpose: The relay's proxy, cut where it waits for the upstream. A forward starts its request with the lease
  controller and builds the upstream request, then waits for the response, and for the body of a bounded one;
  on the exits that the code handles it observes the outcome and ends the request with the controller. What
  the observer reads from a response and how its store fares are given with each step, and so is the route
  that the response headers name. Relayed headers and bodies and the affinity pin write nothing that a lease
  reads, so they are left out.
Trusted boundary: the reading of proxy.py, cut where it awaits the upstream
Main exports: ObserverCondition, boundedOutcome, Forward, Proxy, ProxyAction, Proxy.leaseEnd, proxyStep
-/
import CachePilot.Core.Usage
import CachePilot.Relay.LeaseController

namespace CachePilot

/-! ### The observer's answers -/

/-- How the observer fares with one request: it records the outcome, it is off or its store is unavailable,
    or something in it raises, such as a write to the store. -/
inductive ObserverCondition where
  | recording
  | unavailable
  | raising
deriving DecidableEq

/-- What the observer reads from the body of a response. -/
structure ObservedBody where
  usage : TokenUsage := {}
  telemetryPresent : Bool := false
deriving DecidableEq

/-- The outcome of a bounded response and its usage; the body of a failed one is not read. -/
def observeBounded (condition : ObserverCondition) (statusCode : ℕ) (body : ObservedBody) :
    Option Outcome × TokenUsage :=
  match condition with
  | .recording =>
      let read : ObservedBody := if 200 ≤ statusCode ∧ statusCode < 300 then body else {}
      (some (classifyOutcome statusCode read.telemetryPresent read.usage.cacheReadTokens), read.usage)
  | .unavailable | .raising => (none, {})

/-- What the observer reads from the object that a body parses to, if any; none when an exception leaves the
    normaliser. -/
def readBody (text : NumberText) (provider : String) (payload : Option (List (String × Json))) :
    Option ObservedBody :=
  let payload := payload.elim .null .obj
  (UsageNormalizer.normalize text payload (some provider)).map fun usage =>
    { usage, telemetryPresent := usageHasCacheTelemetry (UsageNormalizer.usageOf payload) }

/-- The outcome of a bounded response whose body parses to this object, if any; the body of a failed one is not
    read. -/
def boundedOutcome (text : NumberText) (provider : String) (statusCode : ℕ)
    (payload : Option (List (String × Json))) : Option Outcome :=
  if 200 ≤ statusCode ∧ statusCode < 300 then
    (readBody text provider payload).bind fun body => (observeBounded .recording statusCode body).1
  else (observeBounded .recording statusCode {}).1

/-- The outcome of a streaming response, whose body is never read. -/
def observeStreaming (condition : ObserverCondition) (statusCode : ℕ) : Option Outcome :=
  match condition with
  | .recording =>
      if ¬ (200 ≤ statusCode ∧ statusCode < 300) then
        (observeBounded .recording statusCode {}).1
      else some .successUnverified
  | .unavailable | .raising => none

/-- The outcome of a request that got no response. -/
def observeFailure : ObserverCondition → Option Outcome
  | .recording => some .failed
  | .unavailable | .raising => none

/-! ### Forwards -/

/-- The relay's own answer when the upstream gave none. -/
structure GatewayError where
  type : String
  message : String
  statusCode : ℕ
deriving DecidableEq

/-- A timeout has its own status. -/
def gatewayError (timedOut : Bool) : GatewayError :=
  if timedOut then
    { type := "upstream_timeout"
      message := "the upstream provider did not respond in time"
      statusCode := 504 }
  else
    { type := "upstream_unreachable"
      message := "the upstream provider could not be reached"
      statusCode := 502 }

/-- How a forward is over: with the upstream's response, with an error of the relay, or with an exception
    that leaves it. -/
inductive ForwardExit where
  | relayed (statusCode : ℕ)
  | failed (error : GatewayError)
  | raised
deriving DecidableEq

/-- Where a forward waits. -/
inductive ForwardPhase where
  | sending
  | reading (statusCode : ℕ) (routeHash : Option String)
  | exited (exit : ForwardExit)
deriving DecidableEq

/-- One request in the proxy. How often it was ended with the controller is kept only to be spoken about. -/
structure Forward where
  ctx : Option LeaseRequestContext
  phase : ForwardPhase
  ends : ℕ := 0
deriving DecidableEq

abbrev ForwardId := ℕ

/-- The controller, and every forward that has started. -/
structure Proxy where
  controller : LeaseController := {}
  forwards : Dict ForwardId Forward := ∅

/-- Constructor arguments of the proxy. -/
structure ProxyConfig where
  controller : ControllerConfig := {}
  hasLeaseController : Bool := true

/-- What the client's `send` comes back with: a response whose body streams or is bounded, one of the errors
    of its own class, or any other exception, a cancellation included. -/
inductive SendResult where
  | response (statusCode : ℕ) (streams : Bool) (routeHash : Option String)
  | httpError (timedOut : Bool)
  | raised
deriving DecidableEq

/-- What happens in the proxy: a request starts, and its upstream request is built or the building raises;
    the upstream answers; a bounded body has been read, or the reading raised; the scheduler moves. -/
inductive ProxyAction where
  | start (fid : ForwardId) (request : StartRequest) (built : Bool)
  | sendReturns (fid : ForwardId) (result : SendResult) (condition : ObserverCondition)
      (answer : ResolverAnswer)
  | bodyReturns (fid : ForwardId) (result : Option ObservedBody) (condition : ObserverCondition)
      (answer : ResolverAnswer)
  | scheduler (a : Action)

namespace Proxy

def leaseStart (cfg : ProxyConfig) (p : Proxy) (request : StartRequest) :
    LeaseController × Option LeaseRequestContext :=
  if cfg.hasLeaseController then p.controller.onRequestStart cfg.controller request
  else (p.controller, none)

/-- The forward is over without the controller being told. -/
def leave (p : Proxy) (fid : ForwardId) (f : Forward) (exit : ForwardExit) : Proxy :=
  { p with forwards := p.forwards.set fid { f with phase := .exited exit } }

/-- The request is ended with the controller, and the forward is over. -/
def leaseEnd (cfg : ProxyConfig) (p : Proxy) (fid : ForwardId) (f : Forward) (outcome : Outcome)
    (usage : Option TokenUsage) (routeHash : Option String) (answer : ResolverAnswer)
    (exit : ForwardExit) : Proxy :=
  match f.ctx with
  | none => p.leave fid f exit
  | some ctx =>
      if cfg.hasLeaseController then
        leave
          { p with
            controller := p.controller.onRequestEnd cfg.controller ctx outcome usage routeHash answer }
          fid { f with ends := f.ends + 1 } exit
      else p.leave fid f exit

end Proxy

/-- One step of the proxy. -/
def proxyStep (cfg : ProxyConfig) (p : Proxy) : ProxyAction → Option Proxy
  | .start fid request built =>
      match p.forwards.get? fid with
      | some _ => none
      | none =>
          let (controller, ctx) := p.leaseStart cfg request
          -- What raises while the upstream request is built is not caught.
          let phase : ForwardPhase := if built then .sending else .exited .raised
          some { controller, forwards := p.forwards.set fid { ctx, phase } }
  | .sendReturns fid result condition answer =>
      match p.forwards.get? fid with
      | some f =>
          if f.phase = .sending then
            match result with
            | .httpError timedOut =>
                let outcome := (observeFailure condition).getD .failed
                some (p.leaseEnd cfg fid f outcome none none answer (.failed (gatewayError timedOut)))
            | .response statusCode true routeHash =>
                let outcome := (observeStreaming condition statusCode).getD .successUnverified
                some (p.leaseEnd cfg fid f outcome none routeHash answer (.relayed statusCode))
            | .response statusCode false routeHash =>
                some { p with
                  forwards := p.forwards.set fid { f with phase := .reading statusCode routeHash } }
            | .raised => some (p.leave fid f .raised)
          else none
      | none => none
  | .bodyReturns fid result condition answer =>
      match p.forwards.get? fid with
      | some f =>
          match f.phase with
          | .reading statusCode routeHash =>
              match result with
              | some body =>
                  let (outcome, usage) := observeBounded condition statusCode body
                  some (p.leaseEnd cfg fid f (outcome.getD .successUnverified) (some usage) routeHash
                    answer (.relayed statusCode))
              | none => some (p.leave fid f .raised)
          | _ => none
      | none => none
  | .scheduler a =>
      if a.isScheduler then
        (step cfg.controller.manager p.controller.world a).map fun world =>
          { p with controller := { p.controller with world } }
      else none

/-- Runs of the proxy. -/
abbrev proxyExec (cfg : ProxyConfig) : Proxy → List ProxyAction → Option Proxy :=
  Execution.exec (proxyStep cfg)

/-- The proxy starts with an empty controller and no forwards. -/
def Proxy.Initial (p : Proxy) : Prop :=
  p.controller.world.Initial ∧ p.controller.targetIds = ∅ ∧ p.forwards = ∅

end CachePilot
