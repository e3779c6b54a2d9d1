/-
Module: CachePilot.Relay.LeaseController
Layer: Relay
Purpose: The relay's lease controller over the lease manager: what it does when a request starts and when
  it ends, with the synthetic target ids that stand for the plugin's header count. A request arrives with
  its cache identity and its parsed body; both are computed before the controller touches any state.
  Everything the controller does in one call runs without suspending. Persistence, log lines and route
  affinity write nothing that a lease reads, so they are left out.
Trusted boundary: the reading of lease_controller.py; a call runs without suspending
Main exports: ControllerConfig, StartRequest, LeaseController, LeaseController.onRequestStart,
  LeaseController.onRequestEnd, Relay, relayStep
-/
import CachePilot.Core.EventLoop

namespace CachePilot

/-- Constructor arguments of the controller. Python iterates a set in no fixed order; `iterationOrder` is
    the order in which the ids of a set difference come. -/
structure ControllerConfig where
  manager : ManagerConfig := {}
  enabled : Bool := true
  replayHeaders : List String :=
    ["authorization", "api-key", "openai-organization", "openai-project", "openai-beta"]
  iterationOrder : List String → List String := id
  iterationOrder_perm : ∀ ids, (iterationOrder ids).Perm ids := by exact fun ids => List.Perm.refl ids

/-- What the controller is given when a request starts: the physical identity of the request, the header
    count of active targets, the body if it is a JSON object, where it goes, its headers, and what the TTL
    resolver answers should a lease be created. -/
structure StartRequest where
  identity : LeaseIdentity
  targetsCount : ℕ := 0
  body : Option (List (String × Json)) := none
  upstreamUrl : String := ""
  headers : List (String × String) := []
  answer : ResolverAnswer := .noResolver

/-- Per-request lease tracking state. -/
structure LeaseRequestContext where
  leaseId : LeaseId
  targetsCount : ℕ
deriving DecidableEq

/-- The controller's state: everything the lease subsystem holds, and the synthetic target ids per lease. -/
structure LeaseController where
  world : World := {}
  targetIds : Dict LeaseId (List String) := ∅

/-- Apply a single-lease operation; an unknown id raises and changes nothing. -/
def World.applyTo (w : World) (id : LeaseId) (f : TrackedLease → TrackedLease) : World :=
  (w.modifyLease id f).getD w

/-- The synthetic ids `bg-1` to `bg-count`. -/
def backgroundTargets (count : ℕ) : List String :=
  (List.range count).map fun i => "bg-" ++ toString (i + 1)

namespace LeaseController

/-- The synthetic ids that the controller last gave the lease. -/
def currentTargets (c : LeaseController) (id : LeaseId) : List String :=
  (c.targetIds.get? id).getD []

/-- Reconcile the lease's target set with the header count. -/
def syncTargets (cfg : ControllerConfig) (c : LeaseController) (id : LeaseId) (count : ℕ) :
    LeaseController :=
  let desired := backgroundTargets count
  let current := c.currentTargets id
  let gone := cfg.iterationOrder (current.filter fun target => target ∉ desired)
  let new := cfg.iterationOrder (desired.filter fun target => target ∉ current)
  let world := gone.foldl (fun w target => w.applyTo id (TrackedLease.targetFinished target)) c.world
  let world := new.foldl (fun w target => w.applyTo id (TrackedLease.targetStarted target)) world
  { world, targetIds := c.targetIds.set id desired }

/-- Drop synthetic target sets for leases the manager no longer tracks. -/
def pruneTargetIds (c : LeaseController) : LeaseController :=
  let untracked := c.targetIds.keys.filter fun id => id ∉ c.world.manager.leases.keys
  { c with targetIds := untracked.foldl Dict.erase c.targetIds }

/-- Forget snapshots for cache identities the manager no longer tracks. -/
def pruneSnapshots (cfg : ControllerConfig) (c : LeaseController) : LeaseController :=
  if cfg.manager.hasSnapshotStore then
    let tracked := c.world.manager.cacheFingerprints
    let untracked := c.world.snapshots.fingerprints.filter fun fp => fp ∉ tracked
    let snapshots := untracked.foldl SnapshotStore.drop c.world.snapshots
    { c with world := { c.world with snapshots } }
  else c

/-- The allowlisted headers a warm may resend, by lower-case name; a repeated name keeps its last value. -/
def replayHeaders (cfg : ControllerConfig) (headers : List (String × String)) :
    List (String × String) :=
  ((headers.filter fun header => header.1.toLower ∈ cfg.replayHeaders).foldl
    (fun kept header => Dict.set kept header.1.toLower header.2) (∅ : Dict String String)).entries

/-- Remember the request body for a due warm; a body that is no JSON object is skipped. -/
def storeSnapshot (cfg : ControllerConfig) (c : LeaseController) (id : LeaseId)
    (request : StartRequest) : LeaseController :=
  if cfg.manager.hasSnapshotStore then
    match request.body, c.world.lease? id with
    | some body, some t =>
        let snapshot : RequestSnapshot :=
          { cacheFingerprint := t.lease.cacheFingerprint
            body
            upstreamUrl := request.upstreamUrl
            replayHeaders := replayHeaders cfg request.headers
            storedAt := c.world.clock }
        { c with world := { c.world with snapshots := c.world.snapshots.store snapshot } }
    | _, _ => c
  else c

/-- A tracked request starts: prune, reconcile the targets, bump the generation, keep the snapshot. -/
def startRealRequest (cfg : ControllerConfig) (c : LeaseController) (id : LeaseId)
    (request : StartRequest) : LeaseController :=
  let c := (c.pruneTargetIds.pruneSnapshots cfg).syncTargets cfg id request.targetsCount
  let world := c.world.applyTo id (TrackedLease.beforeNormalRequest c.world.clock)
  { c with world }.storeSnapshot cfg id request

/-- Before forwarding: find or create the lease and start a real request. No context when tracking is off,
    the request has no session, or the resolver raised. -/
def onRequestStart (cfg : ControllerConfig) (c : LeaseController) (request : StartRequest) :
    LeaseController × Option LeaseRequestContext :=
  if !cfg.enabled || request.identity.sessionId = "" then (c, none)
  else
    let (manager, found) :=
      c.world.manager.findOrCreateLease cfg.manager request.identity none (1 / 2) request.answer
    let c := { c with world := { c.world with manager } }
    match found with
    | none => (c, none)
    | some id =>
        (c.startRealRequest cfg id request,
          some { leaseId := id, targetsCount := request.targetsCount })

end LeaseController

/-- When the observer normalised real usage, the cost estimates are refreshed from it. -/
def World.refreshCosts (cfg : ManagerConfig) (w : World) (id : LeaseId)
    (usage : Option TokenUsage) : World :=
  match usage with
  | some usage =>
      if 0 < usage.promptTokens then w.applyTo id (TrackedLease.updateCostEstimates cfg usage)
      else w
  | none => w

/-- An observed route replaces the lease's route key. -/
def World.observeRoute (w : World) (id : LeaseId) (routeHash : Option String) : World :=
  match routeHash with
  | some routeHash => w.applyTo id (TrackedLease.reconcileRoute routeHash)
  | none => w

namespace LeaseController

/-- After the response: the reset with the outcome, the cost estimates when usage was observed, the
    observed route, and the TTL. The snapshot of a failed request is dropped, unless the resolver raised
    first. -/
def onRequestEnd (cfg : ControllerConfig) (c : LeaseController) (ctx : LeaseRequestContext)
    (outcome : Outcome) (usage : Option TokenUsage) (routeHash : Option String)
    (answer : ResolverAnswer) : LeaseController :=
  if !cfg.enabled then c
  else
    let w := c.world.applyTo ctx.leaseId (TrackedLease.afterNormalRequest c.world.clock outcome)
    let w := World.refreshCosts cfg.manager w ctx.leaseId usage
    let w := w.observeRoute ctx.leaseId routeHash
    let w := w.applyTo ctx.leaseId (TrackedLease.refreshTtl answer)
    if answer ≠ .raised ∧ outcome = .failed ∧ cfg.manager.hasSnapshotStore = true then
      match w.lease? ctx.leaseId with
      | some t =>
          let snapshots := w.snapshots.drop t.lease.cacheFingerprint
          { c with world := { w with snapshots } }
      | none => { c with world := w }
    else { c with world := w }

end LeaseController

/-! ### Requests and the scheduler -/

/-- The controller with the requests that have started and not ended. -/
structure Relay where
  controller : LeaseController := {}
  openRequests : List LeaseRequestContext := []

/-- A request starts or ends, or the scheduler and the clock move. -/
inductive RelayAction where
  | requestStart (request : StartRequest)
  | requestEnd (ctx : LeaseRequestContext) (outcome : Outcome) (usage : Option TokenUsage)
      (routeHash : Option String) (answer : ResolverAnswer)
  | scheduler (a : Action)

/-- What the scheduler task does: ticks and evaluations, the executor's answers, cancellation, time. -/
def Action.isScheduler : Action → Bool
  | .setClock _ | .evaluateLease _ _ | .tick _ | .resume _ | .executeReturns _ _ | .cancel _ => true
  | _ => false

/-- One step of the relay. A request that got a context ends once. -/
def relayStep (cfg : ControllerConfig) (r : Relay) : RelayAction → Option Relay
  | .requestStart request =>
      let (controller, ctx) := r.controller.onRequestStart cfg request
      some { controller, openRequests := r.openRequests ++ ctx.toList }
  | .requestEnd ctx outcome usage routeHash answer =>
      if ctx ∈ r.openRequests then
        some
          { controller := r.controller.onRequestEnd cfg ctx outcome usage routeHash answer
            openRequests := r.openRequests.erase ctx }
      else none
  | .scheduler a =>
      if a.isScheduler then
        (step cfg.manager r.controller.world a).map fun world =>
          { r with controller := { r.controller with world } }
      else none

/-- The relay starts with an empty manager, no tasks, no target ids and no requests. -/
def Relay.Initial (r : Relay) : Prop :=
  r.controller.world.Initial ∧ r.controller.targetIds = ∅ ∧ r.openRequests = []

end CachePilot
