/-
Module: CachePilot.Proofs.ProxySteps
Layer: Proofs
Purpose: What one step of the proxy does: it starts a request, passes a response on to the reading of its
  body, ends the request with the controller, leaves it without that, or moves the scheduler. What these do
  to the flags and the touch times of the leases follows from the controller's own steps.
Trusted boundary: none
Main exports: Forward.isOver, ProxyAction.raises, Proxy.reports, ProxyEffect, proxyStep_effect,
  Proxy.Tracked, StartFrame, onRequestStart_frame
-/
import CachePilot.Proofs.IdentitySwitch
import CachePilot.Relay.Proxy

namespace CachePilot

/-- The forward is over. -/
def Forward.isOver (f : Forward) : Bool :=
  match f.phase with
  | .exited _ => true
  | _ => false

/-- The forward that an exception leaves in this step, after its request has been sent. -/
def ProxyAction.raises : ProxyAction → Option ForwardId
  | .sendReturns fid .raised _ _ => some fid
  | .bodyReturns fid none _ _ => some fid
  | _ => none

/-- The forward that this step ends with the controller, and the outcome it is ended with: what the observer
    says, and else the fallback of the exit. -/
def Proxy.reports (p : Proxy) : ProxyAction → Option (ForwardId × Outcome)
  | .sendReturns fid (.httpError _) condition _ => some (fid, (observeFailure condition).getD .failed)
  | .sendReturns fid (.response statusCode true _) condition _ =>
      some (fid, (observeStreaming condition statusCode).getD .successUnverified)
  | .bodyReturns fid (some body) condition _ =>
      match (p.forwards.get? fid).map Forward.phase with
      | some (.reading statusCode _) =>
          some (fid, (observeBounded condition statusCode body).1.getD .successUnverified)
      | _ => none
  | _ => none

/-- The ways a step moves the proxy. -/
inductive ProxyEffect (cfg : ProxyConfig) (p : Proxy) : ProxyAction → Proxy → Prop where
  | started {fid request built} (unused : p.forwards.get? fid = none) :
      ProxyEffect cfg p (.start fid request built)
        { controller := (p.leaseStart cfg request).1
          forwards := p.forwards.set fid
            { ctx := (p.leaseStart cfg request).2
              phase := if built then .sending else .exited .raised } }
  | answered {a fid f statusCode routeHash} (here : p.forwards.get? fid = some f)
      (waiting : f.isOver = false) (silent : p.reports a = none) (calm : a.raises = none)
      (running : ∀ gid request built, a ≠ .start gid request built) :
      ProxyEffect cfg p a
        { p with forwards := p.forwards.set fid { f with phase := .reading statusCode routeHash } }
  | ended {a fid f outcome usage routeHash answer exit} (here : p.forwards.get? fid = some f)
      (waiting : f.isOver = false) (reported : p.reports a = some (fid, outcome)) :
      ProxyEffect cfg p a (p.leaseEnd cfg fid f outcome usage routeHash answer exit)
  | left {a fid f} (here : p.forwards.get? fid = some f) (waiting : f.isOver = false)
      (raised : a.raises = some fid) : ProxyEffect cfg p a (p.leave fid f .raised)
  | scheduled {a world} (task : a.isScheduler = true)
      (moved : step cfg.controller.manager p.controller.world a = some world) :
      ProxyEffect cfg p (.scheduler a) { p with controller := { p.controller with world } }

/-- Every step moves the proxy in one of these ways. -/
theorem proxyStep_effect {cfg : ProxyConfig} {p p' : Proxy} {a : ProxyAction}
    (stepped : proxyStep cfg p a = some p') : ProxyEffect cfg p a p' := by
  cases a with
  | start fid request built =>
      simp only [proxyStep] at stepped
      split at stepped
      · cases stepped
      · rename_i unused
        cases stepped
        exact .started unused
  | sendReturns fid result condition answer =>
      simp only [proxyStep] at stepped
      split at stepped
      · rename_i f here
        split at stepped
        · rename_i sending
          have waiting : f.isOver = false := by rw [Forward.isOver, sending]
          cases result with
          | httpError timedOut =>
              cases stepped
              exact .ended here waiting rfl
          | response statusCode streams routeHash =>
              cases streams with
              | true =>
                  cases stepped
                  exact .ended here waiting rfl
              | false =>
                  cases stepped
                  exact .answered here waiting rfl rfl (fun _ _ _ => by simp)
          | raised =>
              cases stepped
              exact .left here waiting rfl
        · cases stepped
      · cases stepped
  | bodyReturns fid result condition answer =>
      simp only [proxyStep] at stepped
      split at stepped
      · rename_i f here
        split at stepped
        · rename_i statusCode routeHash reading
          have waiting : f.isOver = false := by rw [Forward.isOver, reading]
          cases result with
          | some body =>
              cases stepped
              apply ProxyEffect.ended here waiting
              simp [Proxy.reports, here, reading]
          | none =>
              cases stepped
              exact .left here waiting rfl
        · cases stepped
      · cases stepped
  | scheduler a =>
      simp only [proxyStep] at stepped
      split at stepped
      · rename_i task
        obtain ⟨world, moved, rfl⟩ := Option.map_eq_some_iff.1 stepped
        exact .scheduled task moved
      · cases stepped

/-! ### What the start of a request leaves -/

/-- The touch stays where it was, and no normal request becomes active. -/
structure Untouched (t t' : TrackedLease) : Prop where
  touch : t'.lease.lastCacheTouchAt = t.lease.lastCacheTouchAt
  busy : t'.runtime.realRequestActive = true → t.runtime.realRequestActive = true

namespace Untouched

theorem refl (t : TrackedLease) : Untouched t t := ⟨rfl, id⟩

theorem trans {t u v : TrackedLease} (first : Untouched t u) (second : Untouched u v) :
    Untouched t v :=
  ⟨second.touch.trans first.touch, fun active => first.busy (second.busy active)⟩

theorem of_bookkeeping {t t' : TrackedLease} (frame : Bookkeeping t t') : Untouched t t' where
  touch := frame.touch
  busy := by
    intro active
    rwa [frame.busy] at active

theorem targetStarted (target : String) (t : TrackedLease) : Untouched t (t.targetStarted target) := by
  rw [TrackedLease.targetStarted_frame]
  exact ⟨rfl, id⟩

theorem targetFinished (target : String) (t : TrackedLease) :
    Untouched t (t.targetFinished target) := by
  rw [TrackedLease.targetFinished_frame]
  exact ⟨rfl, id⟩

theorem finishTargets (targets : List String) (t : TrackedLease) :
    Untouched t (finishTargets targets t) := by
  apply List.foldlRecOn targets (motive := fun u : TrackedLease => Untouched t u)
  · exact refl t
  · intro u kept target listed
    exact kept.trans (targetFinished target u)

theorem startTargets (targets : List String) (t : TrackedLease) :
    Untouched t (startTargets targets t) := by
  apply List.foldlRecOn targets (motive := fun u : TrackedLease => Untouched t u)
  · exact refl t
  · intro u kept target listed
    exact kept.trans (targetStarted target u)

theorem reconciled (cfg : ControllerConfig) (current : List String) (count : ℕ) (t : TrackedLease) :
    Untouched t (reconciled cfg current count t) :=
  (finishTargets _ t).trans (startTargets _ _)

end Untouched

/-- The registry invalidates leases of the session at most. -/
theorem untouched_of_called {cfg : ControllerConfig} {c : LeaseController} {request : StartRequest}
    {manager : LeaseManager} {found : Option LeaseId} {id : LeaseId} {t : TrackedLease}
    (called : c.world.manager.findOrCreateLease cfg.manager request.identity none (1 / 2)
      request.answer = (manager, found))
    (known : c.world.lease? id = some t) :
    ∃ t', manager.leases.get? id = some t' ∧ Untouched t t' := by
  obtain ⟨t', known', change⟩ := step_change (step_of_called called) known
  refine ⟨t', known', ?_⟩
  generalize same : Action.findOrCreateLease request.identity none (1 / 2) request.answer = a at change
  cases change with
  | bookkeeping quiet unreturned frame => exact .of_bookkeeping frame
  | superseded missing switched =>
      exact ⟨rfl, fun active => absurd active (by simp [TrackedLease.invalidate])⟩
  | operated operation =>
      rw [← same] at operation
      cases operation
  | returned flying => cases same

/-- The registry's part of the start adds a lease that is idle, and leaves the others as they were or
    invalidated. -/
theorem called_leases {cfg : ControllerConfig} {c : LeaseController} {request : StartRequest}
    {manager : LeaseManager} {found : Option LeaseId} {id : LeaseId} {t' : TrackedLease}
    (called : c.world.manager.findOrCreateLease cfg.manager request.identity none (1 / 2)
      request.answer = (manager, found))
    (known' : manager.leases.get? id = some t') (active : t'.runtime.realRequestActive = true) :
    ∃ t, c.world.lease? id = some t ∧ t.runtime.realRequestActive = true := by
  cases known : c.world.lease? id with
  | some t =>
      obtain ⟨x, found', kept⟩ := untouched_of_called called known
      rw [known'] at found'
      cases found'
      exact ⟨t, rfl, kept.busy active⟩
  | none =>
      obtain ⟨identity, ttl, confidence, answer, ttlS, conf, -, -, -, new⟩ :=
        step_creates (step_of_called called) known known'
      rw [new] at active
      cases active

/-- When the cache of a lease was last touched; never, for a lease that is not tracked. -/
def World.touchOf (w : World) (id : LeaseId) : Option ℚ :=
  (w.lease? id).bind fun t => t.lease.lastCacheTouchAt

theorem touchOf_eq {w : World} {id : LeaseId} {t : TrackedLease} (known : w.lease? id = some t) :
    w.touchOf id = t.lease.lastCacheTouchAt := by
  rw [World.touchOf, known, Option.bind_some]

theorem touchOf_called {cfg : ControllerConfig} {c : LeaseController} {request : StartRequest}
    {manager : LeaseManager} {found : Option LeaseId}
    (called : c.world.manager.findOrCreateLease cfg.manager request.identity none (1 / 2)
      request.answer = (manager, found)) (id : LeaseId) :
    World.touchOf { c.world with manager } id = c.world.touchOf id := by
  cases known : c.world.lease? id with
  | some t =>
      obtain ⟨t', known', kept⟩ := untouched_of_called called known
      have here : World.lease? { c.world with manager } id = some t' := known'
      rw [touchOf_eq known, touchOf_eq here, kept.touch]
  | none =>
      have never : c.world.touchOf id = none := by rw [World.touchOf, known, Option.bind_none]
      rw [never]
      cases appears : World.lease? { c.world with manager } id with
      | none => rw [World.touchOf, appears, Option.bind_none]
      | some t' =>
          obtain ⟨identity, ttl, confidence, answer, ttlS, conf, -, -, -, new⟩ :=
            step_creates (step_of_called called) known appears
          rw [touchOf_eq appears, new]
          rfl

/-- The start of a request leaves the touch of every lease where it was. -/
theorem touchOf_onRequestStart (cfg : ControllerConfig) (c : LeaseController) (request : StartRequest)
    (id : LeaseId) : (c.onRequestStart cfg request).1.world.touchOf id = c.world.touchOf id := by
  have begun := onRequestStart_cases cfg c request
  generalize c.onRequestStart cfg request = result at begun
  cases begun with
  | untracked => rfl
  | raised called => exact touchOf_called called id
  | @started manager own enabled called =>
      rw [← touchOf_called called id]
      unfold World.touchOf
      rw [lease?_startRealRequest]
      by_cases same : id = own
      · subst same
        rw [if_pos rfl]
        cases known : World.lease? { c.world with manager } id with
        | none => rfl
        | some t => exact (Untouched.reconciled _ _ _ t).touch
      · rw [if_neg same]

/-- A lease on which a request is active after the start had one before, or is the one the request
    started on. -/
theorem onRequestStart_busy (cfg : ControllerConfig) (c : LeaseController) (request : StartRequest)
    {id : LeaseId} {t' : TrackedLease}
    (known' : (c.onRequestStart cfg request).1.world.lease? id = some t')
    (active : t'.runtime.realRequestActive = true) :
    (∃ t, c.world.lease? id = some t ∧ t.runtime.realRequestActive = true) ∨
      ∃ ctx, (c.onRequestStart cfg request).2 = some ctx ∧ ctx.leaseId = id := by
  have begun := onRequestStart_cases cfg c request
  generalize c.onRequestStart cfg request = result at begun known'
  cases begun with
  | untracked => exact Or.inl ⟨t', known', active⟩
  | raised called => exact Or.inl (called_leases called known' active)
  | @started manager own enabled called =>
      by_cases same : id = own
      · exact Or.inr ⟨_, rfl, same.symm⟩
      · dsimp only at known'
        rw [lease?_startRealRequest, if_neg same] at known'
        exact Or.inl (called_leases called known' active)

/-- A context is given only by a controller that is on. -/
theorem onRequestStart_enabled {cfg : ControllerConfig} {c : LeaseController} {request : StartRequest}
    {ctx : LeaseRequestContext} (given : (c.onRequestStart cfg request).2 = some ctx) :
    cfg.enabled = true := by
  have begun := onRequestStart_cases cfg c request
  generalize c.onRequestStart cfg request = result at begun given
  cases begun with
  | untracked => cases given
  | raised called => cases given
  | started enabled called => exact enabled

/-- The end of a request leaves none active on its lease. -/
theorem ended_idle (cfg : ManagerConfig) (now : ℚ) (outcome : Outcome) (usage : Option TokenUsage)
    (routeHash : Option String) (answer : ResolverAnswer) (t : TrackedLease) :
    (ended cfg now outcome usage routeHash answer t).runtime.realRequestActive = false := by
  have reset : (t.afterNormalRequest now outcome).runtime.realRequestActive = false := by
    rw [TrackedLease.afterNormalRequest_frame]
  unfold ended
  generalize t.afterNormalRequest now outcome = u at reset
  dsimp only
  rw [TrackedLease.refreshTtl_frame]
  have costs : ∀ usage : TokenUsage,
      (u.updateCostEstimates cfg usage).runtime.realRequestActive = false := by
    intro usage
    rw [TrackedLease.updateCostEstimates_frame]
    exact reset
  cases usage with
  | none =>
      cases routeHash with
      | none => exact reset
      | some hash => exact reset
  | some usage =>
      cases routeHash with
      | none =>
          dsimp only
          split
          · exact costs usage
          · exact reset
      | some hash =>
          dsimp only
          split
          · exact costs usage
          · exact reset

/-- The scheduler starts and ends no normal request. -/
theorem scheduler_busy {cfg : ManagerConfig} {w w' : World} {a : Action} {id : LeaseId}
    {t' : TrackedLease} (task : a.isScheduler = true) (stepped : step cfg w a = some w')
    (known' : w'.lease? id = some t') (active : t'.runtime.realRequestActive = true) :
    ∃ t, w.lease? id = some t ∧ t.runtime.realRequestActive = true := by
  cases known : w.lease? id with
  | none =>
      obtain ⟨identity, ttl, confidence, answer, ttlS, conf, rfl, -, -, -⟩ :=
        step_creates stepped known known'
      cases task
  | some t =>
      obtain ⟨x, found, change⟩ := step_change stepped known
      rw [known'] at found
      cases found
      refine ⟨t, rfl, ?_⟩
      cases change with
      | bookkeeping quiet unreturned frame => rwa [frame.busy] at active
      | superseded missing switched => cases task
      | operated operation => exact absurd operation (scheduler_no_operation task)
      | returned flying => rwa [finishWarm_busy] at active

/-! ### What the end of a request leaves -/

section Ends

variable {cfg : ProxyConfig} {p p' : Proxy} {fid : ForwardId} {f : Forward} {ctx : LeaseRequestContext}
  {outcome : Outcome} {usage : Option TokenUsage} {routeHash : Option String} {answer : ResolverAnswer}
  {exit : ForwardExit}

/-- A forward without a context ends nothing. -/
theorem leaseEnd_free (free : f.ctx = none) :
    p.leaseEnd cfg fid f outcome usage routeHash answer exit = p.leave fid f exit := by
  unfold Proxy.leaseEnd
  rw [free]

/-- A forward with a context ends it with the controller. -/
theorem leaseEnd_bound (bound : f.ctx = some ctx) (present : cfg.hasLeaseController = true) :
    p.leaseEnd cfg fid f outcome usage routeHash answer exit =
      { controller := p.controller.onRequestEnd cfg.controller ctx outcome usage routeHash answer
        forwards := p.forwards.set fid { f with phase := .exited exit, ends := f.ends + 1 } } := by
  unfold Proxy.leaseEnd
  rw [bound]
  dsimp only
  rw [if_pos present]
  rfl

/-- Every forward with a context got it from a controller that is on. -/
def Proxy.Tracked (cfg : ProxyConfig) (p : Proxy) : Prop :=
  ∀ fid f, p.forwards.get? fid = some f → f.ctx ≠ none →
    cfg.hasLeaseController = true ∧ cfg.controller.enabled = true

theorem leaseStart_tracked {request : StartRequest} (given : (p.leaseStart cfg request).2 ≠ none) :
    cfg.hasLeaseController = true ∧ cfg.controller.enabled = true := by
  unfold Proxy.leaseStart at given
  split at given
  · rename_i present
    obtain ⟨ctx, found⟩ := Option.ne_none_iff_exists'.1 given
    exact ⟨present, onRequestStart_enabled found⟩
  · exact absurd rfl given

/-- A forward that moves keeps its context. -/
theorem tracked_set (tracked : p.Tracked cfg) {f' : Forward} (here : p.forwards.get? fid = some f)
    (same : f'.ctx = f.ctx) {c : LeaseController} :
    Proxy.Tracked cfg { controller := c, forwards := p.forwards.set fid f' } := by
  intro fid' g found bound
  rw [Dict.get?_set] at found
  split at found
  · cases found
    rw [same] at bound
    exact tracked fid f here bound
  · exact tracked fid' g found bound

theorem tracked_step {a : ProxyAction} (stepped : proxyStep cfg p a = some p')
    (tracked : p.Tracked cfg) : p'.Tracked cfg := by
  cases proxyStep_effect stepped with
  | started unused =>
      intro fid' g found bound
      rw [Dict.get?_set] at found
      split at found
      · cases found
        exact leaseStart_tracked bound
      · exact tracked fid' g found bound
  | answered here waiting silent calm running =>
      apply tracked_set tracked here
      rfl
  | @ended a fid f outcome usage routeHash answer exit here waiting reported =>
      cases bound : f.ctx with
      | none =>
          rw [leaseEnd_free bound]
          apply tracked_set tracked here
          rfl
      | some ctx =>
          rw [leaseEnd_bound bound (tracked fid f here (by simp [bound])).1]
          apply tracked_set tracked here
          rfl
  | left here waiting raised =>
      apply tracked_set tracked here
      rfl
  | scheduled task moved => exact tracked

theorem run_tracked {start : Proxy} {acts : List ProxyAction} (initial : start.Initial)
    (run : proxyExec cfg start acts = some p) : p.Tracked cfg := by
  apply Execution.invariant (I := Proxy.Tracked cfg) _ _ run
  · intro fid f found
    rw [initial.2.2] at found
    cases found
  · intro u a v stepped tracked
    exact tracked_step stepped tracked

end Ends

/-! ### Sample runs -/

def sampleProxyConfig : ProxyConfig := { controller := sampleRelayConfig }

/-- The proxy state that a list of actions reaches. -/
def sampleProxyAt (acts : List ProxyAction) : Proxy :=
  Execution.final (proxyStep sampleProxyConfig) {} acts

theorem Proxy.initial_empty : Proxy.Initial {} := ⟨World.initial_empty, rfl, rfl⟩

theorem exec_sampleProxyAt {acts : List ProxyAction}
    (runs : (proxyExec sampleProxyConfig {} acts).isSome = true) :
    proxyExec sampleProxyConfig {} acts = some (sampleProxyAt acts) :=
  Execution.exec_eq_final runs

/-- A request of the session has been sent to the upstream. -/
def sampleSent : List ProxyAction := [.start 0 (sampleRequest "a") true]

end CachePilot
