/-
Module: CachePilot.Proofs.FailedRequests
Layer: Proofs
Purpose: What a failed provider call does to the touch of its lease. A call that got no response is ended as
  failed whatever the observer says, and one whose response is an error is ended as failed when the observer
  records it. When the observer returns no outcome, the fallback for a response that was received makes an
  error response an unverified success, which touches every valid lease.
Trusted boundary: none
Main exports: Proxy.failsIn, Proxy.unobservedFailure, Proxy.FailureObserved, touchOf_quiet_step,
  failed_request_touch_iff
-/
import CachePilot.Proofs.ProxySteps

namespace CachePilot

/-- A response that is no success. -/
def isErrorStatus (statusCode : ℕ) : Bool := decide (¬ (200 ≤ statusCode ∧ statusCode < 300))

/-- The task whose executor returns in this step. -/
def ProxyAction.returningTask : ProxyAction → Option TaskId
  | .scheduler (.executeReturns tid _) => some tid
  | _ => none

namespace Proxy

/-- The forward that is over in this step with an error response or without a complete response. -/
def failsIn (p : Proxy) : ProxyAction → Option ForwardId
  | .sendReturns fid (.httpError _) _ _ => some fid
  | .sendReturns fid .raised _ _ => some fid
  | .sendReturns fid (.response statusCode true _) _ _ =>
      if isErrorStatus statusCode then some fid else none
  | .bodyReturns fid (some _) _ _ =>
      match (p.forwards.get? fid).map Forward.phase with
      | some (.reading statusCode _) => if isErrorStatus statusCode then some fid else none
      | _ => none
  | .bodyReturns fid none _ _ => some fid
  | _ => none

/-- The forward that is over in this step with an error response that the observer does not record. -/
def unobservedFailure (p : Proxy) : ProxyAction → Option ForwardId
  | .sendReturns fid (.response statusCode true _) condition _ =>
      if isErrorStatus statusCode ∧ condition ≠ .recording then some fid else none
  | .bodyReturns fid (some _) condition _ =>
      match (p.forwards.get? fid).map Forward.phase with
      | some (.reading statusCode _) =>
          if isErrorStatus statusCode ∧ condition ≠ .recording then some fid else none
      | _ => none
  | _ => none

/-- An error response is recorded by the observer; or its request has no lease, its lease is dead, or the
    last touch of its lease was at this very time. -/
def FailureObserved (p : Proxy) (a : ProxyAction) : Prop :=
  ∀ fid ∈ p.unobservedFailure a, ∀ f ∈ p.forwards.get? fid, ∀ ctx ∈ f.ctx,
    ∀ t ∈ p.controller.world.lease? ctx.leaseId,
      t.lease.state = .invalidated ∨ t.lease.lastCacheTouchAt = some p.controller.world.clock

instance (p : Proxy) (a : ProxyAction) : Decidable (p.FailureObserved a) :=
  inferInstanceAs (Decidable (∀ fid ∈ p.unobservedFailure a, ∀ f ∈ p.forwards.get? fid, ∀ ctx ∈ f.ctx,
    ∀ t ∈ p.controller.world.lease? ctx.leaseId, _ ∨ _))

/-- When the cache of a lease was last touched. -/
def touchOf (p : Proxy) (id : LeaseId) : Option ℚ := p.controller.world.touchOf id

end Proxy

/-! ### Outcomes of failures -/

/-- An error response is a failure exactly when the observer records it. -/
theorem observeStreaming_error {condition : ObserverCondition} {statusCode : ℕ}
    (error : isErrorStatus statusCode = true) :
    (observeStreaming condition statusCode).getD .successUnverified =
      if condition = .recording then .failed else .successUnverified := by
  have outside : ¬ (200 ≤ statusCode ∧ statusCode < 300) := of_decide_eq_true error
  cases condition with
  | recording => simp [observeStreaming, observeBounded, classifyOutcome, outside]
  | unavailable => rfl
  | raising => rfl

theorem observeBounded_error {condition : ObserverCondition} {statusCode : ℕ} {body : ObservedBody}
    (error : isErrorStatus statusCode = true) :
    (observeBounded condition statusCode body).1.getD .successUnverified =
      if condition = .recording then .failed else .successUnverified := by
  have outside : ¬ (200 ≤ statusCode ∧ statusCode < 300) := of_decide_eq_true error
  cases condition with
  | recording => simp [observeBounded, classifyOutcome, outside]
  | unavailable => rfl
  | raising => rfl

/-- Without a response the request is ended as failed in every condition. -/
theorem observeFailure_failed (condition : ObserverCondition) :
    (observeFailure condition).getD .failed = .failed := by
  cases condition <;> rfl

variable {cfg : ProxyConfig} {p p' : Proxy} {a : ProxyAction} {fid : ForwardId} {f : Forward}

/-- The three ways a forward fails: by an exception that leaves it, ended as failed, or ended as an
    unverified success. -/
theorem failsIn_cases (fails : p.failsIn a = some fid) :
    (a.raises = some fid ∧ p.unobservedFailure a = none) ∨
      (p.reports a = some (fid, .failed) ∧ p.unobservedFailure a = none) ∨
      (p.reports a = some (fid, .successUnverified) ∧ p.unobservedFailure a = some fid) := by
  cases a with
  | start gid request built => cases fails
  | scheduler b => cases fails
  | sendReturns gid result condition answer =>
      cases result with
      | httpError timedOut =>
          cases fails
          exact Or.inr (Or.inl ⟨by simp only [Proxy.reports, observeFailure_failed], rfl⟩)
      | raised =>
          cases fails
          exact Or.inl ⟨rfl, rfl⟩
      | response statusCode streams routeHash =>
          cases streams with
          | false => cases fails
          | true =>
              simp only [Proxy.failsIn] at fails
              split at fails
              · rename_i error
                cases fails
                simp only [Proxy.reports, Proxy.unobservedFailure, observeStreaming_error error, error]
                by_cases records : condition = .recording
                · simp [records]
                · simp [records]
              · cases fails
  | bodyReturns gid result condition answer =>
      cases result with
      | none =>
          cases fails
          exact Or.inl ⟨rfl, rfl⟩
      | some body =>
          simp only [Proxy.failsIn] at fails
          split at fails
          · rename_i statusCode routeHash phase
            split at fails
            · rename_i error
              cases fails
              simp only [Proxy.reports, Proxy.unobservedFailure, phase, observeBounded_error error, error]
              by_cases records : condition = .recording
              · simp [records]
              · simp [records]
            · cases fails
          · cases fails

/-! ### The touch of the lease -/

/-- The end of a request moves the touch of its lease as the reset with the outcome does. -/
theorem touchOf_onRequestEnd {cfg : ControllerConfig} {c : LeaseController} {ctx : LeaseRequestContext}
    {outcome : Outcome} {usage : Option TokenUsage} {routeHash : Option String} {answer : ResolverAnswer}
    (enabled : cfg.enabled = true) :
    (c.onRequestEnd cfg ctx outcome usage routeHash answer).world.touchOf ctx.leaseId =
      (c.world.lease? ctx.leaseId).bind fun t =>
        (t.afterNormalRequest c.world.clock outcome).lease.lastCacheTouchAt := by
  obtain ⟨lookup, -, -⟩ := onRequestEnd_frame cfg c ctx outcome usage routeHash answer enabled
  unfold World.touchOf
  rw [lookup, if_pos rfl, Option.bind_map]
  congr 1
  funext t
  exact (ended_frame cfg.manager c.world.clock outcome usage routeHash answer t).2.1

/-- A failed outcome moves no touch. -/
theorem touchOf_failed {cfg : ControllerConfig} {c : LeaseController} {ctx : LeaseRequestContext}
    {usage : Option TokenUsage} {routeHash : Option String} {answer : ResolverAnswer}
    (enabled : cfg.enabled = true) :
    (c.onRequestEnd cfg ctx .failed usage routeHash answer).world.touchOf ctx.leaseId =
      c.world.touchOf ctx.leaseId := by
  rw [touchOf_onRequestEnd enabled, World.touchOf]
  congr 1
  funext t
  rw [TrackedLease.afterNormalRequest_of_unrefreshed (Or.inr rfl)]
  rfl

/-- An unverified success leaves the touch only of a dead lease, of an untracked one, and of one that was
    touched at this very time. -/
theorem touchOf_unverified_iff {cfg : ControllerConfig} {c : LeaseController} {ctx : LeaseRequestContext}
    {usage : Option TokenUsage} {routeHash : Option String} {answer : ResolverAnswer}
    (enabled : cfg.enabled = true) :
    (c.onRequestEnd cfg ctx .successUnverified usage routeHash answer).world.touchOf ctx.leaseId =
        c.world.touchOf ctx.leaseId ↔
      ∀ t ∈ c.world.lease? ctx.leaseId,
        t.lease.state = .invalidated ∨ t.lease.lastCacheTouchAt = some c.world.clock := by
  rw [touchOf_onRequestEnd enabled]
  cases known : c.world.lease? ctx.leaseId with
  | none => simp [World.touchOf, known]
  | some t =>
      rw [touchOf_eq known, Option.bind_some]
      simp only [Option.mem_some_iff, forall_eq']
      by_cases dead : t.lease.state = .invalidated
      · rw [TrackedLease.afterNormalRequest_of_unrefreshed (Or.inl dead)]
        simp [dead, TrackedLease.unrefreshed]
      · rw [TrackedLease.afterNormalRequest_of_refreshed dead (by decide)]
        simp only [TrackedLease.refreshed, dead, false_or]
        exact eq_comm

/-- The step ends no request of the lease, and no warm of the lease returns in it. -/
def Proxy.Quiet (id : LeaseId) (p : Proxy) (a : ProxyAction) : Prop :=
  (∀ ending ∈ p.reports a, ∀ f ∈ p.forwards.get? ending.1, ∀ ctx ∈ f.ctx, ctx.leaseId ≠ id) ∧
    ∀ tid ∈ a.returningTask, p.controller.world.inFlight tid ≠ some id

instance (id : LeaseId) (p : Proxy) (a : ProxyAction) : Decidable (p.Quiet id a) :=
  inferInstanceAs (Decidable ((∀ ending ∈ p.reports a, ∀ f ∈ p.forwards.get? _, ∀ ctx ∈ f.ctx, _ ≠ _) ∧
    ∀ tid ∈ a.returningTask, _ ≠ _))

/-- Apart from the return of a warm of the lease the scheduler does not move its touch. -/
theorem touchOf_scheduled {cfg : ManagerConfig} {w w' : World} {b : Action} {id : LeaseId}
    (task : b.isScheduler = true) (stepped : step cfg w b = some w')
    (cold : ∀ tid answer, b = .executeReturns tid answer → w.inFlight tid ≠ some id) :
    w'.touchOf id = w.touchOf id := by
  cases known : w.lease? id with
  | some t =>
      obtain ⟨t', known', change⟩ := step_change stepped known
      rw [touchOf_eq known, touchOf_eq known']
      cases change with
      | bookkeeping quiet unreturned frame => exact frame.touch
      | superseded missing switched => cases task
      | operated operation => exact absurd operation (scheduler_no_operation task)
      | returned flying => exact absurd flying (cold _ _ rfl)
  | none =>
      cases appears : w'.lease? id with
      | none => rw [World.touchOf, World.touchOf, known, appears]
      | some t' =>
          obtain ⟨identity, ttl, confidence, answer, ttlS, conf, rfl, -, -, -⟩ :=
            step_creates stepped known appears
          cases task

/-- The end of a request moves the touch of no other lease. -/
theorem touchOf_leaseEnd_of_ne {outcome : Outcome} {usage : Option TokenUsage} {routeHash : Option String}
    {answer : ResolverAnswer} {exit : ForwardExit} {id : LeaseId}
    (elsewhere : ∀ ctx ∈ f.ctx, ctx.leaseId ≠ id) :
    (p.leaseEnd cfg fid f outcome usage routeHash answer exit).touchOf id = p.touchOf id := by
  unfold Proxy.leaseEnd
  split
  · rfl
  · rename_i ctx bound
    split
    · change (p.controller.onRequestEnd cfg.controller ctx outcome usage routeHash answer).world.touchOf id = _
      cases enabled : cfg.controller.enabled with
      | false =>
          unfold LeaseController.onRequestEnd
          rw [enabled]
          rfl
      | true =>
          obtain ⟨lookup, -, -⟩ :=
            onRequestEnd_frame cfg.controller p.controller ctx outcome usage routeHash answer enabled
          have other : id ≠ ctx.leaseId := (elsewhere ctx bound).symm
          rw [World.touchOf, lookup, if_neg other]
          rfl
    · rfl

/-- A step that is quiet for a lease leaves its touch where it was. -/
theorem touchOf_quiet_step {id : LeaseId} (quiet : p.Quiet id a) (stepped : proxyStep cfg p a = some p') :
    p'.touchOf id = p.touchOf id := by
  obtain ⟨silent, cold⟩ := quiet
  cases proxyStep_effect stepped with
  | @started fid request built unused =>
      change World.touchOf (p.leaseStart cfg request).1.world id = _
      unfold Proxy.leaseStart
      split
      · exact touchOf_onRequestStart cfg.controller p.controller request id
      · rfl
  | answered here waiting unreported calm running => rfl
  | ended here waiting reported => exact touchOf_leaseEnd_of_ne (silent _ reported _ here)
  | left here waiting raised => rfl
  | scheduled task moved =>
      apply touchOf_scheduled task moved
      rintro tid answer rfl
      exact cold tid rfl

/-- So does a stretch of quiet steps. -/
theorem touchOf_quiet_run {id : LeaseId} {acts : List ProxyAction}
    (quiet : Execution.Along (proxyStep cfg) (Proxy.Quiet id) p acts)
    (run : proxyExec cfg p acts = some p') : p'.touchOf id = p.touchOf id := by
  apply Execution.invariant_along (I := fun u => u.touchOf id = p.touchOf id) _ _ quiet run
  · rfl
  · intro u a v still stepped same
    exact (touchOf_quiet_step still stepped).trans same

/-- An exception that leaves a forward is no report of its outcome. -/
theorem reports_of_raises (raised : a.raises = some fid) : p.reports a = none := by
  cases a with
  | start gid request built => cases raised
  | sendReturns gid result condition answer =>
      cases result with
      | response statusCode streams routeHash => cases raised
      | httpError timedOut => cases raised
      | raised => rfl
  | bodyReturns gid result condition answer =>
      cases result with
      | none => rfl
      | some body => cases raised
  | scheduler b => cases raised

theorem returningTask_of_raises (raised : a.raises = some fid) : a.returningTask = none := by
  cases a with
  | start gid request built => rfl
  | sendReturns gid result condition answer => rfl
  | bodyReturns gid result condition answer => rfl
  | scheduler b => cases raised

/-- A step in which an exception leaves a forward is quiet for every lease. -/
theorem quiet_of_raises (raised : a.raises = some fid) (id : LeaseId) : p.Quiet id a := by
  constructor
  · intro ending listed
    rw [reports_of_raises raised] at listed
    cases listed
  · intro tid listed
    rw [returningTask_of_raises raised] at listed
    cases listed

/-- The step in which a request reports its outcome ends it with that outcome. -/
theorem ended_of_reports {outcome : Outcome} (stepped : proxyStep cfg p a = some p')
    (reported : p.reports a = some (fid, outcome)) (here : p.forwards.get? fid = some f) :
    ∃ usage routeHash answer exit, p' = p.leaseEnd cfg fid f outcome usage routeHash answer exit := by
  cases proxyStep_effect stepped with
  | started unused => cases reported
  | answered here' waiting silent calm running =>
      rw [silent] at reported
      cases reported
  | ended here' waiting reported' =>
      rw [reported] at reported'
      cases reported'
      rw [here] at here'
      cases here'
      exact ⟨_, _, _, _, rfl⟩
  | left here' waiting raised =>
      rw [reports_of_raises raised] at reported
      cases reported
  | scheduled task moved => cases reported

/-- A request that fails leaves the touch of its lease where it was if and only if its failure is
    observed. -/
theorem failed_step_iff (tracked : p.Tracked cfg) (stepped : proxyStep cfg p a = some p')
    (fails : p.failsIn a = some fid) (here : p.forwards.get? fid = some f) {ctx : LeaseRequestContext}
    (bound : f.ctx = some ctx) :
    p'.touchOf ctx.leaseId = p.touchOf ctx.leaseId ↔ p.FailureObserved a := by
  obtain ⟨present, enabled⟩ := tracked fid f here (by simp [bound])
  rcases failsIn_cases fails with ⟨raised, observed⟩ | ⟨reported, observed⟩ | ⟨reported, unobserved⟩
  · have vacuous : p.FailureObserved a := by
      intro gid listed
      rw [observed] at listed
      cases listed
    have kept := touchOf_quiet_step (quiet_of_raises raised ctx.leaseId) stepped
    exact ⟨fun _ => vacuous, fun _ => kept⟩
  · have vacuous : p.FailureObserved a := by
      intro gid listed
      rw [observed] at listed
      cases listed
    obtain ⟨usage, routeHash, answer, exit, rfl⟩ := ended_of_reports stepped reported here
    rw [leaseEnd_bound bound present]
    exact ⟨fun _ => vacuous, fun _ => touchOf_failed enabled⟩
  · obtain ⟨usage, routeHash, answer, exit, rfl⟩ := ended_of_reports stepped reported here
    rw [leaseEnd_bound bound present]
    apply (touchOf_unverified_iff enabled).trans
    unfold Proxy.FailureObserved
    rw [unobserved]
    simp [here, bound]

/-- In every run of the proxy, for a request whose upstream answers with an error status or that gets no
    complete response, in every condition of the observer: the touch of its lease after the request is the
    one before it if and only if the failure is observed at the request's end. Before it is any state since
    which no request of the lease ended and no warm of it returned, so it may be the one in which the
    request started. -/
theorem failed_request_touch_iff {start u v w : Proxy} {before since : List ProxyAction}
    {ctx : LeaseRequestContext} (initial : start.Initial) (reached : proxyExec cfg start before = some u)
    (quiet : Execution.Along (proxyStep cfg) (Proxy.Quiet ctx.leaseId) u since)
    (passed : proxyExec cfg u since = some v) (stepped : proxyStep cfg v a = some w)
    (fails : v.failsIn a = some fid) (here : v.forwards.get? fid = some f) (bound : f.ctx = some ctx) :
    w.touchOf ctx.leaseId = u.touchOf ctx.leaseId ↔ v.FailureObserved a := by
  have run : proxyExec cfg start (before ++ since) = some v :=
    Execution.exec_append_eq_some.2 ⟨u, reached, passed⟩
  rw [← touchOf_quiet_run quiet passed]
  exact failed_step_iff (run_tracked initial run) stepped fails here bound

/-- A first request has confirmed a hit at time 0. -/
def sampleHit : List ProxyAction :=
  sampleSent ++ [.sendReturns 0 (.response 200 false none) .recording .noResolver,
    .bodyReturns 0 (some { usage := { cacheReadTokens := 1 }, telemetryPresent := true }) .recording
      .noResolver]

/-- A second one starts at time 60. -/
def sampleRetry : List ProxyAction :=
  [.scheduler (.setClock 60), .start 1 (sampleRequest "a") true]

/-- One of another session starts and fails. -/
def sampleElsewhere : List ProxyAction :=
  [.start 2 { identity := sampleIdentity "t" "b", targetsCount := 1 } true,
    .sendReturns 2 (.httpError false) .recording .noResolver]

/-- The server error of the second one is recorded, and the touch of its lease stays at time 0. -/
theorem failed_request_touch_iff_sample :
    (sampleProxyAt (sampleHit ++ (sampleRetry ++ sampleElsewhere) ++
        [.sendReturns 1 (.response 500 true none) .recording .noResolver])).touchOf 0 = some 0 := by
  have reached : (proxyExec sampleProxyConfig {} sampleHit).isSome = true := by decide +kernel
  have quiet : Execution.Along (proxyStep sampleProxyConfig) (Proxy.Quiet 0) (sampleProxyAt sampleHit)
      (sampleRetry ++ sampleElsewhere) := by
    decide +kernel
  have passed :
      (proxyExec sampleProxyConfig {} (sampleHit ++ (sampleRetry ++ sampleElsewhere))).isSome = true := by
    decide +kernel
  have stepped : (proxyExec sampleProxyConfig {} (sampleHit ++ (sampleRetry ++ sampleElsewhere) ++
      [.sendReturns 1 (.response 500 true none) .recording .noResolver])).isSome = true := by
    decide +kernel
  have here : (sampleProxyAt (sampleHit ++ (sampleRetry ++ sampleElsewhere))).forwards.get? 1 =
      some { ctx := some { leaseId := 0, targetsCount := 1 }, phase := .sending } := by
    decide +kernel
  have kept := (failed_request_touch_iff Proxy.initial_empty (exec_sampleProxyAt reached) quiet
    (Execution.exec_final passed) (Execution.step_final stepped) (show _ = some 1 by decide +kernel) here rfl).2
    (by decide +kernel)
  exact kept.trans (by decide +kernel)

/-- Without a store the same server error is ended as an unverified success, and the failed call refreshes
    the lease. -/
theorem unobserved_failure_touches :
    ¬ ∀ condition, (sampleProxyAt (sampleHit ++ sampleRetry ++
        [.sendReturns 1 (.response 500 true none) condition .noResolver])).touchOf 0 =
      (sampleProxyAt sampleHit).touchOf 0 := by
  intro same
  have touched : (sampleProxyAt (sampleHit ++ sampleRetry ++
      [.sendReturns 1 (.response 500 true none) .unavailable .noResolver])).touchOf 0 = some 60 := by
    decide +kernel
  have before : (sampleProxyAt sampleHit).touchOf 0 = some 0 := by decide +kernel
  have refreshed := same .unavailable
  rw [touched, before] at refreshed
  exact absurd refreshed (by decide +kernel)

end CachePilot
