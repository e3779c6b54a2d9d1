/-
Module: CachePilot.Proofs.RequestEnds
Layer: Proofs
Purpose: Every started request is ended exactly once, as long as no exception that the proxy does not handle
  leaves a forward between its start and its end. The exits that the proxy handles end the request; building
  the upstream request, a send that raises outside the client's own class of errors, a cancellation, and the
  reading of a bounded body do not, and then the lease stays busy after its requests are over.
Trusted boundary: none
Main exports: HandledExit, EndsOnce, endsOnce_step_iff, ended_once_iff_handled
-/
import CachePilot.Proofs.ProxySteps

namespace CachePilot

namespace Proxy

/-- No exception leaves a forward that has a context: building its upstream request does not raise, and
    neither does the client, outside the class of errors that the proxy handles. -/
def HandledExit (cfg : ProxyConfig) (p : Proxy) : ProxyAction → Prop
  | .start _ request built => built = true ∨ (p.leaseStart cfg request).2 = none
  | .sendReturns fid .raised _ _ => ∀ f ∈ p.forwards.get? fid, f.ctx = none
  | .bodyReturns fid none _ _ => ∀ f ∈ p.forwards.get? fid, f.ctx = none
  | _ => True

instance HandledExit.decidable (cfg : ProxyConfig) (p : Proxy) : ∀ a, Decidable (p.HandledExit cfg a)
  | .start _ _ _ => inferInstanceAs (Decidable (_ ∨ _))
  | .sendReturns _ .raised _ _ => inferInstanceAs (Decidable (∀ f ∈ Dict.get? _ _, _))
  | .sendReturns _ (.response _ _ _) _ _ => inferInstanceAs (Decidable True)
  | .sendReturns _ (.httpError _) _ _ => inferInstanceAs (Decidable True)
  | .bodyReturns _ none _ _ => inferInstanceAs (Decidable (∀ f ∈ Dict.get? _ _, _))
  | .bodyReturns _ (some _) _ _ => inferInstanceAs (Decidable True)
  | .scheduler _ => inferInstanceAs (Decidable True)

/-- A normal request of the lease is in progress. -/
def InProgress (p : Proxy) (id : LeaseId) : Prop :=
  ∃ fid f ctx, p.forwards.get? fid = some f ∧ f.isOver = false ∧ f.ctx = some ctx ∧ ctx.leaseId = id

/-- Every request that got a context has been ended once if its forward is over and not at all before, and a
    lease is busy only while a request of it is in progress. -/
structure EndsOnce (p : Proxy) : Prop where
  counted : ∀ fid f, p.forwards.get? fid = some f → f.ctx ≠ none →
    f.ends = if f.isOver then 1 else 0
  idle : ∀ id t, p.controller.world.lease? id = some t → t.runtime.realRequestActive = true →
    p.InProgress id

variable {cfg : ProxyConfig} {p p' : Proxy} {a : ProxyAction} {fid : ForwardId} {f f' : Forward}

/-- A request stays in progress when another forward moves. -/
theorem InProgress.other {id : LeaseId} (progress : p.InProgress id)
    (here : ∀ g, p.forwards.get? fid = some g → g.isOver = false →
      ∀ ctx, g.ctx = some ctx → ctx.leaseId ≠ id) (c : LeaseController) :
    InProgress { controller := c, forwards := p.forwards.set fid f' } id := by
  obtain ⟨gid, g, ctx, found, waiting, bound, own⟩ := progress
  refine ⟨gid, g, ctx, ?_, waiting, bound, own⟩
  rw [Dict.get?_set]
  split
  · rename_i same
    rw [same] at found
    exact absurd own (here g found waiting ctx bound)
  · exact found

/-- Counting a forward that moves. -/
theorem counted_set (counted : ∀ fid f, p.forwards.get? fid = some f → f.ctx ≠ none →
      f.ends = if f.isOver then 1 else 0)
    (moved : f'.ctx ≠ none → f'.ends = if f'.isOver then 1 else 0) {gid : ForwardId} {g : Forward}
    (found : (p.forwards.set fid f').get? gid = some g) (bound : g.ctx ≠ none) :
    g.ends = if g.isOver then 1 else 0 := by
  rw [Dict.get?_set] at found
  split at found
  · cases found
    exact moved bound
  · exact counted gid g found bound

/-- A request stays in progress when its own forward moves on without being over. -/
theorem InProgress.moves {id : LeaseId} (progress : p.InProgress id)
    (here : p.forwards.get? fid = some f) (same : f'.ctx = f.ctx) (waiting : f'.isOver = false)
    (c : LeaseController) : InProgress { controller := c, forwards := p.forwards.set fid f' } id := by
  obtain ⟨gid, g, ctx, found, active, bound, own⟩ := progress
  by_cases self : gid = fid
  · subst self
    rw [here] at found
    cases found
    exact ⟨gid, f', ctx, Dict.get?_set_self _ _ _, waiting, same.trans bound, own⟩
  · refine ⟨gid, g, ctx, ?_, active, bound, own⟩
    rw [Dict.get?_set, if_neg self]
    exact found

/-! ### Exits -/

/-- A step that neither starts a forward nor raises in one is handled. -/
theorem handledExit_of_calm (calm : a.raises = none)
    (running : ∀ gid request built, a ≠ .start gid request built) : p.HandledExit cfg a := by
  cases a with
  | start gid request built => exact absurd rfl (running gid request built)
  | sendReturns gid result condition answer =>
      cases result with
      | response statusCode streams routeHash => trivial
      | httpError timedOut => trivial
      | raised => cases calm
  | bodyReturns gid result condition answer =>
      cases result with
      | none => cases calm
      | some body => trivial
  | scheduler b => trivial

/-- A step that ends a request is handled. -/
theorem handledExit_of_reports {outcome : Outcome} (reported : p.reports a = some (fid, outcome)) :
    p.HandledExit cfg a := by
  cases a with
  | start gid request built => cases reported
  | sendReturns gid result condition answer =>
      cases result with
      | response statusCode streams routeHash => trivial
      | httpError timedOut => trivial
      | raised => cases reported
  | bodyReturns gid result condition answer =>
      cases result with
      | none => cases reported
      | some body => trivial
  | scheduler b => trivial

/-- An exception is handled exactly when the forward has no context. -/
theorem handledExit_of_raises (raised : a.raises = some fid) (here : p.forwards.get? fid = some f) :
    p.HandledExit cfg a ↔ f.ctx = none := by
  have exact : (∀ g ∈ p.forwards.get? fid, g.ctx = none) ↔ f.ctx = none := by
    rw [here]
    simp
  cases a with
  | start gid request built => cases raised
  | sendReturns gid result condition answer =>
      cases result with
      | response statusCode streams routeHash => cases raised
      | httpError timedOut => cases raised
      | raised =>
          cases raised
          exact exact
  | bodyReturns gid result condition answer =>
      cases result with
      | none =>
          cases raised
          exact exact
      | some body => cases raised
  | scheduler b => cases raised

/-! ### One step -/

/-- A request that starts is in progress once its upstream request is built. -/
theorem endsOnce_started {request : StartRequest} {built : Bool}
    (unused : p.forwards.get? fid = none)
    (handled : built = true ∨ (p.leaseStart cfg request).2 = none) (before : p.EndsOnce) :
    EndsOnce
      { controller := (p.leaseStart cfg request).1
        forwards := p.forwards.set fid
          { ctx := (p.leaseStart cfg request).2
            phase := if built then .sending else .exited .raised } } where
  counted := by
    intro gid g found bound
    apply counted_set before.counted _ found bound
    intro given
    rcases handled with rfl | absent
    · rfl
    · exact absurd absent given
  idle := by
    intro id t' known' active
    have origin : (∃ t, p.controller.world.lease? id = some t ∧ t.runtime.realRequestActive = true) ∨
        ∃ ctx, (p.leaseStart cfg request).2 = some ctx ∧ ctx.leaseId = id := by
      unfold Proxy.leaseStart at known' ⊢
      split at known'
      · rename_i present
        rw [if_pos present]
        exact onRequestStart_busy cfg.controller p.controller request known' active
      · exact Or.inl ⟨t', known', active⟩
    rcases origin with ⟨t, known, busy⟩ | ⟨ctx, given, own⟩
    · apply (before.idle id t known busy).other
      intro g found
      rw [unused] at found
      cases found
    · rcases handled with rfl | absent
      · exact ⟨fid, _, ctx, Dict.get?_set_self _ _ _, rfl, given, own⟩
      · rw [absent] at given
        cases given

/-- A request that is ended is counted, and leaves its lease idle. -/
theorem endsOnce_ended {ctx : LeaseRequestContext} {outcome : Outcome} {usage : Option TokenUsage}
    {routeHash : Option String} {answer : ResolverAnswer} {exit : ForwardExit}
    (here : p.forwards.get? fid = some f) (waiting : f.isOver = false) (bound : f.ctx = some ctx)
    (enabled : cfg.controller.enabled = true) (before : p.EndsOnce) :
    EndsOnce
      { controller := p.controller.onRequestEnd cfg.controller ctx outcome usage routeHash answer
        forwards := p.forwards.set fid { f with phase := .exited exit, ends := f.ends + 1 } } where
  counted := by
    intro gid g found given
    apply counted_set before.counted _ found given
    intro some
    have zero : f.ends = 0 := by
      rw [before.counted fid f here some, waiting]
      rfl
    rw [zero]
    rfl
  idle := by
    intro id t' known' active
    obtain ⟨lookup, -, -⟩ :=
      onRequestEnd_frame cfg.controller p.controller ctx outcome usage routeHash answer enabled
    rw [lookup id] at known'
    split at known'
    · obtain ⟨t, known, rfl⟩ := Option.map_eq_some_iff.1 known'
      rw [ended_idle] at active
      cases active
    · rename_i other
      apply (before.idle id t' known' active).other
      intro g found still ctx' given same
      rw [here] at found
      cases found
      rw [bound] at given
      cases given
      exact other same.symm

/-- A forward without a context may leave in any way. -/
theorem endsOnce_left {exit : ForwardExit} (here : p.forwards.get? fid = some f) (free : f.ctx = none)
    (before : p.EndsOnce) : (p.leave fid f exit).EndsOnce where
  counted := by
    intro gid g found given
    apply counted_set before.counted _ found given
    intro bound
    exact absurd free bound
  idle := by
    intro id t known active
    apply (before.idle id t known active).other
    intro g found still ctx bound
    rw [here] at found
    cases found
    rw [free] at bound
    cases bound

/-- A response whose body is still to be read leaves the request in progress. -/
theorem endsOnce_answered {statusCode : ℕ} {routeHash : Option String}
    (here : p.forwards.get? fid = some f) (waiting : f.isOver = false) (before : p.EndsOnce) :
    EndsOnce
      { p with forwards := p.forwards.set fid { f with phase := .reading statusCode routeHash } } where
  counted := by
    intro gid g found given
    apply counted_set before.counted _ found given
    intro bound
    have zero := before.counted fid f here bound
    rw [waiting] at zero
    exact zero
  idle := by
    intro id t known active
    apply (before.idle id t known active).moves here
    · rfl
    · rfl

/-- The scheduler is no party to a request. -/
theorem endsOnce_scheduled {b : Action} {world : World} (task : b.isScheduler = true)
    (moved : step cfg.controller.manager p.controller.world b = some world) (before : p.EndsOnce) :
    EndsOnce { p with controller := { p.controller with world } } where
  counted := before.counted
  idle := by
    intro id t' known' active
    obtain ⟨t, known, busy⟩ := scheduler_busy task moved known' active
    exact before.idle id t known busy

/-- A step keeps every request ended exactly once if and only if it is no exit that the proxy leaves
    unhandled. -/
theorem endsOnce_step_iff (tracked : p.Tracked cfg) (stepped : proxyStep cfg p a = some p')
    (before : p.EndsOnce) : p'.EndsOnce ↔ p.HandledExit cfg a := by
  cases proxyStep_effect stepped with
  | @started fid request built unused =>
      constructor
      · intro after
        cases raised : built with
        | true => exact Or.inl rfl
        | false =>
            apply Or.inr
            by_contra given
            have count := after.counted fid _ (Dict.get?_set_self _ _ _) given
            rw [raised] at count
            cases count
      · intro handled
        exact endsOnce_started unused handled before
  | @answered a fid f statusCode routeHash here waiting silent calm running =>
      have handled : p.HandledExit cfg a := handledExit_of_calm calm running
      exact ⟨fun _ => handled, fun _ => endsOnce_answered here waiting before⟩
  | @ended a fid f outcome usage routeHash answer exit here waiting reported =>
      have after : (p.leaseEnd cfg fid f outcome usage routeHash answer exit).EndsOnce := by
        cases bound : f.ctx with
        | none =>
            rw [leaseEnd_free bound]
            exact endsOnce_left here bound before
        | some ctx =>
            obtain ⟨present, enabled⟩ := tracked fid f here (by simp [bound])
            rw [leaseEnd_bound bound present]
            exact endsOnce_ended here waiting bound enabled before
      have handled : p.HandledExit cfg a := handledExit_of_reports reported
      exact ⟨fun _ => handled, fun _ => after⟩
  | @left a fid f here waiting raised =>
      rw [handledExit_of_raises raised here]
      constructor
      · intro after
        by_contra given
        have never : f.ends = 0 := by
          rw [before.counted fid f here given, waiting]
          rfl
        have once : f.ends = 1 := after.counted fid _ (Dict.get?_set_self _ _ _) given
        omega
      · intro free
        exact endsOnce_left here free before
  | scheduled task moved =>
      exact ⟨fun _ => trivial, fun _ => endsOnce_scheduled task moved before⟩

theorem Initial.endsOnce {start : Proxy} (initial : start.Initial) : start.EndsOnce where
  counted := by
    intro fid f found
    rw [initial.2.2] at found
    cases found
  idle := by
    intro id t known
    rw [World.lease?, initial.1.1] at known
    cases known

end Proxy

/-- In every run of the proxy, after every step every request that got a context has been ended exactly once
    if its forward is over and not before, and no lease is busy without a request of it in progress, if and
    only if no step of the run is an exit that the proxy leaves unhandled. -/
theorem ended_once_iff_handled {cfg : ProxyConfig} {start p : Proxy} {acts : List ProxyAction}
    (initial : start.Initial) (run : proxyExec cfg start acts = some p) :
    Execution.EveryStep (proxyStep cfg) (fun _ _ v => v.EndsOnce) start acts ↔
      Execution.Along (proxyStep cfg) (Proxy.HandledExit cfg) start acts := by
  apply Execution.everyState_iff_along initial.endsOnce run
  intro before a after u v split reached stepped held
  exact Proxy.endsOnce_step_iff (run_tracked initial reached) stepped held

/-- The upstream answers with a bounded response, whose body is read to its end. -/
def sampleAnswered : List ProxyAction :=
  sampleSent ++ [.sendReturns 0 (.response 200 false none) .recording .noResolver,
    .bodyReturns 0 (some { telemetryPresent := true }) .recording .noResolver]

theorem ended_once_iff_handled_sample : (sampleProxyAt sampleAnswered).EndsOnce := by
  have run : proxyExec sampleProxyConfig {} sampleAnswered = some (sampleProxyAt sampleAnswered) :=
    exec_sampleProxyAt (by decide +kernel)
  have every := (ended_once_iff_handled Proxy.initial_empty run).2 (by decide +kernel)
  exact every (sampleSent ++ [.sendReturns 0 (.response 200 false none) .recording .noResolver])
    (.bodyReturns 0 (some { telemetryPresent := true }) .recording .noResolver) [] _ _ rfl
    (exec_sampleProxyAt (by decide +kernel)) (Execution.step_final (by decide +kernel))

/-- The client goes away while its request is being sent: the cancellation leaves the forward, which is over
    and was never ended, and the lease stays busy. -/
theorem cancelled_request_not_ended :
    (¬ ∀ p fid f, proxyExec sampleProxyConfig {}
        (sampleSent ++ [.sendReturns 0 .raised .recording .noResolver]) = some p →
      p.forwards.get? fid = some f → f.ctx ≠ none → f.isOver = true → f.ends = 1) ∧
    ((sampleProxyAt (sampleSent ++
        [.sendReturns 0 .raised .recording .noResolver])).controller.world.lease? 0).map
      (fun t => t.runtime.realRequestActive) = some true := by
  refine ⟨?_, by decide +kernel⟩
  intro once
  have run : proxyExec sampleProxyConfig {}
      (sampleSent ++ [.sendReturns 0 .raised .recording .noResolver]) =
        some (sampleProxyAt (sampleSent ++ [.sendReturns 0 .raised .recording .noResolver])) :=
    exec_sampleProxyAt (by decide +kernel)
  have ended : (sampleProxyAt (sampleSent ++
      [.sendReturns 0 .raised .recording .noResolver])).forwards.get? 0 =
        some { ctx := some { leaseId := 0, targetsCount := 1 }, phase := .exited .raised } := by
    decide +kernel
  exact absurd (once _ 0 _ run ended (by simp) rfl) (by decide)

end CachePilot
