/-
Module: CachePilot.Proofs.PricedWarms
Layer: Proofs
Purpose: Where the cost estimates of a lease come from, and what warms owe to them. In every run of the proxy the
  estimates of a lease are those of the last usage with prompt tokens that the observer read from a bounded response
  to one of its requests. With the economic gate on, no warm is sent for a lease before there was such a response, nor
  without a price table. So a relay whose responses all stream never warms, however its prices are configured.
Trusted boundary: none
Main exports: CostEstimates, CostEstimates.ofUsage, World.estimatesOf, World.Costed, Proxy.reportedUsage,
  estimatesOf_proxyStep, warms_follow_usage
-/
import CachePilot.Proofs.ProxySteps
import CachePilot.Proofs.Snapshots
import CachePilot.Proofs.Tasks

namespace CachePilot

/-! ### Cost estimates -/

/-- What a lease knows about its costs. -/
structure CostEstimates where
  prefixTokens : Option ℕ := none
  coldResume : Option ℚ := none
  cachedResume : Option ℚ := none
  nextWarm : Option ℚ := none
deriving DecidableEq

def CacheLease.costEstimates (lease : CacheLease) : CostEstimates where
  prefixTokens := lease.prefixTokens
  coldResume := lease.estimatedColdResumeCostUsd
  cachedResume := lease.estimatedCachedResumeCostUsd
  nextWarm := lease.nextWarmCostUsd

/-- The usage counts prompt tokens. -/
def TokenUsage.prompted (usage : TokenUsage) : Bool := 0 < usage.promptTokens

namespace CostEstimates

/-- Both costs of a resume are known. -/
def Known (e : CostEstimates) : Prop := e.coldResume ≠ none ∧ e.cachedResume ≠ none

/-- The estimates that follow from a usage with prompt tokens. -/
def ofUsage (cfg : ManagerConfig) (usage : TokenUsage) : CostEstimates :=
  let tokens := usage.promptTokens
  match cfg.pricingTable with
  | some pricing =>
      { prefixTokens := some tokens
        coldResume := some (estimateResumeCosts tokens pricing).1
        cachedResume := some (estimateResumeCosts tokens pricing).2
        nextWarm := some (estimateCost
          { promptTokens := tokens, cacheReadTokens := tokens, completionTokens := 1 } pricing) }
  | none =>
      { prefixTokens := some tokens
        nextWarm := (CostResolver.resolve usage none cfg.priceOverride).amount }

/-- The resume costs are known exactly when there is a price table. -/
theorem known_ofUsage (cfg : ManagerConfig) (usage : TokenUsage) :
    (ofUsage cfg usage).Known ↔ cfg.pricingTable ≠ none := by
  unfold ofUsage Known
  cases cfg.pricingTable with
  | none => simp
  | some pricing => simp

end CostEstimates

/-- A resolved cost has an amount exactly when it is known. -/
theorem resolve_amount (usage : TokenUsage) (pricing : Option PricingTable) (override : Option ℚ) :
    (if (CostResolver.resolve usage pricing override).isKnown
      then (CostResolver.resolve usage pricing override).amount else none) =
        (CostResolver.resolve usage pricing override).amount := by
  unfold CostResolver.resolve
  split <;> rfl

/-- A usage with prompt tokens replaces all estimates. -/
theorem costEstimates_updateCostEstimates (cfg : ManagerConfig) {usage : TokenUsage} (prompted : 0 < usage.promptTokens)
    (t : TrackedLease) :
    (t.updateCostEstimates cfg usage).lease.costEstimates = CostEstimates.ofUsage cfg usage := by
  unfold TrackedLease.updateCostEstimates CostEstimates.ofUsage
  rw [if_neg prompted.ne']
  dsimp only
  cases cfg.pricingTable with
  | none =>
      dsimp only
      rw [resolve_amount]
      rfl
  | some pricing => rfl

/-- Nothing else writes the estimates. -/
theorem Operation.costEstimates {cfg : ManagerConfig} {now : ℚ} {id : LeaseId} {a : Action}
    {f : TrackedLease → TrackedLease} (operation : Operation cfg now id a f)
    (spared : ∀ usage, a ≠ .updateCostEstimates id usage) (t : TrackedLease) :
    (f t).lease.costEstimates = t.lease.costEstimates := by
  cases operation with
  | arm =>
      rw [TrackedLease.arm, CacheLease.arm_eq]
      rfl
  | targetStarted targetId =>
      rw [TrackedLease.targetStarted_frame]
      rfl
  | targetFinished targetId =>
      rw [TrackedLease.targetFinished_frame]
      rfl
  | afterNormalRequest outcome =>
      rw [TrackedLease.afterNormalRequest_frame]
      rfl
  | refreshTtl answer =>
      rw [TrackedLease.refreshTtl_frame]
      rfl
  | updateCostEstimates usage => exact absurd rfl (spared usage)
  | _ => rfl

theorem LeaseChange.costEstimates {cfg : ManagerConfig} {w : World} {id : LeaseId} {a : Action} {t t' : TrackedLease}
    (change : LeaseChange cfg w id t a t') (spared : ∀ usage, a ≠ .updateCostEstimates id usage) :
    t'.lease.costEstimates = t.lease.costEstimates := by
  cases change with
  | bookkeeping quiet unreturned frame =>
      rw [frame.lease]
      rfl
  | superseded missing switched => rfl
  | operated operation => exact operation.costEstimates spared t
  | returned flying =>
      rw [finishWarm_frame]
      rfl

/-- The estimates of a lease; an untracked one has none. -/
def World.estimatesOf (w : World) (id : LeaseId) : CostEstimates :=
  ((w.lease? id).map fun t => t.lease.costEstimates).getD {}

theorem estimatesOf_eq {w : World} {id : LeaseId} {t : TrackedLease} (known : w.lease? id = some t) :
    w.estimatesOf id = t.lease.costEstimates := by
  rw [World.estimatesOf, known]
  rfl

theorem estimatesOf_step {cfg : ManagerConfig} {w w' : World} {a : Action} {id : LeaseId}
    (stepped : step cfg w a = some w') (spared : ∀ usage, a ≠ .updateCostEstimates id usage) :
    w'.estimatesOf id = w.estimatesOf id := by
  cases known : w.lease? id with
  | some t =>
      obtain ⟨t', known', change⟩ := step_change stepped known
      rw [estimatesOf_eq known, estimatesOf_eq known', change.costEstimates spared]
  | none =>
      unfold World.estimatesOf
      rw [known]
      cases appears : w'.lease? id with
      | none => rfl
      | some t' =>
          obtain ⟨identity, ttl, confidence, answer, ttlS, c, -, -, -, new⟩ := step_creates stepped known appears
          rw [new]
          rfl

/-! ### Warms need estimates -/

/-- With the economic gate on, a lease that passes it knows its estimates. -/
theorem known_of_economic {cfg : ManagerConfig} {lease : CacheLease}
    (economics : cfg.settings.economics.enabled = true) (passed : economicGate cfg lease = true) :
    lease.costEstimates.Known := by
  rw [economicGate, if_pos economics] at passed
  have priced := ((EconomicController.evaluate_shouldWarm_iff _ _).1 passed).1
  have known : lease.estimatedColdResumeCostUsd ≠ none ∧ lease.estimatedCachedResumeCostUsd ≠ none := by
    simpa [economicInputs, Option.isSome_iff_ne_none] using priced
  exact known

/-- Estimates are known only with a price table, and then every evaluation that waits at a lock is one of a lease whose
    estimates are known. -/
structure World.Costed (cfg : ManagerConfig) (w : World) : Prop where
  priced : ∀ id, (w.estimatesOf id).Known → cfg.pricingTable ≠ none
  waiters : ∀ tid id fp g, w.WaitsAt tid id fp g → (w.estimatesOf id).Known

/-- A step keeps the estimates of a lease or takes those of a usage with prompt tokens. -/
theorem estimatesOf_step_cases {cfg : ManagerConfig} {w w' : World} {a : Action} (id : LeaseId)
    (stepped : step cfg w a = some w') :
    w'.estimatesOf id = w.estimatesOf id ∨ ∃ usage, w'.estimatesOf id = CostEstimates.ofUsage cfg usage := by
  by_cases spared : ∀ usage, a ≠ .updateCostEstimates id usage
  · exact Or.inl (estimatesOf_step stepped spared)
  · obtain ⟨usage, updates⟩ := not_forall.1 spared
    rw [not_not] at updates
    subst updates
    obtain ⟨manager, modified, rfl⟩ := Option.map_eq_some_iff.1 stepped
    obtain ⟨t, known, rfl⟩ := Option.map_eq_some_iff.1 modified
    have tracked : w.lease? id = some t := known
    have written : (w.putLease id (t.updateCostEstimates cfg usage)).lease? id =
        some (t.updateCostEstimates cfg usage) := by
      rw [World.lease?_putLease, if_pos rfl]
    change (w.putLease id (t.updateCostEstimates cfg usage)).estimatesOf id = _ ∨
      ∃ usage', (w.putLease id (t.updateCostEstimates cfg usage)).estimatesOf id = _
    rw [estimatesOf_eq written, estimatesOf_eq tracked]
    by_cases empty : usage.promptTokens = 0
    · rw [TrackedLease.updateCostEstimates, if_pos empty]
      exact Or.inl rfl
    · exact Or.inr ⟨usage, costEstimates_updateCostEstimates cfg (Nat.pos_of_ne_zero empty) t⟩

theorem step_costed {cfg : ManagerConfig} {w w' : World} {a : Action} (stepped : step cfg w a = some w')
    (economics : cfg.settings.economics.enabled = true) (costed : w.Costed cfg) : w'.Costed cfg where
  priced := by
    intro id known
    rcases estimatesOf_step_cases id stepped with same | ⟨usage, fresh⟩
    · rw [same] at known
      exact costed.priced id known
    · rw [fresh] at known
      exact (CostEstimates.known_ofUsage cfg usage).1 known
  waiters := by
    intro tid id fp g waiting
    have effect := step_point stepped tid
    rw [World.WaitsAt] at waiting
    rw [waiting] at effect
    generalize point : some (TaskPoint.atLock id fp g) = p at effect
    cases effect with
    | untouched elsewhere =>
        have before := costed.waiters tid id fp g point.symm
        rcases estimatesOf_step_cases id stepped with same | ⟨usage, fresh⟩
        · rw [same]
          exact before
        · rw [fresh]
          exact (CostEstimates.known_ofUsage cfg usage).2 (costed.priced id before)
    | readied => cases point
    | @waits task j rest t g' here ready queued known authorised consumed busy =>
        cases point
        rw [estimatesOf_eq consumed, (Bookkeeping.consumeSchedule cfg t).lease]
        exact known_of_economic economics authorised.economic
    | sent known sends cleared => cases point

theorem World.Initial.costed {w : World} (initial : w.Initial) (cfg : ManagerConfig) : w.Costed cfg where
  priced := by
    intro id known
    rw [World.estimatesOf, World.lease?, initial.1] at known
    exact absurd rfl known.1
  waiters := by
    intro tid id fp g waiting
    rw [World.WaitsAt, World.pointOf, World.task?, initial.2] at waiting
    cases waiting

theorem Reaches.costed {cfg : ManagerConfig} {w w' : World} (reaches : Reaches cfg w w')
    (economics : cfg.settings.economics.enabled = true) (costed : w.Costed cfg) : w'.Costed cfg := by
  obtain ⟨acts, run⟩ := reaches
  exact Execution.invariant (I := World.Costed cfg) costed
    (fun u b v stepped held => step_costed stepped economics held) run

/-- A warm is sent for a lease whose estimates are known. -/
theorem World.Costed.sent {cfg : ManagerConfig} {w w' : World} {a : Action} {tid : TaskId} {id : LeaseId}
    (costed : w.Costed cfg) (economics : cfg.settings.economics.enabled = true) (stepped : step cfg w a = some w')
    (sent : WarmSent w w' tid id) : (w.estimatesOf id).Known := by
  obtain ⟨-, t, fp, g, known, sends, cleared⟩ := warmSent_sends stepped sent
  cases sends with
  | atOnce here ready queued same authorised free =>
      rw [estimatesOf_eq known]
      exact known_of_economic economics authorised.economic
  | atLock waiting first => exact costed.waiters tid id fp g waiting

/-! ### The controller's calls -/

theorem costEstimates_reconciled (cfg : ControllerConfig) (current : List String) (count : ℕ) (t : TrackedLease) :
    (reconciled cfg current count t).lease.costEstimates = t.lease.costEstimates := by
  have finished : ∀ (targets : List String) (u : TrackedLease),
      (finishTargets targets u).lease.costEstimates = u.lease.costEstimates := by
    intro targets u
    apply List.foldlRecOn targets (motive := fun v : TrackedLease => v.lease.costEstimates = u.lease.costEstimates)
    · rfl
    · intro v same target listed
      rw [TrackedLease.targetFinished_frame]
      exact same
  have started : ∀ (targets : List String) (u : TrackedLease),
      (startTargets targets u).lease.costEstimates = u.lease.costEstimates := by
    intro targets u
    apply List.foldlRecOn targets (motive := fun v : TrackedLease => v.lease.costEstimates = u.lease.costEstimates)
    · rfl
    · intro v same target listed
      rw [TrackedLease.targetStarted_frame]
      exact same
  exact (started _ _).trans (finished _ t)

/-- The start of a request leaves the estimates of every lease. -/
theorem estimatesOf_onRequestStart (cfg : ControllerConfig) (c : LeaseController) (request : StartRequest)
    (id : LeaseId) : (c.onRequestStart cfg request).1.world.estimatesOf id = c.world.estimatesOf id := by
  have begun := onRequestStart_cases cfg c request
  generalize c.onRequestStart cfg request = result at begun
  have unspent : ∀ usage,
      Action.findOrCreateLease request.identity none (1 / 2) request.answer ≠ .updateCostEstimates id usage := by
    intro usage same
    cases same
  cases begun with
  | untracked => rfl
  | raised called => exact estimatesOf_step (step_of_called called) unspent
  | @started manager own enabled called =>
      rw [← estimatesOf_step (step_of_called called) unspent]
      unfold World.estimatesOf
      rw [lease?_startRealRequest]
      by_cases same : id = own
      · subst same
        rw [if_pos rfl]
        cases known : World.lease? { c.world with manager } id with
        | none => rfl
        | some t => exact costEstimates_reconciled cfg _ _ t
      · rw [if_neg same]

/-- The end of a request takes the estimates of its usage, if that has prompt tokens. -/
theorem costEstimates_ended (cfg : ManagerConfig) (now : ℚ) (outcome : Outcome) (usage : Option TokenUsage)
    (routeHash : Option String) (answer : ResolverAnswer) (t : TrackedLease) :
    (ended cfg now outcome usage routeHash answer t).lease.costEstimates =
      (usage.filter TokenUsage.prompted).elim t.lease.costEstimates (CostEstimates.ofUsage cfg) := by
  have reset : (t.afterNormalRequest now outcome).lease.costEstimates = t.lease.costEstimates := by
    rw [TrackedLease.afterNormalRequest_frame]
    rfl
  have updated : ∀ (u : TrackedLease) (usage : TokenUsage),
      (if 0 < usage.promptTokens then u.updateCostEstimates cfg usage else u).lease.costEstimates =
        ((some usage).filter TokenUsage.prompted).elim u.lease.costEstimates
          (CostEstimates.ofUsage cfg) := by
    intro u usage
    by_cases prompted : 0 < usage.promptTokens
    · have counted : usage.prompted = true := decide_eq_true prompted
      rw [if_pos prompted, Option.filter_some_pos counted]
      exact costEstimates_updateCostEstimates cfg prompted u
    · have uncounted : usage.prompted = false := decide_eq_false prompted
      rw [if_neg prompted, Option.filter_some_neg uncounted]
      rfl
  rw [← reset]
  unfold ended
  generalize t.afterNormalRequest now outcome = u
  dsimp only
  rw [TrackedLease.refreshTtl_frame]
  cases usage with
  | none => cases routeHash <;> rfl
  | some usage =>
      cases routeHash with
      | none => exact updated u usage
      | some hash => exact updated u usage

theorem estimatesOf_onRequestEnd {cfg : ControllerConfig} {c : LeaseController} {ctx : LeaseRequestContext}
    {outcome : Outcome} {usage : Option TokenUsage} {routeHash : Option String} {answer : ResolverAnswer}
    {t : TrackedLease} (enabled : cfg.enabled = true) (known : c.world.lease? ctx.leaseId = some t) (id : LeaseId) :
    (c.onRequestEnd cfg ctx outcome usage routeHash answer).world.estimatesOf id =
      if id = ctx.leaseId then
        (usage.filter TokenUsage.prompted).elim (c.world.estimatesOf id)
          (CostEstimates.ofUsage cfg.manager)
      else c.world.estimatesOf id := by
  obtain ⟨lookup, -, -⟩ := onRequestEnd_frame cfg c ctx outcome usage routeHash answer enabled
  by_cases own : id = ctx.leaseId
  · subst own
    have written := lookup ctx.leaseId
    rw [if_pos rfl, known, Option.map_some] at written
    rw [if_pos rfl, estimatesOf_eq written, estimatesOf_eq known, costEstimates_ended]
  · unfold World.estimatesOf
    rw [lookup, if_neg own, if_neg own]

/-! ### Runs of the proxy -/

namespace Proxy

/-- The usage with prompt tokens that this step reports for the lease: the observer read it from the body of a bounded
    response to a request of the lease. -/
def reportedUsage (p : Proxy) (id : LeaseId) : ProxyAction → Option TokenUsage
  | .bodyReturns fid (some body) condition _ =>
      (p.forwards.get? fid).bind fun f =>
        match f.phase, f.ctx with
        | .reading statusCode _, some ctx =>
            if ctx.leaseId = id then
              (some (observeBounded condition statusCode body).2).filter TokenUsage.prompted
            else none
        | _, _ => none
  | _ => none

/-- The leases of the forwards are tracked. -/
def LeasesKnown (p : Proxy) : Prop :=
  ∀ fid f ctx, p.forwards.get? fid = some f → f.ctx = some ctx → ∃ t, p.controller.world.lease? ctx.leaseId = some t

end Proxy

section Steps

variable {cfg : ProxyConfig} {p p' : Proxy} {a : ProxyAction}

/-- Every step of the proxy is a run of the event loop. -/
theorem proxyStep_reaches (stepped : proxyStep cfg p a = some p') :
    Reaches cfg.controller.manager p.controller.world p'.controller.world := by
  cases proxyStep_effect stepped with
  | @started fid request built unused =>
      change Reaches _ _ (p.leaseStart cfg request).1.world
      unfold Proxy.leaseStart
      split
      · exact onRequestStart_reaches cfg.controller p.controller request
      · exact Reaches.refl _
  | answered here waiting silent calm running => exact Reaches.refl _
  | @ended a fid f outcome usage routeHash answer exit here waiting reported =>
      unfold Proxy.leaseEnd
      split
      · exact Reaches.refl _
      · split
        · exact onRequestEnd_reaches cfg.controller p.controller _ outcome usage routeHash answer
        · exact Reaches.refl _
  | left here waiting raised => exact Reaches.refl _
  | scheduled task moved => exact Reaches.of_step moved

/-- A request that starts has its lease tracked. -/
theorem onRequestStart_tracks {cfg : ControllerConfig} {c : LeaseController} {request : StartRequest}
    {ctx : LeaseRequestContext} (given : (c.onRequestStart cfg request).2 = some ctx) :
    ∃ t, (c.onRequestStart cfg request).1.world.lease? ctx.leaseId = some t := by
  have begun := onRequestStart_cases cfg c request
  generalize c.onRequestStart cfg request = result at begun given ⊢
  cases begun with
  | untracked => cases given
  | raised called => cases given
  | @started manager id enabled called =>
      cases given
      obtain ⟨-, t, known, -⟩ := registered_of_called called
      have here : World.lease? { c.world with manager } id = some t := known
      have started := lease?_startRealRequest cfg { c with world := { c.world with manager } } id id request
      rw [if_pos rfl, here] at started
      exact ⟨_, started⟩

/-- Ending a request moves its forward, which keeps its context. -/
theorem leaseEnd_forwards (cfg : ProxyConfig) (p : Proxy) (fid : ForwardId) (f : Forward) (outcome : Outcome)
    (usage : Option TokenUsage) (routeHash : Option String) (answer : ResolverAnswer) (exit : ForwardExit) :
    ∃ f', (p.leaseEnd cfg fid f outcome usage routeHash answer exit).forwards = p.forwards.set fid f' ∧
      f'.ctx = f.ctx := by
  unfold Proxy.leaseEnd
  split
  · exact ⟨_, rfl, rfl⟩
  · split
    · exact ⟨_, rfl, rfl⟩
    · exact ⟨_, rfl, rfl⟩

theorem leasesKnown_step (stepped : proxyStep cfg p a = some p') (known : p.LeasesKnown) : p'.LeasesKnown := by
  have stays : ∀ id t, p.controller.world.lease? id = some t → ∃ t', p'.controller.world.lease? id = some t' := by
    intro id t tracked
    obtain ⟨t', tracked', -⟩ := (proxyStep_reaches stepped).sameLease tracked
    exact ⟨t', tracked'⟩
  -- a forward that moves keeps its context
  have moved : ∀ {fid f f'}, p.forwards.get? fid = some f → p'.forwards = p.forwards.set fid f' →
      f'.ctx = f.ctx → p'.LeasesKnown := by
    intro fid f f' here set same gid g ctx found bound
    rw [set, Dict.get?_set] at found
    split at found
    · cases found
      obtain ⟨t, tracked⟩ := known fid f ctx here (same.symm.trans bound)
      exact stays _ t tracked
    · obtain ⟨t, tracked⟩ := known gid g ctx found bound
      exact stays _ t tracked
  cases proxyStep_effect stepped with
  | @started fid request built unused =>
      intro gid g ctx found bound
      rw [Dict.get?_set] at found
      split at found
      · cases found
        dsimp only at bound ⊢
        unfold Proxy.leaseStart at bound ⊢
        by_cases present : cfg.hasLeaseController = true
        · rw [if_pos present] at bound ⊢
          exact onRequestStart_tracks bound
        · rw [if_neg present] at bound
          cases bound
      · obtain ⟨t, tracked⟩ := known gid g ctx found bound
        exact stays _ t tracked
  | answered here waiting silent calm running => exact moved here rfl rfl
  | @ended a fid f outcome usage routeHash answer exit here waiting reported =>
      obtain ⟨f', set, same⟩ := leaseEnd_forwards cfg p fid f outcome usage routeHash answer exit
      exact moved here set same
  | left here waiting raised => exact moved here rfl rfl
  | scheduled task stepped' =>
      intro gid g ctx found bound
      obtain ⟨t, tracked⟩ := known gid g ctx found bound
      exact stays _ t tracked

/-- Ending a request writes the estimates of its lease from its usage. -/
theorem estimatesOf_leaseEnd {fid : ForwardId} {f : Forward} {outcome : Outcome} {usage : Option TokenUsage}
    {routeHash : Option String} {answer : ResolverAnswer} {exit : ForwardExit} (tracked : p.Tracked cfg)
    (known : p.LeasesKnown) (here : p.forwards.get? fid = some f) (id : LeaseId) :
    (p.leaseEnd cfg fid f outcome usage routeHash answer exit).controller.world.estimatesOf id =
      if f.ctx.map LeaseRequestContext.leaseId = some id then
        (usage.filter TokenUsage.prompted).elim (p.controller.world.estimatesOf id)
          (CostEstimates.ofUsage cfg.controller.manager)
      else p.controller.world.estimatesOf id := by
  cases bound : f.ctx with
  | none =>
      rw [leaseEnd_free bound]
      rfl
  | some ctx =>
      obtain ⟨present, enabled⟩ := tracked fid f here (by simp [bound])
      obtain ⟨t, found⟩ := known fid f ctx here bound
      rw [leaseEnd_bound bound present]
      dsimp only
      rw [estimatesOf_onRequestEnd enabled found, Option.map_some]
      by_cases own : id = ctx.leaseId
      · rw [if_pos own, if_pos (congrArg some own.symm)]
      · rw [if_neg own, if_neg fun same => own (Option.some.inj same).symm]

/-- A step of the proxy writes the estimates of a lease from the usage that it reports for it, and leaves them without
    one. -/
theorem estimatesOf_proxyStep (tracked : p.Tracked cfg) (known : p.LeasesKnown)
    (stepped : proxyStep cfg p a = some p') (id : LeaseId) :
    p'.controller.world.estimatesOf id =
      (p.reportedUsage id a).elim (p.controller.world.estimatesOf id)
        (CostEstimates.ofUsage cfg.controller.manager) := by
  have unpaid : ∀ {fid f outcome routeHash answer exit}, p.forwards.get? fid = some f →
      (p.leaseEnd cfg fid f outcome none routeHash answer exit).controller.world.estimatesOf id =
        p.controller.world.estimatesOf id := by
    intro fid f outcome routeHash answer exit here
    rw [estimatesOf_leaseEnd tracked known here]
    split <;> rfl
  cases a with
  | start fid request built =>
      simp only [proxyStep] at stepped
      split at stepped
      · cases stepped
      cases stepped
      change (p.leaseStart cfg request).1.world.estimatesOf id = _
      unfold Proxy.leaseStart
      split
      · exact estimatesOf_onRequestStart cfg.controller p.controller request id
      · rfl
  | sendReturns fid result condition answer =>
      simp only [proxyStep] at stepped
      split at stepped
      · rename_i f here
        split at stepped
        · cases result with
          | httpError timedOut =>
              cases stepped
              exact unpaid here
          | response statusCode streams routeHash =>
              cases streams with
              | true =>
                  cases stepped
                  exact unpaid here
              | false =>
                  cases stepped
                  rfl
          | raised =>
              cases stepped
              rfl
        · cases stepped
      · cases stepped
  | bodyReturns fid result condition answer =>
      simp only [proxyStep] at stepped
      split at stepped
      · rename_i f here
        split at stepped
        · rename_i statusCode routeHash reading
          cases result with
          | some body =>
              cases stepped
              rw [estimatesOf_leaseEnd tracked known here, Proxy.reportedUsage, here, Option.bind_some, reading]
              cases f.ctx with
              | none => rfl
              | some ctx =>
                  dsimp only
                  rw [Option.map_some]
                  by_cases own : ctx.leaseId = id
                  · rw [if_pos own, if_pos (congrArg some own)]
                  · rw [if_neg own, if_neg fun same => own (Option.some.inj same)]
                    rfl
          | none =>
              cases stepped
              rfl
        · cases stepped
      · cases stepped
  | scheduler b =>
      simp only [proxyStep] at stepped
      split at stepped
      · rename_i task
        obtain ⟨world, moved, rfl⟩ := Option.map_eq_some_iff.1 stepped
        apply estimatesOf_step moved
        rintro usage rfl
        cases task
      · cases stepped

/-- The upstream answers with a bounded response. -/
def ProxyAction.answersBounded : ProxyAction → Bool
  | .sendReturns _ (.response _ false _) _ _ => true
  | _ => false

/-- No forward reads a body. -/
def Proxy.Streaming (p : Proxy) : Prop :=
  ∀ fid f statusCode routeHash, p.forwards.get? fid = some f → f.phase ≠ .reading statusCode routeHash

/-- Without a bounded response no forward comes to read a body. -/
theorem streaming_step (stepped : proxyStep cfg p a = some p') (streams : a.answersBounded = false)
    (streaming : p.Streaming) : p'.Streaming := by
  have exits : ∀ {fid f' exit}, p'.forwards = p.forwards.set fid f' → f'.phase = .exited exit → p'.Streaming := by
    intro fid f' exit set left gid g statusCode routeHash found reading
    rw [set, Dict.get?_set] at found
    split at found
    · cases found
      rw [left] at reading
      cases reading
    · exact streaming gid g statusCode routeHash found reading
  have ends : ∀ fid f outcome usage routeHash answer exit,
      p' = p.leaseEnd cfg fid f outcome usage routeHash answer exit → p'.Streaming := by
    intro fid f outcome usage routeHash answer exit same
    have set : ∃ f', p'.forwards = p.forwards.set fid f' ∧ f'.phase = .exited exit := by
      rw [same]
      unfold Proxy.leaseEnd
      split
      · exact ⟨_, rfl, rfl⟩
      · split
        · exact ⟨_, rfl, rfl⟩
        · exact ⟨_, rfl, rfl⟩
    obtain ⟨f', set, left⟩ := set
    exact exits set left
  cases a with
  | start fid request built =>
      simp only [proxyStep] at stepped
      split at stepped
      · cases stepped
      cases stepped
      intro gid g statusCode routeHash found reading
      rw [Dict.get?_set] at found
      split at found
      · cases found
        cases built <;> cases reading
      · exact streaming gid g statusCode routeHash found reading
  | sendReturns fid result condition answer =>
      simp only [proxyStep] at stepped
      split at stepped
      · split at stepped
        · cases result with
          | httpError timedOut =>
              cases stepped
              exact ends _ _ _ _ _ _ _ rfl
          | response statusCode streams' routeHash =>
              cases streams' with
              | true =>
                  cases stepped
                  exact ends _ _ _ _ _ _ _ rfl
              | false => cases streams
          | raised =>
              cases stepped
              exact exits rfl rfl
        · cases stepped
      · cases stepped
  | bodyReturns fid result condition answer =>
      simp only [proxyStep] at stepped
      split at stepped
      · split at stepped
        · cases result with
          | some body =>
              cases stepped
              exact ends _ _ _ _ _ _ _ rfl
          | none =>
              cases stepped
              exact exits rfl rfl
        · cases stepped
      · cases stepped
  | scheduler b =>
      simp only [proxyStep] at stepped
      split at stepped
      · obtain ⟨world, moved, rfl⟩ := Option.map_eq_some_iff.1 stepped
        exact streaming
      · cases stepped

/-- A usage is reported only by a forward that reads a body. -/
theorem not_reported_of_streaming (streaming : p.Streaming) (id : LeaseId) (a : ProxyAction) :
    p.reportedUsage id a = none := by
  unfold Proxy.reportedUsage
  split
  · rename_i fid body condition answer
    cases here : p.forwards.get? fid with
    | none => rfl
    | some f =>
        rw [Option.bind_some]
        split
        · rename_i statusCode routeHash ctx reading bound
          exact absurd reading (streaming fid f statusCode routeHash here)
        · rfl
  · rfl

/-- A reported usage has prompt tokens. -/
theorem prompted_of_reported {id : LeaseId} {usage : TokenUsage} (reported : p.reportedUsage id a = some usage) :
    0 < usage.promptTokens := by
  unfold Proxy.reportedUsage at reported
  split at reported
  · obtain ⟨f, here, counted⟩ := Option.bind_eq_some_iff.1 reported
    split at counted
    · split at counted
      · exact of_decide_eq_true (Option.filter_eq_some_iff.1 counted).2
      · cases counted
    · cases counted
  · cases reported

/-- Only the scheduler moves tasks. -/
theorem tasks_proxyStep (stepped : proxyStep cfg p a = some p') (indexed : p.controller.world.Indexed) :
    p'.controller.world.tasks = p.controller.world.tasks ∨
      ∃ b, step cfg.controller.manager p.controller.world b = some p'.controller.world := by
  cases proxyStep_effect stepped with
  | @started fid request built unused =>
      apply Or.inl
      change (p.leaseStart cfg request).1.world.tasks = _
      unfold Proxy.leaseStart
      split
      · exact (onRequestStart_captures request indexed).1
      · rfl
  | answered here waiting silent calm running => exact Or.inl rfl
  | @ended a fid f outcome usage routeHash answer exit here waiting reported =>
      apply Or.inl
      unfold Proxy.leaseEnd
      split
      · rfl
      · split
        · exact (onRequestEnd_captures cfg.controller p.controller _ outcome usage routeHash answer).1
        · rfl
  | left here waiting raised => exact Or.inl rfl
  | scheduled task moved => exact Or.inr ⟨_, moved⟩

end Steps

section Runs

variable {cfg : ProxyConfig} {start p : Proxy} {acts : List ProxyAction}

theorem proxy_run_reaches (run : proxyExec cfg start acts = some p) :
    Reaches cfg.controller.manager start.controller.world p.controller.world := by
  apply Execution.invariant
    (I := fun u : Proxy => Reaches cfg.controller.manager start.controller.world u.controller.world) _ _ run
  · exact Reaches.refl _
  · intro u a v stepped reached
    exact reached.trans (proxyStep_reaches stepped)

theorem run_leasesKnown (initial : start.Initial) (run : proxyExec cfg start acts = some p) : p.LeasesKnown := by
  apply Execution.invariant (I := Proxy.LeasesKnown) _ _ run
  · intro fid f ctx found
    rw [initial.2.2] at found
    cases found
  · intro u a v stepped known
    exact leasesKnown_step stepped known

/-- What is left of values that each replace the one before is the last. -/
theorem foldl_replace {A B : Type} (g : A → B) (b : B) (xs : List A) :
    xs.foldl (fun _ x => g x) b = xs.getLast?.elim b g := by
  rcases List.eq_nil_or_concat xs with rfl | ⟨before, x, rfl⟩
  · rfl
  · simp

/-- The estimates of a lease are those of the last usage that was reported for it. -/
theorem run_estimatesOf (initial : start.Initial) (run : proxyExec cfg start acts = some p) (id : LeaseId) :
    p.controller.world.estimatesOf id =
      ((Execution.trace (proxyStep cfg) (fun u a => u.reportedUsage id a) start acts).getLast?).elim {}
        (CostEstimates.ofUsage cfg.controller.manager) := by
  rw [← foldl_replace]
  apply Execution.history_invariant (R := fun before u => u.controller.world.estimatesOf id =
    (Execution.trace (proxyStep cfg) (fun u a => u.reportedUsage id a) start before).foldl
      (fun _ usage => CostEstimates.ofUsage cfg.controller.manager usage) {}) _ _ run
  · rw [World.estimatesOf, World.lease?, initial.1.1]
    rfl
  · intro before a after u v split reached stepped same
    rw [estimatesOf_proxyStep (run_tracked initial reached) (run_leasesKnown initial reached) stepped id, same,
      Execution.trace_snoc reached stepped, List.foldl_append]
    cases u.reportedUsage id a <;> rfl

/-- In every run of the proxy the estimates of a lease are those of the last usage with prompt tokens that was observed
    for it. With the economic gate on, a step sends a warm of the lease only if there was one and there is a price
    table; so while every response streams, no step sends a warm. -/
theorem warms_follow_usage (initial : start.Initial) (run : proxyExec cfg start acts = some p) (id : LeaseId) :
    p.controller.world.estimatesOf id =
        ((Execution.trace (proxyStep cfg) (fun u a => u.reportedUsage id a) start acts).getLast?).elim {}
          (CostEstimates.ofUsage cfg.controller.manager) ∧
      (cfg.controller.manager.settings.economics.enabled = true → ∀ a p' tid, proxyStep cfg p a = some p' →
        WarmSent p.controller.world p'.controller.world tid id →
          cfg.controller.manager.pricingTable ≠ none ∧
          (∃ usage, (Execution.trace (proxyStep cfg) (fun u a => u.reportedUsage id a) start acts).getLast? =
            some usage ∧ 0 < usage.promptTokens) ∧
          ∃ b ∈ acts, b.answersBounded = true) := by
  have estimates := run_estimatesOf initial run id
  refine ⟨estimates, ?_⟩
  intro economics a p' tid stepped sent
  have costed : p.controller.world.Costed cfg.controller.manager :=
    (proxy_run_reaches run).costed economics (initial.1.costed _)
  have indexed : p.controller.world.Indexed := by
    apply (proxy_run_reaches run).indexed
    intro fp j found
    rw [initial.1.1] at found
    cases found
  have known : (p.controller.world.estimatesOf id).Known := by
    rcases tasks_proxyStep stepped indexed with kept | ⟨b, moved⟩
    · -- nothing is sent while no task moves
      have unmoved : p'.controller.world.inFlight tid = p.controller.world.inFlight tid := by
        rw [World.inFlight, World.inFlight, World.pointOf, World.pointOf, World.task?, World.task?, kept]
      exact absurd (unmoved.symm.trans sent.1) sent.2
    · exact costed.sent economics moved sent
  refine ⟨costed.priced id known, ?_, ?_⟩
  · cases last : (Execution.trace (proxyStep cfg) (fun u a => u.reportedUsage id a) start acts).getLast? with
    | none =>
        rw [last] at estimates
        rw [estimates] at known
        exact absurd rfl known.1
    | some usage =>
        obtain ⟨before, b, after, u, v, split, reached, moved, reported⟩ :=
          Execution.exists_step_of_mem_trace run (List.mem_of_getLast? last)
        exact ⟨usage, rfl, prompted_of_reported reported⟩
  · by_contra unbounded
    have streaming : ∀ before after u, acts = before ++ after → proxyExec cfg start before = some u → u.Streaming := by
      intro before after u split reached
      apply Execution.history_invariant (R := fun (_ : List ProxyAction) (u : Proxy) => u.Streaming) _ _ reached
      · intro fid f statusCode routeHash found
        rw [initial.2.2] at found
        cases found
      · rintro early b late x y rfl passed moved held
        apply streaming_step moved _ held
        by_contra bounded
        rw [Bool.not_eq_false] at bounded
        exact unbounded ⟨b, by simp [split], bounded⟩
    have silent : Execution.trace (proxyStep cfg) (fun u a => u.reportedUsage id a) start acts = [] := by
      rw [List.eq_nil_iff_forall_not_mem]
      intro usage seen
      obtain ⟨before, b, after, u, v, split, reached, moved, reported⟩ :=
        Execution.exists_step_of_mem_trace run seen
      rw [not_reported_of_streaming (streaming before (b :: after) u split reached) id b] at reported
      cases reported
    rw [silent] at estimates
    rw [estimates] at known
    exact absurd rfl known.1

end Runs

/-! ### A sample run -/

theorem sampleColdPrice_nonneg : (0 : ℚ) ≤ 17 / 4 := by decide +kernel

theorem sampleCachedPrice_nonneg : (0 : ℚ) ≤ 5 / 4 := by decide +kernel

theorem sampleTokenPrice_nonneg : (0 : ℚ) ≤ 250000 := by decide +kernel

/-- A million prompt tokens cost 17/4 cold and 5/4 cached, and a token of the completion 1/4. -/
def samplePrices : PricingTable where
  inputPerMtok := 17 / 4
  outputPerMtok := 250000
  cacheReadPerMtok := 5 / 4
  cacheWritePerMtok := 17 / 4
  inputPerMtok_nonneg := sampleColdPrice_nonneg
  outputPerMtok_nonneg := sampleTokenPrice_nonneg
  cacheReadPerMtok_nonneg := sampleCachedPrice_nonneg
  cacheWritePerMtok_nonneg := sampleColdPrice_nonneg

/-- A relay that may warm, with these prices and the economic gate on. -/
def samplePricedConfig : ProxyConfig :=
  { sampleProxyConfig with
    controller :=
      { sampleRelayConfig with
        manager :=
          { sampleConfig with
            settings := { LeaseSettings.standard with dryRun := false }
            pricing := some samplePrices } } }

/-- A bounded response reports a prompt, and the lease of its request comes to be due. -/
def samplePricedRun : List ProxyAction :=
  [.start 0 { sampleRequest "a" with body := some [] } true,
    .sendReturns 0 (.response 200 false none) .recording .noResolver,
    .bodyReturns 0 (some { usage := { promptTokens := 1000000 }, telemetryPresent := true }) .recording .noResolver,
    .scheduler (.setClock 1000), .scheduler (.evaluateLease 0 0)]

/-- A warm of the lease is sent in the next step, so a usage was reported for it. -/
theorem warms_follow_usage_sample :
    ∃ usage, (Execution.trace (proxyStep samplePricedConfig) (fun u a => u.reportedUsage 0 a) {}
      samplePricedRun).getLast? = some usage ∧ 0 < usage.promptTokens := by
  have run : proxyExec samplePricedConfig {} samplePricedRun =
      some (Execution.final (proxyStep samplePricedConfig) {} samplePricedRun) :=
    Execution.exec_eq_final (by decide +kernel)
  have stepped : proxyStep samplePricedConfig (Execution.final (proxyStep samplePricedConfig) {} samplePricedRun)
      (.scheduler (.resume 0)) =
        some (Execution.final (proxyStep samplePricedConfig) {} (samplePricedRun ++ [.scheduler (.resume 0)])) :=
    Execution.step_final (by decide +kernel)
  have sent : WarmSent (Execution.final (proxyStep samplePricedConfig) {} samplePricedRun).controller.world
      (Execution.final (proxyStep samplePricedConfig) {}
        (samplePricedRun ++ [.scheduler (.resume 0)])).controller.world 0 0 := by
    decide +kernel
  exact ((warms_follow_usage Proxy.initial_empty run 0).2 rfl _ _ 0 stepped sent).2.1

end CachePilot
