/-
Module: CachePilot.Proofs.WarmSavings
Layer: Proofs
Purpose: What keeping a lease warm costs, and what it saves. The manager runs with the fake provider upstream, and the
  two have one price table. Every usage reports the same prefix, so the estimates of a lease never move once they are
  known, and the budget that its evaluations reserve is one figure for the whole run. What a lease has spent on warms
  is below the difference between a cold and a cached resume, but for what one warm was charged over its prediction.
  So the resume of a lease that was kept warm is cheaper, with its warms, than one on a cold cache.
Trusted boundary: none
Main exports: ProviderLoopConfig.PricedBy, ProviderLoop.managerAction, ProviderLoop.Billed, World.Reserved,
  ProviderLoop.Thrifty, warms_pay_off
-/
import CachePilot.Proofs.KeptWarm
import CachePilot.Proofs.PricedWarms
import CachePilot.Proofs.WarmBudget

namespace CachePilot

/-! ### Prices of a prefix -/

section Prices

variable (pricing : PricingTable) (prefixTokens : ℕ)

/-- The figures of a lease whose prefix was priced. -/
def pricedFigures : Option ℚ × Option ℚ × ℚ :=
  (some (estimateResumeCosts prefixTokens pricing).1, some (estimateResumeCosts prefixTokens pricing).2,
    (estimateResumeCosts prefixTokens pricing 1).2)

/-- Completion tokens cost the same on a cold and on a warm cache. -/
theorem resumeCosts_completion (completionTokens : ℕ) :
    (estimateResumeCosts prefixTokens pricing completionTokens).1 -
        (estimateResumeCosts prefixTokens pricing completionTokens).2 =
      (estimateResumeCosts prefixTokens pricing).1 - (estimateResumeCosts prefixTokens pricing).2 := by
  unfold estimateResumeCosts estimateCost
  dsimp only
  split
  · push_cast
    ring
  · push_cast
    ring

end Prices

/-- A usage with the prefix prices a lease at its figures. -/
theorem costFigures_updateCostEstimates {cfg : ManagerConfig} {pricing : PricingTable}
    (priced : cfg.pricingTable = some pricing) {usage : TokenUsage} (prompted : 0 < usage.promptTokens)
    (t : TrackedLease) :
    (t.updateCostEstimates cfg usage).lease.costFigures = pricedFigures pricing usage.promptTokens := by
  have estimates := costEstimates_updateCostEstimates cfg prompted t
  rw [CostEstimates.ofUsage, priced] at estimates
  injection estimates with tokens cold cached next
  rw [CacheLease.costFigures, cold, cached, next]
  rfl

/-! ### Reservations without a refresh -/

namespace World

/-- The lease has no price yet, and it is not evaluated. -/
structure Unpriced (w : World) (id : LeaseId) : Prop where
  unknown : ∀ t, w.lease? id = some t → t.lease.costFigures = (none, none, 0)
  quiet : w.Unevaluated id

/-- What the evaluations of a lease have reserved and its warms have cost. Its warms are paid with at most `charge`
    each, and the figures are those of one prefix. -/
structure Reserved (cfg : ManagerConfig) (id : LeaseId) (cold cached next charge : ℚ) (w : World) : Prop where
  priced : w.Unpriced id ∨ Budgeted cfg id cold cached next w
  worthwhile : ∀ tid, w.evaluating tid = some id → cached < cold
  spent : w.warmCountOf id = 0 ∨ cached < cold ∧
    w.warmCostOf id + next < warmBudget cfg (largerResumeProbability cfg) cold cached + charge

end World

section Reservations

variable {cfg : ManagerConfig} {w w' : World} {a : Action} {id : LeaseId} {cold cached next charge : ℚ}

/-- No evaluation of a lease without a price passes the gate. -/
theorem World.Unpriced.not_begins {tid : TaskId} {g : ℕ} {t : TrackedLease} (unpriced : w.Unpriced id)
    (economics : cfg.settings.economics.enabled = true) (begun : Begins cfg w tid id g a t) : False := by
  have known := known_of_economic economics begun.authorised.economic
  have figures := unpriced.unknown t begun.known
  exact known.1 (congrArg Prod.fst figures)

/-- An evaluation passes the gate only where a cold resume costs more than a cached one. -/
theorem Budgeted.worthwhile {tid : TaskId} {g : ℕ} {t : TrackedLease} (held : Budgeted cfg id cold cached next w)
    (economics : cfg.settings.economics.enabled = true) (begun : Begins cfg w tid id g a t) : cached < cold := by
  have figures := held.figures
  rw [begun.known, Option.map_some, Option.some.injEq] at figures
  obtain ⟨coldSide, cachedSide, -⟩ :
      t.lease.estimatedColdResumeCostUsd = some cold ∧ t.lease.estimatedCachedResumeCostUsd = some cached ∧
        t.lease.nextWarmCostUsd.getD 0 = next := by
    simpa [CacheLease.costFigures] using figures
  have warm : (evaluateEconomics cfg t.lease).shouldWarm = true := by
    simpa [economicGate, economics] using begun.authorised.economic
  have saves := ((EconomicController.evaluate_shouldWarm_iff _ _).1 warm).2.2.1
  simpa only [economicInputs, coldSide, cachedSide, Option.getD_some] using saves

/-- A step that leaves the estimates of a lease without a price begins no evaluation of it. -/
theorem World.Unpriced.step (unpriced : w.Unpriced id) (economics : cfg.settings.economics.enabled = true)
    (stepped : step cfg w a = some w') (kept : a.refreshesEstimates id = false) : w'.Unpriced id where
  unknown := by
    intro t' known'
    cases known : w.lease? id with
    | none =>
        obtain ⟨identity, ttl, confidence, answer, ttlS, c, -, -, -, new⟩ := step_creates stepped known known'
        rw [new]
        rfl
    | some t =>
        obtain ⟨u, found, change⟩ := step_change stepped known
        rw [known'] at found
        cases found
        rw [change.costFigures kept]
        exact unpriced.unknown t known
  quiet := by
    intro tid progress
    rcases evaluating_or_begins stepped progress with ⟨old, -⟩ | ⟨g, t, begun⟩
    · exact unpriced.quiet tid old
    · exact unpriced.not_begins economics begun

/-- A refresh begins no evaluation and pays for no warm. -/
theorem evaluating_of_refresh (stepped : step cfg w a = some w') (refresh : a.refreshesEstimates id = true)
    {tid : TaskId} (progress : w'.evaluating tid = some id) : w.evaluating tid = some id := by
  rcases evaluating_or_begins stepped progress with ⟨old, -⟩ | ⟨g, t, begun⟩
  · exact old
  · rw [begun.action] at refresh
    cases refresh

theorem warmCostOf_of_refresh (stepped : step cfg w a = some w') (refresh : a.refreshesEstimates id = true) :
    w'.warmCostOf id = w.warmCostOf id := by
  have unpaid : w.paidWarm id a = none := by
    cases a with
    | updateCostEstimates j usage => rfl
    | _ => cases refresh
  rw [(step_accounts id stepped).2, unpaid]
  exact add_zero _

/-- A refresh with the prefix gives a lease the figures of the prefix, and one without prompt tokens leaves them. -/
theorem costFigures_of_refresh {pricing : PricingTable} {prefixTokens : ℕ} (priced : cfg.pricingTable = some pricing)
    {usage : TokenUsage} (reports : usage.promptTokens = prefixTokens ∨ usage.promptTokens = 0)
    (stepped : step cfg w (.updateCostEstimates id usage) = some w') :
    ∃ t t', w.lease? id = some t ∧ w'.lease? id = some t' ∧
      (t'.lease.costFigures = pricedFigures pricing prefixTokens ∨ t'.lease.costFigures = t.lease.costFigures) := by
  obtain ⟨manager, modified, rfl⟩ := Option.map_eq_some_iff.1 stepped
  obtain ⟨t, known, rfl⟩ := Option.map_eq_some_iff.1 modified
  have written : (w.putLease id (t.updateCostEstimates cfg usage)).lease? id =
      some (t.updateCostEstimates cfg usage) := by
    rw [World.lease?_putLease, if_pos rfl]
  refine ⟨t, _, known, written, ?_⟩
  by_cases empty : usage.promptTokens = 0
  · rw [TrackedLease.updateCostEstimates, if_pos empty]
    exact Or.inr rfl
  · rw [← reports.resolve_right empty]
    exact Or.inl (costFigures_updateCostEstimates priced (Nat.pos_of_ne_zero empty) t)

/-- A refresh with the figures of the run keeps what is reserved under them. -/
theorem Budgeted.refresh {usage : TokenUsage} (held : Budgeted cfg id cold cached next w)
    (stepped : step cfg w (.updateCostEstimates id usage) = some w')
    (figures : (w'.lease? id).map (fun t => t.lease.costFigures) = some (some cold, some cached, next)) :
    Budgeted cfg id cold cached next w' where
  figures := figures
  alone := by
    have refresh : (Action.updateCostEstimates id usage).refreshesEstimates id = true := beq_self_eq_true id
    intro tid tid' progress progress'
    exact held.alone tid tid' (evaluating_of_refresh stepped refresh progress)
      (evaluating_of_refresh stepped refresh progress')
  reserved := by
    have refresh : (Action.updateCostEstimates id usage).refreshesEstimates id = true := beq_self_eq_true id
    intro tid progress
    rw [warmCostOf_of_refresh stepped refresh]
    exact held.reserved tid (evaluating_of_refresh stepped refresh progress)

/-- A refresh of a lease without a price leaves it without one, or gives it the figures of the prefix. -/
theorem unpriced_or_budgeted_of_refresh {pricing : PricingTable} {prefixTokens : ℕ} (unpriced : w.Unpriced id)
    (priced : cfg.pricingTable = some pricing) {usage : TokenUsage}
    (reports : usage.promptTokens = prefixTokens ∨ usage.promptTokens = 0)
    (stepped : step cfg w (.updateCostEstimates id usage) = some w') :
    w'.Unpriced id ∨ Budgeted cfg id (estimateResumeCosts prefixTokens pricing).1
      (estimateResumeCosts prefixTokens pricing).2 (estimateResumeCosts prefixTokens pricing 1).2 w' := by
  obtain ⟨t, t', known, known', figures⟩ := costFigures_of_refresh priced reports stepped
  have refresh : (Action.updateCostEstimates id usage).refreshesEstimates id = true := beq_self_eq_true id
  have quiet : w'.Unevaluated id := by
    intro tid progress
    exact unpriced.quiet tid (evaluating_of_refresh stepped refresh progress)
  rcases figures with fresh | same
  · refine Or.inr ⟨?_, ?_, ?_⟩
    · rw [known', Option.map_some, fresh]
      rfl
    · intro tid tid' progress
      exact absurd progress (quiet tid)
    · intro tid progress
      exact absurd progress (quiet tid)
  · refine Or.inl ⟨?_, quiet⟩
    intro u found
    rw [known'] at found
    cases found
    exact same.trans (unpriced.unknown t known)

/-- A refresh of a lease with the figures of the prefix leaves it at them. -/
theorem Budgeted.figures_of_refresh {pricing : PricingTable} {prefixTokens : ℕ}
    (held : Budgeted cfg id (estimateResumeCosts prefixTokens pricing).1
      (estimateResumeCosts prefixTokens pricing).2 (estimateResumeCosts prefixTokens pricing 1).2 w)
    (priced : cfg.pricingTable = some pricing) {usage : TokenUsage}
    (reports : usage.promptTokens = prefixTokens ∨ usage.promptTokens = 0)
    (stepped : step cfg w (.updateCostEstimates id usage) = some w') :
    (w'.lease? id).map (fun t => t.lease.costFigures) = some (pricedFigures pricing prefixTokens) := by
  obtain ⟨t, t', known, known', figures⟩ := costFigures_of_refresh priced reports stepped
  rw [known', Option.map_some]
  rcases figures with fresh | same
  · rw [fresh]
  · rw [same]
    have before := held.figures
    rwa [known, Option.map_some] at before

end Reservations

/-- The usage that an action reports for a lease has the prefix, or no prompt tokens. -/
def Action.ReportsPrefix (prefixTokens : ℕ) (id : LeaseId) : Action → Prop
  | .updateCostEstimates j usage => j = id → usage.promptTokens = prefixTokens ∨ usage.promptTokens = 0
  | _ => True

instance (prefixTokens : ℕ) (id : LeaseId) (a : Action) : Decidable (a.ReportsPrefix prefixTokens id) := by
  unfold Action.ReportsPrefix
  split <;> infer_instance

/-- Each step keeps the reservations of a lease whose evaluations do not overlap, while its usages report the prefix
    and no warm is charged more than `charge`. -/
theorem step_reserved {cfg : ManagerConfig} {pricing : PricingTable} {prefixTokens : ℕ} {charge : ℚ} {w w' : World}
    {a : Action} {id : LeaseId} (priced : cfg.pricingTable = some pricing)
    (economics : cfg.settings.economics.enabled = true) (stepped : step cfg w a = some w')
    (separate : w.beginsEvaluation id a = true → w.Unevaluated id) (reports : a.ReportsPrefix prefixTokens id)
    (charged : ∀ paid ∈ w.paidWarm id a, paid.costUsd ≤ charge)
    (held : w.Reserved cfg id (estimateResumeCosts prefixTokens pricing).1
      (estimateResumeCosts prefixTokens pricing).2 (estimateResumeCosts prefixTokens pricing 1).2 charge) :
    w'.Reserved cfg id (estimateResumeCosts prefixTokens pricing).1
      (estimateResumeCosts prefixTokens pricing).2 (estimateResumeCosts prefixTokens pricing 1).2 charge where
  priced := by
    by_cases refresh : a.refreshesEstimates id = true
    · cases a with
      | updateCostEstimates j usage =>
          obtain rfl : j = id := beq_iff_eq.1 refresh
          rcases held.priced with unpriced | budgeted
          · exact unpriced_or_budgeted_of_refresh unpriced priced (reports rfl) stepped
          · exact Or.inr (budgeted.refresh stepped (budgeted.figures_of_refresh priced (reports rfl) stepped))
      | _ => cases refresh
    · have kept : a.refreshesEstimates id = false := by simpa using refresh
      rcases held.priced with unpriced | budgeted
      · exact Or.inl (unpriced.step economics stepped kept)
      · exact Or.inr (step_budgeted economics stepped ⟨kept, separate⟩ budgeted)
  worthwhile := by
    intro tid progress
    rcases evaluating_or_begins stepped progress with ⟨old, -⟩ | ⟨g, t, begun⟩
    · exact held.worthwhile tid old
    · rcases held.priced with unpriced | budgeted
      · exact absurd begun (unpriced.not_begins economics)
      · exact budgeted.worthwhile economics begun
  spent := by
    obtain ⟨count, cost⟩ := step_accounts id stepped
    cases pays : w.paidWarm id a with
    | none =>
        rw [pays] at count cost
        rw [count, cost]
        simpa using held.spent
    | some paid =>
        obtain ⟨tid, answer, -, progress⟩ := paidWarm_evaluating pays
        have most := charged paid pays
        rcases held.priced with unpriced | budgeted
        · exact absurd progress (unpriced.quiet tid)
        · have room := budgeted.reserved tid progress
          rw [pays] at cost
          refine Or.inr ⟨held.worthwhile tid progress, ?_⟩
          rw [cost, Option.toList_some, List.map_singleton, List.sum_singleton]
          linarith

/-! ### The loop with one price table -/

/-- The manager and the executor price by one table, and the economic gate is on. -/
structure ProviderLoopConfig.PricedBy (cfg : ProviderLoopConfig) (pricing : PricingTable) : Prop where
  manager : cfg.manager.pricingTable = some pricing
  executor : cfg.pricing = some pricing
  economics : cfg.manager.settings.economics.enabled = true

/-- What the manager does in an action of the loop. It does nothing when the provider serves. -/
def ProviderLoop.managerAction (cfg : ProviderLoopConfig) (x : ProviderLoop) : ProviderAction → Option Action
  | .serveWarm _ _ => none
  | .warmReturns tid => (x.warms.get? tid).map fun s => .executeReturns tid (s.warmAnswer cfg)
  | .warmLost tid answer => some (.executeReturns tid answer)
  | .serveReal _ _ _ => none
  | .realReturns rid => (x.reals.get? rid).map fun real => .afterNormalRequest real.1 (real.2.realOutcome cfg)
  | .loop a => some a

/-- The money side of a run for one lease. Its evaluations do not overlap, the usages that are reported for it have the
    prefix of the provider or no prompt tokens, and a lost warm is charged at most `charge`. -/
def ProviderLoop.Billed (cfg : ProviderLoopConfig) (charge : ℚ) (id : LeaseId) (x : ProviderLoop) :
    ProviderAction → Prop
  | .warmLost _ answer => answer.toWarmResult.costUsd ≤ charge
  | .loop a =>
      a.ReportsPrefix cfg.provider.prefixTokens id ∧
        (x.world.beginsEvaluation id a = true → x.world.Unevaluated id)
  | _ => True

instance ProviderLoop.Billed.decidable (cfg : ProviderLoopConfig) (charge : ℚ) (id : LeaseId) (x : ProviderLoop) :
    ∀ a, Decidable (x.Billed cfg charge id a)
  | .serveWarm _ _ => isTrue trivial
  | .warmReturns _ => isTrue trivial
  | .warmLost _ _ => inferInstanceAs (Decidable (_ ≤ _))
  | .serveReal _ _ _ => isTrue trivial
  | .realReturns _ => isTrue trivial
  | .loop _ => inferInstanceAs (Decidable (_ ∧ _))

/-- What is on its way to the warms costs at most `charge` each, and the lease keeps its reservations under the prices
    of the provider. -/
structure ProviderLoop.Thrifty (cfg : ProviderLoopConfig) (pricing : PricingTable) (charge : ℚ) (id : LeaseId)
    (x : ProviderLoop) : Prop where
  charged : ∀ tid, ∀ s ∈ x.warms.get? tid, s.result.costOf pricing ≤ charge
  reserved : x.world.Reserved cfg.manager id (cfg.provider.resumeCosts pricing).1
    (cfg.provider.resumeCosts pricing).2 (cfg.provider.resumeCosts pricing 1).2 charge

section Loop

variable {cfg : ProviderLoopConfig} {pricing : PricingTable} {charge lag : ℚ} {id : LeaseId} {x x' : ProviderLoop}
  {request : CanonicalRequest}

/-- The completion tokens that the provider gives to a request. -/
def ProviderLoopConfig.completionTokens (cfg : ProviderLoopConfig) (request : CanonicalRequest) : ℕ :=
  FakeProvider.completionTokens cfg.random cfg.provider (requestFingerprint cfg.prims request)

/-- A request that finds its entry costs a cached resume. -/
theorem costOf_hit {p : FakeProvider} {now : ℚ} (cached : p.isCached cfg.prims request now = true) :
    (p.complete cfg.prims cfg.random cfg.provider request now).2.costOf pricing =
      (cfg.provider.resumeCosts pricing (cfg.completionTokens request)).2 := by
  unfold FakeProvider.complete FakeProviderResult.costOf
  dsimp only
  rw [cached]
  rfl

/-- One that does not costs a cold resume, where the price of a cold resume is that of its writes. -/
theorem costOf_miss {p : FakeProvider} {now : ℚ} (writes : 0 < pricing.cacheWritePerMtok)
    (uncached : p.isCached cfg.prims request now = false) :
    (p.complete cfg.prims cfg.random cfg.provider request now).2.costOf pricing =
      (cfg.provider.resumeCosts pricing (cfg.completionTokens request)).1 := by
  unfold FakeProvider.complete FakeProviderResult.costOf FakeProviderConfig.resumeCosts estimateResumeCosts
  dsimp only
  rw [uncached, if_pos writes]
  rfl

theorem providerStep_world {a : ProviderAction} (stepped : providerStep cfg x a = some x') :
    (x.managerAction cfg a).elim (some x.world) (step cfg.manager x.world) = some x'.world := by
  cases a with
  | serveWarm tid request =>
      rw [providerStep] at stepped
      split at stepped
      · split at stepped
        · cases stepped
          rfl
        · cases stepped
      · cases stepped
  | warmReturns tid =>
      obtain ⟨s, waiting, moved⟩ := Option.bind_eq_some_iff.1 stepped
      obtain ⟨world, managed, rfl⟩ := Option.map_eq_some_iff.1 moved
      rw [ProviderLoop.managerAction, waiting]
      exact managed
  | warmLost tid answer =>
      rw [providerStep] at stepped
      split at stepped
      · cases stepped
      obtain ⟨world, managed, rfl⟩ := Option.map_eq_some_iff.1 stepped
      exact managed
  | serveReal rid id request =>
      rw [providerStep] at stepped
      split at stepped
      · split at stepped
        · cases stepped
          rfl
        · cases stepped
      · cases stepped
  | realReturns rid =>
      obtain ⟨real, waiting, moved⟩ := Option.bind_eq_some_iff.1 stepped
      obtain ⟨world, managed, rfl⟩ := Option.map_eq_some_iff.1 moved
      rw [ProviderLoop.managerAction, waiting]
      exact managed
  | loop a =>
      rw [providerStep] at stepped
      split at stepped
      · cases stepped
      obtain ⟨world, managed, rfl⟩ := Option.map_eq_some_iff.1 stepped
      exact managed

/-- A warm is paid for when its task returns, at the cost of the answer. -/
theorem paidWarm_returned {w : World} {a : Action} {paid : WarmResult} (pays : w.paidWarm id a = some paid) :
    ∃ tid answer, a = .executeReturns tid answer ∧ paid = answer.toWarmResult := by
  cases a with
  | executeReturns tid answer =>
      unfold World.paidWarm at pays
      dsimp only at pays
      split at pays
      · cases pays
        exact ⟨tid, answer, rfl, rfl⟩
      · cases pays
  | _ => cases pays

/-- The executor charges an answer at its cost. -/
theorem costUsd_warmAnswer (priced : cfg.PricedBy pricing) {s : Served} (free : s.result.usage.cost = none) :
    (s.warmAnswer cfg).toWarmResult.costUsd = s.result.costOf pricing := by
  rw [warmAnswer_eq cfg free, priced.executor]
  change HttpWarmExecutor.resolveCost (some pricing) s.result.usage = estimateCost s.result.usage pricing
  simp [HttpWarmExecutor.resolveCost, free]

/-- No step of a billed run charges the lease more than `charge` for a warm. -/
theorem charged_of_billed (priced : cfg.PricedBy pricing) {a : ProviderAction} {b : Action} {paid : WarmResult}
    (stepped : providerStep cfg x a = some x') (live : x.EntriesLive cfg lag)
    (charged : ∀ tid, ∀ s ∈ x.warms.get? tid, s.result.costOf pricing ≤ charge) (billed : x.Billed cfg charge id a)
    (manages : x.managerAction cfg a = some b) (pays : x.world.paidWarm id b = some paid) :
    paid.costUsd ≤ charge := by
  obtain ⟨tid, answer, rfl, rfl⟩ := paidWarm_returned pays
  cases a with
  | serveWarm tid request => cases manages
  | warmReturns tid =>
      obtain ⟨s, waiting, same⟩ := Option.map_eq_some_iff.1 manages
      cases same
      rw [costUsd_warmAnswer priced (live.warms tid s waiting).1.free]
      exact charged tid s waiting
  | warmLost tid answer =>
      cases manages
      exact billed
  | serveReal rid id request => cases manages
  | realReturns rid =>
      obtain ⟨real, waiting, same⟩ := Option.map_eq_some_iff.1 manages
      cases same
  | loop a =>
      cases manages
      cases stepped

/-- The action of the manager keeps to what a billed run says of it. -/
theorem manages_billed {a : ProviderAction} {b : Action} (billed : x.Billed cfg charge id a)
    (manages : x.managerAction cfg a = some b) :
    b.ReportsPrefix cfg.provider.prefixTokens id ∧
      (x.world.beginsEvaluation id b = true → x.world.Unevaluated id) := by
  cases a with
  | serveWarm tid request => cases manages
  | warmReturns tid =>
      obtain ⟨s, waiting, rfl⟩ := Option.map_eq_some_iff.1 manages
      exact ⟨trivial, fun begins => by cases begins⟩
  | warmLost tid answer =>
      cases manages
      exact ⟨trivial, fun begins => by cases begins⟩
  | serveReal rid id request => cases manages
  | realReturns rid =>
      obtain ⟨real, waiting, rfl⟩ := Option.map_eq_some_iff.1 manages
      exact ⟨trivial, fun begins => by cases begins⟩
  | loop a =>
      cases manages
      exact billed

/-- What is on its way to the warms stays at most `charge`: a warm that is served in time hits. -/
theorem charged_step (served : ∀ request, (cfg.provider.resumeCosts pricing (cfg.completionTokens request)).2 ≤ charge)
    {a : ProviderAction} (stepped : providerStep cfg x a = some x') (prompt : x.Prompt cfg lag a)
    (live : x.EntriesLive cfg lag) (charged : ∀ tid, ∀ s ∈ x.warms.get? tid, s.result.costOf pricing ≤ charge) :
    ∀ tid, ∀ s ∈ x'.warms.get? tid, s.result.costOf pricing ≤ charge := by
  have fewer : ∀ u, ∀ tid, ∀ s ∈ (x.warms.erase u).get? tid, s.result.costOf pricing ≤ charge := by
    intro u tid s found
    rw [Option.mem_def, Dict.get?_erase] at found
    split at found
    · cases found
    · exact charged tid s found
  cases a with
  | serveWarm tid request =>
      rw [providerStep] at stepped
      split at stepped
      · rename_i own fp snapshot inside fresh
        split at stepped
        · rename_i same
          cases stepped
          intro u s found
          rw [Option.mem_def, Dict.get?_set] at found
          split at found
          · cases found
            have cached := live.warm_hits inside same prompt
            change (x.complete cfg request).2.costOf pricing ≤ charge
            rw [ProviderLoop.complete, costOf_hit cached]
            exact served request
          · exact charged u s found
        · cases stepped
      · cases stepped
  | warmReturns tid =>
      obtain ⟨s, waiting, moved⟩ := Option.bind_eq_some_iff.1 stepped
      obtain ⟨world, managed, rfl⟩ := Option.map_eq_some_iff.1 moved
      exact fewer tid
  | warmLost tid answer =>
      rw [providerStep] at stepped
      split at stepped
      · cases stepped
      obtain ⟨world, managed, rfl⟩ := Option.map_eq_some_iff.1 stepped
      exact fewer tid
  | serveReal rid own request =>
      rw [providerStep] at stepped
      split at stepped
      · split at stepped
        · cases stepped
          exact charged
        · cases stepped
      · cases stepped
  | realReturns rid =>
      obtain ⟨real, waiting, moved⟩ := Option.bind_eq_some_iff.1 stepped
      obtain ⟨world, managed, rfl⟩ := Option.map_eq_some_iff.1 moved
      exact charged
  | loop a =>
      rw [providerStep] at stepped
      split at stepped
      · cases stepped
      obtain ⟨world, managed, rfl⟩ := Option.map_eq_some_iff.1 stepped
      cases a with
      | cancel tid => exact fewer tid
      | _ => exact charged

theorem step_thrifty (priced : cfg.PricedBy pricing)
    (served : ∀ request, (cfg.provider.resumeCosts pricing (cfg.completionTokens request)).2 ≤ charge)
    {a : ProviderAction} (stepped : providerStep cfg x a = some x') (prompt : x.Prompt cfg lag a)
    (billed : x.Billed cfg charge id a) (live : x.EntriesLive cfg lag) (held : x.Thrifty cfg pricing charge id) :
    x'.Thrifty cfg pricing charge id where
  charged := charged_step served stepped prompt live held.charged
  reserved := by
    have moved := providerStep_world stepped
    cases manages : x.managerAction cfg a with
    | none =>
        rw [manages, Option.elim_none, Option.some.injEq] at moved
        rw [← moved]
        exact held.reserved
    | some b =>
        rw [manages] at moved
        obtain ⟨reports, separate⟩ := manages_billed billed manages
        apply step_reserved priced.manager priced.economics moved separate reports _ held.reserved
        intro paid pays
        exact charged_of_billed priced stepped live held.charged billed manages pays

/-! ### Runs -/

theorem ProviderLoop.Initial.thrifty (initial : x.Initial) (cfg : ProviderLoopConfig) (pricing : PricingTable)
    (charge : ℚ) (id : LeaseId) : x.Thrifty cfg pricing charge id := by
  have quiet : x.world.Unevaluated id := by
    intro tid progress
    rw [World.evaluating, World.pointOf, World.task?, initial.world.2] at progress
    cases progress
  refine ⟨?_, Or.inl ⟨?_, quiet⟩, fun tid progress => absurd progress (quiet tid), Or.inl ?_⟩
  · intro tid s found
    rw [initial.warms] at found
    cases found
  · intro t found
    rw [World.lease?, initial.world.1] at found
    cases found
  · rw [World.warmCountOf, World.lease?, initial.world.1]
    rfl

/-- The budget at any admitted probability is at most what a cached resume saves. -/
theorem warmBudget_le_saving (cfg : ManagerConfig) {cold cached : ℚ} (saves : cached < cold) :
    warmBudget cfg (largerResumeProbability cfg) cold cached ≤ cold - cached := by
  have likely : largerResumeProbability cfg ≤ 1 :=
    max_le cfg.settings.resumeProbability_le_one cfg.settings.detachedResumeProbability_le_one
  have possible : 0 ≤ largerResumeProbability cfg :=
    cfg.settings.resumeProbability_nonneg.trans (le_max_left _ _)
  have share : cfg.settings.economics.budgetRatio * largerResumeProbability cfg ≤ 1 :=
    mul_le_one₀ cfg.settings.economics.budgetRatio_le_one possible likely
  exact mul_le_of_le_one_left (sub_nonneg.2 saves.le) share

/-- When the provider extends its entries with every hit and the relay keeps the timing, warming pays off. A lease that
    was warmed has spent less than its budget, but for what a warm is charged over its prediction. Where writes
    to the cache have a price, and up to a TTL after the last touch of the lease, less the lag, its warms and a request
    of it together cost less than the request does where there is no entry, again but for that difference: with one
    completion token to a warm there is none. -/
theorem warms_pay_off {start : ProviderLoop} {acts : List ProviderAction} {t : TrackedLease}
    (refreshes : cfg.provider.refreshOnHit = true) (priced : cfg.PricedBy pricing)
    (served : ∀ request, (cfg.provider.resumeCosts pricing (cfg.completionTokens request)).2 ≤ charge)
    (initial : start.Initial) (run : Execution.exec (providerStep cfg) start acts = some x)
    (prompt : Execution.Along (providerStep cfg) (ProviderLoop.Prompt cfg lag) start acts)
    (billed : Execution.Along (providerStep cfg) (ProviderLoop.Billed cfg charge id) start acts)
    (known : x.world.lease? id = some t) (warmed : t.lease.warmCount ≠ 0) :
    t.lease.warmCostUsd + (cfg.provider.resumeCosts pricing 1).2 <
        warmBudget cfg.manager (largerResumeProbability cfg.manager) (cfg.provider.resumeCosts pricing).1
          (cfg.provider.resumeCosts pricing).2 + charge ∧
      ∀ touch request p, 0 < pricing.cacheWritePerMtok → t.lease.lastCacheTouchAt = some touch →
        cacheFingerprint cfg.prims request = t.lease.cacheFingerprint →
          x.world.clock + lag < touch + cfg.provider.ttlS →
            FakeProvider.isCached cfg.prims p request x.world.clock = false →
              t.lease.warmCostUsd + (x.complete cfg request).2.costOf pricing +
                  (cfg.provider.resumeCosts pricing 1).2 <
                (p.complete cfg.prims cfg.random cfg.provider request x.world.clock).2.costOf pricing + charge := by
  have held : x.Thrifty cfg pricing charge id := by
    refine Execution.history_invariant (R := fun _ u => u.Thrifty cfg pricing charge id)
      (initial.thrifty cfg pricing charge id) ?_ run
    rintro before a after u v rfl reached stepped held
    have live := run_entriesLive refreshes initial prompt.left reached
    exact step_thrifty priced served stepped (prompt.step reached) (billed.step reached) live held
  have count : x.world.warmCountOf id = t.lease.warmCount := by
    rw [World.warmCountOf, known]
    rfl
  have cost : x.world.warmCostOf id = t.lease.warmCostUsd := by
    rw [World.warmCostOf, known]
    rfl
  obtain ⟨saves, bound⟩ := held.reserved.spent.resolve_left (count ▸ warmed)
  rw [cost] at bound
  refine ⟨bound, ?_⟩
  intro touch request p writes touched own early uncached
  have live := run_entriesLive refreshes initial prompt run
  have hit : (x.provider.complete cfg.prims cfg.random cfg.provider request x.world.clock).2.costOf pricing =
      (cfg.provider.resumeCosts pricing (cfg.completionTokens request)).2 :=
    costOf_hit (live.isCached known touched own early)
  have miss : (p.complete cfg.prims cfg.random cfg.provider request x.world.clock).2.costOf pricing =
      (cfg.provider.resumeCosts pricing (cfg.completionTokens request)).1 :=
    costOf_miss writes uncached
  have same := resumeCosts_completion pricing cfg.provider.prefixTokens (cfg.completionTokens request)
  have saving := warmBudget_le_saving cfg.manager saves
  rw [ProviderLoop.complete, hit, miss]
  unfold FakeProviderConfig.resumeCosts at *
  linarith

end Loop

/-! ### A sample run -/

/-- A provider that completes with one token, behind a manager with its prices. -/
def sampleSavingLoop : ProviderLoopConfig :=
  { sampleProviderLoop with
    manager := { sampleEconomics with pricing := some samplePrices }
    provider :=
      { FakeProviderConfig.standard with
        refreshOnHit := true
        prefixTokens := 1000000
        prefixTokens_pos := by decide
        completionTokens := some 1
        completionRange := Or.inl rfl }
    pricing := some samplePrices }

/-- A normal request reports its usage, and one warm is paid for. -/
def sampleSavingRun : List ProviderAction :=
  [.loop (sampleCreate "s" sampleProviderFp), .loop (.targetStarted 0 "bg-1"), .loop (.beforeNormalRequest 0),
    .loop (.storeSnapshot (sampleSnapshot sampleProviderFp)), .serveReal 0 0 sampleCanonical, .realReturns 0,
    .loop (.updateCostEstimates 0 { promptTokens := 1000000 }), .loop (.setClock 233), .loop (.evaluateLease 0 0),
    .loop (.resume 0), .serveWarm 0 sampleCanonical, .warmReturns 0]

def sampleSavingEnd : ProviderLoop := Execution.final (providerStep sampleSavingLoop) {} sampleSavingRun

/-- The warm and the next request of the lease cost less than the request does on an empty cache. -/
theorem warms_pay_off_sample :
    ∃ t, sampleSavingEnd.world.lease? 0 = some t ∧ t.lease.warmCount = 1 ∧
      t.lease.warmCostUsd + (sampleSavingEnd.complete sampleSavingLoop sampleCanonical).2.costOf samplePrices <
        (FakeProvider.complete sampleSavingLoop.prims sampleSavingLoop.random sampleSavingLoop.provider {}
          sampleCanonical sampleSavingEnd.world.clock).2.costOf samplePrices := by
  have run : Execution.exec (providerStep sampleSavingLoop) {} sampleSavingRun = some sampleSavingEnd :=
    Execution.exec_eq_final (by decide +kernel)
  have prompt : Execution.Along (providerStep sampleSavingLoop)
      (ProviderLoop.Prompt sampleSavingLoop (1 / 10)) {} sampleSavingRun := by
    decide +kernel
  have billed : Execution.Along (providerStep sampleSavingLoop)
      (ProviderLoop.Billed sampleSavingLoop (3 / 2) 0) {} sampleSavingRun := by
    decide +kernel
  have served : ∀ request, (sampleSavingLoop.provider.resumeCosts samplePrices
      (sampleSavingLoop.completionTokens request)).2 ≤ 3 / 2 := by
    intro request
    change (sampleSavingLoop.provider.resumeCosts samplePrices 1).2 ≤ 3 / 2
    decide +kernel
  have shown : (sampleSavingEnd.world.lease? 0).map (fun t =>
      (t.lease.warmCount, t.lease.lastCacheTouchAt, t.lease.cacheFingerprint)) =
        some (1, some 233, sampleProviderFp) := by
    decide +kernel
  obtain ⟨t, known, fields⟩ := Option.map_eq_some_iff.1 shown
  injection fields with count rest
  injection rest with touched own
  have warmed : t.lease.warmCount ≠ 0 := by
    rw [count]
    exact one_ne_zero
  have resumed := (warms_pay_off rfl ⟨rfl, rfl, rfl⟩ served ⟨World.initial_empty, rfl, rfl, rfl⟩ run prompt billed
    known warmed).2 233 sampleCanonical {} (by decide +kernel) touched own.symm (by decide +kernel) rfl
  have next : (sampleSavingLoop.provider.resumeCosts samplePrices 1).2 = 3 / 2 := by decide +kernel
  rw [next] at resumed
  exact ⟨t, known, count, lt_of_add_lt_add_right resumed⟩

end CachePilot
