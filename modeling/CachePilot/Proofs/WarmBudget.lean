/-
Module: CachePilot.Proofs.WarmBudget
Layer: Proofs
Purpose: The warm budget of a lease. While the cost figures of a lease stay, and its evaluations do not
  overlap, an evaluation in progress holds a reservation: what the lease has paid so far and the
  predicted cost of one more warm lie below the budget that the gate judged it against. So every warm is
  charged under an allowance, and the rules of allowances bound the cost and the number of the warms.
Trusted boundary: none
Main exports: World.evaluating, Apart, BudgetRun, Budgeted, step_budgeted, run_admitted,
  warm_budget_bound
-/
import CachePilot.Lib.Allowance
import CachePilot.Proofs.Evaluations
import CachePilot.Proofs.TouchEvidence

namespace CachePilot

/-! ### Cost figures and the budget -/

/-- The figures that the gate reads off a lease: the cold and the cached resume cost, and the predicted
    cost of the next warm, which counts as zero while it is unknown. -/
def CacheLease.costFigures (lease : CacheLease) : Option ℚ × Option ℚ × ℚ :=
  (lease.estimatedColdResumeCostUsd, lease.estimatedCachedResumeCostUsd,
    lease.nextWarmCostUsd.getD 0)

/-- What the gate lets a lease spend on warms at a resume probability. -/
def warmBudget (cfg : ManagerConfig) (probability cold cached : ℚ) : ℚ :=
  cfg.settings.economics.budgetRatio * probability * (cold - cached)

/-- The larger of the two configured resume probabilities. -/
def largerResumeProbability (cfg : ManagerConfig) : ℚ :=
  max cfg.settings.resumeProbability cfg.settings.detachedResumeProbability

theorem resumeProbability_le (cfg : ManagerConfig) (lease : CacheLease) :
    resumeProbability cfg lease ≤ largerResumeProbability cfg := by
  unfold resumeProbability
  split
  · exact le_trans cfg.settings.resumeProbability_nonneg (le_max_left _ _)
  split
  · exact le_max_right _ _
  · exact le_max_left _ _

/-- A lease passes the gate only while the next warm fits its budget, and that budget is never larger
    than the one at the larger resume probability. -/
theorem economicGate_budget {cfg : ManagerConfig} {lease : CacheLease} {cold cached next : ℚ}
    (enabled : cfg.settings.economics.enabled = true)
    (figures : lease.costFigures = (some cold, some cached, next))
    (gate : economicGate cfg lease = true) :
    lease.warmCostUsd + next < warmBudget cfg (resumeProbability cfg lease) cold cached ∧
      warmBudget cfg (resumeProbability cfg lease) cold cached ≤
        warmBudget cfg (largerResumeProbability cfg) cold cached := by
  obtain ⟨coldSide, cachedSide, nextSide⟩ :
      lease.estimatedColdResumeCostUsd = some cold ∧
        lease.estimatedCachedResumeCostUsd = some cached ∧ lease.nextWarmCostUsd.getD 0 = next := by
    simpa [CacheLease.costFigures] using figures
  have warm : (evaluateEconomics cfg lease).shouldWarm = true := by
    simpa [economicGate, enabled] using gate
  have fits := EconomicController.evaluate_warm_budget warm
  have saves := ((EconomicController.evaluate_shouldWarm_iff _ _).1 warm).2.2.1
  simp only [economicInputs, coldSide, cachedSide, nextSide, Option.getD_some] at fits saves
  refine ⟨fits, ?_⟩
  have ratio := cfg.settings.economics.budgetRatio_pos.le
  have avoidable : 0 ≤ cold - cached := sub_nonneg.2 saves.le
  have larger := resumeProbability_le cfg lease
  unfold warmBudget
  gcongr

/-- The action refreshes the estimates of this lease. -/
def Action.refreshesEstimates (id : LeaseId) : Action → Bool
  | .updateCostEstimates j _ => j == id
  | _ => false

theorem Operation.costFigures {cfg : ManagerConfig} {now : ℚ} {id : LeaseId} {a : Action}
    {f : TrackedLease → TrackedLease} (operation : Operation cfg now id a f)
    (kept : a.refreshesEstimates id = false) (t : TrackedLease) :
    (f t).lease.costFigures = t.lease.costFigures := by
  cases operation with
  | arm =>
      have frame := (Bookkeeping.arm t).lease
      rw [frame]
      rfl
  | targetStarted targetId =>
      rw [TrackedLease.targetStarted_frame]
      rfl
  | targetFinished targetId =>
      rw [TrackedLease.targetFinished_frame]
      rfl
  | afterNormalRequest outcome =>
      rw [TrackedLease.afterNormalRequest_frame]
      rfl
  | refreshTtl answer =>
      rw [TrackedLease.refreshTtl_frame]
      rfl
  | updateCostEstimates usage => simp [Action.refreshesEstimates] at kept
  | _ => rfl

/-- The cost figures change only when the estimates are refreshed. -/
theorem LeaseChange.costFigures {cfg : ManagerConfig} {w : World} {id : LeaseId} {a : Action}
    {t t' : TrackedLease} (change : LeaseChange cfg w id t a t')
    (kept : a.refreshesEstimates id = false) : t'.lease.costFigures = t.lease.costFigures := by
  cases change with
  | bookkeeping quiet unreturned frame =>
      rw [frame.lease]
      rfl
  | superseded missing switched => rfl
  | operated operation => exact operation.costFigures kept t
  | returned flying =>
      rw [finishWarm_frame]
      rfl

/-! ### Evaluations in progress -/

namespace World

/-- The lease that a suspended task is evaluating: it waits at the lock, or its warm is in flight. -/
def evaluating (w : World) (tid : TaskId) : Option LeaseId :=
  match w.pointOf tid with
  | some (.atLock id _ _) => some id
  | some (.executing id _ _) => some id
  | _ => none

/-- No evaluation of the lease is in progress. -/
def Unevaluated (w : World) (id : LeaseId) : Prop := ∀ tid, w.evaluating tid ≠ some id

instance (w : World) (id : LeaseId) : Decidable (w.Unevaluated id) :=
  decidable_of_iff (∀ tid ∈ w.tasks.keys, w.evaluating tid ≠ some id) (by
    refine ⟨fun known tid => ?_, fun none tid _ => none tid⟩
    by_cases member : tid ∈ w.tasks.keys
    · exact known tid member
    · have absent : w.tasks.get? tid = none := Dict.not_mem_keys_iff.1 member
      simp [evaluating, pointOf, task?, absent])

/-- An evaluation of the lease begins in this step. -/
def beginsEvaluation (w : World) (id : LeaseId) : Action → Bool
  | .resume tid =>
      match w.task? tid with
      | some { point := .ready, queue, .. } => queue.head? == some id
      | _ => false
  | _ => false

theorem evaluating_of_inFlight {w : World} {tid : TaskId} {id : LeaseId}
    (flying : w.inFlight tid = some id) : w.evaluating tid = some id := by
  obtain ⟨fp, snapshot, inside⟩ := inFlight_eq_some_iff.1 flying
  unfold evaluating
  rw [inside]

theorem Unevaluated.nobodyWaits {w : World} {id : LeaseId} (quiet : w.Unevaluated id) :
    w.NobodyWaits id := by
  intro tid fp g waiting
  rw [WaitsAt] at waiting
  apply quiet tid
  unfold evaluating
  rw [waiting]

end World

theorem Begins.beginsEvaluation {cfg : ManagerConfig} {w : World} {tid : TaskId} {id : LeaseId}
    {g : ℕ} {a : Action} {t : TrackedLease} (begun : Begins cfg w tid id g a t) :
    w.beginsEvaluation id a = true := by
  obtain ⟨task, rest, here, ready, queued⟩ := begun.ready
  obtain ⟨queue, point, results⟩ := task
  subst ready queued
  rw [begun.action]
  simp [World.beginsEvaluation, here]

/-- An evaluation in progress after a step was in progress before it, and its task did not return in it,
    or it begins in the step and passes the gate. -/
theorem evaluating_or_begins {cfg : ManagerConfig} {w w' : World} {a : Action} {tid : TaskId}
    {id : LeaseId} (stepped : step cfg w a = some w') (progress : w'.evaluating tid = some id) :
    (w.evaluating tid = some id ∧ ∀ answer, a ≠ .executeReturns tid answer) ∨
      ∃ g t, Begins cfg w tid id g a t := by
  have effect := step_point stepped tid
  unfold World.evaluating at progress
  generalize w'.pointOf tid = point at effect progress
  cases effect with
  | untouched elsewhere =>
      refine Or.inl ⟨progress, ?_⟩
      intro answer returns
      subst returns
      exact elsewhere rfl
  | readied => cases progress
  | waits here ready queued known authorised consumed busy =>
      cases progress
      exact Or.inr ⟨_, _, rfl, ⟨_, _, here, ready, queued⟩, known, authorised⟩
  | sent known sends cleared =>
      cases progress
      cases sends with
      | atOnce here ready queued same authorised free =>
          exact Or.inr ⟨_, _, rfl, ⟨_, _, here, ready, queued⟩, known, authorised⟩
      | atLock waiting first =>
          refine Or.inl ⟨?_, by intro answer returns; cases returns⟩
          rw [World.WaitsAt] at waiting
          unfold World.evaluating
          rw [waiting]

/-- A warm that is paid for is the return of an evaluation in progress. -/
theorem paidWarm_evaluating {w : World} {id : LeaseId} {a : Action} {paid : WarmResult}
    (pays : w.paidWarm id a = some paid) :
    ∃ tid answer, a = .executeReturns tid answer ∧ w.evaluating tid = some id := by
  cases a with
  | executeReturns tid answer =>
      unfold World.paidWarm at pays
      dsimp only at pays
      split at pays
      · rename_i ends
        exact ⟨tid, answer, rfl, World.evaluating_of_inFlight ends.1⟩
      · cases pays
  | _ => cases pays

/-! ### Runs between two refreshes -/

/-- The step refreshes no estimate of the lease, and begins no evaluation of it while another one is in
    progress. -/
def Apart (id : LeaseId) (w : World) (a : Action) : Prop :=
  a.refreshesEstimates id = false ∧ (w.beginsEvaluation id a = true → w.Unevaluated id)

instance (id : LeaseId) (w : World) (a : Action) : Decidable (Apart id w a) :=
  inferInstanceAs (Decidable (_ ∧ _))

/-- A run of a lease between two refreshes of its estimates: economics is enabled, pricing is known, and
    the evaluations of the lease do not overlap each other. -/
structure BudgetRun (cfg : ManagerConfig) (id : LeaseId) (start w : World) (acts : List Action)
    (cold cached next : ℚ) : Prop where
  enabled : cfg.settings.economics.enabled = true
  figures : (start.lease? id).map (fun t => t.lease.costFigures) =
    some (some cold, some cached, next)
  run : exec cfg start acts = some w
  apart : Execution.Along (step cfg) (Apart id) start acts

/-- The warms of a lease that are executed and paid for in a run, in order. -/
def paidWarms (cfg : ManagerConfig) (id : LeaseId) (start : World) (acts : List Action) :
    List WarmResult :=
  Execution.trace (step cfg) (fun u a => u.paidWarm id a) start acts

/-- The beginning of such a run is one. -/
theorem BudgetRun.left {cfg : ManagerConfig} {id : LeaseId} {start u w : World}
    {acts more : List Action} {cold cached next : ℚ}
    (segment : BudgetRun cfg id start w (acts ++ more) cold cached next)
    (reached : exec cfg start acts = some u) : BudgetRun cfg id start u acts cold cached next where
  enabled := segment.enabled
  figures := segment.figures
  run := reached
  apart := segment.apart.left

/-- What holds between two refreshes: the cost figures are the same, one evaluation of the lease at most
    is in progress, and it has room for its warm in the budget. -/
structure Budgeted (cfg : ManagerConfig) (id : LeaseId) (cold cached next : ℚ) (w : World) :
    Prop where
  figures : (w.lease? id).map (fun t => t.lease.costFigures) = some (some cold, some cached, next)
  alone : ∀ tid tid', w.evaluating tid = some id → w.evaluating tid' = some id → tid = tid'
  reserved : ∀ tid, w.evaluating tid = some id →
    w.warmCostOf id + next < warmBudget cfg (largerResumeProbability cfg) cold cached

/-- The evaluation that begins passes the gate with the figures of the run. -/
theorem Begins.budget {cfg : ManagerConfig} {w : World} {tid : TaskId} {id : LeaseId} {g : ℕ}
    {a : Action} {t : TrackedLease} {cold cached next : ℚ} (begun : Begins cfg w tid id g a t)
    (enabled : cfg.settings.economics.enabled = true) (held : Budgeted cfg id cold cached next w) :
    t.lease.warmCostUsd + next < warmBudget cfg (resumeProbability cfg t.lease) cold cached ∧
      warmBudget cfg (resumeProbability cfg t.lease) cold cached ≤
        warmBudget cfg (largerResumeProbability cfg) cold cached := by
  have figures := held.figures
  rw [begun.known] at figures
  exact economicGate_budget enabled (Option.some.inj figures) begun.authorised.economic

/-- Every step between two refreshes keeps the room of the evaluation in progress: a warm that is paid
    for ends the only one, and a new one begins only when none is left. -/
theorem step_budgeted {cfg : ManagerConfig} {w w' : World} {a : Action} {id : LeaseId}
    {cold cached next : ℚ} (enabled : cfg.settings.economics.enabled = true)
    (stepped : step cfg w a = some w') (apart : Apart id w a)
    (held : Budgeted cfg id cold cached next w) : Budgeted cfg id cold cached next w' := by
  obtain ⟨kept, separate⟩ := apart
  obtain ⟨t, known, figures⟩ := Option.map_eq_some_iff.1 held.figures
  obtain ⟨t', known', change⟩ := step_change stepped known
  have cost := (step_accounts id stepped).2
  constructor
  · rw [known', ← figures, ← change.costFigures kept]
    rfl
  · intro tid tid' progress progress'
    rcases evaluating_or_begins stepped progress with ⟨old, -⟩ | ⟨g, x, begun⟩
    · rcases evaluating_or_begins stepped progress' with ⟨old', -⟩ | ⟨g', x', begun'⟩
      · exact held.alone tid tid' old old'
      · exact absurd old (separate begun'.beginsEvaluation tid)
    · rcases evaluating_or_begins stepped progress' with ⟨old', -⟩ | ⟨g', x', begun'⟩
      · exact absurd old' (separate begun.beginsEvaluation tid')
      · have same := begun.action.symm.trans begun'.action
        cases same
        rfl
  · intro tid progress
    rcases evaluating_or_begins stepped progress with ⟨old, still⟩ | ⟨g, x, begun⟩
    · have unpaid : w.paidWarm id a = none := by
        cases pays : w.paidWarm id a with
        | none => rfl
        | some paid =>
            obtain ⟨tid', answer, returns, inside⟩ := paidWarm_evaluating pays
            have same := held.alone tid' tid inside old
            subst same
            exact absurd returns (still answer)
      have unchanged : w'.warmCostOf id = w.warmCostOf id := by
        rw [cost, unpaid]
        exact add_zero _
      rw [unchanged]
      exact held.reserved tid old
    · have unchanged : w'.warmCostOf id = x.lease.warmCostUsd := by
        rw [cost, begun.action, World.warmCostOf, begun.known]
        exact add_zero _
      obtain ⟨fits, larger⟩ := begun.budget enabled held
      rw [unchanged]
      exact lt_of_lt_of_le fits larger

section Segment

variable {cfg : ManagerConfig} {id : LeaseId} {start w : World} {acts : List Action}
  {cold cached next : ℚ}

theorem BudgetRun.budgeted (segment : BudgetRun cfg id start w acts cold cached next)
    (quiet : start.Unevaluated id) : Budgeted cfg id cold cached next w := by
  apply Execution.invariant_along _ _ segment.apart segment.run
  · exact
      { figures := segment.figures
        alone := fun tid _ progress _ => absurd progress (quiet tid)
        reserved := fun tid progress => absurd progress (quiet tid) }
  · intro u a v apart stepped held
    exact step_budgeted segment.enabled stepped apart held

/-- The warms of the run are charged under the allowance of the budget. -/
theorem run_admitted (segment : BudgetRun cfg id start w acts cold cached next)
    (quiet : start.Unevaluated id) :
    Allowance.Admitted (warmBudget cfg (largerResumeProbability cfg) cold cached) next
      (start.warmCostOf id) ((paidWarms cfg id start acts).map WarmResult.costUsd) := by
  apply Execution.history_invariant
    (R := fun before _ => Allowance.Admitted
      (warmBudget cfg (largerResumeProbability cfg) cold cached) next (start.warmCostOf id)
      ((paidWarms cfg id start before).map WarmResult.costUsd)) _ _ segment.run
  · trivial
  · intro before a after u v split reached stepped admitted
    subst split
    have extended : paidWarms cfg id start (before ++ [a]) =
        paidWarms cfg id start before ++ (u.paidWarm id a).toList :=
      Execution.trace_snoc reached stepped
    rw [extended]
    cases pays : u.paidWarm id a with
    | none => simpa using admitted
    | some paid =>
        obtain ⟨tid, answer, -, inside⟩ := paidWarm_evaluating pays
        have held := (segment.left reached).budgeted quiet
        have fits := held.reserved tid inside
        rw [(run_accounts id reached).2] at fits
        rw [Option.toList_some, List.map_append]
        exact admitted.snoc fits

/-- The warms of a run include those of its beginning. -/
theorem paidWarms_left {u : World} {before after : List Action}
    (reached : exec cfg start before = some u) {paid : WarmResult}
    (earlier : paid ∈ paidWarms cfg id start before) :
    paid ∈ paidWarms cfg id start (before ++ after) := by
  have whole : paidWarms cfg id start (before ++ after) =
      paidWarms cfg id start before ++ paidWarms cfg id u after := Execution.trace_append reached
  rw [whole]
  exact List.mem_append_left _ earlier

/-- A send of the run goes back to an evaluation that found room for its warm in the budget. -/
theorem warmSent_budget (segment : BudgetRun cfg id start w acts cold cached next)
    (quiet : start.Unevaluated id) {v : World} {a : Action} {tid : TaskId}
    (stepped : step cfg w a = some v) (sent : WarmSent w v tid id) :
    ∃ g, Execution.Since (step cfg)
      (fun _ x b => ∃ t, Begins cfg x tid id g b t ∧
        t.lease.warmCostUsd + next < warmBudget cfg (resumeProbability cfg t.lease) cold cached)
      (fun x _ => ∃ fp, x.WaitsAt tid id fp g) start (acts ++ [a]) := by
  obtain ⟨t, g, -, -, early, b, late, x, y, split, reached, began, ⟨t₀, begun⟩, waited⟩ :=
    warmSent_since quiet.nobodyWaits segment.run stepped sent
  refine ⟨g, early, b, late, x, y, split, reached, began, ⟨t₀, begun, ?_⟩, waited⟩
  -- The evaluation began in a state of the run, so the figures are those of the run.
  have inside : acts = early ++ (b :: late).dropLast := by
    rw [← List.dropLast_append_of_ne_nil (List.cons_ne_nil b late), ← split, List.dropLast_concat]
  rw [inside] at segment
  exact (begun.budget segment.enabled ((segment.left reached).budgeted quiet)).1

/-- After a warm of the run, if no warm was charged more than predicted, the cost is below the budget. -/
theorem run_cost_lt (segment : BudgetRun cfg id start w acts cold cached next)
    (quiet : start.Unevaluated id) (any : paidWarms cfg id start acts ≠ [])
    (most : ∀ paid ∈ paidWarms cfg id start acts, paid.costUsd ≤ next) :
    w.warmCostOf id < warmBudget cfg (largerResumeProbability cfg) cold cached := by
  have admitted := run_admitted segment quiet
  have cost : w.warmCostOf id = start.warmCostOf id +
      ((paidWarms cfg id start acts).map WarmResult.costUsd).sum :=
    (run_accounts id segment.run).2
  have charges : ∀ charge ∈ (paidWarms cfg id start acts).map WarmResult.costUsd, charge ≤ next :=
    List.forall_mem_map.2 most
  obtain ⟨earlier, last, split⟩ :=
    (List.eq_nil_or_concat' _).resolve_left (mt List.map_eq_nil_iff.1 any)
  rw [split] at admitted charges cost
  rw [cost]
  exact admitted.total_lt charges

/-- The warms of a run, at a least cost: all of them but the last fit the budget together with the
    prediction, and when no warm was charged more than predicted all of them do. -/
theorem run_count_lt (segment : BudgetRun cfg id start w acts cold cached next)
    (quiet : start.Unevaluated id) (any : paidWarms cfg id start acts ≠ []) {least : ℚ}
    (enough : ∀ paid ∈ paidWarms cfg id start acts, least ≤ paid.costUsd) :
    start.warmCostOf id + ((paidWarms cfg id start acts).length - 1) * least + next <
        warmBudget cfg (largerResumeProbability cfg) cold cached ∧
      ((∀ paid ∈ paidWarms cfg id start acts, paid.costUsd ≤ next) →
        start.warmCostOf id + (paidWarms cfg id start acts).length * least <
          warmBudget cfg (largerResumeProbability cfg) cold cached) := by
  have admitted := run_admitted segment quiet
  have charges : ∀ charge ∈ (paidWarms cfg id start acts).map WarmResult.costUsd, least ≤ charge :=
    List.forall_mem_map.2 enough
  have number : (paidWarms cfg id start acts).length =
      ((paidWarms cfg id start acts).map WarmResult.costUsd).length := (List.length_map _).symm
  obtain ⟨earlier, last, split⟩ :=
    (List.eq_nil_or_concat' _).resolve_left (mt List.map_eq_nil_iff.1 any)
  rw [number]
  constructor
  · rw [split] at admitted charges ⊢
    have bound := admitted.earlier_count_lt charges
    rw [nsmul_eq_mul] at bound
    simpa using bound
  · intro most
    have predicted : ∀ charge ∈ (paidWarms cfg id start acts).map WarmResult.costUsd,
        charge ≤ next := List.forall_mem_map.2 most
    rw [split] at admitted charges predicted ⊢
    have bound := admitted.count_lt charges predicted
    rwa [nsmul_eq_mul] at bound

/-- The warm budget, along every run of a lease between two refreshes that starts with no evaluation of
    the lease in progress. Every warm sent goes back to an evaluation that found what the lease had paid
    and the next warm below the budget at the resume probability of that moment. If no warm is charged
    more than the predicted cost, what the lease has paid is below the budget at the larger resume
    probability once a warm of the run has been paid. If every warm is charged at least `least`, all warms
    but the last, with the prediction, fit that budget on top of what the lease had paid before the run;
    if none is charged more than predicted all of them do, so that a lease that had not been paid back
    more than it cost has at most the budget over `least` of them. -/
theorem warm_budget_bound (segment : BudgetRun cfg id start w acts cold cached next)
    (quiet : start.Unevaluated id) :
    (∀ before a after u v tid, acts = before ++ a :: after → exec cfg start before = some u →
      step cfg u a = some v → WarmSent u v tid id →
      ∃ g, Execution.Since (step cfg)
        (fun _ x b => ∃ t, Begins cfg x tid id g b t ∧
          t.lease.warmCostUsd + next <
            warmBudget cfg (resumeProbability cfg t.lease) cold cached)
        (fun x _ => ∃ fp, x.WaitsAt tid id fp g) start (before ++ [a])) ∧
    ((∀ paid ∈ paidWarms cfg id start acts, paid.costUsd ≤ next) →
      ∀ before after u, acts = before ++ after → exec cfg start before = some u →
        paidWarms cfg id start before ≠ [] →
        u.warmCostOf id < warmBudget cfg (largerResumeProbability cfg) cold cached) ∧
    ∀ least, 0 < least → (∀ paid ∈ paidWarms cfg id start acts, least ≤ paid.costUsd) →
      paidWarms cfg id start acts ≠ [] →
      start.warmCostOf id + ((paidWarms cfg id start acts).length - 1) * least + next <
        warmBudget cfg (largerResumeProbability cfg) cold cached ∧
      ((∀ paid ∈ paidWarms cfg id start acts, paid.costUsd ≤ next) →
        start.warmCostOf id + (paidWarms cfg id start acts).length * least <
          warmBudget cfg (largerResumeProbability cfg) cold cached ∧
        (0 ≤ start.warmCostOf id → ((paidWarms cfg id start acts).length : ℚ) ≤
          warmBudget cfg (largerResumeProbability cfg) cold cached / least)) := by
  refine ⟨?_, ?_, ?_⟩
  · intro before a after u v tid split reached stepped sent
    subst split
    exact warmSent_budget (segment.left reached) quiet stepped sent
  · intro most before after u split reached any
    subst split
    apply run_cost_lt (segment.left reached) quiet any
    intro paid earlier
    exact most paid (paidWarms_left reached earlier)
  · intro least positive enough any
    obtain ⟨earlier, all⟩ := run_count_lt segment quiet any enough
    refine ⟨earlier, ?_⟩
    intro most
    refine ⟨all most, ?_⟩
    intro unpaid
    rw [le_div_iff₀ positive]
    linarith [all most]

end Segment

/-! ### Sample runs -/

/-- The manager of a relay with prices: a million prompt tokens cost 17/4 cold and 5/4 cached, and their
    warm costs 3/2. -/
def sampleEconomics : ManagerConfig :=
  { sampleConfig with
    settings := { LeaseSettings.standard with dryRun := false }
    pricing := some
      { inputPerMtok := 17 / 4, outputPerMtok := 250000, cacheReadPerMtok := 5 / 4,
        cacheWritePerMtok := 17 / 4 } }

/-- The world that a list of actions reaches with these prices. -/
def pricedAt (acts : List Action) : World := Execution.final (step sampleEconomics) {} acts

/-- One session with one lease and estimates for a million prompt tokens. -/
def samplePriced : List Action :=
  sampleDue ++ [.updateCostEstimates 0 { promptTokens := 1000000 }]

/-- A new task evaluates the lease and its warm is sent. -/
def sampleSend (tid : TaskId) : List Action :=
  [.setClock (1000 * (tid + 1)), .evaluateLease tid 0, .resume tid]

/-- Its warm returns with a confirmed hit, at this cost. -/
def sampleWarmReturn (tid : TaskId) (costUsd : ℚ) : Action :=
  .executeReturns tid (.returned { outcome := some .confirmedHit, costUsd })

/-- A warm is sent and charged. -/
def sampleCharge (tid : TaskId) (costUsd : ℚ) : List Action :=
  sampleSend tid ++ [sampleWarmReturn tid costUsd]

/-- One warm at the predicted cost: the lease stays below the budget, and one warm is as many as the
    budget has room for. -/
theorem warm_budget_bound_sample :
    (pricedAt (samplePriced ++ sampleCharge 0 (3 / 2))).warmCostOf 0 <
        warmBudget sampleEconomics (largerResumeProbability sampleEconomics) (17 / 4) (5 / 4) ∧
      ((paidWarms sampleEconomics 0 (pricedAt samplePriced) (sampleCharge 0 (3 / 2))).length : ℚ) ≤
        warmBudget sampleEconomics (largerResumeProbability sampleEconomics) (17 / 4) (5 / 4) /
          (3 / 2) := by
  have segment : BudgetRun sampleEconomics 0 (pricedAt samplePriced)
      (pricedAt (samplePriced ++ sampleCharge 0 (3 / 2))) (sampleCharge 0 (3 / 2))
      (17 / 4) (5 / 4) (3 / 2) :=
    { enabled := rfl
      figures := by decide +kernel
      run := Execution.exec_final (by decide +kernel)
      apart := by decide +kernel }
  obtain ⟨-, cost, count⟩ := warm_budget_bound segment (by decide +kernel)
  constructor
  · exact cost (by decide +kernel) _ [] _ (List.append_nil _).symm segment.run (by decide +kernel)
  · exact ((count (3 / 2) (by decide +kernel) (by decide +kernel) (by decide +kernel)).2
      (by decide +kernel)).2 (by decide +kernel)

/-- A relay that reads cached tokens at a higher price than it reads fresh ones. -/
def sampleInverted : ManagerConfig :=
  { sampleEconomics with
    pricing := some
      { inputPerMtok := 5 / 4, outputPerMtok := 250000, cacheReadPerMtok := 17 / 4,
        cacheWritePerMtok := 5 / 4 } }

/-- One warm cheaper than predicted has been paid, a second one is in flight, and then the estimates are
    refreshed for a tenth of the prompt. -/
def sampleStraddled : List Action :=
  samplePriced ++ sampleCharge 0 (1 / 4) ++ sampleSend 1 ++
    [.updateCostEstimates 0 { promptTokens := 100000 }]

/-- The provider reported a negative cost for the first warm, and the estimates were refreshed. -/
def sampleRefunded : List Action :=
  samplePriced ++ sampleCharge 0 (-10) ++ [.updateCostEstimates 0 { promptTokens := 1000000 }]

/-- Where the plain bounds fail. A single warm that is charged more than predicted is one more than the
    budget has room for at its cost. With a negative budget no warm is already too many. A warm in flight
    across the refresh, charged what is predicted after it, leaves the cost above the new budget. And two
    warms at the predicted cost, on top of a negative cost, are more than the budget has room for. -/
theorem warm_budget_exceeded :
    (BudgetRun sampleEconomics 0 (pricedAt samplePriced)
        (pricedAt (samplePriced ++ sampleCharge 0 3)) (sampleCharge 0 3)
        (17 / 4) (5 / 4) (3 / 2) ∧
      (pricedAt samplePriced).Unevaluated 0 ∧
      (∀ paid ∈ paidWarms sampleEconomics 0 (pricedAt samplePriced) (sampleCharge 0 3),
        3 ≤ paid.costUsd) ∧
      warmBudget sampleEconomics (largerResumeProbability sampleEconomics) (17 / 4) (5 / 4) / 3 <
        ((paidWarms sampleEconomics 0 (pricedAt samplePriced) (sampleCharge 0 3)).length : ℚ)) ∧
    (BudgetRun sampleInverted 0 (Execution.final (step sampleInverted) {} samplePriced)
        (Execution.final (step sampleInverted) {} samplePriced) [] (5 / 4) (17 / 4) (9 / 2) ∧
      warmBudget sampleInverted (largerResumeProbability sampleInverted) (5 / 4) (17 / 4) / 1 <
        ((paidWarms sampleInverted 0
          (Execution.final (step sampleInverted) {} samplePriced) []).length : ℚ)) ∧
    (BudgetRun sampleEconomics 0 (pricedAt sampleStraddled)
        (pricedAt (sampleStraddled ++ [sampleWarmReturn 1 (3 / 8)])) [sampleWarmReturn 1 (3 / 8)]
        (17 / 40) (1 / 8) (3 / 8) ∧
      warmBudget sampleEconomics (largerResumeProbability sampleEconomics) (17 / 40) (1 / 8) ≤
        (pricedAt (sampleStraddled ++ [sampleWarmReturn 1 (3 / 8)])).warmCostOf 0) ∧
    (BudgetRun sampleEconomics 0 (pricedAt sampleRefunded)
        (pricedAt (sampleRefunded ++ (sampleCharge 1 (3 / 2) ++ sampleCharge 2 (3 / 2))))
        (sampleCharge 1 (3 / 2) ++ sampleCharge 2 (3 / 2)) (17 / 4) (5 / 4) (3 / 2) ∧
      (pricedAt sampleRefunded).Unevaluated 0 ∧
      (∀ paid ∈ paidWarms sampleEconomics 0 (pricedAt sampleRefunded)
        (sampleCharge 1 (3 / 2) ++ sampleCharge 2 (3 / 2)), paid.costUsd = 3 / 2) ∧
      warmBudget sampleEconomics (largerResumeProbability sampleEconomics) (17 / 4) (5 / 4) /
          (3 / 2) <
        ((paidWarms sampleEconomics 0 (pricedAt sampleRefunded)
          (sampleCharge 1 (3 / 2) ++ sampleCharge 2 (3 / 2))).length : ℚ)) := by
  refine ⟨⟨?_, by decide +kernel, by decide +kernel, by decide +kernel⟩, ⟨?_, by decide +kernel⟩,
    ⟨?_, by decide +kernel⟩, ⟨?_, by decide +kernel, by decide +kernel, by decide +kernel⟩⟩
  · exact ⟨rfl, by decide +kernel, Execution.exec_final (by decide +kernel), by decide +kernel⟩
  · exact ⟨rfl, by decide +kernel, rfl, trivial⟩
  · exact ⟨rfl, by decide +kernel, Execution.exec_final (by decide +kernel), by decide +kernel⟩
  · exact ⟨rfl, by decide +kernel, Execution.exec_final (by decide +kernel), by decide +kernel⟩

end CachePilot
