/-
Module: CachePilot.Proofs.TouchEvidence
Layer: Proofs
Purpose: What moves the last touch of a lease and what it pays. A touch needs evidence: a normal request
  that did not fail on a valid lease, or a warm that proved the cache entry. A warm is charged when its
  execution ends with an outcome or an ordinary exception, once, and nothing else is charged. Over a run
  the count and the cost of a lease are those of the warms that ended in it.
Trusted boundary: none
Main exports: World.touchEvidence, World.paidWarm, LeaseChange.touch, LeaseChange.charged,
  run_accounts, touch_has_evidence
-/
import CachePilot.Proofs.Tasks

namespace CachePilot

/-! ### Evidence and payment -/

/-- The step is evidence that the cache entry of the lease was touched. -/
def World.touchEvidence (w : World) (id : LeaseId) (a : Action) : Bool :=
  match w.lease? id with
  | none => false
  | some t =>
      match a with
      | .afterNormalRequest j outcome =>
          j == id && outcome != .failed && t.lease.state != .invalidated
      | .executeReturns tid answer =>
          w.inFlight tid == some id && answer.toWarmResult.touchesCache
      | _ => false

/-- The warm of the lease that ends in this step and is paid for: its execution returned an outcome or
    raised an ordinary exception. -/
def World.paidWarm (w : World) (id : LeaseId) : Action → Option WarmResult
  | .executeReturns tid answer =>
      if w.inFlight tid = some id ∧ answer.toWarmResult.outcome ≠ none then
        some answer.toWarmResult
      else none
  | _ => none

theorem Operation.touch {cfg : ManagerConfig} {w : World} {id : LeaseId} {a : Action}
    {f : TrackedLease → TrackedLease} {t : TrackedLease} (operation : Operation cfg w.clock id a f)
    (known : w.lease? id = some t) :
    (f t).lease.lastCacheTouchAt =
      if w.touchEvidence id a then some w.clock else t.lease.lastCacheTouchAt := by
  unfold World.touchEvidence
  rw [known]
  cases operation with
  | arm => exact (Bookkeeping.arm t).touch
  | invalidate => rfl
  | complete => rfl
  | targetStarted targetId =>
      rw [TrackedLease.targetStarted_frame]
      rfl
  | targetFinished targetId =>
      rw [TrackedLease.targetFinished_frame]
      rfl
  | beforeNormalRequest => rfl
  | afterNormalRequest outcome =>
      rcases TrackedLease.afterNormalRequest_cases w.clock outcome t with
        ⟨reason, same⟩ | ⟨⟨valid, answered⟩, same⟩
      · rw [same]
        rcases reason with dead | failed
        · simp [dead, TrackedLease.unrefreshed]
        · simp [failed, TrackedLease.unrefreshed]
      · rw [same]
        simp [valid, answered, TrackedLease.refreshed]
  | refreshTtl answer =>
      rw [TrackedLease.refreshTtl_frame]
      rfl
  | reconcileRoute routeHash => rfl
  | updateCostEstimates usage =>
      rw [TrackedLease.updateCostEstimates_frame]
      rfl

/-- A step that is no operation on the lease and no return of its warm is no evidence. -/
theorem no_touchEvidence {cfg : ManagerConfig} {w : World} {id : LeaseId} {a : Action}
    (quiet : ∀ f, ¬ Operation cfg w.clock id a f)
    (unreturned : ∀ tid answer, a = .executeReturns tid answer → w.inFlight tid ≠ some id) :
    w.touchEvidence id a = false := by
  unfold World.touchEvidence
  split
  · rfl
  cases a with
  | afterNormalRequest j outcome =>
      have other : j ≠ id := by
        intro same
        subst same
        exact quiet _ (.afterNormalRequest outcome)
      simp [other]
  | executeReturns tid answer =>
      have elsewhere := unreturned tid answer rfl
      simp [elsewhere]
  | _ => rfl

/-- The last touch moves to the clock at every evidence, and never otherwise. -/
theorem LeaseChange.touch {cfg : ManagerConfig} {w : World} {id : LeaseId} {a : Action}
    {t t' : TrackedLease} (known : w.lease? id = some t) (change : LeaseChange cfg w id t a t') :
    t'.lease.lastCacheTouchAt =
      if w.touchEvidence id a then some w.clock else t.lease.lastCacheTouchAt := by
  cases change with
  | bookkeeping quiet unreturned frame =>
      rw [no_touchEvidence quiet unreturned]
      exact frame.touch
  | superseded missing switched =>
      unfold World.touchEvidence
      rw [known]
      rfl
  | operated operation => exact operation.touch known
  | returned flying =>
      rw [finishWarm_touch]
      unfold World.touchEvidence
      rw [known]
      simp [flying]

/-! ### Confirmed hits -/

theorem Operation.hit {cfg : ManagerConfig} {now : ℚ} {id : LeaseId} {a : Action}
    {f : TrackedLease → TrackedLease} (operation : Operation cfg now id a f) (t : TrackedLease) :
    (f t).lease.lastConfirmedHitAt = t.lease.lastConfirmedHitAt ∨
      (f t).lease.lastConfirmedHitAt = some now ∧ (f t).lease.lastCacheTouchAt = some now := by
  cases operation with
  | arm => exact Or.inl (Bookkeeping.arm t).hit
  | targetStarted targetId =>
      rw [TrackedLease.targetStarted_frame]
      exact Or.inl rfl
  | targetFinished targetId =>
      rw [TrackedLease.targetFinished_frame]
      exact Or.inl rfl
  | afterNormalRequest outcome =>
      rcases TrackedLease.afterNormalRequest_cases now outcome t with ⟨-, same⟩ | ⟨-, same⟩
      · rw [same]
        exact Or.inl rfl
      · rw [same]
        by_cases hit : outcome = .confirmedHit
        · exact Or.inr ⟨if_pos hit, rfl⟩
        · exact Or.inl (if_neg hit)
  | refreshTtl answer =>
      rw [TrackedLease.refreshTtl_frame]
      exact Or.inl rfl
  | updateCostEstimates usage =>
      rw [TrackedLease.updateCostEstimates_frame]
      exact Or.inl rfl
  | _ => exact Or.inl rfl

/-- The last confirmed hit changes only together with the last touch. -/
theorem LeaseChange.hit {cfg : ManagerConfig} {w : World} {id : LeaseId} {a : Action}
    {t t' : TrackedLease} (change : LeaseChange cfg w id t a t') :
    t'.lease.lastConfirmedHitAt = t.lease.lastConfirmedHitAt ∨
      t'.lease.lastConfirmedHitAt = some w.clock ∧ t'.lease.lastCacheTouchAt = some w.clock := by
  cases change with
  | bookkeeping quiet unreturned frame => exact Or.inl frame.hit
  | superseded missing switched => exact Or.inl rfl
  | operated operation => exact operation.hit t
  | @returned tid answer flying =>
      rcases finishWarm_cases w.clock answer t with
        ⟨-, same⟩ | ⟨-, same⟩ | ⟨outcome, -, -, same⟩
      · rw [same]
        exact Or.inl (Bookkeeping.endWarm t).hit
      · rw [same]
        exact Or.inr ⟨rfl, rfl⟩
      · rw [same]
        exact Or.inl rfl

/-! ### Payment -/

theorem Operation.accounts {cfg : ManagerConfig} {now : ℚ} {id : LeaseId} {a : Action}
    {f : TrackedLease → TrackedLease} (operation : Operation cfg now id a f) (t : TrackedLease) :
    (f t).lease.warmCount = t.lease.warmCount ∧ (f t).lease.warmCostUsd = t.lease.warmCostUsd := by
  rw [operation.frame t]
  exact ⟨rfl, rfl⟩

theorem finishWarm_accounts (now : ℚ) (answer : ExecuteResult) (t : TrackedLease) :
    (finishWarm now answer t).1.lease.warmCount =
        t.lease.warmCount + (if answer.toWarmResult.outcome = none then 0 else 1) ∧
      (finishWarm now answer t).1.lease.warmCostUsd =
        t.lease.warmCostUsd +
          (if answer.toWarmResult.outcome = none then 0 else answer.toWarmResult.costUsd) := by
  rcases finishWarm_cases now answer t with
    ⟨declined, same⟩ | ⟨hit, same⟩ | ⟨outcome, ran, -, same⟩
  · have frame := Bookkeeping.endWarm t
    rw [same, declined, frame.warmCount, frame.warmCost, if_pos rfl, if_pos rfl, add_zero, add_zero]
    exact ⟨rfl, rfl⟩
  · rw [same, hit]
    exact ⟨rfl, rfl⟩
  · rw [same, ran]
    exact ⟨rfl, rfl⟩

/-- The warm that a step ends, if it is paid for, is charged to the lease once; no other step changes the
    count or the cost. -/
theorem LeaseChange.charged {cfg : ManagerConfig} {w : World} {id : LeaseId} {a : Action}
    {t t' : TrackedLease} (change : LeaseChange cfg w id t a t') :
    t'.lease.warmCount = t.lease.warmCount + (w.paidWarm id a).toList.length ∧
      t'.lease.warmCostUsd =
        t.lease.warmCostUsd + ((w.paidWarm id a).toList.map WarmResult.costUsd).sum := by
  cases change with
  | bookkeeping quiet unreturned frame =>
      have unpaid : w.paidWarm id a = none := by
        cases a with
        | executeReturns tid answer =>
            exact if_neg fun paid => unreturned tid answer rfl paid.1
        | _ => rfl
      rw [unpaid, frame.warmCount, frame.warmCost]
      simp
  | superseded missing switched =>
      constructor
      · rfl
      · exact (add_zero _).symm
  | operated operation =>
      have unpaid : w.paidWarm id a = none := by cases operation <;> rfl
      obtain ⟨count, cost⟩ := operation.accounts t
      rw [unpaid, count, cost]
      simp
  | @returned tid answer flying =>
      obtain ⟨count, cost⟩ := finishWarm_accounts w.clock answer t
      rw [count, cost]
      by_cases declined : answer.toWarmResult.outcome = none
      · simp [World.paidWarm, declined]
      · simp [World.paidWarm, declined, flying]

/-- The count of a lease; a lease that is not tracked yet has paid for nothing. -/
def World.warmCountOf (w : World) (id : LeaseId) : ℕ :=
  ((w.lease? id).map fun t => t.lease.warmCount).getD 0

/-- The cost of a lease; a lease that is not tracked yet has paid for nothing. -/
def World.warmCostOf (w : World) (id : LeaseId) : ℚ :=
  ((w.lease? id).map fun t => t.lease.warmCostUsd).getD 0

/-- A warm that ends is the warm of a tracked lease. -/
theorem paidWarm_tracked {cfg : ManagerConfig} {w w' : World} {a : Action} {id : LeaseId}
    (stepped : step cfg w a = some w') (absent : w.lease? id = none) : w.paidWarm id a = none := by
  cases a with
  | executeReturns tid answer =>
      apply if_neg
      rintro ⟨flying, _⟩
      obtain ⟨t, known⟩ := returned_tracked stepped flying
      rw [absent] at known
      cases known
  | _ => rfl

/-- Every step adds the warm that it pays for to the account of the lease. -/
theorem step_accounts {cfg : ManagerConfig} {w w' : World} {a : Action} (id : LeaseId)
    (stepped : step cfg w a = some w') :
    w'.warmCountOf id = w.warmCountOf id + (w.paidWarm id a).toList.length ∧
      w'.warmCostOf id =
        w.warmCostOf id + ((w.paidWarm id a).toList.map WarmResult.costUsd).sum := by
  unfold World.warmCountOf World.warmCostOf
  cases known : w.lease? id with
  | some t =>
      obtain ⟨t', known', change⟩ := step_change stepped known
      rw [known']
      exact change.charged
  | none =>
      rw [paidWarm_tracked stepped known]
      cases appears : w'.lease? id with
      | none =>
          constructor
          · rfl
          · exact (add_zero _).symm
      | some t' =>
          obtain ⟨identity, ttl, confidence, answer, ttlS, c, -, -, -, new⟩ :=
            step_creates stepped known appears
          rw [new]
          constructor
          · rfl
          · exact (add_zero _).symm

/-- Over a run, the account of a lease grows by the warms that ended in it. -/
theorem run_accounts {cfg : ManagerConfig} {start w : World} {acts : List Action} (id : LeaseId)
    (run : exec cfg start acts = some w) :
    w.warmCountOf id = start.warmCountOf id +
        (Execution.trace (step cfg) (fun u a => u.paidWarm id a) start acts).length ∧
      w.warmCostOf id = start.warmCostOf id +
        ((Execution.trace (step cfg) (fun u a => u.paidWarm id a) start acts).map
          WarmResult.costUsd).sum := by
  constructor
  · apply Execution.measure_trace (m := fun u => u.warmCountOf id) (g := List.length) rfl _ _ run
    · intro xs ys
      exact List.length_append
    · intro u a v stepped
      exact (step_accounts id stepped).1
  · apply Execution.measure_trace (m := fun u => u.warmCostOf id)
      (g := fun paid => (paid.map WarmResult.costUsd).sum) rfl _ _ run
    · intro xs ys
      rw [List.map_append, List.sum_append]
    · intro u a v stepped
      exact (step_accounts id stepped).2

/-! ### The clock -/

/-- The action does not set the clock back. -/
def ClockForward (w : World) : Action → Prop
  | .setClock now => w.clock ≤ now
  | _ => True

instance (w : World) (a : Action) : Decidable (ClockForward w a) := by
  unfold ClockForward
  split <;> infer_instance

theorem clock_forward {cfg : ManagerConfig} {w w' : World} {a : Action}
    (stepped : step cfg w a = some w') (forward : ClockForward w a) : w.clock ≤ w'.clock := by
  rcases step_clock stepped with same | set
  · exact le_of_eq same.symm
  · rw [set] at forward
    exact forward

/-- The order of the lease's times: the last confirmed hit is no later than the last touch, and that is
    no later than the clock. -/
structure TouchOrder (now : ℚ) (t : TrackedLease) : Prop where
  hit : ∀ hit, t.lease.lastConfirmedHitAt = some hit →
    ∃ touch, t.lease.lastCacheTouchAt = some touch ∧ hit ≤ touch
  touch : ∀ touch, t.lease.lastCacheTouchAt = some touch → touch ≤ now

/-- A change under a forward clock keeps the order of times, and never moves the last touch back. -/
theorem LeaseChange.touchOrder {cfg : ManagerConfig} {w : World} {id : LeaseId} {a : Action}
    {t t' : TrackedLease} {now : ℚ} (known : w.lease? id = some t)
    (change : LeaseChange cfg w id t a t') (later : w.clock ≤ now)
    (ordered : TouchOrder w.clock t) :
    TouchOrder now t' ∧ ∀ x, t.lease.lastCacheTouchAt = some x →
      ∃ y, t'.lease.lastCacheTouchAt = some y ∧ x ≤ y := by
  have moved := change.touch known
  cases evidence : w.touchEvidence id a with
  | true =>
      rw [evidence, if_pos rfl] at moved
      refine ⟨⟨?_, ?_⟩, ?_⟩
      · intro hit stored
        refine ⟨w.clock, moved, ?_⟩
        rcases change.hit with same | ⟨new, -⟩
        · rw [same] at stored
          obtain ⟨touch, touched, before⟩ := ordered.hit hit stored
          exact le_trans before (ordered.touch touch touched)
        · rw [new] at stored
          cases stored
          exact le_refl _
      · intro touch stored
        rw [moved] at stored
        cases stored
        exact later
      · intro x touched
        exact ⟨w.clock, moved, ordered.touch x touched⟩
  | false =>
      rw [evidence] at moved
      have same : t'.lease.lastCacheTouchAt = t.lease.lastCacheTouchAt := moved
      refine ⟨⟨?_, ?_⟩, ?_⟩
      · intro hit stored
        rcases change.hit with kept | ⟨new, touched⟩
        · rw [kept] at stored
          rw [same]
          exact ordered.hit hit stored
        · rw [new] at stored
          cases stored
          exact ⟨w.clock, touched, le_refl _⟩
      · intro touch stored
        rw [same] at stored
        exact le_trans (ordered.touch touch stored) later
      · intro x touched
        exact ⟨x, same.trans touched, le_refl _⟩

/-- Every tracked lease has its times in order. -/
def World.TouchOrdered (w : World) : Prop :=
  ∀ id t, w.lease? id = some t → TouchOrder w.clock t

theorem step_touchOrdered {cfg : ManagerConfig} {w w' : World} {a : Action}
    (stepped : step cfg w a = some w') (forward : ClockForward w a) (ordered : w.TouchOrdered) :
    w'.TouchOrdered := by
  intro id t' known'
  cases known : w.lease? id with
  | none =>
      obtain ⟨identity, ttl, confidence, answer, ttlS, c, -, -, -, new⟩ :=
        step_creates stepped known known'
      rw [new]
      constructor
      · intro hit stored
        cases stored
      · intro touch stored
        cases stored
  | some t =>
      obtain ⟨x, found, change⟩ := step_change stepped known
      rw [known'] at found
      cases found
      exact (change.touchOrder known (clock_forward stepped forward) (ordered id t known)).1

/-- The touch rules, along every run whose clock never goes back. In each step a tracked lease has its
    last touch set to the clock if the step is evidence, and keeps it otherwise; it never moves back; the
    count and the cost of its warms grow by the warm that the step pays for, if any, and a warm is paid
    for only when it lands. In each state the last confirmed hit is no later than the last touch, and that
    is no later than now; the count and the cost are those of the warms paid for so far. -/
theorem touch_has_evidence {cfg : ManagerConfig} {start w : World} {acts : List Action}
    (initial : start.Initial) (run : exec cfg start acts = some w)
    (forward : Execution.Along (step cfg) ClockForward start acts) :
    Execution.EveryStep (step cfg)
      (fun u a v => ∀ id t, u.lease? id = some t → ∃ t', v.lease? id = some t' ∧
        t'.lease.lastCacheTouchAt =
          (if u.touchEvidence id a then some u.clock else t.lease.lastCacheTouchAt) ∧
        (∀ x, t.lease.lastCacheTouchAt = some x →
          ∃ y, t'.lease.lastCacheTouchAt = some y ∧ x ≤ y) ∧
        t'.lease.warmCount = t.lease.warmCount + (u.paidWarm id a).toList.length ∧
        t'.lease.warmCostUsd =
          t.lease.warmCostUsd + ((u.paidWarm id a).toList.map WarmResult.costUsd).sum ∧
        ∀ tid answer, a = .executeReturns tid answer → v.inFlight tid = none) start acts ∧
    ∀ before after u, acts = before ++ after → exec cfg start before = some u →
      ∀ id t, u.lease? id = some t → TouchOrder u.clock t ∧
        t.lease.warmCount =
          (Execution.trace (step cfg) (fun x a => x.paidWarm id a) start before).length ∧
        t.lease.warmCostUsd =
          ((Execution.trace (step cfg) (fun x a => x.paidWarm id a) start before).map
            WarmResult.costUsd).sum := by
  have nothing : ∀ id, start.lease? id = none := by
    intro id
    rw [World.lease?, initial.1]
    rfl
  have ordered : ∀ before after u, acts = before ++ after → exec cfg start before = some u →
      u.TouchOrdered := by
    intro before after u split reached
    subst split
    apply Execution.invariant_along _ _ forward.left reached
    · intro id t known
      rw [nothing id] at known
      cases known
    · intro x a y guard stepped held
      exact step_touchOrdered stepped guard held
  constructor
  · intro before a after u v split reached stepped id t known
    have guard : ClockForward u a := by
      rw [split] at forward
      exact forward.step reached
    obtain ⟨t', known', change⟩ := step_change stepped known
    obtain ⟨count, cost⟩ := change.charged
    have inOrder := ordered before (a :: after) u split reached id t known
    refine ⟨t', known', change.touch known,
      (change.touchOrder known (clock_forward stepped guard) inOrder).2, count, cost, ?_⟩
    intro tid answer returns
    subst returns
    exact returned_lands stepped
  · intro before after u split reached id t known
    refine ⟨ordered before after u split reached id t known, ?_⟩
    obtain ⟨count, cost⟩ := run_accounts id reached
    have fresh : start.warmCountOf id = 0 ∧ start.warmCostOf id = 0 := by
      unfold World.warmCountOf World.warmCostOf
      rw [nothing id]
      exact ⟨rfl, rfl⟩
    have countHere : u.warmCountOf id = t.lease.warmCount := by
      unfold World.warmCountOf
      rw [known]
      rfl
    have costHere : u.warmCostOf id = t.lease.warmCostUsd := by
      unfold World.warmCostOf
      rw [known]
      rfl
    rw [countHere, fresh.1, Nat.zero_add] at count
    rw [costHere, fresh.2, zero_add] at cost
    exact ⟨count, cost⟩

/-- A run with a normal request, a warm that is paid for, and a later failed request. -/
def sampleWarmed : List Action :=
  sampleReady ++ [.resume 0,
    .executeReturns 0 (.returned { outcome := some .confirmedHit, costUsd := 1 / 4 }),
    .setClock 1100, .beforeNormalRequest 0, .afterNormalRequest 0 .failed]

/-- The rules, read in the last state of that run. -/
theorem touch_has_evidence_sample : ∃ t, (sampleAt sampleWarmed).lease? 0 = some t ∧
    TouchOrder (sampleAt sampleWarmed).clock t ∧
      t.lease.warmCount =
        (Execution.trace (step sampleConfig) (fun x a => x.paidWarm 0 a) {} sampleWarmed).length ∧
      t.lease.warmCostUsd =
        ((Execution.trace (step sampleConfig) (fun x a => x.paidWarm 0 a) {} sampleWarmed).map
          WarmResult.costUsd).sum := by
  have run : exec sampleConfig {} sampleWarmed = some (sampleAt sampleWarmed) :=
    exec_sampleAt (by decide +kernel)
  have tracked : ((sampleAt sampleWarmed).lease? 0).isSome = true := by decide +kernel
  obtain ⟨t, known⟩ := Option.isSome_iff_exists.1 tracked
  have rules := touch_has_evidence World.initial_empty run (by decide +kernel)
  exact ⟨t, known, rules.2 sampleWarmed [] _ (List.append_nil _).symm run 0 t known⟩

/-- That run ends with one warm paid for, touched when the warm returned. -/
example : ((sampleAt sampleWarmed).lease? 0).map
    (fun t => (t.lease.warmCount, t.lease.warmCostUsd, t.lease.lastCacheTouchAt)) =
      some (1, 1 / 4, some 1000) := by
  decide +kernel

end CachePilot
