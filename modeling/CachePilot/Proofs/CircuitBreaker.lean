/-
Module: CachePilot.Proofs.CircuitBreaker
Layer: Proofs
Purpose: The circuit of a lease is a breaker with threshold two. Its failures are warms that ended with an
  outcome other than a confirmed hit, its successes are warms that confirmed a hit, and its resets are
  verified normal completions; nothing else is a signal. Warms report only while the circuit is closed,
  because a warm in flight is the only one of its lease and was sent with the circuit closed.
Trusted boundary: none
Main exports: World.circuitSignal, LeaseChange.breaker, run_breaker, run_circuitOpen_iff,
  circuit_breaker_bound
-/
import CachePilot.Lib.Breaker
import CachePilot.Proofs.Tasks

namespace CachePilot

/-- What a step tells the circuit of a lease: the end of its warm in flight with an outcome, or a verified
    normal completion while it is valid. -/
def World.circuitSignal (w : World) (id : LeaseId) : Action → Option Breaker.Signal
  | .executeReturns tid answer =>
      if w.inFlight tid = some id then
        match answer.toWarmResult.outcome with
        | none => none
        | some .confirmedHit => some .success
        | some _ => some .failure
      else none
  | .afterNormalRequest j outcome =>
      match w.lease? id with
      | none => none
      | some t =>
          if j = id ∧ outcome.isVerified = true ∧ t.lease.state ≠ .invalidated then some .reset
          else none
  | _ => none

/-- The miss counter and the flag of a lease, as a breaker. -/
def TrackedLease.breaker (t : TrackedLease) : Breaker where
  failures := t.runtime.consecutiveWarmMisses
  isOpen := t.runtime.circuitOpen

/-- The breaker after the signal of a step, if there is one; the circuit opens at two misses. -/
def observeCircuit (b : Breaker) (signal : Option Breaker.Signal) : Breaker :=
  signal.toList.foldl (Breaker.observe 2) b

@[simp] theorem observeCircuit_none (b : Breaker) : observeCircuit b none = b := rfl

@[simp] theorem observeCircuit_some (b : Breaker) (signal : Breaker.Signal) :
    observeCircuit b (some signal) = b.observe 2 signal := rfl

/-! ### The lease's circuit is the breaker -/

theorem Bookkeeping.breaker {t t' : TrackedLease} (frame : Bookkeeping t t') :
    t'.breaker = t.breaker := by
  unfold TrackedLease.breaker
  rw [frame.misses, frame.circuit]

theorem Operation.breaker {cfg : ManagerConfig} {w : World} {id : LeaseId} {a : Action}
    {f : TrackedLease → TrackedLease} {t : TrackedLease} (operation : Operation cfg w.clock id a f)
    (known : w.lease? id = some t) :
    (f t).breaker = observeCircuit t.breaker (w.circuitSignal id a) := by
  cases operation with
  | arm => exact (Bookkeeping.arm t).breaker
  | targetStarted targetId =>
      rw [TrackedLease.targetStarted_frame]
      rfl
  | targetFinished targetId =>
      rw [TrackedLease.targetFinished_frame]
      rfl
  | afterNormalRequest outcome =>
      unfold World.circuitSignal
      rw [known]
      dsimp only
      rcases TrackedLease.afterNormalRequest_cases w.clock outcome t with
        ⟨reason, same⟩ | ⟨⟨valid, answered⟩, same⟩
      · have unverified : ¬ (id = id ∧ outcome.isVerified = true ∧ t.lease.state ≠ .invalidated) := by
          rintro ⟨_, verified, valid⟩
          rcases reason with dead | failed
          · exact valid dead
          · rw [failed] at verified
            cases verified
        rw [same, if_neg unverified]
        rfl
      · rw [same]
        cases verified : outcome.isVerified with
        | true =>
            rw [if_pos ⟨rfl, rfl, valid⟩]
            simp [TrackedLease.breaker, TrackedLease.refreshed, verified, Breaker.observe]
        | false =>
            simp [TrackedLease.breaker, TrackedLease.refreshed, verified]
  | refreshTtl answer =>
      rw [TrackedLease.refreshTtl_frame]
      rfl
  | updateCostEstimates usage =>
      rw [TrackedLease.updateCostEstimates_frame]
      rfl
  | _ => rfl

theorem finishWarm_breaker {w : World} {tid : TaskId} {id : LeaseId} (answer : ExecuteResult)
    (t : TrackedLease) (flying : w.inFlight tid = some id) :
    (finishWarm w.clock answer t).1.breaker =
      observeCircuit t.breaker (w.circuitSignal id (.executeReturns tid answer)) := by
  have signal : w.circuitSignal id (.executeReturns tid answer) =
      match answer.toWarmResult.outcome with
      | none => none
      | some .confirmedHit => some .success
      | some _ => some .failure := if_pos flying
  rw [signal]
  rcases finishWarm_cases w.clock answer t with
    ⟨declined, same⟩ | ⟨hit, same⟩ | ⟨outcome, ran, missed, same⟩
  · rw [same, declined]
    exact (Bookkeeping.endWarm t).breaker
  · rw [same, hit]
    rfl
  · rw [same, ran]
    cases outcome with
    | confirmedHit => exact absurd rfl missed
    | _ => rfl

/-- Without an operation on the lease and without a return of its warm there is no signal. -/
theorem no_circuitSignal {cfg : ManagerConfig} {w : World} {id : LeaseId} {a : Action}
    (quiet : ∀ f, ¬ Operation cfg w.clock id a f)
    (unreturned : ∀ tid answer, a = .executeReturns tid answer → w.inFlight tid ≠ some id) :
    w.circuitSignal id a = none := by
  cases a with
  | afterNormalRequest j outcome =>
      have other : j ≠ id := by
        intro same
        subst same
        exact quiet _ (.afterNormalRequest outcome)
      cases known : w.lease? id with
      | none => simp [World.circuitSignal, known]
      | some t => simp [World.circuitSignal, known, other]
  | executeReturns tid answer => exact if_neg (unreturned tid answer rfl)
  | _ => rfl

/-- Every step moves the circuit of a lease as the breaker moves on the step's signal. -/
theorem LeaseChange.breaker {cfg : ManagerConfig} {w : World} {id : LeaseId} {a : Action}
    {t t' : TrackedLease} (known : w.lease? id = some t) (change : LeaseChange cfg w id t a t') :
    t'.breaker = observeCircuit t.breaker (w.circuitSignal id a) := by
  cases change with
  | bookkeeping quiet unreturned frame =>
      rw [no_circuitSignal quiet unreturned]
      exact frame.breaker
  | superseded missing switched => rfl
  | operated operation => exact operation.breaker known
  | returned flying => exact finishWarm_breaker _ t flying

/-- The breaker of a lease; a lease that is not tracked yet has a closed one. -/
def World.breakerOf (w : World) (id : LeaseId) : Breaker :=
  ((w.lease? id).map TrackedLease.breaker).getD {}

theorem breakerOf_eq {w : World} {id : LeaseId} {t : TrackedLease}
    (known : w.lease? id = some t) : w.breakerOf id = t.breaker := by
  unfold World.breakerOf
  rw [known]
  rfl

/-- An untracked lease sees no signal. -/
theorem circuitSignal_untracked {cfg : ManagerConfig} {w w' : World} {a : Action} {id : LeaseId}
    (stepped : step cfg w a = some w') (absent : w.lease? id = none) :
    w.circuitSignal id a = none := by
  cases a with
  | executeReturns tid answer =>
      apply if_neg
      intro flying
      obtain ⟨t, known⟩ := returned_tracked stepped flying
      rw [absent] at known
      cases known
  | afterNormalRequest j outcome =>
      unfold World.circuitSignal
      rw [absent]
  | _ => rfl

/-- Every step moves the breaker of every lease on the step's signal. -/
theorem step_breaker {cfg : ManagerConfig} {w w' : World} {a : Action} (id : LeaseId)
    (stepped : step cfg w a = some w') :
    w'.breakerOf id = observeCircuit (w.breakerOf id) (w.circuitSignal id a) := by
  cases known : w.lease? id with
  | some t =>
      obtain ⟨t', known', change⟩ := step_change stepped known
      rw [breakerOf_eq known, breakerOf_eq known']
      exact change.breaker known
  | none =>
      rw [circuitSignal_untracked stepped known]
      unfold World.breakerOf
      rw [known]
      cases appears : w'.lease? id with
      | none => rfl
      | some t' =>
          obtain ⟨identity, ttl, confidence, answer, ttlS, c, -, -, -, new⟩ :=
            step_creates stepped known appears
          rw [new]
          rfl

/-- Over a run the circuit of a lease is the breaker that observed the run's signals. -/
theorem run_breaker {cfg : ManagerConfig} {start w : World} {acts : List Action} (id : LeaseId)
    (run : exec cfg start acts = some w) :
    w.breakerOf id =
      (Execution.trace (step cfg) (fun u a => u.circuitSignal id a) start acts).foldl
        (Breaker.observe 2) (start.breakerOf id) :=
  Execution.fold_trace (fun _ _ _ stepped => step_breaker id stepped) run

/-! ### A warm in flight has a closed circuit -/

/-- Every warm in flight belongs to a lease with a closed circuit. -/
def World.FlyingClosed (w : World) : Prop :=
  ∀ tid id t, w.inFlight tid = some id → w.lease? id = some t → t.runtime.circuitOpen = false

/-- The circuit of every lease is consistent. -/
def World.CircuitConsistent (w : World) : Prop :=
  ∀ id, (w.breakerOf id).Consistent 2

/-- The signals of warms come from the warm in flight. -/
theorem flying_of_signal {w : World} {id : LeaseId} {a : Action} {signal : Breaker.Signal}
    (observed : w.circuitSignal id a = some signal) (reported : signal ≠ .reset) :
    ∃ tid answer, a = .executeReturns tid answer ∧ w.inFlight tid = some id := by
  cases a with
  | executeReturns tid answer =>
      cases flying : decide (w.inFlight tid = some id) with
      | true => exact ⟨tid, answer, rfl, of_decide_eq_true flying⟩
      | false =>
          have silent : w.circuitSignal id (.executeReturns tid answer) = none :=
            if_neg (of_decide_eq_false flying)
          rw [silent] at observed
          cases observed
  | afterNormalRequest j outcome =>
      unfold World.circuitSignal at observed
      dsimp only at observed
      split at observed
      · cases observed
      split at observed
      · exact absurd (Option.some.inj observed).symm reported
      · cases observed
  | _ => cases observed

theorem step_flyingClosed {cfg : ManagerConfig} {w w' : World} {a : Action}
    (stepped : step cfg w a = some w') (exclusive : Exclusive w.manager.locks w.Holds)
    (placed : w.Placed) (closed : w.FlyingClosed) : w'.FlyingClosed := by
  intro tid id t' flying known'
  cases known : w.lease? id with
  | none =>
      obtain ⟨identity, ttl, confidence, answer, ttlS, c, -, -, -, new⟩ :=
        step_creates stepped known known'
      rw [new]
      rfl
  | some t =>
      obtain ⟨x, found, change⟩ := step_change stepped known
      rw [known'] at found
      cases found
      have moved := change.breaker known
      rcases inFlight_or_sent w' flying with still | sent
      · have before := closed tid id t still known
        cases observed : w.circuitSignal id a with
        | none =>
            rw [observed] at moved
            exact (congrArg Breaker.isOpen moved).trans before
        | some signal =>
            rw [observed] at moved
            cases signal with
            | reset => exact congrArg Breaker.isOpen moved
            | success => exact (congrArg Breaker.isOpen moved).trans before
            | failure =>
                -- the warm that reports is the only one of the lease, and it has landed
                obtain ⟨u, answer, rfl, returning⟩ := flying_of_signal observed (by decide)
                have same := inFlight_unique exclusive placed still returning known known rfl
                subst same
                rw [returned_lands stepped] at flying
                cases flying
      · obtain ⟨rfl, u, fp, g, tracked, -, cleared⟩ := warmSent_sends stepped sent
        rw [known] at tracked
        cases tracked
        exact (congrArg Breaker.isOpen moved).trans cleared.closed

theorem step_circuitConsistent {cfg : ManagerConfig} {w w' : World} {a : Action}
    (stepped : step cfg w a = some w') (closed : w.FlyingClosed)
    (consistent : w.CircuitConsistent) : w'.CircuitConsistent := by
  intro id
  rw [step_breaker id stepped]
  cases observed : w.circuitSignal id a with
  | none => exact consistent id
  | some signal =>
      apply Breaker.consistent_observe (by decide)
      intro reported
      obtain ⟨tid, answer, rfl, flying⟩ := flying_of_signal observed reported
      obtain ⟨t, known⟩ := returned_tracked stepped flying
      rw [breakerOf_eq known]
      exact closed tid id t flying known

/-- In every world that a run from the start reaches, the circuits are consistent, and closed wherever a
    warm is in flight. -/
theorem run_circuitConsistent {cfg : ManagerConfig} {start w : World} {acts : List Action}
    (initial : start.Initial) (run : exec cfg start acts = some w) :
    w.FlyingClosed ∧ w.CircuitConsistent := by
  apply Execution.history_invariant (R := fun _ u => u.FlyingClosed ∧ u.CircuitConsistent) _ _ run
  · constructor
    · intro tid id t flying known
      rw [World.lease?, initial.1] at known
      cases known
    · intro id
      have absent : start.lease? id = none := by
        rw [World.lease?, initial.1]
        rfl
      unfold World.breakerOf
      rw [absent]
      exact Breaker.consistent_closed (by decide)
  · rintro before a after u v split reached stepped ⟨closed, consistent⟩
    have exclusive := run_exclusive initial reached
    have placed := run_placed initial reached
    exact ⟨step_flyingClosed stepped exclusive placed closed,
      step_circuitConsistent stepped closed consistent⟩

/-! ### The bound -/

/-- The step confirms no hit of the lease's warm and is no verified completion of it. -/
def KeepsStreak (id : LeaseId) (w : World) (a : Action) : Prop :=
  w.circuitSignal id a ≠ some .success ∧ w.circuitSignal id a ≠ some .reset

/-- The step is no verified completion of the lease. -/
def Unverified (id : LeaseId) (w : World) (a : Action) : Prop :=
  w.circuitSignal id a ≠ some .reset

instance (id : LeaseId) (w : World) (a : Action) : Decidable (KeepsStreak id w a) :=
  inferInstanceAs (Decidable (_ ∧ _))

instance (id : LeaseId) (w : World) (a : Action) : Decidable (Unverified id w a) :=
  inferInstanceAs (Decidable (_ ≠ _))

/-- Two warms of the lease ended without a confirmed hit, with neither a confirmed warm nor a verified
    completion between them, and no verified completion has followed. -/
def MissedTwice (cfg : ManagerConfig) (start : World) (acts : List Action) (id : LeaseId) : Prop :=
  ∃ before a between b later u v, acts = before ++ (a :: between) ++ (b :: later) ∧
    exec cfg start before = some u ∧ exec cfg u (a :: between) = some v ∧
    u.circuitSignal id a = some .failure ∧ v.circuitSignal id b = some .failure ∧
    Execution.Along (step cfg) (KeepsStreak id) u (a :: between) ∧
    Execution.Along (step cfg) (Unverified id) v (b :: later)

/-- Everything that the circuit saw while the streak was kept is a miss. -/
theorem failure_of_keepsStreak {cfg : ManagerConfig} {u v : World} {acts : List Action}
    {id : LeaseId} (run : exec cfg u acts = some v)
    (kept : Execution.Along (step cfg) (KeepsStreak id) u acts) :
    ∀ s ∈ Execution.trace (step cfg) (fun x a => x.circuitSignal id a) u acts, s = .failure := by
  intro s seen
  obtain ⟨before, a, after, x, y, split, reached, -, observed⟩ :=
    Execution.exists_step_of_mem_trace run seen
  subst split
  have streak := kept.step reached
  cases s with
  | failure => rfl
  | success => exact absurd observed streak.1
  | reset => exact absurd observed streak.2

theorem unreset_of_unverified {cfg : ManagerConfig} {u v : World} {acts : List Action}
    {id : LeaseId} (run : exec cfg u acts = some v)
    (unverified : Execution.Along (step cfg) (Unverified id) u acts) :
    .reset ∉ Execution.trace (step cfg) (fun x a => x.circuitSignal id a) u acts := by
  intro seen
  obtain ⟨before, a, after, x, y, split, reached, -, observed⟩ :=
    Execution.exists_step_of_mem_trace run seen
  subst split
  exact unverified.step reached observed

/-- After two misses in a row, and until a verified completion, the circuit is open. -/
theorem isOpen_of_missedTwice {cfg : ManagerConfig} {start w : World} {acts : List Action}
    {id : LeaseId} (run : exec cfg start acts = some w) (missed : MissedTwice cfg start acts id) :
    (w.breakerOf id).isOpen = true := by
  obtain ⟨before, a, between, b, later, u, v, rfl, first, middle, missA, missB, kept, unverified⟩ :=
    missed
  have reached := Execution.exec_append_eq_some.2 ⟨u, first, middle⟩
  obtain ⟨x, same, last⟩ := Execution.exec_append_eq_some.1 run
  rw [reached] at same
  cases same
  obtain ⟨u', stepA, tailA⟩ := Execution.exec_cons_eq_some.1 middle
  obtain ⟨v', stepB, tailB⟩ := Execution.exec_cons_eq_some.1 last
  have early := failure_of_keepsStreak middle kept
  have late := unreset_of_unverified tailB (unverified.2 v' stepB)
  have seenA : Execution.trace (step cfg) (fun x e => x.circuitSignal id e) u (a :: between) =
      .failure :: Execution.trace (step cfg) (fun x e => x.circuitSignal id e) u' between := by
    rw [Execution.trace_cons stepA, missA]
    rfl
  have seenB : Execution.trace (step cfg) (fun x e => x.circuitSignal id e) v (b :: later) =
      [.failure] ++ Execution.trace (step cfg) (fun x e => x.circuitSignal id e) v' later := by
    rw [Execution.trace_cons stepB, missB]
    rfl
  rw [run_breaker id last, run_breaker id middle, seenB, ← List.foldl_append, ← List.append_assoc]
  apply Breaker.isOpen_of_streak _ _ (by decide) late
  · intro s seen
    rcases List.mem_append.1 seen with old | new
    · exact early s old
    · simpa using new
  · rw [seenA]
    simp

/-- The steps that only concern completions without a verdict, targets, and declined warms. -/
def Action.leavesCircuit : Action → Bool
  | .afterNormalRequest _ outcome => !outcome.isVerified
  | .targetStarted _ _ | .targetFinished _ _ => true
  | .executeReturns _ answer => answer.toWarmResult.outcome.isNone
  | _ => false

theorem circuitSignal_of_leavesCircuit {a : Action} (leaves : a.leavesCircuit = true) (w : World)
    (id : LeaseId) : w.circuitSignal id a = none := by
  cases a with
  | afterNormalRequest j outcome =>
      have unverified : outcome.isVerified = false := by
        simpa [Action.leavesCircuit] using leaves
      cases known : w.lease? id with
      | none => simp [World.circuitSignal, known]
      | some t => simp [World.circuitSignal, known, unverified]
  | executeReturns tid answer =>
      have declined : answer.toWarmResult.outcome = none := by
        simpa [Action.leavesCircuit] using leaves
      simp [World.circuitSignal, declined]
  | targetStarted j targetId => rfl
  | targetFinished j targetId => rfl
  | _ => cases leaves

/-- The circuit breaker, in every world that a run from the start reaches. The circuit of a lease is open
    exactly from two consecutive misses on. After two misses in a row no step sends a warm for the lease
    until a verified completion. And each step moves the counter and the flag of a lease by its signal
    only: completions without a verdict, target events and declined warms leave both alone. -/
theorem circuit_breaker_bound {cfg : ManagerConfig} {start w : World} {acts : List Action}
    (initial : start.Initial) (run : exec cfg start acts = some w) :
    (∀ id t, w.lease? id = some t →
      (t.runtime.circuitOpen = true ↔ 2 ≤ t.runtime.consecutiveWarmMisses)) ∧
    (∀ id, MissedTwice cfg start acts id → ∀ a w' tid, step cfg w a = some w' →
      ¬ WarmSent w w' tid id) ∧
    (∀ a w', step cfg w a = some w' → ∀ id t, w.lease? id = some t →
      ∃ t', w'.lease? id = some t' ∧
        t'.breaker = observeCircuit t.breaker (w.circuitSignal id a) ∧
        (a.leavesCircuit = true →
          t'.runtime.consecutiveWarmMisses = t.runtime.consecutiveWarmMisses ∧
          t'.runtime.circuitOpen = t.runtime.circuitOpen)) := by
  refine ⟨?_, ?_, ?_⟩
  · intro id t known
    have consistent := (run_circuitConsistent initial run).2 id
    rw [breakerOf_eq known] at consistent
    exact consistent
  · intro id missed a w' tid stepped sent
    obtain ⟨-, t, fp, g, known, -, cleared⟩ := warmSent_sends stepped sent
    have opened := isOpen_of_missedTwice run missed
    rw [breakerOf_eq known] at opened
    have closed : t.breaker.isOpen = false := cleared.closed
    rw [opened] at closed
    cases closed
  · intro a w' stepped id t known
    obtain ⟨t', known', change⟩ := step_change stepped known
    have moved := change.breaker known
    refine ⟨t', known', moved, ?_⟩
    intro leaves
    rw [circuitSignal_of_leavesCircuit leaves w id] at moved
    exact ⟨congrArg Breaker.failures moved, congrArg Breaker.isOpen moved⟩

/-- The evaluation by this task of the due lease, up to its warm's answer. -/
def sampleWarm (tid : TaskId) (answer : ExecuteResult) : List Action :=
  [.evaluateLease tid 0, .resume tid, .executeReturns tid answer]

/-- Two warms of the due lease miss, one by an answer and one by an exception; a third is evaluated. -/
def sampleTripped : List Action :=
  sampleDue ++ sampleWarm 0 (.returned { outcome := some .successUnverified }) ++
    sampleWarm 1 .raised ++ [.evaluateLease 2 0]

/-- The third evaluation of that run sends nothing. -/
theorem circuit_breaker_bound_sample :
    ¬ WarmSent (sampleAt sampleTripped) (sampleAt (sampleTripped ++ [.resume 2])) 2 0 := by
  have run : exec sampleConfig {} sampleTripped = some (sampleAt sampleTripped) :=
    exec_sampleAt (by decide +kernel)
  apply (circuit_breaker_bound World.initial_empty run).2.1 0 _ (.resume 2)
  · exact Execution.step_final (by decide +kernel)
  · exact ⟨sampleDue ++ [.evaluateLease 0 0, .resume 0],
      .executeReturns 0 (.returned { outcome := some .successUnverified }),
      [.evaluateLease 1 0, .resume 1], .executeReturns 1 .raised, [.evaluateLease 2 0], _, _, rfl,
      Execution.exec_eq_final (by decide +kernel), Execution.exec_eq_final (by decide +kernel),
      by decide +kernel, by decide +kernel, by decide +kernel, by decide +kernel⟩

end CachePilot
