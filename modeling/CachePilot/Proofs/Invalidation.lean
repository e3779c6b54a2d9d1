/-
Module: CachePilot.Proofs.Invalidation
Layer: Proofs
Purpose: INVALIDATED as a terminal state. Most operations respect it; four do not look. Completing the
  lease and finishing its last target disarm it, a waiter that resumes at the lock sends its warm, and a
  warm that was in flight touches it when it returns. `disturbsInvalid` names these steps from the state
  before them, and a run keeps an invalid lease as it was exactly when it has none of them.
Trusted boundary: none
Main exports: disturbsInvalid, step_keeps_invalid_iff, invalid_absorbing_iff
-/
import CachePilot.Proofs.Tasks

namespace CachePilot

/-- The step disturbs the lease if it is invalid: it disarms it, sends its warm, or touches its cache. -/
def disturbsInvalid (cfg : ManagerConfig) (id : LeaseId) (w : World) (a : Action) : Bool :=
  match w.lease? id with
  | none => false
  | some t =>
      match a with
      | .complete j => j == id
      | .targetFinished j targetId =>
          j == id && targetId != "" && decide (t.lease.activeTargets.erase targetId = ∅)
      | .resume tid =>
          match w.pointOf tid with
          | some (.atLock j _ g) => j == id && (underLock cfg w.snapshots t g).isOk
          | _ => false
      | .executeReturns tid answer =>
          w.inFlight tid == some id && answer.toWarmResult.touchesCache &&
            t.lease.lastCacheTouchAt != some w.clock
      | _ => false

/-- The lease is invalid, with this last touch. -/
def World.InvalidWith (w : World) (id : LeaseId) (touch : Option ℚ) : Prop :=
  ∃ t, w.lease? id = some t ∧ t.lease.state = .invalidated ∧ t.lease.lastCacheTouchAt = touch

instance (w : World) (id : LeaseId) (touch : Option ℚ) : Decidable (w.InvalidWith id touch) :=
  match known : w.lease? id with
  | none => .isFalse (by simp [World.InvalidWith, known])
  | some t =>
      decidable_of_iff (t.lease.state = .invalidated ∧ t.lease.lastCacheTouchAt = touch)
        (by simp [World.InvalidWith, known])

theorem arm_invalid {lease : CacheLease} (dead : lease.state = .invalidated) : lease.arm = lease := by
  unfold CacheLease.arm
  rw [if_pos dead]

/-- An operation that disturbs nothing leaves an invalid lease invalid, with its last touch. -/
theorem Operation.keeps_invalid {cfg : ManagerConfig} {w : World} {id : LeaseId} {a : Action}
    {f : TrackedLease → TrackedLease} {t : TrackedLease} (operation : Operation cfg w.clock id a f)
    (known : w.lease? id = some t) (dead : t.lease.state = .invalidated)
    (spared : disturbsInvalid cfg id w a = false) :
    (f t).lease.state = .invalidated ∧ (f t).lease.lastCacheTouchAt = t.lease.lastCacheTouchAt := by
  cases operation with
  | arm =>
      rw [TrackedLease.arm, arm_invalid dead]
      exact ⟨dead, rfl⟩
  | invalidate => exact ⟨rfl, rfl⟩
  | complete => simp [disturbsInvalid, known] at spared
  | targetStarted targetId =>
      rcases eq_or_ne targetId "" with rfl | named
      · exact ⟨dead, rfl⟩
      · rw [TrackedLease.targetStarted_named named]
        constructor
        · simp [dead]
        · rfl
  | targetFinished targetId =>
      rcases eq_or_ne targetId "" with rfl | named
      · exact ⟨dead, rfl⟩
      · have others : t.lease.activeTargets.erase targetId ≠ ∅ := by
          simpa [disturbsInvalid, known, named] using spared
        rw [TrackedLease.targetFinished_named named]
        constructor
        · simp [others, dead]
        · rfl
  | beforeNormalRequest => exact ⟨dead, rfl⟩
  | afterNormalRequest outcome =>
      rw [TrackedLease.afterNormalRequest_of_unrefreshed (Or.inl dead)]
      exact ⟨dead, rfl⟩
  | refreshTtl answer =>
      rw [TrackedLease.refreshTtl_frame]
      exact ⟨dead, rfl⟩
  | reconcileRoute routeHash => exact ⟨dead, rfl⟩
  | updateCostEstimates usage =>
      rw [TrackedLease.updateCostEstimates_frame]
      exact ⟨dead, rfl⟩

/-- A step that disturbs nothing leaves an invalid lease invalid, with its last touch. -/
theorem LeaseEffect.keeps_invalid {cfg : ManagerConfig} {w : World} {id : LeaseId} {a : Action}
    {t t' : TrackedLease} (effect : LeaseEffect cfg w id t a t') (known : w.lease? id = some t)
    (dead : t.lease.state = .invalidated) (spared : disturbsInvalid cfg id w a = false) :
    t'.lease.state = .invalidated ∧ t'.lease.lastCacheTouchAt = t.lease.lastCacheTouchAt := by
  cases effect with
  | other elsewhere registry => exact ⟨dead, rfl⟩
  | kept keeps => exact ⟨dead, rfl⟩
  | superseded missing switched => exact ⟨rfl, rfl⟩
  | operated operation => exact operation.keeps_invalid known dead spared
  | decided here ready queued runs =>
      cases evaluated_of_runs runs with
      | stopped decision other => exact ⟨dead, rfl⟩
      | scheduled guards => exact absurd dead guards.valid
      | uneconomic guards => exact absurd dead guards.valid
      | stale guards => exact absurd dead guards.valid
  | authorised here ready queued authorised => exact absurd dead authorised.valid
  | sentAtOnce here ready queued authorised passed => exact absurd dead authorised.valid
  | refusedAtLock here waiting refused => exact ⟨dead, rfl⟩
  | sentAtLock here waiting passed =>
      have place := World.pointOf_eq here
      rw [waiting] at place
      simp [disturbsInvalid, known, place, passed, Except.isOk, Except.toBool] at spared
  | returned here inside =>
      have flying := World.inFlight_of_inside here inside
      rw [finishWarm_state, finishWarm_touch, if_pos dead]
      refine ⟨rfl, ?_⟩
      split
      · rename_i touches
        have current : t.lease.lastCacheTouchAt = some w.clock := by
          simpa [disturbsInvalid, known, flying, touches] using spared
        exact current.symm
      · rfl
  | cancelledWarm here inside =>
      rw [endWarm, arm_invalid dead]
      exact ⟨dead, rfl⟩

/-- A disturbing step is about the lease. -/
theorem disturbsInvalid_subject {cfg : ManagerConfig} {id : LeaseId} {w : World} {a : Action}
    (disturbed : disturbsInvalid cfg id w a = true) : a.subject w = some id := by
  unfold disturbsInvalid at disturbed
  split at disturbed
  · cases disturbed
  rename_i t known
  cases a with
  | complete j =>
      have same : j = id := by simpa using disturbed
      rw [same]
      rfl
  | targetFinished j targetId =>
      simp only [Bool.and_eq_true, beq_iff_eq] at disturbed
      rw [disturbed.1.1]
      rfl
  | resume tid =>
      dsimp only at disturbed
      split at disturbed
      · rename_i j fp g place
        obtain ⟨task, here, waiting⟩ := Option.map_eq_some_iff.1 place
        simp only [Bool.and_eq_true, beq_iff_eq] at disturbed
        simp only [Action.subject, here, waiting, disturbed.1]
      · cases disturbed
  | executeReturns tid answer =>
      simp only [Bool.and_eq_true, beq_iff_eq] at disturbed
      exact subject_of_inFlight disturbed.1.1 answer
  | _ => cases disturbed

private theorem ready_undisturbed {cfg : ManagerConfig} {id : LeaseId} {w : World} {tid : TaskId}
    {task : EvaluationTask} (here : w.task? tid = some task) (ready : task.point = .ready) :
    disturbsInvalid cfg id w (.resume tid) = false := by
  have place := World.pointOf_eq here
  rw [ready] at place
  unfold disturbsInvalid
  split
  · rfl
  · simp only [place]

/-- A disturbing operation takes the lease out of INVALIDATED. -/
theorem Operation.disturbs_invalid {cfg : ManagerConfig} {w : World} {id : LeaseId} {a : Action}
    {f : TrackedLease → TrackedLease} {t : TrackedLease} (operation : Operation cfg w.clock id a f)
    (known : w.lease? id = some t) (disturbed : disturbsInvalid cfg id w a = true) :
    (f t).lease.state ≠ .invalidated := by
  cases operation with
  | complete =>
      intro absurdity
      cases absurdity
  | targetFinished targetId =>
      simp only [disturbsInvalid, known, Bool.and_eq_true, bne_iff_ne, decide_eq_true_eq]
        at disturbed
      obtain ⟨⟨-, named⟩, last⟩ := disturbed
      rw [TrackedLease.targetFinished_named named]
      intro absurdity
      rw [if_pos last] at absurdity
      cases absurdity
  | _ => simp [disturbsInvalid, known] at disturbed

/-- A step that disturbs an invalid lease changes its state or its last touch. -/
theorem LeaseEffect.disturbs_invalid {cfg : ManagerConfig} {w : World} {id : LeaseId}
    {a : Action} {t t' : TrackedLease} (effect : LeaseEffect cfg w id t a t')
    (known : w.lease? id = some t) (disturbed : disturbsInvalid cfg id w a = true) :
    t'.lease.state ≠ .invalidated ∨ t'.lease.lastCacheTouchAt ≠ t.lease.lastCacheTouchAt := by
  cases effect with
  | other elsewhere registry => exact absurd (disturbsInvalid_subject disturbed) elsewhere
  | kept keeps => simp [disturbsInvalid, known] at disturbed
  | superseded missing switched => simp [disturbsInvalid, known] at disturbed
  | operated operation => exact Or.inl (operation.disturbs_invalid known disturbed)
  | decided here ready queued runs =>
      rw [ready_undisturbed here ready] at disturbed
      cases disturbed
  | authorised here ready queued authorised =>
      rw [ready_undisturbed here ready] at disturbed
      cases disturbed
  | sentAtOnce here ready queued authorised passed =>
      rw [ready_undisturbed here ready] at disturbed
      cases disturbed
  | refusedAtLock here waiting refused =>
      have place := World.pointOf_eq here
      rw [waiting] at place
      simp [disturbsInvalid, known, place, refused, Except.isOk, Except.toBool] at disturbed
  | sentAtLock here waiting passed =>
      apply Or.inl
      intro absurdity
      cases absurdity
  | @returned tid task fp snapshot answer here inside =>
      simp only [disturbsInvalid, known, Bool.and_eq_true, bne_iff_ne] at disturbed
      obtain ⟨⟨-, touches⟩, moved⟩ := disturbed
      rw [finishWarm_touch, if_pos touches]
      exact Or.inr moved.symm
  | cancelledWarm here inside => simp [disturbsInvalid, known] at disturbed

/-! ### Runs -/

/-- One step keeps an invalid lease invalid and untouched, and sends no warm for it, exactly when it
    disturbs nothing. -/
theorem step_keeps_invalid_iff {cfg : ManagerConfig} {w w' : World} {a : Action} {id : LeaseId}
    {touch : Option ℚ} (stepped : step cfg w a = some w') (invalid : w.InvalidWith id touch) :
    (w'.InvalidWith id touch ∧ ∀ tid, ¬ WarmSent w w' tid id) ↔
      disturbsInvalid cfg id w a = false := by
  obtain ⟨t, known, dead, touched⟩ := invalid
  obtain ⟨t', known', effect⟩ := step_effect stepped known
  constructor
  · rintro ⟨⟨x, found, still, untouched⟩, unsent⟩
    rw [known'] at found
    cases found
    cases disturbed : disturbsInvalid cfg id w a with
    | false => rfl
    | true =>
        rcases effect.disturbs_invalid known disturbed with alive | moved
        · exact absurd still alive
        · exact absurd (untouched.trans touched.symm) moved
  · intro spared
    obtain ⟨still, untouched⟩ := effect.keeps_invalid known dead spared
    refine ⟨⟨t', known', still, untouched.trans touched⟩, ?_⟩
    intro tid sent
    obtain ⟨rfl, x, fp, g, found, sends, cleared⟩ := warmSent_sends stepped sent
    rw [known] at found
    cases found
    cases sends with
    | atOnce here ready queued same authorised free => exact authorised.valid dead
    | atLock waiting first =>
        obtain ⟨snapshot, stored⟩ := cleared.snapshot
        have passed := underLock_eq_ok_iff.2 ⟨cleared, stored⟩
        rw [World.WaitsAt] at waiting
        simp [disturbsInvalid, known, waiting, passed, Except.isOk, Except.toBool] at spared

/-- INVALIDATED is absorbing in a run exactly when no step of it disturbs the invalid lease: then, and
    only then, the lease stays invalid to the end, its warm is never sent, and its last touch stays. -/
theorem invalid_absorbing_iff {cfg : ManagerConfig} {start w : World} {acts : List Action}
    {id : LeaseId} {touch : Option ℚ} (invalid : start.InvalidWith id touch)
    (run : exec cfg start acts = some w) :
    Execution.EveryStep (step cfg)
        (fun u _ v => v.InvalidWith id touch ∧ ∀ tid, ¬ WarmSent u v tid id) start acts ↔
      Execution.Along (step cfg) (fun u a => disturbsInvalid cfg id u a = false) start acts := by
  apply Execution.everyStep_iff_along (P := fun u => u.InvalidWith id touch)
    (Q := fun u _ v => ∀ tid, ¬ WarmSent u v tid id) invalid run
  intro before a after u v split reached stepped held
  exact step_keeps_invalid_iff stepped held

/-- The due lease of the sample run is invalidated before its evaluation begins. -/
def sampleInvalid : List Action := sampleReady ++ [.invalidate 0]

/-- An evaluation and a normal request leave the invalid lease of the sample run as it is. -/
theorem invalid_absorbing_iff_sample :
    Execution.EveryStep (step sampleConfig)
      (fun u _ v => v.InvalidWith 0 (some 0) ∧ ∀ tid, ¬ WarmSent u v tid 0)
      (sampleAt sampleInvalid)
      [.resume 0, .beforeNormalRequest 0, .afterNormalRequest 0 .confirmedHit] :=
  (invalid_absorbing_iff (by decide +kernel) (Execution.exec_eq_final (by decide +kernel))).2
    (by decide +kernel)

/-- The waiter's lease is invalidated, and the warm that held the lock is declined. -/
def sampleInvalidWaiter : List Action :=
  sampleShared ++ [.invalidate 1, .executeReturns 0 (.returned { outcome := none })]

/-- The lease is invalidated while its warm is in flight. -/
def sampleInvalidWarm : List Action := sampleReady ++ [.resume 0, .invalidate 0]

/-- An invalid lease comes back: completing it makes it INACTIVE and the next target arms it, a waiter at
    the lock sends its warm and leaves it WARMING, and a warm in flight touches it on its return. -/
theorem invalid_lease_revived :
    (exec sampleConfig {} sampleInvalid).map (fun w => decide (w.InvalidWith 0 (some 0))) =
      some true ∧
    (exec sampleConfig {} (sampleInvalid ++ [.complete 0, .targetStarted 0 "bg-1"])).map
      (fun w => (w.lease? 0).map fun t => t.lease.state) = some (some .armed) ∧
    (exec sampleConfig {} sampleInvalidWaiter).map
      (fun w => decide (w.InvalidWith 1 (some 0))) = some true ∧
    WarmSent (sampleAt sampleInvalidWaiter) (sampleAt (sampleInvalidWaiter ++ [.resume 1])) 1 1 ∧
    (exec sampleConfig {} (sampleInvalidWaiter ++ [.resume 1])).map
      (fun w => (w.lease? 1).map fun t => t.lease.state) = some (some .warming) ∧
    (exec sampleConfig {} sampleInvalidWarm).map
      (fun w => decide (w.InvalidWith 0 (some 0))) = some true ∧
    (exec sampleConfig {}
      (sampleInvalidWarm ++
        [.executeReturns 0 (.returned { outcome := some .confirmedHit })])).map
      (fun w => decide (w.InvalidWith 0 (some 1000))) = some true := by
  decide +kernel

/-- Without them the invalid lease stays as it is through a tick and a normal request. -/
example :
    (exec sampleConfig {} (sampleInvalid ++ [.beforeNormalRequest 0, .afterNormalRequest 0 .confirmedHit])).map
      (fun w => decide (w.InvalidWith 0 (some 0))) = some true := by
  decide +kernel

end CachePilot
