/-
Module: CachePilot.Proofs.Deadlines
Layer: Proofs
Purpose: How long a touched lease rests. The deadline is the touch plus a wait, and the wait is positive
  exactly when the estimated TTL is longer than the network margin and the jitter leaves something of it.
  While a lease rests every evaluation that begins finds it not due, so in a stretch of a run no warm of it
  is sent, however many evaluations begin there. A lease whose TTL the margin uses up is due again at the
  time of its touch.
Trusted boundary: none
Main exports: waitAfterTouch, nextDeadline_eq, Spaced, waitAfterTouch_pos_iff, World.Resting,
  touched_leases_rest
-/
import Mathlib.Algebra.Order.Field.Basic
import CachePilot.Proofs.Tasks

namespace CachePilot

/-! ### The wait after a touch -/

/-- The time from a touch to the deadline. -/
def waitAfterTouch (cfg : ManagerConfig) (lease : CacheLease) : ℚ :=
  let ttl := max lease.estimatedTtlS 0
  min (ttl * cfg.settings.warmFraction) (ttl - networkMargin cfg) *
    (1 + jitterFor cfg lease.cacheFingerprint)

/-- The deadline is the last touch and the wait. -/
theorem nextDeadline_eq (cfg : ManagerConfig) (lease : CacheLease) :
    nextDeadline cfg lease = lease.lastCacheTouchAt.map (· + waitAfterTouch cfg lease) := by
  unfold nextDeadline waitAfterTouch
  cases lease.lastCacheTouchAt with
  | none => rfl
  | some touch =>
      rw [Option.map_some]
      dsimp only
      rw [add_sub_assoc, min_add_add_left, add_sub_cancel_left]

/-- The estimated TTL is longer than the network margin, and the jitter is not the whole wait: a fraction
    of one is, for a digest that begins with eight zero bytes. -/
structure Spaced (cfg : ManagerConfig) (lease : CacheLease) : Prop where
  margin : networkMargin cfg < lease.estimatedTtlS
  jitter : cfg.settings.jitterFraction < 1 ∨ cfg.digestPrefix lease.cacheFingerprint ≠ 0

theorem networkMargin_nonneg (cfg : ManagerConfig) : 0 ≤ networkMargin cfg :=
  cfg.settings.minimumMarginS_nonneg.trans (le_max_left _ _)

/-- What the jitter leaves of the wait: all but its fraction, and as much of that as the digest says. -/
theorem jitter_scale (cfg : ManagerConfig) (fp : String) :
    1 + jitterFor cfg fp = (1 - cfg.settings.jitterFraction) +
      2 * (((cfg.digestPrefix fp).val : ℚ) / 2 ^ 64) * cfg.settings.jitterFraction := by
  unfold jitterFor
  ring

theorem jitter_scale_nonneg (cfg : ManagerConfig) (fp : String) : 0 ≤ 1 + jitterFor cfg fp := by
  have fraction : 0 ≤ cfg.settings.jitterFraction := cfg.settings.jitterFraction_nonneg
  have rest : 0 ≤ 1 - cfg.settings.jitterFraction := sub_nonneg.2 cfg.settings.jitterFraction_le_one
  rw [jitter_scale]
  positivity

/-- The jitter takes the whole wait only in one case. -/
theorem jitter_scale_pos_iff (cfg : ManagerConfig) (fp : String) :
    0 < 1 + jitterFor cfg fp ↔ cfg.settings.jitterFraction < 1 ∨ cfg.digestPrefix fp ≠ 0 := by
  have fraction : 0 ≤ cfg.settings.jitterFraction := cfg.settings.jitterFraction_nonneg
  rw [jitter_scale]
  rcases cfg.settings.jitterFraction_le_one.lt_or_eq with partly | whole
  · have rest : 0 < 1 - cfg.settings.jitterFraction := sub_pos.2 partly
    simp only [partly, true_or, iff_true]
    positivity
  · rw [whole, sub_self, zero_add, mul_one]
    simp only [lt_irrefl, false_or]
    constructor
    · rintro positive zero
      rw [zero] at positive
      exact absurd positive (by norm_num)
    · intro nonzero
      have counted : 0 < (cfg.digestPrefix fp).val := Nat.pos_of_ne_zero (Fin.val_ne_zero_iff.2 nonzero)
      positivity

/-- The wait is positive exactly when the TTL leaves room for it. -/
theorem waitAfterTouch_pos_iff (cfg : ManagerConfig) (lease : CacheLease) :
    0 < waitAfterTouch cfg lease ↔ Spaced cfg lease := by
  have margin : 0 ≤ networkMargin cfg := networkMargin_nonneg cfg
  have scale := jitter_scale_nonneg cfg lease.cacheFingerprint
  have positive := jitter_scale_pos_iff cfg lease.cacheFingerprint
  unfold waitAfterTouch
  dsimp only
  constructor
  · intro waits
    have left : 0 < 1 + jitterFor cfg lease.cacheFingerprint :=
      scale.lt_of_ne' (right_ne_zero_of_mul waits.ne')
    have room := (pos_iff_pos_of_mul_pos waits).2 left
    have beyond : networkMargin cfg < max lease.estimatedTtlS 0 :=
      sub_pos.1 (room.trans_le (min_le_right _ _))
    refine ⟨?_, positive.1 left⟩
    rcases lt_max_iff.1 beyond with longer | negative
    · exact longer
    · exact absurd negative margin.not_gt
  · rintro ⟨longer, jitter⟩
    have ttl : 0 < lease.estimatedTtlS := margin.trans_lt longer
    have fraction : 0 < lease.estimatedTtlS * cfg.settings.warmFraction :=
      mul_pos ttl cfg.settings.warmFraction_pos
    rw [max_eq_left ttl.le]
    exact mul_pos (lt_min fraction (sub_pos.2 longer)) (positive.2 jitter)

/-- A touched lease is not due at the time of the touch exactly when its TTL leaves room for a wait. -/
theorem touch_lt_nextDeadline_iff {cfg : ManagerConfig} {lease : CacheLease} {touch : ℚ}
    (touched : lease.lastCacheTouchAt = some touch) :
    (∃ dueAt, nextDeadline cfg lease = some dueAt ∧ touch < dueAt) ↔ Spaced cfg lease := by
  rw [nextDeadline_eq, touched, ← waitAfterTouch_pos_iff]
  simp

/-! ### A lease at rest -/

namespace World

/-- The lease has been touched, and its wait is not over. -/
structure Resting (cfg : ManagerConfig) (id : LeaseId) (w : World) : Prop where
  rests : ∃ t touch, w.lease? id = some t ∧ t.lease.lastCacheTouchAt = some touch ∧
    w.clock < touch + waitAfterTouch cfg t.lease

/-- No evaluation goes on to the lock for a lease at rest. -/
theorem Resting.not_authorised {cfg : ManagerConfig} {id : LeaseId} {w : World}
    (resting : w.Resting cfg id) {t t' : TrackedLease} {g : ℕ} (known : w.lease? id = some t) :
    ¬ Authorised cfg w.clock t t' g := by
  intro authorised
  obtain ⟨t₀, touch, known₀, touched, early⟩ := resting.rests
  rw [known] at known₀
  cases known₀
  obtain ⟨dueAt, deadline, due⟩ := authorised.due
  rw [nextDeadline_eq, touched, Option.map_some, Option.some.injEq] at deadline
  rw [← deadline] at due
  exact absurd early due.not_gt

end World

/-- An evaluation of a lease at rest ends without going on to the lock. -/
theorem evaluation_rests {cfg : ManagerConfig} {w w' : World} {id : LeaseId} {tid : TaskId}
    {task : EvaluationTask} {rest : List LeaseId} (resting : w.Resting cfg id)
    (here : w.task? tid = some task) (ready : task.point = .ready) (queued : task.queue = id :: rest)
    (stepped : step cfg w (.resume tid) = some w') : w'.pointOf tid = some .ready := by
  have effect := step_point stepped tid
  generalize point : w'.pointOf tid = p at effect
  cases effect with
  | untouched elsewhere => exact absurd rfl elsewhere
  | readied => rfl
  | waits here' ready' queued' known authorised consumed busy =>
      rw [here] at here'
      cases here'
      rw [queued] at queued'
      cases queued'
      exact absurd authorised (resting.not_authorised known)
  | sent known sends cleared =>
      cases sends with
      | atOnce here' ready' queued' same authorised free =>
          rw [here] at here'
          cases here'
          rw [queued] at queued'
          cases queued'
          exact absurd authorised (resting.not_authorised known)
      | atLock waiting first =>
          rw [World.WaitsAt, World.pointOf_eq here, ready] at waiting
          cases waiting

/-- A task that does not wait for a lease at rest does not come to wait for it, nor sends its warm. -/
theorem step_resting {cfg : ManagerConfig} {w w' : World} {a : Action} {id : LeaseId} {tid : TaskId}
    (resting : w.Resting cfg id) (stepped : step cfg w a = some w')
    (away : ∀ fp g, ¬ w.WaitsAt tid id fp g) :
    (∀ fp g, ¬ w'.WaitsAt tid id fp g) ∧ ¬ WarmSent w w' tid id := by
  constructor
  · intro fp g waiting
    have effect := step_point stepped tid
    rw [World.WaitsAt] at waiting
    rw [waiting] at effect
    generalize point : some (TaskPoint.atLock id fp g) = p at effect
    cases effect with
    | untouched elsewhere => exact away fp g point.symm
    | readied => cases point
    | waits here ready queued known authorised consumed busy =>
        cases point
        exact resting.not_authorised known authorised
    | sent known sends cleared => cases point
  · intro sent
    obtain ⟨-, t, fp, g, known, sends, -⟩ := warmSent_sends stepped sent
    cases sends with
    | atOnce here ready queued same authorised free => exact resting.not_authorised known authorised
    | atLock waiting first => exact away fp g waiting

/-- In a stretch of a run in which the lease rests, no task sends a warm for it that was not already waiting
    to do so at the start. -/
theorem run_resting {cfg : ManagerConfig} {w : World} {acts : List Action} {id : LeaseId} {tid : TaskId}
    (resting : Execution.Along (step cfg) (fun u _ => u.Resting cfg id) w acts)
    (away : ∀ fp g, ¬ w.WaitsAt tid id fp g) {before after : List Action} {a : Action} {u v : World}
    (split : acts = before ++ a :: after) (reached : exec cfg w before = some u)
    (stepped : step cfg u a = some v) : ¬ WarmSent u v tid id := by
  subst split
  have still : ∀ fp g, ¬ u.WaitsAt tid id fp g := by
    apply Execution.history_invariant (R := fun _ x => ∀ fp g, ¬ x.WaitsAt tid id fp g) away _ reached
    rintro early b late x y rfl passed moved quiet
    have rests : x.Resting cfg id := resting.left.step passed
    exact (step_resting rests moved quiet).1
  exact (step_resting (resting.step reached) stepped still).2

/-- A touched lease rests exactly when its TTL leaves room for a wait. The deadline is then after the touch,
    so an evaluation that begins at the clock time of the touch ends without a warm; and in a stretch of a
    run in which the lease rests no task sends a warm for it, unless it was already waiting to do so. -/
theorem touched_leases_rest (cfg : ManagerConfig) {w : World} {id : LeaseId} {t : TrackedLease}
    {touch : ℚ} (known : w.lease? id = some t) (touched : t.lease.lastCacheTouchAt = some touch) :
    ((∃ dueAt, nextDeadline cfg t.lease = some dueAt ∧ touch < dueAt) ↔ Spaced cfg t.lease) ∧
      (Spaced cfg t.lease → w.clock = touch →
        w.Resting cfg id ∧
          ∀ tid task rest w', w.task? tid = some task → task.point = .ready →
            task.queue = id :: rest → step cfg w (.resume tid) = some w' →
            w'.pointOf tid = some .ready) ∧
      ∀ tid acts, (∀ fp g, ¬ w.WaitsAt tid id fp g) →
        Execution.Along (step cfg) (fun u _ => u.Resting cfg id) w acts →
        ∀ before a after u v, acts = before ++ a :: after → exec cfg w before = some u →
          step cfg u a = some v → ¬ WarmSent u v tid id := by
  refine ⟨touch_lt_nextDeadline_iff touched, ?_, ?_⟩
  · rintro spaced now
    have waits : 0 < waitAfterTouch cfg t.lease := (waitAfterTouch_pos_iff cfg t.lease).2 spaced
    have early : w.clock < touch + waitAfterTouch cfg t.lease := by
      rw [now]
      exact lt_add_of_pos_right touch waits
    have resting : w.Resting cfg id := ⟨t, touch, known, touched, early⟩
    refine ⟨resting, ?_⟩
    intro tid task rest w' here ready queued stepped
    exact evaluation_rests resting here ready queued stepped
  · intro tid acts away resting before a after u v split reached stepped
    exact run_resting resting away split reached stepped

/-- The lease of the sample run has just been touched, with a TTL of five minutes. -/
theorem touched_leases_rest_sample :
    ∃ t, (sampleAt (sampleCreate "s" "fp" :: sampleTouch 0 "fp")).lease? 0 = some t ∧
      ∃ dueAt, nextDeadline sampleConfig t.lease = some dueAt ∧ 0 < dueAt := by
  have known : ((sampleAt (sampleCreate "s" "fp" :: sampleTouch 0 "fp")).lease? 0).isSome = true := by
    decide +kernel
  obtain ⟨t, found⟩ := Option.isSome_iff_exists.1 known
  have read : ((sampleAt (sampleCreate "s" "fp" :: sampleTouch 0 "fp")).lease? 0).map
      (fun t => (t.lease.lastCacheTouchAt, t.lease.estimatedTtlS)) = some (some 0, 300) := by
    decide +kernel
  rw [found, Option.map_some, Option.some.injEq, Prod.mk.injEq] at read
  have spaced : Spaced sampleConfig t.lease := by
    refine ⟨?_, Or.inl (by decide +kernel)⟩
    rw [read.2]
    decide +kernel
  exact ⟨t, found, (touched_leases_rest sampleConfig found read.1).1.2 spaced⟩

/-- A lease whose TTL of two seconds is shorter than the network margin has been touched, and a task warmed
    it at once. -/
def sampleTight : List Action :=
  .findOrCreateLease (sampleIdentity "s" "fp") (some 2) (1 / 2) .noResolver :: sampleTouch 0 "fp" ++
    [.evaluateLease 0 0, .resume 0,
      .executeReturns 0 (.returned { outcome := some .confirmedHit }), .evaluateLease 1 0]

/-- It is due at the time of its touch, and the next evaluation sends the next warm without any time having
    passed. -/
theorem tight_lease_warmed_again :
    (¬ ∀ w id t touch, Reachable sampleConfig w → w.lease? id = some t →
      t.lease.lastCacheTouchAt = some touch → 0 < t.lease.estimatedTtlS →
      ∃ dueAt, nextDeadline sampleConfig t.lease = some dueAt ∧ touch < dueAt) ∧
    exec sampleConfig {} sampleTight = some (sampleAt sampleTight) ∧
    ((sampleAt sampleTight).lease? 0).map (fun t => (t.lease.lastCacheTouchAt, t.lease.warmCount)) =
      some (some (sampleAt sampleTight).clock, 1) ∧
    step sampleConfig (sampleAt sampleTight) (.resume 1) =
      some (sampleAt (sampleTight ++ [.resume 1])) ∧
    WarmSent (sampleAt sampleTight) (sampleAt (sampleTight ++ [.resume 1])) 1 0 := by
  refine ⟨?_, Execution.exec_eq_final (by decide +kernel), by decide +kernel,
    Execution.step_final (by decide +kernel), by decide +kernel⟩
  intro rests
  have reached : exec sampleConfig {} sampleTight = some (sampleAt sampleTight) :=
    exec_sampleAt (by decide +kernel)
  have known : ((sampleAt sampleTight).lease? 0).isSome = true := by decide +kernel
  obtain ⟨t, found⟩ := Option.isSome_iff_exists.1 known
  have read : ((sampleAt sampleTight).lease? 0).map (fun t =>
      (t.lease.lastCacheTouchAt, t.lease.estimatedTtlS, nextDeadline sampleConfig t.lease)) =
        some (some 0, 2, some (-(194 / 25))) := by
    decide +kernel
  rw [found, Option.map_some, Option.some.injEq, Prod.mk.injEq, Prod.mk.injEq] at read
  obtain ⟨touched, ttl, deadline⟩ := read
  have positive : 0 < t.lease.estimatedTtlS := by
    rw [ttl]
    norm_num
  obtain ⟨dueAt, later, after⟩ :=
    rests _ 0 t 0 ⟨{}, sampleTight, World.initial_empty, reached⟩ found touched positive
  rw [deadline, Option.some.injEq] at later
  rw [← later] at after
  exact absurd after (by norm_num)

end CachePilot
