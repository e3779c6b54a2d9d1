/-
Module: CachePilot.Proofs.StateMachine
Layer: Proofs
Purpose: The lease state machine. A consistent lease without targets is INACTIVE or INVALIDATED, and it is
  WARMING exactly while its warm is in flight. The state, the target set and the flag are written
  independently, and the end of a warm arms the lease whatever happened meanwhile, so runs can leave
  these states; `unsettles` says, from the state before a step, exactly when it does.
Trusted boundary: none
Main exports: Consistent, unsettles, LeaseEffect.consistent_iff, consistent_iff_settled
-/
import CachePilot.Proofs.Tasks

namespace CachePilot

/-- The state agrees with the targets and with the flag of the warm in flight. -/
structure Consistent (t : TrackedLease) : Prop where
  idle : t.lease.activeTargets = ∅ → t.lease.state = .inactive ∨ t.lease.state = .invalidated
  warming : t.lease.state = .warming ↔ t.runtime.warmRequestActive = true

/-- The step takes a consistent lease out of its state machine: it changes the state of a lease whose
    warm is in flight, or it arms a lease without targets when a warm ends. -/
def unsettles (id : LeaseId) (w : World) (a : Action) : Bool :=
  match w.lease? id with
  | none => false
  | some t =>
      match a with
      | .arm j =>
          j == id && t.lease.state != .invalidated &&
            (t.runtime.warmRequestActive || decide (t.lease.activeTargets = ∅))
      | .complete j => j == id && t.runtime.warmRequestActive
      | .targetStarted j targetId =>
          j == id && t.runtime.warmRequestActive && targetId != "" &&
            decide ((insert targetId t.lease.activeTargets).card = 1)
      | .targetFinished j targetId =>
          j == id && t.runtime.warmRequestActive && targetId != "" &&
            decide (t.lease.activeTargets.erase targetId = ∅)
      | .afterNormalRequest j outcome =>
          j == id && t.runtime.warmRequestActive && outcome != .failed
      | .executeReturns tid _ | .cancel tid =>
          w.inFlight tid == some id && t.lease.state != .invalidated &&
            decide (t.lease.activeTargets = ∅)
      | _ => false

theorem unsettles_subject {id : LeaseId} {w : World} {a : Action}
    (unsettled : unsettles id w a = true) : a.subject w = some id := by
  unfold unsettles at unsettled
  split at unsettled
  · cases unsettled
  cases a with
  | executeReturns tid answer =>
      simp only [Bool.and_eq_true, beq_iff_eq] at unsettled
      exact subject_of_inFlight unsettled.1.1 answer
  | cancel tid =>
      simp only [Bool.and_eq_true, beq_iff_eq] at unsettled
      exact subject_of_inFlight unsettled.1.1 .raised
  | arm j =>
      simp only [Bool.and_eq_true, beq_iff_eq] at unsettled
      exact congrArg some unsettled.1.1
  | complete j =>
      simp only [Bool.and_eq_true, beq_iff_eq] at unsettled
      exact congrArg some unsettled.1
  | targetStarted j targetId =>
      simp only [Bool.and_eq_true, beq_iff_eq] at unsettled
      exact congrArg some unsettled.1.1.1
  | targetFinished j targetId =>
      simp only [Bool.and_eq_true, beq_iff_eq] at unsettled
      exact congrArg some unsettled.1.1.1
  | afterNormalRequest j outcome =>
      simp only [Bool.and_eq_true, beq_iff_eq] at unsettled
      exact congrArg some unsettled.1.1
  | _ => cases unsettled

namespace Consistent

variable {t : TrackedLease}

/-- A lease in a resting state is consistent when no warm is in flight and the state suits the targets. -/
theorem of_rest (rests : t.lease.state ≠ .warming) (cool : t.runtime.warmRequestActive = false)
    (idle : t.lease.activeTargets = ∅ →
      t.lease.state = .inactive ∨ t.lease.state = .invalidated) : Consistent t where
  idle := idle
  warming := by
    rw [cool]
    constructor
    · intro same
      exact absurd same rests
    · intro absurdity
      cases absurdity

/-- A lease in a resting state has no warm in flight. -/
theorem cool_of_rest (consistent : Consistent t) (rests : t.lease.state ≠ .warming) :
    t.runtime.warmRequestActive = false := by
  cases warm : t.runtime.warmRequestActive with
  | false => rfl
  | true => exact absurd (consistent.warming.2 warm) rests

/-- Without a warm in flight, a consistent lease rests. -/
theorem rest_of_cool (consistent : Consistent t) (cool : t.runtime.warmRequestActive = false) :
    t.lease.state ≠ .warming := by
  intro warming
  rw [consistent.warming.1 warming] at cool
  cases cool

/-- Consistency reads the targets, the state and the flag. -/
theorem congr {u : TrackedLease} (consistent : Consistent t)
    (targets : u.lease.activeTargets = t.lease.activeTargets)
    (state : u.lease.state = t.lease.state)
    (flag : u.runtime.warmRequestActive = t.runtime.warmRequestActive) : Consistent u where
  idle := by
    rw [targets, state]
    exact consistent.idle
  warming := by
    rw [state, flag]
    exact consistent.warming

end Consistent

/-! ### Operations -/

theorem arm_consistent_iff {t : TrackedLease} (valid : t.lease.state ≠ .invalidated) :
    Consistent t.arm ↔ t.runtime.warmRequestActive = false ∧ t.lease.activeTargets ≠ ∅ := by
  have armed : t.arm.lease.state = .armed := by
    rw [TrackedLease.arm, CacheLease.arm_eq, if_neg valid]
  have targets : t.arm.lease.activeTargets = t.lease.activeTargets :=
    (Bookkeeping.arm t).targets
  constructor
  · intro consistent
    constructor
    · exact consistent.cool_of_rest (by rw [armed]; exact LeaseState.noConfusion)
    · intro empty
      rcases consistent.idle (targets.trans empty) with inactive | dead
      · rw [armed] at inactive
        cases inactive
      · rw [armed] at dead
        cases dead
  · rintro ⟨cool, nonempty⟩
    exact Consistent.of_rest (by rw [armed]; exact LeaseState.noConfusion) cool
      fun empty => absurd (targets.symm.trans empty) nonempty

theorem arm_eq_of_invalid {t : TrackedLease} (dead : t.lease.state = .invalidated) :
    t.arm = t := by
  unfold TrackedLease.arm CacheLease.arm
  rw [if_pos dead]

theorem complete_consistent_iff {t : TrackedLease} :
    Consistent t.complete ↔ t.runtime.warmRequestActive = false := by
  constructor
  · intro consistent
    exact consistent.cool_of_rest LeaseState.noConfusion
  · intro cool
    exact Consistent.of_rest LeaseState.noConfusion cool fun _ => Or.inl rfl

theorem targetStarted_consistent_iff {t : TrackedLease} {targetId : String}
    (consistent : Consistent t) (named : targetId ≠ "") :
    Consistent (t.targetStarted targetId) ↔
      ¬ (t.runtime.warmRequestActive = true ∧ (insert targetId t.lease.activeTargets).card = 1) := by
  rw [TrackedLease.targetStarted_named named]
  have nonempty : insert targetId t.lease.activeTargets ≠ ∅ := Finset.insert_ne_empty _ _
  cases warm : t.runtime.warmRequestActive with
  | true =>
      have warming := consistent.warming.2 warm
      constructor
      · rintro after ⟨_, only⟩
        have armed := after.warming.2 warm
        simp [only, warming] at armed
      · intro several
        have more : (insert targetId t.lease.activeTargets).card ≠ 1 := by simpa using several
        exact
          { idle := fun empty => absurd empty nonempty
            warming := by simp [more, warming, warm] }
  | false =>
      have rests := consistent.rest_of_cool warm
      constructor
      · rintro after ⟨absurdity, _⟩
        cases absurdity
      · intro free
        refine Consistent.of_rest ?_ warm fun empty => absurd empty nonempty
        dsimp only
        split
        · exact LeaseState.noConfusion
        · exact rests

theorem targetFinished_consistent_iff {t : TrackedLease} {targetId : String}
    (consistent : Consistent t) (named : targetId ≠ "") :
    Consistent (t.targetFinished targetId) ↔
      ¬ (t.runtime.warmRequestActive = true ∧ t.lease.activeTargets.erase targetId = ∅) := by
  rw [TrackedLease.targetFinished_named named]
  by_cases last : t.lease.activeTargets.erase targetId = ∅
  · simp only [last, if_true, and_true, Bool.not_eq_true]
    constructor
    · intro after
      exact after.cool_of_rest LeaseState.noConfusion
    · intro cool
      exact Consistent.of_rest LeaseState.noConfusion cool fun _ => Or.inl rfl
  · simp only [last, if_false, and_false, not_false_eq_true, iff_true]
    exact
      { idle := fun empty => absurd empty last
        warming := consistent.warming }

theorem refreshed_consistent_iff {t : TrackedLease} {now : ℚ} {outcome : Outcome} :
    Consistent (t.refreshed now outcome) ↔ t.runtime.warmRequestActive = false := by
  have rests : (t.refreshed now outcome).lease.state ≠ .warming := by
    unfold TrackedLease.refreshed
    dsimp only
    split
    · exact LeaseState.noConfusion
    · exact LeaseState.noConfusion
  constructor
  · intro consistent
    exact consistent.cool_of_rest rests
  · intro cool
    apply Consistent.of_rest rests cool
    intro empty
    have none : t.lease.activeTargets = ∅ := empty
    exact Or.inl (if_pos none)

/-- Settledness of an action on the lease, with the lease looked up. -/
theorem unsettles_of_known {id : LeaseId} {w : World} {t : TrackedLease}
    (known : w.lease? id = some t) (a : Action) :
    unsettles id w a =
      match a with
      | .arm j =>
          j == id && t.lease.state != .invalidated &&
            (t.runtime.warmRequestActive || decide (t.lease.activeTargets = ∅))
      | .complete j => j == id && t.runtime.warmRequestActive
      | .targetStarted j targetId =>
          j == id && t.runtime.warmRequestActive && targetId != "" &&
            decide ((insert targetId t.lease.activeTargets).card = 1)
      | .targetFinished j targetId =>
          j == id && t.runtime.warmRequestActive && targetId != "" &&
            decide (t.lease.activeTargets.erase targetId = ∅)
      | .afterNormalRequest j outcome =>
          j == id && t.runtime.warmRequestActive && outcome != .failed
      | .executeReturns tid _ | .cancel tid =>
          w.inFlight tid == some id && t.lease.state != .invalidated &&
            decide (t.lease.activeTargets = ∅)
      | _ => false := by
  unfold unsettles
  rw [known]

/-- An operation keeps a consistent lease consistent exactly when it does not unsettle it. -/
theorem Operation.consistent_iff {cfg : ManagerConfig} {w : World} {id : LeaseId} {a : Action}
    {f : TrackedLease → TrackedLease} {t : TrackedLease} (operation : Operation cfg w.clock id a f)
    (known : w.lease? id = some t) (consistent : Consistent t) :
    Consistent (f t) ↔ unsettles id w a = false := by
  rw [unsettles_of_known known]
  cases operation with
  | arm =>
      by_cases dead : t.lease.state = .invalidated
      · rw [arm_eq_of_invalid dead]
        simp [dead, consistent]
      · rw [arm_consistent_iff dead]
        simp [dead]
  | invalidate =>
      simp only [iff_true]
      exact Consistent.of_rest LeaseState.noConfusion rfl fun _ => Or.inr rfl
  | complete =>
      rw [complete_consistent_iff]
      simp
  | targetStarted targetId =>
      rcases eq_or_ne targetId "" with rfl | named
      · simpa using consistent
      · rw [targetStarted_consistent_iff consistent named]
        simp [named]
  | targetFinished targetId =>
      rcases eq_or_ne targetId "" with rfl | named
      · simpa using consistent
      · rw [targetFinished_consistent_iff consistent named]
        simp [named]
  | beforeNormalRequest =>
      simp only [iff_true]
      exact consistent.congr rfl rfl rfl
  | afterNormalRequest outcome =>
      rcases TrackedLease.afterNormalRequest_cases w.clock outcome t with
        ⟨reason, same⟩ | ⟨⟨valid, answered⟩, same⟩
      · rw [same]
        have kept : Consistent t.unrefreshed := consistent.congr rfl rfl rfl
        rcases reason with dead | failed
        · have cool : t.runtime.warmRequestActive = false :=
            consistent.cool_of_rest (by rw [dead]; exact LeaseState.noConfusion)
          simp [kept, cool]
        · simp [kept, failed]
      · rw [same, refreshed_consistent_iff]
        simp [answered]
  | refreshTtl answer =>
      rw [TrackedLease.refreshTtl_frame]
      simp only [iff_true]
      exact consistent.congr rfl rfl rfl
  | reconcileRoute routeHash =>
      simp only [iff_true]
      exact consistent.congr rfl rfl rfl
  | updateCostEstimates usage =>
      rw [TrackedLease.updateCostEstimates_frame]
      simp only [iff_true]
      exact consistent.congr rfl rfl rfl

/-! ### Steps and runs -/

/-- The end of a warm, whatever its result, arms a valid lease and clears the flag. -/
theorem warmEnd_consistent_iff {t t' : TrackedLease}
    (state : t'.lease.state = if t.lease.state = .invalidated then .invalidated else .armed)
    (flag : t'.runtime.warmRequestActive = false)
    (targets : t'.lease.activeTargets = t.lease.activeTargets) :
    Consistent t' ↔ ¬ (t.lease.state ≠ .invalidated ∧ t.lease.activeTargets = ∅) := by
  by_cases dead : t.lease.state = .invalidated
  · rw [if_pos dead] at state
    simp only [dead, ne_eq, not_true_eq_false, false_and, not_false_eq_true, iff_true]
    exact Consistent.of_rest (by rw [state]; exact LeaseState.noConfusion) flag
      fun _ => Or.inr state
  · rw [if_neg dead] at state
    constructor
    · rintro after ⟨_, empty⟩
      rcases after.idle (targets.trans empty) with inactive | invalid
      · rw [state] at inactive
        cases inactive
      · rw [state] at invalid
        cases invalid
    · intro suited
      apply Consistent.of_rest (by rw [state]; exact LeaseState.noConfusion) flag
      intro empty
      exact absurd ⟨dead, targets.symm.trans empty⟩ suited

theorem startWarm_consistent {t : TrackedLease} (targets : t.lease.activeTargets ≠ ∅) :
    Consistent (startWarm t) where
  idle := fun empty => absurd empty targets
  warming := ⟨fun _ => rfl, fun _ => rfl⟩

/-- An evaluation that ends before the lock keeps a consistent lease consistent. -/
theorem Evaluated.consistent {cfg : ManagerConfig} {now : ℚ} {t t' : TrackedLease} {e : Evaluation}
    (ends : Evaluated cfg now t t' e) (consistent : Consistent t) : Consistent t' := by
  cases ends with
  | stopped decision other => exact consistent
  | scheduled guards =>
      have flag : (schedule t).runtime.warmRequestActive = false := by
        rw [← guards.cool]
        unfold schedule
        dsimp only
        split
        · rfl
        · rfl
      have rests : (schedule t).lease.state ≠ .warming := by
        have before := consistent.rest_of_cool guards.cool
        unfold schedule
        dsimp only
        split
        · exact before
        · exact LeaseState.noConfusion
      apply Consistent.of_rest rests flag
      intro empty
      exact absurd ((Bookkeeping.schedule t).targets.symm.trans empty) guards.targets
  | uneconomic guards =>
      have flag : (stopEconomically cfg t).runtime.warmRequestActive = false := guards.cool
      apply Consistent.of_rest LeaseState.noConfusion flag
      intro empty
      exact absurd ((Bookkeeping.stopEconomically cfg t).targets.symm.trans empty) guards.targets
  | stale guards =>
      exact consistent.congr (Bookkeeping.consumeSchedule cfg t).targets
        (consumeSchedule_state cfg t) rfl
  | goes g authorised =>
      exact consistent.congr (Bookkeeping.consumeSchedule cfg t).targets
        (consumeSchedule_state cfg t) rfl

/-- A step keeps a consistent lease consistent exactly when it does not unsettle it. -/
theorem LeaseEffect.consistent_iff {cfg : ManagerConfig} {w : World} {id : LeaseId} {a : Action}
    {t t' : TrackedLease} (effect : LeaseEffect cfg w id t a t') (known : w.lease? id = some t)
    (consistent : Consistent t) : Consistent t' ↔ unsettles id w a = false := by
  cases effect with
  | other elsewhere registry =>
      cases unsettled : unsettles id w a with
      | true => exact absurd (unsettles_subject unsettled) elsewhere
      | false => simpa using consistent
  | kept keeps =>
      rw [unsettles_of_known known]
      simpa using consistent
  | superseded missing switched =>
      rw [unsettles_of_known known]
      simp only [iff_true]
      exact Consistent.of_rest LeaseState.noConfusion rfl fun _ => Or.inr rfl
  | operated operation => exact operation.consistent_iff known consistent
  | decided here ready queued runs =>
      rw [unsettles_of_known known]
      simp only [iff_true]
      exact (evaluated_of_runs runs).consistent consistent
  | authorised here ready queued authorised =>
      rw [unsettles_of_known known]
      simp only [iff_true]
      exact (Evaluated.goes _ authorised).consistent consistent
  | sentAtOnce here ready queued authorised passed =>
      rw [unsettles_of_known known]
      simp only [iff_true]
      exact startWarm_consistent (underLock_eq_ok_iff.1 passed).1.targets
  | refusedAtLock here waiting refused =>
      rw [unsettles_of_known known]
      simpa using consistent
  | sentAtLock here waiting passed =>
      rw [unsettles_of_known known]
      simp only [iff_true]
      exact startWarm_consistent (underLock_eq_ok_iff.1 passed).1.targets
  | @returned tid task fp snapshot answer here inside =>
      rw [unsettles_of_known known, warmEnd_consistent_iff (finishWarm_state w.clock answer t)
        (finishWarm_flag w.clock answer t) (finishWarm_targets w.clock answer t)]
      simp [World.inFlight_of_inside here inside]
  | cancelledWarm here inside =>
      have state : (endWarm t).lease.state =
          if t.lease.state = .invalidated then .invalidated else .armed := by
        rw [endWarm, CacheLease.arm_eq]
      rw [unsettles_of_known known, warmEnd_consistent_iff state rfl
        (Bookkeeping.endWarm t).targets]
      simp [World.inFlight_of_inside here inside]

/-- The lease, if the manager tracks it, is consistent. -/
def World.ConsistentAt (w : World) (id : LeaseId) : Prop :=
  ∀ t, w.lease? id = some t → Consistent t

/-- From the empty manager on, every lease is consistent in every state of a run exactly when no step of
    the run unsettles it. -/
theorem consistent_iff_settled {cfg : ManagerConfig} {start w : World} {acts : List Action}
    (initial : start.Initial) (run : exec cfg start acts = some w) (id : LeaseId) :
    Execution.EveryStep (step cfg) (fun _ _ v => v.ConsistentAt id) start acts ↔
      Execution.Along (step cfg) (fun u a => unsettles id u a = false) start acts := by
  apply Execution.everyState_iff_along (P := fun u => u.ConsistentAt id) _ run
  · intro before a after u v split reached stepped consistent
    cases known : u.lease? id with
    | none =>
        have settled : unsettles id u a = false := by
          unfold unsettles
          rw [known]
        simp only [settled, iff_true]
        intro t' appears
        obtain ⟨identity, ttl, confidence, answer, ttlS, c, -, -, -, new⟩ :=
          step_creates stepped known appears
        rw [new]
        exact Consistent.of_rest LeaseState.noConfusion rfl fun _ => Or.inl rfl
    | some t =>
        obtain ⟨t', known', effect⟩ := step_effect stepped known
        rw [← effect.consistent_iff known (consistent t known)]
        constructor
        · intro after
          exact after t' known'
        · intro after x found
          rw [known'] at found
          cases found
          exact after
  · intro t known
    rw [World.lease?, initial.1] at known
    cases known

/-- The sample run, its warm included, stays in the state machine. -/
theorem consistent_iff_settled_sample :
    Execution.EveryStep (step sampleConfig) (fun _ _ v => v.ConsistentAt 0) {}
      (sampleReady ++
        [.resume 0, .executeReturns 0 (.returned { outcome := some .confirmedHit })]) :=
  (consistent_iff_settled ⟨rfl, rfl⟩ (Execution.exec_eq_final (by decide +kernel)) 0).2
    (by decide +kernel)

/-- Completing the lease while its warm is in flight breaks both halves: the lease is INACTIVE with the
    flag still set, and when the warm returns it is ARMED without a target. -/
theorem completed_lease_rearmed :
    (exec sampleConfig {} (sampleReady ++ [.resume 0, .complete 0])).map
      (fun w => (w.lease? 0).map fun t =>
        (t.lease.state, t.runtime.warmRequestActive, decide (t.lease.activeTargets = ∅))) =
      some (some (.inactive, true, true)) ∧
    (exec sampleConfig {}
      (sampleReady ++ [.resume 0, .complete 0,
        .executeReturns 0 (.returned { outcome := some .confirmedHit })])).map
      (fun w => (w.lease? 0).map fun t =>
        (t.lease.state, t.runtime.warmRequestActive, decide (t.lease.activeTargets = ∅))) =
      some (some (.armed, false, true)) := by
  decide +kernel

end CachePilot
