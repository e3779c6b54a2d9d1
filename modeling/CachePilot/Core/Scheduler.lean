/-
Module: CachePilot.Core.Scheduler
Layer: Core
Purpose: One lease evaluation, cut at its suspension points. `evaluateLease` is the code up to the
  per-fingerprint lock, `underLock` the checks made while holding it, `startWarm` the writes before the
  executor is awaited, and `endWarm` and `applyWarmResult` what follows when it returns. The event loop
  puts the pieces together. Times and costs are exact rationals.
Trusted boundary: the reading of the evaluation in leases.py, cut where it awaits, with exact times and costs
Main exports: LeaseDecision, nextDeadline, economicGate, evaluateLease, underLock, startWarm, finishWarm,
  underLock_eq_ok_iff
-/
import Mathlib.Data.Fintype.Basic
import CachePilot.Core.Leases

namespace CachePilot

/-- One scheduler evaluation outcome. -/
inductive LeaseDecision where
  | scheduled
  | skippedDryRun
  | skippedBusy
  | skippedStale
  | skippedNoTargets
  | skippedAlreadyWarming
  | skippedUnknownTtl
  | skippedUnsupported
  | skippedCircuitOpen
  | stoppedNoTargets
  | stoppedInvalidated
  | stoppedEconomic
  | warmedConfirmedHit
  | warmedMissRebuilt
  | warmedUnverified
  | warmedFailed
deriving DecidableEq, Repr, Inhabited

/-! ### The safe deadline -/

/-- The network margin: at least the configured minimum, and the scaled latency estimate. -/
def networkMargin (cfg : ManagerConfig) : ℚ :=
  max cfg.settings.minimumMarginS (cfg.latencyP95S * cfg.settings.latencyMultiplier)

/-- Deterministic jitter in `[-jitterFraction, jitterFraction)` from the fingerprint's digest. -/
def jitterFor (cfg : ManagerConfig) (cacheFingerprint : String) : ℚ :=
  let unit : ℚ := (cfg.digestPrefix cacheFingerprint).val / 2 ^ 64
  (unit * 2 - 1) * cfg.settings.jitterFraction

/-- Safe warm deadline; none when the cache was never touched. The jitter scales the wait, not the
    absolute time. -/
def nextDeadline (cfg : ManagerConfig) (lease : CacheLease) : Option ℚ :=
  match lease.lastCacheTouchAt with
  | none => none
  | some touch =>
      let ttl := max lease.estimatedTtlS 0
      let safeDeadline :=
        min (touch + ttl * cfg.settings.warmFraction) (touch + ttl - networkMargin cfg)
      some (touch + (safeDeadline - touch) * (1 + jitterFor cfg lease.cacheFingerprint))

/-! ### Economics -/

/-- Continuation probability: zero without targets, low when every target is detached, high otherwise. -/
def resumeProbability (cfg : ManagerConfig) (lease : CacheLease) : ℚ :=
  if lease.activeTargets = ∅ then 0
  else if ∀ target ∈ lease.activeTargets, target.startsWith "detached-" then
    cfg.settings.detachedResumeProbability
  else cfg.settings.resumeProbability

/-- The controller's inputs, read off the lease. -/
def economicInputs (cfg : ManagerConfig) (lease : CacheLease) : EconomicInputs where
  coldResumeCost := lease.estimatedColdResumeCostUsd.getD 0
  cachedResumeCost := lease.estimatedCachedResumeCostUsd.getD 0
  nextWarmCost := lease.nextWarmCostUsd.getD 0
  cumulativeWarmCost := lease.warmCostUsd
  resumeProbability := resumeProbability cfg lease
  pricingKnown :=
    lease.estimatedColdResumeCostUsd.isSome && lease.estimatedCachedResumeCostUsd.isSome

/-- Run the economic controller for a due lease. -/
def evaluateEconomics (cfg : ManagerConfig) (lease : CacheLease) : WarmDecision :=
  EconomicController.evaluate cfg.settings.economics (economicInputs cfg lease)

/-- Warm iff the economic controller says so; disabled economics lets every due lease pass. -/
def economicGate (cfg : ManagerConfig) (lease : CacheLease) : Bool :=
  if cfg.settings.economics.enabled then (evaluateEconomics cfg lease).shouldWarm else true

/-- The gate records its decision on the lease when it consults the controller. -/
def recordDecision (cfg : ManagerConfig) (lease : CacheLease) : CacheLease :=
  if cfg.settings.economics.enabled then
    { lease with lastWarmDecision := some (evaluateEconomics cfg lease) }
  else lease

/-! ### Evaluation up to the lock -/

/-- How the part of an evaluation before the lock ends: with a decision, or about to take the lock with
    the generation that authorises the warm. -/
inductive Evaluation where
  | done (decision : LeaseDecision)
  | lock (scheduledGeneration : ℕ)
deriving DecidableEq

/-- The deadline passed or not: not due yet captures the generation the warm is scheduled for. -/
def schedule (t : TrackedLease) : TrackedLease :=
  let t := { t with
    runtime.scheduledGeneration := some t.lease.generation
    runtime.pendingWarm := true }
  if t.lease.state = .economicStop then t else { t with lease.state := .warmScheduled }

/-- The warm algorithm up to its lock. The recorded generation is consumed; a lease that was never
    scheduled is judged against the generation captured here. -/
def warmIfDue (t : TrackedLease) : TrackedLease × Evaluation :=
  let scheduledGeneration := t.runtime.scheduledGeneration.getD t.lease.generation
  let t := { t with runtime.scheduledGeneration := none, runtime.pendingWarm := false }
  if t.runtime.realRequestActive then (t, .done .skippedBusy)
  else if t.lease.generation ≠ scheduledGeneration then (t, .done .skippedStale)
  else (t, .lock scheduledGeneration)

/-- Core algorithm for one lease, up to the lock. -/
def evaluateLease (cfg : ManagerConfig) (now : ℚ) (t : TrackedLease) :
    TrackedLease × Evaluation :=
  if t.lease.activeTargets = ∅ then (t, .done .stoppedNoTargets)
  else if t.runtime.realRequestActive then (t, .done .skippedBusy)
  else if t.runtime.warmRequestActive then (t, .done .skippedAlreadyWarming)
  else if t.lease.state = .invalidated then (t, .done .stoppedInvalidated)
  else if t.runtime.circuitOpen then (t, .done .skippedCircuitOpen)
  else
    match nextDeadline cfg t.lease with
    | none => (t, .done .skippedUnknownTtl)
    | some dueAt =>
        if now < dueAt then (schedule t, .done .scheduled)
        else
          let judged := { t with lease := recordDecision cfg t.lease }
          if economicGate cfg t.lease then warmIfDue judged
          else ({ judged with lease.state := .economicStop }, .done .stoppedEconomic)

/-! ### Under the lock -/

/-- The checks made while holding the lock; success yields the snapshot to replay. -/
def underLock (cfg : ManagerConfig) (snapshots : SnapshotStore) (t : TrackedLease)
    (scheduledGeneration : ℕ) : Except LeaseDecision RequestSnapshot :=
  if t.runtime.realRequestActive then .error .skippedBusy
  else if t.lease.activeTargets = ∅ then .error .skippedNoTargets
  else if t.lease.generation ≠ scheduledGeneration then .error .skippedStale
  else if cfg.settings.dryRun then .error .skippedDryRun
  else if t.runtime.circuitOpen then .error .skippedCircuitOpen
  else if !cfg.hasSnapshotStore || !cfg.hasWarmExecutor then .error .skippedUnsupported
  else
    match snapshots.get? t.lease.cacheFingerprint with
    | none => .error .skippedUnsupported
    | some snapshot => .ok snapshot

/-- The flag and the state while a warm is physically in flight. -/
def startWarm (t : TrackedLease) : TrackedLease :=
  { lease := { t.lease with state := .warming }
    runtime := { t.runtime with warmRequestActive := true } }

/-! ### When the executor returns -/

/-- The executor's answer: a result, or an ordinary exception. -/
inductive ExecuteResult where
  | returned (result : WarmResult)
  | raised
deriving DecidableEq

/-- The result that is applied: an exception is recorded as FAILED with zero usage and cost. -/
def ExecuteResult.toWarmResult : ExecuteResult → WarmResult
  | .returned result => result
  | .raised => { outcome := some .failed }

/-- Whatever the warm's outcome, the flag is cleared and the lease rearmed. -/
def endWarm (t : TrackedLease) : TrackedLease :=
  { lease := t.lease.arm
    runtime := { t.runtime with warmRequestActive := false } }

/-- The cost and the count of a warm that ran are always visible. -/
def chargeWarm (result : WarmResult) (t : TrackedLease) : TrackedLease :=
  { t with
    lease.warmCount := t.lease.warmCount + 1
    lease.warmCostUsd := t.lease.warmCostUsd + result.costUsd }

/-- One more warm outcome without a verified touch; two in a row open the circuit. -/
def recordMiss (t : TrackedLease) : TrackedLease :=
  let t := { t with runtime.consecutiveWarmMisses := t.runtime.consecutiveWarmMisses + 1 }
  if 2 ≤ t.runtime.consecutiveWarmMisses then { t with runtime.circuitOpen := true } else t

/-- Fold one warm's outcome into the lease. Only a verified cache touch advances the touch time. -/
def applyWarmResult (now : ℚ) (t : TrackedLease) (result : WarmResult) :
    TrackedLease × LeaseDecision :=
  match result.outcome with
  | none => (t, .skippedUnsupported)
  | some .confirmedHit =>
      let t := chargeWarm result t
      ({ lease :=
          { t.lease with lastCacheTouchAt := some now, lastConfirmedHitAt := some now }
         runtime := { t.runtime with consecutiveWarmMisses := 0 } },
        .warmedConfirmedHit)
  | some .missRebuilt =>
      let t := recordMiss (chargeWarm result t)
      (if 0 < result.usage.cacheWriteTokens then
        { t with lease.lastCacheTouchAt := some now }
       else t,
        .warmedMissRebuilt)
  | some .successUnverified => (recordMiss (chargeWarm result t), .warmedUnverified)
  | some .failed => (recordMiss (chargeWarm result t), .warmedFailed)

/-- What the return of the executor does to the lease. -/
def finishWarm (now : ℚ) (answer : ExecuteResult) (t : TrackedLease) :
    TrackedLease × LeaseDecision :=
  applyWarmResult now (endWarm t) answer.toWarmResult

/-- The lease after a warm that confirmed a hit: charged, touched, and without a streak of misses. -/
def warmedHit (now : ℚ) (result : WarmResult) (t : TrackedLease) : TrackedLease where
  lease := { t.lease with
    state := if t.lease.state = .invalidated then .invalidated else .armed
    warmCount := t.lease.warmCount + 1
    warmCostUsd := t.lease.warmCostUsd + result.costUsd
    lastCacheTouchAt := some now
    lastConfirmedHitAt := some now }
  runtime := { t.runtime with warmRequestActive := false, consecutiveWarmMisses := 0 }

/-- The lease after a warm that ran without a confirmed hit: charged, with one more miss, and touched
    only by a rebuild with written tokens. -/
def warmedMiss (now : ℚ) (result : WarmResult) (t : TrackedLease) : TrackedLease where
  lease := { t.lease with
    state := if t.lease.state = .invalidated then .invalidated else .armed
    warmCount := t.lease.warmCount + 1
    warmCostUsd := t.lease.warmCostUsd + result.costUsd
    lastCacheTouchAt :=
      if result.outcome = some .missRebuilt ∧ 0 < result.usage.cacheWriteTokens then some now
      else t.lease.lastCacheTouchAt }
  runtime := { t.runtime with
    warmRequestActive := false
    consecutiveWarmMisses := t.runtime.consecutiveWarmMisses + 1
    circuitOpen :=
      if 2 ≤ t.runtime.consecutiveWarmMisses + 1 then true else t.runtime.circuitOpen }

private theorem recordMiss_endWarm (result : WarmResult) (t : TrackedLease) :
    recordMiss (chargeWarm result (endWarm t)) =
      { lease := { t.lease with
          state := if t.lease.state = .invalidated then .invalidated else .armed
          warmCount := t.lease.warmCount + 1
          warmCostUsd := t.lease.warmCostUsd + result.costUsd }
        runtime := { t.runtime with
          warmRequestActive := false
          consecutiveWarmMisses := t.runtime.consecutiveWarmMisses + 1
          circuitOpen :=
            if 2 ≤ t.runtime.consecutiveWarmMisses + 1 then true
            else t.runtime.circuitOpen } } := by
  simp only [recordMiss, chargeWarm, endWarm, CacheLease.arm_eq]
  split
  · rfl
  · rfl

/-- The three ways the executor's return changes the lease. -/
theorem finishWarm_cases (now : ℚ) (answer : ExecuteResult) (t : TrackedLease) :
    (answer.toWarmResult.outcome = none ∧ (finishWarm now answer t).1 = endWarm t) ∨
    (answer.toWarmResult.outcome = some .confirmedHit ∧
      (finishWarm now answer t).1 = warmedHit now answer.toWarmResult t) ∨
    (∃ outcome, answer.toWarmResult.outcome = some outcome ∧ outcome ≠ .confirmedHit ∧
      (finishWarm now answer t).1 = warmedMiss now answer.toWarmResult t) := by
  cases ran : answer.toWarmResult.outcome with
  | none =>
      apply Or.inl
      simp only [finishWarm, applyWarmResult, ran, true_and]
  | some outcome =>
      apply Or.inr
      cases outcome with
      | confirmedHit =>
          apply Or.inl
          simp only [finishWarm, applyWarmResult, ran, chargeWarm, endWarm, CacheLease.arm_eq,
            warmedHit, true_and]
      | missRebuilt =>
          refine Or.inr ⟨.missRebuilt, rfl, by decide, ?_⟩
          simp only [finishWarm, applyWarmResult, ran, recordMiss_endWarm, warmedMiss]
          split
          · rename_i written
            simp [written]
          · rename_i unwritten
            simp [unwritten]
      | successUnverified =>
          refine Or.inr ⟨.successUnverified, rfl, by decide, ?_⟩
          simp [finishWarm, applyWarmResult, ran, recordMiss_endWarm, warmedMiss]
      | failed =>
          refine Or.inr ⟨.failed, rfl, by decide, ?_⟩
          simp [finishWarm, applyWarmResult, ran, recordMiss_endWarm, warmedMiss]

/-! ### What the checks establish -/

/-- A lease is due when its deadline is known and not later than the clock. -/
def IsDue (cfg : ManagerConfig) (now : ℚ) (lease : CacheLease) : Prop :=
  ∃ dueAt, nextDeadline cfg lease = some dueAt ∧ dueAt ≤ now

instance (cfg : ManagerConfig) (now : ℚ) (lease : CacheLease) : Decidable (IsDue cfg now lease) :=
  match deadline : nextDeadline cfg lease with
  | none => .isFalse (by simp [IsDue, deadline])
  | some dueAt => decidable_of_iff (dueAt ≤ now) (by simp [IsDue, deadline])

/-- The preconditions of a send that are checked under the lock. -/
structure ClearedToSend (cfg : ManagerConfig) (snapshots : SnapshotStore) (t : TrackedLease)
    (scheduledGeneration : ℕ) : Prop where
  idle : t.runtime.realRequestActive = false
  targets : t.lease.activeTargets ≠ ∅
  current : t.lease.generation = scheduledGeneration
  live : cfg.settings.dryRun = false
  closed : t.runtime.circuitOpen = false
  warmable : cfg.hasSnapshotStore = true ∧ cfg.hasWarmExecutor = true
  snapshot : ∃ s, snapshots.get? t.lease.cacheFingerprint = some s

/-- The checks under the lock succeed exactly when the send is cleared. -/
theorem underLock_eq_ok_iff {cfg : ManagerConfig} {snapshots : SnapshotStore} {t : TrackedLease}
    {g : ℕ} {s : RequestSnapshot} :
    underLock cfg snapshots t g = .ok s ↔
      ClearedToSend cfg snapshots t g ∧ snapshots.get? t.lease.cacheFingerprint = some s := by
  constructor
  · intro passed
    unfold underLock at passed
    split at passed
    · cases passed
    rename_i idle
    split at passed
    · cases passed
    rename_i targets
    split at passed
    · cases passed
    rename_i current
    split at passed
    · cases passed
    rename_i live
    split at passed
    · cases passed
    rename_i closed
    split at passed
    · cases passed
    rename_i warmable
    split at passed
    · cases passed
    rename_i snapshot found
    cases passed
    simp only [Bool.or_eq_true, Bool.not_eq_true', not_or, Bool.not_eq_false] at warmable
    exact
      ⟨{ idle := by simpa using idle
         targets := targets
         current := not_not.1 current
         live := by simpa using live
         closed := by simpa using closed
         warmable := warmable
         snapshot := ⟨_, found⟩ }, found⟩
  · rintro ⟨cleared, found⟩
    simp [underLock, cleared.idle, cleared.targets, cleared.current, cleared.live,
      cleared.closed, cleared.warmable.1, cleared.warmable.2, found]

/-- What an evaluation that goes on to the lock has checked, and what it leaves behind: it has consumed
    the recorded generation, and otherwise only the gate's record has changed. -/
structure Authorised (cfg : ManagerConfig) (now : ℚ) (t t' : TrackedLease) (g : ℕ) : Prop where
  targets : t.lease.activeTargets ≠ ∅
  idle : t.runtime.realRequestActive = false
  cool : t.runtime.warmRequestActive = false
  valid : t.lease.state ≠ .invalidated
  closed : t.runtime.circuitOpen = false
  due : IsDue cfg now t.lease
  economic : economicGate cfg t.lease = true
  current : g = t.lease.generation
  recorded : ∀ r, t.runtime.scheduledGeneration = some r → r = g
  after : t' =
    { lease := recordDecision cfg t.lease
      runtime := { t.runtime with scheduledGeneration := none, pendingWarm := false } }

theorem recordDecision_generation (cfg : ManagerConfig) (lease : CacheLease) :
    (recordDecision cfg lease).generation = lease.generation := by
  unfold recordDecision
  split <;> rfl

/-- An evaluation goes on to the lock only from a live, idle, due and economic lease whose recorded
    generation, if any, is current. -/
theorem evaluateLease_lock {cfg : ManagerConfig} {now : ℚ} {t t' : TrackedLease} {g : ℕ}
    (goes : evaluateLease cfg now t = (t', .lock g)) : Authorised cfg now t t' g := by
  unfold evaluateLease at goes
  split at goes
  · cases goes
  rename_i targets
  split at goes
  · cases goes
  rename_i idle
  split at goes
  · cases goes
  rename_i cool
  split at goes
  · cases goes
  rename_i valid
  split at goes
  · cases goes
  rename_i closed
  split at goes
  · cases goes
  rename_i dueAt deadline
  split at goes
  · cases goes
  rename_i due
  dsimp only at goes
  split at goes
  · rename_i gate
    unfold warmIfDue at goes
    dsimp only at goes
    rw [recordDecision_generation] at goes
    split at goes
    · cases goes
    split at goes
    · cases goes
    rename_i current
    rw [not_not] at current
    cases goes
    exact
      { targets := targets
        idle := by simpa using idle
        cool := by simpa using cool
        valid := valid
        closed := by simpa using closed
        due := ⟨dueAt, deadline, not_lt.1 due⟩
        economic := gate
        current := current.symm
        recorded := by
          intro r stored
          rw [stored]
          rfl
        after := rfl }
  · cases goes

end CachePilot
