/-
Module: CachePilot.Core.Leases
Layer: Core
Purpose: Cache leases and the lease manager: the lease record and its process-local runtime record, the
  settings, and every operation of the manager that runs without suspending. An operation on one lease
  is a function on `TrackedLease`, the pair of records that the manager keeps under one lease id; the
  manager applies it under that id and raises (`none`) when the id is unknown. Fresh lease ids stand for
  the random ids of the source. Log lines are left out.
Trusted boundary: the reading of leases.py, with exact times and costs; fresh ids never repeat
Main exports: CacheLease, LeaseSettings, LeaseRuntime, TrackedLease, ManagerConfig, LeaseManager,
  LeaseManager.findOrCreateLease, LeaseManager.modify
-/
import Mathlib.Data.Finset.Card
import CachePilot.Core.Economics
import CachePilot.Lib.LockTable

namespace CachePilot

/-- Lease ids; the source draws random ones, the model takes an unused number. -/
abbrev LeaseId := ℕ

/-- Tasks of the event loop that run lease evaluations. -/
abbrev TaskId := ℕ

/-- Cache lease state machine: the resting states. -/
inductive LeaseState where
  | inactive
  | armed
  | warmScheduled
  | warming
  | economicStop
  | invalidated
deriving DecidableEq, Repr, Inhabited

/-- The physical identity a request is correlated with. -/
structure LeaseIdentity where
  sessionId : String
  provider : String
  model : String
  apiMode : String
  baseUrl : String
  authScopeHash : String
  routeFingerprint : Option String
  requestFingerprint : String
  cacheFingerprint : String
  systemFingerprint : String
  toolsFingerprint : String
  historyPrefixFingerprint : String
deriving DecidableEq

/-- One cache lease. -/
structure CacheLease extends LeaseIdentity where
  leaseId : LeaseId
  lastRealRequestAt : ℚ := 0
  lastCacheTouchAt : Option ℚ := none
  lastConfirmedHitAt : Option ℚ := none
  estimatedTtlS : ℚ
  ttlConfidence : ℚ
  activeTargets : Finset String := ∅
  generation : ℕ := 0
  warmCount : ℕ := 0
  warmCostUsd : ℚ := 0
  estimatedColdResumeCostUsd : Option ℚ := none
  estimatedCachedResumeCostUsd : Option ℚ := none
  prefixTokens : Option ℕ := none
  nextWarmCostUsd : Option ℚ := none
  lastWarmDecision : Option WarmDecision := none
  state : LeaseState := .inactive

namespace CacheLease

/-- Transition to ARMED unless invalidated. -/
def arm (lease : CacheLease) : CacheLease :=
  if lease.state = .invalidated then lease else { lease with state := .armed }

theorem arm_eq (lease : CacheLease) :
    lease.arm =
      { lease with state := if lease.state = .invalidated then .invalidated else .armed } := by
  unfold arm
  split
  · rename_i dead
    rw [← dead]
  · rfl

/-- All targets complete: no watchdog relevance. -/
def disarm (lease : CacheLease) : CacheLease := { lease with state := .inactive }

end CacheLease

/-- Scheduling settings, with the bounds of the field declarations. -/
structure LeaseSettings where
  warmFraction : ℚ := 4 / 5
  minimumMarginS : ℚ := 10
  latencyMultiplier : ℚ := 2
  jitterFraction : ℚ := 3 / 100
  defaultTtlS : ℚ := 300
  schedulerIntervalS : ℚ := 1
  ttlForceSeconds : Option ℚ := none
  ttlMinimumSamples : ℕ := 3
  dryRun : Bool := true
  economics : EconomicConfig := EconomicConfig.standard
  pricing : Option PricingTable := none
  resumeProbability : ℚ := 95 / 100
  detachedResumeProbability : ℚ := 20 / 100
  warmFraction_pos : 0 < warmFraction := by decide +kernel
  warmFraction_le_one : warmFraction ≤ 1 := by decide +kernel
  minimumMarginS_nonneg : 0 ≤ minimumMarginS := by decide +kernel
  latencyMultiplier_nonneg : 0 ≤ latencyMultiplier := by decide +kernel
  jitterFraction_nonneg : 0 ≤ jitterFraction := by decide +kernel
  jitterFraction_le_one : jitterFraction ≤ 1 := by decide +kernel
  defaultTtlS_pos : 0 < defaultTtlS := by decide +kernel
  schedulerIntervalS_pos : 0 < schedulerIntervalS := by decide +kernel
  ttlForceSeconds_pos : ∀ s ∈ ttlForceSeconds, 0 < s := by decide +kernel
  ttlMinimumSamples_pos : 1 ≤ ttlMinimumSamples := by decide +kernel
  resumeProbability_nonneg : 0 ≤ resumeProbability := by decide +kernel
  resumeProbability_le_one : resumeProbability ≤ 1 := by decide +kernel
  detachedResumeProbability_nonneg : 0 ≤ detachedResumeProbability := by decide +kernel
  detachedResumeProbability_le_one : detachedResumeProbability ≤ 1 := by decide +kernel

/-- The settings with every field at its default. -/
def LeaseSettings.standard : LeaseSettings := {}

/-- Process-local lease state. -/
structure LeaseRuntime where
  realRequestActive : Bool := false
  warmRequestActive : Bool := false
  scheduledGeneration : Option ℕ := none
  pendingWarm : Bool := false
  consecutiveWarmMisses : ℕ := 0
  circuitOpen : Bool := false
deriving DecidableEq

/-- What the manager keeps under one lease id. The source makes the runtime record on first use; a
    record that was never made reads as the default one. -/
structure TrackedLease where
  lease : CacheLease
  runtime : LeaseRuntime := {}

/-- Constructor arguments of the lease manager that never change: settings, the latency estimate, which
    collaborators were injected, and the first eight bytes of a fingerprint's digest as a number. -/
structure ManagerConfig where
  settings : LeaseSettings := LeaseSettings.standard
  latencyP95S : ℚ := 4
  hasSnapshotStore : Bool := false
  hasWarmExecutor : Bool := false
  pricing : Option PricingTable := none
  priceOverride : Option ℚ := none
  digestPrefix : String → Fin (2 ^ 64) := fun _ => 0

/-- The configured price table: the constructor argument wins over the settings. -/
def ManagerConfig.pricingTable (cfg : ManagerConfig) : Option PricingTable :=
  cfg.pricing <|> cfg.settings.pricing

/-- What the TTL resolver answers when it is asked about a route. -/
inductive ResolverAnswer where
  | noResolver
  | resolved (ttlS confidence : ℚ)
  | raised
deriving DecidableEq

namespace TrackedLease

/-- Drop the pending-warm flag; the scheduled generation deliberately survives. -/
def cancelPendingWarm (t : TrackedLease) : TrackedLease :=
  { t with runtime.pendingWarm := false }

/-! ### Lifecycle -/

def arm (t : TrackedLease) : TrackedLease := { t with lease := t.lease.arm }

/-- Invalidate the lease: identity changed. Cancels any pending warm and drops in-flight flags. -/
def invalidate (t : TrackedLease) : TrackedLease :=
  { lease := { t.lease with state := .invalidated }
    runtime := { t.cancelPendingWarm.runtime with
      realRequestActive := false
      warmRequestActive := false } }

/-- Lease completion: all targets done, no more warming. -/
def complete (t : TrackedLease) : TrackedLease :=
  let t := { t with lease.activeTargets := ∅ }
  let t := t.cancelPendingWarm
  { t with lease := t.lease.disarm }

/-! ### Background targets -/

/-- First target arms the lease. -/
def targetStarted (targetId : String) (t : TrackedLease) : TrackedLease :=
  if targetId = "" then t
  else
    let t := { t with lease.activeTargets := insert targetId t.lease.activeTargets }
    if t.lease.activeTargets.card = 1 then { t with lease := t.lease.arm } else t

/-- Last target disarms the lease. -/
def targetFinished (targetId : String) (t : TrackedLease) : TrackedLease :=
  if targetId = "" then t
  else
    let t := { t with lease.activeTargets := t.lease.activeTargets.erase targetId }
    if t.lease.activeTargets = ∅ then
      let t := t.cancelPendingWarm
      { t with lease := t.lease.disarm }
    else t

/-! ### Real requests win -/

/-- A real request starts: bump the generation, cancel the pending warm. -/
def beforeNormalRequest (now : ℚ) (t : TrackedLease) : TrackedLease :=
  let t := { t with runtime.realRequestActive := true }
  let t := { t with
    lease.generation := t.lease.generation + 1
    lease.lastRealRequestAt := now }
  t.cancelPendingWarm

/-- A real request finished. The deadline resets for every outcome but FAILED; the breaker reopens only
    on a verified cache touch. -/
def afterNormalRequest (now : ℚ) (outcome : Outcome) (t : TrackedLease) : TrackedLease :=
  let t := { t with runtime.realRequestActive := false }
  if t.lease.state = .invalidated then t
  else if outcome = .failed then t
  else
    let t :=
      if outcome.isVerified then
        { t with runtime.circuitOpen := false, runtime.consecutiveWarmMisses := 0 }
      else t
    let t := { t with lease.lastCacheTouchAt := some now }
    let t :=
      if outcome = .confirmedHit then { t with lease.lastConfirmedHitAt := some now } else t
    if t.lease.activeTargets = ∅ then { t with lease := t.lease.disarm }
    else { t with lease := t.lease.arm }

/-! ### The operations as record updates -/

/-- A named target that starts joins the set, and arms a valid lease if it is the only one. -/
theorem targetStarted_named {targetId : String} (named : targetId ≠ "") (t : TrackedLease) :
    t.targetStarted targetId =
      { t with
        lease.activeTargets := insert targetId t.lease.activeTargets
        lease.state :=
          if (insert targetId t.lease.activeTargets).card = 1 ∧ t.lease.state ≠ .invalidated
          then .armed else t.lease.state } := by
  unfold targetStarted CacheLease.arm
  rw [if_neg named]
  dsimp only
  split
  · rename_i only
    cases valid : decide (t.lease.state = .invalidated) with
    | true =>
        have dead := of_decide_eq_true valid
        simp [dead]
    | false =>
        have alive := of_decide_eq_false valid
        simp [only, alive]
  · rename_i several
    simp [several]

/-- A named target that finishes leaves the set, and disarms the lease if it was the last. -/
theorem targetFinished_named {targetId : String} (named : targetId ≠ "") (t : TrackedLease) :
    t.targetFinished targetId =
      { lease := { t.lease with
          activeTargets := t.lease.activeTargets.erase targetId
          state :=
            if t.lease.activeTargets.erase targetId = ∅ then .inactive else t.lease.state }
        runtime := { t.runtime with
          pendingWarm :=
            if t.lease.activeTargets.erase targetId = ∅ then false else t.runtime.pendingWarm } } := by
  unfold targetFinished
  rw [if_neg named]
  dsimp only
  split
  · rename_i last
    simp only [last, cancelPendingWarm, CacheLease.disarm]
  · rfl

@[simp] theorem targetStarted_unnamed (t : TrackedLease) : t.targetStarted "" = t := rfl

@[simp] theorem targetFinished_unnamed (t : TrackedLease) : t.targetFinished "" = t := rfl

/-- A target that starts writes the targets and the state and nothing else. -/
theorem targetStarted_frame (targetId : String) (t : TrackedLease) :
    t.targetStarted targetId =
      { t with
        lease.activeTargets := (t.targetStarted targetId).lease.activeTargets
        lease.state := (t.targetStarted targetId).lease.state } := by
  rcases eq_or_ne targetId "" with rfl | named
  · rfl
  · rw [targetStarted_named named]

/-- A target that finishes writes the targets, the state and the pending warm and nothing else. -/
theorem targetFinished_frame (targetId : String) (t : TrackedLease) :
    t.targetFinished targetId =
      { lease := { t.lease with
          activeTargets := (t.targetFinished targetId).lease.activeTargets
          state := (t.targetFinished targetId).lease.state }
        runtime := { t.runtime with
          pendingWarm := (t.targetFinished targetId).runtime.pendingWarm } } := by
  rcases eq_or_ne targetId "" with rfl | named
  · rfl
  · rw [targetFinished_named named]

/-- The lease after a request that refreshed nothing. -/
def unrefreshed (t : TrackedLease) : TrackedLease := { t with runtime.realRequestActive := false }

/-- The lease after a request that touched the cache; a verified one also closes the circuit. -/
def refreshed (now : ℚ) (outcome : Outcome) (t : TrackedLease) : TrackedLease where
  lease := { t.lease with
    lastCacheTouchAt := some now
    lastConfirmedHitAt :=
      if outcome = .confirmedHit then some now else t.lease.lastConfirmedHitAt
    state := if t.lease.activeTargets = ∅ then .inactive else .armed }
  runtime := { t.runtime with
    realRequestActive := false
    circuitOpen := if outcome.isVerified then false else t.runtime.circuitOpen
    consecutiveWarmMisses := if outcome.isVerified then 0 else t.runtime.consecutiveWarmMisses }

/-- A request that failed, or whose lease is dead, refreshes nothing. -/
theorem afterNormalRequest_of_unrefreshed {now : ℚ} {outcome : Outcome} {t : TrackedLease}
    (reason : t.lease.state = .invalidated ∨ outcome = .failed) :
    t.afterNormalRequest now outcome = t.unrefreshed := by
  unfold afterNormalRequest
  dsimp only
  rcases reason with dead | failed
  · rw [if_pos dead]
    rfl
  · rw [if_pos failed]
    split <;> rfl

/-- Every other request touches the cache. -/
theorem afterNormalRequest_of_refreshed {now : ℚ} {outcome : Outcome} {t : TrackedLease}
    (valid : t.lease.state ≠ .invalidated) (answered : outcome ≠ .failed) :
    t.afterNormalRequest now outcome = t.refreshed now outcome := by
  unfold afterNormalRequest refreshed
  dsimp only
  rw [if_neg valid, if_neg answered]
  by_cases idle : t.lease.activeTargets = ∅
  · cases outcome with
    | failed => exact absurd rfl answered
    | confirmedHit => simp [Outcome.isVerified, CacheLease.disarm, idle]
    | missRebuilt => simp [Outcome.isVerified, CacheLease.disarm, idle]
    | successUnverified => simp [Outcome.isVerified, CacheLease.disarm, idle]
  · cases outcome with
    | failed => exact absurd rfl answered
    | confirmedHit => simp [Outcome.isVerified, CacheLease.arm_eq, valid, idle]
    | missRebuilt => simp [Outcome.isVerified, CacheLease.arm_eq, valid, idle]
    | successUnverified => simp [Outcome.isVerified, CacheLease.arm_eq, valid, idle]

theorem afterNormalRequest_cases (now : ℚ) (outcome : Outcome) (t : TrackedLease) :
    ((t.lease.state = .invalidated ∨ outcome = .failed) ∧
      t.afterNormalRequest now outcome = t.unrefreshed) ∨
    ((t.lease.state ≠ .invalidated ∧ outcome ≠ .failed) ∧
      t.afterNormalRequest now outcome = t.refreshed now outcome) := by
  by_cases reason : t.lease.state = .invalidated ∨ outcome = .failed
  · exact Or.inl ⟨reason, afterNormalRequest_of_unrefreshed reason⟩
  · rw [not_or] at reason
    exact Or.inr ⟨reason, afterNormalRequest_of_refreshed reason.1 reason.2⟩

/-- A request that ends clears its flag and writes the touch times, the state and the circuit and nothing
    else. -/
theorem afterNormalRequest_frame (now : ℚ) (outcome : Outcome) (t : TrackedLease) :
    t.afterNormalRequest now outcome =
      { lease := { t.lease with
          lastCacheTouchAt := (t.afterNormalRequest now outcome).lease.lastCacheTouchAt
          lastConfirmedHitAt := (t.afterNormalRequest now outcome).lease.lastConfirmedHitAt
          state := (t.afterNormalRequest now outcome).lease.state }
        runtime := { t.runtime with
          realRequestActive := false
          circuitOpen := (t.afterNormalRequest now outcome).runtime.circuitOpen
          consecutiveWarmMisses :=
            (t.afterNormalRequest now outcome).runtime.consecutiveWarmMisses } } := by
  rcases afterNormalRequest_cases now outcome t with ⟨-, same⟩ | ⟨-, same⟩
  · rw [same]
    rfl
  · rw [same]
    rfl

/-! ### TTL and cost estimates -/

/-- Re-resolve the lease's TTL; without a resolver, or when it raises, the lease keeps its TTL. -/
def refreshTtl (answer : ResolverAnswer) (t : TrackedLease) : TrackedLease :=
  match answer with
  | .noResolver | .raised => t
  | .resolved ttlS confidence =>
      { t with lease.estimatedTtlS := ttlS, lease.ttlConfidence := confidence }

/-- The observed route is authoritative for the lease's route key. -/
def reconcileRoute (routeHash : String) (t : TrackedLease) : TrackedLease :=
  { t with lease.toLeaseIdentity.routeFingerprint := some routeHash }

/-- Refresh the lease's resume-cost estimates from request usage. Without usable usage the last known
    estimates stay; with unknown pricing they are forgotten and only a resolved request cost is kept as
    the predictor of the next warm. -/
def updateCostEstimates (cfg : ManagerConfig) (usage : TokenUsage) (t : TrackedLease) :
    TrackedLease :=
  if usage.promptTokens = 0 then t
  else
    let tokens := usage.promptTokens
    let t := { t with lease.prefixTokens := some tokens }
    match cfg.pricingTable with
    | some pricing =>
        let (cold, cached) := estimateResumeCosts tokens pricing
        let warmUsage : TokenUsage :=
          { promptTokens := tokens, cacheReadTokens := tokens, completionTokens := 1 }
        { t with
          lease.estimatedColdResumeCostUsd := some cold
          lease.estimatedCachedResumeCostUsd := some cached
          lease.nextWarmCostUsd := some (estimateCost warmUsage pricing) }
    | none =>
        let resolution := CostResolver.resolve usage none cfg.priceOverride
        { t with
          lease.estimatedColdResumeCostUsd := none
          lease.estimatedCachedResumeCostUsd := none
          lease.nextWarmCostUsd := if resolution.isKnown then resolution.amount else none }

/-- Refreshing the estimates writes the estimates and nothing else. -/
theorem updateCostEstimates_frame (cfg : ManagerConfig) (usage : TokenUsage) (t : TrackedLease) :
    t.updateCostEstimates cfg usage =
      { t with
        lease.prefixTokens := (t.updateCostEstimates cfg usage).lease.prefixTokens
        lease.estimatedColdResumeCostUsd :=
          (t.updateCostEstimates cfg usage).lease.estimatedColdResumeCostUsd
        lease.estimatedCachedResumeCostUsd :=
          (t.updateCostEstimates cfg usage).lease.estimatedCachedResumeCostUsd
        lease.nextWarmCostUsd := (t.updateCostEstimates cfg usage).lease.nextWarmCostUsd } := by
  unfold updateCostEstimates
  dsimp only
  split
  · rfl
  split
  · rfl
  · rfl

/-- Resolving the TTL writes the TTL and its confidence and nothing else. -/
theorem refreshTtl_frame (answer : ResolverAnswer) (t : TrackedLease) :
    t.refreshTtl answer =
      { t with
        lease.estimatedTtlS := (t.refreshTtl answer).lease.estimatedTtlS
        lease.ttlConfidence := (t.refreshTtl answer).lease.ttlConfidence } := by
  cases answer with
  | noResolver => rfl
  | raised => rfl
  | resolved ttlS confidence => rfl

end TrackedLease

/-! ### The registry -/

/-- The manager's mutable state: the leases in creation order, the single-valued index by cache
    fingerprint, and the locks by cache fingerprint. -/
structure LeaseManager where
  leases : Dict LeaseId TrackedLease := ∅
  byCacheFingerprint : Dict String LeaseId := ∅
  locks : LockTable String TaskId := ∅

namespace LeaseManager

/-- An id that no tracked lease has. -/
def freshId (m : LeaseManager) : LeaseId := (m.leases.keys.map Nat.succ).foldr max 0

/-- Apply an operation to the lease of an id; an unknown id raises. -/
def modify (m : LeaseManager) (id : LeaseId) (f : TrackedLease → TrackedLease) :
    Option LeaseManager :=
  (m.leases.get? id).map fun t => { m with leases := m.leases.set id (f t) }

/-- The lease that the index holds for this cache identity, if it belongs to the session. -/
def findExisting (m : LeaseManager) (identity : LeaseIdentity) : Option LeaseId :=
  match m.byCacheFingerprint.get? identity.cacheFingerprint with
  | none => none
  | some id =>
      match m.leases.get? id with
      | none => none
      | some t => if t.lease.sessionId = identity.sessionId then some id else none

/-- A live lease of the same session and provider under another cache fingerprint: a switch of
    identity invalidates it. -/
def supersedes (identity : LeaseIdentity) (t : TrackedLease) : Bool :=
  t.lease.sessionId = identity.sessionId ∧ t.lease.provider = identity.provider ∧
    t.lease.cacheFingerprint ≠ identity.cacheFingerprint ∧ t.lease.state ≠ .invalidated

/-- TTL and confidence of a new lease: the explicit value, else the resolver, else the default. The
    resolver may raise. -/
def initialTtl (cfg : ManagerConfig) (estimatedTtlS : Option ℚ) (ttlConfidence : ℚ)
    (answer : ResolverAnswer) : Option (ℚ × ℚ) :=
  match estimatedTtlS, answer with
  | some ttlS, _ => some (ttlS, ttlConfidence)
  | none, .noResolver => some (cfg.settings.defaultTtlS, ttlConfidence)
  | none, .resolved ttlS confidence => some (ttlS, confidence)
  | none, .raised => none

/-- A new lease of this identity, as it is first stored. -/
def newLease (identity : LeaseIdentity) (id : LeaseId) (ttlS confidence : ℚ) : TrackedLease :=
  { lease :=
      { identity with leaseId := id, estimatedTtlS := ttlS, ttlConfidence := confidence } }

/-- Invalidate every lease that this identity supersedes. -/
def invalidateSuperseded (m : LeaseManager) (identity : LeaseIdentity) : LeaseManager :=
  { m with leases := m.leases.mapValues fun t =>
      if supersedes identity t then t.invalidate else t }

/-- Store a new lease and point the fingerprint index at it. -/
def insertLease (m : LeaseManager) (identity : LeaseIdentity) (ttlS confidence : ℚ) :
    LeaseManager :=
  { m with
    leases := m.leases.set m.freshId (newLease identity m.freshId ttlS confidence)
    byCacheFingerprint := m.byCacheFingerprint.set identity.cacheFingerprint m.freshId }

/-- Find the lease for a physical cache identity, or create one. Returns the lease id, or none when the
    resolver raised; the superseded leases are invalid by then. -/
def findOrCreateLease (cfg : ManagerConfig) (m : LeaseManager) (identity : LeaseIdentity)
    (estimatedTtlS : Option ℚ) (ttlConfidence : ℚ) (answer : ResolverAnswer) :
    LeaseManager × Option LeaseId :=
  match m.findExisting identity with
  | some id => (m, some id)
  | none =>
      let m := m.invalidateSuperseded identity
      match initialTtl cfg estimatedTtlS ttlConfidence answer with
      | none => (m, none)
      | some (ttlS, confidence) => (m.insertLease identity ttlS confidence, some m.freshId)

/-- Every tracked lease's cache fingerprint. -/
def cacheFingerprints (m : LeaseManager) : List String :=
  m.leases.values.map fun t => t.lease.cacheFingerprint

theorem lt_freshId {m : LeaseManager} {id : LeaseId} (known : id ∈ m.leases.keys) :
    id < m.freshId := by
  have bounded : ∀ ids : List LeaseId, id ∈ ids → id < (ids.map Nat.succ).foldr max 0 := by
    intro ids member
    induction ids with
    | nil => cases member
    | cons head rest inductionHypothesis =>
        simp only [List.map_cons, List.foldr_cons]
        rcases List.mem_cons.1 member with same | later
        · subst same
          exact lt_of_lt_of_le (Nat.lt_succ_self id) (le_max_left _ _)
        · exact lt_of_lt_of_le (inductionHypothesis later) (le_max_right _ _)
  exact bounded m.leases.keys known

/-- A fresh id names no tracked lease. -/
theorem get?_freshId (m : LeaseManager) : m.leases.get? m.freshId = none := by
  rw [← Dict.not_mem_keys_iff]
  intro known
  exact lt_irrefl _ (lt_freshId known)

end LeaseManager

end CachePilot
