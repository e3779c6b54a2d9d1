/-
Module: CachePilot.Core.RouteAffinity
Layer: Core
Purpose: Economic route affinity. A policy gates pinning on the expected savings, a registry holds at most one pin per
  lease, and a classifier says of a route change whether it made a warm request miss. Decimals are exact rationals.
  The registry numbers the pins that are set and keeps them, only for them to be spoken about.
Trusted boundary: the reading of route_affinity.py and route_intel.py, with exact decimals
Main exports: AffinityConfig, RouteAffinityPolicy.evaluate, AffinityEntry, RouteAffinityRegistry,
  RouteAffinityRegistry.activeRouteFor, RouterMissClassifier.classify
-/
import CachePilot.Core.Leases
import CachePilot.Core.StoredRecords
import CachePilot.Lib.Dict

namespace CachePilot

/-! ### The policy -/

/-- Route-affinity tunables. -/
structure AffinityConfig where
  enabled : Bool := false
  safetyMargin : ℚ := 0
  safetyMargin_nonneg : 0 ≤ safetyMargin := by decide

/-- Explainable outcome of one affinity evaluation. -/
structure AffinityDecision where
  apply : Bool
  reason : String
  expectedSavings : ℚ
  extraRouteCost : ℚ
  netBenefit : ℚ
  safetyMargin : ℚ
deriving DecidableEq

/-- Pin only when the expected savings, scaled by the continuation probability, strictly exceed the extra route cost
    and the safety margin. -/
def RouteAffinityPolicy.evaluate (config : AffinityConfig) (cacheRecomputeSavings extraRouteCost : ℚ)
    (resumeProbability : ℚ := 1) (safetyMargin : Option ℚ := none) : AffinityDecision :=
  let expected := cacheRecomputeSavings * max 0 (min 1 resumeProbability)
  let margin := safetyMargin.getD config.safetyMargin
  let apply := decide (extraRouteCost + margin < expected)
  { apply
    reason :=
      if apply then "expected_savings_exceed_extra_route_cost"
      else "expected_savings_do_not_cover_extra_route_cost"
    expectedSavings := expected
    extraRouteCost
    netBenefit := expected - extraRouteCost
    safetyMargin := margin }

/-! ### The registry -/

/-- One lease-scoped, temporary affinity. The serial number tells two pins with the same fields apart. -/
structure AffinityEntry where
  leaseId : LeaseId
  route : String
  expiresAt : ℚ
  generation : ℕ
  serial : ℕ
deriving DecidableEq

/-- In-memory affinity state, and every pin that was ever set. -/
structure RouteAffinityRegistry where
  entries : Dict LeaseId AffinityEntry := ∅
  issued : List AffinityEntry := []

namespace RouteAffinityRegistry

variable (r : RouteAffinityRegistry)

/-- Record (or replace) the affinity for one lease. -/
def set (leaseId : LeaseId) (route : String) (expiresAt : ℚ) (generation : ℕ) : RouteAffinityRegistry :=
  let entry : AffinityEntry := { leaseId, route, expiresAt, generation, serial := r.issued.length }
  { entries := r.entries.set leaseId entry, issued := r.issued ++ [entry] }

/-- Remove the affinity for one lease. -/
def clear (leaseId : LeaseId) : RouteAffinityRegistry := { r with entries := r.entries.erase leaseId }

/-- The pin whose route this lease's request is sent to. One that has expired, or was set in a later generation, is
    removed. -/
def activeRouteFor (now : ℚ) (leaseId : LeaseId) (generation : ℕ) : RouteAffinityRegistry × Option AffinityEntry :=
  match r.entries.get? leaseId with
  | none => (r, none)
  | some entry =>
      if entry.expiresAt ≤ now ∨ generation < entry.generation then (r.clear leaseId, none)
      else (r, some entry)

/-- The generation an entry was created under. -/
def generationFor (leaseId : LeaseId) : Option ℕ := (r.entries.get? leaseId).map AffinityEntry.generation

/-- Drop entries for leases that no longer exist. -/
def prune (activeLeaseIds : List LeaseId) : RouteAffinityRegistry :=
  let unknown := r.entries.keys.filter fun id => id ∉ activeLeaseIds
  { r with entries := unknown.foldl Dict.erase r.entries }

/-! ### What removing leaves -/

/-- Nothing was set, and what is left was there before. -/
structure Shrinks (r r' : RouteAffinityRegistry) : Prop where
  issued : r'.issued = r.issued
  kept : ∀ id entry, r'.entries.get? id = some entry → r.entries.get? id = some entry

variable {r}

theorem Shrinks.refl (r : RouteAffinityRegistry) : Shrinks r r := ⟨rfl, fun _ _ kept => kept⟩

theorem Shrinks.trans {r' r'' : RouteAffinityRegistry} (first : Shrinks r r') (second : Shrinks r' r'') :
    Shrinks r r'' :=
  ⟨second.issued.trans first.issued, fun id entry kept => first.kept id entry (second.kept id entry kept)⟩

theorem get?_clear (leaseId id : LeaseId) :
    (r.clear leaseId).entries.get? id = if id = leaseId then none else r.entries.get? id :=
  Dict.get?_erase r.entries leaseId id

theorem shrinks_clear (leaseId : LeaseId) : Shrinks r (r.clear leaseId) := by
  refine ⟨rfl, fun id entry kept => ?_⟩
  rw [get?_clear] at kept
  split at kept
  · cases kept
  · exact kept

theorem shrinks_prune (activeLeaseIds : List LeaseId) : Shrinks r (r.prune activeLeaseIds) := by
  refine ⟨rfl, fun id entry kept => ?_⟩
  unfold prune at kept
  dsimp only at kept
  rw [Dict.get?_foldl_erase] at kept
  split at kept
  · cases kept
  · exact kept

theorem shrinks_activeRouteFor (now : ℚ) (leaseId : LeaseId) (generation : ℕ) :
    Shrinks r (r.activeRouteFor now leaseId generation).1 := by
  unfold activeRouteFor
  split
  · exact Shrinks.refl r
  · split
    · exact shrinks_clear leaseId
    · exact Shrinks.refl r

/-- A pin that is active is the lease's own, has not expired, and was not set in a later generation; it stays. -/
theorem activeRouteFor_eq_some {now : ℚ} {leaseId : LeaseId} {generation : ℕ} {entry : AffinityEntry}
    (active : (r.activeRouteFor now leaseId generation).2 = some entry) :
    (r.activeRouteFor now leaseId generation).1 = r ∧ r.entries.get? leaseId = some entry ∧ now < entry.expiresAt ∧
      entry.generation ≤ generation := by
  unfold activeRouteFor at active ⊢
  split at active
  · cases active
  · rename_i found known
    split at active
    · cases active
    · rename_i live
      cases active
      rw [not_or, not_le, not_lt] at live
      rw [known, if_neg (not_or.mpr ⟨not_le.mpr live.1, not_lt.mpr live.2⟩)]
      exact ⟨rfl, rfl, live.1, live.2⟩

end RouteAffinityRegistry

/-! ### The classifier -/

/-- Classify one miss on a repeated logical request. -/
def RouterMissClassifier.classify (previousOutcome : Option Outcome) (previousRouteHash : Option String)
    (currentOutcome : Outcome) (currentRouteHash : Option String) (identityStable : Bool := true) :
    RouteMissVerdict :=
  let missed := identityStable && previousOutcome == some .confirmedHit && currentOutcome == .missRebuilt
  if previousRouteHash ≠ currentRouteHash then
    -- A genuine switch needs both identities observable.
    if previousRouteHash.isSome && currentRouteHash.isSome && missed then .routeInstability else .clean
  else if missed then .shortTtl
  else .clean

/-- A route made the request miss only when the same request had been warm on another route. -/
theorem RouterMissClassifier.classify_instability {previousOutcome : Option Outcome}
    {previousRouteHash : Option String} {currentOutcome : Outcome} {currentRouteHash : Option String}
    {identityStable : Bool}
    (unstable : classify previousOutcome previousRouteHash currentOutcome currentRouteHash identityStable =
      .routeInstability) : identityStable = true := by
  unfold classify at unstable
  dsimp only at unstable
  split at unstable
  · split at unstable
    · rename_i missed
      simp only [Bool.and_eq_true] at missed
      exact missed.2.1.1
    · cases unstable
  · split at unstable
    · cases unstable
    · cases unstable

end CachePilot
