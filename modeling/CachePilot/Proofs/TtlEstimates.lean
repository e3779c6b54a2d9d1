/-
Module: CachePilot.Proofs.TtlEstimates
Layer: Proofs
Purpose: When the estimate of a profile respects its upper bound. The estimator interpolates from the lower bound
  towards the upper one, so it stays at the upper bound or below exactly when the bounds are in order, and the bounds
  of a profile are in order exactly when no hit it observed is older than a miss it observed. The resolver's learned
  tier answers with the estimate.
Trusted boundary: none
Main exports: EstimateCapped, NoOlderHit, estimateCapped_iff_inOrder, learned_inOrder_iff, estimate_capped_iff
-/
import CachePilot.Proofs.TtlProfiles

namespace CachePilot

/-- Whenever the upper bound of a profile is known, its estimate, the stored estimate and the TTL that a resolver
    answers with from the learned tier are at most that bound. -/
structure EstimateCapped (p : TTLProfile) : Prop where
  estimate : ∀ u ∈ p.upperBoundS, ∀ hint, ∀ e ∈ p.estimate hint, e ≤ u
  stored : ∀ u ∈ p.upperBoundS, ∀ e ∈ p.estimatedTtlS, e ≤ u
  learned : ∀ (r : TTLResolver) (endpointHash : String → String) (provider model apiMode endpoint : String)
    (routeHash : Option String) (adapterHint : Option TTLHint),
    (∀ find ∈ r.lookup, ∀ q ∈ find (joinKey provider model apiMode (endpointHash endpoint) routeHash), q = p) →
    let resolution := r.resolve endpointHash provider model apiMode endpoint routeHash adapterHint
    resolution.source = .learned → ∀ u ∈ p.upperBoundS, resolution.ttlS ≤ u

/-- No hit is older than a miss. -/
def NoOlderHit (observations : List (Outcome × Option ℚ)) : Prop :=
  ∀ hit miss, (.confirmedHit, some hit) ∈ observations → (.missRebuilt, some miss) ∈ observations →
    0 ≤ hit → 0 ≤ miss → hit ≤ miss

/-! ### The evidence in an observation -/

theorem evidence_eq_above {outcome : Outcome} {idleAgeS : Option ℚ} {value : ℚ} :
    TTLProfile.evidence outcome idleAgeS = some (.above value) ↔
      outcome = .confirmedHit ∧ idleAgeS = some value ∧ 0 ≤ value := by
  unfold TTLProfile.evidence
  split
  · rename_i age
    by_cases nonneg : 0 ≤ age
    · aesop
    · aesop
  · simp
  · aesop

theorem evidence_eq_upTo {outcome : Outcome} {idleAgeS : Option ℚ} {value : ℚ} :
    TTLProfile.evidence outcome idleAgeS = some (.upTo value) ↔
      outcome = .missRebuilt ∧ idleAgeS = some value ∧ 0 ≤ value := by
  unfold TTLProfile.evidence
  split
  · simp
  · rename_i age
    by_cases nonneg : 0 ≤ age
    · aesop
    · aesop
  · aesop

/-! ### The estimate and the bounds -/

/-- A learned answer is the trusted estimate of the profile that was looked up. -/
theorem resolve_learned {r : TTLResolver} {endpointHash : String → String}
    {provider model apiMode endpoint : String} {routeHash : Option String} {adapterHint : Option TTLHint}
    (learned : (r.resolve endpointHash provider model apiMode endpoint routeHash adapterHint).source = .learned) :
    ∃ find ∈ r.lookup, ∃ q ∈ find (joinKey provider model apiMode (endpointHash endpoint) routeHash), ∃ hint,
      q.estimate hint =
        some (r.resolve endpointHash provider model apiMode endpoint routeHash adapterHint).ttlS := by
  cases forced : r.forceSeconds with
  | some seconds =>
      have answer : (r.resolve endpointHash provider model apiMode endpoint routeHash adapterHint).source =
          .force := by
        unfold TTLResolver.resolve
        rw [forced]
      rw [answer] at learned
      cases learned
  | none =>
      rcases resolve_cases endpointHash provider model apiMode endpoint routeHash adapterHint forced with
        ⟨find, offered, q, found, e, trusted, answer⟩ | ⟨hint, -, -, answer⟩ | answer
      · refine ⟨find, offered, q, found, _, (Option.filter_eq_some_iff.1 trusted).1.trans ?_⟩
        rw [answer]
      · rw [answer] at learned
        cases learned
      · rw [answer] at learned
        cases learned

/-- With an upper bound the estimate is at most that bound exactly when the lower bound is. -/
theorem estimate_le_upper_iff {p : TTLProfile} {u : ℚ} (capped : p.upperBoundS = some u) (hint : Option ℚ) :
    (∀ e ∈ p.estimate hint, e ≤ u) ↔ p.lowerBoundS.getD 0 ≤ u := by
  have partly : estimateIntervalFraction < 1 := by norm_num [estimateIntervalFraction]
  simp only [TTLProfile.estimate, capped, Option.mem_some_iff, forall_eq']
  exact ThresholdBounds.interpolate_le_iff partly

/-- What a profile that learned from observations satisfies, consistent or not. -/
structure LearnedProfile (p : TTLProfile) : Prop where
  estimated : p.estimatedTtlS = p.estimate none
  upper_nonneg : ∀ u ∈ p.upperBoundS, 0 ≤ u

theorem LearnedProfile.observe {p : TTLProfile} (learned : LearnedProfile p) (outcome : Outcome)
    (idleAgeS : Option ℚ) : LearnedProfile (p.observe outcome idleAgeS) := by
  constructor
  · cases outcome with
    | failed => exact learned.estimated
    | successUnverified => rfl
    | confirmedHit =>
        cases idleAgeS with
        | none => rfl
        | some age => exact TTLProfile.estimatedTtlS_reestimate _
    | missRebuilt =>
        cases idleAgeS with
        | none => rfl
        | some age => exact TTLProfile.estimatedTtlS_reestimate _
  · have bounds := congrArg ThresholdBounds.upper (p.bounds_observe outcome idleAgeS)
    change (p.observe outcome idleAgeS).upperBoundS = _ at bounds
    rw [bounds]
    cases read : TTLProfile.evidence outcome idleAgeS with
    | none => exact learned.upper_nonneg
    | some e =>
        rw [Option.elim_some, ThresholdBounds.le_upper_narrow]
        refine ⟨learned.upper_nonneg, ?_⟩
        rintro value rfl
        exact (evidence_eq_upTo.1 read).2.2

theorem learnedProfile_learned (route : RouteContext) (observations : List (Outcome × Option ℚ)) :
    LearnedProfile (learnedProfile route observations) := by
  apply List.foldlRecOn observations (motive := LearnedProfile)
  · refine ⟨rfl, ?_⟩
    intro u known
    cases known
  · intro p learned o listed
    exact learned.observe o.1 o.2

/-- The estimate respects the upper bound exactly when the bounds are in order. -/
theorem estimateCapped_iff_inOrder {p : TTLProfile} (learned : LearnedProfile p) :
    EstimateCapped p ↔ p.bounds.InOrder := by
  constructor
  · intro capped l known u bounded
    have within := (estimate_le_upper_iff bounded none).1 (capped.estimate u bounded none)
    have lower : p.lowerBoundS = some l := known
    rwa [lower, Option.getD_some] at within
  · intro ordered
    have estimate : ∀ u ∈ p.upperBoundS, ∀ hint, ∀ e ∈ p.estimate hint, e ≤ u := by
      intro u bounded hint
      rw [estimate_le_upper_iff bounded]
      cases known : p.lowerBoundS with
      | none => exact learned.upper_nonneg u bounded
      | some l => exact ordered l known u bounded
    refine ⟨estimate, ?_, ?_⟩
    · intro u bounded
      rw [learned.estimated]
      exact estimate u bounded none
    · intro r endpointHash provider model apiMode endpoint routeHash adapterHint serves resolution tier u bounded
      obtain ⟨find, offered, q, found, hint, answer⟩ := resolve_learned tier
      obtain rfl := serves find offered q found
      exact estimate u bounded hint _ answer

/-! ### The bounds and the observations -/

/-- The bounds are narrowed by the evidence in the observations. -/
theorem bounds_learnedProfile (route : RouteContext) (observations : List (Outcome × Option ℚ)) :
    (learnedProfile route observations).bounds =
      (observations.filterMap fun o => TTLProfile.evidence o.1 o.2).foldl ThresholdBounds.narrow {} := by
  unfold learnedProfile
  induction observations using List.reverseRecOn with
  | nil => rfl
  | append_singleton earlier o ih =>
      rw [List.foldl_append, List.filterMap_append, List.foldl_append, ← ih, List.foldl_cons, List.foldl_nil,
        TTLProfile.bounds_observe]
      cases read : TTLProfile.evidence o.1 o.2 with
      | none => simp [read]
      | some e => simp [read]

/-- The bounds of a learned profile are in order exactly when no hit is older than a miss. -/
theorem learned_inOrder_iff (route : RouteContext) (observations : List (Outcome × Option ℚ)) :
    (learnedProfile route observations).bounds.InOrder ↔ NoOlderHit observations := by
  rw [bounds_learnedProfile, ThresholdBounds.inOrder_foldl_narrow_iff]
  simp only [List.mem_filterMap, Prod.exists, evidence_eq_above, evidence_eq_upTo]
  constructor
  · intro agree hit miss hitListed missListed hitAge missAge
    exact agree hit miss ⟨_, _, hitListed, rfl, rfl, hitAge⟩ ⟨_, _, missListed, rfl, rfl, missAge⟩
  · rintro younger hit miss ⟨_, _, hitListed, rfl, rfl, hitAge⟩ ⟨_, _, missListed, rfl, rfl, missAge⟩
    exact younger hit miss hitListed missListed hitAge missAge

/-- After any observations of a route the estimate respects a known upper bound exactly when no hit among them is
    older than a miss. -/
theorem estimate_capped_iff (route : RouteContext) (observations : List (Outcome × Option ℚ)) :
    EstimateCapped (learnedProfile route observations) ↔ NoOlderHit observations := by
  rw [estimateCapped_iff_inOrder (learnedProfile_learned route observations), learned_inOrder_iff]

/-- A miss at idle age 200 and five hits, four of them before it and one at 250. -/
def sampleContradiction : List (Outcome × Option ℚ) :=
  [(.confirmedHit, some 50), (.confirmedHit, some 100), (.confirmedHit, some 120), (.confirmedHit, some 150),
    (.confirmedHit, some 180), (.missRebuilt, some 200), (.confirmedHit, some 250)]

/-- The late hit leaves the upper bound at 200 and a trusted estimate above it, which the resolver answers with. -/
theorem late_hit_lifts_estimate :
    ¬ EstimateCapped (learnedProfile sampleRoute sampleContradiction) ∧
    (learnedProfile sampleRoute sampleContradiction).upperBoundS = some 200 ∧
    (learnedProfile sampleRoute sampleContradiction).estimate none = some (465 / 2) ∧
    TTLResolver.resolve { lookup := some fun _ => some (learnedProfile sampleRoute sampleContradiction) }
      id "p" "m" "chat" "e" none none = { ttlS := 465 / 2, confidence := 72 / 100, source := .learned } := by
  refine ⟨?_, by decide +kernel, by decide +kernel, by decide +kernel⟩
  rw [estimate_capped_iff]
  intro younger
  have order := younger 250 200 (by decide +kernel) (by decide +kernel) (by norm_num) (by norm_num)
  norm_num at order

end CachePilot
