/-
Module: CachePilot.Proofs.TtlProfiles
Layer: Proofs
Purpose: What one profile learns. Observing narrows the bounds by the evidence in the observation and counts
  it as a sample, and does nothing else to either. Against a provider with a fixed TTL the bounds therefore
  stay around that TTL, every hit and miss agrees with them, and the resolver answers with a positive TTL
  between them.
Trusted boundary: none
Main exports: TTLProfile.evidence, bounds_observe, sampleCount_observe, SoundProfile,
  soundProfile_observe, learned_bounds_sound
-/
import Mathlib.Tactic.NormNum
import CachePilot.Core.Ttl

namespace CachePilot

namespace TTLProfile

/-! ### One observation -/

/-- What an observation says about the TTL: a hit puts it above the idle age, a miss at most there. -/
def evidence (outcome : Outcome) (idleAgeS : Option ℚ) : Option (ThresholdBounds.Evidence ℚ) :=
  match outcome, idleAgeS with
  | .confirmedHit, some age => if 0 ≤ age then some (.above age) else none
  | .missRebuilt, some age => if 0 ≤ age then some (.upTo age) else none
  | _, _ => none

@[simp] theorem bounds_reestimate (p : TTLProfile) : p.reestimate.bounds = p.bounds := rfl
@[simp] theorem sampleCount_reestimate (p : TTLProfile) :
    p.reestimate.sampleCount = p.sampleCount := rfl
@[simp] theorem confidence_reestimate (p : TTLProfile) :
    p.reestimate.confidence = p.confidence := rfl
@[simp] theorem toRouteContext_reestimate (p : TTLProfile) :
    p.reestimate.toRouteContext = p.toRouteContext := rfl

/-- The estimate depends on the bounds alone. -/
theorem estimate_congr {p q : TTLProfile} (same : p.bounds = q.bounds) (hint : Option ℚ) :
    p.estimate hint = q.estimate hint := by
  have lower : p.lowerBoundS = q.lowerBoundS := congrArg ThresholdBounds.lower same
  have upper : p.upperBoundS = q.upperBoundS := congrArg ThresholdBounds.upper same
  unfold estimate
  rw [lower, upper]

theorem estimatedTtlS_reestimate (p : TTLProfile) :
    p.reestimate.estimatedTtlS = p.reestimate.estimate none :=
  estimate_congr rfl none

theorem bounds_observeHit (p : TTLProfile) {age : ℚ} (nonneg : 0 ≤ age) :
    (p.observeHit age).bounds = p.bounds.raise age := by
  cases known : p.lowerBoundS with
  | none => simp [bounds, observeHit, lowerAfterHit, ThresholdBounds.raise, known, nonneg]
  | some l => simp [bounds, observeHit, lowerAfterHit, ThresholdBounds.raise, known]

theorem bounds_observeMiss (p : TTLProfile) (age : ℚ) :
    (p.observeMiss age).bounds = p.bounds.cap age := rfl

/-- A successful observation that is no evidence adjusts the confidence at most. -/
theorem bounds_observe (p : TTLProfile) (outcome : Outcome) (idleAgeS : Option ℚ) :
    (p.observe outcome idleAgeS).bounds =
      (evidence outcome idleAgeS).elim p.bounds p.bounds.narrow := by
  cases outcome with
  | failed => rfl
  | successUnverified => rfl
  | confirmedHit =>
      cases idleAgeS with
      | none => rfl
      | some age =>
          by_cases nonneg : 0 ≤ age
          · simp [observe, evidence, nonneg, bounds_observeHit p nonneg, ThresholdBounds.narrow]
          · simp [observe, evidence, nonneg]
  | missRebuilt =>
      cases idleAgeS with
      | none => rfl
      | some age =>
          by_cases nonneg : 0 ≤ age
          · simp [observe, evidence, nonneg, bounds_observeMiss, ThresholdBounds.narrow]
          · simp [observe, evidence, nonneg]

/-- Exactly the evidence is counted. -/
theorem sampleCount_observe (p : TTLProfile) (outcome : Outcome) (idleAgeS : Option ℚ) :
    (p.observe outcome idleAgeS).sampleCount =
      p.sampleCount + (evidence outcome idleAgeS).toList.length := by
  cases outcome with
  | failed => rfl
  | successUnverified => rfl
  | confirmedHit =>
      cases idleAgeS with
      | none => rfl
      | some age =>
          by_cases nonneg : 0 ≤ age
          · simp [observe, evidence, nonneg, observeHit]
          · simp [observe, evidence, nonneg]
  | missRebuilt =>
      cases idleAgeS with
      | none => rfl
      | some age =>
          by_cases nonneg : 0 ≤ age
          · simp [observe, evidence, nonneg, observeMiss]
          · simp [observe, evidence, nonneg]

/-- An observation never moves a profile to another route. -/
theorem toRouteContext_observe (p : TTLProfile) (outcome : Outcome) (idleAgeS : Option ℚ) :
    (p.observe outcome idleAgeS).toRouteContext = p.toRouteContext := by
  unfold observe
  split
  · rfl
  · rfl
  · split
    · rfl
    · rfl
  · split
    · rfl
    · rfl
  · rfl
  · rfl

end TTLProfile

/-! ### A provider with a fixed TTL -/

/-- The observations that a provider with this TTL can produce: a hit comes before the TTL is over, a miss
    at its end or after. -/
def FixedTtl (ttl : ℚ) (outcome : Outcome) (idleAgeS : Option ℚ) : Prop :=
  ∀ age ∈ idleAgeS, 0 < age ∧ (outcome = .confirmedHit → age < ttl) ∧
    (outcome = .missRebuilt → ttl ≤ age)

/-- What a profile that learned from such a provider satisfies. -/
structure SoundProfile (ttl : ℚ) (p : TTLProfile) : Prop where
  around : p.bounds.Contains ttl
  lower_pos : ∀ l ∈ p.lowerBoundS, 0 < l
  estimated : p.estimatedTtlS = p.estimate none
  untaught : p.bounds = {} → p.confidence.value ≤ 1 / 2

namespace SoundProfile

variable {ttl : ℚ} {p : TTLProfile}

theorem fresh (route : RouteContext) : SoundProfile ttl { toRouteContext := route } where
  around := ThresholdBounds.contains_unknown
  lower_pos := by
    intro l known
    cases known
  estimated := rfl
  untaught := fun _ => le_rfl

/-- A hit before the end of the TTL cannot contradict a known upper bound. -/
theorem hitConsistent (sound : SoundProfile ttl p) {age : ℚ} (positive : 0 < age)
    (early : age < ttl) : p.hitConsistent age = true := by
  unfold TTLProfile.hitConsistent TTLProfile.lowerAfterHit
  cases capped : p.upperBoundS with
  | none => rfl
  | some u =>
      have ceiling : ttl ≤ u := sound.around.2 u capped
      have within : age ≤ u := (early.trans_le ceiling).le
      simp only [Option.all_some, decide_eq_true_eq]
      apply max_le _ within
      cases known : p.lowerBoundS with
      | none => exact positive.le.trans within
      | some l => exact ((sound.around.1 l known).trans_le ceiling).le

/-- A miss at the end of the TTL or later cannot contradict a known lower bound. -/
theorem missConsistent (sound : SoundProfile ttl p) {age : ℚ} (late : ttl ≤ age) :
    p.missConsistent age = true := by
  unfold TTLProfile.missConsistent TTLProfile.upperAfterMiss
  cases known : p.lowerBoundS with
  | none => rfl
  | some l =>
      have floor : l < ttl := sound.around.1 l known
      simp only [Option.all_some, decide_eq_true_eq]
      cases capped : p.upperBoundS with
      | none => exact (floor.trans_le late).le
      | some u => exact le_min (floor.trans_le (sound.around.2 u capped)).le (floor.trans_le late).le

/-- With an upper bound the estimate lies between the bounds, and it is positive. -/
theorem estimate_between (sound : SoundProfile ttl p) (positive : 0 < ttl) {u : ℚ}
    (capped : p.upperBoundS = some u) :
    ∃ e, (∀ hint, p.estimate hint = some e) ∧ (∀ l ∈ p.lowerBoundS, l ≤ e) ∧ e ≤ u ∧ 0 < e := by
  have ceiling : ttl ≤ u := sound.around.2 u capped
  have start : 0 ≤ p.lowerBoundS.getD 0 ∧ p.lowerBoundS.getD 0 < ttl := by
    cases known : p.lowerBoundS with
    | none => exact ⟨le_rfl, positive⟩
    | some l => exact ⟨(sound.lower_pos l known).le, sound.around.1 l known⟩
  have ordered : p.lowerBoundS.getD 0 < u := start.2.trans_le ceiling
  have between := ThresholdBounds.interpolate_between ordered.le
    (show (0 : ℚ) ≤ estimateIntervalFraction by norm_num [estimateIntervalFraction])
    (show estimateIntervalFraction ≤ 1 by norm_num [estimateIntervalFraction])
  refine ⟨_, fun hint => by simp only [TTLProfile.estimate, capped], ?_, between.2, ?_⟩
  · intro l known
    have reads : p.lowerBoundS.getD 0 = l := by rw [Option.mem_def.1 known]; rfl
    rw [← reads]
    exact between.1
  · have width : 0 < u - p.lowerBoundS.getD 0 := sub_pos.2 ordered
    have step : 0 < (u - p.lowerBoundS.getD 0) * estimateIntervalFraction :=
      mul_pos width (by norm_num [estimateIntervalFraction])
    exact add_pos_of_nonneg_of_pos start.1 step

/-- Without an upper bound the estimate is not below the lower bound. -/
theorem estimate_uncapped {hint : Option ℚ} {e : ℚ} (uncapped : p.upperBoundS = none)
    (estimated : p.estimate hint = some e) : ∀ l ∈ p.lowerBoundS, l ≤ e := by
  intro l known
  simp only [TTLProfile.estimate, uncapped, Option.mem_def.1 known] at estimated
  simp only [reduceCtorEq, and_false, if_false, Option.some.injEq, Option.getD_some] at estimated
  rw [← estimated]
  exact le_max_right _ _

/-- Every estimate lies between the bounds that are known. -/
theorem estimate_bounds (sound : SoundProfile ttl p) (positive : 0 < ttl) {hint : Option ℚ} {e : ℚ}
    (estimated : p.estimate hint = some e) :
    (∀ l ∈ p.lowerBoundS, l ≤ e) ∧ ∀ u ∈ p.upperBoundS, e ≤ u := by
  cases capped : p.upperBoundS with
  | none =>
      refine ⟨estimate_uncapped capped estimated, ?_⟩
      intro u known
      cases known
  | some u =>
      obtain ⟨e', same, above, below, -⟩ := sound.estimate_between positive capped
      rw [same hint] at estimated
      cases estimated
      refine ⟨above, ?_⟩
      intro u' known
      cases known
      exact below

/-- A profile that learned anything estimates a positive TTL. -/
theorem estimate_pos (sound : SoundProfile ttl p) (positive : 0 < ttl) (taught : p.bounds ≠ {})
    {hint : Option ℚ} {e : ℚ} (estimated : p.estimate hint = some e) : 0 < e := by
  cases capped : p.upperBoundS with
  | some u =>
      obtain ⟨e', same, -, -, above⟩ := sound.estimate_between positive capped
      rw [same hint] at estimated
      cases estimated
      exact above
  | none =>
      cases known : p.lowerBoundS with
      | none => exact absurd (by simp [TTLProfile.bounds, capped, known]) taught
      | some l => exact (sound.lower_pos l known).trans_le (estimate_uncapped capped estimated l known)

end SoundProfile

theorem Confidence.adjust_neg_le {c : Confidence} {delta bound : ℚ} (down : delta ≤ 0)
    (low : c.value ≤ bound) (floor : confidenceFloor ≤ bound) : (c.adjust delta).value ≤ bound := by
  apply (min_le_right _ _).trans
  exact max_le floor (by linarith)

/-- What one observation of such a provider does: the profile stays sound, and evidence moves the confidence
    by the delta of a consistent observation. -/
theorem soundProfile_observe {ttl : ℚ} {p : TTLProfile} {outcome : Outcome}
    {idleAgeS : Option ℚ} (sound : SoundProfile ttl p) (fixed : FixedTtl ttl outcome idleAgeS) :
    SoundProfile ttl (p.observe outcome idleAgeS) := by
  cases outcome with
  | failed => exact sound
  | successUnverified =>
      refine ⟨sound.around, sound.lower_pos, rfl, fun untaught => ?_⟩
      exact Confidence.adjust_neg_le (by norm_num [unverifiedDelta]) (sound.untaught untaught)
        (by norm_num [confidenceFloor])
  | confirmedHit =>
      cases idleAgeS with
      | none => exact ⟨sound.around, sound.lower_pos, rfl, sound.untaught⟩
      | some age =>
          obtain ⟨positive, early, -⟩ := fixed age rfl
          have bounds := p.bounds_observe .confirmedHit (some age)
          simp only [TTLProfile.evidence, positive.le, if_true, Option.elim_some] at bounds
          refine ⟨?_, ?_, ?_, ?_⟩
          · rw [bounds]
            exact ThresholdBounds.contains_narrow.2 ⟨sound.around, early rfl⟩
          · intro l known
            simp only [TTLProfile.observe, positive.le, if_true, TTLProfile.reestimate,
              TTLProfile.observeHit, Option.mem_some_iff] at known
            rw [← known]
            exact positive.trans_le (le_max_right _ _)
          · simp only [TTLProfile.observe]
            exact TTLProfile.estimatedTtlS_reestimate _
          · intro untaught
            have raised := congrArg ThresholdBounds.lower (bounds.symm.trans untaught)
            cases raised
  | missRebuilt =>
      cases idleAgeS with
      | none => exact ⟨sound.around, sound.lower_pos, rfl, sound.untaught⟩
      | some age =>
          obtain ⟨positive, -, late⟩ := fixed age rfl
          have bounds := p.bounds_observe .missRebuilt (some age)
          simp only [TTLProfile.evidence, positive.le, if_true, Option.elim_some] at bounds
          refine ⟨?_, ?_, ?_, ?_⟩
          · rw [bounds]
            exact ThresholdBounds.contains_narrow.2 ⟨sound.around, late rfl⟩
          · intro l known
            simp only [TTLProfile.observe, positive.le, if_true, TTLProfile.reestimate,
              TTLProfile.observeMiss] at known
            exact sound.lower_pos l known
          · simp only [TTLProfile.observe]
            exact TTLProfile.estimatedTtlS_reestimate _
          · intro untaught
            have capped := congrArg ThresholdBounds.upper (bounds.symm.trans untaught)
            cases capped

/-- The confidence after an observation of such a provider: evidence raises it by the delta of a consistent
    observation. -/
theorem confidence_observe {ttl age : ℚ} {p : TTLProfile} {outcome : Outcome}
    (sound : SoundProfile ttl p) (fixed : FixedTtl ttl outcome (some age)) :
    (outcome = .confirmedHit →
        (p.observe outcome (some age)).confidence = p.confidence.adjust hitDelta) ∧
      (outcome = .missRebuilt →
        (p.observe outcome (some age)).confidence = p.confidence.adjust missDelta) := by
  obtain ⟨positive, early, late⟩ := fixed age rfl
  constructor
  · rintro rfl
    simp [TTLProfile.observe, positive.le, TTLProfile.observeHit,
      sound.hitConsistent positive (early rfl)]
  · rintro rfl
    simp [TTLProfile.observe, positive.le, TTLProfile.observeMiss,
      sound.missConsistent (late rfl)]

/-- A fresh profile of a route after a list of observations. -/
def learnedProfile (route : RouteContext) (observations : List (Outcome × Option ℚ)) : TTLProfile :=
  observations.foldl (fun p o => p.observe o.1 o.2) { toRouteContext := route }

theorem soundProfile_learnedProfile {ttl : ℚ} (route : RouteContext)
    {observations : List (Outcome × Option ℚ)}
    (fixed : ∀ o ∈ observations, FixedTtl ttl o.1 o.2) :
    SoundProfile ttl (learnedProfile route observations) := by
  apply List.foldlRecOn observations (motive := SoundProfile ttl)
  · exact SoundProfile.fresh route
  · intro p sound o listed
    exact soundProfile_observe sound (fixed o listed)

/-! ### The resolver -/

/-- The tiers below a forced TTL. -/
theorem resolve_cases {r : TTLResolver} (endpointHash : String → String)
    (provider model apiMode endpoint : String) (routeHash : Option String)
    (adapterHint : Option TTLHint) (unforced : r.forceSeconds = none) :
    let resolution := r.resolve endpointHash provider model apiMode endpoint routeHash adapterHint
    (∃ find ∈ r.lookup, ∃ q ∈ find (joinKey provider model apiMode (endpointHash endpoint) routeHash),
      ∃ e ∈ q.trustedEstimate r.minimumSamples (adapterHint.map TTLHint.ttlS),
        resolution = { ttlS := e, confidence := q.confidence.value, source := .learned }) ∨
    (∃ hint ∈ adapterHint, 0 < hint.ttlS ∧
      resolution = { ttlS := hint.ttlS, confidence := hint.confidence, source := .adapterHint }) ∨
    resolution = { ttlS := r.defaultTtlS, confidence := 1 / 2, source := .default } := by
  intro resolution
  have read : resolution =
      r.resolve endpointHash provider model apiMode endpoint routeHash adapterHint := rfl
  simp only [TTLResolver.resolve, unforced] at read
  cases learned : ((r.lookup.bind fun find =>
      find (joinKey provider model apiMode (endpointHash endpoint) routeHash)).bind fun p =>
        (p.trustedEstimate r.minimumSamples (adapterHint.map TTLHint.ttlS)).map fun ttlS =>
          { ttlS, confidence := p.confidence.value, source := .learned : TTLResolution }) with
  | some answer =>
      obtain ⟨q, asked, found⟩ := Option.bind_eq_some_iff.1 learned
      obtain ⟨find, offered, answered⟩ := Option.bind_eq_some_iff.1 asked
      obtain ⟨e, trusted, made⟩ := Option.map_eq_some_iff.1 found
      rw [learned] at read
      exact Or.inl ⟨find, offered, q, answered, e, trusted, read.trans made.symm⟩
  | none =>
      rw [learned] at read
      cases hinted : adapterHint.filter fun hint => 0 < hint.ttlS with
      | some hint =>
          obtain ⟨given, usable⟩ := Option.filter_eq_some_iff.1 hinted
          rw [hinted] at read
          exact Or.inr (Or.inl ⟨hint, given, by simpa using usable, read⟩)
      | none =>
          rw [hinted] at read
          exact Or.inr (Or.inr read)

/-- A profile is trusted only after it learned something. -/
theorem SoundProfile.taught_of_trusted {ttl e : ℚ} {p : TTLProfile} (sound : SoundProfile ttl p)
    {minimumSamples : ℤ} {hint : Option ℚ}
    (trusted : e ∈ p.trustedEstimate minimumSamples hint) :
    p.estimate hint = some e ∧ p.bounds ≠ {} := by
  obtain ⟨estimated, confident⟩ := Option.filter_eq_some_iff.1 trusted
  simp only [Bool.and_eq_true, decide_eq_true_eq] at confident
  refine ⟨estimated, fun untaught => ?_⟩
  have low := sound.untaught untaught
  have high := confident.1
  norm_num [highConfidenceThreshold] at high
  linarith

/-- Over a sound profile the resolver answers with a positive TTL, and a learned one lies between the
    bounds. -/
theorem resolve_sound {ttl : ℚ} {p : TTLProfile} (sound : SoundProfile ttl p) (positive : 0 < ttl)
    {r : TTLResolver} {endpointHash : String → String} {provider model apiMode endpoint : String}
    {routeHash : Option String} {adapterHint : Option TTLHint} (unforced : r.forceSeconds = none)
    (fallback : 0 < r.defaultTtlS)
    (serves : ∀ find ∈ r.lookup,
      ∀ q ∈ find (joinKey provider model apiMode (endpointHash endpoint) routeHash), q = p) :
    let resolution := r.resolve endpointHash provider model apiMode endpoint routeHash adapterHint
    0 < resolution.ttlS ∧
      (resolution.source = .learned →
        (∀ l ∈ p.lowerBoundS, l ≤ resolution.ttlS) ∧ ∀ u ∈ p.upperBoundS, resolution.ttlS ≤ u) := by
  intro resolution
  rcases resolve_cases endpointHash provider model apiMode endpoint routeHash adapterHint unforced with
    ⟨find, offered, q, answered, e, trusted, read⟩ | ⟨hint, given, usable, read⟩ | read
  · obtain rfl := serves find offered q answered
    obtain ⟨estimated, taught⟩ := sound.taught_of_trusted trusted
    have is : resolution = { ttlS := e, confidence := q.confidence.value, source := .learned } := read
    rw [is]
    exact ⟨sound.estimate_pos positive taught estimated,
      fun learned => sound.estimate_bounds positive estimated⟩
  · have is : resolution = _ := read
    rw [is]
    refine ⟨usable, fun learned => ?_⟩
    cases learned
  · have is : resolution = _ := read
    rw [is]
    refine ⟨fallback, fun learned => ?_⟩
    cases learned

/-- Learned bounds are sound for a provider with a fixed TTL: after any observations, unverified and failed
    ones anywhere among them, the bounds are around the TTL and every estimate between them, every hit and
    miss was consistent when it was observed, the confidence is in its range, and the resolver's answer over
    the profile is positive and, when it is learned, between the bounds. -/
theorem learned_bounds_sound {ttl : ℚ} (positive : 0 < ttl) (route : RouteContext)
    (observations : List (Outcome × Option ℚ))
    (fixed : ∀ o ∈ observations, FixedTtl ttl o.1 o.2) :
    let p := learnedProfile route observations
    ((∀ l ∈ p.lowerBoundS, l < ttl) ∧ ∀ u ∈ p.upperBoundS, ttl ≤ u) ∧
      (∀ e, (p.estimatedTtlS = some e ∨ ∃ hint, p.estimate hint = some e) →
        (∀ l ∈ p.lowerBoundS, l ≤ e) ∧ ∀ u ∈ p.upperBoundS, e ≤ u) ∧
      (∀ before outcome age after, observations = before ++ (outcome, some age) :: after →
        let q := learnedProfile route before
        (outcome = .confirmedHit →
            (q.observe outcome (some age)).confidence = q.confidence.adjust hitDelta) ∧
          (outcome = .missRebuilt →
            (q.observe outcome (some age)).confidence = q.confidence.adjust missDelta)) ∧
      (confidenceFloor ≤ p.confidence.value ∧ p.confidence.value ≤ confidenceCeil) ∧
      ∀ (r : TTLResolver) (endpointHash : String → String)
        (provider model apiMode endpoint : String) (routeHash : Option String)
        (adapterHint : Option TTLHint), r.forceSeconds = none → 0 < r.defaultTtlS →
        (∀ find ∈ r.lookup,
          ∀ q ∈ find (joinKey provider model apiMode (endpointHash endpoint) routeHash), q = p) →
        let resolution :=
          r.resolve endpointHash provider model apiMode endpoint routeHash adapterHint
        0 < resolution.ttlS ∧
          (resolution.source = .learned →
            (∀ l ∈ p.lowerBoundS, l ≤ resolution.ttlS) ∧
              ∀ u ∈ p.upperBoundS, resolution.ttlS ≤ u) := by
  intro p
  have sound : SoundProfile ttl p := soundProfile_learnedProfile route fixed
  refine ⟨sound.around, ?_, ?_, ⟨p.confidence.floor_le, p.confidence.le_ceil⟩, ?_⟩
  · rintro e (stored | ⟨hint, estimated⟩)
    · rw [sound.estimated] at stored
      exact sound.estimate_bounds positive stored
    · exact sound.estimate_bounds positive estimated
  · intro before outcome age after split
    have earlier : ∀ o ∈ before, FixedTtl ttl o.1 o.2 := by
      intro o listed
      apply fixed
      rw [split]
      exact List.mem_append_left _ listed
    have here : FixedTtl ttl outcome (some age) := by
      apply fixed (outcome, some age)
      rw [split]
      exact List.mem_append_right _ List.mem_cons_self
    exact confidence_observe (soundProfile_learnedProfile route earlier) here
  · intro r endpointHash provider model apiMode endpoint routeHash adapterHint unforced fallback serves
    exact resolve_sound sound positive unforced fallback serves

/-- A hit at idle age 183 and a miss at 302, with a failed and an unverified observation in between. -/
def sampleAges : List (Outcome × Option ℚ) :=
  [(.confirmedHit, some 183), (.failed, some 20), (.successUnverified, some 40),
    (.missRebuilt, some 302)]

def sampleRoute : RouteContext where
  provider := "provider"
  model := "model"
  apiMode := "chat_completions"
  endpointHash := "endpoint"

theorem learned_bounds_sound_sample :
    (learnedProfile sampleRoute sampleAges).bounds = { lower := some 183, upper := some 302 } ∧
      (learnedProfile sampleRoute sampleAges).bounds.Contains 300 := by
  constructor
  · decide +kernel
  · have fixed : ∀ o ∈ sampleAges, FixedTtl 300 o.1 o.2 := by
      unfold sampleAges FixedTtl
      simp only [List.forall_mem_cons, List.not_mem_nil, false_imp_iff, implies_true, and_true,
        Option.mem_some_iff, forall_eq', reduceCtorEq]
      norm_num
    exact (learned_bounds_sound (by norm_num) sampleRoute sampleAges fixed).1

end CachePilot
