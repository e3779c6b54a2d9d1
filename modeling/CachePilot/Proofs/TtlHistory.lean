/-
Module: CachePilot.Proofs.TtlHistory
Layer: Proofs
Purpose: What the learner does to the store, and what the store says about its history. Every profile is
  stored under its own key, so one observation writes the profile of its own route and no other; the last row
  of a fingerprint is the last observation of it; and only a clean pair of observations, on one route, in
  order of time and with no churn in between, moves the bounds or the sample count.
Trusted boundary: none
Main exports: TtlStore.WellKeyed, TtlStore.cleanAge, profileFor_learn, TtlStore.learned, learned_learn,
  CleanPair, cleanAge_eq_some_iff, only_clean_pairs_refine
-/
import CachePilot.Proofs.TtlProfiles

namespace CachePilot

variable {endpointHash : String → String} {s : TtlStore} {obs : TTLObservation}

namespace TtlStore

/-! ### One observation -/

/-- Every profile is stored under its own key. -/
def WellKeyed (s : TtlStore) : Prop := ∀ key, ∀ p ∈ s.profileFor key, p.profileKey = key

/-- The idle age that a clean observation feeds into its profile. -/
def cleanAge (s : TtlStore) (obs : TTLObservation) : Option ℚ :=
  (s.lastTtlObservation obs.cacheFingerprint).bind fun previous =>
    (obs.idleAgeSince previous).filter fun _ => s.stablePair obs previous

/-- The previous observation of the fingerprint was made on another route. -/
def routeChanged (s : TtlStore) (obs : TTLObservation) : Bool :=
  (s.lastTtlObservation obs.cacheFingerprint).any fun previous => previous.routeHash ≠ obs.routeHash

/-- The profile that a clean observation refines. -/
def refinable (endpointHash : String → String) (s : TtlStore) (obs : TTLObservation) :
    Option TTLProfile :=
  s.profileFor (obs.profileKey endpointHash) <|> obs.freshProfile endpointHash

/-- The profile that the learner writes, if it writes one: the refined one after a clean observation, the
    stored one with a fresh confidence after a route change. -/
def rewritten (endpointHash : String → String) (s : TtlStore) (obs : TTLObservation) :
    Option TTLProfile :=
  match s.cleanAge obs with
  | some age =>
      (s.refinable endpointHash obs).map fun p =>
        { p.observe obs.outcome (some age) with updatedAt := some obs.timestamp }
  | none =>
      if s.routeChanged obs then
        (s.profileFor (obs.profileKey endpointHash)).map fun p =>
          { p with confidence := Confidence.fresh, updatedAt := some obs.timestamp }
      else none

/-- The row that the learner records. -/
def learnedRow (endpointHash : String → String) (s : TtlStore) (obs : TTLObservation) :
    StoredTTLObservation :=
  rowOf endpointHash obs ((s.lastTtlObservation obs.cacheFingerprint).bind obs.idleAgeSince)
    (s.cleanAge obs).isSome

@[simp] theorem profileFor_recordTtlObservation (row : StoredTTLObservation) (key : String) :
    (s.recordTtlObservation row).profileFor key = s.profileFor key := rfl

@[simp] theorem profileFor_recordChurn (event : ChurnRecord) (key : String) :
    (s.recordChurn event).profileFor key = s.profileFor key := rfl

/-- Writing a profile that agrees with the stored identity replaces it and no other. -/
theorem profileFor_upsertProfile {p : TTLProfile}
    (identity : ∀ stored ∈ s.profileFor p.profileKey, stored.toRouteContext = p.toRouteContext)
    (key : String) :
    (s.upsertProfile p).profileFor key =
      if key = p.profileKey then some p else s.profileFor key := by
  unfold upsertProfile
  dsimp only [profileFor]
  rw [Dict.get?_set]
  split
  · cases known : s.profileFor p.profileKey with
    | none => simp only [profileFor] at known; rw [known]
    | some stored =>
        have same := identity stored known
        simp only [profileFor] at known
        rw [known]
        dsimp only
        rw [same]
  · rfl

end TtlStore

/-- The provider, the model and the API mode of an observation have names. -/
def TTLObservation.Named (obs : TTLObservation) : Prop :=
  obs.provider ≠ "" ∧ obs.model ≠ "" ∧ obs.apiMode ≠ ""

instance (obs : TTLObservation) : Decidable obs.Named := inferInstanceAs (Decidable (_ ∧ _))

theorem freshProfile_key {p : TTLProfile} (made : obs.freshProfile endpointHash = some p) :
    p.profileKey = obs.profileKey endpointHash := by
  unfold TTLObservation.freshProfile at made
  split at made
  · cases made
  · cases made
    rfl

namespace TtlStore

theorem refinable_key (keyed : s.WellKeyed) {p : TTLProfile}
    (refines : s.refinable endpointHash obs = some p) :
    p.profileKey = obs.profileKey endpointHash := by
  unfold refinable at refines
  cases known : s.profileFor (obs.profileKey endpointHash) with
  | some stored =>
      rw [known] at refines
      cases refines
      exact keyed _ p known
  | none =>
      rw [known] at refines
      exact freshProfile_key refines

/-- A clean observation of a named route always has a profile to refine. -/
theorem refinable_of_named (endpointHash : String → String) (s : TtlStore) {obs : TTLObservation}
    (named : obs.Named) : ∃ p, s.refinable endpointHash obs = some p := by
  unfold refinable TTLObservation.freshProfile
  cases s.profileFor (obs.profileKey endpointHash) with
  | some p => exact ⟨p, rfl⟩
  | none => exact ⟨_, by simp [named.1, named.2.1, named.2.2]; rfl⟩

/-- The stored profile of the route is the one that is refined. -/
theorem refinable_stored {p stored : TTLProfile} (refines : s.refinable endpointHash obs = some p)
    (known : s.profileFor (obs.profileKey endpointHash) = some stored) : stored = p := by
  unfold refinable at refines
  rw [known] at refines
  cases refines
  rfl

/-- A profile keeps its key when only its learned columns change. -/
theorem profileKey_congr {p q : TTLProfile} (same : p.toRouteContext = q.toRouteContext) :
    p.profileKey = q.profileKey := by
  unfold TTLProfile.profileKey
  rw [same]

/-- The cleanliness that the learner computes is that of a clean age. -/
theorem clean_eq (s : TtlStore) (obs : TTLObservation) :
    ((s.lastTtlObservation obs.cacheFingerprint).any fun previous =>
      (obs.idleAgeSince previous).isSome && s.stablePair obs previous) = (s.cleanAge obs).isSome := by
  unfold cleanAge
  cases s.lastTtlObservation obs.cacheFingerprint with
  | none => rfl
  | some previous =>
      cases aged : obs.idleAgeSince previous with
      | none => simp [aged]
      | some age =>
          cases stable : s.stablePair obs previous with
          | true => simp [aged, stable]
          | false => simp [aged, stable]

/-- A clean age is the idle age that the learner computed. -/
theorem idleAge_of_cleanAge {age : ℚ} (clean : s.cleanAge obs = some age) :
    (s.lastTtlObservation obs.cacheFingerprint).bind obs.idleAgeSince = some age := by
  obtain ⟨previous, last, aged⟩ := Option.bind_eq_some_iff.1 clean
  rw [last]
  exact (Option.filter_eq_some_iff.1 aged).1

/-- The learner records the row and then writes one profile or none. -/
theorem learn_eq :
    (s.learn endpointHash obs).1 =
      (s.rewritten endpointHash obs).elim
        (s.recordTtlObservation (s.learnedRow endpointHash obs))
        (s.recordTtlObservation (s.learnedRow endpointHash obs)).upsertProfile := by
  unfold learn rewritten
  simp only [profileFor_recordTtlObservation, clean_eq]
  cases clean : s.cleanAge obs with
  | some age =>
      have row : s.learnedRow endpointHash obs = rowOf endpointHash obs (some age) true := by
        rw [learnedRow, idleAge_of_cleanAge clean, clean, Option.isSome_some]
      rw [idleAge_of_cleanAge clean, row]
      simp only [Option.isSome_some, and_self, if_true]
      rw [← refinable]
      cases s.refinable endpointHash obs with
      | none => rfl
      | some p => rfl
  | none =>
      simp only [Option.isSome_none, Bool.false_eq_true, false_and, if_false]
      have row : s.learnedRow endpointHash obs = rowOf endpointHash obs
          ((s.lastTtlObservation obs.cacheFingerprint).bind obs.idleAgeSince) false := by
        rw [learnedRow, clean, Option.isSome_none]
      rw [row, routeChanged]
      cases s.lastTtlObservation obs.cacheFingerprint with
      | none => rfl
      | some previous =>
          cases known : s.profileFor (obs.profileKey endpointHash) with
          | none => simp
          | some p =>
              simp only [Option.any_some, decide_eq_true_eq]
              split
              · rfl
              · rfl

/-- What the learner writes belongs to the route of the observation, and is the stored profile moved on. -/
theorem rewritten_route (keyed : s.WellKeyed) {q : TTLProfile}
    (writes : s.rewritten endpointHash obs = some q) :
    q.profileKey = obs.profileKey endpointHash ∧
      ∀ old ∈ s.profileFor (obs.profileKey endpointHash),
        old.toRouteContext = q.toRouteContext := by
  unfold rewritten at writes
  cases clean : s.cleanAge obs with
  | some age =>
      rw [clean] at writes
      obtain ⟨p, refines, rfl⟩ := Option.map_eq_some_iff.1 writes
      have same : (p.observe obs.outcome (some age)).toRouteContext = p.toRouteContext :=
        p.toRouteContext_observe obs.outcome (some age)
      refine ⟨(profileKey_congr same).trans (refinable_key keyed refines), ?_⟩
      intro old known
      rw [refinable_stored refines known]
      exact same.symm
  | none =>
      rw [clean] at writes
      dsimp only at writes
      split at writes
      · obtain ⟨p, known, rfl⟩ := Option.map_eq_some_iff.1 writes
        refine ⟨keyed _ p known, ?_⟩
        intro old found
        rw [known] at found
        cases found
        rfl
      · cases writes

/-- One observation writes the profile of its own route and no other. -/
theorem profileFor_learn (keyed : s.WellKeyed) (key : String) :
    (s.learn endpointHash obs).1.profileFor key =
      if key = obs.profileKey endpointHash then
        (s.rewritten endpointHash obs).or (s.profileFor (obs.profileKey endpointHash))
      else s.profileFor key := by
  rw [learn_eq]
  cases writes : s.rewritten endpointHash obs with
  | none =>
      rw [Option.elim_none, profileFor_recordTtlObservation, Option.none_or]
      split
      · rename_i own
        rw [own]
      · rfl
  | some q =>
      obtain ⟨own, moved⟩ := rewritten_route keyed writes
      rw [← own] at moved ⊢
      exact profileFor_upsertProfile moved key

/-- The learner records one row and leaves the churn events alone. -/
theorem observations_learn :
    (s.learn endpointHash obs).1.observations =
      s.observations ++ [s.learnedRow endpointHash obs] := by
  rw [learn_eq]
  cases s.rewritten endpointHash obs with
  | none => rfl
  | some q => rfl

theorem churnEvents_learn : (s.learn endpointHash obs).1.churnEvents = s.churnEvents := by
  rw [learn_eq]
  cases s.rewritten endpointHash obs with
  | none => rfl
  | some q => rfl

theorem wellKeyed_learn (keyed : s.WellKeyed) : (s.learn endpointHash obs).1.WellKeyed := by
  intro key p found
  rw [profileFor_learn keyed] at found
  split at found
  · rename_i own
    cases writes : s.rewritten endpointHash obs with
    | none =>
        rw [writes, Option.none_or, ← own] at found
        exact keyed key p found
    | some q =>
        rw [writes] at found
        cases found
        rw [own]
        exact (rewritten_route keyed writes).1
  · exact keyed key p found

/-! ### What has been learned -/

/-- Bounds and sample count learned for a route; nothing is known of a route without a profile. -/
def learned (s : TtlStore) (key : String) : ThresholdBounds ℚ × ℕ :=
  ((s.profileFor key).map fun p => (p.bounds, p.sampleCount)).getD ({}, 0)

/-- The evidence that a clean observation brings. -/
def cleanEvidence (endpointHash : String → String) (s : TtlStore) (obs : TTLObservation) :
    Option (ThresholdBounds.Evidence ℚ) :=
  (s.refinable endpointHash obs).bind fun _ => TTLProfile.evidence obs.outcome (s.cleanAge obs)

theorem freshProfile_untaught {p : TTLProfile} (made : obs.freshProfile endpointHash = some p) :
    p.bounds = {} ∧ p.sampleCount = 0 := by
  unfold TTLObservation.freshProfile at made
  split at made
  · cases made
  · cases made
    exact ⟨rfl, rfl⟩

/-- The profile to be refined holds what was learned for the route. -/
theorem learned_refinable {p : TTLProfile} (refines : s.refinable endpointHash obs = some p) :
    s.learned (obs.profileKey endpointHash) = (p.bounds, p.sampleCount) := by
  unfold learned
  cases known : s.profileFor (obs.profileKey endpointHash) with
  | some old =>
      rw [refinable_stored refines known]
      rfl
  | none =>
      unfold refinable at refines
      rw [known] at refines
      obtain ⟨bounds, count⟩ := freshProfile_untaught refines
      rw [bounds, count]
      rfl

/-- The evidence of an observation that is not clean. -/
theorem evidence_none (outcome : Outcome) : TTLProfile.evidence outcome none = none := by
  cases outcome <;> rfl

/-- What is learned for the observation's own route. -/
theorem learned_rewritten :
    (((s.rewritten endpointHash obs).or (s.profileFor (obs.profileKey endpointHash))).map
        fun p => (p.bounds, p.sampleCount)).getD ({}, 0) =
      (s.cleanEvidence endpointHash obs).elim (s.learned (obs.profileKey endpointHash)) fun e =>
        ((s.learned (obs.profileKey endpointHash)).1.narrow e,
          (s.learned (obs.profileKey endpointHash)).2 + 1) := by
  unfold rewritten cleanEvidence
  cases clean : s.cleanAge obs with
  | some age =>
      cases refines : s.refinable endpointHash obs with
      | none => rfl
      | some p =>
          have bounds := p.bounds_observe obs.outcome (some age)
          have count := p.sampleCount_observe obs.outcome (some age)
          rw [learned_refinable refines]
          change ((p.observe obs.outcome (some age)).bounds,
            (p.observe obs.outcome (some age)).sampleCount) = _
          rw [bounds, count, Option.bind_some]
          cases TTLProfile.evidence obs.outcome (some age) with
          | none => rfl
          | some e => rfl
  | none =>
      have nothing : ((s.refinable endpointHash obs).bind fun _ =>
          TTLProfile.evidence obs.outcome none) = none := by
        simp [evidence_none]
      rw [nothing, Option.elim_none, learned]
      dsimp only
      split
      · cases s.profileFor (obs.profileKey endpointHash) with
        | none => rfl
        | some p => rfl
      · rw [Option.none_or]

/-- The bounds move by the clean evidence, which is counted, and by nothing else. -/
theorem learned_learn (keyed : s.WellKeyed) (key : String) :
    (s.learn endpointHash obs).1.learned key =
      if key = obs.profileKey endpointHash then
        (s.cleanEvidence endpointHash obs).elim (s.learned key) fun e =>
          ((s.learned key).1.narrow e, (s.learned key).2 + 1)
      else s.learned key := by
  rw [learned, profileFor_learn keyed]
  split
  · rename_i own
    rw [own]
    exact learned_rewritten
  · rfl

/-- An observation leaves what is learned of a route alone, or narrows it by its clean evidence. -/
theorem learned_learn_cases (keyed : s.WellKeyed) (key : String) :
    (s.learn endpointHash obs).1.learned key = s.learned key ∨
      ∃ e, s.cleanEvidence endpointHash obs = some e ∧
        ((s.learn endpointHash obs).1.learned key).1 = (s.learned key).1.narrow e := by
  rw [learned_learn keyed]
  split
  · cases s.cleanEvidence endpointHash obs with
    | none => exact Or.inl rfl
    | some e => exact Or.inr ⟨e, rfl, rfl⟩
  · exact Or.inl rfl

end TtlStore

/-! ### Histories -/

/-- The last observation of a fingerprint in a history. -/
def lastObservation (events : List TtlEvent) (cacheFingerprint : String) : Option TTLObservation :=
  KeyedLog.lastFor TTLObservation.cacheFingerprint (observationsOf events) cacheFingerprint

/-- What a row keeps of its observation for pairing. -/
def TTLObservation.stamp (obs : TTLObservation) : String × ℚ × Option String :=
  (obs.cacheFingerprint, obs.timestamp, obs.routeHash)

def StoredTTLObservation.stamp (row : StoredTTLObservation) : String × ℚ × Option String :=
  (row.cacheFingerprint, row.timestamp, row.routeHash)

/-- The store holds a history: its rows are the observations, its churn events are those recorded, and
    every profile is under its own key. -/
structure TtlStore.Holds (s : TtlStore) (events : List TtlEvent) : Prop where
  rows : s.observations.map StoredTTLObservation.stamp =
    (observationsOf events).map TTLObservation.stamp
  churn : s.churnEvents = churnOf events
  keyed : s.WellKeyed

theorem TtlStore.Holds.empty : TtlStore.Holds {} [] where
  rows := rfl
  churn := rfl
  keyed := by
    intro key p found
    cases found

/-- One more event. -/
theorem TtlStore.Holds.apply {events : List TtlEvent} (holds : s.Holds events) (e : TtlEvent) :
    (s.apply endpointHash e).Holds (events ++ [e]) := by
  cases e with
  | observed obs =>
      refine ⟨?_, ?_, wellKeyed_learn holds.keyed⟩
      · change (s.learn endpointHash obs).1.observations.map _ = _
        rw [observations_learn, List.map_append, holds.rows]
        simp [observationsOf, StoredTTLObservation.stamp, TTLObservation.stamp, learnedRow, rowOf]
      · change (s.learn endpointHash obs).1.churnEvents = _
        rw [churnEvents_learn, holds.churn]
        simp [churnOf]
  | churned event =>
      refine ⟨?_, ?_, holds.keyed⟩
      · change s.observations.map _ = _
        rw [holds.rows]
        simp [observationsOf]
      · change s.churnEvents ++ [event] = _
        rw [holds.churn]
        simp [churnOf]

/-- The store after a history holds that history. -/
theorem holds_ofHistory (endpointHash : String → String) (events : List TtlEvent) :
    (TtlStore.ofHistory endpointHash events).Holds events := by
  induction events using List.reverseRecOn with
  | nil => exact TtlStore.Holds.empty
  | append_singleton events e ih =>
      rw [TtlStore.ofHistory, List.foldl_append]
      exact ih.apply e

/-- The last row of a fingerprint is the last observation of it. -/
theorem lastTtlObservation_stamp {events : List TtlEvent} (holds : s.Holds events)
    (cacheFingerprint : String) :
    (s.lastTtlObservation cacheFingerprint).map StoredTTLObservation.stamp =
      (lastObservation events cacheFingerprint).map TTLObservation.stamp := by
  have rows : KeyedLog.lastFor Prod.fst (s.observations.map StoredTTLObservation.stamp)
      cacheFingerprint = (s.lastTtlObservation cacheFingerprint).map StoredTTLObservation.stamp :=
    KeyedLog.lastFor_map StoredTTLObservation.stamp (fun _ => rfl) s.observations cacheFingerprint
  have observed : KeyedLog.lastFor Prod.fst ((observationsOf events).map TTLObservation.stamp)
      cacheFingerprint = (lastObservation events cacheFingerprint).map TTLObservation.stamp :=
    KeyedLog.lastFor_map TTLObservation.stamp (fun _ => rfl) (observationsOf events)
      cacheFingerprint
  rw [holds.rows, observed] at rows
  exact rows.symm

/-! ### Clean pairs -/

/-- Two consecutive observations of a fingerprint say something about the TTL: one route, in order of time,
    and no churn event touching the fingerprint in the closed window between them. -/
@[mk_iff] structure CleanPair (churn : List ChurnRecord) (previous obs : TTLObservation) : Prop where
  sameRoute : previous.routeHash = obs.routeHash
  later : previous.timestamp < obs.timestamp
  undisturbed : ∀ e ∈ churn, e.touches obs.cacheFingerprint = true →
    ¬ (previous.timestamp ≤ e.timestamp ∧ e.timestamp ≤ obs.timestamp)

instance (churn : List ChurnRecord) (previous obs : TTLObservation) :
    Decidable (CleanPair churn previous obs) :=
  decidable_of_iff _ (cleanPair_iff churn previous obs).symm

/-- No churn in the window is what the store's query says. -/
theorem churnBetween_eq_false {start stop : ℚ} {cacheFingerprint : String} :
    s.churnBetween cacheFingerprint start stop = false ↔
      ∀ e ∈ s.churnEvents, e.touches cacheFingerprint = true →
        ¬ (start ≤ e.timestamp ∧ e.timestamp ≤ stop) := by
  unfold TtlStore.churnBetween
  simp only [List.any_eq_false, Bool.and_eq_true, decide_eq_true_eq, not_and, and_imp]

/-- The learner feeds an idle age exactly when the last observation makes a clean pair with this one, and
    then it is the time between the two. -/
theorem cleanAge_eq_some_iff {events : List TtlEvent} (holds : s.Holds events) {age : ℚ} :
    s.cleanAge obs = some age ↔
      ∃ previous, lastObservation events obs.cacheFingerprint = some previous ∧
        CleanPair (churnOf events) previous obs ∧ age = obs.timestamp - previous.timestamp := by
  have stamps := lastTtlObservation_stamp holds obs.cacheFingerprint
  unfold TtlStore.cleanAge
  cases last : lastObservation events obs.cacheFingerprint with
  | none =>
      rw [last, Option.map_none, Option.map_eq_none_iff] at stamps
      simp [stamps]
  | some previous =>
      rw [last, Option.map_some] at stamps
      obtain ⟨row, found, same⟩ := Option.map_eq_some_iff.1 stamps
      have time : row.timestamp = previous.timestamp := congrArg (fun x => x.2.1) same
      have route : row.routeHash = previous.routeHash := congrArg (fun x => x.2.2) same
      rw [found, Option.bind_some, Option.filter_eq_some_iff]
      simp only [TTLObservation.idleAgeSince, TtlStore.stablePair, time, route, Bool.and_eq_true,
        decide_eq_true_eq, Bool.not_eq_true', churnBetween_eq_false, holds.churn,
        Option.some.injEq, exists_eq_left']
      constructor
      · rintro ⟨aged, same, quiet⟩
        split at aged
        · rename_i later
          cases aged
          exact ⟨⟨same, sub_pos.1 later, quiet⟩, rfl⟩
        · cases aged
      · rintro ⟨⟨same, later, quiet⟩, rfl⟩
        exact ⟨by rw [if_pos (sub_pos.2 later)], same, quiet⟩

/-- No age is fed without a clean pair. -/
theorem cleanAge_eq_none {events : List TtlEvent} (holds : s.Holds events)
    (unclean : ¬ ∃ previous ∈ lastObservation events obs.cacheFingerprint,
      CleanPair (churnOf events) previous obs) : s.cleanAge obs = none := by
  rw [Option.eq_none_iff_forall_ne_some]
  intro age aged
  obtain ⟨previous, last, clean, -⟩ := (cleanAge_eq_some_iff holds).1 aged
  exact unclean ⟨previous, last, clean⟩

/-- The route changed exactly when the last observation was made on another one. -/
theorem routeChanged_iff {events : List TtlEvent} (holds : s.Holds events) :
    s.routeChanged obs = true ↔
      ∃ previous, lastObservation events obs.cacheFingerprint = some previous ∧
        previous.routeHash ≠ obs.routeHash := by
  have stamps := lastTtlObservation_stamp holds obs.cacheFingerprint
  unfold TtlStore.routeChanged
  cases last : lastObservation events obs.cacheFingerprint with
  | none =>
      rw [last, Option.map_none, Option.map_eq_none_iff] at stamps
      simp [stamps]
  | some previous =>
      rw [last, Option.map_some] at stamps
      obtain ⟨row, found, same⟩ := Option.map_eq_some_iff.1 stamps
      have route : row.routeHash = previous.routeHash := congrArg (fun x => x.2.2) same
      simp [found, route]

/-- Only clean pairs refine bounds. Whatever was observed before, and whatever churned, an observation moves
    what is learned only if it makes a clean pair with the last observation of its fingerprint; it writes no
    profile but its own route's; and when it is not clean that profile keeps everything, except that a route
    change brings its confidence back to the start and stamps it. -/
theorem only_clean_pairs_refine (endpointHash : String → String) (events : List TtlEvent)
    (obs : TTLObservation) :
    let s := TtlStore.ofHistory endpointHash events
    let s' := (s.learn endpointHash obs).1
    let previous? := lastObservation events obs.cacheFingerprint
    (∀ key, s'.learned key ≠ s.learned key →
        ∃ previous ∈ previous?, CleanPair (churnOf events) previous obs) ∧
      (∀ key, key ≠ obs.profileKey endpointHash → s'.profileFor key = s.profileFor key) ∧
      ((¬ ∃ previous ∈ previous?, CleanPair (churnOf events) previous obs) →
        s'.profileFor (obs.profileKey endpointHash) = s.profileFor (obs.profileKey endpointHash) ∨
          (∃ previous ∈ previous?, previous.routeHash ≠ obs.routeHash) ∧
            s'.profileFor (obs.profileKey endpointHash) =
              (s.profileFor (obs.profileKey endpointHash)).map fun p =>
                { p with confidence := Confidence.fresh, updatedAt := some obs.timestamp }) := by
  intro s s' previous?
  have holds : s.Holds events := holds_ofHistory endpointHash events
  have written : ∀ key, s'.profileFor key = if key = obs.profileKey endpointHash then
      (s.rewritten endpointHash obs).or (s.profileFor (obs.profileKey endpointHash))
      else s.profileFor key := TtlStore.profileFor_learn holds.keyed
  refine ⟨?_, ?_, ?_⟩
  · intro key changed
    by_contra unclean
    apply changed
    have moved : s'.learned key = _ := TtlStore.learned_learn holds.keyed key
    have nothing : s.cleanEvidence endpointHash obs = none := by
      simp [TtlStore.cleanEvidence, cleanAge_eq_none holds unclean, TtlStore.evidence_none]
    rwa [nothing, Option.elim_none, ite_self] at moved
  · intro key other
    exact (written key).trans (if_neg other)
  · intro unclean
    have own := (written (obs.profileKey endpointHash)).trans (if_pos rfl)
    rw [TtlStore.rewritten, cleanAge_eq_none holds unclean] at own
    dsimp only at own
    split at own
    · rename_i changed
      right
      refine ⟨(routeChanged_iff holds).1 changed, own.trans ?_⟩
      cases s.profileFor (obs.profileKey endpointHash) with
      | none => rfl
      | some p => rfl
    · left
      exact own

end CachePilot
