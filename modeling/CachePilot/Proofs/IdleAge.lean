/-
Module: CachePilot.Proofs.IdleAge
Layer: Proofs
Purpose: The idle age that the learner feeds into the bounds, beside the warms of the event loop. The learner
  counts from the previous observation of the identity, and a warm is no observation, so the age is at most
  the time since the last verified touch exactly when no such touch is later than that observation. In a run
  whose clock does not go back a later touch is always one of a warm.
Trusted boundary: none
Main exports: TtlStore.fedAge, Learning, Learning.step, Learning.lastTouch, NoTouchSince,
  idle_age_within_touch_iff
-/
import CachePilot.Proofs.FailedObservations
import CachePilot.Proofs.TouchEvidence

namespace CachePilot

/-- The idle age that an observation feeds into the bounds of its profile, if it feeds one. -/
def TtlStore.fedAge (endpointHash : String → String) (s : TtlStore) (obs : TTLObservation) : Option ℚ :=
  (s.cleanEvidence endpointHash obs).map ThresholdBounds.Evidence.limit

/-- A verified observation of a named route feeds the age of its clean pair, any other one nothing. -/
theorem TtlStore.fedAge_eq (endpointHash : String → String) {s : TtlStore} {events : List TtlEvent}
    (holds : s.Holds events) {obs : TTLObservation} (named : obs.Named) :
    s.fedAge endpointHash obs = if obs.outcome.isVerified then pairAge events obs else none := by
  have positive : ∀ age ∈ pairAge events obs, 0 < age := fun age fed => pairAge_pos fed
  unfold TtlStore.fedAge
  rw [cleanEvidence_eq endpointHash holds named]
  cases obs.outcome with
  | failed => rfl
  | successUnverified => rfl
  | confirmedHit =>
      rw [evidence_hit positive, Option.map_map]
      exact Option.map_id'
  | missRebuilt =>
      rw [evidence_miss positive, Option.map_map]
      exact Option.map_id'

/-! ### The learner beside the event loop -/

/-- A verified touch of a cache entry, by a normal request or by a warm. -/
structure VerifiedTouch where
  cacheFingerprint : String
  time : ℚ
  byWarm : Bool
deriving DecidableEq

/-- The event loop, and the history of what has reached the learner's store. The verified touches so far are
    kept only to be spoken about. -/
structure Learning where
  world : World
  events : List TtlEvent := []
  touches : List VerifiedTouch := []

/-- An action of the event loop, a completed request that is observed, or a churn event. -/
inductive LearningAction where
  | loop (a : Action)
  | observed (obs : TTLObservation)
  | churned (event : ChurnRecord)

/-- The fingerprint that a warm verifiably touches when its executor returns. -/
def World.warmTouch (w : World) : Action → Option String
  | .executeReturns tid answer =>
      match w.pointOf tid with
      | some (.executing _ fp _) => if answer.toWarmResult.touchesCache then some fp else none
      | _ => none
  | _ => none

namespace Learning

/-- The learner's store. -/
def store (endpointHash : String → String) (s : Learning) : TtlStore :=
  TtlStore.ofHistory endpointHash s.events

/-- The last verified touch of a cache identity. -/
def lastTouch (s : Learning) (cacheFingerprint : String) : Option VerifiedTouch :=
  KeyedLog.lastFor VerifiedTouch.cacheFingerprint s.touches cacheFingerprint

/-- An observation is recorded with the time at which the request is completed. -/
def stamped (s : Learning) (obs : TTLObservation) : TTLObservation :=
  { obs with timestamp := s.world.clock }

/-- The touch that an observed request verifies. -/
def observedTouch (s : Learning) (obs : TTLObservation) : List VerifiedTouch :=
  if obs.outcome.isVerified then
    [{ cacheFingerprint := obs.cacheFingerprint, time := s.world.clock, byWarm := false }]
  else []

/-- One step. An action of the event loop reaches no learner, also when it is the return of a warm. -/
def step (cfg : ManagerConfig) (s : Learning) : LearningAction → Option Learning
  | .loop a => (CachePilot.step cfg s.world a).map fun world =>
      { s with
        world
        touches := s.touches ++ (s.world.warmTouch a).toList.map fun cacheFingerprint =>
          { cacheFingerprint, time := s.world.clock, byWarm := true } }
  | .observed obs => some
      { s with
        events := s.events ++ [.observed (s.stamped obs)]
        touches := s.touches ++ s.observedTouch obs }
  | .churned event => some { s with events := s.events ++ [.churned event] }

/-- Runs of the two together. -/
abbrev exec (cfg : ManagerConfig) : Learning → List LearningAction → Option Learning :=
  Execution.exec (step cfg)

/-- The age that an observation feeds is at most the time since the last verified touch of its identity. -/
def AgeWithinTouch (endpointHash : String → String) (s : Learning) (obs : TTLObservation) : Prop :=
  ∀ age ∈ (s.store endpointHash).fedAge endpointHash (s.stamped obs),
    ∀ touch ∈ s.lastTouch obs.cacheFingerprint, age ≤ s.world.clock - touch.time

/-- If the observation is verified and makes a clean pair with the previous one of its identity, then no
    verified touch of the identity is later than that previous observation. -/
def NoTouchSince (s : Learning) : LearningAction → Prop
  | .observed obs =>
      obs.outcome.isVerified = true →
        ∀ previous ∈ lastObservation s.events obs.cacheFingerprint,
          CleanPair (churnOf s.events) previous (s.stamped obs) →
            ∀ touch ∈ s.lastTouch obs.cacheFingerprint, touch.time ≤ previous.timestamp
  | _ => True

instance NoTouchSince.decidable (s : Learning) : ∀ a, Decidable (s.NoTouchSince a)
  | .observed _ => inferInstanceAs (Decidable (_ → _))
  | .loop _ => inferInstanceAs (Decidable True)
  | .churned _ => inferInstanceAs (Decidable True)

/-- The two conditions are the same at every observation of a named route. -/
theorem ageWithinTouch_iff (endpointHash : String → String) (s : Learning) {obs : TTLObservation}
    (named : obs.Named) : s.AgeWithinTouch endpointHash obs ↔ s.NoTouchSince (.observed obs) := by
  have holds : (s.store endpointHash).Holds s.events := holds_ofHistory endpointHash s.events
  have stamped : (s.stamped obs).Named := named
  have fed := TtlStore.fedAge_eq endpointHash holds stamped
  constructor
  · intro within verified previous last clean touch touched
    have age : (s.store endpointHash).fedAge endpointHash (s.stamped obs) =
        some (s.world.clock - previous.timestamp) := by
      rw [fed]
      exact (if_pos verified).trans (Option.bind_eq_some_iff.2 ⟨previous, last, if_pos clean⟩)
    have bound := within _ age touch touched
    linarith
  · intro quiet age aged touch touched
    rw [fed] at aged
    split at aged
    · rename_i verified
      obtain ⟨previous, last, paired⟩ := Option.bind_eq_some_iff.1 aged
      split at paired
      · rename_i clean
        cases paired
        have bound := quiet verified previous last clean touch touched
        change s.world.clock - previous.timestamp ≤ s.world.clock - touch.time
        linarith
      · cases paired
    · cases aged

/-! ### Runs -/

/-- The action does not set the clock back. -/
def Forward (s : Learning) : LearningAction → Prop
  | .loop a => ClockForward s.world a
  | _ => True

instance Forward.decidable (s : Learning) : ∀ a, Decidable (s.Forward a)
  | .loop a => inferInstanceAs (Decidable (ClockForward s.world a))
  | .observed _ => inferInstanceAs (Decidable True)
  | .churned _ => inferInstanceAs (Decidable True)

/-- No touch is ahead of the clock, and a last touch that was no warm's is covered by an observation of the
    identity that is not earlier. -/
structure Ordered (s : Learning) : Prop where
  past : ∀ touch ∈ s.touches, touch.time ≤ s.world.clock
  covered : ∀ fp, ∀ touch ∈ s.lastTouch fp, touch.byWarm = false →
    ∃ previous ∈ lastObservation s.events fp, touch.time ≤ previous.timestamp

theorem lastObservation_observed (events : List TtlEvent) (obs : TTLObservation) (fp : String) :
    lastObservation (events ++ [.observed obs]) fp =
      if obs.cacheFingerprint = fp then some obs else lastObservation events fp := by
  unfold lastObservation observationsOf
  rw [List.filterMap_append]
  exact KeyedLog.lastFor_append

theorem lastObservation_churned (events : List TtlEvent) (event : ChurnRecord) (fp : String) :
    lastObservation (events ++ [.churned event]) fp = lastObservation events fp := by
  unfold lastObservation observationsOf
  rw [List.filterMap_append]
  exact congrArg (fun rows => KeyedLog.lastFor TTLObservation.cacheFingerprint rows fp)
    (List.append_nil _)

variable {cfg : ManagerConfig} {s s' : Learning}

/-- What the event loop does keeps the order: a warm's touch is the only one it adds. -/
theorem ordered_loop {a : Action} (stepped : s.step cfg (.loop a) = some s')
    (forward : ClockForward s.world a) (ordered : s.Ordered) : s'.Ordered := by
  obtain ⟨world, moved, rfl⟩ := Option.map_eq_some_iff.1 stepped
  have later : s.world.clock ≤ world.clock := clock_forward moved forward
  cases touches : s.world.warmTouch a with
  | none =>
      simp only [Option.toList_none, List.map_nil, List.append_nil]
      exact ⟨fun touch listed => (ordered.past touch listed).trans later, ordered.covered⟩
  | some touched =>
      simp only [Option.toList_some, List.map_cons, List.map_nil]
      constructor
      · intro touch listed
        rcases List.mem_append.1 listed with earlier | new
        · exact (ordered.past touch earlier).trans later
        · rw [List.mem_singleton.1 new]
          exact later
      · intro fp touch last normal
        simp only [lastTouch, KeyedLog.lastFor_append] at last
        split at last
        · cases last
          cases normal
        · exact ordered.covered fp touch last normal

/-- An observed request is itself the observation that covers the touches of its identity. -/
theorem ordered_observed {obs : TTLObservation} (ordered : s.Ordered)
    (stepped : s.step cfg (.observed obs) = some s') : s'.Ordered := by
  cases stepped
  have past : ∀ touch ∈ s.touches ++ s.observedTouch obs, touch.time ≤ s.world.clock := by
    intro touch listed
    rcases List.mem_append.1 listed with earlier | new
    · exact ordered.past touch earlier
    · unfold observedTouch at new
      split at new
      · rw [List.mem_singleton.1 new]
      · cases new
  refine ⟨past, ?_⟩
  intro fp touch last normal
  dsimp only
  rw [lastObservation_observed]
  by_cases own : (s.stamped obs).cacheFingerprint = fp
  · rw [if_pos own]
    exact ⟨_, rfl, past touch (KeyedLog.lastFor_mem last)⟩
  · rw [if_neg own]
    apply ordered.covered fp touch _ normal
    unfold lastTouch observedTouch at last
    dsimp only at last
    split at last
    · rw [KeyedLog.lastFor_append] at last
      split at last
      · rename_i same
        exact absurd same own
      · exact last
    · rwa [List.append_nil] at last

theorem ordered_step {a : LearningAction} (forward : s.Forward a)
    (stepped : s.step cfg a = some s') (ordered : s.Ordered) : s'.Ordered := by
  cases a with
  | loop a => exact ordered_loop stepped forward ordered
  | observed obs => exact ordered_observed ordered stepped
  | churned event =>
      cases stepped
      refine ⟨ordered.past, ?_⟩
      intro fp touch last normal
      dsimp only
      rw [lastObservation_churned]
      exact ordered.covered fp touch last normal

theorem ordered_start (w : World) : Ordered { world := w } where
  past := by
    intro touch listed
    cases listed
  covered := by
    intro fp touch last
    cases last

end Learning

/-- In every run of the event loop beside the learner, each observation feeds an age that is at most the time
    since the last verified touch of its identity exactly when no verified touch is later than the previous
    observation that the age is counted from. If the clock does not go back, a touch that is later was made
    by a warm. -/
theorem idle_age_within_touch_iff (cfg : ManagerConfig) (endpointHash : String → String)
    {start : World} {acts : List LearningAction}
    (named : ∀ obs, .observed obs ∈ acts → obs.Named) :
    ((∀ before obs after u, acts = before ++ .observed obs :: after →
        Learning.exec cfg { world := start } before = some u → u.AgeWithinTouch endpointHash obs) ↔
      Execution.Along (Learning.step cfg) Learning.NoTouchSince { world := start } acts) ∧
    (Execution.Along (Learning.step cfg) Learning.Forward { world := start } acts →
      ∀ before after u fp, acts = before ++ after →
        Learning.exec cfg { world := start } before = some u →
        ∀ previous ∈ lastObservation u.events fp, ∀ touch ∈ u.lastTouch fp,
          previous.timestamp < touch.time → touch.byWarm = true) := by
  constructor
  · rw [Execution.along_iff]
    constructor
    · intro within before a after u split reached
      cases a with
      | loop a => trivial
      | churned event => trivial
      | observed obs =>
          have listed : .observed obs ∈ acts := by simp [split]
          exact (u.ageWithinTouch_iff endpointHash (named obs listed)).1
            (within before obs after u split reached)
    · intro quiet before obs after u split reached
      have listed : .observed obs ∈ acts := by simp [split]
      exact (u.ageWithinTouch_iff endpointHash (named obs listed)).2
        (quiet before _ after u split reached)
  · intro forward before after u fp split reached previous last touch touched later
    subst split
    have ordered : u.Ordered := Execution.invariant_along (Learning.ordered_start start)
      (fun _ _ _ ahead stepped held => Learning.ordered_step ahead stepped held) forward.left reached
    cases normal : touch.byWarm with
    | true => rfl
    | false =>
        obtain ⟨covering, found, atMost⟩ := ordered.covered fp touch touched normal
        rw [last] at found
        cases found
        exact absurd later atMost.not_gt

/-- A hit is observed at time 0. A warm of the identity confirms a hit at 250, and the next hit is observed at
    500. -/
def sampleKeptWarm : List LearningAction :=
  (sampleCreate "s" "fp" :: sampleTouch 0 "fp").map .loop ++ [.observed (sampleObservation .confirmedHit 0)] ++
    [.setClock 250, .evaluateLease 0 0, .resume 0,
      .executeReturns 0 (.returned { outcome := some .confirmedHit }), .setClock 500].map .loop

/-- Where a run that starts with nothing gets. -/
def sampleLearning (acts : List LearningAction) : Learning :=
  Execution.final (Learning.step sampleConfig) { world := {} } acts

theorem idle_age_within_touch_iff_sample :
    (sampleLearning [.observed (sampleObservation .confirmedHit 0), .loop (.setClock 100)]).AgeWithinTouch
      id (sampleObservation .confirmedHit 100) := by
  have named : ∀ obs, .observed obs ∈ [LearningAction.observed (sampleObservation .confirmedHit 0),
      .loop (.setClock 100), .observed (sampleObservation .confirmedHit 100)] → obs.Named := by
    simp [sampleObservation, TTLObservation.Named]
  have quiet : Execution.Along (Learning.step sampleConfig) Learning.NoTouchSince { world := {} }
      [LearningAction.observed (sampleObservation .confirmedHit 0), .loop (.setClock 100),
        .observed (sampleObservation .confirmedHit 100)] := by
    decide +kernel
  exact (idle_age_within_touch_iff sampleConfig id named).1.2 quiet _ _ [] _ rfl
    (Execution.exec_eq_final (by decide +kernel))

/-- The age that the hit at 500 feeds is 500, although a warm touched the entry 250 before it: the two are
    learned as a TTL of more than 500. -/
theorem warm_touch_not_counted :
    Learning.exec sampleConfig { world := {} } sampleKeptWarm = some (sampleLearning sampleKeptWarm) ∧
    ¬ (sampleLearning sampleKeptWarm).AgeWithinTouch id (sampleObservation .confirmedHit 500) ∧
    (sampleLearning sampleKeptWarm).lastTouch "fp" =
      some { cacheFingerprint := "fp", time := 250, byWarm := true } := by
  refine ⟨Execution.exec_eq_final (by decide +kernel), ?_, by decide +kernel⟩
  intro within
  have fed : ((sampleLearning sampleKeptWarm).store id).fedAge id
      ((sampleLearning sampleKeptWarm).stamped (sampleObservation .confirmedHit 500)) = some 500 := by
    decide +kernel
  have touch : (sampleLearning sampleKeptWarm).lastTouch "fp" =
      some { cacheFingerprint := "fp", time := 250, byWarm := true } := by
    decide +kernel
  have clock : (sampleLearning sampleKeptWarm).world.clock = 500 := by decide +kernel
  have bound := within 500 fed _ touch
  rw [clock] at bound
  norm_num at bound

end CachePilot
