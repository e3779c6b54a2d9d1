/-
Module: CachePilot.Proofs.SimulatedProvider
Layer: Proofs
Purpose: The learner against the fake provider. The two keep different clocks: the provider counts an entry's
  expiry from the write, or from the last hit if hits extend it, and the learner counts the idle age from the
  previous completion. A hit is always younger than the TTL on both clocks. A miss proves an idle age of a
  full TTL only if the entry was written or extended by the previous completion, so the upper bound is sound
  exactly while no entry expires earlier than that.
Trusted boundary: none
Main exports: FakeProviderResult.observation, Simulation, simulate, Following, LateMiss,
  simulated_provider_bounds
-/
import Mathlib.Data.List.Chain
import CachePilot.Core.FakeProvider
import CachePilot.Lib.Execution
import CachePilot.Proofs.TtlHistory

namespace CachePilot

/-- What a completion tells the learner: a hit is a confirmed one, anything else rebuilt the entry. -/
def FakeProviderResult.observation (result : FakeProviderResult) (request : CanonicalRequest)
    (routeHash : Option String) (now : ℚ) : TTLObservation where
  outcome := if result.cacheHit then .confirmedHit else .missRebuilt
  cacheFingerprint := result.cacheFingerprint
  routeHash := routeHash
  provider := result.provider
  model := result.model
  apiMode := request.apiMode.value
  endpoint := request.endpoint
  timestamp := now

/-- The simulator, and the store of the learner that is fed its results. -/
structure Simulation where
  provider : FakeProvider := {}
  store : TtlStore := {}

section Simulated

variable (prims : TextPrimitives) (random : FakeRandomness) (endpointHash : String → String)
  (config : FakeProviderConfig) (request : CanonicalRequest) (routeHash : Option String)

/-- The observation of the completion at a time. -/
def Simulation.observed (s : Simulation) (now : ℚ) : TTLObservation :=
  (s.provider.complete prims random config request now).2.observation request routeHash now

/-- One completion, whose result is fed to the learner. -/
def Simulation.complete (s : Simulation) (now : ℚ) : Simulation where
  provider := (s.provider.complete prims random config request now).1
  store := (s.store.learn endpointHash
    (s.observed prims random config request routeHash now)).1

/-- Completions of the request at these times, by a simulator with an empty cache and a learner with an
    empty store. -/
def simulate (times : List ℚ) : Simulation :=
  times.foldl (Simulation.complete prims random endpointHash config request routeHash) {}

/-- A completion that finds the entry expired comes a full TTL after the previous completion. -/
def LateMiss (before : List ℚ) (now : ℚ) : Prop :=
  (simulate prims random endpointHash config request routeHash before).provider.isCached prims
      request now = false →
    ∀ last ∈ before.getLast?, config.ttlS ≤ now - last

/-- The simulator and the learner after completions at these times: the last row of the fingerprint was
    made by the last of them, and the entry expires after it, at most one TTL later. -/
structure Following (before : List ℚ) (s : Simulation) : Prop where
  keyed : s.store.WellKeyed
  quiet : s.store.churnEvents = []
  rows : (s.store.lastTtlObservation (cacheFingerprint prims request)).map
    (fun row => (row.timestamp, row.routeHash)) = before.getLast?.map fun last => (last, routeHash)
  cold : before.getLast? = none → s.provider.cache.get? (cacheFingerprint prims request) = none
  entry : ∀ last ∈ before.getLast?,
    ∃ expiresAt, s.provider.cache.get? (cacheFingerprint prims request) = some expiresAt ∧
      last < expiresAt ∧ expiresAt ≤ last + config.ttlS ∧
      (config.refreshOnHit = true → expiresAt = last + config.ttlS)
  below : ∀ key, ∀ l ∈ (s.store.learned key).1.lower, l < config.ttlS

variable {prims random endpointHash config request routeHash}
variable {before : List ℚ} {s : Simulation} {now : ℚ}

theorem simulate_snoc :
    simulate prims random endpointHash config request routeHash (before ++ [now]) =
      (simulate prims random endpointHash config request routeHash before).complete prims random
        endpointHash config request routeHash now := by
  simp only [simulate, List.foldl_append, List.foldl_cons, List.foldl_nil]

theorem following_nil :
    Following prims config request routeHash [] ({} : Simulation) where
  keyed := by
    intro key p found
    cases found
  quiet := rfl
  rows := rfl
  cold := fun _ => rfl
  entry := by
    intro last listed
    cases listed
  below := by
    intro key l known
    cases known

/-- The idle age that the learner measures is the time since the previous completion. -/
theorem Following.cleanAge (following : Following prims config request routeHash before s)
    (later : ∀ last ∈ before.getLast?, last < now) :
    s.store.cleanAge (s.observed prims random config request routeHash now) =
      before.getLast?.map fun last => now - last := by
  have rows := following.rows
  unfold TtlStore.cleanAge
  change ((s.store.lastTtlObservation (cacheFingerprint prims request)).bind _) = _
  cases ended : before.getLast? with
  | none =>
      rw [ended, Option.map_none, Option.map_eq_none_iff] at rows
      rw [rows]
      rfl
  | some last =>
      rw [ended, Option.map_some] at rows
      obtain ⟨row, found, same⟩ := Option.map_eq_some_iff.1 rows
      have time : row.timestamp = last := congrArg Prod.fst same
      have route : row.routeHash = routeHash := congrArg Prod.snd same
      have quiet : ∀ fp start stop, s.store.churnBetween fp start stop = false := by
        intro fp start stop
        rw [TtlStore.churnBetween, following.quiet, List.any_nil]
      have aged : (s.observed prims random config request routeHash now).idleAgeSince row =
          some (now - last) := by
        have positive : 0 < now - last := sub_pos.2 (later last ended)
        unfold TTLObservation.idleAgeSince
        rw [time]
        exact if_pos positive
      have stable :
          s.store.stablePair (s.observed prims random config request routeHash now) row = true := by
        unfold TtlStore.stablePair
        rw [quiet, route]
        exact Bool.and_eq_true_iff.2 ⟨decide_eq_true rfl, rfl⟩
      rw [found, Option.bind_some, aged, Option.filter_some, stable, if_pos rfl, Option.map_some]

/-- A hit comes before the entry of the previous completion expires, a miss at its expiry or later. -/
theorem Following.age_of_hit (following : Following prims config request routeHash before s)
    (hit : s.provider.isCached prims request now = true) {last : ℚ} (ended : last ∈ before.getLast?) :
    now - last < config.ttlS := by
  obtain ⟨expiresAt, stored, -, within, -⟩ := following.entry last ended
  have unexpired : now < expiresAt := by
    simpa [FakeProvider.isCached, stored] using hit
  linarith

theorem Following.age_of_miss (following : Following prims config request routeHash before s)
    (refresh : config.refreshOnHit = true)
    (miss : s.provider.isCached prims request now = false) {last : ℚ}
    (ended : last ∈ before.getLast?) : config.ttlS ≤ now - last := by
  obtain ⟨expiresAt, stored, -, -, extended⟩ := following.entry last ended
  have expired : expiresAt ≤ now := by
    simpa [FakeProvider.isCached, stored] using miss
  rw [extended refresh] at expired
  linarith

variable (random) in
/-- The entry after a completion: a hit that does not extend it leaves its expiry where it was. -/
theorem Following.entry_complete (following : Following prims config request routeHash before s)
    (later : ∀ last ∈ before.getLast?, last < now) :
    ∃ expiresAt,
      (s.provider.complete prims random config request now).1.cache.get?
          (cacheFingerprint prims request) = some expiresAt ∧
        now < expiresAt ∧ expiresAt ≤ now + config.ttlS ∧
        (config.refreshOnHit = true → expiresAt = now + config.ttlS) := by
  have positive : now < now + config.ttlS := lt_add_of_pos_right now config.ttlS_pos
  unfold FakeProvider.complete
  dsimp only
  split
  · rename_i kept
    rw [Bool.and_eq_true, Bool.not_eq_true'] at kept
    obtain ⟨hit, still⟩ := kept
    cases ended : before.getLast? with
    | none =>
        have cold := following.cold ended
        simp [FakeProvider.isCached, cold] at hit
    | some last =>
        obtain ⟨expiresAt, stored, -, within, -⟩ := following.entry last ended
        have unexpired : now < expiresAt := by
          simpa [FakeProvider.isCached, stored] using hit
        refine ⟨expiresAt, stored, unexpired, ?_, ?_⟩
        · have sooner := later last ended
          linarith
        · intro refresh
          rw [refresh] at still
          cases still
  · exact ⟨now + config.ttlS, Dict.get?_set_self _ _ _, positive, le_rfl, fun _ => rfl⟩

/-- What a completion teaches: a hit puts the TTL above the time since the previous completion, a miss at
    most there. -/
theorem Following.cleanEvidence (following : Following prims config request routeHash before s)
    (later : ∀ last ∈ before.getLast?, last < now) :
    s.store.cleanEvidence endpointHash (s.observed prims random config request routeHash now) =
      (s.store.refinable endpointHash (s.observed prims random config request routeHash now)).bind
        fun _ => before.getLast?.map fun last =>
          if s.provider.isCached prims request now then .above (now - last) else .upTo (now - last) := by
  unfold TtlStore.cleanEvidence
  rw [following.cleanAge later]
  congr 1
  funext p
  cases ended : before.getLast? with
  | none => exact TtlStore.evidence_none _
  | some last =>
      have nonneg : 0 ≤ now - last := (sub_pos.2 (later last ended)).le
      have outcome : (s.observed prims random config request routeHash now).outcome =
          if s.provider.isCached prims request now then .confirmedHit else .missRebuilt := rfl
      rw [outcome]
      cases s.provider.isCached prims request now with
      | true => exact if_pos nonneg
      | false => exact if_pos nonneg

theorem Following.lesson (following : Following prims config request routeHash before s)
    (later : ∀ last ∈ before.getLast?, last < now) {e : ThresholdBounds.Evidence ℚ}
    (brings : s.store.cleanEvidence endpointHash
      (s.observed prims random config request routeHash now) = some e) :
    ∃ last ∈ before.getLast?,
      (if s.provider.isCached prims request now then .above (now - last)
        else .upTo (now - last)) = e := by
  rw [following.cleanEvidence later] at brings
  obtain ⟨p, -, evident⟩ := Option.bind_eq_some_iff.1 brings
  exact Option.map_eq_some_iff.1 evident

/-- One completion keeps the simulator and the learner in step. -/
theorem Following.complete (following : Following prims config request routeHash before s)
    (later : ∀ last ∈ before.getLast?, last < now) :
    Following prims config request routeHash (before ++ [now])
      (s.complete prims random endpointHash config request routeHash now) where
  keyed := TtlStore.wellKeyed_learn following.keyed
  quiet := TtlStore.churnEvents_learn.trans following.quiet
  rows := by
    have row : (s.complete prims random endpointHash config request routeHash
        now).store.lastTtlObservation (cacheFingerprint prims request) =
          some (s.store.learnedRow endpointHash
            (s.observed prims random config request routeHash now)) := by
      unfold TtlStore.lastTtlObservation Simulation.complete
      dsimp only
      rw [TtlStore.observations_learn, KeyedLog.lastFor_append]
      exact if_pos rfl
    rw [row, List.getLast?_concat]
    rfl
  cold := by
    intro empty
    rw [List.getLast?_concat] at empty
    cases empty
  entry := by
    intro last ended
    rw [List.getLast?_concat, Option.mem_some_iff] at ended
    subst ended
    exact following.entry_complete random later
  below := by
    intro key
    rcases TtlStore.learned_learn_cases following.keyed key with same | ⟨e, brings, narrowed⟩
    · exact same ▸ following.below key
    · change ∀ l ∈ ((s.store.learn _ _).1.learned key).1.lower, l < config.ttlS
      rw [narrowed, ThresholdBounds.lower_narrow_lt]
      refine ⟨following.below key, ?_⟩
      rintro value rfl
      obtain ⟨last, ended, made⟩ := following.lesson later brings
      split at made
      · rename_i hit
        cases made
        exact following.age_of_hit hit ended
      · cases made

theorem last_lt {times : List ℚ} (increasing : times.IsChain (· < ·))
    (within : before ++ [now] <+: times) : ∀ last ∈ before.getLast?, last < now := by
  intro last ended
  obtain ⟨rest, rfl⟩ := within
  exact (List.isChain_append.1 increasing.left_of_append).2.2 last ended now rfl

/-- After completions at increasing times the simulator and the learner are in step. -/
theorem following_simulate {times : List ℚ} (increasing : times.IsChain (· < ·)) :
    ∀ before, before <+: times → Following prims config request routeHash before
      (simulate prims random endpointHash config request routeHash before) := by
  apply Execution.forall_prefix
  · exact following_nil
  · intro before now within following
    rw [simulate_snoc]
    exact following.complete (last_lt increasing within)

variable (prims random endpointHash config request routeHash) in
/-- The learned upper bounds are not below the TTL. -/
def UpperSound (before : List ℚ) : Prop :=
  ∀ key, ∀ u ∈ ((simulate prims random endpointHash config request routeHash
    before).store.learned key).1.upper, config.ttlS ≤ u

/-- A completion that misses late enough, if it misses, keeps the upper bounds sound. -/
theorem upperSound_snoc (following : Following prims config request routeHash before
      (simulate prims random endpointHash config request routeHash before))
    (later : ∀ last ∈ before.getLast?, last < now)
    (sound : UpperSound prims random endpointHash config request routeHash before)
    (late : LateMiss prims random endpointHash config request routeHash before now) :
    UpperSound prims random endpointHash config request routeHash (before ++ [now]) := by
  intro key
  rw [simulate_snoc]
  rcases TtlStore.learned_learn_cases following.keyed key with same | ⟨e, brings, narrowed⟩
  · exact same ▸ sound key
  · change ∀ u ∈ (((simulate _ _ _ _ _ _ _).store.learn _ _).1.learned key).1.upper, config.ttlS ≤ u
    rw [narrowed, ThresholdBounds.le_upper_narrow]
    refine ⟨sound key, ?_⟩
    rintro value rfl
    obtain ⟨last, ended, made⟩ := following.lesson later brings
    split at made
    · cases made
    · rename_i miss
      cases made
      exact late (Bool.eq_false_iff.2 miss) last ended

/-- A completion on a named route that misses too early makes an upper bound unsound. -/
theorem lateMiss_of_upperSound (following : Following prims config request routeHash before
      (simulate prims random endpointHash config request routeHash before))
    (later : ∀ last ∈ before.getLast?, last < now) (named : config.provider ≠ "")
    (sound : UpperSound prims random endpointHash config request routeHash (before ++ [now])) :
    LateMiss prims random endpointHash config request routeHash before now := by
  intro miss last ended
  let s := simulate prims random endpointHash config request routeHash before
  let obs := s.observed prims random config request routeHash now
  have observed : obs.Named :=
    ⟨named, request.named request.model (by simp), request.apiMode.value_ne_empty⟩
  obtain ⟨p, refines⟩ := TtlStore.refinable_of_named endpointHash s.store observed
  have brings : s.store.cleanEvidence endpointHash obs = some (.upTo (now - last)) := by
    have unexpired : s.provider.isCached prims request now = false := miss
    rw [following.cleanEvidence later, refines, ended, unexpired]
    rfl
  have kept := sound (obs.profileKey endpointHash)
  rw [simulate_snoc, Simulation.complete] at kept
  dsimp only at kept
  rw [TtlStore.learned_learn following.keyed, if_pos rfl, brings, Option.elim_some,
    ThresholdBounds.le_upper_narrow] at kept
  exact kept.2 (now - last) rfl

/-- With an entry that every hit extends, a miss always comes late enough. -/
theorem Following.lateMiss (following : Following prims config request routeHash before
      (simulate prims random endpointHash config request routeHash before))
    (refresh : config.refreshOnHit = true) :
    LateMiss prims random endpointHash config request routeHash before now := by
  intro miss last ended
  exact following.age_of_miss refresh miss ended

/-- The learner against the fake provider. After every step of a schedule the lower bounds are below the
    TTL. The upper bounds are not below it as long as every completion that misses comes a full TTL after
    the previous one, and for a provider with a name in no other case. A provider that extends an entry on
    every hit never misses earlier. -/
theorem simulated_provider_bounds (prims : TextPrimitives) (random : FakeRandomness)
    (endpointHash : String → String) (config : FakeProviderConfig) (request : CanonicalRequest)
    (routeHash : Option String) {times : List ℚ} (increasing : times.IsChain (· < ·)) :
    let learned := fun before key =>
      ((simulate prims random endpointHash config request routeHash before).store.learned key).1
    let allLate := Execution.AtEach
      (LateMiss prims random endpointHash config request routeHash) [] times
    (∀ before, before <+: times → ∀ key, ∀ l ∈ (learned before key).lower, l < config.ttlS) ∧
      (allLate → ∀ before, before <+: times →
        ∀ key, ∀ u ∈ (learned before key).upper, config.ttlS ≤ u) ∧
      (config.provider ≠ "" →
        (∀ before, before <+: times → ∀ key, ∀ u ∈ (learned before key).upper, config.ttlS ≤ u) →
        allLate) ∧
      (config.refreshOnHit = true → allLate) := by
  intro learned allLate
  have inStep : ∀ before, before <+: times → Following prims config request routeHash before
      (simulate prims random endpointHash config request routeHash before) :=
    following_simulate increasing
  have earlier : ∀ {before now}, before ++ [now] <+: times →
      Following prims config request routeHash before
        (simulate prims random endpointHash config request routeHash before) :=
    fun within => inStep _ ((List.prefix_append _ _).trans within)
  refine ⟨?_, ?_, ?_, ?_⟩
  · intro before within key
    exact (inStep before within).below key
  · intro late
    apply Execution.forall_prefix
    · intro key u known
      cases known
    · intro before now within sound
      have onTime := Execution.atEach_iff.1 late before now within
      exact upperSound_snoc (earlier within) (last_lt increasing within) sound onTime
  · intro named sound
    apply Execution.atEach_iff.2
    intro before now within
    exact lateMiss_of_upperSound (earlier within) (last_lt increasing within) named
      (sound (before ++ [now]) within)
  · intro refresh
    apply Execution.atEach_iff.2
    intro before now within
    exact (earlier within).lateMiss refresh

end Simulated

/-- The first draws of the default seed, to ten digits. -/
def sampleRandomness : FakeRandomness where
  uniform := fun draw =>
    [8444218515 / 10 ^ 10, 7579544029 / 10 ^ 10, 4205715808 / 10 ^ 10].getD draw 0
  digestPrefix := fun text => Sha256.digest text.toUTF8.data.toList / 2 ^ 224

theorem sampleCanonical_named :
    ∀ name ∈ ["p", "m", "e", "a", "k", "s", "t"], name ≠ "" := by decide

theorem sampleCanonical_maxTokens : ∀ n ∈ (none : Option ℕ), 1 ≤ n := by simp

/-- A request with no output bound and no deadline. -/
def sampleCanonical : CanonicalRequest where
  provider := "p"
  model := "m"
  apiMode := .chat
  endpoint := "e"
  authScope := "a"
  route := none
  promptKey := "k"
  systemHash := "s"
  toolsHash := "t"
  named := sampleCanonical_named
  maxTokens := none
  stream := false
  timeoutS := none
  toolsSetHash := none
  maxTokens_pos := sampleCanonical_maxTokens
  timeoutS_pos := noTimeout_pos

/-- A completion that writes the entry, a hit, and a miss soon after the hit. -/
def sampleTimes : List ℚ := [0, 200, 300]

theorem simulated_provider_bounds_sample :
    (simulate samplePrimitives sampleRandomness Sha256.hexdigest FakeProviderConfig.standard
        sampleCanonical none sampleTimes).store.profiles.keys ≠ [] ∧
      ∀ key, ∀ l ∈ ((simulate samplePrimitives sampleRandomness Sha256.hexdigest
        FakeProviderConfig.standard sampleCanonical none sampleTimes).store.learned key).1.lower,
          l < 300 := by
  refine ⟨by decide +kernel, ?_⟩
  have bounds := simulated_provider_bounds samplePrimitives sampleRandomness Sha256.hexdigest
    FakeProviderConfig.standard sampleCanonical none
    (show sampleTimes.IsChain (· < ·) by unfold sampleTimes; norm_num)
  exact bounds.1 sampleTimes List.prefix_rfl

/-- Hits that leave the expiry where it was: the entry written at 0 expires at 300, the hit at 200 is the
    observation that the miss at 300 is paired with, and the upper bound becomes 100. -/
theorem simulated_provider_unsound :
    ¬ ∀ (prims : TextPrimitives) (random : FakeRandomness) (endpointHash : String → String)
      (config : FakeProviderConfig) (request : CanonicalRequest) (routeHash : Option String)
      (times : List ℚ), times.IsChain (· < ·) → ∀ before, before <+: times → ∀ key,
        ((simulate prims random endpointHash config request routeHash before).store.learned
          key).1.Contains config.ttlS := by
  intro sound
  have around := sound samplePrimitives sampleRandomness Sha256.hexdigest FakeProviderConfig.standard
    sampleCanonical none sampleTimes (by unfold sampleTimes; norm_num) sampleTimes List.prefix_rfl
    (joinKey "fake-provider" "m" "chat" (Sha256.hexdigest "e") none)
  have learned : ((simulate samplePrimitives sampleRandomness Sha256.hexdigest
      FakeProviderConfig.standard sampleCanonical none sampleTimes).store.learned
        (joinKey "fake-provider" "m" "chat" (Sha256.hexdigest "e") none)).1 =
          { lower := some 200, upper := some 100 } := by
    decide +kernel
  rw [learned] at around
  exact absurd (around.2 100 rfl) (by decide +kernel)

/-- An entry is there up to its expiry, and not at it. -/
example :
    let prims := { samplePrimitives with sha256 := fun text => "#" ++ text }
    let p : FakeProvider := { cache := (∅ : Dict String ℚ).set (cacheFingerprint prims sampleCanonical) 300 }
    p.isCached prims sampleCanonical 299 = true ∧ p.isCached prims sampleCanonical 300 = false := by
  decide +kernel

end CachePilot
