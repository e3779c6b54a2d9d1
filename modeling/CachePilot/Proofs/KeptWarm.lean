/-
Module: CachePilot.Proofs.KeptWarm
Layer: Proofs
Purpose: The lease manager with the fake provider upstream. The provider serves a request at one time, and the answer
  comes back later; warms and normal requests of any leases overlap, and warms get lost. When the provider extends an
  entry with every hit, the entry of a lease outlives the last touch of the lease by the TTL less the time that answers
  took. So a warm that comes to the provider soon enough after its deadline is a hit: what the margin leaves over is
  the time that it may take, and no circuit opens.
Trusted boundary: none
Main exports: ProviderLoop, ProviderAction, providerStep, ProviderLoop.Prompt, EntriesLive, nextDeadline_margin,
  prompt_warms_hit
-/
import CachePilot.Core.FakeProvider
import CachePilot.Proofs.CircuitBreaker
import CachePilot.Proofs.Deadlines
import CachePilot.Proofs.SimulatedProvider
import CachePilot.Proofs.TouchEvidence
import CachePilot.Proofs.UsageTotality
import CachePilot.Relay.Proxy
import CachePilot.Relay.WarmExecutor

namespace CachePilot

/-! ### The loop through the provider -/

/-- The manager and the provider as they are set up: how the relay reads responses and prices them, and the label that
    it has for the provider. -/
structure ProviderLoopConfig where
  manager : ManagerConfig
  prims : TextPrimitives
  random : FakeRandomness
  provider : FakeProviderConfig
  text : NumberText
  pricing : Option PricingTable := none
  label : String := "fake-provider"

/-- An answer of the provider on its way. -/
structure Served where
  servedAt : ℚ
  result : FakeProviderResult

/-- The manager, the provider, and the answers that are on their way: those to warms by task, those to normal requests
    by the number of the request, with its lease. -/
structure ProviderLoop where
  world : World := {}
  provider : FakeProvider := {}
  warms : Dict TaskId Served := ∅
  reals : Dict ℕ (LeaseId × Served) := ∅

/-- The provider serves a warm in flight or a normal request of a lease; the executor of a warm returns with the answer
    of the provider, or without; a normal request ends with its answer; or the loop does anything else. -/
inductive ProviderAction where
  | serveWarm (tid : TaskId) (request : CanonicalRequest)
  | warmReturns (tid : TaskId)
  | warmLost (tid : TaskId) (answer : ExecuteResult)
  | serveReal (rid : ℕ) (id : LeaseId) (request : CanonicalRequest)
  | realReturns (rid : ℕ)
  | loop (a : Action)

/-- The action brings an answer: the executor returns, or a normal request ends that did not fail. -/
def Action.bringsAnswer : Action → Bool
  | .executeReturns _ _ => true
  | .afterNormalRequest _ outcome => outcome ≠ .failed
  | _ => false

/-- What the executor makes of an answer. -/
def Served.warmAnswer (cfg : ProviderLoopConfig) (s : Served) : ExecuteResult :=
  HttpWarmExecutor.readResponse cfg.text cfg.pricing 200 (some s.result.responsePayload)

/-- The outcome that the relay observes of an answer. -/
def Served.realOutcome (cfg : ProviderLoopConfig) (s : Served) : Outcome :=
  (boundedOutcome cfg.text cfg.label 200 (some s.result.responsePayload)).getD .successUnverified

namespace ProviderLoop

variable (cfg : ProviderLoopConfig) (x : ProviderLoop)

/-- The provider completes a request now. -/
def complete (request : CanonicalRequest) : FakeProvider × FakeProviderResult :=
  x.provider.complete cfg.prims cfg.random cfg.provider request x.world.clock

/-- The answer that a request gets now. -/
def answer (request : CanonicalRequest) : Served :=
  { servedAt := x.world.clock, result := (x.complete cfg request).2 }

/-- The answers to warms that are on their way after an action. Nobody waits for that to a cancelled one. -/
def warmsAfter : Action → Dict TaskId Served
  | .cancel tid => x.warms.erase tid
  | _ => x.warms

end ProviderLoop

/-- One step of the manager or of the provider. A warm replays the request of the fingerprint whose lock it holds. -/
def providerStep (cfg : ProviderLoopConfig) (x : ProviderLoop) : ProviderAction → Option ProviderLoop
  | .serveWarm tid request =>
      match x.world.pointOf tid, x.warms.get? tid with
      | some (.executing _ fp _), none =>
          if cacheFingerprint cfg.prims request = fp then
            some
              { x with
                provider := (x.complete cfg request).1
                warms := x.warms.set tid (x.answer cfg request) }
          else none
      | _, _ => none
  | .warmReturns tid =>
      (x.warms.get? tid).bind fun s =>
        (step cfg.manager x.world (.executeReturns tid (s.warmAnswer cfg))).map fun world =>
          { x with world, warms := x.warms.erase tid }
  | .warmLost tid answer =>
      if answer.toWarmResult.touchesCache then none
      else
        (step cfg.manager x.world (.executeReturns tid answer)).map fun world =>
          { x with world, warms := x.warms.erase tid }
  | .serveReal rid id request =>
      match x.world.lease? id, x.reals.get? rid with
      | some t, none =>
          if cacheFingerprint cfg.prims request = t.lease.cacheFingerprint then
            some
              { x with
                provider := (x.complete cfg request).1
                reals := x.reals.set rid (id, x.answer cfg request) }
          else none
      | _, _ => none
  | .realReturns rid =>
      (x.reals.get? rid).bind fun real =>
        (step cfg.manager x.world (.afterNormalRequest real.1 (real.2.realOutcome cfg))).map fun world =>
          { x with world, reals := x.reals.erase rid }
  | .loop a =>
      if a.bringsAnswer then none
      else
        (step cfg.manager x.world a).map fun world => { x with world, warms := x.warmsAfter a }

/-- The timing that a run keeps. The clock runs forward, and an answer takes at most the lag. A warm comes to the
    provider so soon after its deadline that the network margin covers the delay, the lag and the jitter; the TTL that
    the lease estimates is at least the margin and at most that of the provider. -/
def ProviderLoop.Prompt (cfg : ProviderLoopConfig) (lag : ℚ) (x : ProviderLoop) : ProviderAction → Prop
  | .serveWarm tid _ =>
      ∀ id ∈ x.world.inFlight tid, ∀ t ∈ x.world.lease? id,
        t.lease.estimatedTtlS ≤ cfg.provider.ttlS ∧ networkMargin cfg.manager ≤ t.lease.estimatedTtlS ∧
          ∃ dueAt ∈ nextDeadline cfg.manager t.lease,
            x.world.clock + lag + t.lease.estimatedTtlS * cfg.manager.settings.jitterFraction <
              dueAt + networkMargin cfg.manager
  | .warmReturns tid => ∀ s ∈ x.warms.get? tid, x.world.clock ≤ s.servedAt + lag
  | .realReturns rid => ∀ real ∈ x.reals.get? rid, x.world.clock ≤ real.2.servedAt + lag
  | .loop a => ClockForward x.world a
  | _ => True

instance (cfg : ProviderLoopConfig) (lag : ℚ) (x : ProviderLoop) (a : ProviderAction) :
    Decidable (x.Prompt cfg lag a) := by
  unfold ProviderLoop.Prompt
  split <;> infer_instance

/-! ### What the relay reads of the provider's answers -/

section Answers

variable {cfg : ProviderLoopConfig} {x : ProviderLoop} {request : CanonicalRequest}

theorem nonNegative_natCast (n : ℕ) : nonNegative (n : ℤ) = some n := by
  simp [nonNegative]

/-- The cached tokens of the prompt details are read, also when there are none of them. -/
theorem cachedTokens_of_details (text : NumberText) {usage : List (String × Json)} {read : ℕ}
    (details : getOrNull usage "prompt_tokens_details" = .obj [("cached_tokens", .int read)])
    (other : getOrNull usage "cache_read_input_tokens" = .null) :
    UsageNormalizer.cachedTokens text usage = some (read : ℤ) := by
  have count : UsageNormalizer.detailsTokens text usage = some (read : ℤ) := by
    rw [UsageNormalizer.detailsTokens, details]
    rfl
  rw [UsageNormalizer.cachedTokens, count, other]
  by_cases none : read = 0
  · subst none
    rfl
  · simp [none]

/-- The usage in a response of the provider. -/
theorem usageField_responsePayload (result : FakeProviderResult) :
    OpenAICompatibleAdapter.usageField (some result.responsePayload) =
      .obj [("prompt_tokens", .int result.usage.promptTokens),
        ("completion_tokens", .int result.usage.completionTokens),
        ("prompt_tokens_details", .obj [("cached_tokens", .int result.usage.cacheReadTokens)]),
        ("cache_creation_input_tokens", .int result.usage.cacheWriteTokens)] :=
  rfl

/-- Such a usage object reads as the record with these counts. -/
theorem normalizeGeneric_counts (text : NumberText) (prompt completion read write : ℕ) :
    UsageNormalizer.normalizeGeneric text
        [("prompt_tokens", .int prompt), ("completion_tokens", .int completion),
          ("prompt_tokens_details", .obj [("cached_tokens", .int read)]),
          ("cache_creation_input_tokens", .int write)] =
      some
        { promptTokens := prompt
          completionTokens := completion
          cacheReadTokens := read
          cacheWriteTokens := write } := by
  rw [UsageNormalizer.normalizeGeneric, cachedTokens_of_details text rfl rfl]
  change TokenUsage.build prompt completion read write none = _
  simp [TokenUsage.build, finiteCost, nonNegative_natCast]

/-- It reads as the usage of the result. -/
theorem parseUsage_responsePayload (text : NumberText) {result : FakeProviderResult} (free : result.usage.cost = none) :
    OpenAICompatibleAdapter.parseUsage text (some result.responsePayload) = some result.usage := by
  have generic : UsageNormalizer.isAnthropic (some "openai") = false := by decide +kernel
  rw [OpenAICompatibleAdapter.parseUsage, usageField_responsePayload, UsageNormalizer.normalize]
  change (if UsageNormalizer.isAnthropic (some "openai") then _ else _) = _
  rw [generic, if_neg Bool.false_ne_true, normalizeGeneric_counts, ← free]

/-- What the executor makes of an answer: the usage of the result, and a hit exactly when tokens were read. -/
theorem warmAnswer_eq (cfg : ProviderLoopConfig) {s : Served} (free : s.result.usage.cost = none) :
    s.warmAnswer cfg =
      .returned
        { outcome := some (if 0 < s.result.usage.cacheReadTokens then .confirmedHit else .missRebuilt)
          usage := s.result.usage
          costUsd := HttpWarmExecutor.resolveCost cfg.pricing s.result.usage } := by
  have telemetry : usageHasCacheTelemetry
      (OpenAICompatibleAdapter.usageField (some s.result.responsePayload)) = true := by
    rw [usageField_responsePayload]
    simp [usageHasCacheTelemetry, telemetryKeys, memberKeys]
  rw [Served.warmAnswer, HttpWarmExecutor.readResponse, parseUsage_responsePayload cfg.text free]
  dsimp only
  rw [OpenAICompatibleAdapter.classifyCacheResult, telemetry]
  rfl

/-- A hit reads the whole prefix, and a miss nothing of it. -/
theorem usage_complete (prims : TextPrimitives) (random : FakeRandomness) (config : FakeProviderConfig)
    (p : FakeProvider) (request : CanonicalRequest) (now : ℚ) :
    (p.complete prims random config request now).2.usage.cost = none ∧
      (0 < (p.complete prims random config request now).2.usage.cacheReadTokens ↔
        p.isCached prims request now = true) := by
  rw [FakeProvider.complete]
  dsimp only
  cases p.isCached prims request now with
  | true => exact ⟨rfl, iff_of_true config.prefixTokens_pos rfl⟩
  | false => exact ⟨rfl, iff_of_false (lt_irrefl 0) Bool.false_ne_true⟩

/-- A provider that extends entries with every hit has the entry of a request for a full TTL from now. -/
theorem cache_complete (prims : TextPrimitives) (random : FakeRandomness) {config : FakeProviderConfig}
    (refreshes : config.refreshOnHit = true) (p : FakeProvider) (request : CanonicalRequest) (now : ℚ) (fp : String) :
    (p.complete prims random config request now).1.cache.get? fp =
      if fp = cacheFingerprint prims request then some (now + config.ttlS) else p.cache.get? fp := by
  rw [FakeProvider.complete]
  dsimp only
  rw [refreshes, Bool.not_true, Bool.and_false, if_neg Bool.false_ne_true, Dict.get?_set]

end Answers

/-! ### Deadlines and the margin -/

/-- The jitter adds at most its fraction to the wait. -/
theorem jitter_scale_le (cfg : ManagerConfig) (fp : String) :
    1 + jitterFor cfg fp ≤ 1 + cfg.settings.jitterFraction := by
  have fraction : 0 ≤ cfg.settings.jitterFraction := cfg.settings.jitterFraction_nonneg
  have unit : ((cfg.digestPrefix fp).val : ℚ) / 2 ^ 64 ≤ 1 := by
    rw [div_le_one (by positivity)]
    exact_mod_cast (cfg.digestPrefix fp).isLt.le
  rw [jitter_scale]
  linarith [mul_le_mul_of_nonneg_right unit fraction]

/-- The margin is left between the deadline and the end of the estimated TTL, but for what the jitter takes. -/
theorem nextDeadline_margin {cfg : ManagerConfig} {lease : CacheLease} {touch dueAt : ℚ}
    (touched : lease.lastCacheTouchAt = some touch) (due : nextDeadline cfg lease = some dueAt)
    (room : networkMargin cfg ≤ lease.estimatedTtlS) :
    dueAt + networkMargin cfg ≤
      touch + lease.estimatedTtlS + lease.estimatedTtlS * cfg.settings.jitterFraction := by
  have margin := networkMargin_nonneg cfg
  have fraction : 0 ≤ cfg.settings.jitterFraction := cfg.settings.jitterFraction_nonneg
  have left : 0 ≤ lease.estimatedTtlS - networkMargin cfg := sub_nonneg.2 room
  have wait : waitAfterTouch cfg lease ≤
      (lease.estimatedTtlS - networkMargin cfg) * (1 + cfg.settings.jitterFraction) := by
    unfold waitAfterTouch
    dsimp only
    rw [max_eq_left (margin.trans room)]
    calc _ ≤ (lease.estimatedTtlS - networkMargin cfg) * (1 + jitterFor cfg lease.cacheFingerprint) :=
          mul_le_mul_of_nonneg_right (min_le_right _ _) (jitter_scale_nonneg cfg _)
      _ ≤ _ := mul_le_mul_of_nonneg_left (jitter_scale_le cfg _) left
  rw [nextDeadline_eq, touched, Option.map_some, Option.some.injEq] at due
  have spared : 0 ≤ networkMargin cfg * cfg.settings.jitterFraction := mul_nonneg margin fraction
  linarith

/-! ### What one step keeps -/

/-- The action may end the warm of a task. -/
def Action.endsWarm (tid : TaskId) : Action → Bool
  | .executeReturns u _ => u = tid
  | .cancel u => u = tid
  | _ => false

/-- A task inside the executor stays there until its warm returns or is cancelled. -/
theorem executing_stays {cfg : ManagerConfig} {w w' : World} {a : Action} {tid : TaskId} {id : LeaseId} {fp : String}
    {snapshot : RequestSnapshot} (stepped : step cfg w a = some w') (goes : a.endsWarm tid = false)
    (inside : w.pointOf tid = some (.executing id fp snapshot)) :
    w'.pointOf tid = some (.executing id fp snapshot) := by
  obtain ⟨task, here, place⟩ := Option.map_eq_some_iff.1 inside
  -- a step that moves another task, or a task at another point, leaves this one
  have other : ∀ {u x}, w.task? u = some x → x.point ≠ .executing id fp snapshot → tid ≠ u := by
    rintro u x found elsewhere rfl
    rw [here] at found
    cases found
    exact elsewhere place
  have unready : ∀ {x : EvaluationTask}, x.point = .ready → x.point ≠ .executing id fp snapshot := by
    intro x ready
    rw [ready]
    exact fun same => by cases same
  have unqueued : ∀ {x : EvaluationTask} {j f g}, x.point = .atLock j f g → x.point ≠ .executing id fp snapshot := by
    intro x j f g waiting
    rw [waiting]
    exact fun same => by cases same
  cases step_cases stepped with
  | reused found => exact inside
  | resolverRaised missing raised => exact inside
  | created missing resolved => exact inside
  | operated operation known => exact inside
  | snapshotStored snapshot => exact inside
  | snapshotDropped fp => exact inside
  | clockSet now => exact inside
  | spawned starts unused =>
      rw [World.pointOf_putTask, if_neg, inside]
      rintro rfl
      rw [here] at unused
      cases unused
  | unknownLease found ready queued missing =>
      rw [World.finish, World.pointOf_putTask, if_neg (other found (unready ready)), inside]
  | decided found ready queued known runs =>
      rw [World.finish, World.pointOf_putTask, if_neg (other found (unready ready))]
      exact inside
  | waits found ready queued known authorised busy =>
      rw [World.pointOf_putTask, if_neg (other found (unready ready))]
      exact inside
  | refusedAtOnce found ready queued known authorised free refused =>
      rw [World.finish, World.pointOf_putTask, if_neg (other found (unready ready))]
      exact inside
  | sentAtOnce found ready queued known authorised free passed =>
      rw [World.pointOf_putTask, if_neg (other found (unready ready))]
      exact inside
  | refusedAtLock found waiting first known refused =>
      rw [World.finish, World.pointOf_putTask, if_neg (other found (unqueued waiting))]
      exact inside
  | sentAtLock found waiting first known passed =>
      rw [World.pointOf_putTask, if_neg (other found (unqueued waiting))]
      exact inside
  | returned found within known =>
      rw [World.finish, World.pointOf_putTask, if_neg (Ne.symm (of_decide_eq_false goes))]
      exact inside
  | cancelledReady found ready =>
      rw [World.pointOf_putTask, if_neg (other found (unready ready)), inside]
  | cancelledWaiting found waiting =>
      rw [World.pointOf_putTask, if_neg (other found (unqueued waiting))]
      exact inside
  | cancelledWarm found within known =>
      rw [World.pointOf_putTask, if_neg (Ne.symm (of_decide_eq_false goes))]
      exact inside

/-! ### The entries of touched leases -/

/-- The provider has the entry of a fingerprint up to a time, or longer. -/
def FakeProvider.Keeps (p : FakeProvider) (fp : String) (time : ℚ) : Prop :=
  ∃ expiresAt ∈ p.cache.get? fp, time ≤ expiresAt

/-- An answer served from an entry of the provider. -/
structure Served.Hit (s : Served) : Prop where
  free : s.result.usage.cost = none
  read : 0 < s.result.usage.cacheReadTokens

/-- No entry outlives a TTL from now. An answer on its way left a full TTL from the time at which it was served: to
    the warm in flight of its task, where it is a hit, or to its lease. A lease trusts its last touch for a TTL, and
    the entry is there for as long but for the lag. -/
structure ProviderLoop.EntriesLive (cfg : ProviderLoopConfig) (lag : ℚ) (x : ProviderLoop) : Prop where
  placed : x.world.Placed
  bounded : ∀ fp, ∀ expiresAt ∈ x.provider.cache.get? fp, expiresAt ≤ x.world.clock + cfg.provider.ttlS
  warms : ∀ tid, ∀ s ∈ x.warms.get? tid, s.Hit ∧
    ∃ id fp snapshot, x.world.pointOf tid = some (.executing id fp snapshot) ∧
      x.provider.Keeps fp (s.servedAt + cfg.provider.ttlS)
  reals : ∀ rid, ∀ real ∈ x.reals.get? rid, ∃ t ∈ x.world.lease? real.1,
    x.provider.Keeps t.lease.cacheFingerprint (real.2.servedAt + cfg.provider.ttlS)
  believed : ∀ id, ∀ t ∈ x.world.lease? id, ∀ touch ∈ t.lease.lastCacheTouchAt,
    x.provider.Keeps t.lease.cacheFingerprint (touch + cfg.provider.ttlS - lag)

section Serving

variable {cfg : ProviderLoopConfig} {lag : ℚ} {x : ProviderLoop} {request : CanonicalRequest}

/-- The entry of the request is there for a TTL. -/
theorem keeps_served (refreshes : cfg.provider.refreshOnHit = true) (x : ProviderLoop) (request : CanonicalRequest) :
    (x.complete cfg request).1.Keeps (cacheFingerprint cfg.prims request)
      (x.world.clock + cfg.provider.ttlS) := by
  refine ⟨_, ?_, le_refl _⟩
  rw [ProviderLoop.complete, cache_complete _ _ refreshes, if_pos rfl]
  rfl

/-- Serving a request moves no entry back. -/
theorem keeps_complete (refreshes : cfg.provider.refreshOnHit = true) (live : x.EntriesLive cfg lag) {fp : String}
    {time : ℚ} (kept : x.provider.Keeps fp time) : (x.complete cfg request).1.Keeps fp time := by
  obtain ⟨expiresAt, found, covers⟩ := kept
  have entries := cache_complete cfg.prims cfg.random refreshes x.provider request x.world.clock fp
  by_cases own : fp = cacheFingerprint cfg.prims request
  · rw [if_pos own] at entries
    exact ⟨_, entries, covers.trans (live.bounded fp expiresAt found)⟩
  · rw [if_neg own] at entries
    exact ⟨expiresAt, entries.trans found, covers⟩

/-- Serving a request keeps what the entries of the others cover. -/
theorem ProviderLoop.EntriesLive.serve (refreshes : cfg.provider.refreshOnHit = true) (live : x.EntriesLive cfg lag)
    (request : CanonicalRequest) :
    { x with provider := (x.complete cfg request).1 }.EntriesLive cfg lag where
  placed := live.placed
  bounded := by
    intro fp expiresAt found
    have entries := cache_complete cfg.prims cfg.random refreshes x.provider request x.world.clock fp
    rw [Option.mem_def, ProviderLoop.complete, entries] at found
    by_cases own : fp = cacheFingerprint cfg.prims request
    · rw [if_pos own] at found
      cases found
      exact le_refl _
    · rw [if_neg own] at found
      exact live.bounded fp expiresAt found
  warms := by
    intro tid s waiting
    obtain ⟨hit, id, fp, snapshot, inside, kept⟩ := live.warms tid s waiting
    exact ⟨hit, id, fp, snapshot, inside, keeps_complete refreshes live kept⟩
  reals := by
    intro rid real waiting
    obtain ⟨t, known, kept⟩ := live.reals rid real waiting
    exact ⟨t, known, keeps_complete refreshes live kept⟩
  believed := by
    intro id t known touch touched
    exact keeps_complete refreshes live (live.believed id t known touch touched)

/-- An answer that hits may be on its way to the warm in flight whose entry it left. -/
theorem ProviderLoop.EntriesLive.sendWarm (live : x.EntriesLive cfg lag) {tid : TaskId} {id : LeaseId} {fp : String}
    {snapshot : RequestSnapshot} {s : Served} (inside : x.world.pointOf tid = some (.executing id fp snapshot))
    (hit : s.Hit) (kept : x.provider.Keeps fp (s.servedAt + cfg.provider.ttlS)) :
    { x with warms := x.warms.set tid s }.EntriesLive cfg lag where
  placed := live.placed
  bounded := live.bounded
  reals := live.reals
  believed := live.believed
  warms := by
    intro u r waiting
    rw [Option.mem_def, Dict.get?_set] at waiting
    split at waiting
    · rename_i own
      cases waiting
      subst own
      exact ⟨hit, id, fp, snapshot, inside, kept⟩
    · exact live.warms u r waiting

/-- So may an answer to a normal request of the lease whose entry it left. -/
theorem ProviderLoop.EntriesLive.sendReal (live : x.EntriesLive cfg lag) {rid : ℕ} {id : LeaseId} {t : TrackedLease}
    {s : Served} (known : x.world.lease? id = some t)
    (kept : x.provider.Keeps t.lease.cacheFingerprint (s.servedAt + cfg.provider.ttlS)) :
    { x with reals := x.reals.set rid (id, s) }.EntriesLive cfg lag where
  placed := live.placed
  bounded := live.bounded
  warms := live.warms
  believed := live.believed
  reals := by
    intro q real waiting
    rw [Option.mem_def, Dict.get?_set] at waiting
    split at waiting
    · cases waiting
      exact ⟨t, known, kept⟩
    · exact live.reals q real waiting

/-- A step of the manager whose evidence of a touch is an answer from an entry that is still kept. -/
theorem ProviderLoop.EntriesLive.manage (live : x.EntriesLive cfg lag) {a : Action} {world : World}
    {warms : Dict TaskId Served} {reals : Dict ℕ (LeaseId × Served)}
    (stepped : step cfg.manager x.world a = some world) (forward : ClockForward x.world a)
    (evidence : ∀ id t, x.world.lease? id = some t → x.world.touchEvidence id a = true →
      x.provider.Keeps t.lease.cacheFingerprint (x.world.clock + cfg.provider.ttlS - lag))
    (fewerWarms : ∀ tid, ∀ s ∈ warms.get? tid, x.warms.get? tid = some s ∧ a.endsWarm tid = false)
    (fewerReals : ∀ rid, ∀ real ∈ reals.get? rid, x.reals.get? rid = some real) :
    { x with world, warms, reals }.EntriesLive cfg lag where
  placed := step_placed stepped live.placed
  bounded := by
    intro fp expiresAt found
    have later := clock_forward stepped forward
    exact (live.bounded fp expiresAt found).trans (add_le_add_left later _)
  warms := by
    intro tid s waiting
    obtain ⟨before, goes⟩ := fewerWarms tid s waiting
    obtain ⟨hit, id, fp, snapshot, inside, kept⟩ := live.warms tid s before
    exact ⟨hit, id, fp, snapshot, executing_stays stepped goes inside, kept⟩
  reals := by
    intro rid real waiting
    obtain ⟨t, known, kept⟩ := live.reals rid real (fewerReals rid real waiting)
    obtain ⟨t', known', change⟩ := step_change stepped known
    refine ⟨t', known', ?_⟩
    rw [change.sameLease.fingerprint]
    exact kept
  believed := by
    intro id t' known' touch touched
    cases known : x.world.lease? id with
    | none =>
        obtain ⟨identity, ttl, confidence, answer, ttlS, c, -, -, -, new⟩ := step_creates stepped known known'
        rw [new] at touched
        cases touched
    | some t =>
        obtain ⟨u, found, change⟩ := step_change stepped known
        rw [Option.mem_def.1 known'] at found
        cases found
        have moved := change.touch known
        rw [change.sameLease.fingerprint]
        cases seen : x.world.touchEvidence id a with
        | true =>
            rw [seen, if_pos rfl, Option.mem_def.1 touched] at moved
            cases moved
            exact evidence id t known seen
        | false =>
            rw [seen, Option.mem_def.1 touched] at moved
            exact live.believed id t known touch moved.symm

end Serving

/-! ### What the provider serves is there -/

section Steps

variable {cfg : ProviderLoopConfig} {lag : ℚ} {x x' : ProviderLoop}

theorem isCached_of_keeps {prims : TextPrimitives} {p : FakeProvider} {request : CanonicalRequest} {now time : ℚ}
    (kept : p.Keeps (cacheFingerprint prims request) time) (early : now < time) :
    p.isCached prims request now = true := by
  obtain ⟨expiresAt, found, covers⟩ := kept
  rw [FakeProvider.isCached, Option.mem_def.1 found, Option.any_some, decide_eq_true_eq]
  exact early.trans_le covers

/-- While the clock is short of the TTL after the last touch, less the lag, the entry of the lease is there. -/
theorem ProviderLoop.EntriesLive.isCached (live : x.EntriesLive cfg lag) {id : LeaseId} {t : TrackedLease}
    {touch : ℚ} {request : CanonicalRequest} (known : x.world.lease? id = some t)
    (touched : t.lease.lastCacheTouchAt = some touch)
    (own : cacheFingerprint cfg.prims request = t.lease.cacheFingerprint)
    (early : x.world.clock + lag < touch + cfg.provider.ttlS) :
    x.provider.isCached cfg.prims request x.world.clock = true := by
  have kept := live.believed id t known touch touched
  rw [← own] at kept
  exact isCached_of_keeps kept (lt_sub_iff_add_lt.2 early)

/-- A warm that comes to the provider in time finds its entry. -/
theorem ProviderLoop.EntriesLive.warm_hits (live : x.EntriesLive cfg lag) {tid : TaskId} {request : CanonicalRequest}
    {id : LeaseId} {fp : String} {snapshot : RequestSnapshot}
    (inside : x.world.pointOf tid = some (.executing id fp snapshot))
    (own : cacheFingerprint cfg.prims request = fp) (prompt : x.Prompt cfg lag (.serveWarm tid request)) :
    x.provider.isCached cfg.prims request x.world.clock = true := by
  obtain ⟨t, known, same⟩ := live.placed tid id fp (Or.inr ⟨snapshot, inside⟩)
  obtain ⟨within, room, dueAt, due, soon⟩ :=
    prompt id (World.inFlight_eq_some_iff.2 ⟨fp, snapshot, inside⟩) t known
  obtain ⟨touch, touched⟩ : ∃ touch, t.lease.lastCacheTouchAt = some touch := by
    rw [nextDeadline_eq] at due
    obtain ⟨touch, touched, -⟩ := Option.map_eq_some_iff.1 due
    exact ⟨touch, touched⟩
  have margin := nextDeadline_margin touched due room
  apply live.isCached known touched (own.trans same.symm)
  linarith

/-- Its answer is a hit. -/
theorem answer_hit (cached : x.provider.isCached cfg.prims request x.world.clock = true) :
    (x.answer cfg request).Hit := by
  obtain ⟨free, read⟩ := usage_complete cfg.prims cfg.random cfg.provider x.provider request x.world.clock
  exact ⟨free, read.2 cached⟩

/-- The executor reads a hit as one. -/
theorem Served.Hit.confirmed {s : Served} (hit : s.Hit) :
    (s.warmAnswer cfg).toWarmResult.outcome = some .confirmedHit := by
  rw [warmAnswer_eq cfg hit.free]
  exact congrArg some (if_pos hit.read)

/-- Evidence of a touch is an answer. -/
theorem bringsAnswer_of_evidence {w : World} {id : LeaseId} {a : Action} (seen : w.touchEvidence id a = true) :
    a.bringsAnswer = true := by
  unfold World.touchEvidence at seen
  split at seen
  · cases seen
  cases a with
  | afterNormalRequest j outcome =>
      simp only [Bool.and_eq_true, bne_iff_ne, ne_eq] at seen
      simp [Action.bringsAnswer, seen.1.2]
  | executeReturns tid answer => rfl
  | _ => cases seen

/-- The evidence of a return is the return of the warm in flight, with a touch. -/
theorem returned_of_evidence {w : World} {id : LeaseId} {tid : TaskId} {answer : ExecuteResult}
    (seen : w.touchEvidence id (.executeReturns tid answer) = true) :
    w.inFlight tid = some id ∧ answer.toWarmResult.touchesCache = true := by
  unfold World.touchEvidence at seen
  split at seen
  · cases seen
  · simpa using seen

/-- The evidence of a normal request is one of this lease. -/
theorem completed_of_evidence {w : World} {id j : LeaseId} {outcome : Outcome}
    (seen : w.touchEvidence id (.afterNormalRequest j outcome) = true) : j = id := by
  unfold World.touchEvidence at seen
  split at seen
  · cases seen
  · simp only [Bool.and_eq_true, beq_iff_eq] at seen
    exact seen.1.1

/-- Every prompt step keeps what the entries cover. -/
theorem step_entriesLive (refreshes : cfg.provider.refreshOnHit = true) {a : ProviderAction}
    (prompt : x.Prompt cfg lag a) (stepped : providerStep cfg x a = some x') (live : x.EntriesLive cfg lag) :
    x'.EntriesLive cfg lag := by
  cases a with
  | serveWarm tid request =>
      rw [providerStep] at stepped
      split at stepped
      · rename_i id fp snapshot inside fresh
        split at stepped
        · rename_i own
          cases stepped
          have hit := answer_hit (live.warm_hits inside own prompt)
          have kept := keeps_served refreshes x request
          rw [own] at kept
          exact (live.serve refreshes request).sendWarm inside hit kept
        · cases stepped
      · cases stepped
  | warmReturns tid =>
      obtain ⟨s, waiting, moved⟩ := Option.bind_eq_some_iff.1 stepped
      obtain ⟨world, managed, rfl⟩ := Option.map_eq_some_iff.1 moved
      refine live.manage managed trivial ?_ ?_ fun rid real found => found
      · intro id t known seen
        obtain ⟨hit, j, fp, snapshot, inside, kept⟩ := live.warms tid s waiting
        obtain ⟨t', known', same⟩ := live.placed tid j fp (Or.inr ⟨snapshot, inside⟩)
        obtain ⟨flying, -⟩ := returned_of_evidence seen
        rw [World.inFlight_eq_some_iff.2 ⟨fp, snapshot, inside⟩] at flying
        cases flying
        rw [known] at known'
        cases known'
        obtain ⟨expiresAt, found, covers⟩ := kept
        have timely := prompt s waiting
        rw [same]
        exact ⟨expiresAt, found, by linarith⟩
      · intro u r found
        rw [Option.mem_def, Dict.get?_erase] at found
        split at found
        · cases found
        · rename_i other
          exact ⟨found, decide_eq_false (Ne.symm other)⟩
  | warmLost tid answer =>
      rw [providerStep] at stepped
      split at stepped
      · cases stepped
      rename_i untouched
      obtain ⟨world, managed, rfl⟩ := Option.map_eq_some_iff.1 stepped
      refine live.manage managed trivial ?_ ?_ fun rid real found => found
      · intro id t known seen
        exact absurd (returned_of_evidence seen).2 untouched
      · intro u r found
        rw [Option.mem_def, Dict.get?_erase] at found
        split at found
        · cases found
        · rename_i other
          exact ⟨found, decide_eq_false (Ne.symm other)⟩
  | serveReal rid id request =>
      rw [providerStep] at stepped
      split at stepped
      · rename_i t known fresh
        split at stepped
        · rename_i own
          cases stepped
          have kept := keeps_served refreshes x request
          rw [own] at kept
          exact (live.serve refreshes request).sendReal known kept
        · cases stepped
      · cases stepped
  | realReturns rid =>
      obtain ⟨real, waiting, moved⟩ := Option.bind_eq_some_iff.1 stepped
      obtain ⟨world, managed, rfl⟩ := Option.map_eq_some_iff.1 moved
      refine live.manage managed trivial ?_ (fun tid s found => ⟨found, rfl⟩) ?_
      · intro id t known seen
        obtain ⟨t', known', expiresAt, found, covers⟩ := live.reals rid real waiting
        have own := completed_of_evidence seen
        rw [own, known] at known'
        cases known'
        have timely := prompt real waiting
        exact ⟨expiresAt, found, by linarith⟩
      · intro q r found
        rw [Option.mem_def, Dict.get?_erase] at found
        split at found
        · cases found
        · exact found
  | loop a =>
      rw [providerStep] at stepped
      split at stepped
      · cases stepped
      rename_i silent
      obtain ⟨world, managed, rfl⟩ := Option.map_eq_some_iff.1 stepped
      refine live.manage managed prompt ?_ ?_ fun rid real found => found
      · intro id t known seen
        exact absurd (bringsAnswer_of_evidence seen) silent
      · intro tid s found
        cases a with
        | cancel u =>
            rw [Option.mem_def, ProviderLoop.warmsAfter, Dict.get?_erase] at found
            split at found
            · cases found
            · rename_i other
              exact ⟨found, decide_eq_false (Ne.symm other)⟩
        | executeReturns u answer => exact absurd rfl silent
        | _ => exact ⟨found, rfl⟩

/-! ### Circuits -/

/-- The action loses the answer of a warm. -/
def ProviderAction.losesWarm : ProviderAction → Bool
  | .warmLost _ _ => true
  | _ => false

/-- No lease has counted a miss. -/
def World.Unmissed (w : World) : Prop := ∀ id, w.breakerOf id = {}

/-- A step in which no warm ends, or one with a hit, counts no miss. -/
theorem step_unmissed {manager : ManagerConfig} {w w' : World} {a : Action} (stepped : step manager w a = some w')
    (hits : ∀ tid answer, a = .executeReturns tid answer → answer.toWarmResult.outcome = some .confirmedHit)
    (unmissed : w.Unmissed) : w'.Unmissed := by
  intro id
  rw [step_breaker id stepped, unmissed id]
  cases signal : w.circuitSignal id a with
  | none => rfl
  | some signalled =>
      cases signalled with
      | success => rfl
      | reset => rfl
      | failure =>
          obtain ⟨tid, answer, rfl, flying⟩ := flying_of_signal signal (by decide)
          have hit := hits tid answer rfl
          simp [World.circuitSignal, flying, hit] at signal

/-- Without a lost warm no step counts a miss. -/
theorem step_providerUnmissed {a : ProviderAction} (stepped : providerStep cfg x a = some x')
    (live : x.EntriesLive cfg lag) (arrives : a.losesWarm = false) (unmissed : x.world.Unmissed) :
    x'.world.Unmissed := by
  cases a with
  | serveWarm tid request =>
      rw [providerStep] at stepped
      split at stepped
      · split at stepped
        · cases stepped
          exact unmissed
        · cases stepped
      · cases stepped
  | warmReturns tid =>
      obtain ⟨s, waiting, moved⟩ := Option.bind_eq_some_iff.1 stepped
      obtain ⟨world, managed, rfl⟩ := Option.map_eq_some_iff.1 moved
      apply step_unmissed managed _ unmissed
      rintro u answer same
      cases same
      exact (live.warms tid s waiting).1.confirmed
  | warmLost tid answer => cases arrives
  | serveReal rid id request =>
      rw [providerStep] at stepped
      split at stepped
      · split at stepped
        · cases stepped
          exact unmissed
        · cases stepped
      · cases stepped
  | realReturns rid =>
      obtain ⟨real, waiting, moved⟩ := Option.bind_eq_some_iff.1 stepped
      obtain ⟨world, managed, rfl⟩ := Option.map_eq_some_iff.1 moved
      exact step_unmissed managed (fun tid answer same => by cases same) unmissed
  | loop a =>
      rw [providerStep] at stepped
      split at stepped
      · cases stepped
      rename_i silent
      obtain ⟨world, managed, rfl⟩ := Option.map_eq_some_iff.1 stepped
      apply step_unmissed managed _ unmissed
      rintro tid answer rfl
      exact absurd rfl silent

end Steps

/-! ### Runs -/

/-- The manager and the provider at the start: nothing tracked, nothing cached, no answer on its way. -/
structure ProviderLoop.Initial (x : ProviderLoop) : Prop where
  world : x.world.Initial
  cache : x.provider.cache = ∅
  warms : x.warms = ∅
  reals : x.reals = ∅

theorem ProviderLoop.Initial.entriesLive {x : ProviderLoop} (initial : x.Initial) (cfg : ProviderLoopConfig) (lag : ℚ) :
    x.EntriesLive cfg lag where
  placed := by
    have nothing : exec cfg.manager x.world [] = some x.world := rfl
    exact run_placed initial.world nothing
  bounded := by
    intro fp expiresAt found
    rw [initial.cache] at found
    cases found
  warms := by
    intro tid s found
    rw [initial.warms] at found
    cases found
  reals := by
    intro rid real found
    rw [initial.reals] at found
    cases found
  believed := by
    intro id t found
    rw [World.lease?, initial.world.1] at found
    cases found

theorem ProviderLoop.Initial.unmissed {x : ProviderLoop} (initial : x.Initial) : x.world.Unmissed := by
  intro id
  rw [World.breakerOf, World.lease?, initial.world.1]
  rfl

theorem run_entriesLive {cfg : ProviderLoopConfig} {lag : ℚ} {start x : ProviderLoop} {acts : List ProviderAction}
    (refreshes : cfg.provider.refreshOnHit = true) (initial : start.Initial)
    (prompt : Execution.Along (providerStep cfg) (ProviderLoop.Prompt cfg lag) start acts)
    (run : Execution.exec (providerStep cfg) start acts = some x) : x.EntriesLive cfg lag := by
  apply Execution.invariant_along (initial.entriesLive cfg lag) _ prompt run
  intro u a v soon stepped live
  exact step_entriesLive refreshes soon stepped live

/-- When the provider extends its entries with every hit, every run that keeps the timing keeps its leases warm. Every
    warm that the provider serves finds its entry; so does any request of a lease up to a TTL after its last touch,
    less the lag. While no warm gets lost, no lease counts a miss, and no circuit opens. -/
theorem prompt_warms_hit {cfg : ProviderLoopConfig} {lag : ℚ} {start x : ProviderLoop} {acts : List ProviderAction}
    (refreshes : cfg.provider.refreshOnHit = true) (initial : start.Initial)
    (run : Execution.exec (providerStep cfg) start acts = some x)
    (prompt : Execution.Along (providerStep cfg) (ProviderLoop.Prompt cfg lag) start acts) :
    (∀ before tid request after u, acts = before ++ .serveWarm tid request :: after →
      Execution.exec (providerStep cfg) start before = some u →
        u.provider.isCached cfg.prims request u.world.clock = true) ∧
    (∀ id t touch request, x.world.lease? id = some t → t.lease.lastCacheTouchAt = some touch →
      cacheFingerprint cfg.prims request = t.lease.cacheFingerprint →
        x.world.clock + lag < touch + cfg.provider.ttlS →
          x.provider.isCached cfg.prims request x.world.clock = true) ∧
    ((∀ a ∈ acts, a.losesWarm = false) → ∀ id t, x.world.lease? id = some t →
      t.runtime.consecutiveWarmMisses = 0 ∧ t.runtime.circuitOpen = false) := by
  refine ⟨?_, ?_, ?_⟩
  · rintro before tid request after u rfl reached
    have live := run_entriesLive refreshes initial prompt.left reached
    obtain ⟨v, stepped, -⟩ : ∃ v, providerStep cfg u (.serveWarm tid request) = some v ∧
        Execution.exec (providerStep cfg) v after = some x := by
      obtain ⟨w, same, rest⟩ := Execution.exec_append_eq_some.1 run
      rw [reached] at same
      cases same
      exact Execution.exec_cons_eq_some.1 rest
    rw [providerStep] at stepped
    split at stepped
    · rename_i id fp snapshot inside fresh
      split at stepped
      · rename_i own
        exact live.warm_hits inside own (prompt.step reached)
      · cases stepped
    · cases stepped
  · intro id t touch request known touched own early
    exact (run_entriesLive refreshes initial prompt run).isCached known touched own early
  · intro arrives id t known
    have unmissed : x.world.Unmissed := by
      refine Execution.history_invariant (R := fun _ u => u.world.Unmissed) initial.unmissed ?_ run
      rintro before a after u v rfl reached stepped held
      have live := run_entriesLive refreshes initial prompt.left reached
      exact step_providerUnmissed stepped live (arrives a (by simp)) held
    have closed := unmissed id
    rw [breakerOf_eq known] at closed
    exact ⟨congrArg Breaker.failures closed, congrArg Breaker.isOpen closed⟩

/-! ### A sample run -/

/-- A provider that extends its entries, behind the manager of the samples. A digest shows its text. -/
def sampleProviderLoop : ProviderLoopConfig where
  manager := sampleConfig
  prims := { samplePrimitives with sha256 := fun text => "#" ++ text }
  random := { uniform := fun _ => 0, digestPrefix := fun _ => 0 }
  provider := { FakeProviderConfig.standard with refreshOnHit := true }
  text := sampleNumberText

def sampleProviderFp : String := cacheFingerprint sampleProviderLoop.prims sampleCanonical

/-- A normal request of the lease fills the cache, and the warm that is due then extends the entry. -/
def samplePromptRun : List ProviderAction :=
  [.loop (sampleCreate "s" sampleProviderFp), .loop (.targetStarted 0 "bg-1"), .loop (.beforeNormalRequest 0),
    .loop (.storeSnapshot (sampleSnapshot sampleProviderFp)), .serveReal 0 0 sampleCanonical, .realReturns 0,
    .loop (.setClock 233), .loop (.evaluateLease 0 0), .loop (.resume 0), .serveWarm 0 sampleCanonical,
    .warmReturns 0]

theorem samplePromptRun_runs :
    Execution.exec (providerStep sampleProviderLoop) {} samplePromptRun =
      some (Execution.final (providerStep sampleProviderLoop) {} samplePromptRun) :=
  Execution.exec_eq_final (by decide +kernel)

/-- The warm of the sample run has kept the circuit closed, and the entry is there until a TTL after it. -/
theorem prompt_warms_hit_sample :
    ∃ t, (Execution.final (providerStep sampleProviderLoop) {} samplePromptRun).world.lease? 0 = some t ∧
      t.lease.warmCount = 1 ∧ t.runtime.consecutiveWarmMisses = 0 ∧ t.runtime.circuitOpen = false := by
  have prompt : Execution.Along (providerStep sampleProviderLoop)
      (ProviderLoop.Prompt sampleProviderLoop (1 / 10)) {} samplePromptRun := by
    decide +kernel
  have kept := prompt_warms_hit rfl ⟨World.initial_empty, rfl, rfl, rfl⟩ samplePromptRun_runs prompt
  have known : ((Execution.final (providerStep sampleProviderLoop) {} samplePromptRun).world.lease? 0).map
      (fun t => t.lease.warmCount) = some 1 := by
    decide +kernel
  obtain ⟨t, found, count⟩ := Option.map_eq_some_iff.1 known
  have closed := kept.2.2 (by decide) 0 t found
  exact ⟨t, found, count, closed.1, closed.2⟩

/-- A completion that fills the cache is no hit. -/
example : ¬ 0 < ((({} : ProviderLoop).answer sampleProviderLoop sampleCanonical).result.usage.cacheReadTokens) := by
  decide +kernel

end CachePilot
