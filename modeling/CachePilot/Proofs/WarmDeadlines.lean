/-
Module: CachePilot.Proofs.WarmDeadlines
Layer: Proofs
Purpose: When the deadline of a touched lease falls before the cache expires. The jitter scales the wait after the
  margin has been taken off it, so a jitter that lengthens the wait can carry the deadline past the expiry. It stays
  before the expiry exactly when the jitter is made up for by the warm fraction or by the margin, and for every
  fingerprint exactly when the largest jitter is.
Trusted boundary: none
Main exports: unjitteredWait, DueInTime, MadeUpFor, largestJitter, due_in_time_iff
-/
import CachePilot.Lib.Sha256
import CachePilot.Proofs.Deadlines

namespace CachePilot

/-- The wait after a touch, before the jitter. -/
def unjitteredWait (cfg : ManagerConfig) (lease : CacheLease) : ℚ :=
  min (lease.estimatedTtlS * cfg.settings.warmFraction) (lease.estimatedTtlS - networkMargin cfg)

/-- The lease touched at this time is due before its TTL is over, after the wait up to the jitter fraction. -/
structure DueInTime (cfg : ManagerConfig) (lease : CacheLease) (touch : ℚ) : Prop where
  due : ∃ deadline, nextDeadline cfg lease = some deadline ∧ deadline < touch + lease.estimatedTtlS ∧
    (1 - cfg.settings.jitterFraction) * unjitteredWait cfg lease ≤ deadline - touch ∧
    deadline - touch ≤ (1 + cfg.settings.jitterFraction) * unjitteredWait cfg lease

/-- What the jitter adds to the wait fits into what the warm fraction or the margin leaves of the TTL. -/
def MadeUpFor (cfg : ManagerConfig) (ttlS jitter : ℚ) : Prop :=
  cfg.settings.warmFraction * (1 + jitter) < 1 ∨ jitter * ttlS < (1 + jitter) * networkMargin cfg

instance (cfg : ManagerConfig) (ttlS jitter : ℚ) : Decidable (MadeUpFor cfg ttlS jitter) :=
  inferInstanceAs (Decidable (_ ∨ _))

/-- The jitter of a fingerprint whose digest begins with eight full bytes. -/
def largestJitter (cfg : ManagerConfig) : ℚ := (1 - 2 / 2 ^ 64) * cfg.settings.jitterFraction

section Jitter

variable (cfg : ManagerConfig) (fp : String)

theorem le_jitterFor : -cfg.settings.jitterFraction ≤ jitterFor cfg fp := by
  linarith [jitter_scale cfg fp, show
    0 ≤ 2 * (((cfg.digestPrefix fp).val : ℚ) / 2 ^ 64) * cfg.settings.jitterFraction from
      mul_nonneg (by positivity) cfg.settings.jitterFraction_nonneg]

theorem jitterFor_le_largest : jitterFor cfg fp ≤ largestJitter cfg := by
  have counted : ((cfg.digestPrefix fp).val : ℚ) ≤ 2 ^ 64 - 1 := by
    have bound : (cfg.digestPrefix fp).val + 1 ≤ 2 ^ 64 := (cfg.digestPrefix fp).isLt
    have cast : (((cfg.digestPrefix fp).val + 1 : ℕ) : ℚ) ≤ ((2 ^ 64 : ℕ) : ℚ) := Nat.cast_le.2 bound
    push_cast at cast
    linarith
  unfold jitterFor largestJitter
  apply mul_le_mul_of_nonneg_right _ cfg.settings.jitterFraction_nonneg
  have share : ((cfg.digestPrefix fp).val : ℚ) / 2 ^ 64 ≤ (2 ^ 64 - 1) / 2 ^ 64 :=
    div_le_div_of_nonneg_right counted (by positivity)
  calc ((cfg.digestPrefix fp).val : ℚ) / 2 ^ 64 * 2 - 1
      ≤ (2 ^ 64 - 1) / 2 ^ 64 * 2 - 1 := by linarith
    _ = 1 - 2 / 2 ^ 64 := by norm_num

theorem largestJitter_le : largestJitter cfg ≤ cfg.settings.jitterFraction := by
  have fraction : 0 ≤ cfg.settings.jitterFraction := cfg.settings.jitterFraction_nonneg
  unfold largestJitter
  linarith

end Jitter

/-- The deadline of a touched lease is the touch and the scaled wait. -/
theorem nextDeadline_of_touched {cfg : ManagerConfig} {lease : CacheLease} {touch : ℚ}
    (touched : lease.lastCacheTouchAt = some touch) (longer : networkMargin cfg < lease.estimatedTtlS) :
    nextDeadline cfg lease =
      some (touch + unjitteredWait cfg lease * (1 + jitterFor cfg lease.cacheFingerprint)) := by
  have ttl : 0 ≤ lease.estimatedTtlS := (networkMargin_nonneg cfg).trans longer.le
  rw [nextDeadline_eq, touched, Option.map_some, waitAfterTouch, max_eq_left ttl, unjitteredWait]

section Wait

variable {cfg : ManagerConfig} {lease : CacheLease}

theorem unjitteredWait_pos (longer : networkMargin cfg < lease.estimatedTtlS) :
    0 < unjitteredWait cfg lease := by
  have ttl : 0 < lease.estimatedTtlS := (networkMargin_nonneg cfg).trans_lt longer
  exact lt_min (mul_pos ttl cfg.settings.warmFraction_pos) (sub_pos.2 longer)

/-- The scaled wait is shorter than the TTL when one of the two waits it is the minimum of is. -/
theorem scaledWait_lt_iff (longer : networkMargin cfg < lease.estimatedTtlS) {jitter : ℚ}
    (scaled : 0 ≤ 1 + jitter) :
    unjitteredWait cfg lease * (1 + jitter) < lease.estimatedTtlS ↔ MadeUpFor cfg lease.estimatedTtlS jitter := by
  have ttl : 0 < lease.estimatedTtlS := (networkMargin_nonneg cfg).trans_lt longer
  have fraction : lease.estimatedTtlS * cfg.settings.warmFraction * (1 + jitter) < lease.estimatedTtlS ↔
      cfg.settings.warmFraction * (1 + jitter) < 1 := by
    rw [mul_assoc]
    exact mul_lt_iff_lt_one_right ttl
  have margin : (lease.estimatedTtlS - networkMargin cfg) * (1 + jitter) < lease.estimatedTtlS ↔
      jitter * lease.estimatedTtlS < (1 + jitter) * networkMargin cfg := by
    constructor <;> intro shorter <;> linarith
  rw [unjitteredWait, min_mul_of_nonneg _ _ scaled, min_lt_iff, fraction, margin, MadeUpFor]

/-- A larger jitter is harder to make up for. -/
theorem MadeUpFor.mono {ttlS jitter jitter' : ℚ} (longer : networkMargin cfg < ttlS) (le : jitter ≤ jitter')
    (made : MadeUpFor cfg ttlS jitter') : MadeUpFor cfg ttlS jitter := by
  rcases made with fraction | margin
  · left
    have scaled : cfg.settings.warmFraction * (1 + jitter) ≤ cfg.settings.warmFraction * (1 + jitter') :=
      mul_le_mul_of_nonneg_left (by linarith) cfg.settings.warmFraction_pos.le
    exact scaled.trans_lt fraction
  · right
    have gap : (jitter' - jitter) * networkMargin cfg ≤ (jitter' - jitter) * ttlS :=
      mul_le_mul_of_nonneg_left longer.le (sub_nonneg.2 le)
    linarith

end Wait

/-- A lease is due in time exactly when its jitter is made up for. -/
theorem dueInTime_iff {cfg : ManagerConfig} {lease : CacheLease} {touch : ℚ}
    (touched : lease.lastCacheTouchAt = some touch) (longer : networkMargin cfg < lease.estimatedTtlS) :
    DueInTime cfg lease touch ↔
      MadeUpFor cfg lease.estimatedTtlS (jitterFor cfg lease.cacheFingerprint) := by
  rw [← scaledWait_lt_iff longer (jitter_scale_nonneg cfg lease.cacheFingerprint)]
  have deadline := nextDeadline_of_touched touched longer
  constructor
  · rintro ⟨due, found, before, -, -⟩
    rw [deadline, Option.some.injEq] at found
    rw [← found] at before
    linarith
  · intro before
    have wait := (unjitteredWait_pos longer).le
    refine ⟨_, deadline, by linarith, ?_, ?_⟩
    · rw [add_sub_cancel_left, mul_comm]
      exact mul_le_mul_of_nonneg_left (by linarith [le_jitterFor cfg lease.cacheFingerprint]) wait
    · rw [add_sub_cancel_left, mul_comm]
      apply mul_le_mul_of_nonneg_right _ wait
      linarith [jitterFor_le_largest cfg lease.cacheFingerprint, largestJitter_le cfg]

/-- For every lease the deadline is in time exactly when its own jitter is made up for, and whatever the digest of
    its fingerprint is exactly when the largest jitter is. -/
theorem due_in_time_iff (cfg : ManagerConfig) (lease : CacheLease) {touch : ℚ}
    (touched : lease.lastCacheTouchAt = some touch) (longer : networkMargin cfg < lease.estimatedTtlS) :
    (DueInTime cfg lease touch ↔
        MadeUpFor cfg lease.estimatedTtlS (jitterFor cfg lease.cacheFingerprint)) ∧
      ((∀ digestPrefix, DueInTime { cfg with digestPrefix } lease touch) ↔
        MadeUpFor cfg lease.estimatedTtlS (largestJitter cfg)) := by
  refine ⟨dueInTime_iff touched longer, ?_⟩
  have each (digestPrefix : String → Fin (2 ^ 64)) :
      DueInTime { cfg with digestPrefix } lease touch ↔
        MadeUpFor cfg lease.estimatedTtlS (jitterFor { cfg with digestPrefix } lease.cacheFingerprint) :=
    @dueInTime_iff { cfg with digestPrefix } lease touch touched longer
  constructor
  · intro always
    have last := (each fun _ => Fin.last (2 ^ 64 - 1)).1 (always _)
    have largest : jitterFor { cfg with digestPrefix := fun _ => Fin.last (2 ^ 64 - 1) } lease.cacheFingerprint =
        largestJitter cfg := by
      simp only [jitterFor, largestJitter, Fin.val_last]
      norm_num
    rwa [largest] at last
  · intro made digestPrefix
    rw [each]
    exact made.mono longer (jitterFor_le_largest { cfg with digestPrefix } lease.cacheFingerprint)

/-- The first eight bytes of the digest of a text. -/
def sha256Prefix (text : String) : Fin (2 ^ 64) :=
  ⟨Sha256.digest text.toUTF8.data.toList / 2 ^ 192 % 2 ^ 64, Nat.mod_lt _ (Nat.two_pow_pos 64)⟩

/-- A lease that has just been touched, with a TTL of five minutes. -/
def sampleTouchedLease : CacheLease where
  toLeaseIdentity := sampleIdentity "s" "cache-fp-1"
  leaseId := 0
  lastCacheTouchAt := some 0
  estimatedTtlS := 300
  ttlConfidence := 1 / 2

/-- The default settings, with the digests of the fingerprints. -/
def sampleDigestConfig : ManagerConfig := { digestPrefix := sha256Prefix }

/-- With the default jitter the sample lease is due in time. -/
theorem due_in_time_sample : DueInTime sampleDigestConfig sampleTouchedLease 0 :=
  (due_in_time_iff sampleDigestConfig sampleTouchedLease rfl (by decide +kernel)).1.2 (by decide +kernel)

theorem half_nonneg : (0 : ℚ) ≤ 1 / 2 := by norm_num

theorem half_le_one : (1 / 2 : ℚ) ≤ 1 := by norm_num

/-- The default settings, but for a jitter of up to a half. -/
def sampleJitteryConfig : ManagerConfig where
  settings := { LeaseSettings.standard with
    jitterFraction := 1 / 2
    jitterFraction_nonneg := half_nonneg
    jitterFraction_le_one := half_le_one }
  digestPrefix := sha256Prefix

/-- There it is due more than five minutes after the touch: the cache has expired by then. -/
theorem jitter_past_expiry :
    (¬ ∀ cfg lease touch, lease.lastCacheTouchAt = some touch → networkMargin cfg < lease.estimatedTtlS →
      DueInTime cfg lease touch) ∧
    sampleTouchedLease.lastCacheTouchAt = some 0 ∧
    networkMargin sampleJitteryConfig < sampleTouchedLease.estimatedTtlS ∧
    (nextDeadline sampleJitteryConfig sampleTouchedLease).any (fun deadline => 318 < deadline) = true := by
  refine ⟨?_, rfl, by decide +kernel, by decide +kernel⟩
  intro always
  have due := always sampleJitteryConfig sampleTouchedLease 0 rfl (by decide +kernel)
  rw [dueInTime_iff rfl (by decide +kernel)] at due
  exact absurd due (by decide +kernel)

end CachePilot
