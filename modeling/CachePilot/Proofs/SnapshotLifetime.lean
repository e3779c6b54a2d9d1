/-
Module: CachePilot.Proofs.SnapshotLifetime
Layer: Proofs
Purpose: How long a snapshot outlives its lease. Pruning forgets the fingerprints that the manager no longer tracks,
  and the manager tracks a dead lease like a live one. So a snapshot of a dead lease stays behind when a switch of
  identity kills the lease, and is stored again when a request returns to the identity of a dead lease. Every other
  step keeps the snapshots of live leases only.
Trusted boundary: none
Main exports: World.LiveFingerprint, World.SnapshotsLive, KeepsSnapshotsLive, snapshots_live_exact
-/
import CachePilot.Proofs.Snapshots

namespace CachePilot

/-- Some lease with this cache fingerprint is not invalidated. -/
def World.LiveFingerprint (w : World) (fp : String) : Prop :=
  ∃ t ∈ w.manager.leases.values, t.lease.cacheFingerprint = fp ∧ t.lease.state ≠ .invalidated

instance (w : World) (fp : String) : Decidable (w.LiveFingerprint fp) :=
  inferInstanceAs (Decidable (∃ t ∈ _, _))

/-- The store holds snapshots for cache fingerprints of live leases only. -/
def World.SnapshotsLive (w : World) : Prop := ∀ fp ∈ w.snapshots.fingerprints, w.LiveFingerprint fp

instance (w : World) : Decidable w.SnapshotsLive :=
  inferInstanceAs (Decidable (∀ fp ∈ _, _))

/-- Some live lease with this cache fingerprint survives a switch to the identity. -/
def World.SurvivesSwitch (w : World) (identity : LeaseIdentity) (fp : String) : Prop :=
  ∃ t ∈ w.manager.leases.values, t.lease.cacheFingerprint = fp ∧ t.lease.state ≠ .invalidated ∧
    LeaseManager.supersedes identity t = false

instance (w : World) (identity : LeaseIdentity) (fp : String) : Decidable (w.SurvivesSwitch identity fp) :=
  inferInstanceAs (Decidable (∃ t ∈ _, _))

/-- A tracked request leaves no snapshot of a dead lease behind. When no lease is registered for its identity, it has
    to spare, for every stored snapshot, a live lease with its fingerprint. On a registered lease, a body that is kept
    needs a live lease with the fingerprint, unless the last target of the lease finishes, which takes the lease out
    of `invalidated`. -/
def FoundKeepsSnapshotsLive (cfg : ControllerConfig) (c : LeaseController) (request : StartRequest) :
    Option LeaseId → Prop
  | none => ∀ fp ∈ c.world.snapshots.fingerprints, c.world.SurvivesSwitch request.identity fp
  | some id =>
      cfg.manager.hasSnapshotStore = true → request.body.isSome = true →
        c.world.LiveFingerprint request.identity.cacheFingerprint ∨
          request.targetsCount = 0 ∧ c.world.targetsOf id ≠ ∅

instance (cfg : ControllerConfig) (c : LeaseController) (request : StartRequest) :
    ∀ found, Decidable (FoundKeepsSnapshotsLive cfg c request found)
  | none => inferInstanceAs (Decidable (∀ fp ∈ _, _))
  | some _ => inferInstanceAs (Decidable (_ → _ → _))

/-- The condition on the start of a request; a request that is not tracked has none. -/
def KeepsSnapshotsLive (cfg : ControllerConfig) (c : LeaseController) (request : StartRequest) : Prop :=
  cfg.enabled = true ∧ request.identity.sessionId ≠ "" →
    FoundKeepsSnapshotsLive cfg c request (c.world.manager.findExisting request.identity)

instance (cfg : ControllerConfig) (c : LeaseController) (request : StartRequest) :
    Decidable (KeepsSnapshotsLive cfg c request) :=
  inferInstanceAs (Decidable (_ → _))

/-! ### Live fingerprints by lease -/

theorem liveFingerprint_iff {w : World} {fp : String} :
    w.LiveFingerprint fp ↔ ∃ id t, w.lease? id = some t ∧ t.lease.cacheFingerprint = fp ∧
      t.lease.state ≠ .invalidated := by
  unfold World.LiveFingerprint World.lease?
  constructor
  · rintro ⟨t, listed, same, alive⟩
    obtain ⟨id, known⟩ := Dict.mem_values_iff.1 listed
    exact ⟨id, t, known, same, alive⟩
  · rintro ⟨id, t, known, same, alive⟩
    exact ⟨t, Dict.mem_values_iff.2 ⟨id, known⟩, same, alive⟩

theorem survivesSwitch_iff {w : World} {identity : LeaseIdentity} {fp : String} :
    w.SurvivesSwitch identity fp ↔ ∃ id t, w.lease? id = some t ∧ t.lease.cacheFingerprint = fp ∧
      (afterSwitch identity t).lease.state ≠ .invalidated := by
  unfold World.SurvivesSwitch World.lease?
  constructor
  · rintro ⟨t, listed, same, alive, kept⟩
    obtain ⟨id, known⟩ := Dict.mem_values_iff.1 listed
    refine ⟨id, t, known, same, ?_⟩
    unfold afterSwitch
    rw [if_neg (by simp [kept])]
    exact alive
  · rintro ⟨id, t, known, same, spared⟩
    obtain ⟨alive, kept⟩ := afterSwitch_live spared
    exact ⟨t, Dict.mem_values_iff.2 ⟨id, known⟩, same, alive, kept⟩

/-- A fingerprint stays live when every live lease stays tracked, live and the same. -/
theorem LiveFingerprint.of_kept {w w' : World} {fp : String}
    (kept : ∀ id t, w.lease? id = some t → t.lease.state ≠ .invalidated →
      ∃ t', w'.lease? id = some t' ∧ t'.lease.cacheFingerprint = t.lease.cacheFingerprint ∧
        t'.lease.state ≠ .invalidated)
    (live : w.LiveFingerprint fp) : w'.LiveFingerprint fp := by
  obtain ⟨id, t, known, same, alive⟩ := liveFingerprint_iff.1 live
  obtain ⟨t', known', fingerprint, alive'⟩ := kept id t known alive
  exact liveFingerprint_iff.2 ⟨id, t', known', fingerprint.trans same, alive'⟩

/-- The fingerprints of live leases after a switch that creates no lease. -/
theorem liveFingerprint_switched {w : World} {identity : LeaseIdentity} {fp : String} :
    World.LiveFingerprint { w with manager := w.manager.invalidateSuperseded identity } fp ↔
      w.SurvivesSwitch identity fp := by
  rw [liveFingerprint_iff, survivesSwitch_iff]
  simp only [lease?_switched, Option.map_eq_some_iff]
  constructor
  · rintro ⟨id, t', ⟨t, known, rfl⟩, same, alive⟩
    exact ⟨id, t, known, (afterSwitch_sameLease identity t).fingerprint.symm.trans same, alive⟩
  · rintro ⟨id, t, known, same, spared⟩
    exact ⟨id, _, ⟨t, known, rfl⟩, (afterSwitch_sameLease identity t).fingerprint.trans same, spared⟩

/-- A switch that creates a lease adds its fingerprint. -/
theorem liveFingerprint_created {w : World} {identity : LeaseIdentity} {ttlS confidence : ℚ}
    {fp : String} :
    World.LiveFingerprint { w with manager :=
        (w.manager.invalidateSuperseded identity).insertLease identity ttlS confidence } fp ↔
      identity.cacheFingerprint = fp ∨ w.SurvivesSwitch identity fp := by
  rw [liveFingerprint_iff, survivesSwitch_iff]
  constructor
  · rintro ⟨id, t', known, same, alive⟩
    rw [lease?_created] at known
    split at known
    · cases known
      exact Or.inl same
    · obtain ⟨t, tracked, rfl⟩ := Option.map_eq_some_iff.1 known
      exact Or.inr ⟨id, t, tracked, (afterSwitch_sameLease identity t).fingerprint.symm.trans same, alive⟩
  · rintro (same | ⟨id, t, known, same, spared⟩)
    · refine ⟨w.manager.freshId, LeaseManager.newLease identity w.manager.freshId ttlS confidence, ?_, same,
        LeaseState.noConfusion⟩
      rw [lease?_created, if_pos rfl]
    · refine ⟨id, afterSwitch identity t, ?_, (afterSwitch_sameLease identity t).fingerprint.trans same, spared⟩
      have old : id ≠ w.manager.freshId := by
        intro fresh
        have absent : w.lease? w.manager.freshId = none := w.manager.get?_freshId
        rw [← fresh, known] at absent
        cases absent
      rw [lease?_created, if_neg old, known]
      rfl

/-- A fingerprint that was live and is the identity's own survives the switch. -/
theorem survivesSwitch_of_own {w : World} {identity : LeaseIdentity}
    (live : w.LiveFingerprint identity.cacheFingerprint) :
    w.SurvivesSwitch identity identity.cacheFingerprint := by
  obtain ⟨t, listed, same, alive⟩ := live
  refine ⟨t, listed, same, alive, ?_⟩
  simp [LeaseManager.supersedes, same]

/-! ### The lease that is served -/

/-- Finishing the targets of a lease that had some takes it out of `invalidated` when none is left. -/
theorem finishTargets_all {targets : List String} (named : ∀ x ∈ targets, x ≠ "") {t : TrackedLease}
    (some : t.lease.activeTargets ≠ ∅) (all : t.lease.activeTargets ⊆ targets.toFinset) :
    (finishTargets targets t).lease.state ≠ .invalidated := by
  induction targets generalizing t with
  | nil => exact absurd (Finset.subset_empty.1 all) some
  | cons x targets ih =>
      have other : ∀ y ∈ targets, y ≠ "" := fun y member => named y (List.mem_cons_of_mem x member)
      change (finishTargets targets (t.targetFinished x)).lease.state ≠ _
      rw [TrackedLease.targetFinished_named (named x List.mem_cons_self)]
      by_cases last : t.lease.activeTargets.erase x = ∅
      · apply finishTargets_valid
        dsimp only
        rw [if_pos last]
        exact LeaseState.noConfusion
      · apply ih other last
        intro y left
        obtain ⟨different, active⟩ := Finset.mem_erase.1 left
        have member := all active
        rw [List.toFinset_cons, Finset.mem_insert] at member
        exact member.resolve_left different

/-- Reconciling the targets leaves a live lease live, and takes a dead one out of `invalidated` exactly when its last
    target finishes. -/
theorem reconciled_valid_iff {cfg : ControllerConfig} {known count : ℕ} {t : TrackedLease}
    (synced : t.lease.activeTargets = (backgroundTargets known).toFinset) :
    (reconciled cfg (backgroundTargets known) count t).lease.state ≠ .invalidated ↔
      t.lease.state ≠ .invalidated ∨ count = 0 ∧ t.lease.activeTargets ≠ ∅ := by
  rcases Nat.eq_zero_or_pos count with rfl | positive
  · unfold reconciled
    rw [ne_eq, startTargets_invalid_iff]
    by_cases active : t.lease.activeTargets = ∅
    · have none : backgroundTargets known = [] := by
        rw [synced, List.toFinset_eq_empty_iff] at active
        exact active
      have nothing : cfg.iterationOrder
          ((backgroundTargets known).filter fun target => target ∉ backgroundTargets 0) = [] := by
        rw [none]
        exact (cfg.iterationOrder_perm _).eq_nil
      rw [nothing]
      simp [finishTargets, active]
    · have finished : (finishTargets (cfg.iterationOrder
          ((backgroundTargets known).filter fun target => target ∉ backgroundTargets 0)) t).lease.state ≠
            .invalidated := by
        apply finishTargets_all (fun _ listed => gone_named listed) active
        rw [List.toFinset_eq_of_perm _ _ (cfg.iterationOrder_perm _), synced]
        simp [backgroundTargets]
      constructor
      · intro alive
        exact Or.inr ⟨rfl, active⟩
      · intro revived
        exact finished
  · rw [ne_eq, reconciled_invalid_iff synced positive]
    have some : ¬ count = 0 := by omega
    simp [some]

section Started

variable {cfg : ControllerConfig} {c : LeaseController} {id : LeaseId} {t : TrackedLease}
  {request : StartRequest}

/-- Besides the fingerprints that were live, the start of a request makes that of its own lease live when the last
    target of the lease finishes. -/
theorem liveFingerprint_startRealRequest (synced : Synced c) (known : c.world.lease? id = some t) {fp : String} :
    (c.startRealRequest cfg id request).world.LiveFingerprint fp ↔
      c.world.LiveFingerprint fp ∨
        t.lease.cacheFingerprint = fp ∧ request.targetsCount = 0 ∧ t.lease.activeTargets ≠ ∅ := by
  obtain ⟨count, current, active⟩ := synced id
  rw [targetsOf_eq known] at active
  have listed : id ∈ c.world.manager.leases.keys := Dict.mem_keys_iff.2 ⟨t, known⟩
  have lookup : ∀ j, (c.startRealRequest cfg id request).world.lease? j =
      if j = id then some ((reconciled cfg (backgroundTargets count) request.targetsCount
        t).beforeNormalRequest c.world.clock) else c.world.lease? j := by
    intro j
    rw [lease?_startRealRequest, currentTargets_pruneTargetIds, if_pos listed, current, known]
    rfl
  have fingerprint : (reconciled cfg (backgroundTargets count) request.targetsCount t).lease.cacheFingerprint =
      t.lease.cacheFingerprint :=
    congrArg LeaseIdentity.cacheFingerprint (reconciled_identity cfg _ _ t)
  have valid : (reconciled cfg (backgroundTargets count) request.targetsCount t).lease.state ≠ .invalidated ↔
      t.lease.state ≠ .invalidated ∨ request.targetsCount = 0 ∧ t.lease.activeTargets ≠ ∅ :=
    reconciled_valid_iff active
  simp only [liveFingerprint_iff, lookup]
  constructor
  · rintro ⟨j, x, found, same, alive⟩
    split at found
    · cases found
      rcases valid.1 alive with before | revived
      · exact Or.inl ⟨id, t, known, fingerprint.symm.trans same, before⟩
      · exact Or.inr ⟨fingerprint.symm.trans same, revived⟩
    · exact Or.inl ⟨j, x, found, same, alive⟩
  · rintro (⟨j, x, found, same, alive⟩ | ⟨same, revived⟩)
    · by_cases own : j = id
      · subst own
        rw [known] at found
        cases found
        exact ⟨j, _, if_pos rfl, fingerprint.trans same, valid.2 (Or.inl alive)⟩
      · exact ⟨j, x, (if_neg own).trans found, same, alive⟩
    · exact ⟨id, _, if_pos rfl, fingerprint.trans same, valid.2 (Or.inr revived)⟩

theorem mem_fingerprints_pruneSnapshots {fp : String} (stored : fp ∈ c.world.snapshots.fingerprints)
    (tracked : fp ∈ c.world.manager.cacheFingerprints) :
    fp ∈ (c.pruneSnapshots cfg).world.snapshots.fingerprints := by
  unfold LeaseController.pruneSnapshots
  split
  · obtain ⟨s, found⟩ := Dict.mem_keys_iff.1 stored
    apply Dict.mem_keys_iff.2
    refine ⟨s, ?_⟩
    change Dict.get? (List.foldl Dict.erase c.world.snapshots _) fp = some s
    rw [Dict.get?_foldl_erase, if_neg]
    · exact found
    · simp [tracked]
  · exact stored

/-- The fingerprints that the store holds after the start of a request whose snapshots were all tracked. -/
theorem mem_fingerprints_startRealRequest (known : c.world.lease? id = some t)
    (tracked : ∀ fp ∈ c.world.snapshots.fingerprints, fp ∈ c.world.manager.cacheFingerprints) {fp : String} :
    fp ∈ (c.startRealRequest cfg id request).world.snapshots.fingerprints ↔
      fp ∈ c.world.snapshots.fingerprints ∨
        cfg.manager.hasSnapshotStore = true ∧ request.body.isSome = true ∧ fp = t.lease.cacheFingerprint := by
  have pruned : ∀ fp, fp ∈ (c.pruneTargetIds.pruneSnapshots cfg).world.snapshots.fingerprints ↔
      fp ∈ c.world.snapshots.fingerprints := by
    intro fp
    constructor
    · intro stored
      obtain ⟨s, found⟩ := Dict.mem_keys_iff.1 stored
      exact Dict.mem_keys_iff.2 ⟨s, (pruneSnapshots_frame cfg c.pruneTargetIds).2 fp s found⟩
    · intro stored
      exact mem_fingerprints_pruneSnapshots (c := c.pruneTargetIds) stored (tracked fp stored)
  have reached : Reaches cfg.manager c.world
      ((c.pruneTargetIds.pruneSnapshots cfg).syncTargets cfg id request.targetsCount).world :=
    (pruneSnapshots_reaches cfg c.pruneTargetIds).trans (syncTargets_reaches cfg _ id _)
  have synced := (syncTargets_frame cfg (c.pruneTargetIds.pruneSnapshots cfg) id request.targetsCount).1
  unfold LeaseController.startRealRequest
  dsimp only
  generalize (c.pruneTargetIds.pruneSnapshots cfg).syncTargets cfg id request.targetsCount = c₁
    at synced reached ⊢
  have started := reached.trans (.beforeNormalRequest : Operation cfg.manager c₁.world.clock id _ _).reaches
  obtain ⟨t', known', -, -, fingerprint⟩ := started.sameLease known
  have touched := (applyTo_frame c₁.world id (TrackedLease.beforeNormalRequest c₁.world.clock)).1
  rw [synced] at touched
  rw [← pruned fp, ← touched]
  unfold LeaseController.storeSnapshot
  split
  · rename_i store
    rw [known']
    cases kept : request.body with
    | none => simp
    | some body =>
        rw [← fingerprint]
        unfold SnapshotStore.fingerprints SnapshotStore.store
        dsimp only
        rw [Dict.keys_set]
        split
        · rename_i present
          constructor
          · exact Or.inl
          · rintro (stored | ⟨-, -, own⟩)
            · exact stored
            · exact own ▸ present
        · simp [store]
  · rename_i off
    simp [off]

end Started

/-- The live fingerprints are tracked. -/
theorem tracked_of_snapshotsLive {w : World} (live : w.SnapshotsLive) :
    ∀ fp ∈ w.snapshots.fingerprints, fp ∈ w.manager.cacheFingerprints := by
  intro fp stored
  obtain ⟨t, listed, same, -⟩ := live fp stored
  exact List.mem_map.2 ⟨t, listed, same⟩

/-- Then the store holds no more snapshots than there are live leases. -/
theorem snapshots_le_live {w : World} (live : w.SnapshotsLive) :
    w.snapshots.fingerprints.length ≤
      (w.manager.leases.values.filter fun t => t.lease.state ≠ .invalidated).length := by
  have owned : w.snapshots.fingerprints ⊆ (w.manager.leases.values.filter fun t =>
      t.lease.state ≠ .invalidated).map fun t => t.lease.cacheFingerprint := by
    intro fp stored
    obtain ⟨t, listed, same, alive⟩ := live fp stored
    exact List.mem_map.2 ⟨t, List.mem_filter.2 ⟨listed, decide_eq_true alive⟩, same⟩
  have distinct : w.snapshots.fingerprints.Nodup := Dict.nodup w.snapshots
  have bound := (distinct.subperm owned).length_le
  rwa [List.length_map] at bound

/-! ### One step -/

/-- A request on a registered lease leaves live leases alone, so only its own snapshot matters. -/
theorem snapshotsLive_reused_iff {cfg : ControllerConfig} {c : LeaseController} {request : StartRequest}
    {id : LeaseId} {t : TrackedLease} (synced : Synced c) (live : c.world.SnapshotsLive)
    (known : c.world.lease? id = some t) :
    (c.startRealRequest cfg id request).world.SnapshotsLive ↔
      (cfg.manager.hasSnapshotStore = true → request.body.isSome = true →
        c.world.LiveFingerprint t.lease.cacheFingerprint ∨
          request.targetsCount = 0 ∧ t.lease.activeTargets ≠ ∅) := by
  unfold World.SnapshotsLive
  simp only [mem_fingerprints_startRealRequest known (tracked_of_snapshotsLive live),
    liveFingerprint_startRealRequest synced known]
  constructor
  · intro every store body
    rcases every t.lease.cacheFingerprint (Or.inr ⟨store, body, rfl⟩) with before | ⟨-, revived⟩
    · exact Or.inl before
    · exact Or.inr revived
  · rintro own fp (stored | ⟨store, body, rfl⟩)
    · exact Or.inl (live fp stored)
    · rcases own store body with before | revived
      · exact Or.inl before
      · exact Or.inr ⟨rfl, revived⟩

/-- A request that creates a lease keeps its snapshot live; what matters is whom the switch kills. -/
theorem snapshotsLive_created_iff {cfg : ControllerConfig} {c : LeaseController} {request : StartRequest}
    {ttlS confidence : ℚ} (synced : Synced c) (live : c.world.SnapshotsLive)
    (missing : c.world.manager.findExisting request.identity = none)
    (resolved : LeaseManager.initialTtl cfg.manager none (1 / 2) request.answer = some (ttlS, confidence)) :
    (LeaseController.startRealRequest cfg
        { c with world := { c.world with manager :=
            (c.world.manager.invalidateSuperseded request.identity).insertLease request.identity ttlS confidence } }
        c.world.manager.freshId request).world.SnapshotsLive ↔
      ∀ fp ∈ c.world.snapshots.fingerprints, c.world.SurvivesSwitch request.identity fp := by
  have called : c.world.manager.findOrCreateLease cfg.manager request.identity none (1 / 2) request.answer =
      ((c.world.manager.invalidateSuperseded request.identity).insertLease request.identity ttlS confidence,
        some c.world.manager.freshId) := by
    unfold LeaseManager.findOrCreateLease
    rw [missing]
    dsimp only
    rw [resolved, freshId_invalidateSuperseded]
  have stepped := step_of_called called
  have survivors : ∀ fp, World.LiveFingerprint { c.world with manager :=
      (c.world.manager.invalidateSuperseded request.identity).insertLease request.identity ttlS confidence } fp ↔
        request.identity.cacheFingerprint = fp ∨ c.world.SurvivesSwitch request.identity fp :=
    fun fp => liveFingerprint_created
  have known := lease?_created (w := c.world) request.identity ttlS confidence c.world.manager.freshId
  rw [if_pos rfl] at known
  have retargeted := targetsOf_called called
  generalize (c.world.manager.invalidateSuperseded request.identity).insertLease request.identity ttlS
    confidence = manager at stepped survivors known retargeted ⊢
  have synced' : Synced { c with world := { c.world with manager } } := by
    intro id
    obtain ⟨count, current, active⟩ := synced id
    exact ⟨count, current, (retargeted id).trans active⟩
  have tracked : ∀ fp ∈ c.world.snapshots.fingerprints, fp ∈ manager.cacheFingerprints := by
    intro fp stored
    obtain ⟨id, t, found, same, -⟩ := liveFingerprint_iff.1 (live fp stored)
    obtain ⟨t', found', -, -, fingerprint⟩ := (Reaches.of_step stepped).sameLease found
    exact List.mem_map.2 ⟨t', Dict.mem_values_iff.2 ⟨id, found'⟩, fingerprint.trans same⟩
  unfold World.SnapshotsLive
  simp only [mem_fingerprints_startRealRequest (c := { c with world := { c.world with manager } }) known tracked,
    liveFingerprint_startRealRequest synced' known, survivors]
  constructor
  · intro every fp stored
    rcases every fp (Or.inl stored) with (own | spared) | ⟨-, -, targets⟩
    · subst own
      exact survivesSwitch_of_own (live _ stored)
    · exact spared
    · exact absurd rfl targets
  · rintro spared fp (stored | ⟨-, -, own⟩)
    · exact Or.inl (Or.inr (spared fp stored))
    · exact Or.inl (Or.inl own.symm)

/-- The start of a request keeps only snapshots of live leases exactly when it meets the condition. -/
theorem snapshotsLive_onRequestStart_iff {cfg : ControllerConfig} {c : LeaseController} (request : StartRequest)
    (synced : Synced c) (indexed : c.world.Indexed) (live : c.world.SnapshotsLive) :
    (c.onRequestStart cfg request).1.world.SnapshotsLive ↔ KeepsSnapshotsLive cfg c request := by
  by_cases tracked : cfg.enabled = true ∧ request.identity.sessionId ≠ ""
  · have starts : KeepsSnapshotsLive cfg c request ↔
        FoundKeepsSnapshotsLive cfg c request (c.world.manager.findExisting request.identity) :=
      ⟨fun keeps => keeps tracked, fun holds _ => holds⟩
    rw [starts]
    cases existing : c.world.manager.findExisting request.identity with
    | some id =>
        obtain ⟨t, known, -, fingerprint⟩ := findExisting_spec indexed existing
        rw [onRequestStart_reused tracked.1 tracked.2 existing, FoundKeepsSnapshotsLive, ← fingerprint,
          targetsOf_eq known]
        exact snapshotsLive_reused_iff synced live known
    | none =>
        rw [FoundKeepsSnapshotsLive]
        cases resolved : LeaseManager.initialTtl cfg.manager none (1 / 2) request.answer with
        | none =>
            rw [onRequestStart_raised tracked.1 tracked.2 existing resolved]
            exact forall₂_congr fun fp stored => liveFingerprint_switched
        | some pair =>
            rw [onRequestStart_created tracked.1 tracked.2 existing resolved]
            exact snapshotsLive_created_iff synced live existing resolved
  · rw [onRequestStart_untracked tracked]
    constructor
    · intro kept holds
      exact absurd holds tracked
    · intro keeps
      exact live

/-- Every other call keeps only snapshots of live leases. -/
theorem snapshotsLive_of_kept {w w' : World} (live : w.SnapshotsLive)
    (kept : ∀ id t, w.lease? id = some t → t.lease.state ≠ .invalidated →
      ∃ t', w'.lease? id = some t' ∧ t'.lease.cacheFingerprint = t.lease.cacheFingerprint ∧
        t'.lease.state ≠ .invalidated)
    (stores : ∀ fp s, w'.snapshots.get? fp = some s → w.snapshots.get? fp = some s) : w'.SnapshotsLive := by
  intro fp stored
  obtain ⟨s, found⟩ := Dict.mem_keys_iff.1 stored
  have before : fp ∈ w.snapshots.fingerprints := Dict.mem_keys_iff.2 ⟨s, stores fp s found⟩
  exact LiveFingerprint.of_kept kept (live fp before)

/-- The end of a request kills no lease. -/
theorem ended_valid {cfg : ManagerConfig} {now : ℚ} {outcome : Outcome} {usage : Option TokenUsage}
    {routeHash : Option String} {answer : ResolverAnswer} {t : TrackedLease}
    (alive : t.lease.state ≠ .invalidated) :
    (ended cfg now outcome usage routeHash answer t).lease.state ≠ .invalidated := by
  rw [(ended_frame cfg now outcome usage routeHash answer t).1]
  rcases TrackedLease.afterNormalRequest_cases now outcome t with ⟨-, same⟩ | ⟨-, same⟩
  · rw [same]
    exact alive
  · rw [same]
    unfold TrackedLease.refreshed
    dsimp only
    split
    · exact LeaseState.noConfusion
    · exact LeaseState.noConfusion

theorem snapshotsLive_onRequestEnd {cfg : ControllerConfig} {c : LeaseController} (ctx : LeaseRequestContext)
    (outcome : Outcome) (usage : Option TokenUsage) (routeHash : Option String) (answer : ResolverAnswer)
    (live : c.world.SnapshotsLive) :
    (c.onRequestEnd cfg ctx outcome usage routeHash answer).world.SnapshotsLive := by
  apply snapshotsLive_of_kept live
  · intro id t known alive
    obtain ⟨t', known', -, -, fingerprint⟩ :=
      (onRequestEnd_reaches cfg c ctx outcome usage routeHash answer).sameLease known
    refine ⟨t', known', fingerprint, ?_⟩
    cases enabled : cfg.enabled with
    | false =>
        unfold LeaseController.onRequestEnd at known'
        rw [enabled] at known'
        have same : some t = some t' := known.symm.trans known'
        cases same
        exact alive
    | true =>
        rw [(onRequestEnd_frame cfg c ctx outcome usage routeHash answer enabled).1] at known'
        split at known'
        · rename_i own
          rw [own] at known
          rw [known] at known'
          cases known'
          exact ended_valid alive
        · rw [known] at known'
          cases known'
          exact alive
  · exact (onRequestEnd_captures cfg c ctx outcome usage routeHash answer).2

/-- What the scheduler does kills no lease. -/
theorem LeaseEffect.scheduled_valid {cfg : ManagerConfig} {w : World} {id : LeaseId} {a : Action}
    {t t' : TrackedLease} (effect : LeaseEffect cfg w id t a t') (scheduled : a.isScheduler = true)
    (alive : t.lease.state ≠ .invalidated) : t'.lease.state ≠ .invalidated := by
  cases effect with
  | other elsewhere registry => exact alive
  | kept keeps => cases scheduled
  | superseded missing switched => cases scheduled
  | operated operation => exact absurd operation (scheduler_no_operation scheduled)
  | decided here ready queued runs =>
      cases evaluated_of_runs runs with
      | stopped decision other => exact alive
      | scheduled guards =>
          unfold schedule
          dsimp only
          split
          · exact alive
          · exact LeaseState.noConfusion
      | uneconomic guards => exact LeaseState.noConfusion
      | stale guards =>
          rw [consumeSchedule_state]
          exact alive
  | authorised here ready queued authorised =>
      rw [consumeSchedule_state]
      exact alive
  | sentAtOnce here ready queued authorised passed => exact LeaseState.noConfusion
  | refusedAtLock here waiting refused => exact alive
  | sentAtLock here waiting passed => exact LeaseState.noConfusion
  | returned here inside =>
      rw [finishWarm_state, if_neg alive]
      exact LeaseState.noConfusion
  | cancelledWarm here inside =>
      rw [endWarm, CacheLease.arm_eq]
      dsimp only
      rw [if_neg alive]
      exact LeaseState.noConfusion

theorem snapshotsLive_scheduler {cfg : ManagerConfig} {w w' : World} {a : Action}
    (stepped : step cfg w a = some w') (scheduled : a.isScheduler = true) (live : w.SnapshotsLive) :
    w'.SnapshotsLive := by
  apply snapshotsLive_of_kept live
  · intro id t known alive
    obtain ⟨t', known', effect⟩ := step_effect stepped known
    exact ⟨t', known', effect.change.sameLease.fingerprint, effect.scheduled_valid scheduled alive⟩
  · intro fp s found
    rwa [scheduler_snapshots stepped scheduled] at found

/-! ### Runs -/

/-- The condition on a step of the relay. -/
def StepKeepsSnapshotsLive (cfg : ControllerConfig) (r : Relay) : RelayAction → Prop
  | .requestStart request => KeepsSnapshotsLive cfg r.controller request
  | _ => True

instance (cfg : ControllerConfig) (r : Relay) : ∀ a, Decidable (StepKeepsSnapshotsLive cfg r a)
  | .requestStart _ => inferInstanceAs (Decidable (KeepsSnapshotsLive cfg r.controller _))
  | .requestEnd _ _ _ _ _ => .isTrue trivial
  | .scheduler _ => .isTrue trivial

/-- Only live leases have snapshots when the start of a request completes. -/
def StartLeavesSnapshotsLive : RelayAction → Relay → Prop
  | .requestStart _, after => after.controller.world.SnapshotsLive
  | _, _ => True

theorem snapshotsLive_relayStep {cfg : ControllerConfig} {r r' : Relay} {a : RelayAction}
    (stepped : relayStep cfg r a = some r') (live : r.controller.world.SnapshotsLive)
    (started : StartLeavesSnapshotsLive a r') : r'.controller.world.SnapshotsLive := by
  cases a with
  | requestStart request => exact started
  | requestEnd ctx outcome usage routeHash answer =>
      unfold relayStep at stepped
      dsimp only at stepped
      split at stepped
      · cases stepped
        exact snapshotsLive_onRequestEnd ctx outcome usage routeHash answer live
      · cases stepped
  | scheduler b =>
      unfold relayStep at stepped
      dsimp only at stepped
      split at stepped
      · rename_i scheduled
        obtain ⟨world, moved, same⟩ := Option.map_eq_some_iff.1 stepped
        subst same
        exact snapshotsLive_scheduler moved scheduled live
      · cases stepped

/-- In every run of a new relay, after every start of a request the store holds snapshots only for cache fingerprints
    of leases that are not invalidated, if and only if every start of a request meets the condition in the state
    before it. Then it never holds more snapshots than there are live leases. -/
theorem snapshots_live_exact {cfg : ControllerConfig} {start r : Relay} {acts : List RelayAction}
    (initial : start.Initial) (empty : start.controller.world.snapshots = ∅)
    (run : Execution.exec (relayStep cfg) start acts = some r) :
    (Execution.EveryStep (relayStep cfg) (fun _ a after => StartLeavesSnapshotsLive a after) start acts ↔
      Execution.Along (relayStep cfg) (StepKeepsSnapshotsLive cfg) start acts) ∧
    (Execution.Along (relayStep cfg) (StepKeepsSnapshotsLive cfg) start acts →
      r.controller.world.snapshots.fingerprints.length ≤
        (r.controller.world.manager.leases.values.filter fun t => t.lease.state ≠ .invalidated).length) := by
  have unstored : start.controller.world.SnapshotsLive := by
    intro fp stored
    rw [empty] at stored
    cases stored
  have exact : Execution.EveryStep (relayStep cfg) (fun _ a after => StartLeavesSnapshotsLive a after) start acts ↔
      Execution.Along (relayStep cfg) (StepKeepsSnapshotsLive cfg) start acts := by
    apply Execution.everyStep_iff_along_of_keeps (P := fun u : Relay => u.controller.world.SnapshotsLive) unstored run
    · intro before a after u v split reached stepped live
      cases a with
      | requestStart request =>
          cases stepped
          have synced := relay_run_synced initial reached
          obtain ⟨first, worldActs, initially, reaches⟩ := relay_run_reachable initial reached
          exact snapshotsLive_onRequestStart_iff request synced (run_indexed initially reaches) live
      | requestEnd ctx outcome usage routeHash answer => exact Iff.rfl
      | scheduler b => exact Iff.rfl
    · intro before a after u v split reached stepped live started
      exact snapshotsLive_relayStep stepped live started
  refine ⟨exact, fun meets => snapshots_le_live ?_⟩
  refine Execution.history_invariant (R := fun _ (u : Relay) => u.controller.world.SnapshotsLive) unstored ?_ run
  intro before a after u v split reached stepped live
  exact snapshotsLive_relayStep stepped live (exact.2 meets before a after u v split reached stepped)

/-- A request of the session for a cache identity, with a body to replay. -/
def sampleBodyRequest (cacheFingerprint : String) : StartRequest :=
  { sampleRequest cacheFingerprint with body := some [] }

/-- While a session stays with one identity, its snapshot belongs to a live lease. -/
theorem snapshots_live_one_identity :
    Execution.EveryStep (relayStep sampleRelayConfig) (fun _ a after => StartLeavesSnapshotsLive a after) {}
      [.requestStart (sampleBodyRequest "a"), sampleEnd 0, .requestStart (sampleBodyRequest "a")] := by
  have run : Execution.exec (relayStep sampleRelayConfig) {}
      [.requestStart (sampleBodyRequest "a"), sampleEnd 0, .requestStart (sampleBodyRequest "a")] =
        some (sampleRelayAt _) := exec_sampleRelayAt (by decide +kernel)
  exact (snapshots_live_exact ⟨World.initial_empty, rfl, rfl⟩ rfl run).1.2 (by decide +kernel)

/-- After a switch of identity the body of the first identity is still stored, under the fingerprint of a dead
    lease. -/
theorem dead_snapshot_stored :
    (Execution.exec (relayStep sampleRelayConfig) {}
        [.requestStart (sampleBodyRequest "a"), sampleEnd 0, .requestStart (sampleBodyRequest "b")]).map (fun r =>
      (r.controller.world.snapshots.fingerprints, (r.controller.world.lease? 0).map fun t =>
        (t.lease.cacheFingerprint, t.lease.state), decide (r.controller.world.LiveFingerprint "a"))) =
      some (["a", "b"], some ("a", .invalidated), false) := by
  decide +kernel

end CachePilot
