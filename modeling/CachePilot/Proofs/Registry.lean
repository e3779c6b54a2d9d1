/-
Module: CachePilot.Proofs.Registry
Layer: Proofs
Purpose: Uniqueness in the lease registry. The index by cache fingerprint is single-valued, so a session
  loses its entry when another session creates a lease for the same fingerprint. As long as no call asks
  again for an identity that its session has lost in this way, there is one lease for each session and
  fingerprint and one live lease for each session and provider, and every call with the identity of a
  live lease returns it. The condition is exact.
Trusted boundary: none
Main exports: World.RegistryUnique, ReturnsLive, KeepsRegistry, step_registry_iff, registry_unique_iff
-/
import CachePilot.Proofs.Tasks

namespace CachePilot

/-- The operations that the registry is about: find or create a lease, and invalidate one. -/
def Action.isRegistry : Action → Bool
  | .findOrCreateLease _ _ _ _ | .invalidate _ => true
  | _ => false

/-- One lease for each session and cache fingerprint, and one live lease for each session and provider. -/
structure World.RegistryUnique (w : World) : Prop where
  lease : ∀ id id' t t', w.lease? id = some t → w.lease? id' = some t' →
    t.lease.sessionId = t'.lease.sessionId →
    t.lease.cacheFingerprint = t'.lease.cacheFingerprint → id = id'
  live : ∀ id id' t t', w.lease? id = some t → w.lease? id' = some t' →
    t.lease.sessionId = t'.lease.sessionId → t.lease.provider = t'.lease.provider →
    t.lease.state ≠ .invalidated → t'.lease.state ≠ .invalidated → id = id'

/-- A call with the identity of a live lease of its session returns that lease. -/
def ReturnsLive (cfg : ManagerConfig) (w : World) (a : Action) : Prop :=
  ∀ identity ttl confidence answer, a = .findOrCreateLease identity ttl confidence answer →
    ∀ id t, w.lease? id = some t → t.lease.sessionId = identity.sessionId →
      t.lease.cacheFingerprint = identity.cacheFingerprint → t.lease.state ≠ .invalidated →
      (w.manager.findOrCreateLease cfg identity ttl confidence answer).2 = some id

/-- A call that finds nothing in the index comes from a session that has no lease for the fingerprint; it
    may have dead ones if the call raises before it creates another. -/
def KeepsRegistry (cfg : ManagerConfig) (w : World) : Action → Prop
  | .findOrCreateLease identity ttl confidence answer =>
      w.manager.findExisting identity = none →
        ∀ t ∈ w.manager.leases.values, t.lease.sessionId = identity.sessionId →
          t.lease.cacheFingerprint = identity.cacheFingerprint →
          t.lease.state = .invalidated ∧
            LeaseManager.initialTtl cfg ttl confidence answer = none
  | _ => True

instance (cfg : ManagerConfig) (w : World) (a : Action) : Decidable (KeepsRegistry cfg w a) := by
  unfold KeepsRegistry
  split <;> infer_instance

/-! ### The index -/

/-- The index holds tracked leases, under their own fingerprints. -/
def World.Indexed (w : World) : Prop :=
  ∀ fp id, w.manager.byCacheFingerprint.get? fp = some id →
    ∃ t, w.lease? id = some t ∧ t.lease.cacheFingerprint = fp

theorem step_indexed {cfg : ManagerConfig} {w w' : World} {a : Action}
    (stepped : step cfg w a = some w') (indexed : w.Indexed) : w'.Indexed := by
  have stays : ∀ fp id, w.manager.byCacheFingerprint.get? fp = some id →
      ∃ t, w'.lease? id = some t ∧ t.lease.cacheFingerprint = fp := by
    intro fp id found
    obtain ⟨t, known, same⟩ := indexed fp id found
    obtain ⟨t', known', change⟩ := step_change stepped known
    exact ⟨t', known', change.sameLease.fingerprint.trans same⟩
  intro fp id found
  cases step_cases stepped with
  | @created identity ttl confidence answer ttlS c missing resolved =>
      change (w.manager.byCacheFingerprint.set identity.cacheFingerprint
        (w.manager.invalidateSuperseded identity).freshId).get? fp = some id at found
      rw [Dict.get?_set, freshId_invalidateSuperseded] at found
      split at found
      · rename_i same
        cases found
        refine ⟨LeaseManager.newLease identity w.manager.freshId ttlS c, ?_, same.symm⟩
        simp [World.lease?, lease?_insertLease, freshId_invalidateSuperseded]
      · exact stays fp id found
  | _ => exact stays fp id found

theorem run_indexed {cfg : ManagerConfig} {start w : World} {acts : List Action}
    (initial : start.Initial) (run : exec cfg start acts = some w) : w.Indexed := by
  apply Execution.invariant (I := World.Indexed) _ _ run
  · intro fp id found
    rw [initial.1] at found
    cases found
  · intro u a v stepped indexed
    exact step_indexed stepped indexed

/-- What the index finds is the session's lease for the fingerprint. -/
theorem findExisting_spec {w : World} (indexed : w.Indexed) {identity : LeaseIdentity}
    {id : LeaseId} (found : w.manager.findExisting identity = some id) :
    ∃ t, w.lease? id = some t ∧ t.lease.sessionId = identity.sessionId ∧
      t.lease.cacheFingerprint = identity.cacheFingerprint := by
  unfold LeaseManager.findExisting at found
  split at found
  · cases found
  rename_i j entry
  obtain ⟨t, known, same⟩ := indexed _ j entry
  have stored : w.manager.leases.get? j = some t := known
  rw [stored] at found
  dsimp only at found
  split at found
  · rename_i session
    cases found
    exact ⟨t, known, session, same⟩
  · cases found

/-! ### One step -/

/-- The lease was tracked before under the same session, provider and fingerprint, and was live if it is
    live now. -/
def Descends (w : World) (id : LeaseId) (t' : TrackedLease) : Prop :=
  ∃ t, w.lease? id = some t ∧ SameLease t t' ∧
    (t'.lease.state ≠ .invalidated → t.lease.state ≠ .invalidated)

theorem World.RegistryUnique.of_descends {w w' : World} (unique : w.RegistryUnique)
    (descends : ∀ id t', w'.lease? id = some t' → Descends w id t') : w'.RegistryUnique where
  lease := by
    intro id id' x x' known known' session fingerprint
    obtain ⟨t, tracked, same, -⟩ := descends id x known
    obtain ⟨t', tracked', same', -⟩ := descends id' x' known'
    apply unique.lease id id' t t' tracked tracked'
    · rw [← same.session, ← same'.session, session]
    · rw [← same.fingerprint, ← same'.fingerprint, fingerprint]
  live := by
    intro id id' x x' known known' session provider alive alive'
    obtain ⟨t, tracked, same, lived⟩ := descends id x known
    obtain ⟨t', tracked', same', lived'⟩ := descends id' x' known'
    apply unique.live id id' t t' tracked tracked'
    · rw [← same.session, ← same'.session, session]
    · rw [← same.provider, ← same'.provider, provider]
    · exact lived alive
    · exact lived' alive'

/-- A lease after the registry looked for leases that the identity supersedes. -/
def afterSwitch (identity : LeaseIdentity) (t : TrackedLease) : TrackedLease :=
  if LeaseManager.supersedes identity t then t.invalidate else t

theorem afterSwitch_sameLease (identity : LeaseIdentity) (t : TrackedLease) :
    SameLease t (afterSwitch identity t) := by
  unfold afterSwitch
  split
  · exact ⟨rfl, rfl, rfl⟩
  · exact ⟨rfl, rfl, rfl⟩

/-- What is still live after the switch was live before, and is not superseded. -/
theorem afterSwitch_live {identity : LeaseIdentity} {t : TrackedLease}
    (alive : (afterSwitch identity t).lease.state ≠ .invalidated) :
    t.lease.state ≠ .invalidated ∧ LeaseManager.supersedes identity t = false := by
  unfold afterSwitch at alive
  split at alive
  · exact absurd rfl alive
  · rename_i kept
    exact ⟨alive, by simpa using kept⟩

/-- A live lease of the same session and provider survives the switch only under the same fingerprint. -/
theorem same_fingerprint_of_live {identity : LeaseIdentity} {t : TrackedLease}
    (alive : (afterSwitch identity t).lease.state ≠ .invalidated)
    (session : t.lease.sessionId = identity.sessionId)
    (provider : t.lease.provider = identity.provider) :
    t.lease.cacheFingerprint = identity.cacheFingerprint := by
  obtain ⟨lived, kept⟩ := afterSwitch_live alive
  by_contra other
  have switched : LeaseManager.supersedes identity t = true := by
    simp [LeaseManager.supersedes, session, provider, other, lived]
  rw [kept] at switched
  cases switched

theorem descends_switched {w : World} {identity : LeaseIdentity} {id : LeaseId} {t' : TrackedLease}
    (switched : (w.lease? id).map (afterSwitch identity) = some t') : Descends w id t' := by
  obtain ⟨t, known, same⟩ := Option.map_eq_some_iff.1 switched
  subst same
  exact ⟨t, known, afterSwitch_sameLease identity t, fun alive => (afterSwitch_live alive).1⟩

theorem lease?_switched {w : World} (identity : LeaseIdentity) (id : LeaseId) :
    World.lease? { w with manager := w.manager.invalidateSuperseded identity } id =
      (w.lease? id).map (afterSwitch identity) :=
  lease?_invalidateSuperseded

theorem lease?_created {w : World} (identity : LeaseIdentity) (ttlS c : ℚ) (id : LeaseId) :
    World.lease? { w with manager :=
        (w.manager.invalidateSuperseded identity).insertLease identity ttlS c } id =
      if id = w.manager.freshId then
        some (LeaseManager.newLease identity w.manager.freshId ttlS c)
      else (w.lease? id).map (afterSwitch identity) := by
  unfold World.lease?
  rw [lease?_insertLease, freshId_invalidateSuperseded, lease?_invalidateSuperseded]
  rfl

/-- A new lease collides with every lease of its session and fingerprint. -/
theorem not_unique_created {w : World} {identity : LeaseIdentity} {ttlS c : ℚ} {id : LeaseId}
    {t : TrackedLease} (known : w.lease? id = some t)
    (session : t.lease.sessionId = identity.sessionId)
    (fingerprint : t.lease.cacheFingerprint = identity.cacheFingerprint) :
    ¬ World.RegistryUnique { w with manager :=
      (w.manager.invalidateSuperseded identity).insertLease identity ttlS c } := by
  intro unique
  have old : ¬ id = w.manager.freshId := by
    intro fresh
    rw [fresh, World.lease?, LeaseManager.get?_freshId] at known
    cases known
  apply old
  have same := afterSwitch_sameLease identity t
  apply unique.lease id w.manager.freshId (afterSwitch identity t)
    (LeaseManager.newLease identity w.manager.freshId ttlS c)
  · rw [lease?_created, if_neg old, known]
    rfl
  · rw [lease?_created, if_pos rfl]
  · exact same.session.trans session
  · exact same.fingerprint.trans fingerprint

/-- A new lease of a session without a lease for the fingerprint collides with none. -/
theorem unique_created {w : World} {identity : LeaseIdentity} (ttlS c : ℚ)
    (unique : w.RegistryUnique)
    (none : ∀ id t, w.lease? id = some t → t.lease.sessionId = identity.sessionId →
      t.lease.cacheFingerprint ≠ identity.cacheFingerprint) :
    World.RegistryUnique { w with manager :=
      (w.manager.invalidateSuperseded identity).insertLease identity ttlS c } := by
  have switched : World.RegistryUnique
      { w with manager := w.manager.invalidateSuperseded identity } := by
    apply unique.of_descends
    intro id t' known
    rw [lease?_switched] at known
    exact descends_switched known
  have distinct : ∀ id t', (w.lease? id).map (afterSwitch identity) = some t' →
      t'.lease.sessionId = identity.sessionId →
      t'.lease.cacheFingerprint ≠ identity.cacheFingerprint := by
    intro id t' known session
    obtain ⟨t, tracked, same, -⟩ := descends_switched known
    rw [same.fingerprint]
    exact none id t tracked (same.session.symm.trans session)
  have dead : ∀ id t', (w.lease? id).map (afterSwitch identity) = some t' →
      t'.lease.sessionId = identity.sessionId → t'.lease.provider = identity.provider →
      t'.lease.state = .invalidated := by
    intro id t' known session provider
    by_contra alive
    apply distinct id t' known session
    obtain ⟨t, tracked, same⟩ := Option.map_eq_some_iff.1 known
    subst same
    have kept := afterSwitch_sameLease identity t
    rw [kept.fingerprint]
    exact same_fingerprint_of_live alive (kept.session.symm.trans session)
      (kept.provider.symm.trans provider)
  constructor
  · intro id id' t t' known known' session fingerprint
    rw [lease?_created] at known known'
    split at known
    · split at known'
      · simp_all
      · cases known
        exact absurd fingerprint.symm (distinct id' t' known' session.symm)
    · split at known'
      · cases known'
        exact absurd fingerprint (distinct id t known session)
      · exact switched.lease id id' t t' (by rw [lease?_switched, known])
          (by rw [lease?_switched, known']) session fingerprint
  · intro id id' t t' known known' session provider alive alive'
    rw [lease?_created] at known known'
    split at known
    · split at known'
      · simp_all
      · cases known
        exact absurd (dead id' t' known' session.symm provider.symm) alive'
    · split at known'
      · cases known'
        exact absurd (dead id t known session provider) alive
      · exact switched.live id id' t t' (by rw [lease?_switched, known])
          (by rw [lease?_switched, known']) session provider alive alive'

/-- One call keeps the registry unique, and returns the live lease of its identity, exactly when it meets
    the condition. -/
theorem step_registry_iff {cfg : ManagerConfig} {w w' : World} {a : Action}
    (stepped : step cfg w a = some w') (registry : a.isRegistry = true) (indexed : w.Indexed)
    (unique : w.RegistryUnique) :
    (w'.RegistryUnique ∧ ReturnsLive cfg w a) ↔ KeepsRegistry cfg w a := by
  cases step_cases stepped with
  | @reused identity ttl confidence answer j found =>
      constructor
      · intro _ missing
        rw [found] at missing
        cases missing
      · intro _
        refine ⟨unique, ?_⟩
        intro identity' ttl' confidence' answer' same id t known session fingerprint alive
        cases same
        obtain ⟨x, tracked, session', fingerprint'⟩ := findExisting_spec indexed found
        have this : id = j := by
          apply unique.lease id j t x known tracked
          · rw [session, session']
          · rw [fingerprint, fingerprint']
        rw [LeaseManager.findOrCreateLease, found, this]
  | @resolverRaised identity ttl confidence answer missing raised =>
      constructor
      · rintro ⟨_, returns⟩ _ t member session fingerprint
        refine ⟨?_, raised⟩
        by_contra alive
        obtain ⟨id, known⟩ := Dict.mem_values_iff.1 member
        have returned := returns identity ttl confidence answer rfl id t known session fingerprint alive
        rw [LeaseManager.findOrCreateLease, missing, raised] at returned
        cases returned
      · intro keeps
        constructor
        · apply unique.of_descends
          intro id t' known
          rw [lease?_switched] at known
          exact descends_switched known
        · intro identity' ttl' confidence' answer' same id t known session fingerprint alive
          cases same
          have member := Dict.mem_values_iff.2 ⟨id, known⟩
          exact absurd (keeps missing t member session fingerprint).1 alive
  | @created identity ttl confidence answer ttlS c missing resolved =>
      constructor
      · rintro ⟨after, _⟩ _ t member session fingerprint
        obtain ⟨id, known⟩ := Dict.mem_values_iff.1 member
        exact absurd after (not_unique_created known session fingerprint)
      · intro keeps
        have none : ∀ id t, w.lease? id = some t → t.lease.sessionId = identity.sessionId →
            t.lease.cacheFingerprint ≠ identity.cacheFingerprint := by
          intro id t known session fingerprint
          have member := Dict.mem_values_iff.2 ⟨id, known⟩
          have raised := (keeps missing t member session fingerprint).2
          rw [resolved] at raised
          cases raised
        refine ⟨unique_created ttlS c unique none, ?_⟩
        intro identity' ttl' confidence' answer' same id t known session fingerprint alive
        cases same
        exact absurd fingerprint (none id t known session)
  | @operated a j f x operation known =>
      cases operation with
      | invalidate =>
          have descends : ∀ id t', (w.putLease j x.invalidate).lease? id = some t' →
              Descends w id t' := by
            intro id t' tracked
            rw [World.lease?_putLease] at tracked
            split at tracked
            · rename_i same
              cases tracked
              rw [same]
              exact ⟨x, known, ⟨rfl, rfl, rfl⟩, fun alive => absurd rfl alive⟩
            · exact ⟨t', tracked, ⟨rfl, rfl, rfl⟩, fun alive => alive⟩
          constructor
          · intro _
            trivial
          · intro _
            refine ⟨unique.of_descends descends, ?_⟩
            intro identity ttl confidence answer same
            cases same
      | _ => cases registry
  | spawned starts unused =>
      rcases starts with ⟨j, rfl⟩ | rfl
      · cases registry
      · cases registry
  | _ => cases registry

/-- In every sequence of calls and invalidations from the empty manager, the registry stays unique and
    every call with the identity of a live lease returns it, exactly when every call that finds nothing in
    the index comes from a session that has no lease for the fingerprint. -/
theorem registry_unique_iff {cfg : ManagerConfig} {start w : World} {acts : List Action}
    (initial : start.Initial) (run : exec cfg start acts = some w)
    (calls : ∀ a ∈ acts, a.isRegistry = true) :
    Execution.EveryStep (step cfg) (fun u a v => v.RegistryUnique ∧ ReturnsLive cfg u a) start
        acts ↔
      Execution.Along (step cfg) (KeepsRegistry cfg) start acts := by
  apply Execution.everyStep_iff_along (P := World.RegistryUnique)
    (Q := fun u a _ => ReturnsLive cfg u a) _ run
  · intro before a after u v split reached stepped unique
    have registry : a.isRegistry = true := by
      apply calls
      simp [split]
    exact step_registry_iff stepped registry (run_indexed initial reached) unique
  · have nothing : ∀ id, start.lease? id = none := by
      intro id
      rw [World.lease?, initial.1]
      rfl
    constructor
    · intro id id' t t' known
      rw [nothing id] at known
      cases known
    · intro id id' t t' known
      rw [nothing id] at known
      cases known

/-- Two identities of one session, and another session with one of its own. -/
def sampleCalls : List Action :=
  [sampleCreate "s" "a", sampleCreate "t" "c", sampleCreate "s" "b", sampleCreate "s" "a",
    .invalidate 1]

theorem registry_unique_iff_sample :
    Execution.EveryStep (step sampleConfig)
      (fun u a v => v.RegistryUnique ∧ ReturnsLive sampleConfig u a) {} sampleCalls :=
  (registry_unique_iff ⟨rfl, rfl⟩ (Execution.exec_eq_final (by decide +kernel))
    (by decide +kernel)).2 (by decide +kernel)

/-- Two sessions share a cache fingerprint, and the first one asks again: it gets a second live lease for
    the same identity, not its first one. -/
theorem shared_fingerprint_duplicates :
    (exec sampleConfig {} [sampleCreate "s" "fp", sampleCreate "t" "fp", sampleCreate "s" "fp"]).map
      (fun w => w.manager.leases.entries.map fun e =>
        (e.1, e.2.lease.sessionId, e.2.lease.provider, e.2.lease.cacheFingerprint,
          e.2.lease.state)) =
      some [(0, "s", "provider", "fp", .inactive), (1, "t", "provider", "fp", .inactive),
        (2, "s", "provider", "fp", .inactive)] ∧
    ((sampleAt [sampleCreate "s" "fp", sampleCreate "t" "fp"]).manager.findOrCreateLease
      sampleConfig (sampleIdentity "s" "fp") none (1 / 2) .noResolver).2 = some 2 := by
  decide +kernel

end CachePilot
