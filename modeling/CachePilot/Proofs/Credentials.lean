/-
Module: CachePilot.Proofs.Credentials
Layer: Proofs
Purpose: Whose credentials a warm replays. Every stored snapshot was captured from a request of the run, under
  that request's cache fingerprint, and every lease was created by a request of its fingerprint. The scope in
  the fingerprint is derived from the first authorization header alone, while a snapshot keeps the last value
  of every replayed header, so a warm is sure to carry the credentials of its lease's creator exactly when the
  requests of the run that agree in everything the fingerprint sees agree in what is replayed for them.
Trusted boundary: none
Main exports: PhysicalRequest.slot?, CreatesLease, WarmsKeepCredentials, SlotsSeparate, CredentialsScoped,
  CollisionFree, shares_slot_iff, Provenance, run_provenance, credentials_kept_iff
-/
import CachePilot.Proofs.IdentityText
import CachePilot.Proofs.Snapshots
import CachePilot.Proofs.WarmReplay
import CachePilot.Relay.PhysicalRequests

namespace CachePilot

/-! ### Runs of physical requests -/

section Requests

variable {B : Type} (cfg : ControllerConfig) (prims : TextPrimitives) (text : BodyText B)

/-- The requests that arrive in a run. -/
def requestsOf (acts : List (PhysicalAction B)) : List (PhysicalRequest B) :=
  acts.filterMap fun
    | .arrives request => some request
    | _ => none

/-- The controller correlates the request: it is switched on, and the request names its session. -/
def PhysicalRequest.Correlated (request : PhysicalRequest B) : Prop :=
  cfg.enabled = true ∧ request.sessionHeader ≠ ""

instance (request : PhysicalRequest B) : Decidable (request.Correlated cfg) :=
  inferInstanceAs (Decidable (_ ∧ _))

/-- The snapshot slot of a request that the controller correlates: its cache fingerprint. -/
def PhysicalRequest.slot? (request : PhysicalRequest B) : Option String :=
  if request.Correlated cfg then (request.canonical prims text).map (cacheFingerprint prims) else none

/-- The credentials that a warm sends that replays the request. -/
def PhysicalRequest.credentials (request : PhysicalRequest B) : List (Option String) :=
  CachePilot.credentials (LeaseController.replayHeaders cfg request.headers)

/-- Requests that differ in the value of a replayed credential header have different slots. -/
def SlotsSeparate (requests : List (PhysicalRequest B)) : Prop :=
  ∀ q ∈ requests, ∀ q' ∈ requests, q.credentials cfg ≠ q'.credentials cfg →
    ∀ fp ∈ q.slot? cfg prims text, fp ∉ q'.slot? cfg prims text

/-- The lease was created when this request arrived. -/
def CreatesLease (start : Relay) (acts : List (PhysicalAction B)) (id : LeaseId)
    (request : PhysicalRequest B) : Prop :=
  ∃ early late u v, acts = early ++ .arrives request :: late ∧
    Execution.exec (physicalStep cfg prims text) start early = some u ∧
    physicalStep cfg prims text u (.arrives request) = some v ∧
    u.controller.world.lease? id = none ∧ v.controller.world.lease? id ≠ none

/-- Whenever a warm is sent for a lease, a request has created the lease, and the credentials that the warm
    replays are those of the request that created it. -/
def WarmsKeepCredentials (start : Relay) (acts : List (PhysicalAction B)) : Prop :=
  ∀ before a after u v, acts = before ++ a :: after →
    Execution.exec (physicalStep cfg prims text) start before = some u →
    physicalStep cfg prims text u a = some v →
    ∀ tid id fp snapshot, WarmSent u.controller.world v.controller.world tid id →
      v.controller.world.pointOf tid = some (.executing id fp snapshot) →
      (∃ creator, CreatesLease cfg prims text start before id creator) ∧
        ∀ creator, CreatesLease cfg prims text start before id creator →
          credentials snapshot.replayHeaders = creator.credentials cfg

/-- The requests agree in everything that the cache fingerprint is made of, except the credential scope. -/
def SameContent (q q' : PhysicalRequest B) : Prop :=
  ∃ c ∈ q.canonical prims text, ∃ c' ∈ q'.canonical prims text,
    c.provider = c'.provider ∧ c.model = c'.model ∧ c.apiMode = c'.apiMode ∧ c.endpoint = c'.endpoint ∧
      c.route = c'.route ∧ c.promptKey = c'.promptKey ∧ c.systemHash = c'.systemHash ∧
      c.toolsHash = c'.toolsHash

/-- Of the requests that the controller correlates, those with the same content and the same authorization for
    the scope have the same credentials replayed for them. -/
def CredentialsScoped (requests : List (PhysicalRequest B)) : Prop :=
  ∀ q ∈ requests, ∀ q' ∈ requests, q.Correlated cfg → q'.Correlated cfg → SameContent prims text q q' →
    scopedAuthorization q.headers = scopedAuthorization q'.headers →
    q.credentials cfg = q'.credentials cfg

/-- The digest does not collide on what these requests have it compute for their slots: neither on their cache
    identities nor, cut to its first sixteen characters, on their authorizations. -/
structure CollisionFree (requests : List (PhysicalRequest B)) : Prop where
  identity : ∀ q ∈ requests, ∀ q' ∈ requests, ∀ c ∈ q.canonical prims text,
    ∀ c' ∈ q'.canonical prims text, cacheFingerprint prims c = cacheFingerprint prims c' →
      canonicalJson prims (.obj c.toCacheIdentity.members) =
        canonicalJson prims (.obj c'.toCacheIdentity.members)
  scope : ∀ q ∈ requests, ∀ q' ∈ requests, ∀ auth ∈ scopedAuthorization q.headers,
    ∀ auth' ∈ scopedAuthorization q'.headers,
      (prims.sha256 auth).toList.take 16 = (prims.sha256 auth').toList.take 16 → auth = auth'

end Requests

/-! ### Slots -/

section Slots

variable {B : Type} {cfg : ControllerConfig} {prims : TextPrimitives} {text : BodyText B}
  {q q' : PhysicalRequest B} {requests : List (PhysicalRequest B)}

/-- A canonical request has the scope of its headers. -/
theorem canonical_authScope {c : CanonicalRequest} (accepted : q.canonical prims text = some c) :
    c.authScope = deriveAuthScope prims q.headers := by
  obtain ⟨messages, -, system, -, built⟩ := canonicalOfPayload_spec accepted
  exact built.authScope

theorem mem_slot?_iff {fp : String} :
    fp ∈ q.slot? cfg prims text ↔
      q.Correlated cfg ∧ ∃ c ∈ q.canonical prims text, cacheFingerprint prims c = fp := by
  unfold PhysicalRequest.slot?
  split
  · rename_i correlated
    simp [correlated]
  · rename_i uncorrelated
    simp [uncorrelated]

/-- Two requests share a slot exactly when both are correlated, their content is the same, and so is the
    authorization that their scope is derived from. -/
theorem shares_slot_iff (free : CollisionFree prims text requests) (known : q ∈ requests)
    (known' : q' ∈ requests) :
    (∃ fp ∈ q.slot? cfg prims text, fp ∈ q'.slot? cfg prims text) ↔
      q.Correlated cfg ∧ q'.Correlated cfg ∧ SameContent prims text q q' ∧
        scopedAuthorization q.headers = scopedAuthorization q'.headers := by
  constructor
  · rintro ⟨fp, first, second⟩
    obtain ⟨correlated, c, accepted, rfl⟩ := mem_slot?_iff.1 first
    obtain ⟨correlated', c', accepted', same⟩ := mem_slot?_iff.1 second
    have identities :=
      CacheIdentity.eq_of_canonicalJson
        (free.identity q known q' known' c accepted c' accepted' same.symm)
    have scopes : deriveAuthScope prims q.headers = deriveAuthScope prims q'.headers := by
      rw [← canonical_authScope accepted, ← canonical_authScope accepted', identities]
    refine ⟨correlated, correlated', ⟨c, accepted, c', accepted', ?_⟩,
      scopedAuthorization_of_scope (free.scope q known q' known') scopes⟩
    rw [identities]
    exact ⟨rfl, rfl, rfl, rfl, rfl, rfl, rfl, rfl⟩
  · rintro ⟨correlated, correlated', ⟨c, accepted, c', accepted', content⟩, sameScope⟩
    have scopes : c.authScope = c'.authScope := by
      rw [canonical_authScope accepted, canonical_authScope accepted', deriveAuthScope_eq,
        deriveAuthScope_eq, sameScope]
    have identities : c'.toCacheIdentity = c.toCacheIdentity := by
      obtain ⟨provider, model, apiMode, endpoint, route, promptKey, systemHash, toolsHash⟩ := content
      rw [CacheIdentity.mk.injEq]
      exact ⟨provider.symm, model.symm, apiMode.symm, endpoint.symm, scopes.symm, route.symm,
        promptKey.symm, systemHash.symm, toolsHash.symm⟩
    exact ⟨cacheFingerprint prims c, mem_slot?_iff.2 ⟨correlated, c, accepted, rfl⟩,
      mem_slot?_iff.2 ⟨correlated', c', accepted', cacheFingerprint_congr prims identities⟩⟩

/-- The slots are separate exactly when the credentials are scoped. -/
theorem slotsSeparate_iff (free : CollisionFree prims text requests) :
    SlotsSeparate cfg prims text requests ↔ CredentialsScoped cfg prims text requests := by
  constructor
  · intro separate q known q' known' correlated correlated' content sameScope
    obtain ⟨fp, first, second⟩ :=
      (shares_slot_iff free known known').2 ⟨correlated, correlated', content, sameScope⟩
    by_contra differ
    exact separate q known q' known' differ fp first second
  · intro agree q known q' known' differ fp first second
    obtain ⟨correlated, correlated', content, same⟩ :=
      (shares_slot_iff free known known').1 ⟨fp, first, second⟩
    exact differ (agree q known q' known' correlated correlated' content same)

end Slots

/-! ### Provenance -/

section Provenance

variable {B : Type} {cfg : ControllerConfig} {prims : TextPrimitives} {text : BodyText B} {r r' : Relay}
  {q : PhysicalRequest B} {a : PhysicalAction B}

theorem onRequestStart_uncorrelated (c : LeaseController) {request : StartRequest}
    (session : request.identity.sessionId = q.sessionHeader) (uncorrelated : ¬ q.Correlated cfg) :
    c.onRequestStart cfg request = (c, none) := by
  unfold LeaseController.onRequestStart
  rw [if_pos]
  rw [PhysicalRequest.Correlated, ← session] at uncorrelated
  cases enabled : cfg.enabled with
  | false => rfl
  | true => simpa [enabled] using uncorrelated

theorem requestStart_controller {request : StartRequest}
    (stepped : relayStep cfg r (.requestStart request) = some r') :
    r'.controller = (r.controller.onRequestStart cfg request).1 := by
  cases stepped
  rfl

/-- A request that arrives changes nothing, or the controller starts a request of its slot with its headers. -/
theorem arrives_cases (stepped : physicalStep cfg prims text r (.arrives q) = some r') :
    r'.controller = r.controller ∨ ∃ request : StartRequest,
      request.identity.cacheFingerprint ∈ q.slot? cfg prims text ∧
        request.identity.sessionId = q.sessionHeader ∧ request.headers = q.headers ∧
        r'.controller = (r.controller.onRequestStart cfg request).1 := by
  unfold physicalStep PhysicalAction.read PhysicalRequest.startRequest at stepped
  dsimp only at stepped
  cases accepted : q.canonical prims text with
  | none =>
      rw [accepted] at stepped
      cases stepped
      exact Or.inl rfl
  | some c =>
      rw [accepted] at stepped
      have started := requestStart_controller stepped
      by_cases correlated : q.Correlated cfg
      · exact Or.inr ⟨_, mem_slot?_iff.2 ⟨correlated, c, accepted, rfl⟩, rfl, rfl, started⟩
      · rw [onRequestStart_uncorrelated r.controller rfl correlated] at started
        exact Or.inl started

theorem physicalStep_reaches (stepped : physicalStep cfg prims text r a = some r') :
    Reaches cfg.manager r.controller.world r'.controller.world := by
  unfold physicalStep at stepped
  split at stepped
  · exact relayStep_reaches stepped
  · cases stepped
    exact Reaches.refl _

/-- The other actions are steps of the relay. -/
theorem requestEnd_cases {ctx : LeaseRequestContext} {outcome : Outcome} {usage : Option TokenUsage}
    {routeHash : Option String} {answer : ResolverAnswer}
    (stepped : physicalStep cfg prims text r (.requestEnd ctx outcome usage routeHash answer) =
      some r') :
    r'.controller = r.controller.onRequestEnd cfg ctx outcome usage routeHash answer := by
  unfold physicalStep PhysicalAction.read relayStep at stepped
  dsimp only at stepped
  split at stepped
  · cases stepped
    rfl
  · cases stepped

theorem scheduler_cases {b : Action} (stepped : physicalStep cfg prims text r (.scheduler b) = some r') :
    b.isScheduler = true ∧ step cfg.manager r.controller.world b = some r'.controller.world := by
  unfold physicalStep PhysicalAction.read relayStep at stepped
  dsimp only at stepped
  split at stepped
  · rename_i scheduled
    obtain ⟨world, moved, rfl⟩ := Option.map_eq_some_iff.1 stepped
    exact ⟨scheduled, moved⟩
  · cases stepped

/-- A lease that the start of a request creates has the identity of the request. -/
theorem onRequestStart_creates {c : LeaseController} {request : StartRequest} {id : LeaseId}
    {t : TrackedLease} (absent : c.world.lease? id = none)
    (appears : (c.onRequestStart cfg request).1.world.lease? id = some t) :
    t.lease.toLeaseIdentity = request.identity := by
  have registered : ∀ (manager : LeaseManager) (found : Option LeaseId) (x : TrackedLease),
      c.world.manager.findOrCreateLease cfg.manager request.identity none (1 / 2) request.answer =
        (manager, found) → manager.leases.get? id = some x →
      x.lease.toLeaseIdentity = request.identity := by
    intro manager found x called known
    obtain ⟨identity, ttl, confidence, answer, ttlS, conf, same, -, -, new⟩ :=
      step_creates (step_of_called called) absent known
    cases same
    rw [new]
    rfl
  have begun := onRequestStart_cases cfg c request
  generalize c.onRequestStart cfg request = result at begun appears
  cases begun with
  | untracked =>
      rw [absent] at appears
      cases appears
  | raised called => exact registered _ _ t called appears
  | @started manager j enabled called =>
      rw [lease?_startRealRequest] at appears
      split at appears
      · rename_i own
        obtain ⟨x, known, rfl⟩ := Option.map_eq_some_iff.1 appears
        rw [← own] at known
        exact (reconciled_identity cfg _ _ x).trans (registered manager _ x called known)
      · exact registered manager _ t called appears

/-- The end of a request creates no lease. -/
theorem onRequestEnd_absent {c : LeaseController} {id : LeaseId} (ctx : LeaseRequestContext)
    (outcome : Outcome) (usage : Option TokenUsage) (routeHash : Option String)
    (answer : ResolverAnswer) (absent : c.world.lease? id = none) :
    (c.onRequestEnd cfg ctx outcome usage routeHash answer).world.lease? id = none := by
  cases enabled : cfg.enabled with
  | false =>
      unfold LeaseController.onRequestEnd
      rw [enabled]
      exact absent
  | true =>
      rw [(onRequestEnd_frame cfg c ctx outcome usage routeHash answer enabled).1]
      split
      · rename_i own
        rw [← own, absent]
        rfl
      · exact absent

/-- A lease appears only when a request of its session and fingerprint arrives. -/
theorem physicalStep_creates (stepped : physicalStep cfg prims text r a = some r') {id : LeaseId}
    {t : TrackedLease} (absent : r.controller.world.lease? id = none)
    (appears : r'.controller.world.lease? id = some t) :
    ∃ q, a = .arrives q ∧ t.lease.sessionId = q.sessionHeader ∧
      t.lease.cacheFingerprint ∈ q.slot? cfg prims text := by
  cases a with
  | arrives q =>
      rcases arrives_cases stepped with same | ⟨request, slot, session, -, same⟩
      · rw [same, absent] at appears
        cases appears
      · rw [same] at appears
        have created := onRequestStart_creates absent appears
        rw [congrArg LeaseIdentity.cacheFingerprint created]
        exact ⟨q, rfl, (congrArg LeaseIdentity.sessionId created).trans session, slot⟩
  | requestEnd ctx outcome usage routeHash answer =>
      rw [requestEnd_cases stepped, onRequestEnd_absent ctx outcome usage routeHash answer absent]
        at appears
      cases appears
  | scheduler b =>
      obtain ⟨scheduled, moved⟩ := scheduler_cases stepped
      obtain ⟨identity, ttl, confidence, answer, ttlS, conf, rfl, -⟩ := step_creates moved absent appears
      cases scheduled

/-- A snapshot appears only when a request of its slot arrives, and then it holds what is replayed for that
    request. -/
theorem physicalStep_captures (stepped : physicalStep cfg prims text r a = some r')
    (indexed : r.controller.world.Indexed) {fp : String} {s : RequestSnapshot}
    (found : r'.controller.world.snapshots.get? fp = some s) :
    r.controller.world.snapshots.get? fp = some s ∨ ∃ q, a = .arrives q ∧
      fp ∈ q.slot? cfg prims text ∧
      s.replayHeaders = LeaseController.replayHeaders cfg q.headers := by
  cases a with
  | arrives q =>
      rcases arrives_cases stepped with same | ⟨request, slot, -, headers, same⟩
      · rw [same] at found
        exact Or.inl found
      · rw [same] at found
        rcases (onRequestStart_captures request indexed).2 fp s found with before | ⟨rfl, captured⟩
        · exact Or.inl before
        · rw [headers] at captured
          exact Or.inr ⟨q, rfl, slot, captured⟩
  | requestEnd ctx outcome usage routeHash answer =>
      rw [requestEnd_cases stepped] at found
      exact Or.inl ((onRequestEnd_captures cfg r.controller ctx outcome usage routeHash answer).2 fp s
        found)
  | scheduler b =>
      obtain ⟨scheduled, moved⟩ := scheduler_cases stepped
      rw [scheduler_snapshots moved scheduled] at found
      exact Or.inl found

/-- A warm replays the snapshot that is stored under the fingerprint of its lease. -/
theorem physicalStep_sent (stepped : physicalStep cfg prims text r a = some r')
    (indexed : r.controller.world.Indexed) {tid : TaskId} {id : LeaseId} {fp : String}
    {s : RequestSnapshot} (sent : WarmSent r.controller.world r'.controller.world tid id)
    (inside : r'.controller.world.pointOf tid = some (.executing id fp s)) :
    ∃ t, r.controller.world.lease? id = some t ∧
      r.controller.world.snapshots.get? t.lease.cacheFingerprint = some s := by
  have moves : r'.controller.world.tasks ≠ r.controller.world.tasks := by
    intro same
    apply sent.2
    rw [← sent.1]
    simp only [World.inFlight, World.pointOf, World.task?, same]
  cases a with
  | arrives q =>
      rcases arrives_cases stepped with same | ⟨request, -, -, -, same⟩
      · rw [same] at moves
        exact absurd rfl moves
      · rw [same] at moves
        exact absurd (onRequestStart_captures request indexed).1 moves
  | requestEnd ctx outcome usage routeHash answer =>
      rw [requestEnd_cases stepped] at moves
      exact absurd (onRequestEnd_captures cfg r.controller ctx outcome usage routeHash answer).1 moves
  | scheduler b => exact sent_snapshot (scheduler_cases stepped).2 sent inside

/-- Where everything that a warm uses came from: the snapshots were captured from requests of their slots, the
    leases were created by requests, and the lease that a request created is of its slot. -/
structure Provenance (cfg : ControllerConfig) (prims : TextPrimitives) (text : BodyText B)
    (start : Relay) (past : List (PhysicalAction B)) (r : Relay) : Prop where
  indexed : r.controller.world.Indexed
  snapshots : ∀ fp s, r.controller.world.snapshots.get? fp = some s → ∃ q ∈ requestsOf past,
    fp ∈ q.slot? cfg prims text ∧ s.replayHeaders = LeaseController.replayHeaders cfg q.headers
  leases : ∀ id t, r.controller.world.lease? id = some t →
    ∃ q, CreatesLease cfg prims text start past id q
  creators : ∀ id q, CreatesLease cfg prims text start past id q → q ∈ requestsOf past ∧
    ∃ t, r.controller.world.lease? id = some t ∧ t.lease.cacheFingerprint ∈ q.slot? cfg prims text

theorem requestsOf_append (past later : List (PhysicalAction B)) :
    requestsOf (past ++ later) = requestsOf past ++ requestsOf later := List.filterMap_append

theorem CreatesLease.extend {start : Relay} {past : List (PhysicalAction B)} {id : LeaseId}
    (created : CreatesLease cfg prims text start past id q) (b : PhysicalAction B) :
    CreatesLease cfg prims text start (past ++ [b]) id q := by
  obtain ⟨early, late, u, v, rfl, reached, stepped, absent, present⟩ := created
  exact ⟨early, late ++ [b], u, v, by simp, reached, stepped, absent, present⟩

/-- The creation was in the past, or is the last step. -/
theorem CreatesLease.snoc_cases {start u v : Relay} {past : List (PhysicalAction B)} {id : LeaseId}
    (created : CreatesLease cfg prims text start (past ++ [a]) id q)
    (reached : Execution.exec (physicalStep cfg prims text) start past = some u)
    (stepped : physicalStep cfg prims text u a = some v) :
    CreatesLease cfg prims text start past id q ∨ a = .arrives q ∧
      u.controller.world.lease? id = none ∧ v.controller.world.lease? id ≠ none := by
  obtain ⟨early, late, x, y, split, first, last, absent, present⟩ := created
  rcases List.eq_nil_or_concat late with rfl | ⟨late, b, rfl⟩
  · obtain ⟨rfl, rfl⟩ := List.append_singleton_inj.1 split
    rw [reached] at first
    cases first
    rw [stepped] at last
    cases last
    exact Or.inr ⟨rfl, absent, present⟩
  · rw [List.concat_eq_append, ← List.cons_append, ← List.append_assoc] at split
    obtain ⟨rfl, rfl⟩ := List.append_singleton_inj.1 split
    exact Or.inl ⟨early, late, x, y, rfl, first, last, absent, present⟩

/-- One step keeps the provenance. -/
theorem step_provenance {start : Relay} {past : List (PhysicalAction B)}
    (reached : Execution.exec (physicalStep cfg prims text) start past = some r)
    (stepped : physicalStep cfg prims text r a = some r')
    (provenance : Provenance cfg prims text start past r) :
    Provenance cfg prims text start (past ++ [a]) r' where
  indexed := (physicalStep_reaches stepped).indexed provenance.indexed
  snapshots := by
    intro fp s found
    rw [requestsOf_append]
    rcases physicalStep_captures stepped provenance.indexed found with before | ⟨q, rfl, slot, captured⟩
    · obtain ⟨q, known, slot, captured⟩ := provenance.snapshots fp s before
      exact ⟨q, List.mem_append_left _ known, slot, captured⟩
    · exact ⟨q, List.mem_append_right _ (by simp [requestsOf]), slot, captured⟩
  leases := by
    intro id t tracked
    cases before : r.controller.world.lease? id with
    | some x =>
        obtain ⟨q, created⟩ := provenance.leases id x before
        exact ⟨q, created.extend a⟩
    | none =>
        obtain ⟨q, rfl, -⟩ := physicalStep_creates stepped before tracked
        exact ⟨q, past, [], r, r', rfl, reached, stepped, before, by rw [tracked]; simp⟩
  creators := by
    intro id q created
    rw [requestsOf_append]
    rcases created.snoc_cases reached stepped with before | ⟨rfl, absent, present⟩
    · obtain ⟨known, t, tracked, slot⟩ := provenance.creators id q before
      obtain ⟨t', tracked', -, -, same⟩ := (physicalStep_reaches stepped).sameLease tracked
      exact ⟨List.mem_append_left _ known, t', tracked', by rw [same]; exact slot⟩
    · obtain ⟨t, tracked⟩ := Option.ne_none_iff_exists'.1 present
      obtain ⟨q', same, -, slot⟩ := physicalStep_creates stepped absent tracked
      cases same
      exact ⟨List.mem_append_right _ (by simp [requestsOf]), t, tracked, slot⟩

/-- Every state that a run from an empty relay reaches has its provenance in the run. -/
theorem run_provenance {start : Relay} {acts : List (PhysicalAction B)} (initial : start.Initial)
    (unstored : start.controller.world.snapshots = ∅)
    (run : Execution.exec (physicalStep cfg prims text) start acts = some r) :
    Provenance cfg prims text start acts r := by
  apply Execution.history_invariant (R := Provenance cfg prims text start) _ _ run
  · obtain ⟨⟨manager, -⟩, -, -⟩ := initial
    constructor
    · intro fp id found
      rw [manager] at found
      cases found
    · intro fp s found
      rw [unstored] at found
      cases found
    · intro id t tracked
      rw [World.lease?, manager] at tracked
      cases tracked
    · rintro id q ⟨early, late, u, v, split, -⟩
      simp at split
  · intro past b later u v split reached stepped provenance
    exact step_provenance reached stepped provenance

/-- Where the slots are separate, every warm replays the credentials of the request that created its lease. -/
theorem warmsKeepCredentials_of_separate {start : Relay} {acts : List (PhysicalAction B)}
    (initial : start.Initial) (unstored : start.controller.world.snapshots = ∅)
    (separate : SlotsSeparate cfg prims text (requestsOf acts)) :
    WarmsKeepCredentials cfg prims text start acts := by
  intro before a after u v split reached stepped tid id fp s sent inside
  have provenance := run_provenance initial unstored reached
  obtain ⟨t, tracked, held⟩ := physicalStep_sent stepped provenance.indexed sent inside
  obtain ⟨q, known, slot, captured⟩ := provenance.snapshots _ s held
  refine ⟨provenance.leases id t tracked, ?_⟩
  intro creator created
  obtain ⟨known', t', tracked', slot'⟩ := provenance.creators id creator created
  rw [tracked] at tracked'
  cases tracked'
  have within : ∀ x ∈ requestsOf before, x ∈ requestsOf acts := by
    intro x listed
    rw [split, requestsOf_append]
    exact List.mem_append_left _ listed
  rw [captured]
  by_contra differ
  exact separate q (within q known) creator (within creator known') differ _ slot slot'

/-- In every run from an empty relay whose requests do not make the digest collide: warms keep to the
    credentials of the request that created their lease, and requests with different credentials have
    different slots, exactly when the credentials of the run's requests are scoped. -/
theorem credentials_kept_iff {start : Relay} {acts : List (PhysicalAction B)} (initial : start.Initial)
    (unstored : start.controller.world.snapshots = ∅)
    (free : CollisionFree prims text (requestsOf acts)) :
    (WarmsKeepCredentials cfg prims text start acts ∧ SlotsSeparate cfg prims text (requestsOf acts)) ↔
      CredentialsScoped cfg prims text (requestsOf acts) := by
  rw [← slotsSeparate_iff free]
  constructor
  · rintro ⟨-, separate⟩
    exact separate
  · intro separate
    exact ⟨warmsKeepCredentials_of_separate initial unstored separate, separate⟩

end Provenance

/-! ### Two sessions -/

/-- A completion of a session with an API key and one background target. -/
def sampleCompletion (session key : String) : PhysicalRequest (List (String × Json)) where
  body := [("model", .str "m"), ("max_tokens", .int 100)]
  path := "/v1/chat/completions"
  upstreamUrl := "https://upstream/v1/chat/completions"
  headers := [("api-key", key)]
  sessionHeader := session
  targetsCount := 1

/-- The digest of the empty text. -/
def sampleEmptyHash : String := "e3b0c44298fc1c149afbf4c8996fb92427ae41e4649b934ca495991b7852b855"

theorem sampleContent_named :
    ∀ name ∈ ["upstream", "m", "https://upstream/v1/chat/completions", "relay-default",
      sampleEmptyHash, sampleEmptyHash, sampleEmptyHash], name ≠ "" := by
  decide +kernel

theorem sampleContent_maxTokens : ∀ n ∈ some 100, 1 ≤ n := by decide

/-- The canonical request of these completions: neither the session nor the key is part of it. -/
def sampleContent : CanonicalRequest where
  provider := "upstream"
  model := "m"
  apiMode := .chat
  endpoint := "https://upstream/v1/chat/completions"
  authScope := "relay-default"
  route := some "7e108725334dd8a76a61947d391bd168d044abe9e0e232e7e2a7ce56082b185a"
  promptKey := sampleEmptyHash
  systemHash := sampleEmptyHash
  toolsHash := sampleEmptyHash
  named := sampleContent_named
  maxTokens := some 100
  stream := false
  timeoutS := none
  toolsSetHash := some sampleEmptyHash
  maxTokens_pos := sampleContent_maxTokens
  timeoutS_pos := noTimeout_pos

/-- What the controller starts with for a completion, its cache fingerprint written out. -/
def sampleRead (session key : String) : StartRequest where
  identity :=
    { leaseIdentity samplePrimitives session sampleContent with
      cacheFingerprint := "ce4062477e7998ac3045b890d32f4e2596d9468e49d7868ec63015056b57e116" }
  targetsCount := 1
  body := some [("model", .str "m"), ("max_tokens", .int 100)]
  upstreamUrl := "https://upstream/v1/chat/completions"
  headers := [("api-key", key)]

theorem scope_sampleCompletion (session key : String) :
    scopedAuthorization (sampleCompletion session key).headers = none := by
  have other : ¬ "api-key".toLower = "authorization" := by decide +kernel
  simp [scopedAuthorization, getHeader, sampleCompletion, other]

theorem canonical_sampleCompletion (session key : String) :
    (sampleCompletion session key).canonical samplePrimitives sampleText = some sampleContent := by
  have first : (sampleCompletion "" "").canonical samplePrimitives sampleText = some sampleContent := by
    decide +kernel
  have scope : deriveAuthScope samplePrimitives (sampleCompletion session key).headers =
      deriveAuthScope samplePrimitives (sampleCompletion "" "").headers := by
    rw [deriveAuthScope_eq, deriveAuthScope_eq, scope_sampleCompletion, scope_sampleCompletion]
  rw [PhysicalRequest.canonical, scope]
  exact first

theorem leaseIdentity_sampleContent (session key : String) :
    leaseIdentity samplePrimitives session sampleContent = (sampleRead session key).identity := by
  have cached : (leaseIdentity samplePrimitives session sampleContent).cacheFingerprint =
      "ce4062477e7998ac3045b890d32f4e2596d9468e49d7868ec63015056b57e116" := by
    change samplePrimitives.sha256 _ = _
    rw [sha256_canonicalJson]
    decide +kernel
  rw [sampleRead, ← cached]

theorem startRequest_sampleCompletion (session key : String) :
    (sampleCompletion session key).startRequest samplePrimitives sampleText = some (sampleRead session key) := by
  rw [PhysicalRequest.startRequest, canonical_sampleCompletion, Option.map_some]
  change some { sampleRead session key with identity := leaseIdentity samplePrimitives session sampleContent } = _
  rw [leaseIdentity_sampleContent session key]

theorem read_sampleCompletion (session key : String) :
    (PhysicalAction.arrives (sampleCompletion session key)).read samplePrimitives sampleText =
      some (.requestStart (sampleRead session key)) := by
  rw [PhysicalAction.read, startRequest_sampleCompletion, Option.map_some]

/-- Two sessions with these keys send the same completion, and the lease of the first becomes due. -/
def sampleSessions (key key' : String) : List (PhysicalAction (List (String × Json))) :=
  [.arrives (sampleCompletion "s" key),
    .requestEnd { leaseId := 0, targetsCount := 1 } .confirmedHit none none .noResolver,
    .arrives (sampleCompletion "t" key'),
    .requestEnd { leaseId := 1, targetsCount := 1 } .confirmedHit none none .noResolver,
    .scheduler (.setClock 1000), .scheduler (.evaluateLease 0 0)]

/-- What the controller does then. -/
def sampleSessionsRead (key key' : String) : List RelayAction :=
  [.requestStart (sampleRead "s" key), sampleEnd 0, .requestStart (sampleRead "t" key'), sampleEnd 1,
    .scheduler (.setClock 1000), .scheduler (.evaluateLease 0 0)]

/-- The evaluation that sends the warm of the first lease. -/
def sampleWarming : PhysicalAction (List (String × Json)) := .scheduler (.resume 0)

theorem read_sampleSessions (key key' : String) :
    (sampleSessions key key').filterMap (PhysicalAction.read samplePrimitives sampleText) =
      sampleSessionsRead key key' := by
  unfold sampleSessions sampleSessionsRead
  simp only [List.filterMap_cons, read_sampleCompletion]
  rfl

/-- The digest does not collide on the completions, which have one canonical request. -/
theorem collisionFree_sampleCompletion {requests : List (PhysicalRequest (List (String × Json)))}
    (listed : ∀ q ∈ requests, ∃ session key, q = sampleCompletion session key) :
    CollisionFree samplePrimitives sampleText requests := by
  constructor
  · intro q known q' known' x accepted x' accepted' _
    obtain ⟨session, key, rfl⟩ := listed q known
    obtain ⟨session', key', rfl⟩ := listed q' known'
    rw [canonical_sampleCompletion] at accepted
    rw [canonical_sampleCompletion] at accepted'
    cases accepted
    cases accepted'
    rfl
  · intro q known q' known' auth given
    obtain ⟨session, key, rfl⟩ := listed q known
    rw [scope_sampleCompletion] at given
    cases given

/-- The credentials that a task replays, when it is in the executor. -/
def World.replaying (w : World) (tid : TaskId) : Option (List (Option String)) :=
  match w.pointOf tid with
  | some (.executing _ _ snapshot) => some (credentials snapshot.replayHeaders)
  | _ => none

theorem Relay.initial_empty : Relay.Initial {} := ⟨World.initial_empty, rfl, rfl⟩

theorem mem_requestsOf_sample {key key' : String} {q : PhysicalRequest (List (String × Json))}
    (known : q ∈ requestsOf (sampleSessions key key' ++ [sampleWarming])) :
    q = sampleCompletion "s" key ∨ q = sampleCompletion "t" key' := by
  simpa [requestsOf, sampleSessions, sampleWarming] using known

theorem collisionFree_sampleSessions (key key' : String) :
    CollisionFree samplePrimitives sampleText
      (requestsOf (sampleSessions key key' ++ [sampleWarming])) := by
  apply collisionFree_sampleCompletion
  intro q known
  rcases mem_requestsOf_sample known with rfl | rfl
  · exact ⟨_, _, rfl⟩
  · exact ⟨_, _, rfl⟩

/-- Two sessions with one key share a slot, and the warm replays the key of both. -/
theorem credentials_kept_iff_sample :
    (WarmsKeepCredentials sampleRelayConfig samplePrimitives sampleText {}
        (sampleSessions "one" "one" ++ [sampleWarming]) ∧
      SlotsSeparate sampleRelayConfig samplePrimitives sampleText
        (requestsOf (sampleSessions "one" "one" ++ [sampleWarming]))) ∧
    (sampleRelayAt (sampleSessionsRead "one" "one" ++
      [.scheduler (.resume 0)])).controller.world.replaying 0 = some [none, some "one"] := by
  refine ⟨(credentials_kept_iff Relay.initial_empty rfl
    (collisionFree_sampleSessions "one" "one")).2 ?_, by decide +kernel⟩
  intro q known q' known' _ _ _ _
  have own : ∀ x ∈ requestsOf (sampleSessions "one" "one" ++ [sampleWarming]),
      x.headers = [("api-key", "one")] := by
    intro x listed
    rcases mem_requestsOf_sample listed with rfl | rfl
    · rfl
    · rfl
  rw [PhysicalRequest.credentials, PhysicalRequest.credentials, own q known, own q' known']

/-- The run of two sessions with a key each, until the first lease is due. -/
theorem exec_sampleSessions :
    Execution.exec (physicalStep sampleRelayConfig samplePrimitives sampleText) {}
        (sampleSessions "one" "two") =
      some (sampleRelayAt (sampleSessionsRead "one" "two")) := by
  rw [exec_physicalStep, read_sampleSessions]
  exact exec_sampleRelayAt (by decide +kernel)

theorem step_sampleWarming :
    physicalStep sampleRelayConfig samplePrimitives sampleText
        (sampleRelayAt (sampleSessionsRead "one" "two")) sampleWarming =
      some (sampleRelayAt (sampleSessionsRead "one" "two" ++ [.scheduler (.resume 0)])) := by
  rw [physicalStep_of_read rfl]
  exact Execution.step_final (by decide +kernel)

/-- The first session's request creates the first lease. -/
theorem created_sampleSessions :
    CreatesLease sampleRelayConfig samplePrimitives sampleText {} (sampleSessions "one" "two") 0
      (sampleCompletion "s" "one") := by
  have first : Execution.exec (relayStep sampleRelayConfig) {} [.requestStart (sampleRead "s" "one")] =
      some (sampleRelayAt [.requestStart (sampleRead "s" "one")]) :=
    exec_sampleRelayAt (by decide +kernel)
  refine ⟨[], _, {}, sampleRelayAt [.requestStart (sampleRead "s" "one")], rfl, rfl, ?_, rfl, ?_⟩
  · rw [Execution.exec_singleton] at first
    rw [physicalStep_of_read (read_sampleCompletion "s" "one"), first]
  · decide +kernel

/-- Both completions have the same slot, whatever their keys are. -/
theorem slot_sampleCompletion {session : String} (named : session ≠ "") (key : String) :
    cacheFingerprint samplePrimitives sampleContent ∈
      (sampleCompletion session key).slot? sampleRelayConfig samplePrimitives sampleText :=
  mem_slot?_iff.2 ⟨⟨rfl, named⟩, sampleContent, canonical_sampleCompletion session key, rfl⟩

/-- Two sessions with a key each and no authorization: the request of the second takes the place of the first
    one's snapshot, and the warm of the first lease replays the key of the second. -/
theorem borrowed_credentials :
    CollisionFree samplePrimitives sampleText
        (requestsOf (sampleSessions "one" "two" ++ [sampleWarming])) ∧
      ¬ WarmsKeepCredentials sampleRelayConfig samplePrimitives sampleText {}
        (sampleSessions "one" "two" ++ [sampleWarming]) ∧
      ¬ SlotsSeparate sampleRelayConfig samplePrimitives sampleText
        (requestsOf (sampleSessions "one" "two" ++ [sampleWarming])) := by
  refine ⟨collisionFree_sampleSessions "one" "two", ?_, ?_⟩
  · intro kept
    have sent : WarmSent (sampleRelayAt (sampleSessionsRead "one" "two")).controller.world
        (sampleRelayAt (sampleSessionsRead "one" "two" ++
          [.scheduler (.resume 0)])).controller.world 0 0 := by
      decide +kernel
    have replayed : (sampleRelayAt (sampleSessionsRead "one" "two" ++
        [.scheduler (.resume 0)])).controller.world.replaying 0 = some [none, some "two"] := by
      decide +kernel
    obtain ⟨fp, snapshot, inside⟩ := World.inFlight_eq_some_iff.1 sent.1
    have own := (kept _ _ [] _ _ rfl exec_sampleSessions step_sampleWarming 0 0 fp snapshot sent
      inside).2 _ created_sampleSessions
    rw [World.replaying, inside] at replayed
    rw [Option.some.inj replayed] at own
    revert own
    decide +kernel
  · intro separate
    have differ : (sampleCompletion "s" "one").credentials sampleRelayConfig ≠
        (sampleCompletion "t" "two").credentials sampleRelayConfig := by decide +kernel
    exact separate (sampleCompletion "s" "one") (by simp [requestsOf, sampleSessions])
      (sampleCompletion "t" "two") (by simp [requestsOf, sampleSessions]) differ _
      (slot_sampleCompletion (by decide) "one") (slot_sampleCompletion (by decide) "two")

/-- The session is no part of the credentials. -/
example :
    (sampleCompletion "s" "one").credentials sampleRelayConfig =
      (sampleCompletion "t" "one").credentials sampleRelayConfig := by
  decide +kernel

end CachePilot
