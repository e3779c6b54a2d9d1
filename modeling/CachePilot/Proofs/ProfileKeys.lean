/-
Module: CachePilot.Proofs.ProfileKeys
Layer: Proofs
Purpose: The lease reads the profile that the learner writes. Every lease keeps the provider, the model, the API
  mode and the endpoint of the request that created it, and a request finds a lease only under its own cache
  fingerprint, so these four are the request's. Its route is the one that the response names, because a request
  that can be read has an endpoint, and then a route is observable.
Trusted boundary: none
Main exports: LeaseIdentity.unrouted, Reaches.unrouted, FingerprintsInjective, Traceable, run_traceable,
  resolved_key_learned
-/
import CachePilot.Proofs.Credentials
import CachePilot.Relay.Exchanges

namespace CachePilot

/-! ### What a lease keeps -/

/-- The identity of a lease without its route, which an observed route replaces. -/
def LeaseIdentity.unrouted (identity : LeaseIdentity) : LeaseIdentity :=
  { identity with routeFingerprint := none }

/-- What the key of a route is made of, besides the route, and the cache fingerprint. -/
theorem LeaseIdentity.unrouted_fields {i j : LeaseIdentity} (same : i.unrouted = j.unrouted) :
    i.provider = j.provider ∧ i.model = j.model ∧ i.apiMode = j.apiMode ∧ i.baseUrl = j.baseUrl ∧
      i.cacheFingerprint = j.cacheFingerprint := by
  unfold LeaseIdentity.unrouted at same
  rw [LeaseIdentity.mk.injEq] at same
  obtain ⟨-, provider, model, apiMode, baseUrl, -, -, -, fingerprint, -⟩ := same
  exact ⟨provider, model, apiMode, baseUrl, fingerprint⟩

/-- No operation writes more of the identity than the route. -/
theorem Operation.unrouted {cfg : ManagerConfig} {now : ℚ} {id : LeaseId} {a : Action}
    {f : TrackedLease → TrackedLease} (operation : Operation cfg now id a f) (t : TrackedLease) :
    (f t).lease.toLeaseIdentity.unrouted = t.lease.toLeaseIdentity.unrouted := by
  rw [operation.frame t]
  rfl

theorem LeaseChange.unrouted {cfg : ManagerConfig} {w : World} {id : LeaseId} {a : Action}
    {t t' : TrackedLease} (change : LeaseChange cfg w id t a t') :
    t'.lease.toLeaseIdentity.unrouted = t.lease.toLeaseIdentity.unrouted := by
  cases change with
  | bookkeeping quiet unreturned frame => rw [frame.identity]
  | superseded missing switched => rfl
  | operated operation => exact operation.unrouted t
  | returned flying => rw [finishWarm_identity]

/-- A tracked lease keeps its identity but for the route. -/
theorem Reaches.unrouted {cfg : ManagerConfig} {w w' : World} (reaches : Reaches cfg w w') {id : LeaseId}
    {t : TrackedLease} (known : w.lease? id = some t) :
    ∃ t', w'.lease? id = some t' ∧ t'.lease.toLeaseIdentity.unrouted = t.lease.toLeaseIdentity.unrouted := by
  obtain ⟨acts, run⟩ := reaches
  apply Execution.invariant (I := fun u : World => ∃ t', u.lease? id = some t' ∧
    t'.lease.toLeaseIdentity.unrouted = t.lease.toLeaseIdentity.unrouted) _ _ run
  · exact ⟨t, known, rfl⟩
  · rintro u a v stepped ⟨x, tracked, same⟩
    obtain ⟨x', tracked', change⟩ := step_change stepped tracked
    exact ⟨x', tracked', change.unrouted.trans same⟩

/-- The lease of a tracked request has the request's cache fingerprint. -/
theorem onRequestStart_context {cfg : ControllerConfig} {c : LeaseController} {request : StartRequest}
    {ctx : LeaseRequestContext} (indexed : c.world.Indexed)
    (tracked : (c.onRequestStart cfg request).2 = some ctx) :
    cfg.enabled = true ∧ ∃ t, (c.onRequestStart cfg request).1.world.lease? ctx.leaseId = some t ∧
      t.lease.cacheFingerprint = request.identity.cacheFingerprint := by
  have begun := onRequestStart_cases cfg c request
  generalize c.onRequestStart cfg request = result at begun tracked ⊢
  cases begun with
  | untracked => cases tracked
  | raised called => cases tracked
  | @started manager id enabled called =>
      cases tracked
      have indexed' := step_indexed (step_of_called called) indexed
      obtain ⟨found, -⟩ := registered_of_called called
      obtain ⟨t, known, -, fingerprint⟩ := findExisting_spec indexed' found
      have started := lease?_startRealRequest cfg { c with world := { c.world with manager } } id id request
      rw [if_pos rfl, known] at started
      refine ⟨enabled, _, started, ?_⟩
      exact (congrArg LeaseIdentity.cacheFingerprint (reconciled_identity cfg _ _ t)).trans fingerprint

/-! ### Where leases and contexts come from -/

section Exchanges

variable {B : Type} {cfg : ControllerConfig} {prims : TextPrimitives} {text : BodyText B}
  {x y : Exchanges B} {a : ExchangeAction B}

/-- What a request that the controller reads starts with. -/
theorem startRequest_eq_some {q : PhysicalRequest B} {start : StartRequest}
    (known : q.startRequest prims text = some start) :
    ∃ c ∈ q.canonical prims text, start.identity = leaseIdentity prims q.sessionHeader c := by
  unfold PhysicalRequest.startRequest at known
  obtain ⟨c, accepted, same⟩ := Option.map_eq_some_iff.1 known
  subst same
  exact ⟨c, accepted, rfl⟩

theorem receive_reaches (cfg : ControllerConfig) (prims : TextPrimitives) (text : BodyText B)
    (c : LeaseController) (q : PhysicalRequest B) :
    Reaches cfg.manager c.world (c.receive cfg prims text q).1.world := by
  unfold LeaseController.receive
  split
  · exact onRequestStart_reaches cfg c _
  · exact Reaches.refl _

/-- What a step over exchanges does: a request is received, untracked or tracked; an exchange ends with the
    controller or is left; or the scheduler moves. -/
inductive ExchangeCase (cfg : ControllerConfig) (prims : TextPrimitives) (text : BodyText B)
    (x : Exchanges B) : ExchangeAction B → Exchanges B → Prop where
  | untracked {eid : ExchangeId} {q : PhysicalRequest B} {controller : LeaseController}
      (received : x.controller.receive cfg prims text q = (controller, none)) :
      ExchangeCase cfg prims text x (.arrives eid q) { x with controller }
  | tracked {eid : ExchangeId} {q : PhysicalRequest B} {controller : LeaseController}
      {ctx : LeaseRequestContext}
      (received : x.controller.receive cfg prims text q = (controller, some ctx)) :
      ExchangeCase cfg prims text x (.arrives eid q)
        { controller, waiting := x.waiting.set eid { request := q, ctx } }
  | ended {a : ExchangeAction B} {eid : ExchangeId} {ctx : LeaseRequestContext} {outcome : Outcome}
      {usage : Option TokenUsage} {routeHash : Option String} {answer : ResolverAnswer} :
      ExchangeCase cfg prims text x a
        { controller := x.controller.onRequestEnd cfg ctx outcome usage routeHash answer
          waiting := x.waiting.erase eid }
  | left {eid : ExchangeId} :
      ExchangeCase cfg prims text x (.leaves eid) { x with waiting := x.waiting.erase eid }
  | scheduled {b : Action} {world : World} (task : b.isScheduler = true)
      (moved : step cfg.manager x.controller.world b = some world) :
      ExchangeCase cfg prims text x (.scheduler b) { x with controller := { x.controller with world } }

theorem exchangeStep_cases (stepped : exchangeStep cfg prims text x a = some y) :
    ExchangeCase cfg prims text x a y := by
  cases a with
  | arrives eid q =>
      unfold exchangeStep at stepped
      dsimp only at stepped
      split at stepped
      · cases stepped
      split at stepped
      · rename_i received
        cases stepped
        exact .tracked received
      · rename_i received
        cases stepped
        exact .untracked received
  | completes eid response condition answer =>
      unfold exchangeStep at stepped
      dsimp only at stepped
      split at stepped
      · cases stepped
      · cases stepped
        exact .ended
  | fails eid condition answer =>
      unfold exchangeStep at stepped
      dsimp only at stepped
      split at stepped
      · cases stepped
      · cases stepped
        exact .ended
  | leaves eid =>
      cases stepped
      exact .left
  | scheduler b =>
      unfold exchangeStep at stepped
      dsimp only at stepped
      split at stepped
      · rename_i task
        obtain ⟨world, moved, same⟩ := Option.map_eq_some_iff.1 stepped
        subst same
        exact .scheduled task moved
      · cases stepped

/-- Every step is a run of manager steps. -/
theorem exchangeStep_reaches (stepped : exchangeStep cfg prims text x a = some y) :
    Reaches cfg.manager x.controller.world y.controller.world := by
  cases exchangeStep_cases stepped with
  | @untracked eid q controller result =>
      have received := receive_reaches cfg prims text x.controller q
      rw [result] at received
      exact received
  | @tracked eid q controller ctx result =>
      have received := receive_reaches cfg prims text x.controller q
      rw [result] at received
      exact received
  | ended => exact onRequestEnd_reaches cfg x.controller _ _ _ _ _
  | left => exact Reaches.refl _
  | scheduled task moved => exact Reaches.of_step moved

/-- A lease that the receipt of a request creates has the identity of the request. -/
theorem receive_creates {c : LeaseController} {q : PhysicalRequest B} {id : LeaseId} {t : TrackedLease}
    (absent : c.world.lease? id = none)
    (appears : (c.receive cfg prims text q).1.world.lease? id = some t) :
    ∃ r ∈ q.canonical prims text, t.lease.toLeaseIdentity = leaseIdentity prims q.sessionHeader r := by
  unfold LeaseController.receive at appears
  split at appears
  · rename_i start known
    obtain ⟨r, accepted, same⟩ := startRequest_eq_some known
    exact ⟨r, accepted, (onRequestStart_creates absent appears).trans same⟩
  · rw [absent] at appears
    cases appears

/-- A lease appears only when a request arrives, with the identity of that request. -/
theorem exchangeStep_creates (stepped : exchangeStep cfg prims text x a = some y) {id : LeaseId}
    {t : TrackedLease} (absent : x.controller.world.lease? id = none)
    (appears : y.controller.world.lease? id = some t) :
    ∃ eid q, a = .arrives eid q ∧ ∃ r ∈ q.canonical prims text,
      t.lease.toLeaseIdentity = leaseIdentity prims q.sessionHeader r := by
  cases exchangeStep_cases stepped with
  | @untracked eid q controller result =>
      exact ⟨eid, q, rfl, receive_creates absent (by rw [result]; exact appears)⟩
  | @tracked eid q controller ctx result =>
      exact ⟨eid, q, rfl, receive_creates absent (by rw [result]; exact appears)⟩
  | @ended a eid ctx outcome usage routeHash answer =>
      have missing := appears.symm.trans (onRequestEnd_absent ctx outcome usage routeHash answer absent)
      cases missing
  | left =>
      rw [absent] at appears
      cases appears
  | scheduled task moved =>
      obtain ⟨identity, ttl, confidence, answer, ttlS, conf, rfl, -⟩ := step_creates moved absent appears
      cases task

/-- An exchange that waits waited before, or its request has just arrived and was tracked. -/
theorem exchangeStep_waits (stepped : exchangeStep cfg prims text x a = some y) {eid : ExchangeId}
    {e : Exchange B} (waits : y.waiting.get? eid = some e) :
    x.waiting.get? eid = some e ∨ a = .arrives eid e.request ∧
      x.controller.receive cfg prims text e.request = (y.controller, some e.ctx) := by
  have erased : ∀ other, (x.waiting.erase other).get? eid = some e → x.waiting.get? eid = some e := by
    intro other kept
    rw [Dict.get?_erase] at kept
    split at kept
    · cases kept
    · exact kept
  cases exchangeStep_cases stepped with
  | untracked result => exact Or.inl waits
  | tracked result =>
      rw [Dict.get?_set] at waits
      split at waits
      · rename_i same
        cases waits
        exact Or.inr ⟨same ▸ rfl, result⟩
      · exact Or.inl waits
  | ended => exact Or.inl (erased _ waits)
  | left => exact Or.inl (erased _ waits)
  | scheduled task moved => exact Or.inl waits

/-- Every lease was created by a request of the run, and every exchange that waits is of a request of the run and
    stands on a lease under its cache fingerprint. -/
structure Traceable (cfg : ControllerConfig) (prims : TextPrimitives) (text : BodyText B)
    (past : List (PhysicalRequest B)) (x : Exchanges B) : Prop where
  indexed : x.controller.world.Indexed
  leases : ∀ id t, x.controller.world.lease? id = some t → ∃ q ∈ past, ∃ r ∈ q.canonical prims text,
    t.lease.toLeaseIdentity.unrouted = (leaseIdentity prims q.sessionHeader r).unrouted
  waiting : ∀ eid e, x.waiting.get? eid = some e → e.request ∈ past ∧ cfg.enabled = true ∧
    ∃ r ∈ e.request.canonical prims text, ∃ t, x.controller.world.lease? e.ctx.leaseId = some t ∧
      t.lease.cacheFingerprint = cacheFingerprint prims r

theorem step_traceable {past : List (PhysicalRequest B)} (traceable : Traceable cfg prims text past x)
    (stepped : exchangeStep cfg prims text x a = some y) (listed : ∀ eid q, a = .arrives eid q → q ∈ past) :
    Traceable cfg prims text past y where
  indexed := (exchangeStep_reaches stepped).indexed traceable.indexed
  leases := by
    intro id t known
    cases before : x.controller.world.lease? id with
    | some old =>
        obtain ⟨t', known', same⟩ := (exchangeStep_reaches stepped).unrouted before
        rw [known] at known'
        cases known'
        rw [same]
        exact traceable.leases id old before
    | none =>
        obtain ⟨eid, q, arrived, r, accepted, same⟩ := exchangeStep_creates stepped before known
        exact ⟨q, listed eid q arrived, r, accepted, congrArg LeaseIdentity.unrouted same⟩
  waiting := by
    intro eid e waits
    rcases exchangeStep_waits stepped waits with before | ⟨arrived, received⟩
    · obtain ⟨known, enabled, r, accepted, t, tracked, fingerprint⟩ := traceable.waiting eid e before
      obtain ⟨t', tracked', same⟩ := (exchangeStep_reaches stepped).unrouted tracked
      obtain ⟨-, -, -, -, kept⟩ := LeaseIdentity.unrouted_fields same
      exact ⟨known, enabled, r, accepted, t', tracked', kept.trans fingerprint⟩
    · refine ⟨listed eid e.request arrived, ?_⟩
      unfold LeaseController.receive at received
      split at received
      · rename_i start known
        obtain ⟨r, accepted, same⟩ := startRequest_eq_some known
        obtain ⟨enabled, t, tracked, fingerprint⟩ :=
          onRequestStart_context traceable.indexed (congrArg Prod.snd received)
        rw [received] at tracked
        rw [same] at fingerprint
        exact ⟨enabled, r, accepted, t, tracked, fingerprint⟩
      · cases congrArg Prod.snd received

/-- Every state that a run from an empty relay reaches is traceable to the requests of the run. -/
theorem run_traceable {start : Exchanges B} {acts : List (ExchangeAction B)} (initial : start.Initial)
    (run : Execution.exec (exchangeStep cfg prims text) start acts = some x) :
    Traceable cfg prims text (arrivedRequests acts) x := by
  apply Execution.history_invariant (R := fun _ u => Traceable cfg prims text (arrivedRequests acts) u) _ _ run
  · obtain ⟨⟨manager, -⟩, -, waiting⟩ := initial
    constructor
    · intro fp id found
      rw [manager] at found
      cases found
    · intro id t known
      rw [World.lease?, manager] at known
      cases known
    · intro eid e waits
      rw [waiting] at waits
      cases waits
  · intro past b later u v split reached stepped traceable
    apply step_traceable traceable stepped
    rintro eid q rfl
    rw [split, arrivedRequests, List.filterMap_append]
    exact List.mem_append_right _ (by simp)

/-! ### The two keys -/

/-- The digest tells the cache identities of these requests apart. -/
def FingerprintsInjective (prims : TextPrimitives) (text : BodyText B) (requests : List (PhysicalRequest B)) :
    Prop :=
  ∀ q ∈ requests, ∀ q' ∈ requests, ∀ r ∈ q.canonical prims text, ∀ r' ∈ q'.canonical prims text,
    cacheFingerprint prims r = cacheFingerprint prims r' →
      canonicalJson prims (.obj r.toCacheIdentity.members) =
        canonicalJson prims (.obj r'.toCacheIdentity.members)

theorem fromContent_reroute {provider : String} {model : Json} {apiMode : ApiMode}
    {endpoint authScope : String} {promptPrefix system : Option String} {tools : Option (List Json)}
    {route : Option String} {maxTokens : Json} {stream : Bool} {r : CanonicalRequest}
    (accepted : CanonicalRequest.fromContent prims provider model apiMode endpoint authScope
      promptPrefix system tools route maxTokens stream = some r) (other : Option String) :
    CanonicalRequest.fromContent prims provider model apiMode endpoint authScope promptPrefix system tools
      other maxTokens stream = some { r with route := other } := by
  unfold CanonicalRequest.fromContent at accepted ⊢
  split at accepted
  · dsimp only at accepted ⊢
    split at accepted
    · rename_i named
      cases accepted
      rw [dif_pos named]
    · cases accepted
  · cases accepted

/-- The route is the only part of a canonical request that depends on the response. -/
theorem observedCanonical_of_canonical {q : PhysicalRequest B} {r : CanonicalRequest}
    (accepted : q.canonical prims text = some r) (responseHeaders : List (String × String)) :
    q.observedCanonical prims text responseHeaders =
      some { r with route := (extractRouteIdentity q.upstreamUrl responseHeaders).routeHash prims } := by
  unfold PhysicalRequest.canonical buildCanonicalRequest canonicalOfPayload at accepted
  unfold PhysicalRequest.observedCanonical buildCanonicalRequest canonicalOfPayload
  dsimp only at accepted ⊢
  split at accepted
  · exact fromContent_reroute accepted _
  · cases accepted

/-- A request that can be read has an endpoint. -/
theorem canonical_endpoint {q : PhysicalRequest B} {r : CanonicalRequest}
    (accepted : q.canonical prims text = some r) : endpointIdentity q.upstreamUrl ≠ "" := by
  obtain ⟨messages, -, system, -, built⟩ := canonicalOfPayload_spec accepted
  rw [← built.endpoint]
  exact r.named _ (by simp)

/-- What is resolved for a lease whose route was just observed. -/
theorem resolvedKey_observed {endpointHash : String → String} {c : LeaseController} {ctx : LeaseRequestContext}
    {t : TrackedLease} (enabled : cfg.enabled = true) (known : c.world.lease? ctx.leaseId = some t)
    (outcome : Outcome) (usage : Option TokenUsage) (hash : String) :
    c.resolvedKey endpointHash cfg ctx outcome usage (some hash) =
      some (joinKey t.lease.provider t.lease.model t.lease.apiMode (endpointHash t.lease.baseUrl)
        (some hash)) := by
  have charged : Reaches cfg.manager c.world (World.refreshCosts cfg.manager
      (c.world.applyTo ctx.leaseId (TrackedLease.afterNormalRequest c.world.clock outcome)) ctx.leaseId usage) :=
    Reaches.trans (Operation.afterNormalRequest outcome).reaches (refreshCosts_reaches cfg.manager _ _ usage)
  obtain ⟨t', known', same⟩ := charged.unrouted known
  unfold LeaseController.resolvedKey LeaseController.beforeRefresh
  dsimp only
  rw [if_pos enabled, lease?_observeRoute, if_pos rfl, known']
  dsimp only [Option.map_some]
  obtain ⟨provider, model, apiMode, baseUrl, -⟩ := LeaseIdentity.unrouted_fields same
  rw [← provider, ← model, ← apiMode, ← baseUrl]
  rfl

/-- Under the digest's injectivity, a lease has the unrouted identity of every request that waits on it. -/
theorem Traceable.own {past : List (PhysicalRequest B)} (traceable : Traceable cfg prims text past x)
    (free : FingerprintsInjective prims text past) {eid : ExchangeId} {e : Exchange B}
    (waits : x.waiting.get? eid = some e) :
    cfg.enabled = true ∧ ∃ r ∈ e.request.canonical prims text,
      ∃ t, x.controller.world.lease? e.ctx.leaseId = some t ∧ t.lease.provider = r.provider ∧
        t.lease.model = r.model ∧ t.lease.apiMode = r.apiMode.value ∧ t.lease.baseUrl = r.endpoint ∧
        t.lease.cacheFingerprint = cacheFingerprint prims r := by
  obtain ⟨known, enabled, r, accepted, t, tracked, fingerprint⟩ := traceable.waiting eid e waits
  obtain ⟨q, known', r', accepted', same⟩ := traceable.leases _ t tracked
  obtain ⟨provider, model, apiMode, baseUrl, fingerprint'⟩ := LeaseIdentity.unrouted_fields same
  have identities : r.toCacheIdentity = r'.toCacheIdentity :=
    CacheIdentity.eq_of_canonicalJson
      (free e.request known q known' r accepted r' accepted' (fingerprint.symm.trans fingerprint'))
  refine ⟨enabled, r, accepted, t, tracked, ?_, ?_, ?_, ?_, fingerprint⟩
  · exact provider.trans (congrArg CacheIdentity.provider identities).symm
  · exact model.trans (congrArg CacheIdentity.model identities).symm
  · exact apiMode.trans (congrArg (fun c => c.apiMode.value) identities).symm
  · exact baseUrl.trans (congrArg CacheIdentity.endpoint identities).symm

/-- Without route headers the observer reads the canonical request that the controller read. -/
theorem observedCanonical_of_noRouteHeaders (prims : TextPrimitives) (text : BodyText B)
    {responseHeaders : List (String × String)}
    (silent : NoRouteHeaders responseHeaders) (q : PhysicalRequest B) :
    q.observedCanonical prims text responseHeaders = q.canonical prims text := by
  unfold PhysicalRequest.observedCanonical PhysicalRequest.canonical
  rw [extractRouteIdentity_of_noRouteHeaders silent]

/-- What is recorded of a request that can be read. -/
theorem observe_eq_some {q : PhysicalRequest B} {responseHeaders : List (String × String)}
    {usage : TokenUsage} {outcome : Outcome} {timestamp : ℚ} {o : ObservedRequest}
    (observed : q.observe prims text responseHeaders usage outcome timestamp = some o) :
    ∃ c ∈ q.observedCanonical prims text responseHeaders,
      o.event.cacheFingerprint = cacheFingerprint prims c ∧
        o.observation = ttlObservation c (cacheFingerprint prims c) outcome
          ((extractRouteIdentity q.upstreamUrl responseHeaders).routeHash prims) timestamp := by
  unfold PhysicalRequest.observe at observed
  split at observed
  · rename_i c historyHash accepted _
    cases observed
    exact ⟨c, accepted, rfl, rfl⟩
  · cases observed

/-- What the completion of an exchange that waits does. -/
theorem exchangeStep_completes (cfg : ControllerConfig) (prims : TextPrimitives) (text : BodyText B)
    {eid : ExchangeId} {e : Exchange B} (waits : x.waiting.get? eid = some e)
    (response : UpstreamResponse) (condition : ObserverCondition) (answer : ResolverAnswer) :
    exchangeStep cfg prims text x (.completes eid response condition answer) =
      some
        { controller := x.controller.onRequestEnd cfg e.ctx (response.outcome condition)
            (response.usage condition) (e.routeHash prims response.headers) answer
          waiting := x.waiting.erase eid } := by
  unfold exchangeStep
  dsimp only
  rw [waits]

/-- In every run from an empty relay whose requests the digest tells apart, when an exchange completes that the
    observer records: the key that the lease's TTL is resolved for is the key that the learner used, the answer for
    this key is what the lease is refreshed with, and when the response has no route headers, the lease's cache
    fingerprint is the recorded one. -/
theorem resolved_key_learned {start : Exchanges B} {acts : List (ExchangeAction B)} (initial : start.Initial)
    (free : FingerprintsInjective prims text (arrivedRequests acts))
    (run : Execution.exec (exchangeStep cfg prims text) start acts = some x)
    {eid : ExchangeId} {e : Exchange B} (waits : x.waiting.get? eid = some e)
    {response : UpstreamResponse} {answer : ResolverAnswer}
    (stepped : exchangeStep cfg prims text x (.completes eid response .recording answer) = some y)
    {timestamp : ℚ} {o : ObservedRequest} (observed : e.observe prims text response timestamp = some o)
    (endpointHash : String → String) :
    x.controller.resolvedKey endpointHash cfg e.ctx (response.outcome .recording)
        (response.usage .recording) (e.routeHash prims response.headers) =
      some (o.observation.profileKey endpointHash) ∧
    (∃ t, (x.controller.beforeRefresh cfg e.ctx (response.outcome .recording) (response.usage .recording)
          (e.routeHash prims response.headers)).lease? e.ctx.leaseId = some t ∧
      y.controller.world.lease? e.ctx.leaseId = some (t.refreshTtl answer)) ∧
    (NoRouteHeaders response.headers → ∃ t, y.controller.world.lease? e.ctx.leaseId = some t ∧
      t.lease.cacheFingerprint = o.event.cacheFingerprint) := by
  obtain ⟨enabled, r, accepted, t, tracked, provider, model, apiMode, baseUrl, fingerprint⟩ :=
    (run_traceable initial run).own free waits
  obtain ⟨c, recorded, event, observation⟩ := observe_eq_some observed
  have key : x.controller.resolvedKey endpointHash cfg e.ctx (response.outcome .recording)
      (response.usage .recording) (e.routeHash prims response.headers) =
        some (o.observation.profileKey endpointHash) := by
    have routed := observedCanonical_of_canonical accepted response.headers
    rw [recorded] at routed
    cases routed
    obtain ⟨hash, route⟩ :
        ∃ hash, (extractRouteIdentity e.request.upstreamUrl response.headers).routeHash prims = some hash :=
      routeHash_extractRouteIdentity (canonical_endpoint accepted) response.headers
    rw [Exchange.routeHash, route, resolvedKey_observed enabled tracked, observation, route, provider, model,
      apiMode, baseUrl]
    rfl
  refine ⟨key, ?_, ?_⟩
  · rw [LeaseController.resolvedKey, if_pos enabled] at key
    obtain ⟨u, before, -⟩ := Option.map_eq_some_iff.1 key
    rw [exchangeStep_completes cfg prims text waits] at stepped
    cases stepped
    refine ⟨u, before, ?_⟩
    rw [LeaseController.lease?_onRequestEnd cfg _ _ _ _ _ _ enabled, lease?_applyTo, if_pos rfl, before]
    rfl
  · intro silent
    have same := observedCanonical_of_noRouteHeaders prims text silent e.request
    rw [recorded, accepted] at same
    cases same
    obtain ⟨t', tracked', kept⟩ := (exchangeStep_reaches stepped).unrouted tracked
    obtain ⟨-, -, -, -, fingerprint'⟩ := LeaseIdentity.unrouted_fields kept
    exact ⟨t', tracked', by rw [fingerprint', fingerprint, event]⟩

/-- What is recorded of a request whose content can be read. -/
theorem observe_of_canonical {q : PhysicalRequest B} {c : CanonicalRequest} {historyHash : Option String}
    (accepted : q.canonical prims text = some c)
    (history : extractHistoryHash prims text q.body = some historyHash)
    (responseHeaders : List (String × String)) (usage : TokenUsage) (outcome : Outcome) (timestamp : ℚ) :
    ∃ o, q.observe prims text responseHeaders usage outcome timestamp = some o := by
  unfold PhysicalRequest.observe
  rw [observedCanonical_of_canonical accepted, history]
  exact ⟨_, rfl⟩

end Exchanges

/-! ### One exchange -/

/-- The exchange of a completion. -/
def sampleExchange : Exchange (List (String × Json)) where
  request := sampleCompletion "s" "key"
  ctx := { leaseId := 0, targetsCount := 1 }

/-- The relay while this exchange waits. -/
def sampleExchanges : Exchanges (List (String × Json)) where
  controller := (LeaseController.onRequestStart sampleRelayConfig {} (sampleRead "s" "key")).1
  waiting := Dict.set ∅ 0 sampleExchange

theorem exec_sampleExchanges :
    Execution.exec (exchangeStep sampleRelayConfig samplePrimitives sampleText) {}
      [.arrives 0 (sampleCompletion "s" "key")] = some sampleExchanges := by
  have tracked : (LeaseController.onRequestStart sampleRelayConfig {} (sampleRead "s" "key")).2 =
      some sampleExchange.ctx := by
    decide +kernel
  have received : LeaseController.receive sampleRelayConfig samplePrimitives sampleText {}
      (sampleCompletion "s" "key") = (sampleExchanges.controller, some sampleExchange.ctx) := by
    unfold LeaseController.receive
    rw [startRequest_sampleCompletion]
    exact Prod.ext rfl tracked
  rw [Execution.exec_singleton]
  unfold exchangeStep
  dsimp only
  rw [Dict.get?_empty, received]
  rfl

/-- One request of a run collides with no other. -/
theorem fingerprintsInjective_sampleExchange :
    FingerprintsInjective samplePrimitives sampleText
      (arrivedRequests [.arrives 0 (sampleCompletion "s" "key")]) := by
  intro q known q' known' r accepted r' accepted' _
  obtain rfl : q = sampleCompletion "s" "key" := List.mem_singleton.1 known
  obtain rfl : q' = sampleCompletion "s" "key" := List.mem_singleton.1 known'
  rw [Option.mem_def] at accepted accepted'
  rw [accepted] at accepted'
  cases accepted'
  rfl

/-- A completed response, with headers. -/
def sampleUpstreamAnswer (streams : Bool) (headers : List (String × String)) : UpstreamResponse where
  statusCode := 200
  streams := streams
  headers := headers

/-- A stream that names its region, and a bounded response that names nothing. -/
theorem resolved_key_learned_sample :
    (∃ o, sampleExchange.observe samplePrimitives sampleText (sampleUpstreamAnswer true [("X-Region", "eu")]) 0 =
        some o ∧
      sampleExchanges.controller.resolvedKey samplePrimitives.sha256 sampleRelayConfig sampleExchange.ctx
          .successUnverified none (sampleExchange.routeHash samplePrimitives [("X-Region", "eu")]) =
        some (o.observation.profileKey samplePrimitives.sha256)) ∧
    ∃ o y, sampleExchange.observe samplePrimitives sampleText (sampleUpstreamAnswer false []) 0 = some o ∧
      exchangeStep sampleRelayConfig samplePrimitives sampleText sampleExchanges
        (.completes 0 (sampleUpstreamAnswer false []) .recording .noResolver) = some y ∧
      ∃ t, y.controller.world.lease? 0 = some t ∧
        t.lease.cacheFingerprint = o.event.cacheFingerprint := by
  have initial : (({} : Exchanges (List (String × Json)))).Initial := ⟨⟨rfl, rfl⟩, rfl, rfl⟩
  have waits : sampleExchanges.waiting.get? 0 = some sampleExchange := rfl
  have history : extractHistoryHash samplePrimitives sampleText sampleExchange.request.body = some none := by
    decide +kernel
  have accepted := canonical_sampleCompletion "s" "key"
  constructor
  · obtain ⟨o, observed⟩ := observe_of_canonical accepted history [("X-Region", "eu")] {} .successUnverified 0
    have ended := exchangeStep_completes sampleRelayConfig samplePrimitives sampleText waits
      (sampleUpstreamAnswer true [("X-Region", "eu")]) .recording .noResolver
    exact ⟨o, observed, (resolved_key_learned initial fingerprintsInjective_sampleExchange
      exec_sampleExchanges waits ended observed samplePrimitives.sha256).1⟩
  · obtain ⟨o, observed⟩ := observe_of_canonical accepted history []
      (((sampleUpstreamAnswer false []).usage .recording).getD {})
      ((sampleUpstreamAnswer false []).outcome .recording) 0
    have ended := exchangeStep_completes sampleRelayConfig samplePrimitives sampleText waits
      (sampleUpstreamAnswer false []) .recording .noResolver
    exact ⟨o, _, observed, ended, (resolved_key_learned initial fingerprintsInjective_sampleExchange
      exec_sampleExchanges waits ended observed samplePrimitives.sha256).2.2 (by decide)⟩

end CachePilot
