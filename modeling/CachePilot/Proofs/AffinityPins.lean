/-
Module: CachePilot.Proofs.AffinityPins
Layer: Proofs
Purpose: What holds of affinity pins over every interleaving of requests. A pin is read when a request arrives, dropped
  when a request ends behind its generation, and set from the newest route change of the session. In every run a pin
  goes into requests of its own lease only, before it expires. Two requests of one lease that overlap read the same
  pin, and a route change of another model of the session sets one; when neither happens, each pin goes into one
  request, and its route was observed for the provider and the model of its lease.
Trusted boundary: none
Main exports: AffinityCase, AffinityRelay.Kept, AffinityRelay.SingleUse,
  AffinityRelay.Observed, Orderly, pins_single_use
-/
import CachePilot.Proofs.ProfileKeys
import CachePilot.Proofs.QueuedWarms
import CachePilot.Proofs.StoredTimes
import CachePilot.Relay.RouteAffinity

namespace CachePilot

/-! ### The log and the store -/

section Store

variable {texts : StorageTexts} {writes : List StoreWrite} {store : TelemetryStore}

/-- The query finds the newest request event of the session. -/
theorem Holding.lastEventForSession (holding : Holding texts writes store) (sessionHash : String) :
    ∃ entry : Option (ℕ × RequestEventRecord),
      store.lastEventForSession texts sessionHash = some (entry.map fun entry => entry.2.stored entry.1) ∧
        entry.map Prod.snd = (writes.filterMap StoreWrite.request?).reverse.find? fun event =>
          event.sessionHash = some sessionHash := by
  have agree : ∀ id event, TelemetryStore.rowOfSession sessionHash
      (SqlTable.insertedRow id requestInsertColumns (requestValues texts event)) =
        decide (event.sessionHash = some sessionHash) := by
    intro id event
    rw [TelemetryStore.rowOfSession, decide_eq_decide, ← ofText_eq_text_iff]
    simp [SqlTable.insertedRow, requestInsertColumns, requestValues, SqlRow.column, List.lookup_cons]
  obtain ⟨entry, row, event⟩ := holding.requests.find_newest agree
  refine ⟨entry, ?_, event.symm⟩
  rw [TelemetryStore.lastEventForSession, row]
  cases entry with
  | none => rfl
  | some entry => exact congrArg (Option.map some) (rowToRequestEvent_inserted texts entry.1 entry.2)

end Store

/-! ### Generations -/

/-- The generation of a lease never falls. -/
theorem Reaches.generation_le {cfg : ManagerConfig} {w w' : World} (reaches : Reaches cfg w w') {id : LeaseId}
    {t t' : TrackedLease} (known : w.lease? id = some t) (known' : w'.lease? id = some t') :
    t.lease.generation ≤ t'.lease.generation := by
  obtain ⟨acts, run⟩ := reaches
  exact run_generation_le run known known'

theorem reconciled_generation (cfg : ControllerConfig) (current : List String) (count : ℕ) (t : TrackedLease) :
    (reconciled cfg current count t).lease.generation = t.lease.generation := by
  have finished : ∀ targets u, (finishTargets targets u).lease.generation = u.lease.generation := by
    intro targets u
    apply List.foldlRecOn targets (motive := fun x : TrackedLease => x.lease.generation = u.lease.generation)
    · rfl
    · intro x same target listed
      rw [TrackedLease.targetFinished_frame]
      exact same
  have started : ∀ targets u, (startTargets targets u).lease.generation = u.lease.generation := by
    intro targets u
    apply List.foldlRecOn targets (motive := fun x : TrackedLease => x.lease.generation = u.lease.generation)
    · rfl
    · intro x same target listed
      rw [TrackedLease.targetStarted_frame]
      exact same
  unfold reconciled
  rw [started, finished]

/-- A request that starts on a lease leaves every earlier generation of it behind. -/
theorem onRequestStart_generation {cfg : ControllerConfig} {c : LeaseController} {request : StartRequest}
    {ctx : LeaseRequestContext} (tracked : (c.onRequestStart cfg request).2 = some ctx) {t t' : TrackedLease}
    (known : c.world.lease? ctx.leaseId = some t)
    (known' : (c.onRequestStart cfg request).1.world.lease? ctx.leaseId = some t') :
    t.lease.generation < t'.lease.generation := by
  have begun := onRequestStart_cases cfg c request
  generalize c.onRequestStart cfg request = result at begun tracked known'
  cases begun with
  | untracked => cases tracked
  | raised called => cases tracked
  | @started manager id enabled called =>
      cases tracked
      have registered := Reaches.of_step (step_of_called called)
      dsimp only at known known'
      rw [lease?_startRealRequest, if_pos rfl] at known'
      obtain ⟨u, here, rfl⟩ := Option.map_eq_some_iff.mp known'
      have grown := registered.generation_le known here
      have bumped : ((reconciled cfg (LeaseController.pruneTargetIds
          { c with world := { c.world with manager } } |>.currentTargets id) request.targetsCount u).beforeNormalRequest
          c.world.clock).lease.generation = u.lease.generation + 1 := by
        rw [← reconciled_generation cfg _ request.targetsCount u]
        rfl
      exact Nat.lt_of_le_of_lt grown (by rw [bumped]; exact Nat.lt_succ_self _)

theorem receive_generation {B : Type} {cfg : ControllerConfig} {prims : TextPrimitives} {text : BodyText B}
    {c controller : LeaseController} {q : PhysicalRequest B} {ctx : LeaseRequestContext}
    (received : c.receive cfg prims text q = (controller, some ctx)) {t t' : TrackedLease}
    (known : c.world.lease? ctx.leaseId = some t) (known' : controller.world.lease? ctx.leaseId = some t') :
    t.lease.generation < t'.lease.generation := by
  unfold LeaseController.receive at received
  split at received
  · rename_i start read
    have tracked := congrArg Prod.snd received
    have same := congrArg Prod.fst received
    dsimp only at same
    subst same
    exact onRequestStart_generation tracked known known'
  · cases congrArg Prod.snd received

theorem onRequestStart_clock (cfg : ControllerConfig) (c : LeaseController) (request : StartRequest) :
    (c.onRequestStart cfg request).1.world.clock = c.world.clock := by
  have begun := onRequestStart_cases cfg c request
  generalize c.onRequestStart cfg request = result at begun
  cases begun with
  | untracked => rfl
  | raised called => rfl
  | started enabled called =>
      unfold LeaseController.startRealRequest LeaseController.syncTargets
      dsimp only
      rw [(storeSnapshot_frame cfg _ _ request).2.1]
      dsimp only
      rw [clock_applyTo, clock_foldl_applyTo, clock_foldl_applyTo, clock_pruneSnapshots]
      rfl

theorem receive_clock {B : Type} (cfg : ControllerConfig) (prims : TextPrimitives) (text : BodyText B)
    (c : LeaseController) (q : PhysicalRequest B) :
    (c.receive cfg prims text q).1.world.clock = c.world.clock := by
  unfold LeaseController.receive
  split
  · exact onRequestStart_clock cfg c _
  · rfl

/-! ### What a step does -/

namespace TelemetryLog

/-- Nothing is forgotten, and the previous event of every new route change was there before. -/
structure Grows (log log' : TelemetryLog) : Prop where
  requests : log.requests ⊆ log'.requests
  routeChanges : ∀ change ∈ log'.routeChanges, change ∈ log.routeChanges ∨ change.previous ∈ log.requests

theorem Grows.refl (log : TelemetryLog) : Grows log log := ⟨fun _ listed => listed, fun _ listed => Or.inl listed⟩

theorem routeChange?_previous {log : TelemetryLog} {event : RequestEventRecord} {route : RouteIdentity}
    {change : RouteChange} (changed : log.routeChange? event route = some change) :
    change.previous ∈ log.requests := by
  unfold routeChange? at changed
  split at changed
  · cases changed
  · rename_i previous last
    split at changed
    · cases changed
    · cases changed
      obtain ⟨sessionHash, -, newest⟩ := Option.bind_eq_some_iff.mp last
      exact List.mem_reverse.mp (List.mem_of_find?_eq_some newest)

theorem grows_recorded (log : TelemetryLog) (event : RequestEventRecord) (route : RouteIdentity)
    (reach : ObserverReach) : Grows log (log.recorded event route reach) := by
  cases reach with
  | nothing => exact Grows.refl log
  | request => exact ⟨List.subset_append_left _ _, fun _ listed => Or.inl listed⟩
  | analysed =>
      refine ⟨List.subset_append_left _ _, fun change listed => ?_⟩
      rcases List.mem_append.mp listed with old | new
      · exact Or.inl old
      · exact Or.inr (routeChange?_previous (Option.mem_toList.mp new))

end TelemetryLog

section Relay

variable {B : Type} {cfg : AffinityRelayConfig} {prims : TextPrimitives} {text : BodyText B}
  {x y : AffinityRelay B} {a : AffinityAction B}

theorem grows_observed (x : AffinityRelay B) (request : PhysicalRequest B) (responseHeaders : List (String × String))
    (usage : TokenUsage) (outcome : Outcome) (reach : ObserverReach) :
    TelemetryLog.Grows x.log (x.observed prims text request responseHeaders usage outcome reach) := by
  unfold AffinityRelay.observed
  dsimp only
  split
  · exact TelemetryLog.grows_recorded _ _ _ _
  · exact TelemetryLog.Grows.refl _

/-- The adapter writes a pin into the body. -/
def AffinityRelayConfig.Pins (cfg : AffinityRelayConfig) (text : BodyText B) (body : B) (route : String) : Prop :=
  cfg.routeAffinityEnabled = true ∧ cfg.adapter.canPinRoute = true ∧ (pinnedBody cfg text body route).isSome

/-- Affinity is on for a lease, and the economic gate approves. -/
def AffinityRelayConfig.Approves (cfg : AffinityRelayConfig) (lease : CacheLease) : Prop :=
  cfg.affinity.enabled = true ∧ cfg.hasStore = true ∧ ∃ savings ∈ affinitySavings cfg lease,
    (RouteAffinityPolicy.evaluate cfg.affinity savings cfg.affinityExtraCostUsd
      cfg.controller.manager.settings.resumeProbability).apply = true

/-- When a pin of the lease is approved, the newest route change of its session since its last real request, if it
    made a warm request miss, is that of a request to the lease's provider and model. -/
def OwnEvidence (cfg : AffinityRelayConfig) (prims : TextPrimitives) (log : TelemetryLog) (lease : CacheLease) :
    Prop :=
  cfg.Approves lease → ∀ found ∈ log.lastRouteChangeForSession (prims.sha256 lease.sessionId) lease.lastRealRequestAt,
    ∀ change ∈ found, change.verdict = .routeInstability →
      change.event.provider = lease.provider ∧ change.event.model = lease.model

/-- No other request of the lease has started since its live pin was set, if the adapter writes the pin into this
    body. -/
def PinCurrent (cfg : AffinityRelayConfig) (text : BodyText B) (x : AffinityRelay B) (body : B)
    (ctx : Option LeaseRequestContext) : Prop :=
  ∀ c ∈ ctx, ∀ entry ∈ x.registry.entries.get? c.leaseId, x.controller.world.clock < entry.expiresAt →
    cfg.Pins text body entry.route → ∀ t ∈ x.controller.world.lease? c.leaseId, entry.generation = t.lease.generation

/-- Requests do not get into each other's way. When one starts whose lease has a pin, no other request of the lease
    has started since the pin was set. When one that did not fail ends, the evidence for a pin is that of the lease's
    own provider and model. -/
def Orderly (cfg : AffinityRelayConfig) (prims : TextPrimitives) (text : BodyText B) (x : AffinityRelay B) :
    AffinityAction B → Prop
  | .arrives _ q => PinCurrent cfg text x q.body (x.controller.receive cfg.controller prims text q).2
  | .completes eid response condition reach answer =>
      ∀ f ∈ x.waiting.get? eid, ∀ c ∈ f.ctx, response.outcome condition ≠ .failed →
        ∀ t ∈ (x.controller.onRequestEnd cfg.controller c (response.outcome condition) (response.usage condition)
            ((extractRouteIdentity f.request.upstreamUrl response.headers).routeHash prims) answer).world.lease?
              c.leaseId,
          OwnEvidence cfg prims
            (x.observed prims text f.request response.headers ((response.usage .recording).getD {})
              (response.outcome .recording) reach) t.lease
  | _ => True

/-! Whether requests are orderly can be decided. -/

instance (cfg : AffinityRelayConfig) (text : BodyText B) (body : B) (route : String) :
    Decidable (cfg.Pins text body route) :=
  inferInstanceAs (Decidable (_ ∧ _))

instance (cfg : AffinityRelayConfig) (lease : CacheLease) : Decidable (cfg.Approves lease) :=
  inferInstanceAs (Decidable (_ ∧ _))

instance (cfg : AffinityRelayConfig) (prims : TextPrimitives) (log : TelemetryLog) (lease : CacheLease) :
    Decidable (OwnEvidence cfg prims log lease) :=
  inferInstanceAs (Decidable (_ → _))

instance (cfg : AffinityRelayConfig) (text : BodyText B) (x : AffinityRelay B) (body : B)
    (ctx : Option LeaseRequestContext) : Decidable (PinCurrent cfg text x body ctx) :=
  inferInstanceAs (Decidable (∀ _ ∈ _, _))

instance Orderly.decidable (cfg : AffinityRelayConfig) (prims : TextPrimitives) (text : BodyText B)
    (x : AffinityRelay B) : ∀ a, Decidable (Orderly cfg prims text x a)
  | .arrives _ _ => inferInstanceAs (Decidable (PinCurrent _ _ _ _ _))
  | .completes _ _ _ _ _ => inferInstanceAs (Decidable (∀ _ ∈ _, _))
  | .fails _ _ _ _ => isTrue trivial
  | .leaves _ => isTrue trivial
  | .scheduler _ => isTrue trivial

/-- What a step does to the pins: they shrink, one goes into a request that starts, or a lease is pinned to a route
    behind a request that ended. -/
inductive AffinityCase (cfg : AffinityRelayConfig) (prims : TextPrimitives) (text : BodyText B)
    (x : AffinityRelay B) : AffinityAction B → AffinityRelay B → Prop where
  | quiet {a : AffinityAction B} {controller : LeaseController} {registry : RouteAffinityRegistry}
      {log : TelemetryLog} {waiting : Dict ExchangeId (Forwarded B)}
      (reaches : Reaches cfg.controller.manager x.controller.world controller.world)
      (shrinks : x.registry.Shrinks registry) (grows : TelemetryLog.Grows x.log log) :
      AffinityCase cfg prims text x a { x with controller, registry, log, waiting }
  | pinned {eid : ExchangeId} {q : PhysicalRequest B} {controller : LeaseController} {ctx : LeaseRequestContext}
      {registry : RouteAffinityRegistry} {waiting : Dict ExchangeId (Forwarded B)} {entry : AffinityEntry}
      {forwarded : Forwarded B}
      (received : x.controller.receive cfg.controller prims text q = (controller, some ctx))
      (reaches : Reaches cfg.controller.manager x.controller.world controller.world)
      (shrinks : x.registry.Shrinks registry) (read : registry.entries.get? ctx.leaseId = some entry)
      (live : controller.world.clock < entry.expiresAt) (pins : cfg.Pins text q.body entry.route)
      (own : forwarded.ctx = some ctx) :
      AffinityCase cfg prims text x (.arrives eid q)
        { x with
          controller
          registry
          waiting
          uses := x.uses ++ [{ entry, eid, forwarded, usedAt := controller.world.clock }] }
  | set {a : AffinityAction B} {controller : LeaseController} {registry : RouteAffinityRegistry} {log : TelemetryLog}
      {waiting : Dict ExchangeId (Forwarded B)} {leaseId : LeaseId} {t : TrackedLease} {route : String}
      {expiresAt : ℚ} (reaches : Reaches cfg.controller.manager x.controller.world controller.world)
      (shrinks : x.registry.Shrinks registry) (grows : TelemetryLog.Grows x.log log)
      (known : controller.world.lease? leaseId = some t) (approved : cfg.Approves t.lease)
      (chosen : affinityRoute cfg prims log t.lease = some route)
      (own : Orderly cfg prims text x a → OwnEvidence cfg prims log t.lease) :
      AffinityCase cfg prims text x a
        { x with controller, registry := registry.set leaseId route expiresAt t.lease.generation, log, waiting }

/-- What comes of the pins of a request's lease. -/
theorem applyAffinity_cases (cfg : AffinityRelayConfig) (text : BodyText B) (world : World)
    (registry : RouteAffinityRegistry) (body : B) (ctx : Option LeaseRequestContext) :
    registry.Shrinks (applyAffinity cfg text world registry body ctx).1 ∧
      ∀ entry pinned, (applyAffinity cfg text world registry body ctx).2 = some (entry, pinned) →
        ∃ c, ctx = some c ∧ (applyAffinity cfg text world registry body ctx).1.entries.get? c.leaseId = some entry ∧
          world.clock < entry.expiresAt ∧ cfg.Pins text body entry.route := by
  unfold applyAffinity
  cases ctx with
  | none => exact ⟨RouteAffinityRegistry.Shrinks.refl _, fun entry pinned applied => by cases applied⟩
  | some c =>
      dsimp only
      split
      · exact ⟨RouteAffinityRegistry.Shrinks.refl _, fun entry pinned applied => by cases applied⟩
      · rename_i on
        rw [Bool.not_eq_true, Bool.or_eq_false_iff, Bool.not_eq_false', Bool.not_eq_false'] at on
        unfold activeAffinityRoute
        split
        · exact ⟨RouteAffinityRegistry.Shrinks.refl _, fun entry pinned applied => by cases applied⟩
        · split
          · exact ⟨RouteAffinityRegistry.Shrinks.refl _, fun entry pinned applied => by cases applied⟩
          · rename_i t known
            refine ⟨RouteAffinityRegistry.shrinks_activeRouteFor _ _ _, fun entry pinned applied => ?_⟩
            obtain ⟨found, active, applied⟩ := Option.bind_eq_some_iff.mp applied
            obtain ⟨body', written, same⟩ := Option.bind_eq_some_iff.mp applied
            cases same
            obtain ⟨kept, read, live, -⟩ := RouteAffinityRegistry.activeRouteFor_eq_some active
            refine ⟨c, rfl, ?_, live, on.1, on.2, Option.isSome_iff_exists.mpr ⟨_, written⟩⟩
            rw [kept]
            exact read

/-- A request that arrives is forwarded as it is, or with the pin of its lease. -/
theorem forward_cases (x : AffinityRelay B) (eid : ExchangeId) (q : PhysicalRequest B) :
    AffinityCase cfg prims text x (.arrives eid q) (x.forward cfg prims text eid q) := by
  have reaches := receive_reaches cfg.controller prims text x.controller q
  unfold AffinityRelay.forward AffinityRelay.send
  cases received : x.controller.receive cfg.controller prims text q with
  | mk controller ctx =>
      rw [received] at reaches
      dsimp only
      have pruned : x.registry.Shrinks
          (if ctx.isSome then x.registry.prune controller.world.manager.leases.keys else x.registry) := by
        split
        · exact RouteAffinityRegistry.shrinks_prune _
        · exact RouteAffinityRegistry.Shrinks.refl _
      have applied := applyAffinity_cases cfg text controller.world
        (if ctx.isSome then x.registry.prune controller.world.manager.leases.keys else x.registry) q.body ctx
      generalize applyAffinity cfg text controller.world _ q.body ctx = result at applied ⊢
      obtain ⟨registry, pinned⟩ := result
      obtain ⟨shrinks, active⟩ := applied
      cases pinned with
      | none => exact .quiet reaches (pruned.trans shrinks) (.refl _)
      | some pinned =>
          obtain ⟨c, rfl, read, live, pins⟩ := active pinned.1 pinned.2 rfl
          exact .pinned received reaches (pruned.trans shrinks) read live pins rfl

/-- What the end of a request does to the pins: they shrink, and perhaps the lease is pinned to a route. -/
inductive RegistryChange (cfg : AffinityRelayConfig) (prims : TextPrimitives) (log : TelemetryLog) (world : World)
    (registry : RouteAffinityRegistry) : Option LeaseRequestContext → Outcome → RouteAffinityRegistry → Prop where
  | shrunk {ctx : Option LeaseRequestContext} {outcome : Outcome} {registry' : RouteAffinityRegistry}
      (shrinks : registry.Shrinks registry') : RegistryChange cfg prims log world registry ctx outcome registry'
  | set {ctx : LeaseRequestContext} {outcome : Outcome} {rest : RouteAffinityRegistry} {t : TrackedLease}
      {route : String} {expiresAt : ℚ} (shrinks : registry.Shrinks rest)
      (known : world.lease? ctx.leaseId = some t) (unfailed : outcome ≠ .failed) (enabled : cfg.affinity.enabled = true)
      (stored : cfg.hasStore = true) (chosen : affinityRoute cfg prims log t.lease = some route) :
      RegistryChange cfg prims log world registry (some ctx) outcome
        (rest.set ctx.leaseId route expiresAt t.lease.generation)

theorem reconcileAffinity_change (cfg : AffinityRelayConfig) (prims : TextPrimitives) (log : TelemetryLog)
    (world : World) (registry : RouteAffinityRegistry) (ctx : LeaseRequestContext) (outcome : Outcome) :
    RegistryChange cfg prims log world registry (some ctx) outcome
      (reconcileAffinity cfg prims log world registry ctx.leaseId outcome) := by
  unfold reconcileAffinity
  split
  · exact .shrunk (RouteAffinityRegistry.Shrinks.refl _)
  · rename_i on
    rw [Bool.not_eq_true, Bool.or_eq_false_iff, Bool.not_eq_false', Bool.not_eq_false'] at on
    split
    · exact .shrunk (RouteAffinityRegistry.Shrinks.refl _)
    · rename_i t known
      split
      · exact .shrunk (RouteAffinityRegistry.shrinks_clear _)
      · rename_i unfailed
        have dropped : registry.Shrinks (dropConsumed registry ctx.leaseId t.lease.generation) := by
          unfold dropConsumed
          split
          · split
            · exact RouteAffinityRegistry.shrinks_clear _
            · exact RouteAffinityRegistry.Shrinks.refl _
          · exact RouteAffinityRegistry.Shrinks.refl _
        unfold maybeSetAffinity
        split
        · rename_i route chosen
          exact .set dropped known unfailed on.1 on.2 chosen
        · exact .shrunk dropped

/-- The end of a request writes leases and pins, nothing else. -/
theorem leaseEnd_change (cfg : AffinityRelayConfig) (prims : TextPrimitives) (x : AffinityRelay B)
    (ctx : Option LeaseRequestContext) (outcome : Outcome) (usage : Option TokenUsage) (routeHash : Option String)
    (answer : ResolverAnswer) :
    ∃ controller registry, x.leaseEnd cfg prims ctx outcome usage routeHash answer = { x with controller, registry } ∧
      Reaches cfg.controller.manager x.controller.world controller.world ∧
      (∀ c ∈ ctx, controller = x.controller.onRequestEnd cfg.controller c outcome usage routeHash answer) ∧
      RegistryChange cfg prims x.log controller.world x.registry ctx outcome registry := by
  unfold AffinityRelay.leaseEnd
  cases ctx with
  | none =>
      exact ⟨x.controller, x.registry, rfl, Reaches.refl _, fun c own => (Option.not_mem_none c own).elim,
        .shrunk (RouteAffinityRegistry.Shrinks.refl _)⟩
  | some c =>
      refine ⟨_, _, rfl, onRequestEnd_reaches cfg.controller x.controller c outcome usage routeHash answer, ?_, ?_⟩
      · intro other own
        cases own
        rfl
      · split
        · exact reconcileAffinity_change cfg prims x.log _ x.registry c outcome
        · exact .shrunk (RouteAffinityRegistry.Shrinks.refl _)

/-- The route of a pin is the one in front of the newest change, which made a warm request miss. -/
theorem affinityRoute_eq_some_iff (log : TelemetryLog) (lease : CacheLease) (route : String) :
    affinityRoute cfg prims log lease = some route ↔
      ∃ change, log.lastRouteChangeForSession (prims.sha256 lease.sessionId) lease.lastRealRequestAt =
          some (some change) ∧
        change.verdict = .routeInstability ∧ (change.record.previousRouteHash = some route ∧ route ≠ "") ∧
        (∃ new, change.record.newRouteHash = some new ∧ new ≠ "") ∧
        ∃ savings, affinitySavings cfg lease = some savings ∧
          (RouteAffinityPolicy.evaluate cfg.affinity savings cfg.affinityExtraCostUsd
            cfg.controller.manager.settings.resumeProbability).apply = true := by
  unfold affinityRoute
  simp [Option.bind_eq_some_iff, truthyHash, Option.filter_eq_some_iff]

/-- A request ends, with what was recorded of it. -/
theorem leaseEnd_cases {log : TelemetryLog} (grows : TelemetryLog.Grows x.log log)
    (waiting : Dict ExchangeId (Forwarded B)) (ctx : Option LeaseRequestContext) {outcome : Outcome}
    {usage : Option TokenUsage} {routeHash : Option String} {answer : ResolverAnswer}
    (own : Orderly cfg prims text x a → outcome ≠ .failed → ∀ c ∈ ctx,
      ∀ t ∈ (x.controller.onRequestEnd cfg.controller c outcome usage routeHash answer).world.lease? c.leaseId,
        OwnEvidence cfg prims log t.lease) :
    AffinityCase cfg prims text x a
      (AffinityRelay.leaseEnd cfg prims { x with log, waiting } ctx outcome usage routeHash answer) := by
  obtain ⟨controller, registry, same, reaches, begun, change⟩ :=
    leaseEnd_change cfg prims { x with log, waiting } ctx outcome usage routeHash answer
  rw [same]
  cases change with
  | shrunk shrinks => exact .quiet reaches shrinks grows
  | @set ctx outcome rest t route expiresAt shrinks known unfailed enabled stored chosen =>
      obtain ⟨-, -, -, -, -, savings, saved, approved⟩ := (affinityRoute_eq_some_iff log t.lease route).mp chosen
      refine .set reaches shrinks grows known ⟨enabled, stored, savings, saved, approved⟩ chosen fun orderly => ?_
      apply own orderly unfailed ctx rfl t
      rw [← begun ctx rfl]
      exact known

theorem affinityStep_cases (stepped : affinityStep cfg prims text x a = some y) :
    AffinityCase cfg prims text x a y := by
  cases a with
  | arrives eid q =>
      unfold affinityStep at stepped
      dsimp only at stepped
      split at stepped
      · cases stepped
      · cases stepped
        exact forward_cases x eid q
  | completes eid response condition reach answer =>
      unfold affinityStep at stepped
      dsimp only at stepped
      split at stepped
      · cases stepped
      · rename_i f waits
        cases stepped
        refine leaseEnd_cases (grows_observed x _ _ _ _ _) _ _ ?_
        intro orderly unfailed c own
        exact orderly f waits c own unfailed
  | fails eid condition reach answer =>
      unfold affinityStep at stepped
      dsimp only at stepped
      split at stepped
      · cases stepped
      · cases stepped
        refine leaseEnd_cases (grows_observed x _ _ _ _ _) _ _ ?_
        intro orderly unfailed
        exact absurd (by cases condition <;> rfl) unfailed
  | leaves eid =>
      cases stepped
      exact .quiet (Reaches.refl _) (.refl _) (.refl _)
  | scheduler b =>
      unfold affinityStep at stepped
      dsimp only at stepped
      split at stepped
      · obtain ⟨world, moved, same⟩ := Option.map_eq_some_iff.mp stepped
        subst same
        exact .quiet (Reaches.of_step moved) (.refl _) (.refl _)
      · cases stepped

/-- A change that made a warm request miss is one between two requests to the same provider and model. -/
theorem RouteChange.unstable_same {change : RouteChange} (unstable : change.verdict = .routeInstability) :
    change.previous.model = change.event.model ∧ change.previous.provider = change.event.provider := by
  have stable := RouterMissClassifier.classify_instability unstable
  simp only [RouteChange.identityStable, Bool.and_eq_true, decide_eq_true_eq] at stable
  exact ⟨stable.1.2, stable.2⟩

/-- A newest route change is one of the log. -/
theorem TelemetryLog.mem_of_lastRouteChange {log : TelemetryLog} {sessionHash : String} {since : ℚ}
    {change : RouteChange} (newest : log.lastRouteChangeForSession sessionHash since = some (some change)) :
    change ∈ log.routeChanges := by
  obtain ⟨moment, -, found⟩ := Option.map_eq_some_iff.mp newest
  exact List.mem_reverse.mp (List.mem_of_find?_eq_some found)

/-! ### What every run keeps -/

namespace AffinityRelay

/-- Every pin is numbered and is one of a lease; what is registered was issued, under its own lease; and a pin is
    used for a request of its own lease, before it expires. -/
structure Kept (x : AffinityRelay B) : Prop where
  serials : x.registry.issued.map AffinityEntry.serial = List.range x.registry.issued.length
  leased : ∀ entry ∈ x.registry.issued, ∃ t, x.controller.world.lease? entry.leaseId = some t
  registered : ∀ id entry, x.registry.entries.get? id = some entry → entry ∈ x.registry.issued ∧ entry.leaseId = id
  used : ∀ use ∈ x.uses, use.entry ∈ x.registry.issued ∧
    use.forwarded.ctx.map LeaseRequestContext.leaseId = some use.entry.leaseId ∧ use.usedAt < use.entry.expiresAt
  changes : ∀ change ∈ x.log.routeChanges, change.previous ∈ x.log.requests

/-- A pin was used at most once, and one that was used and is still registered is of an earlier generation. -/
structure SingleUse (x : AffinityRelay B) : Prop where
  once : (x.uses.map fun use => use.entry.serial).Nodup
  spent : ∀ id entry, x.registry.entries.get? id = some entry → (∃ use ∈ x.uses, use.entry.serial = entry.serial) →
    ∀ t, x.controller.world.lease? id = some t → entry.generation < t.lease.generation

/-- The route of every pin was observed for a request to the provider and the model of the pin's lease. -/
def Observed (x : AffinityRelay B) : Prop :=
  ∀ entry ∈ x.registry.issued, ∀ t ∈ x.controller.world.lease? entry.leaseId,
    ∃ event ∈ x.log.requests, event.provider = t.lease.provider ∧ event.model = t.lease.model ∧
      event.routeHash = some entry.route

instance (x : AffinityRelay B) : Decidable x.Observed := inferInstanceAs (Decidable (∀ _ ∈ _, _))

/-- Pins have one number each. -/
theorem Kept.eq_of_serial (kept : x.Kept) {entry entry' : AffinityEntry} (listed : entry ∈ x.registry.issued)
    (listed' : entry' ∈ x.registry.issued) (same : entry.serial = entry'.serial) : entry = entry' := by
  have unique : (x.registry.issued.map AffinityEntry.serial).Nodup := by
    rw [kept.serials]
    exact List.nodup_range
  exact List.inj_on_of_nodup_map unique listed listed' same

/-- The number of a pin is below the number of pins. -/
theorem Kept.serial_lt (kept : x.Kept) {entry : AffinityEntry} (listed : entry ∈ x.registry.issued) :
    entry.serial < x.registry.issued.length := by
  have numbered := List.mem_map_of_mem (f := AffinityEntry.serial) listed
  rw [kept.serials] at numbered
  exact List.mem_range.mp numbered

section Shrinking

variable (reaches : Reaches cfg.controller.manager x.controller.world y.controller.world)
  (shrinks : x.registry.Shrinks y.registry) (grows : TelemetryLog.Grows x.log y.log) (uses : y.uses = x.uses)

include reaches shrinks grows uses

theorem Kept.of_shrinks (kept : x.Kept) : y.Kept where
  serials := by
    rw [shrinks.issued]
    exact kept.serials
  leased := by
    intro entry listed
    rw [shrinks.issued] at listed
    obtain ⟨t, known⟩ := kept.leased entry listed
    obtain ⟨t', known', -⟩ := reaches.unrouted known
    exact ⟨t', known'⟩
  registered := by
    intro id entry found
    rw [shrinks.issued]
    exact kept.registered id entry (shrinks.kept id entry found)
  used := by
    intro use listed
    rw [uses] at listed
    rw [shrinks.issued]
    exact kept.used use listed
  changes := by
    intro change listed
    rcases grows.routeChanges change listed with old | new
    · exact grows.requests (kept.changes change old)
    · exact grows.requests new

omit grows in
theorem SingleUse.of_shrinks (kept : x.Kept) (single : x.SingleUse) : y.SingleUse where
  once := by
    rw [uses]
    exact single.once
  spent := by
    intro id entry found spent t known
    rw [uses] at spent
    have before := shrinks.kept id entry found
    obtain ⟨listed, rfl⟩ := kept.registered id entry before
    obtain ⟨t₀, known₀⟩ := kept.leased entry listed
    exact Nat.lt_of_lt_of_le (single.spent _ entry before spent t₀ known₀) (reaches.generation_le known₀ known)

omit uses in
theorem Observed.of_shrinks (kept : x.Kept) (observed : x.Observed) : y.Observed := by
  intro entry listed t known
  rw [shrinks.issued] at listed
  obtain ⟨t₀, known₀⟩ := kept.leased entry listed
  obtain ⟨event, recorded, provider, model, route⟩ := observed entry listed t₀ known₀
  obtain ⟨t', known', same⟩ := reaches.unrouted known₀
  rw [known] at known'
  cases known'
  obtain ⟨provider', model', -⟩ := LeaseIdentity.unrouted_fields same
  exact ⟨event, grows.requests recorded, provider.trans provider'.symm, model.trans model'.symm, route⟩

end Shrinking

section Using

variable {id : LeaseId} {use : AffinityUse B} (read : x.registry.entries.get? id = some use.entry)

include read

/-- A live pin goes into a request of its lease. -/
theorem Kept.put (kept : x.Kept) (own : use.forwarded.ctx.map LeaseRequestContext.leaseId = some id)
    (live : use.usedAt < use.entry.expiresAt) : Kept { x with uses := x.uses ++ [use] } where
  serials := kept.serials
  leased := kept.leased
  registered := kept.registered
  used := by
    intro other listed
    rcases List.mem_append.mp listed with old | new
    · exact kept.used other old
    · obtain rfl := List.mem_singleton.mp new
      obtain ⟨issued, same⟩ := kept.registered id other.entry read
      exact ⟨issued, own.trans (congrArg some same.symm), live⟩
  changes := kept.changes

/-- A pin that was not used goes into a request that leaves its generation behind. -/
theorem SingleUse.put (kept : x.Kept) (single : x.SingleUse)
    (unused : ¬ ∃ other ∈ x.uses, other.entry.serial = use.entry.serial)
    (advanced : ∀ t, x.controller.world.lease? id = some t → use.entry.generation < t.lease.generation) :
    SingleUse { x with uses := x.uses ++ [use] } where
  once := by
    rw [List.map_append, List.map_singleton, ← List.concat_eq_append, List.nodup_concat]
    exact ⟨fun listed => unused (List.mem_map.mp listed), single.once⟩
  spent := by
    rintro id' entry found ⟨other, listed, same⟩ t known
    rcases List.mem_append.mp listed with old | new
    · exact single.spent id' entry found ⟨other, old, same⟩ t known
    · obtain rfl := List.mem_singleton.mp new
      -- A pin with the number of the one just used is that pin, of that lease.
      obtain ⟨issued, leased⟩ := kept.registered id other.entry read
      obtain ⟨issued', leased'⟩ := kept.registered id' entry found
      obtain rfl := kept.eq_of_serial issued issued' same
      rw [← leased', leased] at known
      exact advanced t known

end Using

section Setting

variable {id : LeaseId} {t : TrackedLease} (known : x.controller.world.lease? id = some t) (route : String)
  (expiresAt : ℚ)

/-- What is registered when a lease was pinned. -/
theorem get?_set (registry : RouteAffinityRegistry) (route : String) (expiresAt : ℚ) (generation : ℕ)
    {id' : LeaseId} {entry : AffinityEntry}
    (found : (registry.set id route expiresAt generation).entries.get? id' = some entry) :
    (id' = id ∧ entry = { leaseId := id, route, expiresAt, generation, serial := registry.issued.length }) ∨
      registry.entries.get? id' = some entry := by
  unfold RouteAffinityRegistry.set at found
  dsimp only at found
  rw [Dict.get?_set] at found
  split at found
  · rename_i same
    cases found
    exact Or.inl ⟨same, rfl⟩
  · exact Or.inr found

include known

/-- A tracked lease is pinned. -/
theorem Kept.set (kept : x.Kept) (generation : ℕ) :
    Kept { x with registry := x.registry.set id route expiresAt generation } where
  serials := by
    unfold RouteAffinityRegistry.set
    dsimp only
    rw [List.map_append, List.length_append, List.length_singleton, List.range_succ, kept.serials]
    rfl
  leased := by
    intro entry listed
    rcases List.mem_append.mp listed with old | new
    · exact kept.leased entry old
    · obtain rfl := List.mem_singleton.mp new
      exact ⟨t, known⟩
  registered := by
    intro id' entry found
    rcases get?_set x.registry route expiresAt generation found with ⟨rfl, rfl⟩ | old
    · exact ⟨List.mem_append_right _ (List.mem_singleton_self _), rfl⟩
    · obtain ⟨issued, leased⟩ := kept.registered id' entry old
      exact ⟨List.mem_append_left _ issued, leased⟩
  used := by
    intro use listed
    obtain ⟨issued, own, live⟩ := kept.used use listed
    exact ⟨List.mem_append_left _ issued, own, live⟩
  changes := kept.changes

omit known in
/-- A pin that was just set has not been used. -/
theorem SingleUse.set (kept : x.Kept) (single : x.SingleUse) (generation : ℕ) :
    SingleUse { x with registry := x.registry.set id route expiresAt generation } where
  once := single.once
  spent := by
    rintro id' entry found ⟨use, listed, same⟩ t' known'
    rcases get?_set x.registry route expiresAt generation found with ⟨rfl, rfl⟩ | old
    · have below := kept.serial_lt (kept.used use listed).1
      rw [same] at below
      exact absurd below (lt_irrefl _)
    · exact single.spent id' entry old ⟨use, listed, same⟩ t' known'

/-- A lease is pinned to a route that was observed for its provider and model. -/
theorem Observed.set (observed : x.Observed) {event : RequestEventRecord} (recorded : event ∈ x.log.requests)
    (provider : event.provider = t.lease.provider) (model : event.model = t.lease.model)
    (routed : event.routeHash = some route) (generation : ℕ) :
    Observed { x with registry := x.registry.set id route expiresAt generation } := by
  intro entry listed t' known'
  rcases List.mem_append.mp listed with old | new
  · exact observed entry old t' known'
  · obtain rfl := List.mem_singleton.mp new
    cases known.symm.trans known'
    exact ⟨event, recorded, provider, model, routed⟩

end Setting

/-- A step keeps what every run keeps. -/
theorem Kept.step (kept : x.Kept) (stepped : affinityStep cfg prims text x a = some y) : y.Kept := by
  cases affinityStep_cases stepped with
  | quiet reaches shrinks grows => exact kept.of_shrinks reaches shrinks grows rfl
  | @pinned eid q controller ctx registry waiting entry forwarded received reaches shrinks read live pins own =>
      have before : Kept { x with controller, registry, waiting } := kept.of_shrinks reaches shrinks (.refl _) rfl
      exact before.put read (congrArg (Option.map LeaseRequestContext.leaseId) own) live
  | @set a controller registry log waiting leaseId t route expiresAt reaches shrinks grows known approved chosen own =>
      have before : Kept { x with controller, registry, log, waiting } := kept.of_shrinks reaches shrinks grows rfl
      exact before.set known route expiresAt _

/-- Where requests do not get into each other's way, a step keeps the pins for single use. -/
theorem SingleUse.step (kept : x.Kept) (single : x.SingleUse) (orderly : Orderly cfg prims text x a)
    (stepped : affinityStep cfg prims text x a = some y) : y.SingleUse := by
  cases affinityStep_cases stepped with
  | quiet reaches shrinks grows => exact single.of_shrinks reaches shrinks rfl kept
  | @pinned eid q controller ctx registry waiting entry forwarded received reaches shrinks read live pins own =>
      have before : Kept { x with controller, registry, waiting } := kept.of_shrinks reaches shrinks (.refl _) rfl
      have once : SingleUse { x with controller, registry, waiting } := single.of_shrinks reaches shrinks rfl kept
      have clock := receive_clock cfg.controller prims text x.controller q
      rw [received] at clock
      have registered := shrinks.kept ctx.leaseId entry read
      obtain ⟨issued, leased⟩ := kept.registered ctx.leaseId entry registered
      obtain ⟨t, known⟩ := kept.leased entry issued
      rw [leased] at known
      -- No request of the lease has started since, so the pin is unused, and this request leaves its generation.
      have current : entry.generation = t.lease.generation :=
        orderly ctx (congrArg Prod.snd received) entry registered (clock ▸ live) pins t known
      have unused : ¬ ∃ other ∈ x.uses, other.entry.serial = entry.serial := fun used =>
        (single.spent ctx.leaseId entry registered used t known).ne current
      refine once.put read before unused fun t' known' => ?_
      rw [current]
      exact receive_generation received known known'
  | @set a controller registry log waiting leaseId t route expiresAt reaches shrinks grows known approved chosen own =>
      have before : Kept { x with controller, registry, log, waiting } := kept.of_shrinks reaches shrinks grows rfl
      have once : SingleUse { x with controller, registry, log, waiting } := single.of_shrinks reaches shrinks rfl kept
      exact once.set route expiresAt before _

/-- Where the evidence is the lease's own, a step keeps the routes of pins observed ones. -/
theorem Observed.step (kept : x.Kept) (observed : x.Observed) (orderly : Orderly cfg prims text x a)
    (stepped : affinityStep cfg prims text x a = some y) : y.Observed := by
  cases affinityStep_cases stepped with
  | quiet reaches shrinks grows => exact observed.of_shrinks reaches shrinks grows kept
  | pinned received reaches shrinks read live pins own => exact observed.of_shrinks reaches shrinks (.refl _) kept
  | @set a controller registry log waiting leaseId t route expiresAt reaches shrinks grows known approved chosen own =>
      have before : Kept { x with controller, registry, log, waiting } := kept.of_shrinks reaches shrinks grows rfl
      have seen : Observed { x with controller, registry, log, waiting } :=
        observed.of_shrinks reaches shrinks grows kept
      obtain ⟨change, newest, unstable, ⟨routed, -⟩, -⟩ := (affinityRoute_eq_some_iff log t.lease route).mp chosen
      obtain ⟨provider, model⟩ := own orderly approved _ newest change rfl unstable
      -- The event in front of the change is one of the log, to the same provider and model.
      obtain ⟨sameModel, sameProvider⟩ := RouteChange.unstable_same unstable
      have listed := before.changes change (TelemetryLog.mem_of_lastRouteChange newest)
      exact seen.set known route expiresAt listed (sameProvider.trans provider) (sameModel.trans model) routed _

/-- Affinity pins are temporary, single-use and their own: a pin goes into requests of its lease only, before it
    expires, and into one request at most; and its route was observed for the provider and model of its lease. -/
structure PinsKept (x : AffinityRelay B) : Prop where
  numbered : x.registry.issued.map AffinityEntry.serial = List.range x.registry.issued.length
  own : ∀ use ∈ x.uses, use.entry ∈ x.registry.issued ∧
    use.forwarded.ctx.map LeaseRequestContext.leaseId = some use.entry.leaseId
  live : ∀ use ∈ x.uses, use.usedAt < use.entry.expiresAt
  once : (x.uses.map fun use => use.entry.serial).Nodup
  leased : ∀ entry ∈ x.registry.issued, ∃ t, x.controller.world.lease? entry.leaseId = some t
  observed : x.Observed

theorem Kept.of_initial {start : AffinityRelay B} (initial : start.Initial) : start.Kept := by
  obtain ⟨-, -, entries, issued, -, changes, -, uses⟩ := initial
  constructor
  · rw [issued]
    rfl
  · intro entry listed
    rw [issued] at listed
    cases listed
  · intro id entry found
    rw [entries] at found
    cases found
  · intro use listed
    rw [uses] at listed
    cases listed
  · intro change listed
    rw [changes] at listed
    cases listed

/-- In every run a pin goes into requests of its own lease only, before it expires. -/
theorem run_kept {start : AffinityRelay B} {acts : List (AffinityAction B)} (initial : start.Initial)
    (run : Execution.exec (affinityStep cfg prims text) start acts = some x) : x.Kept :=
  Execution.invariant (I := Kept) (Kept.of_initial initial) (fun _ _ _ stepped kept => kept.step stepped) run

/-- In every run in which requests do not get into each other's way, pins are used once, and their routes are
    observed ones. -/
theorem run_singleUse {start : AffinityRelay B} {acts : List (AffinityAction B)} (initial : start.Initial)
    (run : Execution.exec (affinityStep cfg prims text) start acts = some x)
    (orderly : Execution.Along (affinityStep cfg prims text) (Orderly cfg prims text) start acts) :
    x.Kept ∧ x.SingleUse ∧ x.Observed := by
  apply Execution.invariant_along (I := fun u => u.Kept ∧ u.SingleUse ∧ u.Observed) _ _ orderly run
  · refine ⟨Kept.of_initial initial, ?_, ?_⟩
    · obtain ⟨-, -, entries, -, -, -, -, uses⟩ := initial
      constructor
      · rw [uses]
        exact List.nodup_nil
      · intro id entry found
        rw [entries] at found
        cases found
    · obtain ⟨-, -, -, issued, -⟩ := initial
      intro entry listed
      rw [issued] at listed
      cases listed
  · rintro u a v guard stepped ⟨kept, single, observed⟩
    exact ⟨kept.step stepped, single.step kept guard stepped, observed.step kept guard stepped⟩

end AffinityRelay

/-- In every run from an empty relay in which requests do not get into each other's way, affinity pins are temporary,
    single-use and their own. -/
theorem pins_single_use {start : AffinityRelay B} {acts : List (AffinityAction B)} (initial : start.Initial)
    (run : Execution.exec (affinityStep cfg prims text) start acts = some x)
    (orderly : Execution.Along (affinityStep cfg prims text) (Orderly cfg prims text) start acts) : x.PinsKept := by
  obtain ⟨kept, single, observed⟩ := AffinityRelay.run_singleUse initial run orderly
  constructor
  · exact kept.serials
  · intro use listed
    exact ⟨(kept.used use listed).1, (kept.used use listed).2.1⟩
  · intro use listed
    exact (kept.used use listed).2.2
  · exact single.once
  · exact kept.leased
  · exact observed

end Relay

/-! ### Two models in one session -/

theorem samplePrice_nonneg : (0 : ℚ) ≤ 10 := by decide +kernel

theorem sampleFree_nonneg : (0 : ℚ) ≤ 0 := by decide +kernel

/-- Prices per million tokens; cached ones are free. -/
def samplePriceTable : PricingTable where
  inputPerMtok := 10
  outputPerMtok := 10
  cacheReadPerMtok := 0
  cacheWritePerMtok := 0
  inputPerMtok_nonneg := samplePrice_nonneg
  outputPerMtok_nonneg := samplePrice_nonneg
  cacheReadPerMtok_nonneg := sampleFree_nonneg
  cacheWritePerMtok_nonneg := sampleFree_nonneg

/-- An adapter that writes the route into the request, unless the request has a routing hint. -/
def samplePinningAdapter : AffinityAdapter where
  canPinRoute := true
  applyRouteAffinity := fun request route =>
    if request.any fun member => member.1 = "route" || member.1 = "sort" then none
    else some (request ++ [("route", .str route)])

/-- Route affinity is on, and prices are known. -/
def sampleAffinityConfig : AffinityRelayConfig where
  controller :=
    { sampleRelayConfig with
      manager := { sampleConfig with settings := { LeaseSettings.standard with pricing := some samplePriceTable } } }
  routeAffinityEnabled := true
  affinity := { enabled := true, safetyMargin_nonneg := sampleFree_nonneg }
  adapter := samplePinningAdapter

/-- A completion of the session with another model. -/
def sampleOtherModel : PhysicalRequest (List (String × Json)) :=
  { sampleCompletion "s" "key" with body := [("model", .str "n"), ("max_tokens", .int 100)] }

/-- A response from a region, to a prompt of which so much was cached. -/
def sampleRegionAnswer (region : String) (cached : ℕ) : UpstreamResponse where
  statusCode := 200
  streams := false
  headers := [("X-Region", region)]
  body := { usage := { promptTokens := 1000000, cacheReadTokens := cached }, telemetryPresent := true }

/-- While a request to one model is under way, another model misses behind a change of its route, and its next request
    is pinned. -/
def samplePinned : List (AffinityAction (List (String × Json))) :=
  [.arrives 0 (sampleCompletion "s" "key"),
    .arrives 1 sampleOtherModel, .completes 1 (sampleRegionAnswer "eu" 1000000) .recording .analysed .noResolver,
    .arrives 2 sampleOtherModel, .completes 2 (sampleRegionAnswer "us" 0) .recording .analysed .noResolver,
    .arrives 3 sampleOtherModel]

/-- A second request to that model starts before the first has ended, and then the request to the first model ends. -/
def sampleSharedPin : List (AffinityAction (List (String × Json))) :=
  [.arrives 4 sampleOtherModel, .completes 0 (sampleRegionAnswer "us" 0) .recording .analysed .noResolver]

theorem sampleOtherContent_named :
    ∀ name ∈ ["upstream", "n", "https://upstream/v1/chat/completions", "relay-default",
      sampleEmptyHash, sampleEmptyHash, sampleEmptyHash], name ≠ "" := by
  decide +kernel

/-- The canonical request of the completion with the other model. -/
def sampleOtherContent : CanonicalRequest :=
  { sampleContent with model := "n", named := sampleOtherContent_named }

/-- What the controller starts with for it, its cache fingerprint written out. -/
def sampleOtherRead : StartRequest :=
  { sampleRead "s" "key" with
    identity :=
      { leaseIdentity samplePrimitives "s" sampleOtherContent with
        cacheFingerprint := "f9cd67104c2c283b560b144096094a675cb27667027e9e351774f13c7b3f7a40" }
    body := some [("model", .str "n"), ("max_tokens", .int 100)] }

theorem startRequest_sampleOtherModel :
    sampleOtherModel.startRequest samplePrimitives sampleText = some sampleOtherRead := by
  have accepted : sampleOtherModel.canonical samplePrimitives sampleText = some sampleOtherContent := by
    decide +kernel
  have cached : (leaseIdentity samplePrimitives "s" sampleOtherContent).cacheFingerprint =
      "f9cd67104c2c283b560b144096094a675cb27667027e9e351774f13c7b3f7a40" := by
    change samplePrimitives.sha256 _ = _
    rw [sha256_canonicalJson]
    decide +kernel
  rw [PhysicalRequest.startRequest, accepted, sampleOtherRead, ← cached]
  rfl

/-- What the controller starts with for either request. -/
def sampleModelRead (q : PhysicalRequest (List (String × Json))) : StartRequest :=
  match q.body with
  | (_, .str "n") :: _ => sampleOtherRead
  | _ => sampleRead "s" "key"

/-- The step of the relay where both requests have been read. -/
def sampleReadStep (x : AffinityRelay (List (String × Json))) :
    AffinityAction (List (String × Json)) → Option (AffinityRelay (List (String × Json)))
  | .arrives eid q =>
      match x.waiting.get? eid with
      | some _ => none
      | none =>
          let started := x.controller.onRequestStart sampleAffinityConfig.controller (sampleModelRead q)
          some (x.send sampleAffinityConfig sampleText eid q started.1 started.2)
  | a => affinityStep sampleAffinityConfig samplePrimitives sampleText x a

/-- Whether a step is orderly, where both requests have been read. -/
def SampleOrderly (x : AffinityRelay (List (String × Json))) : AffinityAction (List (String × Json)) → Prop
  | .arrives _ q =>
      PinCurrent sampleAffinityConfig sampleText x q.body
        (x.controller.onRequestStart sampleAffinityConfig.controller (sampleModelRead q)).2
  | a => Orderly sampleAffinityConfig samplePrimitives sampleText x a

instance SampleOrderly.decidable (x : AffinityRelay (List (String × Json))) : ∀ a, Decidable (SampleOrderly x a)
  | .arrives _ _ => inferInstanceAs (Decidable (PinCurrent _ _ _ _ _))
  | .completes eid response condition reach answer =>
      Orderly.decidable sampleAffinityConfig samplePrimitives sampleText x
        (.completes eid response condition reach answer)
  | .fails _ _ _ _ => isTrue trivial
  | .leaves _ => isTrue trivial
  | .scheduler _ => isTrue trivial

/-- The actions whose requests are one of the two. -/
def SampleAction (a : AffinityAction (List (String × Json))) : Prop :=
  ∀ eid q, a = .arrives eid q → q = sampleCompletion "s" "key" ∨ q = sampleOtherModel

theorem startRequest_sample {q : PhysicalRequest (List (String × Json))}
    (one : q = sampleCompletion "s" "key" ∨ q = sampleOtherModel) :
    q.startRequest samplePrimitives sampleText = some (sampleModelRead q) := by
  rcases one with rfl | rfl
  · exact startRequest_sampleCompletion "s" "key"
  · exact startRequest_sampleOtherModel

theorem receive_sample (c : LeaseController) {q : PhysicalRequest (List (String × Json))}
    (one : q = sampleCompletion "s" "key" ∨ q = sampleOtherModel) :
    c.receive sampleAffinityConfig.controller samplePrimitives sampleText q =
      c.onRequestStart sampleAffinityConfig.controller (sampleModelRead q) := by
  rw [LeaseController.receive, startRequest_sample one]

theorem affinityStep_sample {a : AffinityAction (List (String × Json))} (own : SampleAction a)
    (x : AffinityRelay (List (String × Json))) :
    affinityStep sampleAffinityConfig samplePrimitives sampleText x a = sampleReadStep x a := by
  cases a with
  | arrives eid q =>
      rw [affinityStep, sampleReadStep, AffinityRelay.forward, receive_sample x.controller (own eid q rfl)]
      cases x.waiting.get? eid with
      | none => rfl
      | some f => rfl
  | _ => rfl

theorem orderly_sample {a : AffinityAction (List (String × Json))} (own : SampleAction a)
    {x : AffinityRelay (List (String × Json))} (orderly : SampleOrderly x a) :
    Orderly sampleAffinityConfig samplePrimitives sampleText x a := by
  cases a with
  | arrives eid q =>
      rw [Orderly, receive_sample x.controller (own eid q rfl)]
      exact orderly
  | _ => exact orderly

theorem sampleAction_of_mem : ∀ a ∈ samplePinned ++ sampleSharedPin, SampleAction a := by
  intro a listed eid q same
  subst same
  simp only [samplePinned, sampleSharedPin, List.cons_append, List.nil_append, List.mem_cons,
    AffinityAction.arrives.injEq, reduceCtorEq, false_or, or_false, List.not_mem_nil] at listed
  tauto

/-- What the two runs come to. -/
theorem sampleReadStep_runs :
    (Execution.Along sampleReadStep SampleOrderly {} samplePinned ∧
      (Execution.exec sampleReadStep {} samplePinned).map (fun x => x.uses.map fun use => use.entry.serial) =
        some [0]) ∧
      (Execution.exec sampleReadStep {} (samplePinned ++ sampleSharedPin)).map
        (fun x => (x.uses.map (fun use => use.entry.serial), decide x.Observed)) = some ([0, 0], false) := by
  decide +kernel

theorem initial_sample : (({} : AffinityRelay (List (String × Json)))).Initial :=
  ⟨⟨rfl, rfl⟩, rfl, rfl, rfl, rfl, rfl, rfl, rfl⟩

/-- One request after the other: the pin goes into one request. -/
theorem pins_single_use_sample :
    ∃ x, Execution.exec (affinityStep sampleAffinityConfig samplePrimitives sampleText) {} samplePinned = some x ∧
      x.uses.map (fun use => use.entry.serial) = [0] ∧ x.PinsKept := by
  have own : ∀ a ∈ samplePinned, SampleAction a := fun a listed =>
    sampleAction_of_mem a (List.mem_append_left _ listed)
  obtain ⟨⟨orderly, run⟩, -⟩ := sampleReadStep_runs
  obtain ⟨x, reached, used⟩ := Option.map_eq_some_iff.mp run
  rw [← Execution.exec_congr (fun u a listed => affinityStep_sample (own a listed) u)] at reached
  have along := orderly.congr (fun u a listed => affinityStep_sample (own a listed) u)
    fun u a listed => orderly_sample (own a listed)
  exact ⟨x, reached, used, pins_single_use initial_sample reached along⟩

/-- Two requests of one lease that overlap get the same pin, and the request to the other model pins its lease to a
    route that was never observed for its own. -/
theorem overlapping_requests_share_pin :
    ∃ x, Execution.exec (affinityStep sampleAffinityConfig samplePrimitives sampleText) {}
        (samplePinned ++ sampleSharedPin) = some x ∧
      ¬ (x.uses.map fun use => use.entry.serial).Nodup ∧ ¬ x.Observed ∧ ¬ x.PinsKept := by
  obtain ⟨-, run⟩ := sampleReadStep_runs
  obtain ⟨x, reached, found⟩ := Option.map_eq_some_iff.mp run
  rw [← Execution.exec_congr (fun u a listed => affinityStep_sample (sampleAction_of_mem a listed) u)] at reached
  obtain ⟨used, unobserved⟩ := Prod.mk.inj found
  have twice : ¬ (x.uses.map fun use => use.entry.serial).Nodup := by
    rw [used]
    decide
  exact ⟨x, reached, twice, of_decide_eq_false unobserved, fun kept => twice kept.once⟩

end CachePilot
