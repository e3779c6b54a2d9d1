/-
Module: CachePilot.Proofs.PlainRelay
Layer: Proofs
Purpose: Route affinity changes forwarded bodies and nothing else. Whatever pins are set, applied and dropped, the
  leases go through exactly what they go through in a relay that knows no affinity, and every request that waits is
  the one that arrived, up to the body that a recorded use of a pin put into it. Nothing is pinned when affinity is
  off anywhere, or when the adapter cannot pin.
Trusted boundary: none
Main exports: AffinityRelay.told, SentAs, FollowsPlain, affinity_simulates, AffinityRelayConfig.CannotPin,
  affinity_follows_plain
-/
import CachePilot.Lib.Simulation
import CachePilot.Proofs.AffinityPins

namespace CachePilot

variable {B : Type} {cfg : AffinityRelayConfig} {prims : TextPrimitives} {text : BodyText B}

/-- What the other relay is told of an action: the same, but nothing of the end of a request that is not tracked. -/
def AffinityRelay.told (x : AffinityRelay B) : AffinityAction B → Option (ExchangeAction B)
  | .arrives eid request => some (.arrives eid request)
  | .completes eid response condition _ answer =>
      ((x.waiting.get? eid).bind Forwarded.ctx).map fun _ => .completes eid response condition answer
  | .fails eid condition _ answer => ((x.waiting.get? eid).bind Forwarded.ctx).map fun _ => .fails eid condition answer
  | .leaves eid => some (.leaves eid)
  | .scheduler a => some (.scheduler a)

/-- A forwarded request is the one that arrived, or has the body of a pin that was used for it. -/
def BodyOf (uses : List (AffinityUse B)) (eid : ExchangeId) (f : Forwarded B) (request : PhysicalRequest B) : Prop :=
  f.request = request ∨
    ∃ use ∈ uses, use.eid = eid ∧ use.forwarded = f ∧ f.request = { request with body := f.request.body }

/-- What waits in one relay, and in the other one. A request that is not tracked waits in the first one only. -/
def SentAs (uses : List (AffinityUse B)) (eid : ExchangeId) : Option (Forwarded B) → Option (Exchange B) → Prop
  | none, e => e = none
  | some f, e =>
      match f.ctx with
      | none => e = none
      | some ctx => ∃ sent, e = some sent ∧ sent.ctx = ctx ∧ BodyOf uses eid f sent.request

/-- The two relays have the same leases, and what waits is the same up to pinned bodies. -/
structure FollowsPlain (x : AffinityRelay B) (y : Exchanges B) : Prop where
  controller : y.controller = x.controller
  waiting : ∀ eid, SentAs x.uses eid (x.waiting.get? eid) (y.waiting.get? eid)

theorem BodyOf.upstreamUrl {uses : List (AffinityUse B)} {eid : ExchangeId} {f : Forwarded B}
    {request : PhysicalRequest B} (sent : BodyOf uses eid f request) :
    f.request.upstreamUrl = request.upstreamUrl := by
  rcases sent with same | ⟨use, -, -, -, pinned⟩
  · rw [same]
  · rw [pinned]

theorem SentAs.mono {uses later : List (AffinityUse B)} (more : uses ⊆ later) {eid : ExchangeId}
    {f : Option (Forwarded B)} {e : Option (Exchange B)} (sent : SentAs uses eid f e) : SentAs later eid f e := by
  cases f with
  | none => exact sent
  | some f =>
      rw [SentAs] at sent ⊢
      cases shape : f.ctx with
      | none =>
          rw [shape] at sent
          exact sent
      | some ctx =>
          rw [shape] at sent
          obtain ⟨other, here, same, body⟩ := sent
          refine ⟨other, here, same, ?_⟩
          rcases body with unpinned | ⟨use, used, rest⟩
          · exact Or.inl unpinned
          · exact Or.inr ⟨use, more used, rest⟩

/-! ### One step -/

variable (cfg text) in
/-- Sending a request adds it to what waits, with its own body or with that of a pin whose use is recorded. -/
theorem send_spec (x : AffinityRelay B) (eid : ExchangeId) (request : PhysicalRequest B)
    (controller : LeaseController) (ctx : Option LeaseRequestContext) :
    (x.send cfg text eid request controller ctx).controller = controller ∧
      x.uses ⊆ (x.send cfg text eid request controller ctx).uses ∧
      ∃ f : Forwarded B, f.ctx = ctx ∧ (x.send cfg text eid request controller ctx).waiting = x.waiting.set eid f ∧
        BodyOf (x.send cfg text eid request controller ctx).uses eid f request := by
  rw [AffinityRelay.send]
  split
  rename_i registry pinned _
  cases pinned with
  | none => exact ⟨rfl, fun _ used => used, { request, ctx }, rfl, rfl, Or.inl rfl⟩
  | some pinned =>
      obtain ⟨entry, body⟩ := pinned
      refine ⟨rfl, List.subset_append_left _ _, { request := { request with body }, ctx }, rfl, rfl, Or.inr ?_⟩
      exact ⟨_, List.mem_append_right _ (List.mem_singleton.mpr rfl), rfl, rfl, rfl⟩

variable (cfg prims) in
/-- Ending a request ends it with the controller, and leaves what waits and the uses of pins alone. -/
theorem leaseEnd_spec (x : AffinityRelay B) (ctx : Option LeaseRequestContext) (outcome : Outcome)
    (usage : Option TokenUsage) (routeHash : Option String) (answer : ResolverAnswer) :
    (x.leaseEnd cfg prims ctx outcome usage routeHash answer).controller =
        ctx.elim x.controller (fun ctx =>
          x.controller.onRequestEnd cfg.controller ctx outcome usage routeHash answer) ∧
      (x.leaseEnd cfg prims ctx outcome usage routeHash answer).waiting = x.waiting ∧
      (x.leaseEnd cfg prims ctx outcome usage routeHash answer).uses = x.uses := by
  cases ctx <;> exact ⟨rfl, rfl, rfl⟩

namespace FollowsPlain

variable {x : AffinityRelay B} {y : Exchanges B}

/-- A request that is under way in neither relay is sent by both. -/
theorem arrives (follows : FollowsPlain x y) {eid : ExchangeId} (free : x.waiting.get? eid = none)
    (request : PhysicalRequest B) :
    ∃ after, exchangeStep cfg.controller prims text y (.arrives eid request) = some after ∧
      FollowsPlain (x.forward cfg prims text eid request) after := by
  have unknown := follows.waiting eid
  rw [free, SentAs] at unknown
  rw [AffinityRelay.forward, exchangeStep, unknown, follows.controller]
  dsimp only
  cases received : x.controller.receive cfg.controller prims text request with
  | mk controller ctx =>
      obtain ⟨same, used, f, tracked, waits, body⟩ := send_spec cfg text x eid request controller ctx
      have others : ∀ other, other ≠ eid →
          SentAs (x.send cfg text eid request controller ctx).uses other
            ((x.send cfg text eid request controller ctx).waiting.get? other) (y.waiting.get? other) := by
        intro other differ
        rw [waits, Dict.get?_set, if_neg differ]
        exact (follows.waiting other).mono used
      cases ctx with
      | none =>
          refine ⟨_, rfl, same.symm, fun other => ?_⟩
          by_cases own : other = eid
          · subst own
            rw [waits, Dict.get?_set_self, SentAs, tracked]
            exact unknown
          · exact others other own
      | some ctx =>
          refine ⟨_, rfl, same.symm, fun other => ?_⟩
          by_cases own : other = eid
          · subst own
            rw [waits, Dict.get?_set_self, Dict.get?_set_self, SentAs, tracked]
            exact ⟨_, rfl, rfl, body⟩
          · rw [Dict.get?_set, if_neg own]
            exact others other own

/-- What waits when a request has left both relays. -/
theorem erased (follows : FollowsPlain x y) (eid other : ExchangeId) :
    SentAs x.uses other ((x.waiting.erase eid).get? other) ((y.waiting.erase eid).get? other) := by
  rw [Dict.get?_erase, Dict.get?_erase]
  split
  · exact rfl
  · exact follows.waiting other

/-- What waits when a request that is not tracked has left. -/
theorem erased_untracked (follows : FollowsPlain x y) {eid : ExchangeId} {f : Forwarded B}
    (waits : x.waiting.get? eid = some f) (untracked : f.ctx = none) (other : ExchangeId) :
    SentAs x.uses other ((x.waiting.erase eid).get? other) (y.waiting.get? other) := by
  rw [Dict.get?_erase]
  split
  · rename_i own
    subst own
    have absent := follows.waiting other
    rw [waits, SentAs, untracked] at absent
    exact absent
  · exact follows.waiting other

/-- A request that waits is ended: by both relays when it is tracked, and otherwise by the first one alone. -/
theorem ends (follows : FollowsPlain x y) {eid : ExchangeId} {f : Forwarded B} (waits : x.waiting.get? eid = some f)
    (log : TelemetryLog) (outcome : Outcome) (usage : Option TokenUsage) (routeHash : Option String)
    (answer : ResolverAnswer) :
    (f.ctx = none ∧ FollowsPlain
        (AffinityRelay.leaseEnd cfg prims { x with log, waiting := x.waiting.erase eid } f.ctx outcome usage routeHash
          answer) y) ∨
      ∃ e, y.waiting.get? eid = some e ∧ f.ctx = some e.ctx ∧ e.request.upstreamUrl = f.request.upstreamUrl ∧
        FollowsPlain
          (AffinityRelay.leaseEnd cfg prims { x with log, waiting := x.waiting.erase eid } f.ctx outcome usage routeHash
            answer)
          { controller := y.controller.onRequestEnd cfg.controller e.ctx outcome usage routeHash answer
            waiting := y.waiting.erase eid } := by
  obtain ⟨controller, waiting, uses⟩ := leaseEnd_spec cfg prims
    { x with log, waiting := x.waiting.erase eid } f.ctx outcome usage routeHash answer
  have sent := follows.waiting eid
  rw [waits, SentAs] at sent
  cases tracked : f.ctx with
  | none =>
      rw [tracked] at controller waiting uses
      refine Or.inl ⟨rfl, ?_, fun other => ?_⟩
      · rw [controller]
        exact follows.controller
      · rw [waiting, uses]
        exact follows.erased_untracked waits tracked other
  | some ctx =>
      rw [tracked] at controller waiting uses sent
      obtain ⟨e, here, rfl, body⟩ := sent
      refine Or.inr ⟨e, here, rfl, body.upstreamUrl.symm, ?_, fun other => ?_⟩
      · rw [controller, follows.controller]
        rfl
      · rw [waiting, uses]
        exact follows.erased eid other

end FollowsPlain

/-- A relay that knows no affinity follows: it goes through the same actions, but for the ends of requests that are not
    tracked. -/
theorem affinity_simulates (cfg : AffinityRelayConfig) (prims : TextPrimitives) (text : BodyText B) :
    Execution.Simulates (affinityStep cfg prims text) (exchangeStep cfg.controller prims text) AffinityRelay.told
      FollowsPlain := by
  intro x y a after follows stepped
  cases a with
  | arrives eid request =>
      rw [affinityStep] at stepped
      cases waits : x.waiting.get? eid with
      | some f =>
          rw [waits] at stepped
          cases stepped
      | none =>
          rw [waits] at stepped
          cases stepped
          obtain ⟨next, told, still⟩ := follows.arrives waits request
          exact ⟨next, (Execution.exec_singleton _ _).trans told, still⟩
  | completes eid response condition reach answer =>
      rw [affinityStep] at stepped
      cases waits : x.waiting.get? eid with
      | none =>
          rw [waits] at stepped
          cases stepped
      | some f =>
          rw [waits] at stepped
          cases stepped
          rw [AffinityRelay.told, waits, Option.bind_some]
          rcases follows.ends waits _ _ _ _ answer with ⟨untracked, still⟩ | ⟨e, here, tracked, sameUrl, ended⟩
          · rw [untracked]
            exact ⟨y, rfl, untracked ▸ still⟩
          · refine ⟨_, ?_, ended⟩
            rw [tracked, Option.map_some, Option.toList_some, Execution.exec_singleton, exchangeStep, here]
            dsimp only
            rw [Exchange.routeHash, sameUrl]
  | fails eid condition reach answer =>
      rw [affinityStep] at stepped
      cases waits : x.waiting.get? eid with
      | none =>
          rw [waits] at stepped
          cases stepped
      | some f =>
          rw [waits] at stepped
          cases stepped
          rw [AffinityRelay.told, waits, Option.bind_some]
          rcases follows.ends waits _ _ _ _ answer with ⟨untracked, still⟩ | ⟨e, here, tracked, sameUrl, ended⟩
          · rw [untracked]
            exact ⟨y, rfl, untracked ▸ still⟩
          · refine ⟨_, ?_, ended⟩
            rw [tracked, Option.map_some, Option.toList_some, Execution.exec_singleton, exchangeStep, here]
  | leaves eid =>
      cases stepped
      exact ⟨_, rfl, follows.controller, follows.erased eid⟩
  | scheduler a =>
      rw [affinityStep] at stepped
      split at stepped
      · rename_i own
        obtain ⟨world, moved, rfl⟩ := Option.map_eq_some_iff.mp stepped
        refine ⟨{ y with controller := { y.controller with world } }, ?_, ?_, follows.waiting⟩
        · rw [AffinityRelay.told, Option.toList_some, Execution.exec_singleton, exchangeStep, if_pos own,
            follows.controller, moved]
          rfl
        · rw [follows.controller]
      · cases stepped

/-! ### Relays that cannot pin -/

/-- Affinity is off in the proxy or in the controller, or the adapter cannot pin. -/
def AffinityRelayConfig.CannotPin (cfg : AffinityRelayConfig) : Prop :=
  cfg.routeAffinityEnabled = false ∨ cfg.adapter.canPinRoute = false ∨ cfg.affinity.enabled = false

variable (text) in
theorem applyAffinity_cannotPin (unable : cfg.CannotPin) (world : World) (registry : RouteAffinityRegistry) (body : B)
    (ctx : Option LeaseRequestContext) : (applyAffinity cfg text world registry body ctx).2 = none := by
  cases ctx with
  | none => rfl
  | some ctx =>
      rw [applyAffinity]
      rcases unable with off | unable | off
      · rw [off]
        rfl
      · rw [unable, Bool.not_false, Bool.or_true]
        rfl
      · split
        · rfl
        · rw [activeAffinityRoute, off]
          rfl

variable (text) in
theorem send_cannotPin (unable : cfg.CannotPin) (x : AffinityRelay B) (eid : ExchangeId) (request : PhysicalRequest B)
    (controller : LeaseController) (ctx : Option LeaseRequestContext) :
    (x.send cfg text eid request controller ctx).uses = x.uses := by
  rw [AffinityRelay.send]
  split
  rename_i registry pinned applied
  have none := applyAffinity_cannotPin text unable controller.world
    (if ctx.isSome then x.registry.prune controller.world.manager.leases.keys else x.registry) request.body ctx
  rw [applied] at none
  dsimp only at none
  rw [none]

theorem uses_cannotPin (unable : cfg.CannotPin) {x after : AffinityRelay B} {a : AffinityAction B}
    (stepped : affinityStep cfg prims text x a = some after) (unused : x.uses = []) : after.uses = [] := by
  cases a with
  | arrives eid request =>
      rw [affinityStep] at stepped
      split at stepped
      · cases stepped
      · cases stepped
        rw [AffinityRelay.forward]
        split
        rw [send_cannotPin text unable]
        exact unused
  | completes eid response condition reach answer =>
      rw [affinityStep] at stepped
      split at stepped
      · cases stepped
      · cases stepped
        exact (leaseEnd_spec cfg prims _ _ _ _ _ _).2.2.trans unused
  | fails eid condition reach answer =>
      rw [affinityStep] at stepped
      split at stepped
      · cases stepped
      · cases stepped
        exact (leaseEnd_spec cfg prims _ _ _ _ _ _).2.2.trans unused
  | leaves eid =>
      cases stepped
      exact unused
  | scheduler a =>
      rw [affinityStep] at stepped
      split at stepped
      · obtain ⟨world, -, rfl⟩ := Option.map_eq_some_iff.mp stepped
        exact unused
      · cases stepped

/-- Route affinity leaves the leases alone. Every run is followed by a relay that knows no affinity, which is told of
    the same actions but for the ends of untracked requests: it comes to the same controller, and the same requests
    wait, up to the bodies of pins whose use is recorded. A relay that cannot pin uses none. -/
theorem affinity_follows_plain {start x : AffinityRelay B} {acts : List (AffinityAction B)} (initial : start.Initial)
    (run : Execution.exec (affinityStep cfg prims text) start acts = some x) :
    (∃ plain, Execution.exec (exchangeStep cfg.controller prims text) { controller := start.controller }
        (Execution.trace (affinityStep cfg prims text) AffinityRelay.told start acts) = some plain ∧
      FollowsPlain x plain) ∧ (cfg.CannotPin → x.uses = []) := by
  obtain ⟨-, -, -, -, -, -, nothing, unused⟩ := initial
  constructor
  · refine (affinity_simulates cfg prims text).run ⟨rfl, fun eid => ?_⟩ run
    rw [nothing]
    rfl
  · intro unable
    exact Execution.invariant (I := fun x => x.uses = []) unused
      (fun _ _ _ stepped held => uses_cannotPin unable stepped held) run

/-- The run of a relay that pins a request is followed by one that does not. -/
theorem affinity_follows_plain_sample :
    ∃ x, Execution.exec (affinityStep sampleAffinityConfig samplePrimitives sampleText) {} samplePinned = some x ∧
      x.uses.map (fun use => use.entry.serial) = [0] ∧
      ∃ plain, Execution.exec (exchangeStep sampleAffinityConfig.controller samplePrimitives sampleText) {}
          (Execution.trace (affinityStep sampleAffinityConfig samplePrimitives sampleText) AffinityRelay.told {}
            samplePinned) = some plain ∧
        FollowsPlain x plain := by
  have own : ∀ a ∈ samplePinned, SampleAction a := fun a listed =>
    sampleAction_of_mem a (List.mem_append_left _ listed)
  obtain ⟨⟨-, run⟩, -⟩ := sampleReadStep_runs
  obtain ⟨x, reached, used⟩ := Option.map_eq_some_iff.mp run
  rw [← Execution.exec_congr (fun u a listed => affinityStep_sample (own a listed) u)] at reached
  exact ⟨x, reached, used, (affinity_follows_plain initial_sample reached).1⟩

end CachePilot
