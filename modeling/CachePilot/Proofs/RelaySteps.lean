/-
Module: CachePilot.Proofs.RelaySteps
Layer: Proofs
Purpose: The controller refines the event loop. Whatever it does to the manager in one call is a run of
  manager steps, so the world of a relay run is a world that the event loop reaches, and every invariant
  of the event loop holds of the relay.
Trusted boundary: none
Main exports: Reaches, lease?_applyTo, onRequestStart_reaches, onRequestEnd_reaches, relay_run_reachable
-/
import CachePilot.Proofs.Effects
import CachePilot.Relay.LeaseController

namespace CachePilot

/-- Some run of the event loop leads from one world to the other. -/
def Reaches (cfg : ManagerConfig) (w w' : World) : Prop := ∃ acts, exec cfg w acts = some w'

namespace Reaches

variable {cfg : ManagerConfig} {u v w : World}

theorem refl (w : World) : Reaches cfg w w := ⟨[], rfl⟩

theorem trans (first : Reaches cfg u v) (second : Reaches cfg v w) : Reaches cfg u w := by
  obtain ⟨as, run⟩ := first
  obtain ⟨bs, rest⟩ := second
  exact ⟨as ++ bs, Execution.exec_append_eq_some.2 ⟨v, run, rest⟩⟩

theorem of_step {a : Action} (stepped : step cfg u a = some v) : Reaches cfg u v :=
  ⟨[a], by rw [exec, Execution.exec_singleton, stepped]⟩

/-- A loop whose body can be reached can be reached. -/
theorem foldl {A : Type} {f : World → A → World} (body : ∀ w x, Reaches cfg w (f w x)) (xs : List A)
    (w : World) : Reaches cfg w (xs.foldl f w) := by
  induction xs generalizing w with
  | nil => exact refl w
  | cons x xs ih => exact (body w x).trans (ih (f w x))

end Reaches

/-! ### Operations on one lease -/

theorem modifyLease_of_known {w : World} {id : LeaseId} {t : TrackedLease}
    (f : TrackedLease → TrackedLease) (known : w.lease? id = some t) :
    w.modifyLease id f = some (w.putLease id (f t)) := by
  have found : w.manager.leases.get? id = some t := known
  unfold World.modifyLease LeaseManager.modify
  rw [found]
  rfl

theorem modifyLease_of_unknown {w : World} {id : LeaseId} (f : TrackedLease → TrackedLease)
    (absent : w.lease? id = none) : w.modifyLease id f = none := by
  have missing : w.manager.leases.get? id = none := absent
  unfold World.modifyLease LeaseManager.modify
  rw [missing]
  rfl

theorem applyTo_of_known {w : World} {id : LeaseId} {t : TrackedLease}
    (f : TrackedLease → TrackedLease) (known : w.lease? id = some t) :
    w.applyTo id f = w.putLease id (f t) := by
  rw [World.applyTo, modifyLease_of_known f known]
  rfl

theorem applyTo_of_unknown {w : World} {id : LeaseId} (f : TrackedLease → TrackedLease)
    (absent : w.lease? id = none) : w.applyTo id f = w := by
  rw [World.applyTo, modifyLease_of_unknown f absent]
  rfl

section Frame

variable (w : World) (id j : LeaseId) (f : TrackedLease → TrackedLease)

@[simp] theorem lease?_applyTo :
    (w.applyTo id f).lease? j = if j = id then (w.lease? id).map f else w.lease? j := by
  cases known : w.lease? id with
  | some t =>
      rw [applyTo_of_known f known, World.lease?_putLease]
      rfl
  | none =>
      rw [applyTo_of_unknown f known]
      split
      · rename_i same
        rw [same, known]
        rfl
      · rfl

@[simp] theorem clock_applyTo : (w.applyTo id f).clock = w.clock := by
  cases known : w.lease? id with
  | some t => rw [applyTo_of_known f known, World.clock_putLease]
  | none => rw [applyTo_of_unknown f known]

@[simp] theorem index_applyTo :
    (w.applyTo id f).manager.byCacheFingerprint = w.manager.byCacheFingerprint := by
  cases known : w.lease? id with
  | some t => rw [applyTo_of_known f known, World.index_putLease]
  | none => rw [applyTo_of_unknown f known]

/-- A loop of operations on one lease runs on that lease. -/
theorem lease?_foldl_applyTo {A : Type} (g : A → TrackedLease → TrackedLease) (xs : List A) :
    (xs.foldl (fun w x => w.applyTo id (g x)) w).lease? j =
      if j = id then (w.lease? id).map fun t => xs.foldl (fun t x => g x t) t else w.lease? j := by
  induction xs generalizing w with
  | nil =>
      split
      · rename_i same
        simp [same]
      · rfl
  | cons x xs ih =>
      rw [List.foldl_cons, ih, lease?_applyTo, lease?_applyTo, if_pos rfl, Option.map_map]
      split
      · rfl
      · rfl

theorem clock_foldl_applyTo {A : Type} (g : A → TrackedLease → TrackedLease) (xs : List A) :
    (xs.foldl (fun w x => w.applyTo id (g x)) w).clock = w.clock := by
  apply List.foldlRecOn xs (motive := fun u : World => u.clock = w.clock)
  · rfl
  · intro u same x listed
    rw [clock_applyTo, same]

theorem index_foldl_applyTo {A : Type} (g : A → TrackedLease → TrackedLease) (xs : List A) :
    (xs.foldl (fun w x => w.applyTo id (g x)) w).manager.byCacheFingerprint =
      w.manager.byCacheFingerprint := by
  apply List.foldlRecOn xs (motive := fun u : World =>
    u.manager.byCacheFingerprint = w.manager.byCacheFingerprint)
  · rfl
  · intro u same x listed
    rw [index_applyTo, same]

end Frame

theorem Operation.reaches {cfg : ManagerConfig} {w : World} {id : LeaseId} {a : Action}
    {f : TrackedLease → TrackedLease} (operation : Operation cfg w.clock id a f) :
    Reaches cfg w (w.applyTo id f) := by
  cases known : w.lease? id with
  | some t =>
      have stepped : step cfg w a = some (w.applyTo id f) := by
        rw [applyTo_of_known f known, ← modifyLease_of_known f known]
        cases operation <;> rfl
      exact Reaches.of_step stepped
  | none =>
      rw [applyTo_of_unknown f known]
      exact Reaches.refl w

/-! ### The controller's calls -/

theorem dropSnapshots_reaches {cfg : ManagerConfig} (fps : List String) (w : World) :
    Reaches cfg w { w with snapshots := fps.foldl SnapshotStore.drop w.snapshots } := by
  induction fps generalizing w with
  | nil => exact Reaches.refl w
  | cons fp fps ih =>
      have dropped : step cfg w (.dropSnapshot fp) =
          some { w with snapshots := w.snapshots.drop fp } := rfl
      exact (Reaches.of_step dropped).trans (ih { w with snapshots := w.snapshots.drop fp })

theorem pruneSnapshots_reaches (cfg : ControllerConfig) (c : LeaseController) :
    Reaches cfg.manager c.world (c.pruneSnapshots cfg).world := by
  unfold LeaseController.pruneSnapshots
  split
  · exact dropSnapshots_reaches _ c.world
  · exact Reaches.refl c.world

theorem syncTargets_reaches (cfg : ControllerConfig) (c : LeaseController) (id : LeaseId)
    (count : ℕ) : Reaches cfg.manager c.world (c.syncTargets cfg id count).world := by
  have finished : ∀ (targets : List String) w, Reaches cfg.manager w (targets.foldl
      (fun w target => w.applyTo id (TrackedLease.targetFinished target)) w) :=
    Reaches.foldl fun w target => Operation.reaches (.targetFinished target)
  have started : ∀ (targets : List String) w, Reaches cfg.manager w (targets.foldl
      (fun w target => w.applyTo id (TrackedLease.targetStarted target)) w) :=
    Reaches.foldl fun w target => Operation.reaches (.targetStarted target)
  exact (finished _ c.world).trans (started _ _)

theorem storeSnapshot_reaches (cfg : ControllerConfig) (c : LeaseController) (id : LeaseId)
    (request : StartRequest) :
    Reaches cfg.manager c.world (c.storeSnapshot cfg id request).world := by
  unfold LeaseController.storeSnapshot
  split
  · split
    · exact Reaches.of_step (a := .storeSnapshot _) rfl
    · exact Reaches.refl c.world
  · exact Reaches.refl c.world

/-! ### How a request starts -/

section OnRequestStart

variable {cfg : ControllerConfig} {c : LeaseController} {request : StartRequest}

theorem onRequestStart_untracked (untracked : ¬ (cfg.enabled = true ∧ request.identity.sessionId ≠ "")) :
    c.onRequestStart cfg request = (c, none) := by
  unfold LeaseController.onRequestStart
  rw [if_pos]
  simp only [not_and_or, not_not] at untracked
  simpa using untracked

/-- On the lease that is registered. -/
theorem onRequestStart_reused (enabled : cfg.enabled = true) (session : request.identity.sessionId ≠ "")
    {id : LeaseId} (found : c.world.manager.findExisting request.identity = some id) :
    c.onRequestStart cfg request =
      (c.startRealRequest cfg id request, some { leaseId := id, targetsCount := request.targetsCount }) := by
  unfold LeaseController.onRequestStart LeaseManager.findOrCreateLease
  rw [if_neg (by simp [enabled, session]), found]

/-- With the resolver raising, after the superseded leases were invalidated. -/
theorem onRequestStart_raised (enabled : cfg.enabled = true) (session : request.identity.sessionId ≠ "")
    (missing : c.world.manager.findExisting request.identity = none)
    (raised : LeaseManager.initialTtl cfg.manager none (1 / 2) request.answer = none) :
    c.onRequestStart cfg request =
      ({ c with world := { c.world with manager := c.world.manager.invalidateSuperseded request.identity } },
        none) := by
  unfold LeaseController.onRequestStart LeaseManager.findOrCreateLease
  rw [if_neg (by simp [enabled, session]), missing]
  dsimp only
  rw [raised]

/-- On a new lease. -/
theorem onRequestStart_created (enabled : cfg.enabled = true) (session : request.identity.sessionId ≠ "")
    {ttlS confidence : ℚ} (missing : c.world.manager.findExisting request.identity = none)
    (resolved : LeaseManager.initialTtl cfg.manager none (1 / 2) request.answer = some (ttlS, confidence)) :
    c.onRequestStart cfg request =
      (LeaseController.startRealRequest cfg
        { c with world := { c.world with manager :=
            (c.world.manager.invalidateSuperseded request.identity).insertLease request.identity ttlS confidence } }
        c.world.manager.freshId request,
        some { leaseId := c.world.manager.freshId, targetsCount := request.targetsCount }) := by
  unfold LeaseController.onRequestStart LeaseManager.findOrCreateLease
  rw [if_neg (by simp [enabled, session]), missing]
  dsimp only
  rw [resolved]
  dsimp only
  rw [freshId_invalidateSuperseded]

end OnRequestStart

/-- What the controller does when a request starts is a run of manager steps. -/
theorem onRequestStart_reaches (cfg : ControllerConfig) (c : LeaseController)
    (request : StartRequest) :
    Reaches cfg.manager c.world (c.onRequestStart cfg request).1.world := by
  unfold LeaseController.onRequestStart
  split
  · exact Reaches.refl c.world
  have called : step cfg.manager c.world
      (.findOrCreateLease request.identity none (1 / 2) request.answer) =
        some { c.world with manager :=
          (c.world.manager.findOrCreateLease cfg.manager request.identity none (1 / 2)
            request.answer).1 } := rfl
  generalize c.world.manager.findOrCreateLease cfg.manager request.identity none (1 / 2)
    request.answer = result at called
  obtain ⟨manager, found⟩ := result
  have registered := Reaches.of_step called
  cases found with
  | none => exact registered
  | some id =>
      apply registered.trans
      apply Reaches.trans _ (storeSnapshot_reaches cfg _ id request)
      apply Reaches.trans _ (Operation.beforeNormalRequest).reaches
      apply Reaches.trans _ (syncTargets_reaches cfg _ id request.targetsCount)
      exact pruneSnapshots_reaches cfg
        (LeaseController.pruneTargetIds { c with world := { c.world with manager } })

theorem refreshCosts_reaches (cfg : ManagerConfig) (w : World) (id : LeaseId)
    (usage : Option TokenUsage) : Reaches cfg w (World.refreshCosts cfg w id usage) := by
  unfold World.refreshCosts
  split
  · split
    · exact Operation.reaches (.updateCostEstimates _)
    · exact Reaches.refl w
  · exact Reaches.refl w

theorem observeRoute_reaches (cfg : ManagerConfig) (w : World) (id : LeaseId)
    (routeHash : Option String) : Reaches cfg w (w.observeRoute id routeHash) := by
  unfold World.observeRoute
  split
  · exact Operation.reaches (.reconcileRoute _)
  · exact Reaches.refl w

/-- What the controller does when a request ends is a run of manager steps. -/
theorem onRequestEnd_reaches (cfg : ControllerConfig) (c : LeaseController)
    (ctx : LeaseRequestContext) (outcome : Outcome) (usage : Option TokenUsage)
    (routeHash : Option String) (answer : ResolverAnswer) :
    Reaches cfg.manager c.world
      (c.onRequestEnd cfg ctx outcome usage routeHash answer).world := by
  unfold LeaseController.onRequestEnd
  split
  · exact Reaches.refl c.world
  have reset : Reaches cfg.manager c.world
      (c.world.applyTo ctx.leaseId (TrackedLease.afterNormalRequest c.world.clock outcome)) :=
    Operation.reaches (.afterNormalRequest outcome)
  have costs := reset.trans (refreshCosts_reaches cfg.manager _ ctx.leaseId usage)
  have routed := costs.trans (observeRoute_reaches cfg.manager _ ctx.leaseId routeHash)
  have resolve : ∀ w, Reaches cfg.manager w
      (w.applyTo ctx.leaseId (TrackedLease.refreshTtl answer)) :=
    fun w => Operation.reaches (.refreshTtl answer)
  have resolved := routed.trans (resolve _)
  dsimp only
  split
  · split
    · exact resolved.trans (Reaches.of_step (a := .dropSnapshot _) rfl)
    · exact resolved
  · exact resolved

/-- Every relay step is a run of manager steps. -/
theorem relayStep_reaches {cfg : ControllerConfig} {r r' : Relay} {a : RelayAction}
    (stepped : relayStep cfg r a = some r') :
    Reaches cfg.manager r.controller.world r'.controller.world := by
  cases a with
  | requestStart request =>
      cases stepped
      exact onRequestStart_reaches cfg r.controller request
  | requestEnd ctx outcome usage routeHash answer =>
      unfold relayStep at stepped
      dsimp only at stepped
      split at stepped
      · cases stepped
        exact onRequestEnd_reaches cfg r.controller ctx outcome usage routeHash answer
      · cases stepped
  | scheduler b =>
      unfold relayStep at stepped
      dsimp only at stepped
      split at stepped
      · obtain ⟨world, moved, same⟩ := Option.map_eq_some_iff.1 stepped
        subst same
        exact Reaches.of_step moved
      · cases stepped

/-- The world of a relay run is a world that the event loop reaches. -/
theorem relay_run_reaches {cfg : ControllerConfig} {start r : Relay} {acts : List RelayAction}
    (run : Execution.exec (relayStep cfg) start acts = some r) :
    Reaches cfg.manager start.controller.world r.controller.world := by
  apply Execution.invariant
    (I := fun u => Reaches cfg.manager start.controller.world u.controller.world) _ _ run
  · exact Reaches.refl _
  · intro u a v stepped reached
    exact reached.trans (relayStep_reaches stepped)

theorem relay_run_reachable {cfg : ControllerConfig} {start r : Relay} {acts : List RelayAction}
    (initial : start.Initial) (run : Execution.exec (relayStep cfg) start acts = some r) :
    Reachable cfg.manager r.controller.world := by
  obtain ⟨worldActs, reached⟩ := relay_run_reaches run
  exact ⟨start.controller.world, worldActs, initial.1, reached⟩

end CachePilot
