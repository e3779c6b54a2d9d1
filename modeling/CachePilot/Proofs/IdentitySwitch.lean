/-
Module: CachePilot.Proofs.IdentitySwitch
Layer: Proofs
Purpose: Returning to an earlier cache identity. The controller keeps the targets of every lease equal to
  the synthetic ids that it last gave it, so a request with targets arms its lease when it ends with a
  verified touch, unless the lease that the registry finds for the identity is a dead one: that one stays
  dead.
Trusted boundary: none
Main exports: Synced, relay_run_synced, World.Serves, rearmed_iff_not_dead
-/
import CachePilot.Proofs.Registry
import CachePilot.Proofs.RelaySteps

namespace CachePilot

/-! ### Reconciling the targets of one lease -/

theorem backgroundTargets_named {count : ℕ} {target : String}
    (listed : target ∈ backgroundTargets count) : target ≠ "" := by
  obtain ⟨i, -, same⟩ := List.mem_map.1 listed
  intro empty
  rw [empty] at same
  have lengths := congrArg String.length same
  simp at lengths

/-- The first synthetic id is in every list but the empty one. -/
theorem first_mem_backgroundTargets {count : ℕ} (positive : 1 ≤ count) :
    "bg-" ++ toString (0 + 1) ∈ backgroundTargets count :=
  List.mem_map.2 ⟨0, List.mem_range.2 positive, rfl⟩

/-- A lease after some of its targets finished, in this order. -/
def finishTargets (targets : List String) (t : TrackedLease) : TrackedLease :=
  targets.foldl (fun t target => t.targetFinished target) t

/-- A lease after some targets started, in this order. -/
def startTargets (targets : List String) (t : TrackedLease) : TrackedLease :=
  targets.foldl (fun t target => t.targetStarted target) t

theorem finishTargets_activeTargets {targets : List String} (named : ∀ x ∈ targets, x ≠ "")
    (t : TrackedLease) :
    (finishTargets targets t).lease.activeTargets = t.lease.activeTargets \ targets.toFinset := by
  induction targets generalizing t with
  | nil => simp [finishTargets]
  | cons x targets ih =>
      have finished := TrackedLease.targetFinished_named (named x List.mem_cons_self) t
      have rest := ih (fun y member => named y (List.mem_cons_of_mem x member)) (t.targetFinished x)
      rw [finishTargets, List.foldl_cons]
      refine rest.trans ?_
      rw [finished]
      ext y
      simp only [Finset.mem_sdiff, Finset.mem_erase, List.mem_toFinset, List.mem_cons]
      tauto

/-- Finishing targets does not touch the state as long as one is left. -/
theorem finishTargets_state {targets : List String} (named : ∀ x ∈ targets, x ≠ "")
    {t : TrackedLease} {kept : String} (active : kept ∈ t.lease.activeTargets)
    (stays : kept ∉ targets) : (finishTargets targets t).lease.state = t.lease.state := by
  have invariant : kept ∈ (finishTargets targets t).lease.activeTargets ∧
      (finishTargets targets t).lease.state = t.lease.state := by
    apply List.foldlRecOn targets (motive := fun u : TrackedLease =>
      kept ∈ u.lease.activeTargets ∧ u.lease.state = t.lease.state)
    · exact ⟨active, rfl⟩
    · rintro u ⟨present, same⟩ x listed
      have different : kept ≠ x := by
        intro equal
        rw [equal] at stays
        exact stays listed
      have remains : kept ∈ u.lease.activeTargets.erase x :=
        Finset.mem_erase.2 ⟨different, present⟩
      have others : u.lease.activeTargets.erase x ≠ ∅ := Finset.ne_empty_of_mem remains
      rw [TrackedLease.targetFinished_named (named x listed)]
      refine ⟨remains, ?_⟩
      rw [if_neg others, same]
  exact invariant.2

theorem finishTargets_valid {targets : List String} {t : TrackedLease}
    (valid : t.lease.state ≠ .invalidated) :
    (finishTargets targets t).lease.state ≠ .invalidated := by
  apply List.foldlRecOn targets (motive := fun u : TrackedLease => u.lease.state ≠ .invalidated)
  · exact valid
  · intro u alive x listed
    rcases eq_or_ne x "" with rfl | named
    · exact alive
    · rw [TrackedLease.targetFinished_named named]
      dsimp only
      split
      · exact LeaseState.noConfusion
      · exact alive

theorem startTargets_activeTargets {targets : List String} (named : ∀ x ∈ targets, x ≠ "")
    (t : TrackedLease) :
    (startTargets targets t).lease.activeTargets = t.lease.activeTargets ∪ targets.toFinset := by
  induction targets generalizing t with
  | nil => simp [startTargets]
  | cons x targets ih =>
      have started := TrackedLease.targetStarted_named (named x List.mem_cons_self) t
      have rest := ih (fun y member => named y (List.mem_cons_of_mem x member)) (t.targetStarted x)
      rw [startTargets, List.foldl_cons]
      refine rest.trans ?_
      rw [started]
      ext y
      simp only [Finset.mem_union, Finset.mem_insert, List.mem_toFinset, List.mem_cons]
      tauto

/-- Starting targets neither kills a lease nor brings one back. -/
theorem startTargets_invalid_iff (targets : List String) (t : TrackedLease) :
    (startTargets targets t).lease.state = .invalidated ↔ t.lease.state = .invalidated := by
  apply List.foldlRecOn targets (motive := fun u : TrackedLease =>
    u.lease.state = .invalidated ↔ t.lease.state = .invalidated)
  · exact Iff.rfl
  · intro u same x listed
    rcases eq_or_ne x "" with rfl | named
    · exact same
    · rw [TrackedLease.targetStarted_named named, ← same]
      dsimp only
      split
      · rename_i armed
        simp [armed.2]
      · exact Iff.rfl

/-- The lease after its targets were reconciled with the header count. -/
def reconciled (cfg : ControllerConfig) (current : List String) (count : ℕ) (t : TrackedLease) :
    TrackedLease :=
  startTargets
    (cfg.iterationOrder ((backgroundTargets count).filter fun target => target ∉ current))
    (finishTargets
      (cfg.iterationOrder (current.filter fun target => target ∉ backgroundTargets count)) t)

section Reconciled

variable {cfg : ControllerConfig} {known count : ℕ} {t : TrackedLease}

theorem gone_named {target : String}
    (listed : target ∈ cfg.iterationOrder
      ((backgroundTargets known).filter fun target => target ∉ backgroundTargets count)) :
    target ≠ "" := by
  rw [(cfg.iterationOrder_perm _).mem_iff] at listed
  exact backgroundTargets_named (List.mem_filter.1 listed).1

/-- Whatever the lease had before, it has the synthetic ids of the count afterwards. -/
theorem reconciled_activeTargets
    (synced : t.lease.activeTargets = (backgroundTargets known).toFinset) :
    (reconciled cfg (backgroundTargets known) count t).lease.activeTargets =
      (backgroundTargets count).toFinset := by
  unfold reconciled
  rw [startTargets_activeTargets fun _ listed => gone_named listed,
    finishTargets_activeTargets fun _ listed => gone_named listed, synced,
    List.toFinset_eq_of_perm _ _ (cfg.iterationOrder_perm _),
    List.toFinset_eq_of_perm _ _ (cfg.iterationOrder_perm _)]
  ext target
  simp only [Finset.mem_union, Finset.mem_sdiff, List.mem_toFinset, List.mem_filter,
    decide_eq_true_eq]
  tauto

/-- With targets before or after, reconciling neither kills a lease nor brings one back. -/
theorem reconciled_invalid_iff
    (synced : t.lease.activeTargets = (backgroundTargets known).toFinset) (positive : 1 ≤ count) :
    (reconciled cfg (backgroundTargets known) count t).lease.state = .invalidated ↔
      t.lease.state = .invalidated := by
  unfold reconciled
  rw [startTargets_invalid_iff]
  constructor
  · intro dead
    by_contra valid
    exact finishTargets_valid valid dead
  · intro dead
    rcases Nat.eq_zero_or_pos known with rfl | some
    · have nothing : cfg.iterationOrder
          ((backgroundTargets 0).filter fun target => target ∉ backgroundTargets count) = [] :=
        (cfg.iterationOrder_perm _).eq_nil
      rw [nothing]
      exact dead
    · -- the first id is among the old ones and among the new ones, so it stays
      have active : "bg-" ++ toString (0 + 1) ∈ t.lease.activeTargets := by
        rw [synced]
        exact List.mem_toFinset.2 (first_mem_backgroundTargets some)
      have stays : "bg-" ++ toString (0 + 1) ∉ cfg.iterationOrder
          ((backgroundTargets known).filter fun target => target ∉ backgroundTargets count) := by
        rw [(cfg.iterationOrder_perm _).mem_iff]
        intro listed
        have absent := (List.mem_filter.1 listed).2
        simp only [decide_eq_true_eq] at absent
        exact absent (first_mem_backgroundTargets positive)
      rw [finishTargets_state (fun _ listed => gone_named listed) active stays, dead]

end Reconciled

/-! ### What the start of a request leaves -/

section StartRealRequest

variable (cfg : ControllerConfig) (c : LeaseController) (id j : LeaseId) (request : StartRequest)

theorem lease?_pruneSnapshots : (c.pruneSnapshots cfg).world.lease? j = c.world.lease? j := by
  unfold LeaseController.pruneSnapshots
  split <;> rfl

theorem clock_pruneSnapshots : (c.pruneSnapshots cfg).world.clock = c.world.clock := by
  unfold LeaseController.pruneSnapshots
  split <;> rfl

theorem index_pruneSnapshots :
    (c.pruneSnapshots cfg).world.manager.byCacheFingerprint =
      c.world.manager.byCacheFingerprint := by
  unfold LeaseController.pruneSnapshots
  split <;> rfl

theorem targetIds_pruneSnapshots : (c.pruneSnapshots cfg).targetIds = c.targetIds := by
  unfold LeaseController.pruneSnapshots
  split <;> rfl

theorem storeSnapshot_frame :
    (c.storeSnapshot cfg id request).world.manager = c.world.manager ∧
      (c.storeSnapshot cfg id request).world.clock = c.world.clock ∧
      (c.storeSnapshot cfg id request).targetIds = c.targetIds := by
  unfold LeaseController.storeSnapshot
  split
  · split
    · exact ⟨rfl, rfl, rfl⟩
    · exact ⟨rfl, rfl, rfl⟩
  · exact ⟨rfl, rfl, rfl⟩

theorem currentTargets_pruneTargetIds :
    c.pruneTargetIds.currentTargets j =
      if j ∈ c.world.manager.leases.keys then c.currentTargets j else [] := by
  unfold LeaseController.pruneTargetIds LeaseController.currentTargets
  rw [Dict.get?_foldl_erase]
  by_cases tracked : j ∈ c.world.manager.leases.keys
  · simp [tracked]
  · cases stored : c.targetIds.get? j with
    | none => simp
    | some targets =>
        have listed : j ∈ c.targetIds.keys := Dict.mem_keys_iff.2 ⟨targets, stored⟩
        simp [tracked, listed]

theorem lease?_syncTargets (count : ℕ) :
    (c.syncTargets cfg id count).world.lease? j =
      if j = id then
        (c.world.lease? id).map (reconciled cfg (c.currentTargets id) count)
      else c.world.lease? j := by
  unfold LeaseController.syncTargets
  dsimp only
  rw [lease?_foldl_applyTo, lease?_foldl_applyTo, lease?_foldl_applyTo, if_pos rfl, Option.map_map]
  split <;> rfl

/-- The start of a real request reconciles the targets of its lease, bumps the generation, and leaves every
    other lease alone. -/
theorem lease?_startRealRequest :
    (c.startRealRequest cfg id request).world.lease? j =
      if j = id then
        (c.world.lease? id).map fun t =>
          (reconciled cfg (c.pruneTargetIds.currentTargets id) request.targetsCount
            t).beforeNormalRequest c.world.clock
      else c.world.lease? j := by
  unfold LeaseController.startRealRequest
  dsimp only
  have synced := lease?_syncTargets cfg (c.pruneTargetIds.pruneSnapshots cfg) id
  have clock : ((c.pruneTargetIds.pruneSnapshots cfg).syncTargets cfg id
      request.targetsCount).world.clock = c.world.clock := by
    unfold LeaseController.syncTargets
    dsimp only
    rw [clock_foldl_applyTo, clock_foldl_applyTo, clock_pruneSnapshots]
    rfl
  have current : (c.pruneTargetIds.pruneSnapshots cfg).currentTargets id =
      c.pruneTargetIds.currentTargets id := by
    unfold LeaseController.currentTargets
    rw [targetIds_pruneSnapshots]
  have kept : ∀ i, (c.pruneTargetIds.pruneSnapshots cfg).world.lease? i = c.world.lease? i := by
    intro i
    rw [lease?_pruneSnapshots]
    rfl
  rw [World.lease?, (storeSnapshot_frame cfg _ id request).1]
  change (World.applyTo _ id _).lease? j = _
  rw [lease?_applyTo, synced, synced, if_pos rfl, current, clock, kept, kept, Option.map_map]
  split <;> rfl

theorem index_startRealRequest :
    (c.startRealRequest cfg id request).world.manager.byCacheFingerprint =
      c.world.manager.byCacheFingerprint := by
  unfold LeaseController.startRealRequest LeaseController.syncTargets
  dsimp only
  rw [(storeSnapshot_frame cfg _ id request).1]
  dsimp only
  rw [index_applyTo, index_foldl_applyTo, index_foldl_applyTo, index_pruneSnapshots]
  rfl

theorem currentTargets_startRealRequest :
    (c.startRealRequest cfg id request).currentTargets j =
      if j = id then backgroundTargets request.targetsCount
      else c.pruneTargetIds.currentTargets j := by
  unfold LeaseController.startRealRequest LeaseController.currentTargets
  dsimp only
  rw [(storeSnapshot_frame cfg _ id request).2.2]
  unfold LeaseController.syncTargets
  dsimp only
  rw [Dict.get?_set, targetIds_pruneSnapshots]
  split <;> rfl

end StartRealRequest

/-! ### The controller knows the targets of every lease -/

/-- The active targets of a lease; an untracked one has none. -/
def World.targetsOf (w : World) (id : LeaseId) : Finset String :=
  ((w.lease? id).map fun t => t.lease.activeTargets).getD ∅

theorem targetsOf_eq {w : World} {id : LeaseId} {t : TrackedLease}
    (known : w.lease? id = some t) : w.targetsOf id = t.lease.activeTargets := by
  unfold World.targetsOf
  rw [known]
  rfl

/-- The active targets of every lease are the synthetic ids that the controller last gave it. -/
def Synced (c : LeaseController) : Prop :=
  ∀ id, ∃ count, c.currentTargets id = backgroundTargets count ∧
    c.world.targetsOf id = (backgroundTargets count).toFinset

/-- Steps that are no operations on leases leave the targets alone. -/
theorem targetsOf_step {cfg : ManagerConfig} {w w' : World} {a : Action}
    (stepped : step cfg w a = some w') (quiet : ∀ id f, ¬ Operation cfg w.clock id a f)
    (id : LeaseId) : w'.targetsOf id = w.targetsOf id := by
  cases known : w.lease? id with
  | some t =>
      obtain ⟨t', known', change⟩ := step_change stepped known
      rw [targetsOf_eq known, targetsOf_eq known']
      cases change with
      | bookkeeping quiet unreturned frame => exact frame.targets
      | superseded missing switched => rfl
      | operated operation => exact absurd operation (quiet id _)
      | returned flying => exact finishWarm_targets _ _ t
  | none =>
      unfold World.targetsOf
      rw [known]
      cases appears : w'.lease? id with
      | none => rfl
      | some t' =>
          obtain ⟨identity, ttl, confidence, answer, ttlS, c, -, -, -, new⟩ :=
            step_creates stepped known appears
          rw [new]
          rfl

theorem scheduler_no_operation {cfg : ManagerConfig} {now : ℚ} {id : LeaseId} {a : Action}
    {f : TrackedLease → TrackedLease} (scheduled : a.isScheduler = true) :
    ¬ Operation cfg now id a f := by
  intro operation
  cases operation <;> cases scheduled

/-- The ways a request starts: untracked, with the resolver raising, or on the lease it found. -/
inductive StartCase (cfg : ControllerConfig) (c : LeaseController) (request : StartRequest) :
    LeaseController × Option LeaseRequestContext → Prop where
  | untracked : StartCase cfg c request (c, none)
  | raised {manager : LeaseManager}
      (called : c.world.manager.findOrCreateLease cfg.manager request.identity none (1 / 2)
        request.answer = (manager, none)) :
      StartCase cfg c request ({ c with world := { c.world with manager } }, none)
  | started {manager : LeaseManager} {id : LeaseId} (enabled : cfg.enabled = true)
      (called : c.world.manager.findOrCreateLease cfg.manager request.identity none (1 / 2)
        request.answer = (manager, some id)) :
      StartCase cfg c request
        (LeaseController.startRealRequest cfg { c with world := { c.world with manager } } id request,
          some { leaseId := id, targetsCount := request.targetsCount })

theorem onRequestStart_cases (cfg : ControllerConfig) (c : LeaseController)
    (request : StartRequest) : StartCase cfg c request (c.onRequestStart cfg request) := by
  unfold LeaseController.onRequestStart
  split
  · exact .untracked
  · rename_i tracked
    have enabled : cfg.enabled = true := by
      simp only [Bool.or_eq_true, not_or] at tracked
      simpa using tracked.1
    cases called : c.world.manager.findOrCreateLease cfg.manager request.identity none (1 / 2)
        request.answer with
    | mk manager found =>
        cases found with
        | none => exact .raised called
        | some id => exact .started enabled called

section Called

variable {cfg : ControllerConfig} {c : LeaseController} {request : StartRequest}
  {manager : LeaseManager} {found : Option LeaseId}

/-- The registry's part of the start is one step of the event loop. -/
theorem step_of_called
    (called : c.world.manager.findOrCreateLease cfg.manager request.identity none (1 / 2)
      request.answer = (manager, found)) :
    step cfg.manager c.world
      (.findOrCreateLease request.identity none (1 / 2) request.answer) =
        some { c.world with manager } := by
  have same := congrArg Prod.fst called
  subst same
  rfl

theorem targetsOf_called
    (called : c.world.manager.findOrCreateLease cfg.manager request.identity none (1 / 2)
      request.answer = (manager, found)) (id : LeaseId) :
    World.targetsOf { c.world with manager } id = c.world.targetsOf id := by
  apply targetsOf_step (step_of_called called)
  intro j f operation
  cases operation

end Called

theorem synced_startRealRequest {cfg : ControllerConfig} {c : LeaseController} {id : LeaseId}
    {t : TrackedLease} (request : StartRequest) (known : c.world.lease? id = some t)
    (synced : Synced c) : Synced (c.startRealRequest cfg id request) := by
  intro j
  have listed : ∀ k x, c.world.lease? k = some x → k ∈ c.world.manager.leases.keys :=
    fun k x tracked => Dict.mem_keys_iff.2 ⟨x, tracked⟩
  rw [currentTargets_startRealRequest]
  unfold World.targetsOf
  rw [lease?_startRealRequest]
  by_cases same : j = id
  · subst same
    obtain ⟨count, current, active⟩ := synced j
    rw [targetsOf_eq known] at active
    refine ⟨request.targetsCount, if_pos rfl, ?_⟩
    rw [if_pos rfl, known, currentTargets_pruneTargetIds, if_pos (listed j t known), current]
    exact reconciled_activeTargets active
  · rw [if_neg same, if_neg same, currentTargets_pruneTargetIds]
    cases tracked : c.world.lease? j with
    | some x =>
        obtain ⟨count, current, active⟩ := synced j
        rw [targetsOf_eq tracked] at active
        rw [if_pos (listed j x tracked)]
        exact ⟨count, current, active⟩
    | none =>
        have absent : j ∉ c.world.manager.leases.keys := Dict.not_mem_keys_iff.2 tracked
        rw [if_neg absent]
        exact ⟨0, rfl, rfl⟩

/-! ### Finding a lease -/

theorem findExisting_eq_some_iff {w : World} {identity : LeaseIdentity} {id : LeaseId} :
    w.manager.findExisting identity = some id ↔
      w.manager.byCacheFingerprint.get? identity.cacheFingerprint = some id ∧
        ∃ t, w.lease? id = some t ∧ t.lease.sessionId = identity.sessionId := by
  unfold LeaseManager.findExisting
  constructor
  · intro found
    split at found
    · cases found
    rename_i j entry
    split at found
    · cases found
    rename_i t known
    split at found
    · rename_i session
      cases found
      exact ⟨entry, t, known, session⟩
    · cases found
  · rintro ⟨entry, t, known, session⟩
    have stored : w.manager.leases.get? id = some t := known
    rw [entry]
    dsimp only
    rw [stored]
    exact if_pos session

/-- The lease registered for an identity in its session. -/
def World.registered (w : World) (identity : LeaseIdentity) : Option TrackedLease :=
  (w.manager.findExisting identity).bind w.lease?

theorem registered_eq {w : World} {identity : LeaseIdentity} {id : LeaseId} {t : TrackedLease}
    (found : w.manager.findExisting identity = some id) (known : w.lease? id = some t) :
    w.registered identity = some t := by
  unfold World.registered
  rw [found]
  exact known

/-- A call that returns a lease leaves it registered, and the lease is valid exactly when the call found no
    dead one. -/
theorem registered_of_called {cfg : ManagerConfig} {w : World} {identity : LeaseIdentity}
    {ttl : Option ℚ} {confidence : ℚ} {answer : ResolverAnswer} {manager : LeaseManager}
    {id : LeaseId}
    (called : w.manager.findOrCreateLease cfg identity ttl confidence answer =
      (manager, some id)) :
    manager.findExisting identity = some id ∧
      ∃ t, manager.leases.get? id = some t ∧
        (t.lease.state ≠ .invalidated ↔
          ∀ x ∈ w.registered identity, x.lease.state ≠ .invalidated) := by
  unfold LeaseManager.findOrCreateLease at called
  split at called
  · rename_i j found
    cases called
    obtain ⟨-, t, known, -⟩ := findExisting_eq_some_iff.1 found
    refine ⟨found, t, known, ?_⟩
    rw [registered_eq found known]
    simp
  · rename_i missing
    split at called
    · cases called
    · rename_i ttlS c resolved
      cases called
      rw [freshId_invalidateSuperseded]
      have stored : ((w.manager.invalidateSuperseded identity).insertLease identity ttlS
          c).leases.get? w.manager.freshId =
            some (LeaseManager.newLease identity w.manager.freshId ttlS c) := by
        rw [lease?_insertLease, freshId_invalidateSuperseded, if_pos rfl]
      refine ⟨?_, _, stored, ?_⟩
      · have entry : ((w.manager.invalidateSuperseded identity).insertLease identity ttlS
            c).byCacheFingerprint.get? identity.cacheFingerprint = some w.manager.freshId := by
          change (w.manager.byCacheFingerprint.set identity.cacheFingerprint
            (w.manager.invalidateSuperseded identity).freshId).get? _ = _
          rw [Dict.get?_set, if_pos rfl, freshId_invalidateSuperseded]
        exact (findExisting_eq_some_iff (w := { w with manager := _ })).2 ⟨entry, _, stored, rfl⟩
      · unfold World.registered
        rw [missing]
        simp [LeaseManager.newLease]

/-! ### What the end of a request leaves -/

/-- A lease after the end of a request: the reset with the outcome, the estimates, the route, the TTL. -/
def ended (cfg : ManagerConfig) (now : ℚ) (outcome : Outcome) (usage : Option TokenUsage)
    (routeHash : Option String) (answer : ResolverAnswer) (t : TrackedLease) : TrackedLease :=
  let t := t.afterNormalRequest now outcome
  let t :=
    match usage with
    | some usage => if 0 < usage.promptTokens then t.updateCostEstimates cfg usage else t
    | none => t
  let t :=
    match routeHash with
    | some routeHash => t.reconcileRoute routeHash
    | none => t
  t.refreshTtl answer

/-- Only the reset with the outcome writes the state, the touch and the targets. -/
theorem ended_frame (cfg : ManagerConfig) (now : ℚ) (outcome : Outcome)
    (usage : Option TokenUsage) (routeHash : Option String) (answer : ResolverAnswer)
    (t : TrackedLease) :
    (ended cfg now outcome usage routeHash answer t).lease.state =
        (t.afterNormalRequest now outcome).lease.state ∧
      (ended cfg now outcome usage routeHash answer t).lease.lastCacheTouchAt =
        (t.afterNormalRequest now outcome).lease.lastCacheTouchAt ∧
      (ended cfg now outcome usage routeHash answer t).lease.activeTargets =
        t.lease.activeTargets ∧
      (ended cfg now outcome usage routeHash answer t).lease.sessionId = t.lease.sessionId := by
  have reset : (t.afterNormalRequest now outcome).lease.activeTargets = t.lease.activeTargets ∧
      (t.afterNormalRequest now outcome).lease.sessionId = t.lease.sessionId := by
    rcases TrackedLease.afterNormalRequest_cases now outcome t with ⟨-, same⟩ | ⟨-, same⟩
    · rw [same]
      exact ⟨rfl, rfl⟩
    · rw [same]
      exact ⟨rfl, rfl⟩
  rw [← reset.1, ← reset.2]
  unfold ended
  generalize t.afterNormalRequest now outcome = u
  dsimp only
  rw [TrackedLease.refreshTtl_frame]
  cases routeHash with
  | some hash =>
      cases usage with
      | some usage =>
          dsimp only
          split
          · rw [TrackedLease.updateCostEstimates_frame]
            exact ⟨rfl, rfl, rfl, rfl⟩
          · exact ⟨rfl, rfl, rfl, rfl⟩
      | none => exact ⟨rfl, rfl, rfl, rfl⟩
  | none =>
      cases usage with
      | some usage =>
          dsimp only
          split
          · rw [TrackedLease.updateCostEstimates_frame]
            exact ⟨rfl, rfl, rfl, rfl⟩
          · exact ⟨rfl, rfl, rfl, rfl⟩
      | none => exact ⟨rfl, rfl, rfl, rfl⟩

section OnRequestEnd

variable (cfg : ControllerConfig) (c : LeaseController) (ctx : LeaseRequestContext)
  (outcome : Outcome) (usage : Option TokenUsage) (routeHash : Option String)
  (answer : ResolverAnswer)

theorem lease?_unchanged (w : World) (id j : LeaseId) :
    w.lease? j = if j = id then (w.lease? id).map fun t => t else w.lease? j := by
  split
  · rename_i same
    simp [same]
  · rfl

theorem lease?_refreshCosts (w : World) (id j : LeaseId) :
    (World.refreshCosts cfg.manager w id usage).lease? j =
      if j = id then
        (w.lease? id).map fun t =>
          match usage with
          | some usage =>
              if 0 < usage.promptTokens then t.updateCostEstimates cfg.manager usage else t
          | none => t
      else w.lease? j := by
  unfold World.refreshCosts
  cases usage with
  | none => exact lease?_unchanged w id j
  | some usage =>
      dsimp only
      split
      · exact lease?_applyTo w id j _
      · exact lease?_unchanged w id j

theorem lease?_observeRoute (w : World) (id j : LeaseId) :
    (w.observeRoute id routeHash).lease? j =
      if j = id then
        (w.lease? id).map fun t =>
          match routeHash with
          | some routeHash => t.reconcileRoute routeHash
          | none => t
      else w.lease? j := by
  unfold World.observeRoute
  cases routeHash with
  | none => exact lease?_unchanged w id j
  | some hash => exact lease?_applyTo w id j _

theorem index_refreshCosts (w : World) (id : LeaseId) :
    (World.refreshCosts cfg.manager w id usage).manager.byCacheFingerprint =
      w.manager.byCacheFingerprint := by
  unfold World.refreshCosts
  split
  · split
    · exact index_applyTo w id _
    · rfl
  · rfl

theorem index_observeRoute (w : World) (id : LeaseId) :
    (w.observeRoute id routeHash).manager.byCacheFingerprint =
      w.manager.byCacheFingerprint := by
  unfold World.observeRoute
  split
  · exact index_applyTo w id _
  · rfl

/-- The end of a request writes its own lease and leaves the index alone. -/
theorem onRequestEnd_frame (enabled : cfg.enabled = true) :
    (∀ j, (c.onRequestEnd cfg ctx outcome usage routeHash answer).world.lease? j =
      if j = ctx.leaseId then
        (c.world.lease? ctx.leaseId).map
          (ended cfg.manager c.world.clock outcome usage routeHash answer)
      else c.world.lease? j) ∧
    (c.onRequestEnd cfg ctx outcome usage routeHash answer).world.manager.byCacheFingerprint =
      c.world.manager.byCacheFingerprint ∧
    (c.onRequestEnd cfg ctx outcome usage routeHash answer).targetIds = c.targetIds := by
  have lookup : ∀ j,
      ((World.observeRoute (World.refreshCosts cfg.manager
        (c.world.applyTo ctx.leaseId (TrackedLease.afterNormalRequest c.world.clock outcome))
        ctx.leaseId usage) ctx.leaseId routeHash).applyTo ctx.leaseId
          (TrackedLease.refreshTtl answer)).lease? j =
        if j = ctx.leaseId then
          (c.world.lease? ctx.leaseId).map
            (ended cfg.manager c.world.clock outcome usage routeHash answer)
        else c.world.lease? j := by
    intro j
    simp only [lease?_applyTo, lease?_observeRoute, lease?_refreshCosts, if_true, Option.map_map]
    split <;> rfl
  have index :
      ((World.observeRoute (World.refreshCosts cfg.manager
        (c.world.applyTo ctx.leaseId (TrackedLease.afterNormalRequest c.world.clock outcome))
        ctx.leaseId usage) ctx.leaseId routeHash).applyTo ctx.leaseId
          (TrackedLease.refreshTtl answer)).manager.byCacheFingerprint =
        c.world.manager.byCacheFingerprint := by
    rw [index_applyTo, index_observeRoute, index_refreshCosts, index_applyTo]
  unfold LeaseController.onRequestEnd
  rw [enabled]
  dsimp only
  split
  · rename_i off
    cases off
  split
  · split
    · exact ⟨lookup, index, rfl⟩
    · exact ⟨lookup, index, rfl⟩
  · exact ⟨lookup, index, rfl⟩

end OnRequestEnd

/-! ### Relay runs keep the targets in step -/

theorem synced_onRequestStart {cfg : ControllerConfig} {c : LeaseController}
    (request : StartRequest) (synced : Synced c) : Synced (c.onRequestStart cfg request).1 := by
  have begun := onRequestStart_cases cfg c request
  generalize c.onRequestStart cfg request = result at begun
  cases begun with
  | untracked => exact synced
  | raised called =>
      intro id
      obtain ⟨count, current, active⟩ := synced id
      exact ⟨count, current, (targetsOf_called called id).trans active⟩
  | @started manager id enabled called =>
      obtain ⟨-, t, known, -⟩ := registered_of_called called
      have here : World.lease? { c.world with manager } id = some t := known
      apply synced_startRealRequest (c := { c with world := { c.world with manager } }) request here
      intro id
      obtain ⟨count, current, active⟩ := synced id
      exact ⟨count, current, (targetsOf_called called id).trans active⟩

theorem synced_onRequestEnd {cfg : ControllerConfig} {c : LeaseController}
    (ctx : LeaseRequestContext) (outcome : Outcome) (usage : Option TokenUsage)
    (routeHash : Option String) (answer : ResolverAnswer) (synced : Synced c) :
    Synced (c.onRequestEnd cfg ctx outcome usage routeHash answer) := by
  cases enabled : cfg.enabled with
  | false =>
      unfold LeaseController.onRequestEnd
      rw [enabled]
      exact synced
  | true =>
      obtain ⟨lookup, -, ids⟩ :=
        onRequestEnd_frame cfg c ctx outcome usage routeHash answer enabled
      intro id
      obtain ⟨count, current, active⟩ := synced id
      refine ⟨count, ?_, ?_⟩
      · unfold LeaseController.currentTargets
        rw [ids]
        exact current
      · rw [← active]
        unfold World.targetsOf
        rw [lookup id]
        by_cases own : id = ctx.leaseId
        · rw [if_pos own, own, Option.map_map]
          apply congrArg (fun targets => Option.getD targets ∅)
          apply congrArg (fun g => Option.map g (c.world.lease? ctx.leaseId))
          funext t
          exact (ended_frame cfg.manager c.world.clock outcome usage routeHash answer t).2.2.1
        · rw [if_neg own]

theorem synced_relayStep {cfg : ControllerConfig} {r r' : Relay} {a : RelayAction}
    (stepped : relayStep cfg r a = some r') (synced : Synced r.controller) :
    Synced r'.controller := by
  cases a with
  | requestStart request =>
      cases stepped
      exact synced_onRequestStart request synced
  | requestEnd ctx outcome usage routeHash answer =>
      unfold relayStep at stepped
      dsimp only at stepped
      split at stepped
      · cases stepped
        exact synced_onRequestEnd ctx outcome usage routeHash answer synced
      · cases stepped
  | scheduler b =>
      unfold relayStep at stepped
      dsimp only at stepped
      split at stepped
      · rename_i scheduled
        obtain ⟨world, moved, same⟩ := Option.map_eq_some_iff.1 stepped
        subst same
        intro id
        obtain ⟨count, current, active⟩ := synced id
        refine ⟨count, current, ?_⟩
        rw [← active]
        exact targetsOf_step moved (fun _ _ => scheduler_no_operation scheduled) id
      · cases stepped

/-- In every state that a relay run reaches, the controller knows the targets of every lease. -/
theorem relay_run_synced {cfg : ControllerConfig} {start r : Relay} {acts : List RelayAction}
    (initial : start.Initial) (run : Execution.exec (relayStep cfg) start acts = some r) :
    Synced r.controller := by
  apply Execution.invariant (I := fun u => Synced u.controller) _ _ run
  · obtain ⟨⟨manager, -⟩, ids, -⟩ := initial
    intro id
    refine ⟨0, ?_, ?_⟩
    · unfold LeaseController.currentTargets
      rw [ids]
      rfl
    · unfold World.targetsOf World.lease?
      rw [manager]
      rfl
  · intro u a v stepped synced
    exact synced_relayStep stepped synced

/-! ### One exchange -/

/-- A request with targets is being served on the lease registered for its identity; `valid` says whether
    that lease is live. -/
structure World.Serves (w : World) (identity : LeaseIdentity) (id : LeaseId) (valid : Prop) :
    Prop where
  found : w.manager.findExisting identity = some id
  serving : ∃ t, w.lease? id = some t ∧ t.runtime.realRequestActive = true ∧
    t.lease.activeTargets ≠ ∅ ∧ (t.lease.state ≠ .invalidated ↔ valid)

/-- Steps that keep the index and the lease's session keep the lease registered. -/
theorem findExisting_kept {w w' : World} {identity : LeaseIdentity} {id : LeaseId}
    {t t' : TrackedLease} (found : w.manager.findExisting identity = some id)
    (index : w'.manager.byCacheFingerprint = w.manager.byCacheFingerprint)
    (known : w.lease? id = some t) (known' : w'.lease? id = some t')
    (session : t'.lease.sessionId = t.lease.sessionId) :
    w'.manager.findExisting identity = some id := by
  obtain ⟨entry, x, tracked, owned⟩ := findExisting_eq_some_iff.1 found
  rw [known] at tracked
  cases tracked
  apply findExisting_eq_some_iff.2
  rw [index]
  exact ⟨entry, t', known', session.trans owned⟩

theorem reconciled_identity (cfg : ControllerConfig) (current : List String) (count : ℕ)
    (t : TrackedLease) :
    (reconciled cfg current count t).lease.toLeaseIdentity = t.lease.toLeaseIdentity := by
  have finished : ∀ targets u, (finishTargets targets u).lease.toLeaseIdentity =
      u.lease.toLeaseIdentity := by
    intro targets u
    apply List.foldlRecOn targets (motive := fun x : TrackedLease =>
      x.lease.toLeaseIdentity = u.lease.toLeaseIdentity)
    · rfl
    · intro x same target listed
      rcases eq_or_ne target "" with rfl | named
      · exact same
      · rw [TrackedLease.targetFinished_named named]
        exact same
  have started : ∀ targets u, (startTargets targets u).lease.toLeaseIdentity =
      u.lease.toLeaseIdentity := by
    intro targets u
    apply List.foldlRecOn targets (motive := fun x : TrackedLease =>
      x.lease.toLeaseIdentity = u.lease.toLeaseIdentity)
    · rfl
    · intro x same target listed
      rcases eq_or_ne target "" with rfl | named
      · exact same
      · rw [TrackedLease.targetStarted_named named]
        exact same
  unfold reconciled
  rw [started, finished]

/-- A request with targets that starts is served, on a live lease exactly when the registry had no dead one
    for its identity. -/
theorem serves_of_started {cfg : ControllerConfig} {c : LeaseController} {request : StartRequest}
    {ctx : LeaseRequestContext} (synced : Synced c) (positive : 1 ≤ request.targetsCount)
    (tracked : (c.onRequestStart cfg request).2 = some ctx) :
    cfg.enabled = true ∧ (c.onRequestStart cfg request).1.world.Serves request.identity ctx.leaseId
      (∀ x ∈ c.world.registered request.identity, x.lease.state ≠ .invalidated) := by
  have begun := onRequestStart_cases cfg c request
  generalize c.onRequestStart cfg request = result at begun tracked
  cases begun with
  | untracked => cases tracked
  | raised called => cases tracked
  | @started manager id enabled called =>
      cases tracked
      refine ⟨enabled, ?_⟩
      obtain ⟨found, t, known, valid⟩ := registered_of_called called
      have here : World.lease? { c.world with manager } id = some t := known
      have listed : id ∈ manager.leases.keys := Dict.mem_keys_iff.2 ⟨t, known⟩
      obtain ⟨count, current, active⟩ := synced id
      have owned : t.lease.activeTargets = (backgroundTargets count).toFinset := by
        rw [← active, ← targetsOf_called called id, targetsOf_eq here]
      have after := lease?_startRealRequest cfg { c with world := { c.world with manager } } id id
        request
      rw [if_pos rfl, currentTargets_pruneTargetIds, if_pos listed] at after
      change _ = ((World.lease? { c.world with manager } id).map fun t =>
        (reconciled cfg (c.currentTargets id) request.targetsCount t).beforeNormalRequest
          c.world.clock) at after
      rw [here, current] at after
      constructor
      · apply findExisting_kept (w := { c.world with manager }) found _ here after
        · change (reconciled cfg _ _ t).lease.sessionId = _
          exact congrArg LeaseIdentity.sessionId (reconciled_identity cfg _ _ t)
        · exact index_startRealRequest cfg { c with world := { c.world with manager } } id request
      · refine ⟨_, after, rfl, ?_, ?_⟩
        · change (reconciled cfg _ _ t).lease.activeTargets ≠ ∅
          rw [reconciled_activeTargets owned]
          exact Finset.ne_empty_of_mem
            (List.mem_toFinset.2 (first_mem_backgroundTargets positive))
        · change (reconciled cfg _ _ t).lease.state ≠ .invalidated ↔ _
          rw [ne_eq, reconciled_invalid_iff owned positive, ← valid]

/-- The index changes only when the registry creates a lease. -/
theorem step_index {cfg : ManagerConfig} {w w' : World} {a : Action}
    (stepped : step cfg w a = some w') (scheduled : a.isScheduler = true) :
    w'.manager.byCacheFingerprint = w.manager.byCacheFingerprint := by
  cases step_cases stepped with
  | created missing resolved => cases scheduled
  | _ => rfl

/-- While a request is served, the scheduler cannot change whether its lease is live: the lease is busy, so
    nothing is evaluated or sent for it, and a warm in flight ends without reviving it. -/
theorem LeaseEffect.served {cfg : ManagerConfig} {w : World} {id : LeaseId} {a : Action}
    {t t' : TrackedLease} (effect : LeaseEffect cfg w id t a t') (scheduled : a.isScheduler = true)
    (busy : t.runtime.realRequestActive = true) :
    t'.runtime.realRequestActive = true ∧ t'.lease.activeTargets = t.lease.activeTargets ∧
      (t'.lease.state = .invalidated ↔ t.lease.state = .invalidated) := by
  cases effect with
  | other elsewhere registry => exact ⟨busy, rfl, Iff.rfl⟩
  | kept keeps => cases scheduled
  | superseded missing switched => cases scheduled
  | operated operation => exact absurd operation (scheduler_no_operation scheduled)
  | decided here ready queued runs =>
      cases evaluated_of_runs runs with
      | stopped decision other => exact ⟨busy, rfl, Iff.rfl⟩
      | scheduled guards =>
          rw [guards.idle] at busy
          cases busy
      | uneconomic guards =>
          rw [guards.idle] at busy
          cases busy
      | stale guards =>
          rw [guards.idle] at busy
          cases busy
  | authorised here ready queued authorised =>
      rw [authorised.idle] at busy
      cases busy
  | sentAtOnce here ready queued authorised passed =>
      rw [authorised.idle] at busy
      cases busy
  | refusedAtLock here waiting refused => exact ⟨busy, rfl, Iff.rfl⟩
  | sentAtLock here waiting passed =>
      rw [(underLock_eq_ok_iff.1 passed).1.idle] at busy
      cases busy
  | returned here inside =>
      refine ⟨?_, finishWarm_targets _ _ t, ?_⟩
      · rw [finishWarm_busy, busy]
      · rw [finishWarm_state]
        split
        · rename_i dead
          simp [dead]
        · rename_i alive
          simp [alive]
  | cancelledWarm here inside =>
      refine ⟨(Bookkeeping.endWarm t).busy.trans busy, (Bookkeeping.endWarm t).targets, ?_⟩
      rw [endWarm, CacheLease.arm_eq]
      dsimp only
      split
      · rename_i dead
        simp [dead]
      · rename_i alive
        simp [alive]

theorem serves_scheduler {cfg : ManagerConfig} {w w' : World} {a : Action}
    {identity : LeaseIdentity} {id : LeaseId} {valid : Prop} (stepped : step cfg w a = some w')
    (scheduled : a.isScheduler = true) (serves : w.Serves identity id valid) :
    w'.Serves identity id valid := by
  obtain ⟨found, t, known, busy, targets, state⟩ := serves
  obtain ⟨t', known', effect⟩ := step_effect stepped known
  obtain ⟨busy', targets', state'⟩ := effect.served scheduled busy
  constructor
  · exact findExisting_kept found (step_index stepped scheduled) known known'
      effect.change.sameLease.session
  · refine ⟨t', known', busy', ?_, ?_⟩
    · rw [targets']
      exact targets
    · rw [ne_eq, state']
      exact state

/-- The relay action belongs to the scheduler or the clock. -/
def RelayAction.isScheduler : RelayAction → Bool
  | .scheduler _ => true
  | _ => false

theorem serves_during {cfg : ControllerConfig} {v x : Relay} {during : List RelayAction}
    {identity : LeaseIdentity} {id : LeaseId} {valid : Prop}
    (quiet : ∀ a ∈ during, a.isScheduler = true)
    (run : Execution.exec (relayStep cfg) v during = some x)
    (serves : v.controller.world.Serves identity id valid) :
    x.controller.world.Serves identity id valid := by
  apply Execution.history_invariant
    (R := fun _ u => u.controller.world.Serves identity id valid) serves _ run
  intro before a after u y split reached stepped served
  have scheduled : a.isScheduler = true := by
    apply quiet
    simp [split]
  cases a with
  | scheduler b =>
      unfold relayStep at stepped
      dsimp only at stepped
      split at stepped
      · rename_i inner
        obtain ⟨world, moved, same⟩ := Option.map_eq_some_iff.1 stepped
        subst same
        exact serves_scheduler moved inner served
      · cases stepped
  | _ => cases scheduled

/-- A served request that ends with a verified touch arms its lease now exactly when the lease is live. -/
theorem rearmed_of_serves {cfg : ControllerConfig} {c : LeaseController}
    {identity : LeaseIdentity} {ctx : LeaseRequestContext} {valid : Prop} {outcome : Outcome}
    (usage : Option TokenUsage) (routeHash : Option String) (answer : ResolverAnswer)
    (enabled : cfg.enabled = true) (serves : c.world.Serves identity ctx.leaseId valid)
    (verified : outcome.isVerified = true) :
    (∃ t ∈ (c.onRequestEnd cfg ctx outcome usage routeHash answer).world.registered identity,
      t.lease.state = .armed ∧ t.lease.lastCacheTouchAt = some c.world.clock) ↔ valid := by
  obtain ⟨lookup, index, -⟩ := onRequestEnd_frame cfg c ctx outcome usage routeHash answer enabled
  obtain ⟨found, t, known, busy, targets, state⟩ := serves
  have after := lookup ctx.leaseId
  rw [if_pos rfl, known] at after
  obtain ⟨armed, touched, -, session⟩ :=
    ended_frame cfg.manager c.world.clock outcome usage routeHash answer t
  have registered := registered_eq (findExisting_kept found index known after session) after
  have answered : outcome ≠ .failed := by
    intro failed
    rw [failed] at verified
    cases verified
  rw [registered, ← state]
  simp only [Option.mem_def, Option.some.injEq, exists_eq_left', armed, touched]
  constructor
  · rintro ⟨alive, _⟩ dead
    rw [TrackedLease.afterNormalRequest_of_unrefreshed (Or.inl dead)] at alive
    change t.lease.state = .armed at alive
    rw [dead] at alive
    cases alive
  · intro valid
    rw [TrackedLease.afterNormalRequest_of_refreshed valid answered]
    exact ⟨if_neg targets, rfl⟩

/-- Returning to a cache identity. In every run of the relay, a request with targets that ends with a
    verified touch, with only the scheduler between its start and its end, leaves the lease registered
    for its identity ARMED and touched at that moment exactly when the registry held no dead lease for the
    identity before the request started. -/
theorem rearmed_iff_not_dead {cfg : ControllerConfig} {start u v x y : Relay}
    {before during : List RelayAction} {request : StartRequest} {ctx : LeaseRequestContext}
    {outcome : Outcome} {usage : Option TokenUsage} {routeHash : Option String}
    {answer : ResolverAnswer} (initial : start.Initial)
    (run : Execution.exec (relayStep cfg) start before = some u)
    (starts : relayStep cfg u (.requestStart request) = some v)
    (tracked : (u.controller.onRequestStart cfg request).2 = some ctx)
    (positive : 1 ≤ request.targetsCount) (quiet : ∀ a ∈ during, a.isScheduler = true)
    (served : Execution.exec (relayStep cfg) v during = some x)
    (ends : relayStep cfg x (.requestEnd ctx outcome usage routeHash answer) = some y)
    (verified : outcome.isVerified = true) :
    (∃ t ∈ y.controller.world.registered request.identity,
      t.lease.state = .armed ∧ t.lease.lastCacheTouchAt = some x.controller.world.clock) ↔
    ∀ t ∈ u.controller.world.registered request.identity, t.lease.state ≠ .invalidated := by
  cases starts
  obtain ⟨enabled, begun⟩ := serves_of_started (relay_run_synced initial run) positive tracked
  have serving := serves_during quiet served begun
  unfold relayStep at ends
  dsimp only at ends
  split at ends
  · cases ends
    exact rearmed_of_serves usage routeHash answer enabled serving verified
  · cases ends

def sampleRelayConfig : ControllerConfig := { manager := sampleConfig }

/-- A request of the session for a cache identity, with one background target. -/
def sampleRequest (cacheFingerprint : String) : StartRequest :=
  { identity := sampleIdentity "s" cacheFingerprint, targetsCount := 1 }

/-- Its end, with a confirmed hit. -/
def sampleEnd (id : LeaseId) : RelayAction :=
  .requestEnd { leaseId := id, targetsCount := 1 } .confirmedHit none none .noResolver

/-- The relay state that a list of actions reaches. -/
def sampleRelayAt (acts : List RelayAction) : Relay :=
  Execution.final (relayStep sampleRelayConfig) {} acts

/-- The session has served a request for one identity and starts another one. -/
def sampleSwitch : List RelayAction := [.requestStart (sampleRequest "a"), sampleEnd 0]

theorem exec_sampleRelayAt {acts : List RelayAction}
    (runs : (Execution.exec (relayStep sampleRelayConfig) {} acts).isSome = true) :
    Execution.exec (relayStep sampleRelayConfig) {} acts = some (sampleRelayAt acts) :=
  Execution.exec_eq_final runs

/-- A switch from one identity to another arms the lease of the second. -/
theorem rearmed_iff_not_dead_sample :
    ∃ t ∈ (sampleRelayAt (sampleSwitch ++ [.requestStart (sampleRequest "b")] ++
        [sampleEnd 1])).controller.world.registered (sampleIdentity "s" "b"),
      t.lease.state = .armed ∧ t.lease.lastCacheTouchAt = some 0 := by
  have initial : Relay.Initial {} := ⟨World.initial_empty, rfl, rfl⟩
  have run : Execution.exec (relayStep sampleRelayConfig) {} sampleSwitch =
      some (sampleRelayAt sampleSwitch) := exec_sampleRelayAt (by decide +kernel)
  have starts : relayStep sampleRelayConfig (sampleRelayAt sampleSwitch)
      (.requestStart (sampleRequest "b")) =
        some (sampleRelayAt (sampleSwitch ++ [.requestStart (sampleRequest "b")])) :=
    Execution.step_final (by decide +kernel)
  have ends : relayStep sampleRelayConfig
      (sampleRelayAt (sampleSwitch ++ [.requestStart (sampleRequest "b")])) (sampleEnd 1) =
        some (sampleRelayAt (sampleSwitch ++ [.requestStart (sampleRequest "b")] ++
          [sampleEnd 1])) :=
    Execution.step_final (by decide +kernel)
  exact (rearmed_iff_not_dead initial run starts (by decide +kernel) (by decide)
    (List.forall_mem_nil _) rfl ends rfl).2 (by decide +kernel)

/-- The session goes from one identity to another and back. -/
def sampleReturn : List RelayAction :=
  [.requestStart (sampleRequest "a"), sampleEnd 0, .requestStart (sampleRequest "b"), sampleEnd 1,
    .scheduler (.setClock 100), .requestStart (sampleRequest "a"), sampleEnd 0]

/-- The request that returns to the first identity ends with a confirmed hit, and the lease registered for
    it is still the dead one, with its old touch. -/
theorem returned_identity_stays_dead :
    (Execution.exec (relayStep sampleRelayConfig) {} sampleReturn).map (fun r =>
      (r.controller.world.clock,
        (r.controller.world.registered (sampleIdentity "s" "a")).map fun t =>
          (t.lease.state, t.lease.lastCacheTouchAt))) =
      some (100, some (.invalidated, some 0)) := by
  decide +kernel

/-- The switch invalidates the first lease. -/
example :
    (Execution.exec (relayStep sampleRelayConfig) {} (sampleSwitch ++ [.requestStart (sampleRequest "b")])).map
      (fun r => (r.controller.world.registered (sampleIdentity "s" "a")).map fun t => t.lease.state) =
      some (some .invalidated) := by
  decide +kernel

end CachePilot
