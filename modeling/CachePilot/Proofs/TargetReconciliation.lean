/-
Module: CachePilot.Proofs.TargetReconciliation
Layer: Proofs
Purpose: The targets of a lease and the header counts. As long as no warm is ever sent, a lease that is not dead
  rests exactly when it has no target, its targets are the synthetic ids of the last header count, and going from one
  positive count to another never disarms it, at no point of the reconciliation either.
Trusted boundary: none
Main exports: TargetCall, targetCalls, StateFollows, World.Grounded, lastCount, FollowsCount,
  dry_run_targets_follow_counts
-/
import CachePilot.Proofs.IdentitySwitch

namespace CachePilot

/-! ### A reconciliation, call by call -/

/-- A call of the manager while the targets of a lease are reconciled. -/
inductive TargetCall where
  | finished (targetId : String)
  | started (targetId : String)

/-- What a call does to the lease. -/
def TargetCall.apply : TargetCall → TrackedLease → TrackedLease
  | .finished targetId => TrackedLease.targetFinished targetId
  | .started targetId => TrackedLease.targetStarted targetId

/-- The calls of a reconciliation, in their order. -/
def targetCalls (cfg : ControllerConfig) (current : List String) (count : ℕ) : List TargetCall :=
  (cfg.iterationOrder (current.filter fun target => target ∉ backgroundTargets count)).map .finished ++
    (cfg.iterationOrder ((backgroundTargets count).filter fun target => target ∉ current)).map .started

/-- The world after some calls on one lease. -/
def World.afterCalls (w : World) (id : LeaseId) (calls : List TargetCall) : World :=
  calls.foldl (fun w call => w.applyTo id call.apply) w

/-- A reconciliation is its calls. -/
theorem syncTargets_afterCalls (cfg : ControllerConfig) (c : LeaseController) (id : LeaseId) (count : ℕ) :
    (c.syncTargets cfg id count).world =
      c.world.afterCalls id (targetCalls cfg (c.currentTargets id) count) := by
  unfold World.afterCalls targetCalls
  rw [List.foldl_append, List.foldl_map, List.foldl_map]
  rfl

theorem reconciled_eq_calls (cfg : ControllerConfig) (current : List String) (count : ℕ) (t : TrackedLease) :
    reconciled cfg current count t = (targetCalls cfg current count).foldl (fun t call => call.apply t) t := by
  unfold targetCalls
  rw [List.foldl_append, List.foldl_map, List.foldl_map]
  rfl

/-- A target of both counts stays while the others are reconciled. -/
theorem target_kept_by_calls {cfg : ControllerConfig} {current : List String} {count : ℕ} {kept : String}
    (wanted : kept ∈ backgroundTargets count) {done : List TargetCall} (part : done <+: targetCalls cfg current count)
    {t : TrackedLease} (active : kept ∈ t.lease.activeTargets) (running : t.lease.state ≠ .inactive) :
    kept ∈ (done.foldl (fun t call => call.apply t) t).lease.activeTargets ∧
      (done.foldl (fun t call => call.apply t) t).lease.state ≠ .inactive := by
  apply List.foldlRecOn done (motive := fun u : TrackedLease =>
    kept ∈ u.lease.activeTargets ∧ u.lease.state ≠ .inactive)
  · exact ⟨active, running⟩
  · rintro u ⟨present, runs⟩ call listed
    have called := part.subset listed
    cases call with
    | finished target =>
        have gone : target ∉ backgroundTargets count := by
          unfold targetCalls at called
          simp only [List.mem_append, List.mem_map, TargetCall.finished.injEq, exists_eq_right, reduceCtorEq,
            and_false, exists_false, or_false] at called
          rw [(cfg.iterationOrder_perm _).mem_iff, List.mem_filter] at called
          exact of_decide_eq_true called.2
        rcases eq_or_ne target "" with rfl | named
        · exact ⟨present, runs⟩
        · have different : kept ≠ target := by
            intro same
            rw [same] at wanted
            exact gone wanted
          have remains : kept ∈ u.lease.activeTargets.erase target := Finset.mem_erase.mpr ⟨different, present⟩
          rw [TargetCall.apply, TrackedLease.targetFinished_named named]
          refine ⟨remains, ?_⟩
          rw [if_neg (Finset.ne_empty_of_mem remains)]
          exact runs
    | started target =>
        rcases eq_or_ne target "" with rfl | named
        · exact ⟨present, runs⟩
        · rw [TargetCall.apply, TrackedLease.targetStarted_named named]
          refine ⟨Finset.mem_insert_of_mem present, ?_⟩
          dsimp only
          split
          · exact LeaseState.noConfusion
          · exact runs

/-! ### The state follows the targets -/

/-- A lease that is not dead rests exactly when it has no target. -/
def StateFollows (t : TrackedLease) : Prop :=
  t.lease.state ≠ .invalidated → (t.lease.state = .inactive ↔ t.lease.activeTargets = ∅)

namespace StateFollows

variable {t : TrackedLease}

/-- It reads the state and the targets. -/
theorem congr {u : TrackedLease} (follows : StateFollows t) (state : u.lease.state = t.lease.state)
    (targets : u.lease.activeTargets = t.lease.activeTargets) : StateFollows u := by
  unfold StateFollows
  rw [state, targets]
  exact follows

/-- A lease with targets that is awake. -/
theorem of_targets (running : t.lease.state ≠ .inactive) (targets : t.lease.activeTargets ≠ ∅) : StateFollows t :=
  fun _ => ⟨fun rests => absurd rests running, fun empty => absurd empty targets⟩

theorem targetFinished (follows : StateFollows t) (targetId : String) :
    StateFollows (t.targetFinished targetId) := by
  rcases eq_or_ne targetId "" with rfl | named
  · exact follows
  · rw [TrackedLease.targetFinished_named named]
    by_cases last : t.lease.activeTargets.erase targetId = ∅
    · intro valid
      simp [last]
    · intro valid
      dsimp only at valid ⊢
      rw [if_neg last] at valid ⊢
      have several : t.lease.activeTargets ≠ ∅ := by
        intro none
        rw [none] at last
        exact last rfl
      exact iff_of_false (fun rests => several ((follows valid).mp rests)) last

theorem targetStarted (follows : StateFollows t) (targetId : String) :
    StateFollows (t.targetStarted targetId) := by
  rcases eq_or_ne targetId "" with rfl | named
  · exact follows
  · rw [TrackedLease.targetStarted_named named]
    have some : insert targetId t.lease.activeTargets ≠ ∅ := Finset.insert_ne_empty _ _
    intro valid
    dsimp only at valid ⊢
    refine iff_of_false ?_ some
    split at valid
    · next armed =>
        rw [if_pos armed]
        exact LeaseState.noConfusion
    · next others =>
        rw [if_neg others]
        intro rests
        -- a resting lease has no target, so the one that starts is the only one
        have none := (follows valid).mp rests
        rw [none] at others
        exact others ⟨Finset.card_singleton targetId, valid⟩

theorem reconciled (follows : StateFollows t) (cfg : ControllerConfig) (current : List String) (count : ℕ) :
    StateFollows (reconciled cfg current count t) := by
  rw [reconciled_eq_calls]
  apply List.foldlRecOn _ (motive := StateFollows)
  · exact follows
  · intro u before call listed
    cases call with
    | finished target => exact before.targetFinished target
    | started target => exact before.targetStarted target

theorem afterNormalRequest (follows : StateFollows t) (now : ℚ) (outcome : Outcome) :
    StateFollows (t.afterNormalRequest now outcome) := by
  rcases TrackedLease.afterNormalRequest_cases now outcome t with ⟨-, same⟩ | ⟨-, same⟩
  · rw [same]
    exact follows.congr rfl rfl
  · rw [same]
    intro valid
    unfold TrackedLease.refreshed
    dsimp only
    split
    · next none => exact iff_of_true rfl none
    · next some => exact iff_of_false LeaseState.noConfusion some

/-- An evaluation up to the lock keeps a lease with targets awake. -/
theorem evaluated {cfg : ManagerConfig} {now : ℚ} {t' : TrackedLease} {e : Evaluation} (follows : StateFollows t)
    (ends : Evaluated cfg now t t' e) : StateFollows t' := by
  cases ends with
  | stopped decision other => exact follows
  | scheduled guards =>
      refine of_targets ?_ ?_
      · have running : t.lease.state ≠ .inactive := fun rests => guards.targets ((follows guards.valid).mp rests)
        unfold schedule
        dsimp only
        split
        · exact running
        · exact LeaseState.noConfusion
      · rw [(Bookkeeping.schedule t).targets]
        exact guards.targets
  | uneconomic guards =>
      refine of_targets LeaseState.noConfusion ?_
      rw [(Bookkeeping.stopEconomically cfg t).targets]
      exact guards.targets
  | stale guards => exact follows.congr (consumeSchedule_state cfg t) (Bookkeeping.consumeSchedule cfg t).targets
  | goes g authorised =>
      exact follows.congr (consumeSchedule_state cfg t) (Bookkeeping.consumeSchedule cfg t).targets

end StateFollows

/-! ### The scheduler in a dry run -/

/-- No task has a warm in flight. -/
def World.Grounded (w : World) : Prop := ∀ tid id, w.inFlight tid ≠ some id

/-- A dry run sends no warm. -/
theorem step_grounded {cfg : ManagerConfig} (dry : cfg.settings.dryRun = true) {w w' : World} {a : Action}
    (stepped : step cfg w a = some w') (grounded : w.Grounded) : w'.Grounded := by
  intro tid id flying
  rcases inFlight_or_sent w' flying with before | sent
  · exact grounded tid id before
  · obtain ⟨-, t, fp, g, known, sends, cleared⟩ := warmSent_sends stepped sent
    rw [cleared.live] at dry
    cases dry

theorem reachable_grounded {cfg : ManagerConfig} (dry : cfg.settings.dryRun = true) {w : World}
    (reachable : Reachable cfg w) : w.Grounded := by
  obtain ⟨start, acts, ⟨-, tasks⟩, run⟩ := reachable
  apply Execution.invariant (I := World.Grounded) _ _ run
  · intro tid id flying
    obtain ⟨task, fp, snapshot, here, -⟩ := World.inside_of_inFlight flying
    rw [World.task?, tasks] at here
    cases here
  · intro u a v stepped grounded
    exact step_grounded dry stepped grounded

/-- What a step other than an operation does to a lease of a dry run keeps its state in step with its targets. -/
theorem LeaseEffect.stateFollows {cfg : ManagerConfig} (dry : cfg.settings.dryRun = true) {w : World} {id : LeaseId}
    {a : Action} {t t' : TrackedLease} (effect : LeaseEffect cfg w id t a t') (grounded : w.Grounded)
    (quiet : ∀ f, ¬ Operation cfg w.clock id a f) (follows : StateFollows t) : StateFollows t' := by
  cases effect with
  | other elsewhere registry => exact follows
  | kept keeps => exact follows
  | superseded missing switched => exact fun valid => absurd rfl valid
  | operated operation => exact absurd operation (quiet _)
  | decided here ready queued runs => exact follows.evaluated (evaluated_of_runs runs)
  | authorised here ready queued authorised =>
      exact follows.congr (consumeSchedule_state cfg t) (Bookkeeping.consumeSchedule cfg t).targets
  | sentAtOnce here ready queued authorised passed =>
      have live := (underLock_eq_ok_iff.mp passed).1.live
      rw [dry] at live
      cases live
  | refusedAtLock here waiting refused => exact follows
  | sentAtLock here waiting passed =>
      have live := (underLock_eq_ok_iff.mp passed).1.live
      rw [dry] at live
      cases live
  | returned here inside => exact absurd (World.inFlight_of_inside here inside) (grounded _ id)
  | cancelledWarm here inside => exact absurd (World.inFlight_of_inside here inside) (grounded _ id)

/-- The state of every lease follows its targets. -/
def World.StatesFollow (w : World) : Prop := ∀ id, ∀ t ∈ w.lease? id, StateFollows t

theorem statesFollow_step {cfg : ManagerConfig} (dry : cfg.settings.dryRun = true) {w w' : World} {a : Action}
    (stepped : step cfg w a = some w') (grounded : w.Grounded) (quiet : ∀ id f, ¬ Operation cfg w.clock id a f)
    (follow : w.StatesFollow) : w'.StatesFollow := by
  intro id t' known'
  cases known : w.lease? id with
  | some t =>
      obtain ⟨u, tracked, effect⟩ := step_effect stepped known
      rw [Option.mem_def, tracked] at known'
      cases known'
      exact effect.stateFollows dry grounded (quiet id) (follow id t known)
  | none =>
      obtain ⟨identity, ttl, confidence, answer, ttlS, c, -, -, -, new⟩ := step_creates stepped known known'
      rw [new]
      exact fun valid => iff_of_true rfl rfl

/-! ### The relay in a dry run -/

theorem statesFollow_startRealRequest {cfg : ControllerConfig} {c : LeaseController} (id : LeaseId)
    (request : StartRequest) (follow : c.world.StatesFollow) :
    (c.startRealRequest cfg id request).world.StatesFollow := by
  intro j t' known'
  rw [Option.mem_def, lease?_startRealRequest] at known'
  split at known'
  · obtain ⟨t, known, rfl⟩ := Option.map_eq_some_iff.mp known'
    have reconciled := (follow id t known).reconciled cfg (c.pruneTargetIds.currentTargets id) request.targetsCount
    exact reconciled.congr rfl rfl
  · exact follow j t' known'

theorem statesFollow_onRequestStart {cfg : ControllerConfig} (dry : cfg.manager.settings.dryRun = true)
    {c : LeaseController} (request : StartRequest) (grounded : c.world.Grounded) (follow : c.world.StatesFollow) :
    (c.onRequestStart cfg request).1.world.StatesFollow := by
  have called : ∀ {manager : LeaseManager} {found : Option LeaseId},
      c.world.manager.findOrCreateLease cfg.manager request.identity none (1 / 2) request.answer = (manager, found) →
        World.StatesFollow { c.world with manager } := by
    intro manager found called
    apply statesFollow_step dry (step_of_called called) grounded _ follow
    intro id f operation
    cases operation
  have begun := onRequestStart_cases cfg c request
  generalize c.onRequestStart cfg request = result at begun
  cases begun with
  | untracked => exact follow
  | raised found => exact called found
  | started enabled found => exact statesFollow_startRealRequest _ request (called found)

theorem statesFollow_onRequestEnd {cfg : ControllerConfig} {c : LeaseController} (ctx : LeaseRequestContext)
    (outcome : Outcome) (usage : Option TokenUsage) (routeHash : Option String) (answer : ResolverAnswer)
    (follow : c.world.StatesFollow) :
    (c.onRequestEnd cfg ctx outcome usage routeHash answer).world.StatesFollow := by
  cases enabled : cfg.enabled with
  | false =>
      unfold LeaseController.onRequestEnd
      rw [enabled]
      exact follow
  | true =>
      obtain ⟨lookup, -, -⟩ := onRequestEnd_frame cfg c ctx outcome usage routeHash answer enabled
      intro j t' known'
      rw [Option.mem_def, lookup] at known'
      split at known'
      · obtain ⟨t, known, rfl⟩ := Option.map_eq_some_iff.mp known'
        obtain ⟨state, -, targets, -⟩ := ended_frame cfg.manager c.world.clock outcome usage routeHash answer t
        have reset := (follow ctx.leaseId t known).afterNormalRequest c.world.clock outcome
        refine reset.congr state ?_
        rw [targets, TrackedLease.afterNormalRequest_frame]
      · exact follow j t' known'

/-- In every state that a dry run reaches, the state of every lease follows its targets. -/
theorem relay_run_statesFollow {cfg : ControllerConfig} (dry : cfg.manager.settings.dryRun = true) {start r : Relay}
    {acts : List RelayAction} (initial : start.Initial)
    (run : Execution.exec (relayStep cfg) start acts = some r) : r.controller.world.StatesFollow := by
  apply Execution.history_invariant (R := fun _ u => u.controller.world.StatesFollow) _ _ run
  · obtain ⟨⟨manager, -⟩, -⟩ := initial
    intro id t known
    rw [Option.mem_def, World.lease?, manager] at known
    cases known
  · intro before a after u v split reached stepped follow
    have grounded := reachable_grounded dry (relay_run_reachable initial reached)
    cases a with
    | requestStart request =>
        cases stepped
        exact statesFollow_onRequestStart dry request grounded follow
    | requestEnd ctx outcome usage routeHash answer =>
        unfold relayStep at stepped
        dsimp only at stepped
        split at stepped
        · cases stepped
          exact statesFollow_onRequestEnd ctx outcome usage routeHash answer follow
        · cases stepped
    | scheduler b =>
        unfold relayStep at stepped
        dsimp only at stepped
        split at stepped
        · next scheduled =>
            obtain ⟨world, moved, same⟩ := Option.map_eq_some_iff.mp stepped
            subst same
            exact statesFollow_step dry moved grounded (fun _ _ => scheduler_no_operation scheduled) follow
        · cases stepped

/-! ### Header counts -/

/-- The header count that a step brings to a lease. -/
def headerCount (cfg : ControllerConfig) (id : LeaseId) (r : Relay) : RelayAction → Option ℕ
  | .requestStart request =>
      match (r.controller.onRequestStart cfg request).2 with
      | some ctx => if ctx.leaseId = id then some ctx.targetsCount else none
      | none => none
  | _ => none

/-- The last header count of a lease in a run; there is none yet for a new lease. -/
def lastCount (cfg : ControllerConfig) (start : Relay) (acts : List RelayAction) (id : LeaseId) : ℕ :=
  (Execution.trace (relayStep cfg) (headerCount cfg id) start acts).getLast?.getD 0

theorem lastCount_snoc {cfg : ControllerConfig} {start u v : Relay} {acts : List RelayAction} {a : RelayAction}
    (run : Execution.exec (relayStep cfg) start acts = some u) (stepped : relayStep cfg u a = some v)
    (id : LeaseId) :
    lastCount cfg start (acts ++ [a]) id = (headerCount cfg id u a).getD (lastCount cfg start acts id) := by
  unfold lastCount
  rw [Execution.trace_snoc run stepped, List.getLast?_append]
  cases headerCount cfg id u a with
  | none => rfl
  | some count => rfl

/-- Pruning drops nothing that a lease was given. -/
theorem currentTargets_pruned {c : LeaseController} (synced : Synced c) (id : LeaseId) :
    c.pruneTargetIds.currentTargets id = c.currentTargets id := by
  rw [currentTargets_pruneTargetIds]
  split
  · rfl
  · next untracked =>
      obtain ⟨count, current, active⟩ := synced id
      have absent : c.world.lease? id = none := Dict.not_mem_keys_iff.mp untracked
      unfold World.targetsOf at active
      rw [absent] at active
      rw [current]
      exact (List.toFinset_eq_empty_iff _).mp active.symm |>.symm

/-- The start of a request gives its lease the ids of its count, and leaves those of the others. -/
theorem currentTargets_onRequestStart (cfg : ControllerConfig) {c : LeaseController} (request : StartRequest)
    (synced : Synced c) (id : LeaseId) :
    (c.onRequestStart cfg request).1.currentTargets id =
      match (c.onRequestStart cfg request).2 with
      | some ctx => if ctx.leaseId = id then backgroundTargets ctx.targetsCount else c.currentTargets id
      | none => c.currentTargets id := by
  have begun := onRequestStart_cases cfg c request
  generalize c.onRequestStart cfg request = result at begun
  cases begun with
  | untracked => rfl
  | raised called => rfl
  | @started manager j enabled called =>
      have kept : Synced { c with world := { c.world with manager } } := by
        intro k
        obtain ⟨count, current, active⟩ := synced k
        exact ⟨count, current, (targetsOf_called called k).trans active⟩
      dsimp only
      rw [currentTargets_startRealRequest, currentTargets_pruned kept]
      by_cases same : id = j
      · rw [if_pos same, if_pos same.symm]
      · rw [if_neg same, if_neg (Ne.symm same)]
        rfl

theorem targetIds_onRequestEnd (cfg : ControllerConfig) (c : LeaseController) (ctx : LeaseRequestContext)
    (outcome : Outcome) (usage : Option TokenUsage) (routeHash : Option String) (answer : ResolverAnswer) :
    (c.onRequestEnd cfg ctx outcome usage routeHash answer).targetIds = c.targetIds := by
  cases enabled : cfg.enabled with
  | false =>
      unfold LeaseController.onRequestEnd
      rw [enabled]
      rfl
  | true => exact (onRequestEnd_frame cfg c ctx outcome usage routeHash answer enabled).2.2

/-- The ids that a lease was last given are those of its last header count. -/
theorem currentTargets_eq_lastCount {cfg : ControllerConfig} {start r : Relay} {acts : List RelayAction}
    (initial : start.Initial) (run : Execution.exec (relayStep cfg) start acts = some r) (id : LeaseId) :
    r.controller.currentTargets id = backgroundTargets (lastCount cfg start acts id) := by
  apply Execution.history_invariant
    (R := fun before u => u.controller.currentTargets id = backgroundTargets (lastCount cfg start before id)) _ _ run
  · obtain ⟨-, ids, -⟩ := initial
    unfold LeaseController.currentTargets
    rw [ids]
    rfl
  · intro before a after u v split reached stepped held
    have synced := relay_run_synced initial reached
    rw [lastCount_snoc reached stepped]
    cases a with
    | requestStart request =>
        cases stepped
        refine (currentTargets_onRequestStart cfg request synced id).trans ?_
        unfold headerCount
        dsimp only
        split
        · split
          · rfl
          · exact held
        · exact held
    | requestEnd ctx outcome usage routeHash answer =>
        unfold relayStep at stepped
        dsimp only at stepped
        split at stepped
        · cases stepped
          unfold LeaseController.currentTargets
          rw [targetIds_onRequestEnd]
          exact held
        · cases stepped
    | scheduler b =>
        unfold relayStep at stepped
        dsimp only at stepped
        split at stepped
        · obtain ⟨world, moved, rfl⟩ := Option.map_eq_some_iff.mp stepped
          exact held
        · cases stepped

/-- A lease has the synthetic targets of a count, and unless it is dead it rests exactly when the count is zero. -/
structure FollowsCount (t : TrackedLease) (count : ℕ) : Prop where
  targets : t.lease.activeTargets = (backgroundTargets count).toFinset
  inactive : t.lease.state ≠ .invalidated → (t.lease.state = .inactive ↔ count = 0)

/-- There is no synthetic id only for the count zero. -/
theorem backgroundTargets_toFinset_eq_empty_iff {count : ℕ} :
    (backgroundTargets count).toFinset = ∅ ↔ count = 0 := by
  rw [List.toFinset_eq_empty_iff, backgroundTargets, List.map_eq_nil_iff, List.range_eq_nil]

theorem StateFollows.followsCount {t : TrackedLease} (follows : StateFollows t) {count : ℕ}
    (targets : t.lease.activeTargets = (backgroundTargets count).toFinset) : FollowsCount t count where
  targets := targets
  inactive := by
    intro valid
    rw [follows valid, targets, backgroundTargets_toFinset_eq_empty_iff]

/-- The controller when it comes to reconcile the targets of a request. -/
def LeaseController.beforeSync (cfg : ControllerConfig) (c : LeaseController) (request : StartRequest) :
    LeaseController :=
  let (manager, _) :=
    c.world.manager.findOrCreateLease cfg.manager request.identity none (1 / 2) request.answer
  { c with world := { c.world with manager } }.pruneTargetIds.pruneSnapshots cfg

theorem beforeSync_eq {cfg : ControllerConfig} {c : LeaseController} {request : StartRequest} {manager : LeaseManager}
    {found : Option LeaseId}
    (called : c.world.manager.findOrCreateLease cfg.manager request.identity none (1 / 2) request.answer =
      (manager, found)) :
    c.beforeSync cfg request = { c with world := { c.world with manager } }.pruneTargetIds.pruneSnapshots cfg := by
  unfold LeaseController.beforeSync
  rw [called]

/-- A tracked lease is found as it is. -/
theorem manager_of_called {cfg : ManagerConfig} {w : World} {identity : LeaseIdentity} {ttl : Option ℚ}
    {confidence : ℚ} {answer : ResolverAnswer} {manager : LeaseManager} {id : LeaseId} {t : TrackedLease}
    (called : w.manager.findOrCreateLease cfg identity ttl confidence answer = (manager, some id))
    (tracked : w.lease? id = some t) : manager = w.manager := by
  unfold LeaseManager.findOrCreateLease at called
  split at called
  · cases called
    rfl
  · split at called
    · cases called
    · cases called
      rw [freshId_invalidateSuperseded, World.lease?, LeaseManager.get?_freshId] at tracked
      cases tracked

section Starts

variable {cfg : ControllerConfig} {c c' : LeaseController} {request : StartRequest} {ctx : LeaseRequestContext}

theorem targetsCount_onRequestStart (starts : c.onRequestStart cfg request = (c', some ctx)) :
    ctx.targetsCount = request.targetsCount := by
  have begun := onRequestStart_cases cfg c request
  rw [starts] at begun
  cases begun with
  | started enabled called => rfl

/-- The lease of a request that starts has been through the calls of its reconciliation. -/
theorem onRequestStart_afterCalls (starts : c.onRequestStart cfg request = (c', some ctx)) :
    ∃ t, (c.beforeSync cfg request).world.lease? ctx.leaseId = some t ∧
      c'.world.lease? ctx.leaseId =
        (((c.beforeSync cfg request).world.afterCalls ctx.leaseId
          (targetCalls cfg ((c.beforeSync cfg request).currentTargets ctx.leaseId) request.targetsCount)).lease?
            ctx.leaseId).map (TrackedLease.beforeNormalRequest c.world.clock) := by
  have begun := onRequestStart_cases cfg c request
  rw [starts] at begun
  cases begun with
  | @started manager id enabled called =>
      obtain ⟨-, t, known, -⟩ := registered_of_called called
      rw [beforeSync_eq called]
      refine ⟨t, ?_, ?_⟩
      · rw [lease?_pruneSnapshots]
        exact known
      · rw [lease?_startRealRequest, if_pos rfl, ← syncTargets_afterCalls, lease?_syncTargets, if_pos rfl,
          Option.map_map, lease?_pruneSnapshots]
        unfold LeaseController.currentTargets
        rw [targetIds_pruneSnapshots]
        rfl

/-- A lease that is tracked comes to its reconciliation as it is. -/
theorem beforeSync_of_tracked (starts : c.onRequestStart cfg request = (c', some ctx)) (synced : Synced c)
    {t : TrackedLease} (tracked : c.world.lease? ctx.leaseId = some t) :
    (c.beforeSync cfg request).world.lease? ctx.leaseId = some t ∧
      (c.beforeSync cfg request).currentTargets ctx.leaseId = c.currentTargets ctx.leaseId := by
  have begun := onRequestStart_cases cfg c request
  rw [starts] at begun
  cases begun with
  | @started manager id enabled called =>
      have same := manager_of_called called tracked
      subst same
      rw [beforeSync_eq called, lease?_pruneSnapshots]
      refine ⟨tracked, ?_⟩
      have pruned := currentTargets_pruned synced id
      unfold LeaseController.currentTargets at pruned ⊢
      rw [targetIds_pruneSnapshots]
      exact pruned

end Starts

theorem lease?_afterCalls (w : World) (id : LeaseId) (calls : List TargetCall) :
    (w.afterCalls id calls).lease? id = (w.lease? id).map fun t => calls.foldl (fun t call => call.apply t) t := by
  unfold World.afterCalls
  rw [lease?_foldl_applyTo, if_pos rfl]

/-- A lease between two positive counts is awake after each call of the reconciliation. -/
theorem FollowsCount.awake_after_calls {cfg : ControllerConfig} {t : TrackedLease} {known count : ℕ}
    (follows : FollowsCount t known) (valid : t.lease.state ≠ .invalidated) (before : 0 < known) (after : 0 < count)
    {done : List TargetCall} (part : done <+: targetCalls cfg (backgroundTargets known) count) :
    (done.foldl (fun t call => call.apply t) t).lease.state ≠ .inactive := by
  have active : "bg-" ++ toString (0 + 1) ∈ t.lease.activeTargets := by
    rw [follows.targets]
    exact List.mem_toFinset.mpr (first_mem_backgroundTargets before)
  have running : t.lease.state ≠ .inactive := by
    intro rests
    exact absurd ((follows.inactive valid).mp rests) (Nat.pos_iff_ne_zero.mp before)
  exact (target_kept_by_calls (first_mem_backgroundTargets after) part active running).2

/-- In every run of the relay that warms in a dry run only: every lease follows the last header count, and so does the
    lease of a request that starts follow its count. When that lease is not dead and the counts before and after are
    positive, it is awake after each call of the reconciliation. -/
theorem dry_run_targets_follow_counts (cfg : ControllerConfig) (dry : cfg.manager.settings.dryRun = true)
    {start r : Relay} {acts : List RelayAction} (initial : start.Initial)
    (run : Execution.exec (relayStep cfg) start acts = some r) :
    (∀ id, ∀ t ∈ r.controller.world.lease? id, FollowsCount t (lastCount cfg start acts id)) ∧
      ∀ request c' ctx, r.controller.onRequestStart cfg request = (c', some ctx) →
        (∃ t', c'.world.lease? ctx.leaseId = some t' ∧ FollowsCount t' request.targetsCount) ∧
          ∀ t ∈ r.controller.world.lease? ctx.leaseId, t.lease.state ≠ .invalidated →
            0 < lastCount cfg start acts ctx.leaseId → 0 < request.targetsCount →
              ∀ done, done <+: targetCalls cfg ((r.controller.beforeSync cfg request).currentTargets ctx.leaseId)
                  request.targetsCount →
                ∃ u, ((r.controller.beforeSync cfg request).world.afterCalls ctx.leaseId done).lease? ctx.leaseId =
                  some u ∧ u.lease.state ≠ .inactive := by
  have synced := relay_run_synced initial run
  have follow := relay_run_statesFollow dry initial run
  have grounded := reachable_grounded dry (relay_run_reachable initial run)
  have counted : ∀ id, ∀ t ∈ r.controller.world.lease? id, FollowsCount t (lastCount cfg start acts id) := by
    intro id t known
    refine (follow id t known).followsCount ?_
    obtain ⟨count, current, active⟩ := synced id
    rw [← targetsOf_eq known, active, ← current, currentTargets_eq_lastCount initial run]
  refine ⟨counted, fun request c' ctx starts => ⟨?_, ?_⟩⟩
  · obtain ⟨t, known, through⟩ := onRequestStart_afterCalls starts
    rw [lease?_afterCalls, known, Option.map_some, Option.map_some] at through
    refine ⟨_, through, ?_⟩
    have after := statesFollow_onRequestStart dry request grounded follow
    have given := currentTargets_onRequestStart cfg request synced ctx.leaseId
    have matched : Synced (r.controller.onRequestStart cfg request).1 := synced_onRequestStart request synced
    rw [starts] at after given matched
    obtain ⟨count, current, active⟩ := matched ctx.leaseId
    refine (after ctx.leaseId _ through).followsCount ?_
    dsimp only at given
    rw [if_pos rfl, targetsCount_onRequestStart starts] at given
    rw [← targetsOf_eq through, active, ← current, given]
  · intro t known valid before positive done part
    obtain ⟨found, current⟩ := beforeSync_of_tracked starts synced known
    rw [current, currentTargets_eq_lastCount initial run] at part
    refine ⟨done.foldl (fun t call => call.apply t) t, ?_, ?_⟩
    · rw [lease?_afterCalls, found, Option.map_some]
    · exact (counted ctx.leaseId t known).awake_after_calls valid before positive part

/-- A relay whose warms are dry. -/
def sampleDryConfig : ControllerConfig :=
  { sampleRelayConfig with manager := { sampleConfig with settings := LeaseSettings.standard } }

/-- A session starts a request with some targets. -/
def sampleStart (targetsCount : ℕ) : StartRequest :=
  { identity := sampleIdentity "s" "a", targetsCount := targetsCount }

/-- A request with three targets is served, and the scheduler evaluates its lease. -/
def sampleDryRun : List RelayAction :=
  [.requestStart (sampleStart 3), .requestEnd { leaseId := 0, targetsCount := 3 } .confirmedHit none none .noResolver,
    .scheduler (.tick 0), .scheduler (.resume 0)]

def sampleDryRelay : Relay := Execution.final (relayStep sampleDryConfig) {} sampleDryRun

/-- A second request with one target leaves the lease with this target, and awake when all calls are made. -/
theorem dry_run_targets_follow_counts_sample :
    (∃ t, (sampleDryRelay.controller.onRequestStart sampleDryConfig (sampleStart 1)).1.world.lease? 0 = some t ∧
        FollowsCount t 1) ∧
      ∃ u, ((sampleDryRelay.controller.beforeSync sampleDryConfig (sampleStart 1)).world.afterCalls 0
          (targetCalls sampleDryConfig
            ((sampleDryRelay.controller.beforeSync sampleDryConfig (sampleStart 1)).currentTargets 0) 1)).lease? 0 =
        some u ∧ u.lease.state ≠ .inactive := by
  have initial : Relay.Initial {} := ⟨World.initial_empty, rfl, rfl⟩
  have run : Execution.exec (relayStep sampleDryConfig) {} sampleDryRun = some sampleDryRelay :=
    Execution.exec_eq_final (by decide +kernel)
  have begun : (sampleDryRelay.controller.onRequestStart sampleDryConfig (sampleStart 1)).2 =
      some { leaseId := 0, targetsCount := 1 } := by
    decide +kernel
  have scheduled : (sampleDryRelay.controller.world.lease? 0).map (fun t => t.lease.state) =
      some .warmScheduled := by
    decide +kernel
  obtain ⟨t, known, state⟩ := Option.map_eq_some_iff.mp scheduled
  have valid : t.lease.state ≠ .invalidated := by
    rw [state]
    exact LeaseState.noConfusion
  have starts := (dry_run_targets_follow_counts sampleDryConfig rfl initial run).2 (sampleStart 1) _ _
    (Prod.ext rfl begun)
  exact ⟨starts.1, starts.2 t known valid (by decide +kernel) Nat.one_pos _ List.prefix_rfl⟩

end CachePilot
