/-
Module: CachePilot.Proofs.Snapshots
Layer: Proofs
Purpose: How snapshots come and go. The start of a request stores at most its own snapshot, under the cache
  fingerprint of the lease it found, and the end of a request stores none; neither moves a task. A warm replays
  the snapshot that is stored under the fingerprint of its lease when it is sent. A tracked lease keeps its
  fingerprint.
Trusted boundary: none
Main exports: Reaches.sameLease, Reaches.indexed, onRequestStart_captures, onRequestEnd_captures,
  scheduler_snapshots, sent_snapshot
-/
import CachePilot.Proofs.IdentitySwitch

namespace CachePilot

/-! ### What a step leaves in the snapshot store -/

theorem applyTo_frame (w : World) (id : LeaseId) (f : TrackedLease → TrackedLease) :
    (w.applyTo id f).snapshots = w.snapshots ∧ (w.applyTo id f).tasks = w.tasks := by
  cases known : w.lease? id with
  | some t =>
      rw [applyTo_of_known f known]
      exact ⟨rfl, rfl⟩
  | none =>
      rw [applyTo_of_unknown f known]
      exact ⟨rfl, rfl⟩

theorem foldl_applyTo_frame {A : Type} (g : A → TrackedLease → TrackedLease) (xs : List A) (w : World)
    (id : LeaseId) :
    (xs.foldl (fun w x => w.applyTo id (g x)) w).snapshots = w.snapshots ∧
      (xs.foldl (fun w x => w.applyTo id (g x)) w).tasks = w.tasks := by
  apply List.foldlRecOn xs (motive := fun u : World => u.snapshots = w.snapshots ∧ u.tasks = w.tasks)
  · exact ⟨rfl, rfl⟩
  · intro u same x listed
    have frame := applyTo_frame u id (g x)
    exact ⟨frame.1.trans same.1, frame.2.trans same.2⟩

theorem syncTargets_frame (cfg : ControllerConfig) (c : LeaseController) (id : LeaseId) (count : ℕ) :
    (c.syncTargets cfg id count).world.snapshots = c.world.snapshots ∧
      (c.syncTargets cfg id count).world.tasks = c.world.tasks := by
  unfold LeaseController.syncTargets
  dsimp only
  obtain ⟨snapshots, tasks⟩ := foldl_applyTo_frame TrackedLease.targetFinished
    (cfg.iterationOrder ((c.currentTargets id).filter fun target => target ∉ backgroundTargets count))
    c.world id
  rw [(foldl_applyTo_frame TrackedLease.targetStarted _ _ id).1,
    (foldl_applyTo_frame TrackedLease.targetStarted _ _ id).2, snapshots, tasks]
  exact ⟨rfl, rfl⟩

/-- A snapshot that is still there after others were forgotten was there before. -/
theorem get?_of_dropped (fps : List String) {s : SnapshotStore} {fp : String} {snapshot : RequestSnapshot}
    (found : Dict.get? (fps.foldl SnapshotStore.drop s) fp = some snapshot) :
    Dict.get? s fp = some snapshot := by
  have forgotten := Dict.get?_foldl_erase fps s fp
  change Dict.get? (fps.foldl Dict.erase s) fp = some snapshot at found
  rw [forgotten] at found
  split at found
  · cases found
  · exact found

theorem pruneSnapshots_frame (cfg : ControllerConfig) (c : LeaseController) :
    (c.pruneSnapshots cfg).world.tasks = c.world.tasks ∧
      ∀ fp s, (c.pruneSnapshots cfg).world.snapshots.get? fp = some s →
        c.world.snapshots.get? fp = some s := by
  unfold LeaseController.pruneSnapshots
  split
  · exact ⟨rfl, fun fp s found => get?_of_dropped _ found⟩
  · exact ⟨rfl, fun fp s found => found⟩

/-- The snapshot that is stored for a lease is that of the request, under the fingerprint of the lease. -/
theorem storeSnapshot_captures (cfg : ControllerConfig) {c : LeaseController} {id : LeaseId}
    {t : TrackedLease} (request : StartRequest) (known : c.world.lease? id = some t) :
    (c.storeSnapshot cfg id request).world.tasks = c.world.tasks ∧
      ∀ fp s, (c.storeSnapshot cfg id request).world.snapshots.get? fp = some s →
        c.world.snapshots.get? fp = some s ∨ fp = t.lease.cacheFingerprint ∧
          s.replayHeaders = LeaseController.replayHeaders cfg request.headers := by
  unfold LeaseController.storeSnapshot
  split
  · rw [known]
    cases request.body with
    | none => exact ⟨rfl, fun fp s found => Or.inl found⟩
    | some body =>
        refine ⟨rfl, ?_⟩
        intro fp s found
        dsimp only [SnapshotStore.store] at found
        rw [Dict.get?_set] at found
        split at found
        · rename_i same
          cases found
          exact Or.inr ⟨same, rfl⟩
        · exact Or.inl found
  · exact ⟨rfl, fun fp s found => Or.inl found⟩

/-- A tracked lease stays tracked, as the same lease. -/
theorem Reaches.sameLease {cfg : ManagerConfig} {w w' : World} (reaches : Reaches cfg w w') {id : LeaseId}
    {t : TrackedLease} (known : w.lease? id = some t) :
    ∃ t', w'.lease? id = some t' ∧ SameLease t t' := by
  obtain ⟨acts, run⟩ := reaches
  apply Execution.invariant (I := fun u : World => ∃ t', u.lease? id = some t' ∧ SameLease t t') _ _ run
  · exact ⟨t, known, rfl, rfl, rfl⟩
  · rintro u a v stepped ⟨x, tracked, same⟩
    obtain ⟨x', tracked', change⟩ := step_change stepped tracked
    exact ⟨x', tracked', same.trans change.sameLease⟩

theorem Reaches.indexed {cfg : ManagerConfig} {w w' : World} (reaches : Reaches cfg w w')
    (indexed : w.Indexed) : w'.Indexed := by
  obtain ⟨acts, run⟩ := reaches
  exact Execution.invariant (I := World.Indexed) indexed
    (fun u b v stepped held => step_indexed stepped held) run

theorem startRealRequest_captures (cfg : ControllerConfig) {c : LeaseController} {id : LeaseId}
    {t : TrackedLease} (request : StartRequest) (known : c.world.lease? id = some t) :
    (c.startRealRequest cfg id request).world.tasks = c.world.tasks ∧
      ∀ fp s, (c.startRealRequest cfg id request).world.snapshots.get? fp = some s →
        c.world.snapshots.get? fp = some s ∨ fp = t.lease.cacheFingerprint ∧
          s.replayHeaders = LeaseController.replayHeaders cfg request.headers := by
  unfold LeaseController.startRealRequest
  dsimp only
  obtain ⟨pruned, kept⟩ := pruneSnapshots_frame cfg c.pruneTargetIds
  have synced := syncTargets_frame cfg (c.pruneTargetIds.pruneSnapshots cfg) id request.targetsCount
  have reached : Reaches cfg.manager c.world
      ((c.pruneTargetIds.pruneSnapshots cfg).syncTargets cfg id request.targetsCount).world :=
    (pruneSnapshots_reaches cfg c.pruneTargetIds).trans (syncTargets_reaches cfg _ id _)
  generalize (c.pruneTargetIds.pruneSnapshots cfg).syncTargets cfg id request.targetsCount = c₁
    at synced reached ⊢
  have touched := applyTo_frame c₁.world id (TrackedLease.beforeNormalRequest c₁.world.clock)
  have started := reached.trans (.beforeNormalRequest : Operation cfg.manager c₁.world.clock id _ _).reaches
  obtain ⟨t', known', -, -, fingerprint⟩ := started.sameLease known
  obtain ⟨tasks, stores⟩ := storeSnapshot_captures cfg request
    (c := { c₁ with world := c₁.world.applyTo id (TrackedLease.beforeNormalRequest c₁.world.clock) })
    known'
  refine ⟨tasks.trans (touched.2.trans (synced.2.trans pruned)), ?_⟩
  intro fp s found
  rcases stores fp s found with before | ⟨same, captured⟩
  · rw [touched.1, synced.1] at before
    exact Or.inl (kept fp s before)
  · exact Or.inr ⟨same.trans fingerprint, captured⟩

/-- The start of a request leaves the tasks alone, and stores at most the snapshot of the request, under the
    fingerprint of the request. -/
theorem onRequestStart_captures {cfg : ControllerConfig} {c : LeaseController} (request : StartRequest)
    (indexed : c.world.Indexed) :
    (c.onRequestStart cfg request).1.world.tasks = c.world.tasks ∧
      ∀ fp s, (c.onRequestStart cfg request).1.world.snapshots.get? fp = some s →
        c.world.snapshots.get? fp = some s ∨ fp = request.identity.cacheFingerprint ∧
          s.replayHeaders = LeaseController.replayHeaders cfg request.headers := by
  have begun := onRequestStart_cases cfg c request
  generalize c.onRequestStart cfg request = result at begun
  cases begun with
  | untracked => exact ⟨rfl, fun fp s found => Or.inl found⟩
  | raised called => exact ⟨rfl, fun fp s found => Or.inl found⟩
  | @started manager id enabled called =>
      obtain ⟨found, -⟩ := registered_of_called called
      have registered : World.Indexed { c.world with manager } :=
        step_indexed (step_of_called called) indexed
      obtain ⟨t, known, -, fingerprint⟩ :=
        findExisting_spec (w := { c.world with manager }) registered found
      obtain ⟨tasks, stores⟩ := startRealRequest_captures cfg request
        (c := { c with world := { c.world with manager } }) known
      refine ⟨tasks, ?_⟩
      intro fp s found
      rcases stores fp s found with before | ⟨same, captured⟩
      · exact Or.inl before
      · exact Or.inr ⟨same.trans fingerprint, captured⟩

/-- The end of a request leaves the tasks alone and stores no snapshot. -/
theorem onRequestEnd_captures (cfg : ControllerConfig) (c : LeaseController) (ctx : LeaseRequestContext)
    (outcome : Outcome) (usage : Option TokenUsage) (routeHash : Option String)
    (answer : ResolverAnswer) :
    (c.onRequestEnd cfg ctx outcome usage routeHash answer).world.tasks = c.world.tasks ∧
      ∀ fp s, (c.onRequestEnd cfg ctx outcome usage routeHash answer).world.snapshots.get? fp = some s →
        c.world.snapshots.get? fp = some s := by
  have costs : ∀ w : World, (World.refreshCosts cfg.manager w ctx.leaseId usage).snapshots = w.snapshots ∧
      (World.refreshCosts cfg.manager w ctx.leaseId usage).tasks = w.tasks := by
    intro w
    unfold World.refreshCosts
    split
    · split
      · exact applyTo_frame w ctx.leaseId _
      · exact ⟨rfl, rfl⟩
    · exact ⟨rfl, rfl⟩
  have routes : ∀ w : World, (w.observeRoute ctx.leaseId routeHash).snapshots = w.snapshots ∧
      (w.observeRoute ctx.leaseId routeHash).tasks = w.tasks := by
    intro w
    unfold World.observeRoute
    split
    · exact applyTo_frame w ctx.leaseId _
    · exact ⟨rfl, rfl⟩
  unfold LeaseController.onRequestEnd
  split
  · exact ⟨rfl, fun fp s found => found⟩
  dsimp only
  have first := applyTo_frame c.world ctx.leaseId (TrackedLease.afterNormalRequest c.world.clock outcome)
  generalize c.world.applyTo ctx.leaseId (TrackedLease.afterNormalRequest c.world.clock outcome) = w₁
    at first ⊢
  have second := costs w₁
  generalize World.refreshCosts cfg.manager w₁ ctx.leaseId usage = w₂ at second ⊢
  have third := routes w₂
  generalize w₂.observeRoute ctx.leaseId routeHash = w₃ at third ⊢
  have last := applyTo_frame w₃ ctx.leaseId (TrackedLease.refreshTtl answer)
  generalize w₃.applyTo ctx.leaseId (TrackedLease.refreshTtl answer) = w₄ at last ⊢
  have snapshots : w₄.snapshots = c.world.snapshots := by rw [last.1, third.1, second.1, first.1]
  have tasks : w₄.tasks = c.world.tasks := by rw [last.2, third.2, second.2, first.2]
  split
  · split
    · refine ⟨tasks, ?_⟩
      intro fp s found
      have before : w₄.snapshots.get? fp = some s := get?_of_dropped [_] found
      rwa [snapshots] at before
    · exact ⟨tasks, fun fp s found => snapshots ▸ found⟩
  · exact ⟨tasks, fun fp s found => snapshots ▸ found⟩

/-- What the scheduler does leaves the snapshots alone. -/
theorem scheduler_snapshots {cfg : ManagerConfig} {w w' : World} {a : Action}
    (stepped : step cfg w a = some w') (scheduled : a.isScheduler = true) :
    w'.snapshots = w.snapshots := by
  cases step_cases stepped with
  | snapshotStored snapshot => cases scheduled
  | snapshotDropped fp => cases scheduled
  | _ => rfl

/-! ### Which snapshot a warm replays -/

/-- A warm replays the snapshot that is stored under the fingerprint of its lease. -/
theorem sent_snapshot {cfg : ManagerConfig} {w w' : World} {a : Action} {tid : TaskId} {id : LeaseId}
    {fp : String} {s : RequestSnapshot} (stepped : step cfg w a = some w') (sent : WarmSent w w' tid id)
    (inside : w'.pointOf tid = some (.executing id fp s)) :
    ∃ t, w.lease? id = some t ∧ w.snapshots.get? t.lease.cacheFingerprint = some s := by
  obtain ⟨rfl, -⟩ := warmSent_sends stepped sent
  cases step_cases stepped with
  | operated operation known => cases operation
  | spawned starts unused => rcases starts with ⟨j, starts⟩ | starts <;> cases starts
  | unknownLease here ready queued missing => simp [World.finish] at inside
  | decided here ready queued known runs => simp [World.finish] at inside
  | waits here ready queued known authorised busy => simp at inside
  | refusedAtOnce here ready queued known authorised free refused => simp [World.finish] at inside
  | @sentAtOnce _ task j rest t g snapshot here ready queued known authorised free passed =>
      have entered : some (TaskPoint.executing j t.lease.cacheFingerprint snapshot) =
          some (.executing id fp s) := by simpa using inside
      cases entered
      have held := (underLock_eq_ok_iff.1 passed).2
      rw [consumeSchedule_cacheFingerprint] at held
      exact ⟨t, known, held⟩
  | refusedAtLock here waiting first known refused => simp [World.finish] at inside
  | @sentAtLock _ task j fp' g t snapshot here waiting first known passed =>
      have entered : some (TaskPoint.executing j fp' snapshot) = some (.executing id fp s) := by
        simpa using inside
      cases entered
      exact ⟨t, known, (underLock_eq_ok_iff.1 passed).2⟩

end CachePilot
