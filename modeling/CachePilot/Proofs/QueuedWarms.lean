/-
Module: CachePilot.Proofs.QueuedWarms
Layer: Proofs
Purpose: Evaluations that queue at the lock of a cache identity. The deadline and the economic gate are
  checked when the evaluation begins and not again under the lock. A queued evaluation is still due and
  economic when it sends if, while it was authorised for the current generation, no step moved what the
  two checks read: the touch, the TTL, the targets, the estimates and the cost so far.
Trusted boundary: none
Main exports: SameGates, movesGates, LeavesWaitersAlone, run_waitersReady, warm_sent_when_due
-/
import CachePilot.Proofs.Evaluations

namespace CachePilot

/-! ### What the deadline and the gate read -/

/-- Two leases with the same deadline and the same economic inputs. -/
structure SameGates (l l' : CacheLease) : Prop where
  fingerprint : l'.cacheFingerprint = l.cacheFingerprint
  touch : l'.lastCacheTouchAt = l.lastCacheTouchAt
  ttl : l'.estimatedTtlS = l.estimatedTtlS
  targets : l'.activeTargets = l.activeTargets
  cold : l'.estimatedColdResumeCostUsd = l.estimatedColdResumeCostUsd
  cached : l'.estimatedCachedResumeCostUsd = l.estimatedCachedResumeCostUsd
  nextWarm : l'.nextWarmCostUsd = l.nextWarmCostUsd
  cost : l'.warmCostUsd = l.warmCostUsd

theorem SameGates.refl (l : CacheLease) : SameGates l l :=
  ⟨rfl, rfl, rfl, rfl, rfl, rfl, rfl, rfl⟩

theorem SameGates.nextDeadline {l l' : CacheLease} (same : SameGates l l') (cfg : ManagerConfig) :
    nextDeadline cfg l' = nextDeadline cfg l := by
  unfold CachePilot.nextDeadline
  rw [same.fingerprint, same.touch, same.ttl]

theorem SameGates.economicGate {l l' : CacheLease} (same : SameGates l l') (cfg : ManagerConfig) :
    economicGate cfg l' = economicGate cfg l := by
  unfold CachePilot.economicGate evaluateEconomics economicInputs resumeProbability
  rw [same.targets, same.cold, same.cached, same.nextWarm, same.cost]

theorem Bookkeeping.sameGates {t t' : TrackedLease} (frame : Bookkeeping t t') :
    SameGates t.lease t'.lease := by
  rw [frame.lease]
  exact ⟨rfl, rfl, rfl, rfl, rfl, rfl, rfl, rfl⟩

/-- A warm is due and economic for this lease. -/
def WarmReady (cfg : ManagerConfig) (now : ℚ) (lease : CacheLease) : Prop :=
  IsDue cfg now lease ∧ economicGate cfg lease = true

instance (cfg : ManagerConfig) (now : ℚ) (lease : CacheLease) :
    Decidable (WarmReady cfg now lease) :=
  inferInstanceAs (Decidable (_ ∧ _))

theorem WarmReady.keep {cfg : ManagerConfig} {now later : ℚ} {l l' : CacheLease}
    (ready : WarmReady cfg now l) (same : SameGates l l') (forward : now ≤ later) :
    WarmReady cfg later l' := by
  obtain ⟨⟨dueAt, deadline, due⟩, gate⟩ := ready
  constructor
  · exact ⟨dueAt, (same.nextDeadline cfg).trans deadline, le_trans due forward⟩
  · rw [same.economicGate, gate]

/-! ### Steps that move the gates -/

/-- The warm of the lease lands in this step and touches the cache or costs something. -/
def World.spends (w : World) (id : LeaseId) : Action → Bool
  | .executeReturns tid answer =>
      w.inFlight tid == some id && answer.toWarmResult.outcome.isSome &&
        (answer.toWarmResult.touchesCache || answer.toWarmResult.costUsd != 0)
  | _ => false

/-- The step may move something that the deadline or the economic gate of the lease reads, or sets the
    clock back. -/
def movesGates (id : LeaseId) (w : World) (a : Action) : Bool :=
  match a with
  | .complete j => j == id
  | .targetStarted j targetId | .targetFinished j targetId => j == id && targetId != ""
  | .refreshTtl j _ | .updateCostEstimates j _ => j == id
  | .afterNormalRequest j outcome =>
      j == id && outcome != .failed &&
        (w.lease? id).any fun t => t.lease.state != .invalidated
  | .setClock now => decide (now < w.clock)
  | a => w.spends id a

theorem Operation.sameGates {cfg : ManagerConfig} {w : World} {id : LeaseId} {a : Action}
    {f : TrackedLease → TrackedLease} {t : TrackedLease} (operation : Operation cfg w.clock id a f)
    (known : w.lease? id = some t) (spared : movesGates id w a = false) :
    SameGates t.lease (f t).lease := by
  cases operation with
  | arm => exact (Bookkeeping.arm t).sameGates
  | invalidate => exact ⟨rfl, rfl, rfl, rfl, rfl, rfl, rfl, rfl⟩
  | complete => simp [movesGates] at spared
  | targetStarted targetId =>
      have unnamed : targetId = "" := by simpa [movesGates] using spared
      subst unnamed
      exact SameGates.refl _
  | targetFinished targetId =>
      have unnamed : targetId = "" := by simpa [movesGates] using spared
      subst unnamed
      exact SameGates.refl _
  | beforeNormalRequest => exact ⟨rfl, rfl, rfl, rfl, rfl, rfl, rfl, rfl⟩
  | afterNormalRequest outcome =>
      rcases TrackedLease.afterNormalRequest_cases w.clock outcome t with
        ⟨-, same⟩ | ⟨⟨valid, answered⟩, -⟩
      · rw [same]
        exact SameGates.refl _
      · simp [movesGates, known, valid, answered] at spared
  | refreshTtl answer => simp [movesGates] at spared
  | reconcileRoute routeHash => exact ⟨rfl, rfl, rfl, rfl, rfl, rfl, rfl, rfl⟩
  | updateCostEstimates usage => simp [movesGates] at spared

/-- A warm that lands without touching the cache and without cost moves no gate. -/
theorem finishWarm_sameGates {now : ℚ} {answer : ExecuteResult} {t : TrackedLease}
    (idle : answer.toWarmResult.outcome ≠ none →
      answer.toWarmResult.touchesCache = false ∧ answer.toWarmResult.costUsd = 0) :
    SameGates t.lease (finishWarm now answer t).1.lease := by
  have touch := finishWarm_touch now answer t
  rcases finishWarm_cases now answer t with
    ⟨-, same⟩ | ⟨hit, -⟩ | ⟨outcome, ran, -, same⟩
  · rw [same]
    exact (Bookkeeping.endWarm t).sameGates
  · have untouched := (idle (by simp [hit])).1
    simp [WarmResult.touchesCache, hit] at untouched
  · obtain ⟨untouched, free⟩ := idle (by simp [ran])
    rw [untouched] at touch
    rw [same] at touch ⊢
    exact
      { fingerprint := rfl
        touch := touch
        ttl := rfl
        targets := rfl
        cold := rfl
        cached := rfl
        nextWarm := rfl
        cost := by rw [warmedMiss, free, add_zero] }

theorem LeaseChange.sameGates {cfg : ManagerConfig} {w : World} {id : LeaseId} {a : Action}
    {t t' : TrackedLease} (known : w.lease? id = some t) (change : LeaseChange cfg w id t a t')
    (spared : movesGates id w a = false) : SameGates t.lease t'.lease := by
  cases change with
  | bookkeeping quiet unreturned frame => exact frame.sameGates
  | superseded missing switched => exact ⟨rfl, rfl, rfl, rfl, rfl, rfl, rfl, rfl⟩
  | operated operation => exact operation.sameGates known spared
  | @returned tid answer flying =>
      apply finishWarm_sameGates
      intro ran
      have landed : answer.toWarmResult.outcome.isSome = true := by
        simpa [Option.isSome_iff_ne_none] using ran
      simpa [movesGates, World.spends, flying, landed] using spared

theorem clock_of_spared {cfg : ManagerConfig} {w w' : World} {a : Action} {id : LeaseId}
    (stepped : step cfg w a = some w') (spared : movesGates id w a = false) :
    w.clock ≤ w'.clock := by
  rcases step_clock stepped with same | set
  · exact le_of_eq same.symm
  · rw [set] at spared
    exact not_lt.1 (of_decide_eq_false spared)

/-! ### Waiters that are still authorised -/

/-- Some evaluation of the lease waits at a lock, authorised for the current generation. -/
def World.currentWaiter (w : World) (id : LeaseId) : Bool :=
  match w.lease? id with
  | none => false
  | some t =>
      w.tasks.values.any fun task =>
        match task.point with
        | .atLock j _ g => j == id && g == t.lease.generation
        | _ => false

theorem currentWaiter_of_waits {w : World} {tid : TaskId} {id : LeaseId} {fp : String}
    {t : TrackedLease} (waiting : w.WaitsAt tid id fp t.lease.generation)
    (known : w.lease? id = some t) : w.currentWaiter id = true := by
  obtain ⟨task, here, place⟩ := Option.map_eq_some_iff.1 waiting
  unfold World.currentWaiter
  rw [known]
  apply List.any_eq_true.2
  refine ⟨task, Dict.mem_values_iff.2 ⟨tid, here⟩, ?_⟩
  rw [place]
  simp

/-- While an evaluation of the lease waits at a lock, authorised for the current generation, the step moves
    none of the lease's gates. -/
def LeavesWaitersAlone (id : LeaseId) (w : World) (a : Action) : Prop :=
  w.currentWaiter id = true → movesGates id w a = false

instance (id : LeaseId) (w : World) (a : Action) : Decidable (LeavesWaitersAlone id w a) :=
  inferInstanceAs (Decidable (_ → _))

/-- Every waiter of the lease is authorised for a generation that has been reached, and while that is the
    current one the lease is due and economic. -/
def WaitersReady (cfg : ManagerConfig) (id : LeaseId) (w : World) : Prop :=
  ∀ tid fp g t, w.WaitsAt tid id fp g → w.lease? id = some t →
    g ≤ t.lease.generation ∧ (g = t.lease.generation → WarmReady cfg w.clock t.lease)

theorem step_waitersReady {cfg : ManagerConfig} {w w' : World} {a : Action} {id : LeaseId}
    (stepped : step cfg w a = some w') (placed : w.Placed) (alone : LeavesWaitersAlone id w a)
    (ready : WaitersReady cfg id w) : WaitersReady cfg id w' := by
  intro tid fp g t' waiting known'
  have effect := step_point stepped tid
  rw [World.WaitsAt] at waiting
  rw [waiting] at effect
  generalize point : some (TaskPoint.atLock id fp g) = p at effect
  cases effect with
  | untouched elsewhere =>
      have still : w.WaitsAt tid id fp g := point.symm
      obtain ⟨t, known, -⟩ := placed tid id fp (Or.inl ⟨g, still⟩)
      obtain ⟨x, found, change⟩ := step_change stepped known
      rw [known'] at found
      cases found
      obtain ⟨reached, whenCurrent⟩ := ready tid fp g t still known
      have grown := change.generation
      constructor
      · omega
      · intro current
        have before : g = t.lease.generation := by omega
        have waiter : w.currentWaiter id = true := by
          subst before
          exact currentWaiter_of_waits still known
        have spared := alone waiter
        exact (whenCurrent before).keep (change.sameGates known spared)
          (clock_of_spared stepped spared)
  | readied => cases point
  | @waits task j rest t g' here readied queued known authorised consumed busy =>
      cases point
      rw [known'] at consumed
      cases consumed
      have frame := Bookkeeping.consumeSchedule cfg t
      rw [frame.generation]
      constructor
      · exact le_of_eq authorised.current
      · intro current
        have forward : w.clock ≤ w'.clock := by
          rcases step_clock stepped with same | set
          · exact le_of_eq same.symm
          · cases set
        exact WarmReady.keep ⟨authorised.due, authorised.economic⟩ frame.sameGates forward
  | sent known sends cleared => cases point

theorem World.Initial.waitersReady {w : World} (initial : w.Initial) (cfg : ManagerConfig)
    (id : LeaseId) : WaitersReady cfg id w := by
  intro tid fp g t waiting known
  exact absurd waiting (initial.nobodyWaits id tid fp g)

theorem run_waitersReady {cfg : ManagerConfig} {start w : World} {acts : List Action}
    {id : LeaseId} (initial : start.Initial) (run : exec cfg start acts = some w)
    (alone : Execution.Along (step cfg) (LeavesWaitersAlone id) start acts) :
    WaitersReady cfg id w := by
  apply Execution.history_invariant (R := fun _ u => WaitersReady cfg id u) _ _ run
  · exact initial.waitersReady cfg id
  · intro before a after u v split reached stepped ready
    subst split
    exact step_waitersReady stepped (run_placed initial reached) (alone.step reached) ready

/-! ### Sends -/

/-- A send is due and economic: either the evaluation checked it in this very step, or it waited and was
    left alone. -/
theorem warmSent_ready {cfg : ManagerConfig} {w w' : World} {a : Action} {tid : TaskId}
    {id : LeaseId} (stepped : step cfg w a = some w') (ready : WaitersReady cfg id w)
    (sent : WarmSent w w' tid id) :
    ∃ t, w.lease? id = some t ∧ WarmReady cfg w.clock t.lease := by
  obtain ⟨-, t, fp, g, known, sends, cleared⟩ := warmSent_sends stepped sent
  refine ⟨t, known, ?_⟩
  cases sends with
  | atOnce here readied queued same authorised free => exact ⟨authorised.due, authorised.economic⟩
  | atLock waiting first => exact (ready tid fp g t waiting known).2 cleared.current.symm

theorem run_generation_le {cfg : ManagerConfig} {u v : World} {acts : List Action} {id : LeaseId}
    {t t' : TrackedLease} (run : exec cfg u acts = some v) (known : u.lease? id = some t)
    (known' : v.lease? id = some t') : t.lease.generation ≤ t'.lease.generation := by
  have kept : ∃ x, v.lease? id = some x ∧ t.lease.generation ≤ x.lease.generation := by
    apply Execution.invariant
      (I := fun y => ∃ x, y.lease? id = some x ∧ t.lease.generation ≤ x.lease.generation) _ _ run
    · exact ⟨t, known, le_refl _⟩
    · rintro y a z stepped ⟨x, tracked, older⟩
      obtain ⟨x', tracked', change⟩ := step_change stepped tracked
      refine ⟨x', tracked', ?_⟩
      have grown := change.generation
      omega
  obtain ⟨x, found, older⟩ := kept
  rw [known'] at found
  cases found
  exact older

/-- A waiter whose lease spends while it waits is no longer authorised, and never sends. -/
theorem waiter_never_sends {cfg : ManagerConfig} {u x y : World} {a b : Action} {mid : List Action}
    {tid : TaskId} {id : LeaseId} {fp : String} {g : ℕ} (ready : WaitersReady cfg id u)
    (placed : u.Placed) (alone : LeavesWaitersAlone id u a) (spends : u.spends id a = true)
    (waited : Execution.Along (step cfg) (fun z _ => z.WaitsAt tid id fp g) u (a :: mid ++ [b]))
    (run : exec cfg u (a :: mid) = some x) (stepped : step cfg x b = some y) :
    ¬ WarmSent x y tid id := by
  intro sent
  have waiting : u.WaitsAt tid id fp g := waited.1
  obtain ⟨t, known, -⟩ := placed tid id fp (Or.inl ⟨g, waiting⟩)
  have moves : movesGates id u a = true := by
    cases a with
    | executeReturns v answer => exact spends
    | _ => cases spends
  have stale : g ≠ t.lease.generation := by
    intro current
    subst current
    rw [alone (currentWaiter_of_waits waiting known)] at moves
    cases moves
  have reached := (ready tid fp g t waiting known).1
  obtain ⟨-, t', fp', g', known', sends, cleared⟩ := warmSent_sends stepped sent
  have older := run_generation_le run known known'
  have still : x.WaitsAt tid id fp g := Execution.along_iff.1 waited (a :: mid) b [] x rfl run
  cases sends with
  | atOnce here readied queued same authorised free =>
      rw [World.WaitsAt, World.pointOf_eq here, readied] at still
      cases still
  | atLock waits first =>
      rw [World.WaitsAt] at still waits
      rw [still] at waits
      cases waits
      have current := cleared.current
      omega

/-- Along a run that leaves the authorised waiters of a lease alone, every warm sent for it is due and
    economic at the moment of the send; and an evaluation that was queued when a warm of the lease touched
    the cache or cost something never sends one for the same expiry. -/
theorem warm_sent_when_due {cfg : ManagerConfig} {start w : World} {acts : List Action}
    {id : LeaseId} (initial : start.Initial) (run : exec cfg start acts = some w)
    (alone : Execution.Along (step cfg) (LeavesWaitersAlone id) start acts) :
    (∀ before a after u v tid, acts = before ++ a :: after → exec cfg start before = some u →
      step cfg u a = some v → WarmSent u v tid id →
      ∃ t, u.lease? id = some t ∧ IsDue cfg u.clock t.lease ∧
        economicGate cfg t.lease = true) ∧
    (∀ before a mid b after u x y tid fp g, acts = before ++ (a :: mid) ++ b :: after →
      exec cfg start before = some u → exec cfg u (a :: mid) = some x → step cfg x b = some y →
      u.spends id a = true →
      Execution.Along (step cfg) (fun z _ => z.WaitsAt tid id fp g) u (a :: mid ++ [b]) →
      ¬ WarmSent x y tid id) := by
  constructor
  · intro before a after u v tid split reached stepped sent
    subst split
    exact warmSent_ready stepped (run_waitersReady initial reached alone.left) sent
  · intro before a mid b after u x y tid fp g split reached later stepped spends waited
    have whole : acts = before ++ a :: (mid ++ b :: after) := by simp [split]
    subst whole
    exact waiter_never_sends (run_waitersReady initial reached alone.left)
      (run_placed initial reached) (alone.step reached) spends waited later stepped

/-- The confirmed hit of a warm that costs something. -/
def samplePaid : ExecuteResult := .returned { outcome := some .confirmedHit, costUsd := 1 / 4 }

/-- The waiter of the shared identity gets the lock when the first session's warm returns. -/
def sampleWaited : List Action := sampleShared ++ [.executeReturns 0 samplePaid]

/-- Its warm is due and economic when it is sent. -/
theorem warm_sent_when_due_sample : ∃ t, (sampleAt sampleWaited).lease? 1 = some t ∧
    IsDue sampleConfig (sampleAt sampleWaited).clock t.lease ∧
    economicGate sampleConfig t.lease = true := by
  have run : exec sampleConfig {} (sampleWaited ++ [.resume 1]) =
      some (sampleAt (sampleWaited ++ [.resume 1])) := exec_sampleAt (by decide +kernel)
  exact (warm_sent_when_due World.initial_empty run (by decide +kernel)).1 sampleWaited
    (.resume 1) [] _ _ 1 rfl (exec_sampleAt (by decide +kernel))
    (Execution.step_final (by decide +kernel)) (by decide +kernel)

/-- A second evaluation of the second session's lease queues as well, and the first one sends. -/
def sampleQueuedTwice : List Action :=
  sampleShared ++ [.evaluateLease 2 1, .resume 2, .executeReturns 0 samplePaid, .resume 1,
    .executeReturns 1 samplePaid]

/-- Two evaluations queued at the lock spend twice for one expiry: the warm of the first one touches the
    cache now, and the second one, which is next in line, sends its warm although the lease is not due
    for a long time. -/
theorem queued_evaluation_sends_undue :
    exec sampleConfig {} sampleQueuedTwice = some (sampleAt sampleQueuedTwice) ∧
    step sampleConfig (sampleAt sampleQueuedTwice) (.resume 2) =
      some (sampleAt (sampleQueuedTwice ++ [.resume 2])) ∧
    WarmSent (sampleAt sampleQueuedTwice) (sampleAt (sampleQueuedTwice ++ [.resume 2])) 2 1 ∧
    ((sampleAt sampleQueuedTwice).lease? 1).map (fun t =>
      (decide (IsDue sampleConfig (sampleAt sampleQueuedTwice).clock t.lease),
        nextDeadline sampleConfig t.lease)) = some (false, some (6164 / 5)) :=
  ⟨Execution.exec_eq_final (by decide +kernel), Execution.step_final (by decide +kernel),
    by decide +kernel, by decide +kernel⟩

end CachePilot
