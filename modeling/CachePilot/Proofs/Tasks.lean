/-
Module: CachePilot.Proofs.Tasks
Layer: Proofs
Purpose: How tasks move. `PointEffect` says how a step moves one task, and `Sends` lists what the code has
  checked when the executor is invoked. Two invariants tie tasks, leases and locks together: the locks
  are exclusive, and a suspended task waits at or holds the lock of its lease's fingerprint.
Trusted boundary: none
Main exports: Sends, step_point, warmSent_sends, step_exclusive, run_exclusive, run_placed,
  inFlight_unique
-/
import CachePilot.Proofs.Effects

namespace CachePilot

/-- What the code has checked in the step that invokes the executor: either the evaluation found the
    lock free and went straight through, or it resumes at the head of the queue. -/
inductive Sends (cfg : ManagerConfig) (w : World) (tid : TaskId) (id : LeaseId) (t : TrackedLease)
    (fp : String) (g : ℕ) : Prop where
  | atOnce {task : EvaluationTask} {rest : List LeaseId} (here : w.task? tid = some task)
      (ready : task.point = .ready) (queued : task.queue = id :: rest)
      (same : t.lease.cacheFingerprint = fp)
      (authorised : Authorised cfg w.clock t (consumeSchedule cfg t) g)
      (free : (w.lockOf fp).isFree = true) : Sends cfg w tid id t fp g
  | atLock (waiting : w.WaitsAt tid id fp g) (first : (w.lockOf fp).next? = some tid) :
      Sends cfg w tid id t fp g

/-- The task that an action schedules. -/
def Action.task? : Action → Option TaskId
  | .evaluateLease tid _ | .tick tid | .resume tid | .executeReturns tid _ | .cancel tid =>
      some tid
  | _ => none

/-- How a step moves a task. -/
inductive PointEffect (cfg : ManagerConfig) (w w' : World) (tid : TaskId) :
    Action → Option TaskPoint → Prop where
  | untouched {a} (elsewhere : a.task? ≠ some tid) : PointEffect cfg w w' tid a (w.pointOf tid)
  | readied {a} : PointEffect cfg w w' tid a (some .ready)
  | waits {task id rest t g} (here : w.task? tid = some task) (ready : task.point = .ready)
      (queued : task.queue = id :: rest) (known : w.lease? id = some t)
      (authorised : Authorised cfg w.clock t (consumeSchedule cfg t) g)
      (consumed : w'.lease? id = some (consumeSchedule cfg t))
      (busy : (w.lockOf t.lease.cacheFingerprint).isFree = false) :
      PointEffect cfg w w' tid (.resume tid) (some (.atLock id t.lease.cacheFingerprint g))
  | sent {id t fp g snapshot} (known : w.lease? id = some t) (sends : Sends cfg w tid id t fp g)
      (cleared : ClearedToSend cfg w.snapshots t g) :
      PointEffect cfg w w' tid (.resume tid) (some (.executing id fp snapshot))

/-- Consuming the schedule changes none of the fields that are checked before a send. -/
theorem cleared_consumeSchedule {cfg : ManagerConfig} {snapshots : SnapshotStore}
    {t : TrackedLease} {g : ℕ}
    (cleared : ClearedToSend cfg snapshots (consumeSchedule cfg t) g) :
    ClearedToSend cfg snapshots t g := by
  have lease : (consumeSchedule cfg t).lease = recordDecision cfg t.lease := rfl
  obtain ⟨idle, targets, current, live, closed, warmable, snapshot⟩ := cleared
  unfold recordDecision at lease
  split at lease
  · rw [lease] at targets current snapshot
    exact ⟨idle, targets, current, live, closed, warmable, snapshot⟩
  · rw [lease] at targets current snapshot
    exact ⟨idle, targets, current, live, closed, warmable, snapshot⟩

/-- A task that an action does not schedule stays where it is. -/
private theorem point_elsewhere {cfg : ManagerConfig} {w w' : World} {tid u : TaskId} {a : Action}
    (about : a.task? = some u)
    (moved : w'.pointOf tid = if tid = u then some .ready else w.pointOf tid) :
    PointEffect cfg w w' tid a (w'.pointOf tid) := by
  rw [moved]
  split
  · exact .readied
  · rename_i different
    apply PointEffect.untouched
    rw [about]
    intro same
    exact different (Option.some.inj same).symm

theorem Operation.task? {cfg : ManagerConfig} {now : ℚ} {id : LeaseId} {a : Action}
    {f : TrackedLease → TrackedLease} (operation : Operation cfg now id a f) :
    a.task? = none := by
  cases operation <;> rfl

private theorem point_idle {cfg : ManagerConfig} {w w' : World} {tid : TaskId} {a : Action}
    (about : a.task? = none) (kept : w'.pointOf tid = w.pointOf tid) :
    PointEffect cfg w w' tid a (w'.pointOf tid) := by
  rw [kept]
  apply PointEffect.untouched
  rw [about]
  intro absurdity
  cases absurdity

/-- A step that resumes one task moves no other. -/
private theorem point_resumed {cfg : ManagerConfig} {w w' : World} {tid u : TaskId}
    {p : TaskPoint} (moved : ∀ v, w'.pointOf v = if v = u then some p else w.pointOf v)
    (effect : PointEffect cfg w w' u (.resume u) (some p)) :
    PointEffect cfg w w' tid (.resume u) (w'.pointOf tid) := by
  rw [moved]
  by_cases same : tid = u
  · subst same
    rw [if_pos rfl]
    exact effect
  · rw [if_neg same]
    apply PointEffect.untouched
    intro equal
    exact same (Option.some.inj equal).symm

/-- Every step moves every task in one of the listed ways. -/
theorem step_point {cfg : ManagerConfig} {w w' : World} {a : Action}
    (stepped : step cfg w a = some w') (tid : TaskId) :
    PointEffect cfg w w' tid a (w'.pointOf tid) := by
  cases step_cases stepped with
  | reused found => exact point_idle rfl rfl
  | resolverRaised missing raised => exact point_idle rfl rfl
  | created missing resolved => exact point_idle rfl rfl
  | operated operation known => exact point_idle operation.task? rfl
  | snapshotStored snapshot => exact point_idle rfl rfl
  | snapshotDropped fp => exact point_idle rfl rfl
  | clockSet now => exact point_idle rfl rfl
  | spawned starts unused =>
      rcases starts with ⟨j, rfl⟩ | rfl
      · exact point_elsewhere rfl (by simp)
      · exact point_elsewhere rfl (by simp)
  | unknownLease here ready queued missing =>
      exact point_elsewhere rfl (by simp [World.finish])
  | decided here ready queued known runs =>
      exact point_elsewhere rfl (by simp [World.finish])
  | waits here ready queued known authorised busy =>
      exact point_resumed (by simp)
        (.waits here ready queued known authorised (by simp) busy)
  | refusedAtOnce here ready queued known authorised free refused =>
      exact point_elsewhere rfl (by simp [World.finish])
  | @sentAtOnce u task id rest t g snapshot here ready queued known authorised free passed =>
      have cleared := cleared_consumeSchedule (underLock_eq_ok_iff.1 passed).1
      exact point_resumed (p := .executing id t.lease.cacheFingerprint snapshot) (by simp)
        (.sent known (.atOnce here ready queued rfl authorised free) cleared)
  | refusedAtLock here waiting first known refused =>
      exact point_elsewhere rfl (by simp [World.finish])
  | @sentAtLock u task id fp g t snapshot here waiting first known passed =>
      have place := World.pointOf_eq here
      rw [waiting] at place
      exact point_resumed (p := .executing id fp snapshot) (by simp)
        (.sent known (.atLock place first) (underLock_eq_ok_iff.1 passed).1)
  | returned here inside known => exact point_elsewhere rfl (by simp [World.finish])
  | cancelledReady here ready => exact point_elsewhere rfl (by simp)
  | cancelledWaiting here waiting => exact point_elsewhere rfl (by simp)
  | cancelledWarm here inside known => exact point_elsewhere rfl (by simp)

/-- The executor is invoked only by a task that passed every check under the lock. -/
theorem warmSent_sends {cfg : ManagerConfig} {w w' : World} {a : Action} {tid : TaskId}
    {id : LeaseId} (stepped : step cfg w a = some w') (sent : WarmSent w w' tid id) :
    a = .resume tid ∧ ∃ t fp g, w.lease? id = some t ∧ Sends cfg w tid id t fp g ∧
      ClearedToSend cfg w.snapshots t g := by
  obtain ⟨flying, grounded⟩ := sent
  obtain ⟨fp, snapshot, inside⟩ := World.inFlight_eq_some_iff.1 flying
  have effect := step_point stepped tid
  rw [inside] at effect
  generalize point : some (TaskPoint.executing id fp snapshot) = p at effect
  cases effect with
  | untouched elsewhere =>
      exact absurd (World.inFlight_eq_some_iff.2 ⟨fp, snapshot, point.symm⟩) grounded
  | readied => cases point
  | waits here ready queued known authorised consumed busy => cases point
  | sent known sends cleared =>
      cases point
      exact ⟨rfl, _, _, _, known, sends, cleared⟩

/-- A task is in the executor after a step because it was there before or because the step sent the
    warm. -/
theorem inFlight_or_sent {w : World} (w' : World) {tid : TaskId} {id : LeaseId}
    (flying : w'.inFlight tid = some id) : w.inFlight tid = some id ∨ WarmSent w w' tid id := by
  cases decEq (w.inFlight tid) (some id) with
  | isTrue before => exact Or.inl before
  | isFalse grounded => exact Or.inr ⟨flying, grounded⟩

/-- The executor returns only for a tracked lease. -/
theorem returned_tracked {cfg : ManagerConfig} {w w' : World} {tid : TaskId} {id : LeaseId}
    {answer : ExecuteResult} (stepped : step cfg w (.executeReturns tid answer) = some w')
    (flying : w.inFlight tid = some id) : ∃ t, w.lease? id = some t := by
  cases step_cases stepped with
  | operated operation known => cases operation
  | spawned starts unused => simp at starts
  | returned here inside known =>
      rw [World.inFlight_of_inside here inside] at flying
      cases flying
      exact ⟨_, known⟩

/-- A warm ends with its return: the task that returned has no warm in flight any more. -/
theorem returned_lands {cfg : ManagerConfig} {w w' : World} {tid : TaskId}
    {answer : ExecuteResult} (stepped : step cfg w (.executeReturns tid answer) = some w') :
    w'.inFlight tid = none := by
  have effect := step_point stepped tid
  unfold World.inFlight
  generalize w'.pointOf tid = point at effect ⊢
  cases effect with
  | untouched elsewhere => exact absurd rfl elsewhere
  | readied => rfl

/-! ### Mutual exclusion -/

/-- Holders after one task moved: the old holders but that task, and the task if it went in. -/
private theorem holds_putTask {w : World} {tid v : TaskId} {task : EvaluationTask} {fp : String}
    (held : (w.putTask tid task).Holds v fp) :
    (w.Holds v fp ∧ v ≠ tid) ∨
      (v = tid ∧ ∃ id snapshot, task.point = .executing id fp snapshot) := by
  obtain ⟨id, snapshot, inside⟩ := held
  rw [World.pointOf_putTask] at inside
  split at inside
  · rename_i same
    exact Or.inr ⟨same, id, snapshot, Option.some.inj inside⟩
  · rename_i different
    exact Or.inl ⟨⟨id, snapshot, inside⟩, different⟩

private theorem holds_readied {w : World} {tid : TaskId} {task : EvaluationTask}
    (ready : task.point = .ready) (v : TaskId) (fp : String)
    (held : (w.putTask tid task).Holds v fp) : w.Holds v fp ∧ v ≠ tid := by
  rcases holds_putTask held with old | ⟨-, id, snapshot, inside⟩
  · exact old
  · rw [ready] at inside
    cases inside

private theorem holds_queued {w : World} {tid : TaskId} {task : EvaluationTask} {id : LeaseId}
    {k : String} {g : ℕ} (queued : task.point = .atLock id k g) (v : TaskId) (fp : String)
    (held : (w.putTask tid task).Holds v fp) : w.Holds v fp := by
  rcases holds_putTask held with ⟨old, -⟩ | ⟨-, j, snapshot, inside⟩
  · exact old
  · rw [queued] at inside
    cases inside

private theorem holds_entered {w : World} {tid : TaskId} {task : EvaluationTask} {id : LeaseId}
    {k : String} {s : RequestSnapshot} (entered : task.point = .executing id k s) (v : TaskId)
    (fp : String) (held : (w.putTask tid task).Holds v fp) : w.Holds v fp ∨ v = tid ∧ fp = k := by
  rcases holds_putTask held with ⟨old, -⟩ | ⟨same, j, snapshot, inside⟩
  · exact Or.inl old
  · rw [entered] at inside
    cases inside
    exact Or.inr ⟨same, rfl⟩

private theorem holds_of_inside {w : World} {tid : TaskId} {task : EvaluationTask} {id : LeaseId}
    {fp : String} {snapshot : RequestSnapshot} (here : w.task? tid = some task)
    (inside : task.point = .executing id fp snapshot) : w.Holds tid fp := by
  refine ⟨id, snapshot, ?_⟩
  rw [World.pointOf_eq here, inside]

/-- Every step keeps the locks exclusive. -/
theorem step_exclusive {cfg : ManagerConfig} {w w' : World} {a : Action}
    (stepped : step cfg w a = some w') (exclusive : Exclusive w.manager.locks w.Holds) :
    Exclusive w'.manager.locks w'.Holds := by
  cases step_cases stepped with
  | reused found => exact exclusive
  | resolverRaised missing raised => exact exclusive
  | created missing resolved => exact exclusive
  | operated operation known => exact exclusive
  | snapshotStored snapshot => exact exclusive
  | snapshotDropped fp => exact exclusive
  | clockSet now => exact exclusive
  | spawned starts unused =>
      exact exclusive.mono fun v k held => (holds_readied rfl v k held).1
  | unknownLease here ready queued missing =>
      exact exclusive.mono fun v k held => (holds_readied rfl v k held).1
  | decided here ready queued known runs =>
      exact exclusive.mono fun v k held => (holds_readied rfl v k held).1
  | waits here ready queued known authorised busy =>
      exact exclusive.keep rfl (holds_queued rfl)
  | refusedAtOnce here ready queued known authorised free refused =>
      have unheld := exclusive.not_holds (FifoLock.locked_eq_false_of_isFree free)
      have taken := exclusive.change_unheld (f := FifoLock.lock) unheld fun _ _ held => held
      exact taken.change_unheld unheld fun v k held => (holds_readied rfl v k held).1
  | sentAtOnce here ready queued known authorised free passed =>
      exact exclusive.acquire (FifoLock.locked_eq_false_of_isFree free) rfl (holds_entered rfl)
  | refusedAtLock here waiting first known refused =>
      have unheld := exclusive.not_holds (FifoLock.locked_eq_false_of_next? first)
      have taken := exclusive.change_unheld (f := FifoLock.grant) unheld fun _ _ held => held
      exact taken.change_unheld unheld fun v k held => (holds_readied rfl v k held).1
  | sentAtLock here waiting first known passed =>
      exact exclusive.acquire (FifoLock.locked_eq_false_of_next? first) rfl (holds_entered rfl)
  | returned here inside known =>
      exact exclusive.release (holds_of_inside here inside) (holds_readied rfl)
  | cancelledReady here ready =>
      exact exclusive.mono fun v k held => (holds_readied rfl v k held).1
  | cancelledWaiting here waiting =>
      exact exclusive.keep rfl fun v k held => (holds_readied rfl v k held).1
  | cancelledWarm here inside known =>
      exact exclusive.release (holds_of_inside here inside) (holds_readied rfl)

/-- In every world that a run from the start reaches, the locks are exclusive. -/
theorem run_exclusive {cfg : ManagerConfig} {start w : World} {acts : List Action}
    (initial : start.Initial) (run : exec cfg start acts = some w) :
    Exclusive w.manager.locks w.Holds := by
  apply Execution.invariant (I := fun u => Exclusive u.manager.locks u.Holds) _ _ run
  · obtain ⟨empty, idle⟩ := initial
    have nobody : ∀ tid fp, ¬ start.Holds tid fp := by
      rintro tid fp ⟨id, snapshot, inside⟩
      simp [World.pointOf, World.task?, idle] at inside
    exact
      { locked := fun tid fp held => absurd held (nobody tid fp)
        unique := fun tid _ fp held _ => absurd held (nobody tid fp) }
  · intro u a v stepped held
    exact step_exclusive stepped held

/-! ### Tasks stand at the lock of their lease -/

/-- The fields that fix which lease this is. -/
structure SameLease (t t' : TrackedLease) : Prop where
  session : t'.lease.sessionId = t.lease.sessionId
  provider : t'.lease.provider = t.lease.provider
  fingerprint : t'.lease.cacheFingerprint = t.lease.cacheFingerprint

theorem SameLease.trans {t u v : TrackedLease} (first : SameLease t u) (second : SameLease u v) :
    SameLease t v where
  session := second.session.trans first.session
  provider := second.provider.trans first.provider
  fingerprint := second.fingerprint.trans first.fingerprint

theorem Bookkeeping.sameLease {t t' : TrackedLease} (frame : Bookkeeping t t') :
    SameLease t t' where
  session := congrArg LeaseIdentity.sessionId frame.identity
  provider := congrArg LeaseIdentity.provider frame.identity
  fingerprint := congrArg LeaseIdentity.cacheFingerprint frame.identity

theorem Operation.sameLease {cfg : ManagerConfig} {now : ℚ} {id : LeaseId} {a : Action}
    {f : TrackedLease → TrackedLease} (operation : Operation cfg now id a f) (t : TrackedLease) :
    SameLease t (f t) := by
  rw [operation.frame t]
  exact ⟨rfl, rfl, rfl⟩

theorem sameLease_finishWarm (now : ℚ) (answer : ExecuteResult) (t : TrackedLease) :
    SameLease t (finishWarm now answer t).1 where
  session := congrArg LeaseIdentity.sessionId (finishWarm_identity now answer t)
  provider := congrArg LeaseIdentity.provider (finishWarm_identity now answer t)
  fingerprint := congrArg LeaseIdentity.cacheFingerprint (finishWarm_identity now answer t)

/-- No step turns a lease into another one. -/
theorem LeaseChange.sameLease {cfg : ManagerConfig} {w : World} {id : LeaseId} {a : Action}
    {t t' : TrackedLease} (change : LeaseChange cfg w id t a t') : SameLease t t' := by
  cases change with
  | bookkeeping quiet unreturned frame => exact frame.sameLease
  | superseded missing switched => exact ⟨rfl, rfl, rfl⟩
  | operated operation => exact operation.sameLease t
  | returned flying => exact sameLease_finishWarm _ _ t

/-- The task is at the lock of this fingerprint, waiting or holding, for this lease. -/
def World.StandsAt (w : World) (tid : TaskId) (id : LeaseId) (fp : String) : Prop :=
  (∃ g, w.WaitsAt tid id fp g) ∨ ∃ snapshot, w.pointOf tid = some (.executing id fp snapshot)

/-- Every suspended task stands at the lock of its lease's fingerprint. -/
def World.Placed (w : World) : Prop :=
  ∀ tid id fp, w.StandsAt tid id fp → ∃ t, w.lease? id = some t ∧ t.lease.cacheFingerprint = fp

theorem step_placed {cfg : ManagerConfig} {w w' : World} {a : Action}
    (stepped : step cfg w a = some w') (placed : w.Placed) : w'.Placed := by
  intro tid id fp stands
  have stays : ∀ t, w.lease? id = some t →
      ∃ t', w'.lease? id = some t' ∧ t'.lease.cacheFingerprint = t.lease.cacheFingerprint := by
    intro t tracked
    obtain ⟨t', tracked', change⟩ := step_change stepped tracked
    exact ⟨t', tracked', change.sameLease.fingerprint⟩
  have before : w.StandsAt tid id fp ∨
      ∃ t, w.lease? id = some t ∧ t.lease.cacheFingerprint = fp := by
    have effect := step_point stepped tid
    rcases stands with ⟨g, waiting⟩ | ⟨snapshot, inside⟩
    · rw [World.WaitsAt] at waiting
      rw [waiting] at effect
      generalize point : some (TaskPoint.atLock id fp g) = p at effect
      cases effect with
      | untouched elsewhere => exact Or.inl (Or.inl ⟨g, point.symm⟩)
      | readied => cases point
      | waits here ready queued known authorised consumed busy =>
          cases point
          exact Or.inr ⟨_, known, rfl⟩
      | sent known sends cleared => cases point
    · rw [inside] at effect
      generalize point : some (TaskPoint.executing id fp snapshot) = p at effect
      cases effect with
      | untouched elsewhere => exact Or.inl (Or.inr ⟨snapshot, point.symm⟩)
      | readied => cases point
      | waits here ready queued known authorised consumed busy => cases point
      | sent known sends cleared =>
          cases point
          cases sends with
          | atOnce here ready queued same authorised free => exact Or.inr ⟨_, known, same⟩
          | atLock waiting first => exact Or.inl (Or.inl ⟨_, waiting⟩)
  have anchored : ∃ t, w.lease? id = some t ∧ t.lease.cacheFingerprint = fp := by
    rcases before with old | new
    · exact placed tid id fp old
    · exact new
  obtain ⟨t, tracked, same⟩ := anchored
  obtain ⟨t', tracked', kept⟩ := stays t tracked
  exact ⟨t', tracked', kept.trans same⟩

theorem run_placed {cfg : ManagerConfig} {start w : World} {acts : List Action}
    (initial : start.Initial) (run : exec cfg start acts = some w) : w.Placed := by
  apply Execution.invariant (I := World.Placed) _ _ run
  · intro tid id fp stands
    obtain ⟨empty, idle⟩ := initial
    rcases stands with ⟨g, waiting⟩ | ⟨snapshot, inside⟩
    · simp [World.WaitsAt, World.pointOf, World.task?, idle] at waiting
    · simp [World.pointOf, World.task?, idle] at inside
  · intro u a v stepped placed
    exact step_placed stepped placed

/-- A task in flight holds the lock of its lease's fingerprint. -/
theorem holds_of_inFlight {w : World} (placed : w.Placed) {tid : TaskId} {id : LeaseId}
    {t : TrackedLease} (flying : w.inFlight tid = some id) (known : w.lease? id = some t) :
    w.Holds tid t.lease.cacheFingerprint := by
  obtain ⟨fp, snapshot, inside⟩ := World.inFlight_eq_some_iff.1 flying
  obtain ⟨u, tracked, same⟩ := placed tid id fp (Or.inr ⟨snapshot, inside⟩)
  rw [known] at tracked
  cases tracked
  rw [same]
  exact ⟨id, snapshot, inside⟩

/-- Two warms in flight for one cache fingerprint are one warm. -/
theorem inFlight_unique {w : World} (exclusive : Exclusive w.manager.locks w.Holds)
    (placed : w.Placed) {tid tid' : TaskId} {id id' : LeaseId} {t t' : TrackedLease}
    (flying : w.inFlight tid = some id) (flying' : w.inFlight tid' = some id')
    (known : w.lease? id = some t) (known' : w.lease? id' = some t')
    (shared : t.lease.cacheFingerprint = t'.lease.cacheFingerprint) : tid = tid' := by
  have one := holds_of_inFlight placed flying known
  have two := holds_of_inFlight placed flying' known'
  rw [← shared] at two
  exact exclusive.unique tid tid' _ one two

end CachePilot
