/-
Module: CachePilot.Core.EventLoop
Layer: Core
Purpose: The single-threaded event loop around the lease manager. A task runs the evaluations of a queue of
  leases: one lease for `evaluate_lease`, every tracked lease for `tick`. It suspends in two places only,
  at the lock of a cache fingerprint and inside the warm executor; `TaskPoint` says where. Everything
  between two suspensions is one step. All other manager operations run without suspending, so each is
  one step too, and a run is any sequence of steps. Between two evaluations of one tick the model lets
  other steps run, so it has every interleaving of the source and a few more.
Trusted boundary: the event loop switches tasks only where they await, and its locks are first come, first served
Main exports: TaskPoint, EvaluationTask, World, Action, World.inFlight, World.resume,
  World.executeReturns, step, WarmSent, Reachable
-/
import CachePilot.Core.Scheduler
import CachePilot.Lib.Execution

namespace CachePilot

/-- Where a task is. Waiting at a lock it remembers the generation that authorises its warm; inside the
    executor it holds the lock and the snapshot being replayed. -/
inductive TaskPoint where
  | ready
  | atLock (id : LeaseId) (cacheFingerprint : String) (scheduledGeneration : ℕ)
  | executing (id : LeaseId) (cacheFingerprint : String) (snapshot : RequestSnapshot)

/-- A task: the leases it has still to evaluate, where it is, and the decisions made so far. -/
structure EvaluationTask where
  queue : List LeaseId
  point : TaskPoint := .ready
  results : List (LeaseId × LeaseDecision) := []

/-- Everything the lease subsystem reads and writes: the manager, the snapshot store it shares with the
    relay, the tasks, and the clock. -/
structure World where
  manager : LeaseManager := {}
  snapshots : SnapshotStore := ∅
  tasks : Dict TaskId EvaluationTask := ∅
  clock : ℚ := 0

/-- The operations of the manager, the writes of its collaborators, and the scheduling choices of the
    event loop. -/
inductive Action where
  | findOrCreateLease (identity : LeaseIdentity) (estimatedTtlS : Option ℚ) (ttlConfidence : ℚ)
      (answer : ResolverAnswer)
  | arm (id : LeaseId)
  | invalidate (id : LeaseId)
  | complete (id : LeaseId)
  | targetStarted (id : LeaseId) (targetId : String)
  | targetFinished (id : LeaseId) (targetId : String)
  | beforeNormalRequest (id : LeaseId)
  | afterNormalRequest (id : LeaseId) (outcome : Outcome)
  | refreshTtl (id : LeaseId) (answer : ResolverAnswer)
  | reconcileRoute (id : LeaseId) (routeHash : String)
  | updateCostEstimates (id : LeaseId) (usage : TokenUsage)
  | storeSnapshot (snapshot : RequestSnapshot)
  | dropSnapshot (cacheFingerprint : String)
  | setClock (now : ℚ)
  | evaluateLease (tid : TaskId) (id : LeaseId)
  | tick (tid : TaskId)
  | resume (tid : TaskId)
  | executeReturns (tid : TaskId) (answer : ExecuteResult)
  | cancel (tid : TaskId)

namespace World

/-! ### Reading and writing one part of the world -/

def lease? (w : World) (id : LeaseId) : Option TrackedLease := w.manager.leases.get? id

def task? (w : World) (tid : TaskId) : Option EvaluationTask := w.tasks.get? tid

def lockOf (w : World) (cacheFingerprint : String) : FifoLock TaskId :=
  w.manager.locks.lockFor cacheFingerprint

def putLease (w : World) (id : LeaseId) (t : TrackedLease) : World :=
  { w with manager := { w.manager with leases := w.manager.leases.set id t } }

def putTask (w : World) (tid : TaskId) (task : EvaluationTask) : World :=
  { w with tasks := w.tasks.set tid task }

def changeLock (w : World) (cacheFingerprint : String) (f : FifoLock TaskId → FifoLock TaskId) :
    World :=
  { w with manager := { w.manager with locks := w.manager.locks.update cacheFingerprint f } }

section Frame

variable (w : World) (id id' : LeaseId) (tid tid' : TaskId) (t : TrackedLease)
  (task : EvaluationTask) (fp fp' : String) (f : FifoLock TaskId → FifoLock TaskId)

@[simp] theorem lease?_putLease :
    (w.putLease id t).lease? id' = if id' = id then some t else w.lease? id' :=
  Dict.get?_set _ _ _ _

@[simp] theorem task?_putLease : (w.putLease id t).task? tid = w.task? tid := rfl
@[simp] theorem lockOf_putLease : (w.putLease id t).lockOf fp = w.lockOf fp := rfl
@[simp] theorem snapshots_putLease : (w.putLease id t).snapshots = w.snapshots := rfl
@[simp] theorem clock_putLease : (w.putLease id t).clock = w.clock := rfl
@[simp] theorem index_putLease :
    (w.putLease id t).manager.byCacheFingerprint = w.manager.byCacheFingerprint := rfl
@[simp] theorem locks_putLease : (w.putLease id t).manager.locks = w.manager.locks := rfl

@[simp] theorem task?_putTask :
    (w.putTask tid task).task? tid' = if tid' = tid then some task else w.task? tid' :=
  Dict.get?_set _ _ _ _

@[simp] theorem lease?_putTask : (w.putTask tid task).lease? id = w.lease? id := rfl
@[simp] theorem lockOf_putTask : (w.putTask tid task).lockOf fp = w.lockOf fp := rfl
@[simp] theorem snapshots_putTask : (w.putTask tid task).snapshots = w.snapshots := rfl
@[simp] theorem clock_putTask : (w.putTask tid task).clock = w.clock := rfl
@[simp] theorem manager_putTask : (w.putTask tid task).manager = w.manager := rfl

@[simp] theorem lockOf_changeLock :
    (w.changeLock fp f).lockOf fp' = if fp' = fp then f (w.lockOf fp) else w.lockOf fp' :=
  LockTable.lockFor_update _ _ _ _

@[simp] theorem lease?_changeLock : (w.changeLock fp f).lease? id = w.lease? id := rfl
@[simp] theorem task?_changeLock : (w.changeLock fp f).task? tid = w.task? tid := rfl
@[simp] theorem snapshots_changeLock : (w.changeLock fp f).snapshots = w.snapshots := rfl
@[simp] theorem clock_changeLock : (w.changeLock fp f).clock = w.clock := rfl
@[simp] theorem index_changeLock :
    (w.changeLock fp f).manager.byCacheFingerprint = w.manager.byCacheFingerprint := rfl
@[simp] theorem locks_changeLock :
    (w.changeLock fp f).manager.locks = w.manager.locks.update fp f := rfl

end Frame

/-! ### Where the tasks are -/


/-- Where a task is. -/
def pointOf (w : World) (tid : TaskId) : Option TaskPoint :=
  (w.task? tid).map EvaluationTask.point

/-- The lease whose warm a task has in flight, if any. -/
def inFlight (w : World) (tid : TaskId) : Option LeaseId :=
  match w.pointOf tid with
  | some (.executing id _ _) => some id
  | _ => none

/-- The task is inside the executor and holds the lock of this fingerprint. -/
def Holds (w : World) (tid : TaskId) (fp : String) : Prop :=
  ∃ id snapshot, w.pointOf tid = some (.executing id fp snapshot)

/-- The task waits at the lock of this fingerprint, authorised for this generation of the lease. -/
def WaitsAt (w : World) (tid : TaskId) (id : LeaseId) (fp : String) (g : ℕ) : Prop :=
  w.pointOf tid = some (.atLock id fp g)

theorem pointOf_eq {w : World} {tid : TaskId} {task : EvaluationTask}
    (here : w.task? tid = some task) : w.pointOf tid = some task.point := by
  simp [pointOf, here]

@[simp] theorem pointOf_putTask (w : World) (tid tid' : TaskId) (task : EvaluationTask) :
    (w.putTask tid task).pointOf tid' =
      if tid' = tid then some task.point else w.pointOf tid' := by
  unfold pointOf
  rw [task?_putTask]
  split <;> rfl

@[simp] theorem pointOf_putLease (w : World) (id : LeaseId) (t : TrackedLease) (tid : TaskId) :
    (w.putLease id t).pointOf tid = w.pointOf tid := rfl

@[simp] theorem pointOf_changeLock (w : World) (fp : String)
    (f : FifoLock TaskId → FifoLock TaskId) (tid : TaskId) :
    (w.changeLock fp f).pointOf tid = w.pointOf tid := rfl

theorem inFlight_eq_some_iff {w : World} {tid : TaskId} {id : LeaseId} :
    w.inFlight tid = some id ↔
      ∃ fp snapshot, w.pointOf tid = some (.executing id fp snapshot) := by
  unfold inFlight
  constructor
  · intro found
    split at found
    · rename_i j fp snapshot place
      cases found
      exact ⟨fp, snapshot, place⟩
    · cases found
  · rintro ⟨fp, snapshot, place⟩
    rw [place]

theorem inFlight_of_inside {w : World} {tid : TaskId} {task : EvaluationTask} {id : LeaseId}
    {fp : String} {snapshot : RequestSnapshot} (here : w.task? tid = some task)
    (inside : task.point = .executing id fp snapshot) : w.inFlight tid = some id := by
  rw [inFlight_eq_some_iff, pointOf_eq here, inside]
  exact ⟨fp, snapshot, rfl⟩

/-- A task in flight is inside the executor. -/
theorem inside_of_inFlight {w : World} {tid : TaskId} {id : LeaseId}
    (flying : w.inFlight tid = some id) :
    ∃ task fp snapshot, w.task? tid = some task ∧ task.point = .executing id fp snapshot := by
  obtain ⟨fp, snapshot, place⟩ := inFlight_eq_some_iff.1 flying
  obtain ⟨task, here, inside⟩ := Option.map_eq_some_iff.1 place
  exact ⟨task, fp, snapshot, here, inside⟩

/-! ### Operations that do not suspend -/

/-- Apply a single-lease operation of the manager; an unknown id raises. -/
def modifyLease (w : World) (id : LeaseId) (f : TrackedLease → TrackedLease) : Option World :=
  (w.manager.modify id f).map fun manager => { w with manager }

/-- Start a task over a queue of leases. -/
def spawn (w : World) (tid : TaskId) (queue : List LeaseId) : Option World :=
  match w.task? tid with
  | some _ => none
  | none => some (w.putTask tid { queue })

/-! ### Evaluation tasks -/

/-- The current evaluation ends with a decision. -/
def finish (w : World) (tid : TaskId) (task : EvaluationTask) (id : LeaseId)
    (decision : LeaseDecision) : World :=
  w.putTask tid { task with point := .ready, results := task.results ++ [(id, decision)] }

/-- The body of the lock, entered with the lock held: either a check fails and the lock is released, or
    the warm starts and the task suspends in the executor. -/
def runLocked (cfg : ManagerConfig) (w : World) (tid : TaskId) (task : EvaluationTask)
    (id : LeaseId) (cacheFingerprint : String) (t : TrackedLease) (scheduledGeneration : ℕ) :
    World :=
  match underLock cfg w.snapshots t scheduledGeneration with
  | .error decision =>
      (w.changeLock cacheFingerprint FifoLock.release).finish tid task id decision
  | .ok snapshot =>
      (w.putLease id (startWarm t)).putTask tid
        { task with point := .executing id cacheFingerprint snapshot }

/-- Acquire the lock of the lease's fingerprint: at once when it is free, else queue for it. -/
def acquireLock (cfg : ManagerConfig) (w : World) (tid : TaskId) (task : EvaluationTask)
    (id : LeaseId) (t : TrackedLease) (scheduledGeneration : ℕ) : World :=
  let fp := t.lease.cacheFingerprint
  if (w.lockOf fp).isFree then
    (w.changeLock fp FifoLock.lock).runLocked cfg tid task id fp t scheduledGeneration
  else
    (w.changeLock fp (FifoLock.enqueue tid)).putTask tid
      { task with point := .atLock id fp scheduledGeneration }

/-- Evaluate the next lease of the queue, up to the next suspension. -/
def beginEvaluation (cfg : ManagerConfig) (w : World) (tid : TaskId) (task : EvaluationTask)
    (id : LeaseId) : World :=
  match w.lease? id with
  | none => w.finish tid task id .stoppedNoTargets
  | some t =>
      match evaluateLease cfg w.clock t with
      | (t', .done decision) => (w.putLease id t').finish tid task id decision
      | (t', .lock g) => (w.putLease id t').acquireLock cfg tid task id t' g

/-- Resume a task that is ready for its next lease, or that is first in line at an unheld lock. -/
def resume (cfg : ManagerConfig) (w : World) (tid : TaskId) : Option World :=
  match w.task? tid with
  | none => none
  | some task =>
      match task.point with
      | .ready =>
          match task.queue with
          | [] => none
          | id :: rest => some (w.beginEvaluation cfg tid { task with queue := rest } id)
      | .atLock id fp g =>
          if (w.lockOf fp).next? = some tid then
            match w.lease? id with
            | none => none
            | some t => some ((w.changeLock fp FifoLock.grant).runLocked cfg tid task id fp t g)
          else none
      | .executing _ _ _ => none

/-- The executor returns: the flag and the state are resolved, the outcome is folded into the lease, and
    the lock is released. -/
def executeReturns (w : World) (tid : TaskId) (answer : ExecuteResult) : Option World :=
  match w.task? tid with
  | none => none
  | some task =>
      match task.point with
      | .executing id fp _ =>
          match w.lease? id with
          | none => none
          | some t =>
              let (t', decision) := finishWarm w.clock answer t
              some (((w.putLease id t').changeLock fp FifoLock.release).finish tid task id
                decision)
      | _ => none

/-- Cancel a task: a waiter leaves the queue, a warm in flight is resolved without an outcome and its
    lock released, and the rest of the queue is never evaluated. -/
def cancelTask (w : World) (tid : TaskId) : Option World :=
  match w.task? tid with
  | none => none
  | some task =>
      let stopped : EvaluationTask := { task with queue := [], point := .ready }
      match task.point with
      | .ready => some (w.putTask tid stopped)
      | .atLock _ fp _ =>
          some ((w.changeLock fp (FifoLock.abandon tid)).putTask tid stopped)
      | .executing id fp _ =>
          match w.lease? id with
          | none => none
          | some t =>
              some (((w.putLease id (endWarm t)).changeLock fp FifoLock.release).putTask tid
                stopped)

end World

/-- One step of the event loop; `none` when the action cannot happen or raises. -/
def step (cfg : ManagerConfig) (w : World) : Action → Option World
  | .findOrCreateLease identity estimatedTtlS ttlConfidence answer =>
      some { w with manager :=
        (w.manager.findOrCreateLease cfg identity estimatedTtlS ttlConfidence answer).1 }
  | .arm id => w.modifyLease id TrackedLease.arm
  | .invalidate id => w.modifyLease id TrackedLease.invalidate
  | .complete id => w.modifyLease id TrackedLease.complete
  | .targetStarted id targetId => w.modifyLease id (TrackedLease.targetStarted targetId)
  | .targetFinished id targetId => w.modifyLease id (TrackedLease.targetFinished targetId)
  | .beforeNormalRequest id => w.modifyLease id (TrackedLease.beforeNormalRequest w.clock)
  | .afterNormalRequest id outcome =>
      w.modifyLease id (TrackedLease.afterNormalRequest w.clock outcome)
  | .refreshTtl id answer => w.modifyLease id (TrackedLease.refreshTtl answer)
  | .reconcileRoute id routeHash => w.modifyLease id (TrackedLease.reconcileRoute routeHash)
  | .updateCostEstimates id usage => w.modifyLease id (TrackedLease.updateCostEstimates cfg usage)
  | .storeSnapshot snapshot => some { w with snapshots := w.snapshots.store snapshot }
  | .dropSnapshot fp => some { w with snapshots := w.snapshots.drop fp }
  | .setClock now => some { w with clock := now }
  | .evaluateLease tid id => w.spawn tid [id]
  | .tick tid => w.spawn tid w.manager.leases.keys
  | .resume tid => w.resume cfg tid
  | .executeReturns tid answer => w.executeReturns tid answer
  | .cancel tid => w.cancelTask tid

/-- The step from `w` to `w'` invokes the warm executor for a lease, from this task. -/
def WarmSent (w w' : World) (tid : TaskId) (id : LeaseId) : Prop :=
  w'.inFlight tid = some id ∧ w.inFlight tid ≠ some id

instance (w w' : World) (tid : TaskId) (id : LeaseId) : Decidable (WarmSent w w' tid id) :=
  inferInstanceAs (Decidable (_ ∧ _))

/-- Runs of the event loop. -/
abbrev exec (cfg : ManagerConfig) : World → List Action → Option World :=
  Execution.exec (step cfg)

/-- The relay starts with an empty manager, no tasks, and whatever snapshots and clock there are. -/
def World.Initial (w : World) : Prop :=
  w.manager = {} ∧ w.tasks = ∅

/-- The worlds that some run from an empty manager reaches. -/
def Reachable (cfg : ManagerConfig) (w : World) : Prop :=
  ∃ start acts, World.Initial start ∧ exec cfg start acts = some w

/-! ### A sample run -/

/-- The manager of a relay that may warm: no dry run, no economics, both collaborators injected. -/
def sampleConfig : ManagerConfig where
  settings := { LeaseSettings.standard with
    dryRun := false
    economics := { EconomicConfig.standard with enabled := false } }
  hasSnapshotStore := true
  hasWarmExecutor := true

/-- A cache identity of a session with one provider. -/
def sampleIdentity (session cacheFingerprint : String) : LeaseIdentity where
  sessionId := session
  provider := "provider"
  model := "model"
  apiMode := "chat_completions"
  baseUrl := "https://upstream"
  authScopeHash := "auth"
  routeFingerprint := none
  requestFingerprint := "request"
  cacheFingerprint := cacheFingerprint
  systemFingerprint := "system"
  toolsFingerprint := "tools"
  historyPrefixFingerprint := "history"

def sampleSnapshot (cacheFingerprint : String) : RequestSnapshot where
  cacheFingerprint := cacheFingerprint
  body := []
  upstreamUrl := "https://upstream"
  storedAt := 0

/-- A session creates its lease for a cache identity. -/
def sampleCreate (session cacheFingerprint : String) : Action :=
  .findOrCreateLease (sampleIdentity session cacheFingerprint) none (1 / 2) .noResolver

/-- A lease with one target has just been touched by a normal request, with its snapshot stored. -/
def sampleTouch (id : LeaseId) (cacheFingerprint : String) : List Action :=
  [.targetStarted id "bg-1", .beforeNormalRequest id,
    .storeSnapshot (sampleSnapshot cacheFingerprint), .afterNormalRequest id .confirmedHit]

/-- One session with one lease, due for its first warm. -/
def sampleDue : List Action := sampleCreate "s" "fp" :: sampleTouch 0 "fp" ++ [.setClock 1000]

/-- A task is about to evaluate the due lease. -/
def sampleReady : List Action := sampleDue ++ [.evaluateLease 0 0]

/-- Two sessions share the cache identity, and both leases are due. The warm of the first holds the lock,
    and an evaluation of the second waits for it. -/
def sampleShared : List Action :=
  sampleCreate "s" "fp" :: sampleTouch 0 "fp" ++ sampleCreate "t" "fp" :: sampleTouch 1 "fp" ++
    [.setClock 1000, .evaluateLease 0 0, .resume 0, .evaluateLease 1 1, .resume 1]

theorem World.initial_empty : World.Initial {} := ⟨rfl, rfl⟩

/-- The world that a list of actions reaches from the empty one. -/
def sampleAt (acts : List Action) : World := Execution.final (step sampleConfig) {} acts

theorem exec_sampleAt {acts : List Action} (runs : (exec sampleConfig {} acts).isSome = true) :
    exec sampleConfig {} acts = some (sampleAt acts) :=
  Execution.exec_eq_final runs

/-- The run is enabled, and its lease goes into the executor on the next evaluation. -/
example :
    (exec sampleConfig {} (sampleReady ++ [.resume 0])).map (fun w => w.inFlight 0) =
      some (some 0) := by
  decide +kernel

end CachePilot
