/-
Module: CachePilot.Proofs.PersistedLeases
Layer: Proofs
Purpose: The stored rows against the leases in memory. A row may lag behind while a tick is under way: the tick
  writes the leases it changed when it is over, and a lease whose warm is in flight once that warm has ended. These
  leases are unsaved; every other row is current as long as each step writes what it changes. Six kinds of
  step do not: an identity switch, a resolver that raises, an economic stop, a declined warm, a cancelled tick, and
  a call that completes while another tick has unsaved leases.
Trusted boundary: none
Main exports: LeaseRow.Shows, Unsaved, WritesChanges, RowsTracked, rows_agree_of_writes
-/
import CachePilot.Relay.Persistence
import CachePilot.Proofs.Snapshots

namespace CachePilot

/-! ### What a row shows -/

/-- The row shows the lease's generation, targets, warms and last touch. -/
def LeaseRow.ShowsFigures (prims : TextPrimitives) (row : LeaseRow) (lease : CacheLease) : Prop :=
  row.generation = lease.generation ∧ row.activeTargetsJson = lease.targetsText ∧
    row.warmCount = lease.warmCount ∧ row.warmCostUsd = prims.floatRepr lease.warmCostUsd ∧
      row.lastCacheTouchAt = lease.lastCacheTouchAt

/-- The row shows the lease's state. -/
def LeaseRow.ShowsState (row : LeaseRow) (lease : CacheLease) : Prop := row.state = lease.state.value

instance (row : LeaseRow) (lease : CacheLease) : Decidable (row.ShowsState lease) :=
  inferInstanceAs (Decidable (_ = _))

/-- The row shows the lease as it is. -/
def LeaseRow.Shows (prims : TextPrimitives) (row : LeaseRow) (lease : CacheLease) : Prop :=
  row.ShowsFigures prims lease ∧ row.ShowsState lease

instance (prims : TextPrimitives) (row : LeaseRow) (lease : CacheLease) : Decidable (row.Shows prims lease) :=
  inferInstanceAs (Decidable ((_ ∧ _ ∧ _ ∧ _ ∧ _) ∧ _ = _))

/-- The stored row of the lease shows it as it is. -/
def RowCurrent (prims : TextPrimitives) (r : PersistedRelay) (id : LeaseId) : Prop :=
  ∀ t ∈ r.world.lease? id, ∃ row ∈ r.store.select id, row.Shows prims t.lease

instance (prims : TextPrimitives) (r : PersistedRelay) (id : LeaseId) : Decidable (RowCurrent prims r id) :=
  inferInstanceAs (Decidable (∀ t ∈ _, ∃ row ∈ _, _))

/-- Every lease is persisted when it is created, so these are the leases that were ever persisted. -/
def RowsAgree (prims : TextPrimitives) (r : PersistedRelay) : Prop :=
  ∀ id ∈ r.world.manager.leases.keys, RowCurrent prims r id

instance (prims : TextPrimitives) (r : PersistedRelay) : Decidable (RowsAgree prims r) :=
  inferInstanceAs (Decidable (∀ id ∈ _, _))

/-! ### Leases that a tick has still to write -/

/-- The leases that a task will write when its tick is over. -/
def EvaluationTask.pending (task : EvaluationTask) : List LeaseId :=
  match task.done? with
  | some _ => []
  | none => toPersist task.results

/-- The lease whose warm the task has in flight. -/
def EvaluationTask.warming? (task : EvaluationTask) : Option LeaseId :=
  match task.point with
  | .executing id _ _ => some id
  | _ => none

/-- Some tick will write the lease. -/
def Pending (tasks : Dict TaskId EvaluationTask) (id : LeaseId) : Prop :=
  ∃ task ∈ tasks.values, id ∈ task.pending

/-- Some task has a warm of the lease in flight. -/
def Warming (tasks : Dict TaskId EvaluationTask) (id : LeaseId) : Prop :=
  ∃ task ∈ tasks.values, task.warming? = some id

/-- The row of the lease may lag behind. -/
def Unsaved (tasks : Dict TaskId EvaluationTask) (id : LeaseId) : Prop := Pending tasks id ∨ Warming tasks id

instance (tasks : Dict TaskId EvaluationTask) (id : LeaseId) : Decidable (Unsaved tasks id) :=
  inferInstanceAs (Decidable ((∃ task ∈ _, _) ∨ ∃ task ∈ _, _))

/-! ### Steps that write what they change -/

/-- The request is correlated with a lease. -/
def Tracks (cfg : ControllerConfig) (request : StartRequest) : Prop :=
  cfg.enabled = true ∧ request.identity.sessionId ≠ ""

instance (cfg : ControllerConfig) (request : StartRequest) : Decidable (Tracks cfg request) :=
  inferInstanceAs (Decidable (_ ∧ _))

/-- The start of a request switches no lease off, and the rows of other unsaved leases are current. -/
def StartWrites (cfg : ControllerConfig) (prims : TextPrimitives) (r : PersistedRelay) (request : StartRequest) :
    Prop :=
  (Tracks cfg request ∧ r.world.manager.findExisting request.identity = none →
    ∀ t ∈ r.world.manager.leases.values, LeaseManager.supersedes request.identity t = false) ∧
  ∀ id ∈ r.world.manager.leases.keys, Unsaved r.world.tasks id →
    (Tracks cfg request ∧ r.world.manager.findExisting request.identity = some id) ∨ RowCurrent prims r id

instance (cfg : ControllerConfig) (prims : TextPrimitives) (r : PersistedRelay) (request : StartRequest) :
    Decidable (StartWrites cfg prims r request) :=
  inferInstanceAs (Decidable ((_ → ∀ t ∈ _, _) ∧ ∀ id ∈ _, _ → _ ∨ _))

/-- At the end of a request the resolver raises only if the request leaves its lease alone, and the rows of other
    unsaved leases are current. -/
def EndWrites (cfg : ControllerConfig) (prims : TextPrimitives) (r : PersistedRelay) (ctx : LeaseRequestContext)
    (outcome : Outcome) (answer : ResolverAnswer) : Prop :=
  (answer = .raised → outcome = .failed ∨ ∀ t ∈ r.world.lease? ctx.leaseId, t.lease.state = .invalidated) ∧
  ∀ id ∈ r.world.manager.leases.keys, Unsaved r.world.tasks id →
    (cfg.enabled = true ∧ answer ≠ .raised ∧ id = ctx.leaseId) ∨ RowCurrent prims r id

instance (cfg : ControllerConfig) (prims : TextPrimitives) (r : PersistedRelay) (ctx : LeaseRequestContext)
    (outcome : Outcome) (answer : ResolverAnswer) : Decidable (EndWrites cfg prims r ctx outcome answer) :=
  inferInstanceAs (Decidable ((_ → _ ∨ ∀ t ∈ _, _) ∧ ∀ id ∈ _, _ → _ ∨ _))

/-- The evaluation of the lease ends at the economic gate. -/
def StopsUneconomic (cfg : ManagerConfig) (now : ℚ) (t : TrackedLease) : Prop :=
  (t.lease.activeTargets ≠ ∅ ∧ t.runtime.realRequestActive = false ∧ t.runtime.warmRequestActive = false ∧
    t.lease.state ≠ .invalidated ∧ t.runtime.circuitOpen = false) ∧
  IsDue cfg now t.lease ∧ economicGate cfg t.lease = false

instance (cfg : ManagerConfig) (now : ℚ) (t : TrackedLease) : Decidable (StopsUneconomic cfg now t) :=
  inferInstanceAs (Decidable ((_ ∧ _ ∧ _ ∧ _ ∧ _) ∧ _ ∧ _))

/-- The lease that a task evaluates next. -/
def World.nextLease (w : World) (tid : TaskId) : Option LeaseId :=
  match w.task? tid with
  | some ⟨id :: _, .ready, _⟩ => some id
  | _ => none

/-- The row of a lease whose warm is in flight already shows the state that the end of the warm leaves. -/
def RowRearmed (r : PersistedRelay) (tid : TaskId) : Prop :=
  ∀ id ∈ r.world.inFlight tid, ∀ t ∈ r.world.lease? id, ∀ row ∈ r.store.select id,
    row.ShowsState t.lease.arm

instance (r : PersistedRelay) (tid : TaskId) : Decidable (RowRearmed r tid) :=
  inferInstanceAs (Decidable (∀ id ∈ _, ∀ t ∈ _, ∀ row ∈ _, _))

/-- The gate stops only leases that it has stopped before, a warm that is declined or cancelled ends on a lease whose
    row shows it rearmed, and a cancelled tick leaves only current rows behind. -/
def ActionWrites (cfg : ManagerConfig) (prims : TextPrimitives) (r : PersistedRelay) : Action → Prop
  | .resume tid =>
      ∀ id ∈ r.world.nextLease tid, ∀ t ∈ r.world.lease? id,
        StopsUneconomic cfg r.world.clock t → t.lease.state = .economicStop
  | .executeReturns tid answer => answer.toWarmResult.outcome = none → RowRearmed r tid
  | .cancel tid =>
      RowRearmed r tid ∧ ∀ task ∈ r.world.task? tid, ∀ id ∈ task.pending, RowCurrent prims r id
  | _ => True

instance (cfg : ManagerConfig) (prims : TextPrimitives) (r : PersistedRelay) :
    ∀ a, Decidable (ActionWrites cfg prims r a)
  | .resume _ => inferInstanceAs (Decidable (∀ id ∈ _, ∀ t ∈ _, _ → _ = _))
  | .executeReturns _ _ => inferInstanceAs (Decidable (_ → _))
  | .cancel _ => inferInstanceAs (Decidable (_ ∧ ∀ task ∈ _, ∀ id ∈ _, _))
  | .findOrCreateLease _ _ _ _ | .arm _ | .invalidate _ | .complete _ | .targetStarted _ _
  | .targetFinished _ _ | .beforeNormalRequest _ | .afterNormalRequest _ _ | .refreshTtl _ _
  | .reconcileRoute _ _ | .updateCostEstimates _ _ | .storeSnapshot _ | .dropSnapshot _ | .setClock _
  | .evaluateLease _ _ | .tick _ => .isTrue trivial

/-- When a tick is over, the rows of the leases that other ticks have not saved are current. -/
def TickWrites (cfg : ManagerConfig) (prims : TextPrimitives) (r : PersistedRelay) (a : Action) : Prop :=
  ∀ tid ∈ a.ticking?, ∀ w ∈ step cfg r.world a, (completedTick a w).isSome = true →
    ∀ id ∈ r.world.manager.leases.keys, Unsaved (r.world.tasks.erase tid) id → RowCurrent prims r id

instance (cfg : ManagerConfig) (prims : TextPrimitives) (r : PersistedRelay) (a : Action) :
    Decidable (TickWrites cfg prims r a) :=
  inferInstanceAs (Decidable (∀ tid ∈ _, ∀ w ∈ _, _ → ∀ id ∈ _, _ → _))

/-- The step writes what it changes. -/
def WritesChanges (cfg : ControllerConfig) (prims : TextPrimitives) (r : PersistedRelay) : RelayAction → Prop
  | .requestStart request => StartWrites cfg prims r request
  | .requestEnd ctx outcome _ _ answer => EndWrites cfg prims r ctx outcome answer
  | .scheduler a => ActionWrites cfg.manager prims r a ∧ TickWrites cfg.manager prims r a

instance (cfg : ControllerConfig) (prims : TextPrimitives) (r : PersistedRelay) :
    ∀ a, Decidable (WritesChanges cfg prims r a)
  | .requestStart _ => inferInstanceAs (Decidable (StartWrites cfg prims r _))
  | .requestEnd _ _ _ _ _ => inferInstanceAs (Decidable (EndWrites cfg prims r _ _ _))
  | .scheduler _ => inferInstanceAs (Decidable (_ ∧ _))

/-! ### Writing rows -/

section Persist

variable {prims : TextPrimitives} {w : World} {store : LeaseTable} {id : LeaseId}

theorem select_updateLease {values : LeaseRow} {store' : LeaseTable}
    (updated : store.updateLease values = some store') (other : LeaseId) :
    store'.select other = if other = values.leaseId then [values] else store.select other := by
  unfold LeaseTable.updateLease at updated
  rw [LeaseTable.select_insert updated, LeaseTable.select_delete]
  split
  · rfl
  · rfl

/-- The insert of an update never meets the unique constraint. -/
theorem updateLease_succeeds (store : LeaseTable) (values : LeaseRow) :
    ∃ store', store.updateLease values = some store' := by
  apply Option.isSome_iff_exists.1
  unfold LeaseTable.updateLease
  rw [LeaseTable.insert_isSome_iff, LeaseTable.select_delete, if_pos rfl]

/-- Every tracked lease has its key as its id. -/
def World.Keyed (w : World) : Prop := ∀ id t, w.lease? id = some t → t.lease.leaseId = id

/-- A snapshot of a tracked lease replaces its rows by one that shows it as it is. -/
theorem select_persist {t : TrackedLease} (keyed : w.Keyed) (known : w.lease? id = some t) (other : LeaseId) :
    (persist prims w store id).select other =
      if other = id then [leaseRowValues prims t.lease w.clock] else store.select other := by
  unfold persist
  rw [known]
  dsimp only
  obtain ⟨store', updated⟩ := updateLease_succeeds store (leaseRowValues prims t.lease w.clock)
  have named : (leaseRowValues prims t.lease w.clock).leaseId = id := keyed id t known
  rw [updated, Option.getD_some, select_updateLease updated, named]

theorem select_persist_other {other : LeaseId} (keyed : w.Keyed) (different : other ≠ id) :
    (persist prims w store id).select other = store.select other := by
  cases known : w.lease? id with
  | some t => rw [select_persist keyed known, if_neg different]
  | none =>
      unfold persist
      rw [known]

/-- After several snapshots, the leases among them have rows that show them as they are. -/
theorem select_foldl_persist (keyed : w.Keyed) (ids : List LeaseId) (store : LeaseTable) {t : TrackedLease}
    (known : w.lease? id = some t) :
    (ids.foldl (persist prims w) store).select id =
      if id ∈ ids then [leaseRowValues prims t.lease w.clock] else store.select id := by
  induction ids generalizing store with
  | nil => rfl
  | cons first rest ih =>
      rw [List.foldl_cons, ih]
      by_cases later : id ∈ rest
      · rw [if_pos later, if_pos (List.mem_cons_of_mem first later)]
      · rw [if_neg later]
        by_cases same : id = first
        · subst same
          rw [select_persist keyed known, if_pos rfl, if_pos List.mem_cons_self]
        · have absent : id ∉ first :: rest := by simp [same, later]
          rw [select_persist_other keyed same, if_neg absent]

theorem shows_leaseRowValues (prims : TextPrimitives) (lease : CacheLease) (now : ℚ) :
    (leaseRowValues prims lease now).Shows prims lease := ⟨⟨rfl, rfl, rfl, rfl, rfl⟩, rfl⟩

end Persist

/-! ### Leases keep their ids -/

theorem step_keyed {cfg : ManagerConfig} {w w' : World} {a : Action} (stepped : step cfg w a = some w')
    (keyed : w.Keyed) : w'.Keyed := by
  intro id t' known'
  cases known : w.lease? id with
  | some t =>
      obtain ⟨x, tracked, change⟩ := step_change stepped known
      rw [known'] at tracked
      cases tracked
      cases change with
      | bookkeeping quiet unreturned frame =>
          rw [frame.lease]
          exact keyed id t known
      | superseded missing switched => exact keyed id t known
      | operated operation =>
          rw [operation.frame t]
          exact keyed id t known
      | returned flying =>
          rw [finishWarm_frame]
          exact keyed id t known
  | none =>
      obtain ⟨identity, ttl, confidence, answer, ttlS, c, -, -, -, new⟩ := step_creates stepped known known'
      rw [new]
      rfl

theorem Reaches.keyed {cfg : ManagerConfig} {w w' : World} (reaches : Reaches cfg w w') (keyed : w.Keyed) :
    w'.Keyed := by
  obtain ⟨acts, run⟩ := reaches
  exact Execution.invariant (I := World.Keyed) keyed (fun u b v stepped held => step_keyed stepped held) run

/-! ### What lags behind -/

theorem pending_iff {tasks : Dict TaskId EvaluationTask} {id : LeaseId} (tid : TaskId) :
    Pending tasks id ↔
      (∃ task, tasks.get? tid = some task ∧ id ∈ task.pending) ∨ Pending (tasks.erase tid) id :=
  Dict.exists_mem_values_iff tasks tid

theorem warming_iff {tasks : Dict TaskId EvaluationTask} {id : LeaseId} (tid : TaskId) :
    Warming tasks id ↔
      (∃ task, tasks.get? tid = some task ∧ task.warming? = some id) ∨ Warming (tasks.erase tid) id :=
  Dict.exists_mem_values_iff tasks tid

theorem pending_set {tasks : Dict TaskId EvaluationTask} {id : LeaseId} {tid : TaskId} {task : EvaluationTask} :
    Pending (tasks.set tid task) id ↔ id ∈ task.pending ∨ Pending (tasks.erase tid) id :=
  Dict.exists_mem_values_set tasks tid task

theorem warming_set {tasks : Dict TaskId EvaluationTask} {id : LeaseId} {tid : TaskId} {task : EvaluationTask} :
    Warming (tasks.set tid task) id ↔ task.warming? = some id ∨ Warming (tasks.erase tid) id :=
  Dict.exists_mem_values_set tasks tid task

theorem warming_inFlight {w : World} {tid : TaskId} {id : LeaseId} :
    (∃ task, w.tasks.get? tid = some task ∧ task.warming? = some id) ↔ w.inFlight tid = some id := by
  unfold World.inFlight World.pointOf World.task? EvaluationTask.warming?
  cases w.tasks.get? tid with
  | none => simp
  | some task =>
      cases task with
      | mk queue point results =>
          cases point with
          | ready => simp
          | atLock j fp g => simp
          | executing j fp snapshot => simp

/-! ### What a scheduler step does to one lease and to the results -/

/-- The two leases have the same generation, targets, warms and last touch. -/
structure SameFigures (lease lease' : CacheLease) : Prop where
  generation : lease'.generation = lease.generation
  targets : lease'.activeTargets = lease.activeTargets
  warmCount : lease'.warmCount = lease.warmCount
  warmCost : lease'.warmCostUsd = lease.warmCostUsd
  touch : lease'.lastCacheTouchAt = lease.lastCacheTouchAt

theorem SameFigures.refl (lease : CacheLease) : SameFigures lease lease := ⟨rfl, rfl, rfl, rfl, rfl⟩

theorem SameFigures.shows {prims : TextPrimitives} {row : LeaseRow} {lease lease' : CacheLease}
    (same : SameFigures lease lease') (shows : row.ShowsFigures prims lease) : row.ShowsFigures prims lease' := by
  obtain ⟨generation, targets, warmCount, warmCost, touch⟩ := shows
  unfold LeaseRow.ShowsFigures CacheLease.targetsText
  rw [same.generation, same.targets, same.warmCount, same.warmCost, same.touch]
  exact ⟨generation, targets, warmCount, warmCost, touch⟩

theorem Bookkeeping.sameFigures {t t' : TrackedLease} (frame : Bookkeeping t t') :
    SameFigures t.lease t'.lease :=
  ⟨frame.generation, frame.targets, frame.warmCount, frame.warmCost, frame.touch⟩

/-- An evaluation that the gate ends met its conditions. -/
theorem stopsUneconomic_of_runs {cfg : ManagerConfig} {now : ℚ} {t t' : TrackedLease}
    (runs : evaluateLease cfg now t = (t', .done .stoppedEconomic)) : StopsUneconomic cfg now t := by
  unfold evaluateLease at runs
  split at runs
  · cases runs
  rename_i targets
  split at runs
  · cases runs
  rename_i idle
  split at runs
  · cases runs
  rename_i cool
  split at runs
  · cases runs
  rename_i valid
  split at runs
  · cases runs
  rename_i closed
  split at runs
  · cases runs
  rename_i dueAt deadline
  split at runs
  · cases runs
  rename_i due
  dsimp only at runs
  split at runs
  · unfold warmIfDue at runs
    dsimp only at runs
    split at runs
    · cases runs
    split at runs
    · cases runs
    · cases runs
  · rename_i refused
    exact ⟨⟨targets, by simpa using idle, by simpa using cool, valid, by simpa using closed⟩,
      ⟨dueAt, deadline, not_lt.1 due⟩, by simpa using refused⟩

/-- What a scheduler step means for the row of one lease: nothing; the tick will write it, or has just come to its
    end; a warm was sent; or a warm has ended that no tick will write, on a row that shows the lease rearmed. -/
inductive RowEffect (w w' : World) (store : LeaseTable) (a : Action) (id : LeaseId) (t t' : TrackedLease) :
    Prop where
  | untouched (figures : SameFigures t.lease t'.lease) (state : t'.lease.state = t.lease.state)
      (elsewhere : ∀ tid, a.task? = some tid → w.inFlight tid ≠ some id)
  | owed {tid task} (ticking : a.ticking? = some tid) (here : w'.task? tid = some task)
      (decided : id ∈ toPersist task.results)
  | sent {tid} (figures : SameFigures t.lease t'.lease) (ticking : a.ticking? = some tid)
      (inside : w'.inFlight tid = some id)
  | rearmed (figures : SameFigures t.lease t'.lease)
      (shown : ∀ row ∈ store.select id, row.ShowsState t'.lease)

theorem mem_toPersist_last {results : List (LeaseId × LeaseDecision)} {id : LeaseId} {decision : LeaseDecision}
    (durable : decision ∈ persistOn) : id ∈ toPersist (results ++ [(id, decision)]) := by
  unfold toPersist
  apply List.mem_map.2
  refine ⟨(id, decision), List.mem_filter.2 ⟨List.mem_append_right _ (List.mem_singleton.2 rfl), ?_⟩, rfl⟩
  exact decide_eq_true durable

/-- The decision of a warm that ran changes durable fields. -/
theorem finishWarm_persists {now : ℚ} {answer : ExecuteResult} {t : TrackedLease} {outcome : Outcome}
    (ran : answer.toWarmResult.outcome = some outcome) : (finishWarm now answer t).2 ∈ persistOn := by
  have warmed : (finishWarm now answer t).2 ∈ [LeaseDecision.warmedConfirmedHit, .warmedMissRebuilt,
      .warmedUnverified, .warmedFailed] := by
    unfold finishWarm applyWarmResult
    rw [ran]
    cases outcome with
    | confirmedHit => simp
    | missRebuilt => simp
    | successUnverified => simp
    | failed => simp
  exact List.mem_cons_of_mem _ warmed

theorem inFlight_ready {w : World} {tid : TaskId} {task : EvaluationTask} (here : w.task? tid = some task)
    (ready : task.point = .ready) (id : LeaseId) : w.inFlight tid ≠ some id := by
  intro flying
  obtain ⟨x, fp, snapshot, found, inside⟩ := World.inside_of_inFlight flying
  rw [here] at found
  cases found
  rw [ready] at inside
  cases inside

theorem inFlight_waiting {w : World} {tid : TaskId} {task : EvaluationTask} {j : LeaseId} {fp : String} {g : ℕ}
    (here : w.task? tid = some task) (waiting : task.point = .atLock j fp g) (id : LeaseId) :
    w.inFlight tid ≠ some id := by
  intro flying
  obtain ⟨x, fp', snapshot, found, inside⟩ := World.inside_of_inFlight flying
  rw [here] at found
  cases found
  rw [waiting] at inside
  cases inside

/-- A task that has no warm of the lease in flight is not one whose warm of the lease may end. -/
theorem elsewhere_of_inFlight {w : World} {a : Action} {tid : TaskId} {id : LeaseId} (moves : a.task? = some tid)
    (outside : w.inFlight tid ≠ some id) : ∀ u, a.task? = some u → w.inFlight u ≠ some id := by
  intro u named
  rw [moves] at named
  cases named
  exact outside

theorem inFlight_other {w : World} {tid : TaskId} {id j : LeaseId} (flying : w.inFlight tid = some j)
    (differ : ¬ id = j) : w.inFlight tid ≠ some id := by
  intro own
  rw [flying] at own
  exact differ (Option.some.inj own).symm

/-- An evaluation without a warm: it decides for good, or the tick will write what it decided, or the lease was
    stopped before. -/
theorem evaluated_rowEffect {cfg : ManagerConfig} {prims : TextPrimitives} {r : PersistedRelay} {tid : TaskId}
    {task : EvaluationTask} {id : LeaseId} {rest : List LeaseId} {t t' : TrackedLease} {decision : LeaseDecision}
    (here : r.world.task? tid = some task) (ready : task.point = .ready) (queued : task.queue = id :: rest)
    (known : r.world.lease? id = some t)
    (runs : evaluateLease cfg r.world.clock t = (t', .done decision))
    (writes : ActionWrites cfg prims r (.resume tid)) :
    RowEffect r.world ((r.world.putLease id t').finish tid { task with queue := rest } id decision) r.store
      (.resume tid) id t t' := by
  have elsewhere : ∀ u, (Action.resume tid).task? = some u → r.world.inFlight u ≠ some id :=
    elsewhere_of_inFlight rfl (inFlight_ready here ready id)
  have next : r.world.nextLease tid = some id := by
    unfold World.nextLease
    rw [here]
    cases task with
    | mk queue point results =>
        cases queued
        cases ready
        rfl
  cases evaluated_of_runs runs with
  | stopped decision other => exact .untouched (.refl t.lease) rfl elsewhere
  | scheduled guards => exact .owed rfl (Dict.get?_set_self _ tid _) (mem_toPersist_last (by decide))
  | uneconomic guards =>
      have before := writes id next t known (stopsUneconomic_of_runs runs)
      exact .untouched (Bookkeeping.stopEconomically cfg t).sameFigures before.symm elsewhere
  | stale guards =>
      exact .untouched (Bookkeeping.consumeSchedule cfg t).sameFigures (consumeSchedule_state cfg t) elsewhere

/-- A warm that returns: the tick will write the lease, or the executor declined and the row shows it rearmed. -/
theorem returned_rowEffect {cfg : ManagerConfig} {prims : TextPrimitives} {r : PersistedRelay} {tid : TaskId}
    {task : EvaluationTask} {id : LeaseId} {fp : String} {t : TrackedLease} {answer : ExecuteResult}
    (flying : r.world.inFlight tid = some id) (known : r.world.lease? id = some t)
    (writes : ActionWrites cfg prims r (.executeReturns tid answer)) :
    RowEffect r.world
      (((r.world.putLease id (finishWarm r.world.clock answer t).1).changeLock fp FifoLock.release).finish
        tid task id (finishWarm r.world.clock answer t).2)
      r.store (.executeReturns tid answer) id t (finishWarm r.world.clock answer t).1 := by
  cases ran : answer.toWarmResult.outcome with
  | none =>
      have ended : (finishWarm r.world.clock answer t).1 = endWarm t := by
        rcases finishWarm_cases r.world.clock answer t with ⟨-, same⟩ | ⟨other, -⟩ | ⟨o, other, -⟩
        · exact same
        · rw [ran] at other
          cases other
        · rw [ran] at other
          cases other
      rw [ended]
      exact .rearmed (Bookkeeping.endWarm t).sameFigures (writes ran id flying t known)
  | some outcome => exact .owed rfl (Dict.get?_set_self _ tid _) (mem_toPersist_last (finishWarm_persists ran))

theorem scheduler_rowEffect {cfg : ManagerConfig} {prims : TextPrimitives} {r : PersistedRelay} {w' : World}
    {a : Action} {id : LeaseId} {t : TrackedLease} (stepped : step cfg r.world a = some w')
    (scheduled : a.isScheduler = true) (writes : ActionWrites cfg prims r a)
    (known : r.world.lease? id = some t) :
    ∃ t', w'.lease? id = some t' ∧ RowEffect r.world w' r.store a id t t' := by
  have same : SameFigures t.lease t.lease := .refl t.lease
  have consumed : SameFigures t.lease (consumeSchedule cfg t).lease :=
    (Bookkeeping.consumeSchedule cfg t).sameFigures
  cases step_cases stepped with
  | reused found => cases scheduled
  | resolverRaised missing raised => cases scheduled
  | created missing resolved => cases scheduled
  | operated operation tracked => exact absurd operation (scheduler_no_operation scheduled)
  | snapshotStored snapshot => cases scheduled
  | snapshotDropped fp => cases scheduled
  | clockSet now => exact ⟨t, known, .untouched same rfl (fun tid schedules => nomatch schedules)⟩
  | @spawned _ tid queue starts unused =>
      refine ⟨t, known, .untouched same rfl ?_⟩
      intro u schedules flying
      obtain ⟨x, fp, snapshot, found, inside⟩ := World.inside_of_inFlight flying
      have own : u = tid := by
        rcases starts with ⟨j, rfl⟩ | rfl
        · exact (Option.some.inj schedules).symm
        · exact (Option.some.inj schedules).symm
      rw [own, unused] at found
      cases found
  | unknownLease here ready queued missing =>
      exact ⟨t, known, .untouched same rfl (elsewhere_of_inFlight rfl (inFlight_ready here ready id))⟩
  | @decided tid task j rest x x' decision here ready queued tracked runs =>
      by_cases own : id = j
      · subst own
        rw [known] at tracked
        cases tracked
        exact ⟨x', by simp [World.finish], evaluated_rowEffect here ready queued known runs writes⟩
      · exact ⟨t, by simp [World.finish, own, known],
          .untouched same rfl (elsewhere_of_inFlight rfl (inFlight_ready here ready id))⟩
  | @waits tid task j rest x g here ready queued tracked authorised busy =>
      have elsewhere : ∀ u, (Action.resume tid).task? = some u → r.world.inFlight u ≠ some id :=
        elsewhere_of_inFlight rfl (inFlight_ready here ready id)
      by_cases own : id = j
      · subst own
        rw [known] at tracked
        cases tracked
        exact ⟨_, by simp, .untouched consumed (consumeSchedule_state cfg t) elsewhere⟩
      · exact ⟨t, by simp [own, known], .untouched same rfl elsewhere⟩
  | @refusedAtOnce tid task j rest x g decision here ready queued tracked authorised free refused =>
      have elsewhere : ∀ u, (Action.resume tid).task? = some u → r.world.inFlight u ≠ some id :=
        elsewhere_of_inFlight rfl (inFlight_ready here ready id)
      by_cases own : id = j
      · subst own
        rw [known] at tracked
        cases tracked
        exact ⟨_, by simp [World.finish], .untouched consumed (consumeSchedule_state cfg t) elsewhere⟩
      · exact ⟨t, by simp [World.finish, own, known], .untouched same rfl elsewhere⟩
  | @sentAtOnce tid task j rest x g snapshot here ready queued tracked authorised free passed =>
      by_cases own : id = j
      · subst own
        rw [known] at tracked
        cases tracked
        refine ⟨startWarm (consumeSchedule cfg t), by simp, .sent ?_ rfl ?_⟩
        · exact ((Bookkeeping.consumeSchedule cfg t).trans (Bookkeeping.startWarm _)).sameFigures
        · simp [World.inFlight]
      · exact ⟨t, by simp [own, known],
          .untouched same rfl (elsewhere_of_inFlight rfl (inFlight_ready here ready id))⟩
  | @refusedAtLock tid task j fp g x decision here waiting first tracked refused =>
      exact ⟨t, by simp [World.finish, known],
        .untouched same rfl (elsewhere_of_inFlight rfl (inFlight_waiting here waiting id))⟩
  | @sentAtLock tid task j fp g x snapshot here waiting first tracked passed =>
      by_cases own : id = j
      · subst own
        rw [known] at tracked
        cases tracked
        refine ⟨startWarm t, by simp, .sent (Bookkeeping.startWarm t).sameFigures rfl ?_⟩
        simp [World.inFlight]
      · exact ⟨t, by simp [own, known],
          .untouched same rfl (elsewhere_of_inFlight rfl (inFlight_waiting here waiting id))⟩
  | @returned tid task j fp snapshot x answer here inside tracked =>
      have flying := World.inFlight_of_inside here inside
      by_cases own : id = j
      · subst own
        rw [known] at tracked
        cases tracked
        exact ⟨_, by simp [World.finish], returned_rowEffect flying known writes⟩
      · exact ⟨t, by simp [World.finish, own, known],
          .untouched same rfl (elsewhere_of_inFlight rfl (inFlight_other flying own))⟩
  | cancelledReady here ready =>
      exact ⟨t, known, .untouched same rfl (elsewhere_of_inFlight rfl (inFlight_ready here ready id))⟩
  | cancelledWaiting here waiting =>
      exact ⟨t, known, .untouched same rfl (elsewhere_of_inFlight rfl (inFlight_waiting here waiting id))⟩
  | @cancelledWarm tid task j fp snapshot x here inside tracked =>
      have flying := World.inFlight_of_inside here inside
      by_cases own : id = j
      · subst own
        rw [known] at tracked
        cases tracked
        refine ⟨endWarm t, by simp, ?_⟩
        exact .rearmed (Bookkeeping.endWarm t).sameFigures (writes.1 id flying t known)
      · exact ⟨t, by simp [own, known],
          .untouched same rfl (elsewhere_of_inFlight rfl (inFlight_other flying own))⟩

/-- A scheduler step moves one task at most, and only adds to its results. -/
theorem scheduler_tasks {cfg : ManagerConfig} {w w' : World} {a : Action} (stepped : step cfg w a = some w')
    (scheduled : a.isScheduler = true) :
    (a.task? = none ∧ w'.tasks = w.tasks) ∨
      ∃ tid task', a.task? = some tid ∧ w'.tasks = w.tasks.set tid task' ∧
        ∀ task, w.task? tid = some task → task.results <+: task'.results := by
  have kept : ∀ {tid : TaskId} {task : EvaluationTask} {results : List (LeaseId × LeaseDecision)},
      w.task? tid = some task → task.results <+: results →
        ∀ x, w.task? tid = some x → x.results <+: results := by
    intro tid task results here longer x found
    rw [here] at found
    cases found
    exact longer
  cases step_cases stepped with
  | reused found => cases scheduled
  | resolverRaised missing raised => cases scheduled
  | created missing resolved => cases scheduled
  | operated operation tracked => exact absurd operation (scheduler_no_operation scheduled)
  | snapshotStored snapshot => cases scheduled
  | snapshotDropped fp => cases scheduled
  | clockSet now => exact Or.inl ⟨rfl, rfl⟩
  | spawned starts unused =>
      refine Or.inr ⟨_, _, ?_, rfl, ?_⟩
      · rcases starts with ⟨j, rfl⟩ | rfl
        · rfl
        · rfl
      · intro task found
        rw [unused] at found
        cases found
  | unknownLease here ready queued missing =>
      exact Or.inr ⟨_, _, rfl, rfl, kept here (List.prefix_append _ _)⟩
  | decided here ready queued tracked runs =>
      exact Or.inr ⟨_, _, rfl, rfl, kept here (List.prefix_append _ _)⟩
  | waits here ready queued tracked authorised busy =>
      exact Or.inr ⟨_, _, rfl, rfl, kept here (List.prefix_rfl)⟩
  | refusedAtOnce here ready queued tracked authorised free refused =>
      exact Or.inr ⟨_, _, rfl, rfl, kept here (List.prefix_append _ _)⟩
  | sentAtOnce here ready queued tracked authorised free passed =>
      exact Or.inr ⟨_, _, rfl, rfl, kept here (List.prefix_rfl)⟩
  | refusedAtLock here waiting first tracked refused =>
      exact Or.inr ⟨_, _, rfl, rfl, kept here (List.prefix_append _ _)⟩
  | sentAtLock here waiting first tracked passed =>
      exact Or.inr ⟨_, _, rfl, rfl, kept here (List.prefix_rfl)⟩
  | returned here inside tracked =>
      exact Or.inr ⟨_, _, rfl, rfl, kept here (List.prefix_append _ _)⟩
  | cancelledReady here ready => exact Or.inr ⟨_, _, rfl, rfl, kept here (List.prefix_rfl)⟩
  | cancelledWaiting here waiting => exact Or.inr ⟨_, _, rfl, rfl, kept here (List.prefix_rfl)⟩
  | cancelledWarm here inside tracked => exact Or.inr ⟨_, _, rfl, rfl, kept here (List.prefix_rfl)⟩

/-! ### The invariant -/

/-- Every tracked lease has one row. It shows the figures of the lease unless a tick has still to write it, and its
    state unless the lease is unsaved. -/
structure RowsTracked (prims : TextPrimitives) (r : PersistedRelay) : Prop where
  indexed : r.world.Indexed
  keyed : r.world.Keyed
  rows : ∀ id t, r.world.lease? id = some t → ∃ row, r.store.select id = [row] ∧
    (¬ Pending r.world.tasks id → row.ShowsFigures prims t.lease) ∧
      (¬ Unsaved r.world.tasks id → row.ShowsState t.lease)

/-- The one row of a lease that is current shows it. -/
theorem RowCurrent.shows {prims : TextPrimitives} {r : PersistedRelay} {id : LeaseId} {t : TrackedLease}
    {row : LeaseRow} (current : RowCurrent prims r id) (known : r.world.lease? id = some t)
    (only : r.store.select id = [row]) : row.Shows prims t.lease := by
  obtain ⟨x, listed, shows⟩ := current t known
  rw [only, List.mem_singleton] at listed
  rw [← listed]
  exact shows

/-- Calls that write the row of every lease they change keep the rows, and leave all of them current when the rows
    of unsaved leases that they do not write are current. -/
theorem rows_of_call {prims : TextPrimitives} {r r' : PersistedRelay} (tracked : RowsTracked prims r)
    (reaches : ∃ cfg, Reaches cfg r.world r'.world)
    (each : ∀ id t', r'.world.lease? id = some t' →
      (∃ now, r'.store.select id = [leaseRowValues prims t'.lease now]) ∨
      (r'.store.select id = r.store.select id ∧ (Unsaved r.world.tasks id → RowCurrent prims r id) ∧
        ∃ t, r.world.lease? id = some t ∧ SameFigures t.lease t'.lease ∧ t'.lease.state = t.lease.state)) :
    RowsTracked prims r' ∧ RowsAgree prims r' := by
  obtain ⟨cfg, reaches⟩ := reaches
  have shown : ∀ id t', r'.world.lease? id = some t' →
      ∃ row, r'.store.select id = [row] ∧ row.Shows prims t'.lease := by
    intro id t' known'
    rcases each id t' known' with ⟨now, written⟩ | ⟨unwritten, unsaved, t, known, figures, state⟩
    · exact ⟨_, written, shows_leaseRowValues prims t'.lease now⟩
    · obtain ⟨row, only, showsFigures, showsState⟩ := tracked.rows id t known
      refine ⟨row, unwritten.trans only, ?_⟩
      have shows : row.Shows prims t.lease := by
        by_cases lags : Unsaved r.world.tasks id
        · exact (unsaved lags).shows known only
        · exact ⟨showsFigures fun pending => lags (Or.inl pending), showsState lags⟩
      refine ⟨figures.shows shows.1, ?_⟩
      unfold LeaseRow.ShowsState
      rw [state]
      exact shows.2
  constructor
  · refine ⟨reaches.indexed tracked.indexed, reaches.keyed tracked.keyed, ?_⟩
    intro id t' known'
    obtain ⟨row, only, shows⟩ := shown id t' known'
    exact ⟨row, only, fun _ => shows.1, fun _ => shows.2⟩
  · intro id listed t' known'
    obtain ⟨row, only, shows⟩ := shown id t' known'
    exact ⟨row, by rw [only]; exact List.mem_singleton.2 rfl, shows⟩

/-! ### Requests -/

/-- A lease that the identity does not supersede goes through the switch unchanged. -/
theorem afterSwitch_spared {identity : LeaseIdentity} {t : TrackedLease}
    (spared : LeaseManager.supersedes identity t = false) : afterSwitch identity t = t := by
  unfold afterSwitch
  rw [if_neg (by simp [spared])]

theorem lease?_startRealRequest_other {cfg : ControllerConfig} {c : LeaseController} {id j : LeaseId}
    (request : StartRequest) (different : j ≠ id) :
    (c.startRealRequest cfg id request).world.lease? j = c.world.lease? j := by
  rw [lease?_startRealRequest, if_neg different]

/-- What the start of a request does to the row of a lease: it writes the row, or leaves it together with the lease,
    which is then not the one of the request. -/
def StartRow (cfg : ControllerConfig) (prims : TextPrimitives) (r : PersistedRelay) (request : StartRequest)
    (relay : Relay) (id : LeaseId) (t' : TrackedLease) : Prop :=
  (∃ now, (storeAfter cfg prims r relay (.requestStart request)).select id =
      [leaseRowValues prims t'.lease now]) ∨
    ((storeAfter cfg prims r relay (.requestStart request)).select id = r.store.select id ∧
      r.world.lease? id = some t' ∧
      ¬ (Tracks cfg request ∧ r.world.manager.findExisting request.identity = some id))

section StartOfRequest

variable {cfg : ControllerConfig} {prims : TextPrimitives} {r : PersistedRelay} {request : StartRequest}
  {relay : Relay} {j : LeaseId} {t' : TrackedLease}

theorem startRow_reused {id : LeaseId} (follows : Tracks cfg request) (keyed : relay.controller.world.Keyed)
    (existing : r.world.manager.findExisting request.identity = some id)
    (started : relay.controller = (r.relay.controller.onRequestStart cfg request).1)
    (known' : relay.controller.world.lease? j = some t') : StartRow cfg prims r request relay j t' := by
  have begun := onRequestStart_reused (c := r.relay.controller) follows.1 follows.2 existing
  have store : storeAfter cfg prims r relay (.requestStart request) =
      persist prims relay.controller.world r.store id := by
    rw [storeAfter, begun]
  rw [begun] at started
  by_cases own : j = id
  · subst own
    refine Or.inl ⟨relay.controller.world.clock, ?_⟩
    rw [store, select_persist keyed known', if_pos rfl]
  · refine Or.inr ⟨?_, ?_, ?_⟩
    · rw [store, select_persist_other keyed own]
    · rw [started, lease?_startRealRequest_other request own] at known'
      exact known'
    · rintro ⟨-, found⟩
      rw [existing] at found
      exact own (Option.some.inj found).symm

/-- A request without a lease supersedes none, by its condition, so only the new lease changes. -/
theorem startRow_created (follows : Tracks cfg request) (keyed : relay.controller.world.Keyed)
    (missing : r.world.manager.findExisting request.identity = none)
    (spares : ∀ t ∈ r.world.manager.leases.values, LeaseManager.supersedes request.identity t = false)
    (started : relay.controller = (r.relay.controller.onRequestStart cfg request).1)
    (known' : relay.controller.world.lease? j = some t') : StartRow cfg prims r request relay j t' := by
  have switched : (r.world.lease? j).map (afterSwitch request.identity) = r.world.lease? j := by
    cases known : r.world.lease? j with
    | none => rfl
    | some x => exact congrArg some (afterSwitch_spared (spares x (Dict.mem_values_iff.2 ⟨j, known⟩)))
  have unowned : ¬ (Tracks cfg request ∧ r.world.manager.findExisting request.identity = some j) := by
    rintro ⟨-, found⟩
    rw [missing] at found
    cases found
  cases resolved : LeaseManager.initialTtl cfg.manager none (1 / 2) request.answer with
  | none =>
      have begun := onRequestStart_raised (c := r.relay.controller) follows.1 follows.2 missing resolved
      refine Or.inr ⟨?_, ?_, unowned⟩
      · rw [storeAfter, begun]
      · rw [started, begun] at known'
        rw [← switched]
        exact (lease?_switched request.identity j).symm.trans known'
  | some pair =>
      have begun := onRequestStart_created (c := r.relay.controller) follows.1 follows.2 missing resolved
      have store : storeAfter cfg prims r relay (.requestStart request) =
          persist prims relay.controller.world r.store r.world.manager.freshId := by
        rw [storeAfter, begun]
        rfl
      rw [begun] at started
      by_cases own : j = r.world.manager.freshId
      · subst own
        refine Or.inl ⟨relay.controller.world.clock, ?_⟩
        rw [store, select_persist keyed known', if_pos rfl]
      · refine Or.inr ⟨?_, ?_, unowned⟩
        · rw [store, select_persist_other keyed own]
        · have created := lease?_created (w := r.world) request.identity pair.1 pair.2 j
          rw [if_neg own, switched] at created
          rw [started] at known'
          have other : j ≠ r.relay.controller.world.manager.freshId := own
          rw [lease?_startRealRequest_other request other] at known'
          exact created.symm.trans known'

theorem startRow_untracked (follows : ¬ Tracks cfg request)
    (started : relay.controller = (r.relay.controller.onRequestStart cfg request).1)
    (known' : relay.controller.world.lease? j = some t') : StartRow cfg prims r request relay j t' := by
  have begun := onRequestStart_untracked (c := r.relay.controller) follows
  refine Or.inr ⟨?_, ?_, fun tracks => follows tracks.1⟩
  · rw [storeAfter, begun]
  · rw [started, begun] at known'
    exact known'

/-- The start of a request that meets its condition leaves every row current. -/
theorem start_rows (tracked : RowsTracked prims r) (writes : StartWrites cfg prims r request)
    (started : relay.controller = (r.relay.controller.onRequestStart cfg request).1) :
    RowsTracked prims ⟨relay, storeAfter cfg prims r relay (.requestStart request)⟩ ∧
      RowsAgree prims ⟨relay, storeAfter cfg prims r relay (.requestStart request)⟩ := by
  obtain ⟨spares, saved⟩ := writes
  have reaches := onRequestStart_reaches cfg r.relay.controller request
  rw [← started] at reaches
  have keyed : relay.controller.world.Keyed := reaches.keyed tracked.keyed
  apply rows_of_call tracked
  · exact ⟨cfg.manager, reaches⟩
  intro j t' known'
  have row : StartRow cfg prims r request relay j t' := by
    by_cases follows : Tracks cfg request
    · cases existing : r.world.manager.findExisting request.identity with
      | some id => exact startRow_reused follows keyed existing started known'
      | none => exact startRow_created follows keyed existing (spares ⟨follows, existing⟩) started known'
    · exact startRow_untracked follows started known'
  rcases row with written | ⟨unwritten, known, other⟩
  · exact Or.inl written
  · refine Or.inr ⟨unwritten, ?_, t', known, .refl t'.lease, rfl⟩
    intro lags
    exact (saved j (Dict.mem_keys_iff.2 ⟨t', known⟩) lags).resolve_left other

end StartOfRequest

/-- The end of a request that refreshes nothing leaves the figures and the state. -/
theorem ended_unrefreshed {cfg : ManagerConfig} {now : ℚ} {outcome : Outcome} {usage : Option TokenUsage}
    {routeHash : Option String} {answer : ResolverAnswer} {t : TrackedLease}
    (reason : t.lease.state = .invalidated ∨ outcome = .failed) :
    SameFigures t.lease (ended cfg now outcome usage routeHash answer t).lease ∧
      (ended cfg now outcome usage routeHash answer t).lease.state = t.lease.state := by
  unfold ended
  rw [TrackedLease.afterNormalRequest_of_unrefreshed reason]
  dsimp only
  rw [TrackedLease.refreshTtl_frame]
  cases routeHash with
  | some hash =>
      cases usage with
      | some usage =>
          dsimp only
          split
          · rw [TrackedLease.updateCostEstimates_frame]
            exact ⟨⟨rfl, rfl, rfl, rfl, rfl⟩, rfl⟩
          · exact ⟨⟨rfl, rfl, rfl, rfl, rfl⟩, rfl⟩
      | none => exact ⟨⟨rfl, rfl, rfl, rfl, rfl⟩, rfl⟩
  | none =>
      cases usage with
      | some usage =>
          dsimp only
          split
          · rw [TrackedLease.updateCostEstimates_frame]
            exact ⟨⟨rfl, rfl, rfl, rfl, rfl⟩, rfl⟩
          · exact ⟨⟨rfl, rfl, rfl, rfl, rfl⟩, rfl⟩
      | none => exact ⟨⟨rfl, rfl, rfl, rfl, rfl⟩, rfl⟩

/-- The end of a request that meets its condition leaves every row current. -/
theorem end_rows {cfg : ControllerConfig} {prims : TextPrimitives} {r : PersistedRelay} {ctx : LeaseRequestContext}
    {outcome : Outcome} {usage : Option TokenUsage} {routeHash : Option String} {answer : ResolverAnswer}
    {relay : Relay} (tracked : RowsTracked prims r) (writes : EndWrites cfg prims r ctx outcome answer)
    (ends : relay.controller = r.relay.controller.onRequestEnd cfg ctx outcome usage routeHash answer) :
    RowsTracked prims ⟨relay, storeAfter cfg prims r relay (.requestEnd ctx outcome usage routeHash answer)⟩ ∧
      RowsAgree prims ⟨relay, storeAfter cfg prims r relay (.requestEnd ctx outcome usage routeHash answer)⟩ := by
  obtain ⟨leaves, saved⟩ := writes
  have reaches := onRequestEnd_reaches cfg r.relay.controller ctx outcome usage routeHash answer
  rw [← ends] at reaches
  have keyed : relay.controller.world.Keyed := reaches.keyed tracked.keyed
  apply rows_of_call tracked
  · exact ⟨cfg.manager, reaches⟩
  intro j t' known'
  change relay.controller.world.lease? j = some t' at known'
  unfold storeAfter
  dsimp only
  by_cases enabled : cfg.enabled = true
  · have lookup := (onRequestEnd_frame cfg r.relay.controller ctx outcome usage routeHash answer enabled).1 j
    rw [← ends, known'] at lookup
    by_cases own : j = ctx.leaseId
    · subst own
      rw [if_pos rfl] at lookup
      by_cases raised : answer = .raised
      · obtain ⟨t, known, rfl⟩ := Option.map_eq_some_iff.1 lookup.symm
        have reason : t.lease.state = .invalidated ∨ outcome = .failed :=
          (leaves raised).symm.imp_left fun dead => dead t known
        rw [if_neg fun writes => writes.2 raised]
        refine Or.inr ⟨rfl, ?_, t, known, (ended_unrefreshed reason).1, (ended_unrefreshed reason).2⟩
        intro lags
        exact (saved _ (Dict.mem_keys_iff.2 ⟨t, known⟩) lags).resolve_left fun writes => writes.2.1 raised
      · refine Or.inl ⟨relay.controller.world.clock, ?_⟩
        rw [if_pos ⟨enabled, raised⟩, select_persist keyed known', if_pos rfl]
    · rw [if_neg own] at lookup
      refine Or.inr ⟨?_, ?_, t', lookup.symm, .refl t'.lease, rfl⟩
      · split
        · exact select_persist_other keyed own
        · rfl
      · intro lags
        exact (saved j (Dict.mem_keys_iff.2 ⟨t', lookup.symm⟩) lags).resolve_left fun writes => own writes.2.2
  · have same : relay.controller = r.relay.controller := by
      rw [ends]
      unfold LeaseController.onRequestEnd
      rw [if_pos (by simpa using enabled)]
    rw [if_neg fun writes => enabled writes.1]
    rw [same] at known'
    refine Or.inr ⟨rfl, ?_, t', known', .refl t'.lease, rfl⟩
    intro lags
    exact (saved j (Dict.mem_keys_iff.2 ⟨t', known'⟩) lags).resolve_left fun writes => enabled writes.1

/-! ### The scheduler -/

section Scheduler

variable {cfg : ManagerConfig} {prims : TextPrimitives} {r : PersistedRelay} {w' : World} {a : Action}
  {id : LeaseId}

/-- The step is the end of a tick that writes the lease. -/
def WrittenBy (a : Action) (w' : World) (id : LeaseId) : Prop :=
  ∃ results, completedTick a w' = some results ∧ id ∈ toPersist results

theorem completedTick_eq {tid : TaskId} {task : EvaluationTask} (ticking : a.ticking? = some tid)
    (here : w'.task? tid = some task) : completedTick a w' = task.done? := by
  unfold completedTick
  rw [ticking, Option.bind_some, here, Option.bind_some]

/-- What a tick has decided durably is written at its end, and pending until then. -/
theorem pending_of_decided {tid : TaskId} {task : EvaluationTask} (ticking : a.ticking? = some tid)
    (here : w'.task? tid = some task) (decided : id ∈ toPersist task.results) (unwritten : ¬ WrittenBy a w' id) :
    completedTick a w' = none ∧ Pending w'.tasks id := by
  have completed := completedTick_eq ticking here
  cases ending : task.done? with
  | some results =>
      have same : results = task.results := by
        cases task with
        | mk queue point results' =>
            unfold EvaluationTask.done? at ending
            split at ending
            · rename_i shape
              cases shape
              exact (Option.some.inj ending).symm
            · cases ending
      subst same
      exact absurd ⟨task.results, completed.trans ending, decided⟩ unwritten
  | none =>
      refine ⟨completed.trans ending, (pending_iff tid).2 (Or.inl ⟨task, here, ?_⟩)⟩
      unfold EvaluationTask.pending
      rw [ending]
      exact decided

theorem mem_toPersist_of_pending {task : EvaluationTask} (pending : id ∈ task.pending) :
    id ∈ toPersist task.results := by
  unfold EvaluationTask.pending at pending
  split at pending
  · cases pending
  · exact pending

theorem toPersist_of_prefix {results results' : List (LeaseId × LeaseDecision)} (longer : results <+: results')
    (decided : id ∈ toPersist results) : id ∈ toPersist results' := by
  obtain ⟨more, rfl⟩ := longer
  unfold toPersist at decided ⊢
  rw [List.filter_append, List.map_append]
  exact List.mem_append_left _ decided

/-- A task that a tick moves ticks, or is cancelled. -/
theorem ticking_or_cancelled {tid : TaskId} (scheduled : a.isScheduler = true) (schedules : a.task? = some tid)
    (single : ∀ tid id, a ≠ .evaluateLease tid id) : a.ticking? = some tid ∨ a = .cancel tid := by
  cases a with
  | evaluateLease u j => exact absurd rfl (single u j)
  | tick u => exact Or.inl schedules
  | resume u => exact Or.inl schedules
  | executeReturns u answer => exact Or.inl schedules
  | cancel u =>
      cases schedules
      exact Or.inr rfl
  | setClock now => cases schedules
  | _ => cases scheduled

theorem task?_of_ticking {tid : TaskId} (ticking : a.ticking? = some tid) : a.task? = some tid := by
  cases a with
  | tick u => exact ticking
  | resume u => exact ticking
  | executeReturns u answer => exact ticking
  | _ => cases ticking

/-- A lease stays pending until it is written, or its row is current when its tick is cancelled. -/
theorem pending_kept (stepped : step cfg r.world a = some w') (scheduled : a.isScheduler = true)
    (single : ∀ tid id, a ≠ .evaluateLease tid id) (writes : ActionWrites cfg prims r a)
    (unwritten : ¬ WrittenBy a w' id) (pending : Pending r.world.tasks id) :
    Pending w'.tasks id ∨ RowCurrent prims r id := by
  rcases scheduler_tasks stepped scheduled with ⟨-, same⟩ | ⟨tid, task', schedules, moved, longer⟩
  · rw [same]
    exact Or.inl pending
  · rcases (pending_iff tid).1 pending with ⟨task, here, own⟩ | other
    · rcases ticking_or_cancelled scheduled schedules single with ticking | rfl
      · have now : w'.task? tid = some task' := by
          unfold World.task?
          rw [moved, Dict.get?_set_self]
        have decided := toPersist_of_prefix (longer task here) (mem_toPersist_of_pending own)
        exact Or.inl (pending_of_decided ticking now decided unwritten).2
      · exact Or.inr (writes.2 task here id own)
    · rw [moved]
      exact Or.inl (pending_set.2 (Or.inr other))

/-- A warm stays in flight until its task moves. -/
theorem warming_kept (stepped : step cfg r.world a = some w') (scheduled : a.isScheduler = true)
    (elsewhere : ∀ tid, a.task? = some tid → r.world.inFlight tid ≠ some id) (warming : Warming r.world.tasks id) :
    Warming w'.tasks id := by
  rcases scheduler_tasks stepped scheduled with ⟨-, same⟩ | ⟨tid, task', schedules, moved, -⟩
  · rw [same]
    exact warming
  · rcases (warming_iff tid).1 warming with own | other
    · exact absurd (warming_inFlight.1 own) (elsewhere tid schedules)
    · rw [moved]
      exact warming_set.2 (Or.inr other)

/-- At the end of a tick, an unsaved lease that the tick does not write has a current row, unless its own warm has
    just ended. -/
theorem current_of_completed (stepped : step cfg r.world a = some w') (scheduled : a.isScheduler = true)
    (writes : TickWrites cfg prims r a) (completes : (completedTick a w').isSome = true)
    (listed : id ∈ r.world.manager.leases.keys) (unwritten : ¬ WrittenBy a w' id) :
    (Pending r.world.tasks id → RowCurrent prims r id) ∧
      (Warming r.world.tasks id → RowCurrent prims r id ∨
        ∃ tid, a.task? = some tid ∧ r.world.inFlight tid = some id) := by
  have ticks : ∃ tid, a.ticking? = some tid := by
    apply Option.isSome_iff_exists.1
    cases ticking : a.ticking? with
    | some tid => rfl
    | none =>
        unfold completedTick at completes
        rw [ticking] at completes
        cases completes
  obtain ⟨tid, ticking⟩ := ticks
  have schedules := task?_of_ticking ticking
  have others : Unsaved (r.world.tasks.erase tid) id → RowCurrent prims r id :=
    writes tid ticking w' stepped completes id listed
  constructor
  · intro pending
    rcases (pending_iff tid).1 pending with ⟨task, here, own⟩ | other
    · rcases scheduler_tasks stepped scheduled with ⟨none, -⟩ | ⟨u, task', schedules', moved, longer⟩
      · rw [schedules] at none
        cases none
      · rw [schedules] at schedules'
        cases schedules'
        have now : w'.task? tid = some task' := by
          unfold World.task?
          rw [moved, Dict.get?_set_self]
        have decided := toPersist_of_prefix (longer task here) (mem_toPersist_of_pending own)
        have goes := (pending_of_decided ticking now decided unwritten).1
        rw [goes] at completes
        cases completes
    · exact others (Or.inl other)
  · intro warming
    rcases (warming_iff tid).1 warming with own | other
    · exact Or.inr ⟨tid, schedules, warming_inFlight.1 own⟩
    · exact Or.inl (others (Or.inr other))

/-- A task inside the executor is not over. -/
theorem not_completed_of_inFlight {tid : TaskId} (ticking : a.ticking? = some tid)
    (inside : w'.inFlight tid = some id) : completedTick a w' = none := by
  obtain ⟨task, fp, snapshot, here, place⟩ := World.inside_of_inFlight inside
  rw [completedTick_eq ticking here]
  cases task with
  | mk queue point results =>
      cases place
      cases queue <;> rfl

/-- The rows after a scheduler step: a lease that its tick writes has a row that shows it, every other lease has the
    row it had. -/
theorem select_storeAfter_scheduler {ccfg : ControllerConfig} {relay : Relay} {t' : TrackedLease}
    (keyed : relay.controller.world.Keyed) (known' : relay.controller.world.lease? id = some t') :
    (WrittenBy a relay.controller.world id ∧
      (storeAfter ccfg prims r relay (.scheduler a)).select id =
        [leaseRowValues prims t'.lease relay.controller.world.clock]) ∨
    (¬ WrittenBy a relay.controller.world id ∧
      (storeAfter ccfg prims r relay (.scheduler a)).select id = r.store.select id) := by
  rw [storeAfter]
  unfold WrittenBy
  cases completed : completedTick a relay.controller.world with
  | none =>
      apply Or.inr
      simp
  | some results =>
      dsimp only
      rw [select_foldl_persist keyed _ _ known']
      by_cases listed : id ∈ toPersist results
      · exact Or.inl ⟨⟨results, rfl, listed⟩, if_pos listed⟩
      · refine Or.inr ⟨?_, if_neg listed⟩
        rintro ⟨results', same, decided⟩
        cases same
        exact listed decided

/-- What the row of a lease that a scheduler step does not write still shows. -/
theorem scheduler_row {t' : TrackedLease} (tracked : RowsTracked prims r) (stepped : step cfg r.world a = some w')
    (scheduled : a.isScheduler = true) (single : ∀ tid id, a ≠ .evaluateLease tid id)
    (writes : ActionWrites cfg prims r a) (ends : TickWrites cfg prims r a) (known' : w'.lease? id = some t')
    (unwritten : ¬ WrittenBy a w' id) :
    ∃ row, r.store.select id = [row] ∧
      (¬ Pending w'.tasks id → row.ShowsFigures prims t'.lease) ∧
      (¬ Unsaved w'.tasks id → row.ShowsState t'.lease) ∧
      ((completedTick a w').isSome = true → row.Shows prims t'.lease) := by
  cases known : r.world.lease? id with
  | none =>
      obtain ⟨identity, ttl, confidence, answer, ttlS, c, rfl, -⟩ := step_creates stepped known known'
      cases scheduled
  | some t =>
      obtain ⟨x, found, effect⟩ := scheduler_rowEffect stepped scheduled writes known
      rw [known'] at found
      cases found
      obtain ⟨row, only, figures, state⟩ := tracked.rows id t known
      refine ⟨row, only, ?_⟩
      have listed : id ∈ r.world.manager.leases.keys := Dict.mem_keys_iff.2 ⟨t, known⟩
      have kept : Pending r.world.tasks id → ¬ Pending w'.tasks id → row.Shows prims t.lease := by
        intro pending gone
        have stays := pending_kept stepped scheduled single writes unwritten pending
        exact (stays.resolve_left gone).shows known only
      have figures' : ¬ Pending w'.tasks id → row.ShowsFigures prims t.lease := by
        intro gone
        by_cases pending : Pending r.world.tasks id
        · exact (kept pending gone).1
        · exact figures pending
      have completed := fun completes =>
        current_of_completed stepped scheduled ends completes listed unwritten
      have completedFigures : (completedTick a w').isSome = true → row.ShowsFigures prims t.lease := by
        intro completes
        by_cases pending : Pending r.world.tasks id
        · exact (((completed completes).1 pending).shows known only).1
        · exact figures pending
      cases effect with
      | untouched same unchanged elsewhere =>
          have shows : row.ShowsState t.lease → row.ShowsState t'.lease := by
            intro holds
            unfold LeaseRow.ShowsState
            rw [unchanged]
            exact holds
          refine ⟨fun gone => same.shows (figures' gone), ?_, ?_⟩
          · intro saved
            apply shows
            by_cases pending : Pending r.world.tasks id
            · exact (kept pending fun now => saved (Or.inl now)).2
            · apply state
              rintro (now | warming)
              · exact pending now
              · exact saved (Or.inr (warming_kept stepped scheduled elsewhere warming))
          · intro completes
            refine ⟨same.shows (completedFigures completes), shows ?_⟩
            by_cases pending : Pending r.world.tasks id
            · exact (((completed completes).1 pending).shows known only).2
            · by_cases warming : Warming r.world.tasks id
              · rcases (completed completes).2 warming with current | ⟨tid, schedules, flying⟩
                · exact (current.shows known only).2
                · exact absurd flying (elsewhere tid schedules)
              · exact state fun lags => lags.elim pending warming
      | owed ticking here decided =>
          obtain ⟨goes, pending⟩ := pending_of_decided ticking here decided unwritten
          refine ⟨fun gone => absurd pending gone, fun saved => absurd (Or.inl pending) saved, ?_⟩
          intro completes
          rw [goes] at completes
          cases completes
      | @sent tid same ticking inside =>
          have warming : Warming w'.tasks id := (warming_iff tid).2 (Or.inl (warming_inFlight.2 inside))
          refine ⟨fun gone => same.shows (figures' gone), fun saved => absurd (Or.inr warming) saved, ?_⟩
          intro completes
          rw [not_completed_of_inFlight ticking inside] at completes
          cases completes
      | rearmed same shown =>
          have showsState : row.ShowsState t'.lease := shown row (by rw [only]; exact List.mem_singleton.2 rfl)
          exact ⟨fun gone => same.shows (figures' gone), fun _ => showsState,
            fun completes => ⟨same.shows (completedFigures completes), showsState⟩⟩

end Scheduler

/-- A scheduler step that meets its condition keeps the rows, and a tick that it completes leaves all of them
    current. -/
theorem scheduler_rows {cfg : ControllerConfig} {prims : TextPrimitives} {r : PersistedRelay} {relay : Relay}
    {a : Action} (tracked : RowsTracked prims r)
    (stepped : step cfg.manager r.world a = some relay.controller.world) (scheduled : a.isScheduler = true)
    (single : ∀ tid id, a ≠ .evaluateLease tid id)
    (writes : ActionWrites cfg.manager prims r a ∧ TickWrites cfg.manager prims r a) :
    RowsTracked prims ⟨relay, storeAfter cfg prims r relay (.scheduler a)⟩ ∧
      ((completedTick a relay.controller.world).isSome = true →
        RowsAgree prims ⟨relay, storeAfter cfg prims r relay (.scheduler a)⟩) := by
  have keyed : relay.controller.world.Keyed := step_keyed stepped tracked.keyed
  have rows : ∀ id t', relay.controller.world.lease? id = some t' →
      ∃ row, (storeAfter cfg prims r relay (.scheduler a)).select id = [row] ∧
        (¬ Pending relay.controller.world.tasks id → row.ShowsFigures prims t'.lease) ∧
        (¬ Unsaved relay.controller.world.tasks id → row.ShowsState t'.lease) ∧
        ((completedTick a relay.controller.world).isSome = true → row.Shows prims t'.lease) := by
    intro id t' known'
    rcases @select_storeAfter_scheduler prims r a id cfg relay t' keyed known' with
      ⟨-, written⟩ | ⟨unwritten, same⟩
    · have shows := shows_leaseRowValues prims t'.lease relay.controller.world.clock
      exact ⟨_, written, fun _ => shows.1, fun _ => shows.2, fun _ => shows⟩
    · rw [same]
      exact scheduler_row tracked stepped scheduled single writes.1 writes.2 known' unwritten
  constructor
  · refine ⟨step_indexed stepped tracked.indexed, keyed, ?_⟩
    intro id t' known'
    obtain ⟨row, only, figures, state, -⟩ := rows id t' known'
    exact ⟨row, only, figures, state⟩
  · intro completes id listed t' known'
    obtain ⟨row, only, -, -, shows⟩ := rows id t' known'
    exact ⟨row, by rw [only]; exact List.mem_singleton.2 rfl, shows completes⟩

/-! ### Runs -/

/-- One step that writes what it changes. -/
theorem persistedStep_rows {cfg : ControllerConfig} {prims : TextPrimitives} {r r' : PersistedRelay}
    {a : RelayAction} (tracked : RowsTracked prims r) (stepped : persistedStep cfg prims r a = some r')
    (writes : WritesChanges cfg prims r a) :
    RowsTracked prims r' ∧ (CompletesCall a r' = true → RowsAgree prims r') := by
  unfold persistedStep at stepped
  split at stepped
  · cases stepped
  rename_i single
  obtain ⟨relay, moved, rfl⟩ := Option.map_eq_some_iff.1 stepped
  cases a with
  | requestStart request =>
      cases moved
      refine ⟨(start_rows tracked writes ?_).1, fun _ => (start_rows tracked writes ?_).2⟩
      · rfl
      · rfl
  | requestEnd ctx outcome usage routeHash answer =>
      unfold relayStep at moved
      dsimp only at moved
      split at moved
      · cases moved
        refine ⟨(end_rows tracked writes ?_).1, fun _ => (end_rows tracked writes ?_).2⟩
        · rfl
        · rfl
      · cases moved
  | scheduler b =>
      unfold relayStep at moved
      dsimp only at moved
      split at moved
      · rename_i scheduled
        obtain ⟨world, inner, rfl⟩ := Option.map_eq_some_iff.1 moved
        have several : ∀ tid id, b ≠ .evaluateLease tid id := by
          rintro tid id rfl
          exact single rfl
        exact scheduler_rows tracked inner scheduled several writes
      · cases moved

/-- In every run of a new relay whose steps all write what they change, after every request that has started or ended
    and after every tick that is over the stored row of every lease shows the lease as it is. -/
theorem rows_agree_of_writes {cfg : ControllerConfig} {prims : TextPrimitives} {start : PersistedRelay}
    {acts : List RelayAction} (initial : start.relay.Initial)
    (writes : Execution.Along (persistedStep cfg prims) (WritesChanges cfg prims) start acts) :
    Execution.EveryStep (persistedStep cfg prims)
      (fun _ a after => CompletesCall a after = true → RowsAgree prims after) start acts := by
  have fresh : RowsTracked prims start := by
    obtain ⟨⟨manager, -⟩, -⟩ := initial
    have none : ∀ id, start.world.lease? id = none := by
      intro id
      unfold PersistedRelay.world World.lease?
      rw [manager]
      rfl
    refine ⟨?_, ?_, ?_⟩
    · intro fp id found
      unfold PersistedRelay.world at found
      rw [manager] at found
      cases found
    · intro id t known
      rw [none] at known
      cases known
    · intro id t known
      rw [none] at known
      cases known
  intro before a after u v split reached stepped
  have tracked : RowsTracked prims u := by
    apply Execution.history_invariant (R := fun _ x => RowsTracked prims x) fresh _ reached
    intro earlier b later x y between first inner held
    have position : acts = earlier ++ b :: (later ++ a :: after) := by simp [split, between]
    exact (persistedStep_rows held inner (Execution.along_iff.1 writes earlier b _ x position first)).1
  exact (persistedStep_rows tracked stepped (Execution.along_iff.1 writes before a after u split reached)).2

/-- Digests and texts of floats for runs on fixed inputs. -/
def samplePrims : TextPrimitives where
  sha256 := id
  floatRepr := fun _ => "0.0"
  parseInt := fun _ => none

/-- A session is served, one tick schedules its warm, and the next one sends it and gets a hit. -/
def sampleWarmedTicks : List RelayAction :=
  [.requestStart { sampleRequest "a" with body := some [] }, sampleEnd 0] ++
    [.tick 0, .resume 0, .setClock 250, .tick 1, .resume 1,
      .executeReturns 1 (.returned { outcome := some .confirmedHit })].map .scheduler

/-- The rows agree after each call, and in the end the row shows the warm. -/
theorem rows_agree_scheduled :
    Execution.EveryStep (persistedStep sampleRelayConfig samplePrims)
        (fun _ a after => CompletesCall a after = true → RowsAgree samplePrims after) {} sampleWarmedTicks ∧
      (Execution.exec (persistedStep sampleRelayConfig samplePrims) {} sampleWarmedTicks).map (fun r =>
        (r.store.select 0).map fun row => (row.state, row.warmCount, row.lastCacheTouchAt)) =
          some [("armed", 1, some 250)] := by
  refine ⟨rows_agree_of_writes ⟨World.initial_empty, rfl, rfl⟩ ?_, ?_⟩
  · decide +kernel
  · decide +kernel

/-- After a switch of identity the row of the first lease says that it is armed, and the lease is invalidated. -/
theorem switched_lease_row_stale :
    (Execution.exec (persistedStep sampleRelayConfig samplePrims) {}
        [.requestStart (sampleRequest "a"), sampleEnd 0, .requestStart (sampleRequest "b")]).map (fun r =>
      ((r.store.select 0).map fun row => row.state, (r.world.lease? 0).map fun t => t.lease.state,
        decide (RowsAgree samplePrims r))) =
      some (["armed"], some .invalidated, false) := by
  decide +kernel

/-- Before the switch the two agree. -/
example :
    (Execution.exec (persistedStep sampleRelayConfig samplePrims) {}
      [.requestStart (sampleRequest "a"), sampleEnd 0]).map (fun r => decide (RowsAgree samplePrims r)) =
      some true := by
  decide +kernel

end CachePilot
