/-
Module: CachePilot.Proofs.Effects
Layer: Proofs
Purpose: What one step can do, said once. `Evaluated` lists the ways an evaluation ends before the lock,
  `StepCase` the ways the world changes in a step, and `LeaseEffect` reads a step off on a single lease.
  The invariants of the other modules are case analyses on these relations; none of them unfolds `step`.
Trusted boundary: none
Main exports: Evaluated, evaluated_of_runs, StepCase, step_cases, LeaseEffect, step_effect,
  step_creates
-/
import CachePilot.Core.EventLoop

namespace CachePilot

/-! ### How an evaluation ends before the lock -/

/-- The lease after an evaluation consumed its recorded generation. -/
def consumeSchedule (cfg : ManagerConfig) (t : TrackedLease) : TrackedLease :=
  { lease := recordDecision cfg t.lease
    runtime := { t.runtime with scheduledGeneration := none, pendingWarm := false } }

/-- The lease after the gate refused the warm. -/
def stopEconomically (cfg : ManagerConfig) (t : TrackedLease) : TrackedLease :=
  { t with lease := { recordDecision cfg t.lease with state := .economicStop } }

/-- The guards that every evaluation passes before it writes anything. -/
structure Evaluable (t : TrackedLease) : Prop where
  targets : t.lease.activeTargets ≠ ∅
  idle : t.runtime.realRequestActive = false
  cool : t.runtime.warmRequestActive = false
  valid : t.lease.state ≠ .invalidated

/-- The ways an evaluation ends before the lock. -/
inductive Evaluated (cfg : ManagerConfig) (now : ℚ) (t : TrackedLease) :
    TrackedLease → Evaluation → Prop where
  | stopped (decision : LeaseDecision) (other : decision ≠ .scheduled) :
      Evaluated cfg now t t (.done decision)
  | scheduled (guards : Evaluable t) : Evaluated cfg now t (schedule t) (.done .scheduled)
  | uneconomic (guards : Evaluable t) :
      Evaluated cfg now t (stopEconomically cfg t) (.done .stoppedEconomic)
  | stale (guards : Evaluable t) :
      Evaluated cfg now t (consumeSchedule cfg t) (.done .skippedStale)
  | goes (g : ℕ) (authorised : Authorised cfg now t (consumeSchedule cfg t) g) :
      Evaluated cfg now t (consumeSchedule cfg t) (.lock g)

/-- Every evaluation ends in one of these ways. -/
theorem evaluateLease_evaluated (cfg : ManagerConfig) (now : ℚ) (t : TrackedLease) :
    Evaluated cfg now t (evaluateLease cfg now t).1 (evaluateLease cfg now t).2 := by
  cases ends : evaluateLease cfg now t with
  | mk t' e =>
      cases e with
      | lock g =>
          have authorised := evaluateLease_lock ends
          have same : t' = consumeSchedule cfg t := authorised.after
          subst same
          exact .goes g authorised
      | done decision =>
          unfold evaluateLease at ends
          split at ends
          · cases ends
            exact .stopped _ (by decide)
          rename_i targets
          split at ends
          · cases ends
            exact .stopped _ (by decide)
          rename_i idle
          split at ends
          · cases ends
            exact .stopped _ (by decide)
          rename_i cool
          split at ends
          · cases ends
            exact .stopped _ (by decide)
          rename_i valid
          split at ends
          · cases ends
            exact .stopped _ (by decide)
          have guards : Evaluable t :=
            { targets := targets
              idle := by simpa using idle
              cool := by simpa using cool
              valid := valid }
          split at ends
          · cases ends
            exact .stopped _ (by decide)
          split at ends
          · cases ends
            exact .scheduled guards
          dsimp only at ends
          split at ends
          · unfold warmIfDue at ends
            dsimp only at ends
            split at ends
            · rename_i busy
              rw [guards.idle] at busy
              cases busy
            split at ends
            · cases ends
              exact .stale guards
            · cases ends
          · cases ends
            exact .uneconomic guards

theorem evaluated_of_runs {cfg : ManagerConfig} {now : ℚ} {t t' : TrackedLease} {e : Evaluation}
    (runs : evaluateLease cfg now t = (t', e)) : Evaluated cfg now t t' e := by
  have ends := evaluateLease_evaluated cfg now t
  rw [runs] at ends
  exact ends

/-! ### How the world changes in a step -/

/-- The operations that run without suspending, each with what it does to its lease. -/
inductive Operation (cfg : ManagerConfig) (now : ℚ) (id : LeaseId) :
    Action → (TrackedLease → TrackedLease) → Prop where
  | arm : Operation cfg now id (.arm id) TrackedLease.arm
  | invalidate : Operation cfg now id (.invalidate id) TrackedLease.invalidate
  | complete : Operation cfg now id (.complete id) TrackedLease.complete
  | targetStarted (targetId : String) :
      Operation cfg now id (.targetStarted id targetId) (TrackedLease.targetStarted targetId)
  | targetFinished (targetId : String) :
      Operation cfg now id (.targetFinished id targetId) (TrackedLease.targetFinished targetId)
  | beforeNormalRequest :
      Operation cfg now id (.beforeNormalRequest id) (TrackedLease.beforeNormalRequest now)
  | afterNormalRequest (outcome : Outcome) :
      Operation cfg now id (.afterNormalRequest id outcome)
        (TrackedLease.afterNormalRequest now outcome)
  | refreshTtl (answer : ResolverAnswer) :
      Operation cfg now id (.refreshTtl id answer) (TrackedLease.refreshTtl answer)
  | reconcileRoute (routeHash : String) :
      Operation cfg now id (.reconcileRoute id routeHash) (TrackedLease.reconcileRoute routeHash)
  | updateCostEstimates (usage : TokenUsage) :
      Operation cfg now id (.updateCostEstimates id usage)
        (TrackedLease.updateCostEstimates cfg usage)

/-- No operation writes which lease this is, apart from its route, what its warms cost so far, the last
    decision about a warm, or the generation that a warm is scheduled for. -/
theorem Operation.frame {cfg : ManagerConfig} {now : ℚ} {id : LeaseId} {a : Action}
    {f : TrackedLease → TrackedLease} (operation : Operation cfg now id a f) (t : TrackedLease) :
    f t =
      { lease := { t.lease with
          routeFingerprint := (f t).lease.routeFingerprint
          lastRealRequestAt := (f t).lease.lastRealRequestAt
          lastCacheTouchAt := (f t).lease.lastCacheTouchAt
          lastConfirmedHitAt := (f t).lease.lastConfirmedHitAt
          estimatedTtlS := (f t).lease.estimatedTtlS
          ttlConfidence := (f t).lease.ttlConfidence
          activeTargets := (f t).lease.activeTargets
          generation := (f t).lease.generation
          estimatedColdResumeCostUsd := (f t).lease.estimatedColdResumeCostUsd
          estimatedCachedResumeCostUsd := (f t).lease.estimatedCachedResumeCostUsd
          prefixTokens := (f t).lease.prefixTokens
          nextWarmCostUsd := (f t).lease.nextWarmCostUsd
          state := (f t).lease.state }
        runtime := { (f t).runtime with
          scheduledGeneration := t.runtime.scheduledGeneration } } := by
  cases operation with
  | arm => rw [TrackedLease.arm, CacheLease.arm_eq]
  | targetStarted targetId => rw [TrackedLease.targetStarted_frame]
  | targetFinished targetId => rw [TrackedLease.targetFinished_frame]
  | afterNormalRequest outcome => rw [TrackedLease.afterNormalRequest_frame]
  | refreshTtl answer => rw [TrackedLease.refreshTtl_frame]
  | updateCostEstimates usage => rw [TrackedLease.updateCostEstimates_frame]
  | _ => rfl

/-- The ways a step changes the world. -/
inductive StepCase (cfg : ManagerConfig) (w : World) : Action → World → Prop where
  | reused {identity ttl confidence answer id}
      (found : w.manager.findExisting identity = some id) :
      StepCase cfg w (.findOrCreateLease identity ttl confidence answer) w
  | resolverRaised {identity ttl confidence answer}
      (missing : w.manager.findExisting identity = none)
      (raised : LeaseManager.initialTtl cfg ttl confidence answer = none) :
      StepCase cfg w (.findOrCreateLease identity ttl confidence answer)
        { w with manager := w.manager.invalidateSuperseded identity }
  | created {identity ttl confidence answer ttlS c}
      (missing : w.manager.findExisting identity = none)
      (resolved : LeaseManager.initialTtl cfg ttl confidence answer = some (ttlS, c)) :
      StepCase cfg w (.findOrCreateLease identity ttl confidence answer)
        { w with manager :=
            (w.manager.invalidateSuperseded identity).insertLease identity ttlS c }
  | operated {a id f t} (operation : Operation cfg w.clock id a f)
      (known : w.lease? id = some t) : StepCase cfg w a (w.putLease id (f t))
  | snapshotStored (snapshot : RequestSnapshot) :
      StepCase cfg w (.storeSnapshot snapshot) { w with snapshots := w.snapshots.store snapshot }
  | snapshotDropped (fp : String) :
      StepCase cfg w (.dropSnapshot fp) { w with snapshots := w.snapshots.drop fp }
  | clockSet (now : ℚ) : StepCase cfg w (.setClock now) { w with clock := now }
  | spawned {a tid queue} (starts : (∃ id, a = .evaluateLease tid id) ∨ a = .tick tid)
      (unused : w.task? tid = none) : StepCase cfg w a (w.putTask tid { queue })
  | unknownLease {tid task id rest} (here : w.task? tid = some task)
      (ready : task.point = .ready) (queued : task.queue = id :: rest)
      (missing : w.lease? id = none) :
      StepCase cfg w (.resume tid)
        (w.finish tid { task with queue := rest } id .stoppedNoTargets)
  | decided {tid task id rest t t' decision} (here : w.task? tid = some task)
      (ready : task.point = .ready) (queued : task.queue = id :: rest)
      (known : w.lease? id = some t)
      (runs : evaluateLease cfg w.clock t = (t', .done decision)) :
      StepCase cfg w (.resume tid)
        ((w.putLease id t').finish tid { task with queue := rest } id decision)
  | waits {tid task id rest t g} (here : w.task? tid = some task)
      (ready : task.point = .ready) (queued : task.queue = id :: rest)
      (known : w.lease? id = some t)
      (authorised : Authorised cfg w.clock t (consumeSchedule cfg t) g)
      (busy : (w.lockOf t.lease.cacheFingerprint).isFree = false) :
      StepCase cfg w (.resume tid)
        (((w.putLease id (consumeSchedule cfg t)).changeLock t.lease.cacheFingerprint
            (FifoLock.enqueue tid)).putTask tid
          { task with queue := rest, point := .atLock id t.lease.cacheFingerprint g })
  | refusedAtOnce {tid task id rest t g decision} (here : w.task? tid = some task)
      (ready : task.point = .ready) (queued : task.queue = id :: rest)
      (known : w.lease? id = some t)
      (authorised : Authorised cfg w.clock t (consumeSchedule cfg t) g)
      (free : (w.lockOf t.lease.cacheFingerprint).isFree = true)
      (refused : underLock cfg w.snapshots (consumeSchedule cfg t) g = .error decision) :
      StepCase cfg w (.resume tid)
        ((((w.putLease id (consumeSchedule cfg t)).changeLock t.lease.cacheFingerprint
            FifoLock.lock).changeLock t.lease.cacheFingerprint FifoLock.release).finish tid
          { task with queue := rest } id decision)
  | sentAtOnce {tid task id rest t g snapshot} (here : w.task? tid = some task)
      (ready : task.point = .ready) (queued : task.queue = id :: rest)
      (known : w.lease? id = some t)
      (authorised : Authorised cfg w.clock t (consumeSchedule cfg t) g)
      (free : (w.lockOf t.lease.cacheFingerprint).isFree = true)
      (passed : underLock cfg w.snapshots (consumeSchedule cfg t) g = .ok snapshot) :
      StepCase cfg w (.resume tid)
        ((((w.putLease id (consumeSchedule cfg t)).changeLock t.lease.cacheFingerprint
            FifoLock.lock).putLease id (startWarm (consumeSchedule cfg t))).putTask tid
          { task with
            queue := rest
            point := .executing id t.lease.cacheFingerprint snapshot })
  | refusedAtLock {tid task id fp g t decision} (here : w.task? tid = some task)
      (waiting : task.point = .atLock id fp g) (first : (w.lockOf fp).next? = some tid)
      (known : w.lease? id = some t) (refused : underLock cfg w.snapshots t g = .error decision) :
      StepCase cfg w (.resume tid)
        (((w.changeLock fp FifoLock.grant).changeLock fp FifoLock.release).finish tid task id
          decision)
  | sentAtLock {tid task id fp g t snapshot} (here : w.task? tid = some task)
      (waiting : task.point = .atLock id fp g) (first : (w.lockOf fp).next? = some tid)
      (known : w.lease? id = some t) (passed : underLock cfg w.snapshots t g = .ok snapshot) :
      StepCase cfg w (.resume tid)
        (((w.changeLock fp FifoLock.grant).putLease id (startWarm t)).putTask tid
          { task with point := .executing id fp snapshot })
  | returned {tid task id fp snapshot t answer} (here : w.task? tid = some task)
      (inside : task.point = .executing id fp snapshot) (known : w.lease? id = some t) :
      StepCase cfg w (.executeReturns tid answer)
        (((w.putLease id (finishWarm w.clock answer t).1).changeLock fp FifoLock.release).finish
          tid task id (finishWarm w.clock answer t).2)
  | cancelledReady {tid task} (here : w.task? tid = some task) (ready : task.point = .ready) :
      StepCase cfg w (.cancel tid) (w.putTask tid { task with queue := [], point := .ready })
  | cancelledWaiting {tid task id fp g} (here : w.task? tid = some task)
      (waiting : task.point = .atLock id fp g) :
      StepCase cfg w (.cancel tid)
        ((w.changeLock fp (FifoLock.abandon tid)).putTask tid
          { task with queue := [], point := .ready })
  | cancelledWarm {tid task id fp snapshot t} (here : w.task? tid = some task)
      (inside : task.point = .executing id fp snapshot) (known : w.lease? id = some t) :
      StepCase cfg w (.cancel tid)
        (((w.putLease id (endWarm t)).changeLock fp FifoLock.release).putTask tid
          { task with queue := [], point := .ready })

theorem consumeSchedule_cacheFingerprint (cfg : ManagerConfig) (t : TrackedLease) :
    (consumeSchedule cfg t).lease.cacheFingerprint = t.lease.cacheFingerprint := by
  unfold consumeSchedule recordDecision
  split <;> rfl

theorem consumeSchedule_state (cfg : ManagerConfig) (t : TrackedLease) :
    (consumeSchedule cfg t).lease.state = t.lease.state := by
  unfold consumeSchedule recordDecision
  split <;> rfl

private theorem findOrCreateLease_cases (cfg : ManagerConfig) (w : World)
    (identity : LeaseIdentity) (ttl : Option ℚ) (confidence : ℚ) (answer : ResolverAnswer) :
    StepCase cfg w (.findOrCreateLease identity ttl confidence answer)
      { w with manager :=
          (w.manager.findOrCreateLease cfg identity ttl confidence answer).1 } := by
  unfold LeaseManager.findOrCreateLease
  cases existing : w.manager.findExisting identity with
  | some id => exact .reused existing
  | none =>
      cases resolved : LeaseManager.initialTtl cfg ttl confidence answer with
      | none => exact .resolverRaised existing resolved
      | some pair => exact .created existing resolved

private theorem beginEvaluation_cases {cfg : ManagerConfig} {w : World} {tid : TaskId}
    {task : EvaluationTask} {id : LeaseId} {rest : List LeaseId}
    (here : w.task? tid = some task) (ready : task.point = .ready)
    (queued : task.queue = id :: rest) :
    StepCase cfg w (.resume tid)
      (w.beginEvaluation cfg tid { task with queue := rest } id) := by
  unfold World.beginEvaluation
  cases known : w.lease? id with
  | none => exact .unknownLease here ready queued known
  | some t =>
      cases result : evaluateLease cfg w.clock t with
      | mk t' e =>
          simp only [result]
          cases e with
          | done decision => exact .decided here ready queued known result
          | lock g =>
              have authorised := evaluateLease_lock result
              have same : t' = consumeSchedule cfg t := authorised.after
              subst same
              simp only [World.acquireLock, consumeSchedule_cacheFingerprint,
                World.lockOf_putLease]
              split
              · rename_i free
                simp only [World.runLocked, World.snapshots_changeLock,
                  World.snapshots_putLease]
                cases checks : underLock cfg w.snapshots (consumeSchedule cfg t) g with
                | error decision =>
                    exact .refusedAtOnce here ready queued known authorised free checks
                | ok snapshot =>
                    exact .sentAtOnce here ready queued known authorised free checks
              · rename_i busy
                exact .waits here ready queued known authorised (by simpa using busy)

private theorem resume_cases {cfg : ManagerConfig} {w w' : World} {tid : TaskId}
    (resumed : w.resume cfg tid = some w') : StepCase cfg w (.resume tid) w' := by
  unfold World.resume at resumed
  cases here : w.task? tid with
  | none => simp [here] at resumed
  | some task =>
      simp only [here] at resumed
      cases place : task.point with
      | executing id fp snapshot => simp [place] at resumed
      | atLock id fp g =>
          simp only [place] at resumed
          split at resumed
          · rename_i first
            cases known : w.lease? id with
            | none => simp [known] at resumed
            | some t =>
                simp only [known, Option.some.injEq] at resumed
                subst resumed
                unfold World.runLocked
                rw [World.snapshots_changeLock]
                cases checks : underLock cfg w.snapshots t g with
                | error decision => exact .refusedAtLock here place first known checks
                | ok snapshot => exact .sentAtLock here place first known checks
          · cases resumed
      | ready =>
          simp only [place] at resumed
          cases queued : task.queue with
          | nil => simp [queued] at resumed
          | cons id rest =>
              simp only [queued, Option.some.injEq] at resumed
              subst resumed
              exact beginEvaluation_cases here place queued

private theorem modifyLease_cases {cfg : ManagerConfig} {w w' : World} {a : Action}
    {id : LeaseId} {f : TrackedLease → TrackedLease}
    (operation : Operation cfg w.clock id a f)
    (modified : w.modifyLease id f = some w') : StepCase cfg w a w' := by
  unfold World.modifyLease LeaseManager.modify at modified
  cases known : w.lease? id with
  | none =>
      have missing : w.manager.leases.get? id = none := known
      simp [missing] at modified
  | some t =>
      have found : w.manager.leases.get? id = some t := known
      simp only [found, Option.map_some, Option.some.injEq] at modified
      subst modified
      exact .operated operation known

private theorem spawn_cases {cfg : ManagerConfig} {w w' : World} {a : Action} {tid : TaskId}
    {queue : List LeaseId} (starts : (∃ id, a = .evaluateLease tid id) ∨ a = .tick tid)
    (spawned : w.spawn tid queue = some w') : StepCase cfg w a w' := by
  unfold World.spawn at spawned
  cases unused : w.task? tid with
  | some task => simp [unused] at spawned
  | none =>
      simp only [unused, Option.some.injEq] at spawned
      subst spawned
      exact .spawned starts unused

/-- Every step is one of the listed cases. -/
theorem step_cases {cfg : ManagerConfig} {w w' : World} {a : Action}
    (stepped : step cfg w a = some w') : StepCase cfg w a w' := by
  cases a with
  | findOrCreateLease identity ttl confidence answer =>
      cases stepped
      exact findOrCreateLease_cases cfg w identity ttl confidence answer
  | arm id => exact modifyLease_cases .arm stepped
  | invalidate id => exact modifyLease_cases .invalidate stepped
  | complete id => exact modifyLease_cases .complete stepped
  | targetStarted id targetId => exact modifyLease_cases (.targetStarted targetId) stepped
  | targetFinished id targetId => exact modifyLease_cases (.targetFinished targetId) stepped
  | beforeNormalRequest id => exact modifyLease_cases .beforeNormalRequest stepped
  | afterNormalRequest id outcome => exact modifyLease_cases (.afterNormalRequest outcome) stepped
  | refreshTtl id answer => exact modifyLease_cases (.refreshTtl answer) stepped
  | reconcileRoute id routeHash => exact modifyLease_cases (.reconcileRoute routeHash) stepped
  | updateCostEstimates id usage => exact modifyLease_cases (.updateCostEstimates usage) stepped
  | storeSnapshot snapshot =>
      cases stepped
      exact .snapshotStored snapshot
  | dropSnapshot fp =>
      cases stepped
      exact .snapshotDropped fp
  | setClock now =>
      cases stepped
      exact .clockSet now
  | evaluateLease tid id => exact spawn_cases (Or.inl ⟨id, rfl⟩) stepped
  | tick tid => exact spawn_cases (Or.inr rfl) stepped
  | resume tid => exact resume_cases stepped
  | executeReturns tid answer =>
      change w.executeReturns tid answer = some w' at stepped
      unfold World.executeReturns at stepped
      cases here : w.task? tid with
      | none => simp [here] at stepped
      | some task =>
          simp only [here] at stepped
          cases place : task.point with
          | ready => simp [place] at stepped
          | atLock id fp g => simp [place] at stepped
          | executing id fp snapshot =>
              simp only [place] at stepped
              cases known : w.lease? id with
              | none => simp [known] at stepped
              | some t =>
                  simp only [known, Option.some.injEq] at stepped
                  subst stepped
                  exact .returned here place known
  | cancel tid =>
      change w.cancelTask tid = some w' at stepped
      unfold World.cancelTask at stepped
      cases here : w.task? tid with
      | none => simp [here] at stepped
      | some task =>
          simp only [here] at stepped
          cases place : task.point with
          | ready =>
              simp only [place, Option.some.injEq] at stepped
              subst stepped
              exact .cancelledReady here place
          | atLock id fp g =>
              simp only [place, Option.some.injEq] at stepped
              subst stepped
              exact .cancelledWaiting here place
          | executing id fp snapshot =>
              simp only [place] at stepped
              cases known : w.lease? id with
              | none => simp [known] at stepped
              | some t =>
                  simp only [known, Option.some.injEq] at stepped
                  subst stepped
                  exact .cancelledWarm here place known

/-! ### What a step does to one lease -/

/-- The lease that a step is about, other than by the registry. -/
def Action.subject (w : World) : Action → Option LeaseId
  | .arm id | .invalidate id | .complete id | .targetStarted id _ | .targetFinished id _
  | .beforeNormalRequest id | .afterNormalRequest id _ | .refreshTtl id _ | .reconcileRoute id _
  | .updateCostEstimates id _ => some id
  | .resume tid =>
      match w.task? tid with
      | none => none
      | some task =>
          match task.point with
          | .ready => task.queue.head?
          | .atLock id _ _ => some id
          | .executing _ _ _ => none
  | .executeReturns tid _ | .cancel tid =>
      match w.task? tid with
      | none => none
      | some task =>
          match task.point with
          | .executing id _ _ => some id
          | _ => none
  | _ => none

/-- What a step does to a tracked lease. -/
inductive LeaseEffect (cfg : ManagerConfig) (w : World) (id : LeaseId) (t : TrackedLease) :
    Action → TrackedLease → Prop where
  | other {a} (elsewhere : a.subject w ≠ some id)
      (registry : ∀ identity ttl confidence answer,
        a ≠ .findOrCreateLease identity ttl confidence answer) : LeaseEffect cfg w id t a t
  | kept {identity ttl confidence answer}
      (keeps : w.manager.findExisting identity ≠ none ∨
        LeaseManager.supersedes identity t = false) :
      LeaseEffect cfg w id t (.findOrCreateLease identity ttl confidence answer) t
  | superseded {identity ttl confidence answer}
      (missing : w.manager.findExisting identity = none)
      (switched : LeaseManager.supersedes identity t = true) :
      LeaseEffect cfg w id t (.findOrCreateLease identity ttl confidence answer) t.invalidate
  | operated {a f} (operation : Operation cfg w.clock id a f) : LeaseEffect cfg w id t a (f t)
  | decided {tid task rest t' decision} (here : w.task? tid = some task)
      (ready : task.point = .ready) (queued : task.queue = id :: rest)
      (runs : evaluateLease cfg w.clock t = (t', .done decision)) :
      LeaseEffect cfg w id t (.resume tid) t'
  | authorised {tid task rest g} (here : w.task? tid = some task)
      (ready : task.point = .ready) (queued : task.queue = id :: rest)
      (authorised : Authorised cfg w.clock t (consumeSchedule cfg t) g) :
      LeaseEffect cfg w id t (.resume tid) (consumeSchedule cfg t)
  | sentAtOnce {tid task rest g snapshot} (here : w.task? tid = some task)
      (ready : task.point = .ready) (queued : task.queue = id :: rest)
      (authorised : Authorised cfg w.clock t (consumeSchedule cfg t) g)
      (passed : underLock cfg w.snapshots (consumeSchedule cfg t) g = .ok snapshot) :
      LeaseEffect cfg w id t (.resume tid) (startWarm (consumeSchedule cfg t))
  | refusedAtLock {tid task fp g decision} (here : w.task? tid = some task)
      (waiting : task.point = .atLock id fp g)
      (refused : underLock cfg w.snapshots t g = .error decision) :
      LeaseEffect cfg w id t (.resume tid) t
  | sentAtLock {tid task fp g snapshot} (here : w.task? tid = some task)
      (waiting : task.point = .atLock id fp g)
      (passed : underLock cfg w.snapshots t g = .ok snapshot) :
      LeaseEffect cfg w id t (.resume tid) (startWarm t)
  | returned {tid task fp snapshot answer} (here : w.task? tid = some task)
      (inside : task.point = .executing id fp snapshot) :
      LeaseEffect cfg w id t (.executeReturns tid answer) (finishWarm w.clock answer t).1
  | cancelledWarm {tid task fp snapshot} (here : w.task? tid = some task)
      (inside : task.point = .executing id fp snapshot) :
      LeaseEffect cfg w id t (.cancel tid) (endWarm t)

theorem Operation.subject {cfg : ManagerConfig} {w : World} {id : LeaseId} {a : Action}
    {f : TrackedLease → TrackedLease} (operation : Operation cfg w.clock id a f) :
    a.subject w = some id := by
  cases operation <;> rfl

theorem Operation.not_registry {cfg : ManagerConfig} {now : ℚ} {id : LeaseId} {a : Action}
    {f : TrackedLease → TrackedLease} (operation : Operation cfg now id a f)
    (identity : LeaseIdentity) (ttl : Option ℚ) (confidence : ℚ) (answer : ResolverAnswer) :
    a ≠ .findOrCreateLease identity ttl confidence answer := by
  cases operation <;> exact Action.noConfusion

theorem lease?_insertLease {m : LeaseManager} {identity : LeaseIdentity} {ttlS c : ℚ}
    {id : LeaseId} :
    (m.insertLease identity ttlS c).leases.get? id =
      if id = m.freshId then some (LeaseManager.newLease identity m.freshId ttlS c)
      else m.leases.get? id :=
  Dict.get?_set _ _ _ _

theorem lease?_invalidateSuperseded {m : LeaseManager} {identity : LeaseIdentity}
    {id : LeaseId} :
    (m.invalidateSuperseded identity).leases.get? id =
      (m.leases.get? id).map fun t =>
        if LeaseManager.supersedes identity t then t.invalidate else t :=
  Dict.get?_mapValues _ _ _

theorem freshId_invalidateSuperseded (m : LeaseManager) (identity : LeaseIdentity) :
    (m.invalidateSuperseded identity).freshId = m.freshId := by
  simp [LeaseManager.freshId, LeaseManager.invalidateSuperseded]

private theorem registry_effect {cfg : ManagerConfig} {w : World} {id : LeaseId}
    {t : TrackedLease} {identity : LeaseIdentity} (ttl : Option ℚ) (confidence : ℚ)
    (answer : ResolverAnswer) (missing : w.manager.findExisting identity = none) :
    LeaseEffect cfg w id t (.findOrCreateLease identity ttl confidence answer)
      (if LeaseManager.supersedes identity t then t.invalidate else t) := by
  cases switched : LeaseManager.supersedes identity t with
  | true => exact .superseded missing switched
  | false => exact .kept (Or.inr switched)

/-- A step that rewrites one tracked lease has its effect there and none elsewhere. -/
private theorem effect_at {cfg : ManagerConfig} {w w' : World} {id j : LeaseId}
    {t u x : TrackedLease} {a : Action} (tracked : w.lease? id = some t)
    (known : w.lease? j = some u)
    (lookup : w'.lease? id = if id = j then some x else w.lease? id)
    (about : a.subject w = some j)
    (registry : ∀ identity ttl confidence answer,
      a ≠ .findOrCreateLease identity ttl confidence answer)
    (effect : LeaseEffect cfg w j u a x) :
    ∃ t', w'.lease? id = some t' ∧ LeaseEffect cfg w id t a t' := by
  by_cases same : id = j
  · subst same
    rw [tracked] at known
    cases known
    rw [if_pos rfl] at lookup
    exact ⟨x, lookup, effect⟩
  · rw [if_neg same, tracked] at lookup
    refine ⟨t, lookup, .other ?_ registry⟩
    rw [about]
    intro equal
    exact same (Option.some.inj equal).symm

/-- A step that leaves every lease alone. -/
private theorem effect_none {cfg : ManagerConfig} {w : World} {id : LeaseId}
    {t : TrackedLease} {a : Action} (about : a.subject w = none)
    (registry : ∀ identity ttl confidence answer,
      a ≠ .findOrCreateLease identity ttl confidence answer) :
    LeaseEffect cfg w id t a t := by
  apply LeaseEffect.other _ registry
  rw [about]
  exact Option.some_ne_none id |>.symm

/-- Every step keeps every tracked lease tracked, and changes it in one of the listed ways. -/
theorem step_effect {cfg : ManagerConfig} {w w' : World} {a : Action} {id : LeaseId}
    {t : TrackedLease} (stepped : step cfg w a = some w') (tracked : w.lease? id = some t) :
    ∃ t', w'.lease? id = some t' ∧ LeaseEffect cfg w id t a t' := by
  cases step_cases stepped with
  | reused found =>
      exact ⟨t, tracked, .kept (Or.inl (by simp [found]))⟩
  | resolverRaised missing raised =>
      refine ⟨_, ?_, registry_effect _ _ _ missing⟩
      simp only [World.lease?, lease?_invalidateSuperseded] at tracked ⊢
      rw [tracked]
      rfl
  | created missing resolved =>
      refine ⟨_, ?_, registry_effect _ _ _ missing⟩
      have old : ¬ id = w.manager.freshId := by
        intro same
        subst same
        rw [World.lease?, LeaseManager.get?_freshId] at tracked
        cases tracked
      simp only [World.lease?, lease?_insertLease, freshId_invalidateSuperseded, old, if_false,
        lease?_invalidateSuperseded] at tracked ⊢
      rw [tracked]
      rfl
  | operated operation known =>
      exact effect_at tracked known (by simp) operation.subject operation.not_registry
        (.operated operation)
  | snapshotStored snapshot =>
      exact ⟨t, tracked, effect_none rfl (by intros; exact Action.noConfusion)⟩
  | snapshotDropped fp =>
      exact ⟨t, tracked, effect_none rfl (by intros; exact Action.noConfusion)⟩
  | clockSet now =>
      exact ⟨t, tracked, effect_none rfl (by intros; exact Action.noConfusion)⟩
  | spawned starts unused =>
      rcases starts with ⟨j, rfl⟩ | rfl
      · exact ⟨t, tracked, effect_none rfl (by intros; exact Action.noConfusion)⟩
      · exact ⟨t, tracked, effect_none rfl (by intros; exact Action.noConfusion)⟩
  | @unknownLease tid task j rest here ready queued missing =>
      refine ⟨t, tracked, .other ?_ (by intros; exact Action.noConfusion)⟩
      simp only [Action.subject, here, ready, queued, List.head?_cons]
      intro same
      rw [Option.some.inj same, tracked] at missing
      cases missing
  | decided here ready queued known runs =>
      exact effect_at tracked known (by simp [World.finish])
        (by simp [Action.subject, here, ready, queued]) (by intros; exact Action.noConfusion)
        (.decided here ready queued runs)
  | waits here ready queued known authorised busy =>
      exact effect_at tracked known (by simp)
        (by simp [Action.subject, here, ready, queued]) (by intros; exact Action.noConfusion)
        (.authorised here ready queued authorised)
  | refusedAtOnce here ready queued known authorised free refused =>
      exact effect_at tracked known (by simp [World.finish])
        (by simp [Action.subject, here, ready, queued]) (by intros; exact Action.noConfusion)
        (.authorised here ready queued authorised)
  | sentAtOnce here ready queued known authorised free passed =>
      exact effect_at tracked known (by simp; split <;> simp_all)
        (by simp [Action.subject, here, ready, queued]) (by intros; exact Action.noConfusion)
        (.sentAtOnce here ready queued authorised passed)
  | @refusedAtLock tid task j fp g u decision here waiting first known refused =>
      have lookup : w.lease? id = if id = j then some u else w.lease? id := by
        split
        · rename_i same
          rw [same, known]
        · rfl
      exact effect_at tracked known (by simpa [World.finish] using lookup)
        (by simp [Action.subject, here, waiting]) (by intros; exact Action.noConfusion)
        (.refusedAtLock here waiting refused)
  | sentAtLock here waiting first known passed =>
      exact effect_at tracked known (by simp)
        (by simp [Action.subject, here, waiting]) (by intros; exact Action.noConfusion)
        (.sentAtLock here waiting passed)
  | returned here inside known =>
      exact effect_at tracked known (by simp [World.finish])
        (by simp [Action.subject, here, inside]) (by intros; exact Action.noConfusion)
        (.returned here inside)
  | cancelledReady here ready =>
      exact ⟨t, by simp [tracked],
        effect_none (by simp [Action.subject, here, ready])
          (by intros; exact Action.noConfusion)⟩
  | cancelledWaiting here waiting =>
      exact ⟨t, by simp [tracked],
        effect_none (by simp [Action.subject, here, waiting])
          (by intros; exact Action.noConfusion)⟩
  | cancelledWarm here inside known =>
      exact effect_at tracked known (by simp)
        (by simp [Action.subject, here, inside]) (by intros; exact Action.noConfusion)
        (.cancelledWarm here inside)

/-! ### The frame of an evaluation -/

/-- Only bookkeeping changed: the state, the recorded decision, and the flags of the schedule and of the
    warm in flight. An evaluation writes nothing else until its warm returns. -/
structure Bookkeeping (t t' : TrackedLease) : Prop where
  lease : t'.lease =
    { t.lease with state := t'.lease.state, lastWarmDecision := t'.lease.lastWarmDecision }
  runtime : t'.runtime =
    { t.runtime with
      scheduledGeneration := t'.runtime.scheduledGeneration
      pendingWarm := t'.runtime.pendingWarm
      warmRequestActive := t'.runtime.warmRequestActive }

namespace Bookkeeping

theorem refl (t : TrackedLease) : Bookkeeping t t := ⟨rfl, rfl⟩

theorem trans {t u v : TrackedLease} (first : Bookkeeping t u) (second : Bookkeeping u v) :
    Bookkeeping t v where
  lease := by rw [second.lease, first.lease]
  runtime := by rw [second.runtime, first.runtime]

section Fields

variable {t t' : TrackedLease} (frame : Bookkeeping t t')
include frame

theorem identity : t'.lease.toLeaseIdentity = t.lease.toLeaseIdentity := by rw [frame.lease]
theorem touch : t'.lease.lastCacheTouchAt = t.lease.lastCacheTouchAt := by rw [frame.lease]
theorem hit : t'.lease.lastConfirmedHitAt = t.lease.lastConfirmedHitAt := by rw [frame.lease]
theorem targets : t'.lease.activeTargets = t.lease.activeTargets := by rw [frame.lease]
theorem generation : t'.lease.generation = t.lease.generation := by rw [frame.lease]
theorem warmCount : t'.lease.warmCount = t.lease.warmCount := by rw [frame.lease]
theorem warmCost : t'.lease.warmCostUsd = t.lease.warmCostUsd := by rw [frame.lease]
theorem busy : t'.runtime.realRequestActive = t.runtime.realRequestActive := by
  rw [frame.runtime]
theorem misses : t'.runtime.consecutiveWarmMisses = t.runtime.consecutiveWarmMisses := by
  rw [frame.runtime]
theorem circuit : t'.runtime.circuitOpen = t.runtime.circuitOpen := by rw [frame.runtime]

end Fields

theorem schedule (t : TrackedLease) : Bookkeeping t (schedule t) := by
  unfold CachePilot.schedule
  dsimp only
  split
  · exact ⟨rfl, rfl⟩
  · exact ⟨rfl, rfl⟩

theorem consumeSchedule (cfg : ManagerConfig) (t : TrackedLease) :
    Bookkeeping t (consumeSchedule cfg t) := by
  unfold CachePilot.consumeSchedule recordDecision
  split
  · exact ⟨rfl, rfl⟩
  · exact ⟨rfl, rfl⟩

theorem stopEconomically (cfg : ManagerConfig) (t : TrackedLease) :
    Bookkeeping t (stopEconomically cfg t) := by
  unfold CachePilot.stopEconomically recordDecision
  split
  · exact ⟨rfl, rfl⟩
  · exact ⟨rfl, rfl⟩

theorem startWarm (t : TrackedLease) : Bookkeeping t (startWarm t) := ⟨rfl, rfl⟩

theorem arm (t : TrackedLease) : Bookkeeping t t.arm := by
  unfold TrackedLease.arm CacheLease.arm
  split
  · exact ⟨rfl, rfl⟩
  · exact ⟨rfl, rfl⟩

theorem endWarm (t : TrackedLease) : Bookkeeping t (endWarm t) := by
  unfold CachePilot.endWarm CacheLease.arm
  split
  · exact ⟨rfl, rfl⟩
  · exact ⟨rfl, rfl⟩

/-- An evaluation that ends before the lock. -/
theorem of_evaluated {cfg : ManagerConfig} {now : ℚ} {t t' : TrackedLease} {e : Evaluation}
    (ends : Evaluated cfg now t t' e) : Bookkeeping t t' := by
  cases ends with
  | stopped decision other => exact refl t
  | scheduled guards => exact schedule t
  | uneconomic guards => exact stopEconomically cfg t
  | stale guards => exact consumeSchedule cfg t
  | goes g authorised => exact consumeSchedule cfg t

end Bookkeeping

/-- A step seen from far enough that evaluations and sends are bookkeeping. -/
inductive LeaseChange (cfg : ManagerConfig) (w : World) (id : LeaseId) (t : TrackedLease) :
    Action → TrackedLease → Prop where
  | bookkeeping {a t'} (quiet : ∀ f, ¬ Operation cfg w.clock id a f)
      (unreturned : ∀ tid answer, a = .executeReturns tid answer → w.inFlight tid ≠ some id)
      (frame : Bookkeeping t t') : LeaseChange cfg w id t a t'
  | superseded {identity ttl confidence answer}
      (missing : w.manager.findExisting identity = none)
      (switched : LeaseManager.supersedes identity t = true) :
      LeaseChange cfg w id t (.findOrCreateLease identity ttl confidence answer) t.invalidate
  | operated {a f} (operation : Operation cfg w.clock id a f) : LeaseChange cfg w id t a (f t)
  | returned {tid answer} (flying : w.inFlight tid = some id) :
      LeaseChange cfg w id t (.executeReturns tid answer) (finishWarm w.clock answer t).1

theorem subject_of_inFlight {w : World} {tid : TaskId} {id : LeaseId}
    (flying : w.inFlight tid = some id) (answer : ExecuteResult) :
    (Action.executeReturns tid answer).subject w = some id := by
  obtain ⟨task, fp, snapshot, here, inside⟩ := World.inside_of_inFlight flying
  simp [Action.subject, here, inside]

theorem LeaseEffect.change {cfg : ManagerConfig} {w : World} {id : LeaseId} {a : Action}
    {t t' : TrackedLease} (effect : LeaseEffect cfg w id t a t') :
    LeaseChange cfg w id t a t' := by
  cases effect with
  | other elsewhere registry =>
      apply LeaseChange.bookkeeping _ _ (.refl t)
      · intro f operation
        exact elsewhere operation.subject
      · intro tid answer returns flying
        rw [returns] at elsewhere
        exact elsewhere (subject_of_inFlight flying answer)
  | kept keeps =>
      exact .bookkeeping (by intro f operation; cases operation) (by intros; contradiction)
        (.refl t)
  | superseded missing switched => exact .superseded missing switched
  | operated operation => exact .operated operation
  | decided here ready queued runs =>
      exact .bookkeeping (by intro f operation; cases operation) (by intros; contradiction)
        (.of_evaluated (evaluated_of_runs runs))
  | authorised here ready queued authorised =>
      exact .bookkeeping (by intro f operation; cases operation) (by intros; contradiction)
        (.consumeSchedule cfg t)
  | sentAtOnce here ready queued authorised passed =>
      exact .bookkeeping (by intro f operation; cases operation) (by intros; contradiction)
        ((Bookkeeping.consumeSchedule cfg t).trans (.startWarm _))
  | refusedAtLock here waiting refused =>
      exact .bookkeeping (by intro f operation; cases operation) (by intros; contradiction)
        (.refl t)
  | sentAtLock here waiting passed =>
      exact .bookkeeping (by intro f operation; cases operation) (by intros; contradiction)
        (.startWarm t)
  | returned here inside => exact .returned (World.inFlight_of_inside here inside)
  | cancelledWarm here inside =>
      exact .bookkeeping (by intro f operation; cases operation) (by intros; contradiction)
        (.endWarm t)

/-- Every step changes every tracked lease in one of these four ways. -/
theorem step_change {cfg : ManagerConfig} {w w' : World} {a : Action} {id : LeaseId}
    {t : TrackedLease} (stepped : step cfg w a = some w') (tracked : w.lease? id = some t) :
    ∃ t', w'.lease? id = some t' ∧ LeaseChange cfg w id t a t' := by
  obtain ⟨t', tracked', effect⟩ := step_effect stepped tracked
  exact ⟨t', tracked', effect.change⟩

/-- Only setting the clock moves it. -/
theorem step_clock {cfg : ManagerConfig} {w w' : World} {a : Action}
    (stepped : step cfg w a = some w') : w'.clock = w.clock ∨ a = .setClock w'.clock := by
  cases step_cases stepped with
  | clockSet now => exact Or.inr rfl
  | _ => exact Or.inl rfl

theorem finishWarm_touch (now : ℚ) (answer : ExecuteResult) (t : TrackedLease) :
    (finishWarm now answer t).1.lease.lastCacheTouchAt =
      if answer.toWarmResult.touchesCache then some now else t.lease.lastCacheTouchAt := by
  rcases finishWarm_cases now answer t with
    ⟨declined, same⟩ | ⟨hit, same⟩ | ⟨outcome, ran, missed, same⟩
  · rw [same, (Bookkeeping.endWarm t).touch]
    simp [WarmResult.touchesCache, declined]
  · rw [same]
    simp [WarmResult.touchesCache, hit, warmedHit]
  · rw [same]
    simp [WarmResult.touchesCache, ran, missed, warmedMiss]

theorem finishWarm_state (now : ℚ) (answer : ExecuteResult) (t : TrackedLease) :
    (finishWarm now answer t).1.lease.state =
      if t.lease.state = .invalidated then .invalidated else .armed := by
  rcases finishWarm_cases now answer t with ⟨-, same⟩ | ⟨-, same⟩ | ⟨outcome, -, -, same⟩
  · rw [same, endWarm, CacheLease.arm_eq]
  · rw [same]
    rfl
  · rw [same]
    rfl

/-- The return of the executor ends the warm in flight, counts and charges it, touches the cache, and moves
    the circuit; it writes nothing else. -/
theorem finishWarm_frame (now : ℚ) (answer : ExecuteResult) (t : TrackedLease) :
    (finishWarm now answer t).1 =
      { lease := { t.lease with
          state := (finishWarm now answer t).1.lease.state
          warmCount := (finishWarm now answer t).1.lease.warmCount
          warmCostUsd := (finishWarm now answer t).1.lease.warmCostUsd
          lastCacheTouchAt := (finishWarm now answer t).1.lease.lastCacheTouchAt
          lastConfirmedHitAt := (finishWarm now answer t).1.lease.lastConfirmedHitAt }
        runtime := { t.runtime with
          warmRequestActive := false
          consecutiveWarmMisses := (finishWarm now answer t).1.runtime.consecutiveWarmMisses
          circuitOpen := (finishWarm now answer t).1.runtime.circuitOpen } } := by
  rcases finishWarm_cases now answer t with ⟨-, same⟩ | ⟨-, same⟩ | ⟨outcome, -, -, same⟩
  · rw [same, endWarm, CacheLease.arm_eq]
  · rw [same]
    rfl
  · rw [same]
    rfl

section Return

variable (now : ℚ) (answer : ExecuteResult) (t : TrackedLease)

theorem finishWarm_flag : (finishWarm now answer t).1.runtime.warmRequestActive = false := by
  rw [finishWarm_frame]

theorem finishWarm_busy :
    (finishWarm now answer t).1.runtime.realRequestActive = t.runtime.realRequestActive := by
  rw [finishWarm_frame]

theorem finishWarm_scheduledGeneration :
    (finishWarm now answer t).1.runtime.scheduledGeneration = t.runtime.scheduledGeneration := by
  rw [finishWarm_frame]

theorem finishWarm_targets :
    (finishWarm now answer t).1.lease.activeTargets = t.lease.activeTargets := by
  rw [finishWarm_frame]

theorem finishWarm_generation :
    (finishWarm now answer t).1.lease.generation = t.lease.generation := by
  rw [finishWarm_frame]

theorem finishWarm_identity :
    (finishWarm now answer t).1.lease.toLeaseIdentity = t.lease.toLeaseIdentity := by
  rw [finishWarm_frame]

end Return

/-! ### Creation -/

private theorem ne_of_absent {w : World} {id j : LeaseId} {t : TrackedLease}
    (known : w.lease? j = some t) (absent : w.lease? id = none) : ¬ id = j := by
  intro same
  rw [same, known] at absent
  cases absent

/-- A lease appears only when the registry creates it. -/
theorem step_creates {cfg : ManagerConfig} {w w' : World} {a : Action} {id : LeaseId}
    {t' : TrackedLease} (stepped : step cfg w a = some w') (absent : w.lease? id = none)
    (appears : w'.lease? id = some t') :
    ∃ (identity : LeaseIdentity) (ttl : Option ℚ) (confidence : ℚ) (answer : ResolverAnswer)
      (ttlS c : ℚ),
      a = .findOrCreateLease identity ttl confidence answer ∧
      w.manager.findExisting identity = none ∧
      id = w.manager.freshId ∧ t' = LeaseManager.newLease identity id ttlS c := by
  cases step_cases stepped with
  | reused found =>
      rw [absent] at appears
      cases appears
  | resolverRaised missing raised =>
      simp only [World.lease?, lease?_invalidateSuperseded] at absent appears
      rw [absent] at appears
      cases appears
  | created missing resolved =>
      simp only [World.lease?, lease?_insertLease, freshId_invalidateSuperseded] at absent appears
      split at appears
      · rename_i same
        have stored := (Option.some.inj appears).symm
        rw [← same] at stored
        exact ⟨_, _, _, _, _, _, rfl, missing, same, stored⟩
      · rw [lease?_invalidateSuperseded, absent] at appears
        cases appears
  | operated operation known => simp [ne_of_absent known absent, absent] at appears
  | snapshotStored snapshot =>
      change w.lease? id = some t' at appears
      rw [absent] at appears
      cases appears
  | snapshotDropped fp =>
      change w.lease? id = some t' at appears
      rw [absent] at appears
      cases appears
  | clockSet now =>
      change w.lease? id = some t' at appears
      rw [absent] at appears
      cases appears
  | spawned starts unused => simp [absent] at appears
  | unknownLease here ready queued missing => simp [World.finish, absent] at appears
  | decided here ready queued known runs =>
      simp [World.finish, ne_of_absent known absent, absent] at appears
  | waits here ready queued known authorised busy =>
      simp [ne_of_absent known absent, absent] at appears
  | refusedAtOnce here ready queued known authorised free refused =>
      simp [World.finish, ne_of_absent known absent, absent] at appears
  | sentAtOnce here ready queued known authorised free passed =>
      simp [ne_of_absent known absent, absent] at appears
  | refusedAtLock here waiting first known refused => simp [World.finish, absent] at appears
  | sentAtLock here waiting first known passed =>
      simp [ne_of_absent known absent, absent] at appears
  | returned here inside known =>
      simp [World.finish, ne_of_absent known absent, absent] at appears
  | cancelledReady here ready => simp [absent] at appears
  | cancelledWaiting here waiting => simp [absent] at appears
  | cancelledWarm here inside known => simp [ne_of_absent known absent, absent] at appears

end CachePilot
