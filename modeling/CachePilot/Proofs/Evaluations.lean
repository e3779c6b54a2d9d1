/-
Module: CachePilot.Proofs.Evaluations
Layer: Proofs
Purpose: The history behind a warm. A lease's generation counts the normal requests that started on it.
  A recorded generation goes back to the evaluation that scheduled it, and a send goes back to the
  beginning of its evaluation: from there on the task did nothing but wait at the lock. Because the
  generation is checked last, no normal request started in between.
Trusted boundary: none
Main exports: run_generation, Begins, Schedules, recorded_since, warmSent_since, since_without_requests
-/
import CachePilot.Proofs.Tasks

namespace CachePilot

/-! ### Generations count normal requests -/

/-- The action starts a normal request on this lease. -/
def Action.startsRequest (id : LeaseId) : Action → Bool
  | .beforeNormalRequest j => j == id
  | _ => false

/-- The action ends a normal request on this lease. -/
def Action.endsRequest (id : LeaseId) : Action → Bool
  | .afterNormalRequest j _ => j == id
  | _ => false

theorem Action.startsRequest_operation (cfg : ManagerConfig) (now : ℚ) {id : LeaseId} {a : Action}
    (started : a.startsRequest id = true) :
    Operation cfg now id a (TrackedLease.beforeNormalRequest now) := by
  cases a with
  | beforeNormalRequest j =>
      have same : j = id := by simpa [Action.startsRequest] using started
      subst same
      exact .beforeNormalRequest
  | _ => cases started

theorem Action.not_startsRequest {cfg : ManagerConfig} {now : ℚ} {id : LeaseId} {a : Action}
    (quiet : ∀ f, ¬ Operation cfg now id a f) : a.startsRequest id = false := by
  cases started : a.startsRequest id with
  | false => rfl
  | true => exact absurd (Action.startsRequest_operation cfg _ started) (quiet _)

/-- An operation runs only on a lease that the manager tracks. -/
theorem operation_tracked {cfg : ManagerConfig} {w w' : World} {a : Action} {id : LeaseId}
    {f : TrackedLease → TrackedLease} (stepped : step cfg w a = some w')
    (operation : Operation cfg w.clock id a f) : ∃ t, w.lease? id = some t := by
  have modified : w.modifyLease id f = some w' := by
    cases operation <;> exact stepped
  cases known : w.lease? id with
  | some t => exact ⟨t, rfl⟩
  | none =>
      have missing : w.manager.leases.get? id = none := known
      simp [World.modifyLease, LeaseManager.modify, missing] at modified

theorem Operation.generation {cfg : ManagerConfig} {now : ℚ} {id : LeaseId} {a : Action}
    {f : TrackedLease → TrackedLease} (operation : Operation cfg now id a f) (t : TrackedLease) :
    (f t).lease.generation = t.lease.generation + if a.startsRequest id then 1 else 0 := by
  cases operation with
  | beforeNormalRequest =>
      simp only [Action.startsRequest, BEq.rfl, if_true]
      rfl
  | arm => exact (Bookkeeping.arm t).generation
  | targetStarted targetId =>
      rw [TrackedLease.targetStarted_frame]
      rfl
  | targetFinished targetId =>
      rw [TrackedLease.targetFinished_frame]
      rfl
  | afterNormalRequest outcome =>
      rw [TrackedLease.afterNormalRequest_frame]
      rfl
  | refreshTtl answer =>
      rw [TrackedLease.refreshTtl_frame]
      rfl
  | updateCostEstimates usage =>
      rw [TrackedLease.updateCostEstimates_frame]
      rfl
  | _ => rfl

/-- The generation grows by one when a normal request starts, and never otherwise. -/
theorem LeaseChange.generation {cfg : ManagerConfig} {w : World} {id : LeaseId} {a : Action}
    {t t' : TrackedLease} (change : LeaseChange cfg w id t a t') :
    t'.lease.generation = t.lease.generation + if a.startsRequest id then 1 else 0 := by
  cases change with
  | bookkeeping quiet unreturned frame =>
      rw [Action.not_startsRequest quiet]
      exact frame.generation
  | superseded missing switched => rfl
  | operated operation => exact operation.generation t
  | returned flying => exact finishWarm_generation _ _ t

/-- What a run says about a lease that it started on nothing: an unknown lease saw no request, and the
    generation of a known one is the number of requests started on it. -/
theorem run_generation {cfg : ManagerConfig} {start w : World} {acts : List Action}
    (initial : start.Initial) (run : exec cfg start acts = some w) {id : LeaseId}
    {t : TrackedLease} (tracked : w.lease? id = some t) :
    t.lease.generation = acts.countP (Action.startsRequest id) := by
  have counted : (w.lease? id = none → acts.countP (Action.startsRequest id) = 0) ∧
      ∀ t, w.lease? id = some t → t.lease.generation = acts.countP (Action.startsRequest id) := by
    apply Execution.history_invariant
      (R := fun before u => (u.lease? id = none → before.countP (Action.startsRequest id) = 0) ∧
        ∀ t, u.lease? id = some t → t.lease.generation = before.countP (Action.startsRequest id))
      _ _ run
    · constructor
      · intro absent
        rfl
      · intro t known
        rw [World.lease?, initial.1] at known
        cases known
    · rintro before a after u v split reached stepped ⟨unknown, known⟩
      rw [List.countP_append, List.countP_singleton]
      cases tracked : u.lease? id with
      | none =>
          have foreign : a.startsRequest id = false := by
            cases started : a.startsRequest id with
            | false => rfl
            | true =>
                have operation := Action.startsRequest_operation cfg u.clock started
                obtain ⟨t, present⟩ := operation_tracked stepped operation
                rw [tracked] at present
                cases present
          rw [foreign, unknown tracked]
          constructor
          · intro absent
            rfl
          · intro t' appears
            obtain ⟨identity, ttl, confidence, answer, ttlS, c, -, -, -, same⟩ :=
              step_creates stepped tracked appears
            rw [same]
            rfl
      | some t =>
          obtain ⟨t', tracked', change⟩ := step_change stepped tracked
          rw [tracked']
          constructor
          · intro absent
            cases absent
          · intro t'' same
            cases same
            rw [change.generation, known t tracked]
  exact counted.2 t tracked

/-! ### The evaluation behind a send -/

/-- In this step the evaluation of lease `id` by task `tid` begins, and it goes on to the lock authorised
    for generation `g`. -/
structure Begins (cfg : ManagerConfig) (w : World) (tid : TaskId) (id : LeaseId) (g : ℕ)
    (a : Action) (t : TrackedLease) : Prop where
  action : a = .resume tid
  ready : ∃ task rest, w.task? tid = some task ∧ task.point = .ready ∧ task.queue = id :: rest
  known : w.lease? id = some t
  authorised : Authorised cfg w.clock t (consumeSchedule cfg t) g

/-- Nobody waits at a lock for this lease. -/
def World.NobodyWaits (w : World) (id : LeaseId) : Prop := ∀ tid fp g, ¬ w.WaitsAt tid id fp g

theorem World.Initial.nobodyWaits {w : World} (initial : w.Initial) (id : LeaseId) :
    w.NobodyWaits id := by
  intro tid fp g waiting
  simp [WaitsAt, pointOf, task?, initial.2] at waiting

/-- A waiting task has done nothing but wait since its evaluation began. -/
theorem waits_since {cfg : ManagerConfig} {start w : World} {acts : List Action} {id : LeaseId}
    (quiet : start.NobodyWaits id) (run : exec cfg start acts = some w) {tid : TaskId}
    {fp : String} {g : ℕ} (waiting : w.WaitsAt tid id fp g) :
    Execution.Since (step cfg) (fun _ u a => ∃ t, Begins cfg u tid id g a t)
      (fun u _ => u.WaitsAt tid id fp g) start acts := by
  apply Execution.history_invariant
    (R := fun before u => u.WaitsAt tid id fp g →
      Execution.Since (step cfg) (fun _ x a => ∃ t, Begins cfg x tid id g a t)
        (fun x _ => x.WaitsAt tid id fp g) start before) _ _ run
  · exact waiting
  · intro waiting
    exact absurd waiting (quiet tid fp g)
  · intro before a after u v split reached stepped earlier waiting
    have effect := step_point stepped tid
    rw [World.WaitsAt] at waiting
    rw [waiting] at effect
    generalize point : some (TaskPoint.atLock id fp g) = p at effect
    cases effect with
    | untouched elsewhere =>
        have still : u.WaitsAt tid id fp g := point.symm
        exact (earlier still).extend reached still
    | readied => cases point
    | waits here ready queued known authorised consumed busy =>
        cases point
        exact Execution.Since.now reached stepped
          ⟨_, rfl, ⟨_, _, here, ready, queued⟩, known, authorised⟩
    | sent known sends cleared => cases point

/-- A send goes back to the beginning of its evaluation: between the two the task only waited. -/
theorem warmSent_since {cfg : ManagerConfig} {start u v : World} {before : List Action}
    {a : Action} {tid : TaskId} {id : LeaseId} (quiet : start.NobodyWaits id)
    (run : exec cfg start before = some u) (stepped : step cfg u a = some v)
    (sent : WarmSent u v tid id) :
    ∃ t g, u.lease? id = some t ∧ ClearedToSend cfg u.snapshots t g ∧
      Execution.Since (step cfg) (fun _ x b => ∃ t₀, Begins cfg x tid id g b t₀)
        (fun x _ => ∃ fp, x.WaitsAt tid id fp g) start (before ++ [a]) := by
  obtain ⟨rfl, t, fp, g, known, sends, cleared⟩ := warmSent_sends stepped sent
  refine ⟨t, g, known, cleared, ?_⟩
  cases sends with
  | atOnce here ready queued same authorised free =>
      exact Execution.Since.now run stepped
        ⟨t, rfl, ⟨_, _, here, ready, queued⟩, known, authorised⟩
  | atLock waiting first =>
      have since := waits_since quiet run waiting
      have begun := since.extend run waiting (a := .resume tid)
      exact begun.mono (fun early x b reached event => event) fun x b waits => ⟨fp, waits⟩

/-! ### The schedule behind an evaluation -/

/-- In this step an evaluation of the lease finds it not yet due and records its generation. -/
def Schedules (cfg : ManagerConfig) (w : World) (id : LeaseId) (a : Action) (g : ℕ) : Prop :=
  ∃ tid task rest t, a = .resume tid ∧ w.task? tid = some task ∧ task.point = .ready ∧
    task.queue = id :: rest ∧ w.lease? id = some t ∧
    evaluateLease cfg w.clock t = (schedule t, .done .scheduled) ∧ t.lease.generation = g

/-- The lease carries this generation as the one its warm is scheduled for. -/
def World.Recorded (w : World) (id : LeaseId) (g : ℕ) : Prop :=
  ∃ t, w.lease? id = some t ∧ t.runtime.scheduledGeneration = some g

theorem Operation.scheduledGeneration {cfg : ManagerConfig} {now : ℚ} {id : LeaseId} {a : Action}
    {f : TrackedLease → TrackedLease} (operation : Operation cfg now id a f) (t : TrackedLease) :
    (f t).runtime.scheduledGeneration = t.runtime.scheduledGeneration := by
  rw [operation.frame t]

/-- A generation is recorded by an evaluation that schedules the lease, and by nothing else. -/
theorem LeaseEffect.recorded {cfg : ManagerConfig} {w : World} {id : LeaseId} {a : Action}
    {t t' : TrackedLease} (effect : LeaseEffect cfg w id t a t') (known : w.lease? id = some t)
    {r : ℕ} (stored : t'.runtime.scheduledGeneration = some r) :
    t.runtime.scheduledGeneration = some r ∨ Schedules cfg w id a r := by
  cases effect with
  | other elsewhere registry => exact Or.inl stored
  | kept keeps => exact Or.inl stored
  | superseded missing switched => exact Or.inl stored
  | operated operation =>
      rw [operation.scheduledGeneration] at stored
      exact Or.inl stored
  | decided here ready queued runs =>
      cases evaluated_of_runs runs with
      | stopped decision other => exact Or.inl stored
      | scheduled guards =>
          have recorded : t.lease.generation = r := by
            unfold schedule at stored
            dsimp only at stored
            split at stored
            · exact Option.some.inj stored
            · exact Option.some.inj stored
          exact Or.inr ⟨_, _, _, t, rfl, here, ready, queued, known, runs, recorded⟩
      | uneconomic guards => exact Or.inl stored
      | stale guards => cases stored
  | authorised here ready queued authorised => cases stored
  | sentAtOnce here ready queued authorised passed => cases stored
  | refusedAtLock here waiting refused => exact Or.inl stored
  | sentAtLock here waiting passed => exact Or.inl stored
  | returned here inside =>
      rw [finishWarm_scheduledGeneration] at stored
      exact Or.inl stored
  | cancelledWarm here inside => exact Or.inl stored

/-- A recorded generation has stood on the lease since an evaluation scheduled it. -/
theorem recorded_since {cfg : ManagerConfig} {start w : World} {acts : List Action}
    (initial : start.Initial) (run : exec cfg start acts = some w) {id : LeaseId} {r : ℕ}
    (recorded : w.Recorded id r) :
    Execution.Since (step cfg) (fun _ u a => Schedules cfg u id a r)
      (fun u _ => u.Recorded id r) start acts := by
  apply Execution.history_invariant
    (R := fun before u => u.Recorded id r →
      Execution.Since (step cfg) (fun _ x a => Schedules cfg x id a r)
        (fun x _ => x.Recorded id r) start before) _ _ run
  · exact recorded
  · rintro ⟨t, known, stored⟩
    rw [World.lease?, initial.1] at known
    cases known
  · rintro before a after u v split reached stepped earlier ⟨t', known', stored⟩
    cases known : u.lease? id with
    | none =>
        obtain ⟨identity, ttl, confidence, answer, ttlS, c, -, -, -, same⟩ :=
          step_creates stepped known known'
        rw [same] at stored
        cases stored
    | some t =>
        obtain ⟨t'', known'', effect⟩ := step_effect stepped known
        rw [known'] at known''
        cases known''
        rcases effect.recorded known stored with before | now
        · have still : u.Recorded id r := ⟨t, known, before⟩
          exact (earlier still).extend reached still
        · exact Execution.Since.now reached stepped now

/-! ### No request in between -/

/-- When the generation is the same at an event and now, no normal request started in between. -/
theorem since_without_requests {cfg : ManagerConfig} {start w : World} {acts : List Action}
    {E : List Action → World → Action → Prop} {N : World → Action → Prop} {id : LeaseId}
    {t : TrackedLease} (initial : start.Initial) (run : exec cfg start acts = some w)
    (known : w.lease? id = some t)
    (dated : ∀ early u a, E early u a →
      ∃ x, u.lease? id = some x ∧ x.lease.generation = t.lease.generation)
    (since : Execution.Since (step cfg) E N start acts) :
    Execution.Since (step cfg) E (fun u a => N u a ∧ a.startsRequest id = false) start acts := by
  obtain ⟨early, a, late, u, v, rfl, reached, stepped, event, along⟩ := since
  refine ⟨early, a, late, u, v, rfl, reached, stepped, event, ?_⟩
  obtain ⟨x, tracked, same⟩ := dated early u a event
  have before := run_generation initial reached tracked
  have now := run_generation initial run known
  rw [List.countP_append, List.countP_cons] at now
  have none : late.countP (Action.startsRequest id) = 0 := by omega
  apply Execution.Along.of_forall
  intro done b todo y split passed
  subst split
  constructor
  · exact along.step passed
  · have absent := List.countP_eq_zero.1 none b (by simp)
    simpa using absent

end CachePilot
