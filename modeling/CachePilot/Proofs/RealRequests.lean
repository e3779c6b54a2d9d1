/-
Module: CachePilot.Proofs.RealRequests
Layer: Proofs
Purpose: Normal requests against warms. The generation guard holds without condition: a warm is sent only
  when every check under the lock passes, at the generation that its evaluation was authorised for, and
  no two warms of one cache fingerprint are in flight. The busy flag is weaker: it is one flag for all
  requests of a lease, so it speaks for them only as long as each request that ends was the last one
  open.
Trusted boundary: none
Main exports: warm_sent_under_generation_guard, warm_sent_between_requests
-/
import CachePilot.Proofs.Evaluations

namespace CachePilot

/-! ### The generation guard -/

/-- An evaluation begins in this step, and a generation recorded for its warm is the one that authorises
    it: it has stood on the lease since an evaluation scheduled it, with no normal request since. -/
def BeginsCurrent (cfg : ManagerConfig) (start : World) (tid : TaskId) (id : LeaseId) (g : ℕ)
    (early : List Action) (u : World) (a : Action) : Prop :=
  ∃ t, Begins cfg u tid id g a t ∧
    ∀ r, t.runtime.scheduledGeneration = some r →
      r = g ∧ Execution.Since (step cfg) (fun _ x b => Schedules cfg x id b r)
        (fun x b => x.Recorded id r ∧ b.startsRequest id = false) start early

theorem Begins.current {cfg : ManagerConfig} {start u : World} {early : List Action}
    {a : Action} {tid : TaskId} {id : LeaseId} {g : ℕ} {t : TrackedLease}
    (initial : start.Initial) (reached : exec cfg start early = some u)
    (begins : Begins cfg u tid id g a t) : BeginsCurrent cfg start tid id g early u a := by
  refine ⟨t, begins, ?_⟩
  intro r stored
  have same : r = g := begins.authorised.recorded r stored
  refine ⟨same, ?_⟩
  have since := recorded_since initial reached (⟨t, begins.known, stored⟩ : u.Recorded id r)
  apply since_without_requests initial reached begins.known _ since
  intro past x b scheduled
  obtain ⟨tid', task, rest, y, -, -, -, -, known, -, dated⟩ := scheduled
  exact ⟨y, known, by rw [dated, same, begins.authorised.current]⟩

/-- The generation guard. A warm is sent in the step that makes the checks under the lock, on a lease
    that passes all of them; since its evaluation began, and before that since the generation it consumed
    was recorded, no normal request started on the lease. And at no time are two warms in flight for one
    cache fingerprint. -/
theorem warm_sent_under_generation_guard {cfg : ManagerConfig} {start : World}
    (initial : start.Initial) :
    (∀ before a u v, exec cfg start before = some u → step cfg u a = some v →
      ∀ tid id, WarmSent u v tid id →
        ∃ t g, u.lease? id = some t ∧ ClearedToSend cfg u.snapshots t g ∧
          v.Holds tid t.lease.cacheFingerprint ∧
          (v.lockOf t.lease.cacheFingerprint).locked = true ∧
          Execution.Since (step cfg) (BeginsCurrent cfg start tid id g)
            (fun x b => (∃ fp, x.WaitsAt tid id fp g) ∧ b.startsRequest id = false) start
            (before ++ [a])) ∧
    (∀ acts w, exec cfg start acts = some w → ∀ tid tid' id id' t t',
      w.inFlight tid = some id → w.inFlight tid' = some id' →
      w.lease? id = some t → w.lease? id' = some t' →
      t.lease.cacheFingerprint = t'.lease.cacheFingerprint → tid = tid') := by
  constructor
  · intro before a u v reached stepped tid id sent
    obtain ⟨t, g, known, cleared, since⟩ :=
      warmSent_since (initial.nobodyWaits id) reached stepped sent
    have run := Execution.exec_snoc reached stepped
    obtain ⟨t', known', change⟩ := step_change stepped known
    have grown := change.generation
    obtain ⟨rfl, -⟩ := warmSent_sends stepped sent
    have kept : t'.lease.generation = g := grown.trans cleared.current
    have held := holds_of_inFlight (run_placed initial run) sent.1 known'
    rw [change.sameLease.fingerprint] at held
    refine ⟨t, g, known, cleared, held, (run_exclusive initial run).locked tid _ held, ?_⟩
    have quiet := since_without_requests initial run known' (by
      rintro early x b ⟨t₀, begins⟩
      exact ⟨t₀, begins.known, by rw [kept, begins.authorised.current]⟩) since
    apply quiet.mono
    · rintro early x b arrived ⟨t₀, begins⟩
      exact begins.current initial arrived
    · intro x b still
      exact still
  · intro acts w run tid tid' id id' t t' flying flying' known known' shared
    exact inFlight_unique (run_exclusive initial run) (run_placed initial run) flying flying'
      known known' shared

/-- The guarantee, read at the first warm of the sample run. -/
theorem warm_sent_under_generation_guard_sample :
    ∃ t g, (sampleAt sampleReady).lease? 0 = some t ∧
      ClearedToSend sampleConfig (sampleAt sampleReady).snapshots t g ∧
      (sampleAt (sampleReady ++ [.resume 0])).Holds 0 t.lease.cacheFingerprint ∧
      ((sampleAt (sampleReady ++ [.resume 0])).lockOf t.lease.cacheFingerprint).locked = true ∧
      Execution.Since (step sampleConfig) (BeginsCurrent sampleConfig {} 0 0 g)
        (fun x b => (∃ fp, x.WaitsAt 0 0 fp g) ∧ b.startsRequest 0 = false) {}
        (sampleReady ++ [.resume 0]) := by
  have run : exec sampleConfig {} sampleReady = some (sampleAt sampleReady) :=
    exec_sampleAt (by decide +kernel)
  exact (warm_sent_under_generation_guard World.initial_empty).1 _ _ _ _ run
    (Execution.step_final (by decide +kernel)) 0 0 (by decide +kernel)

/-! ### The busy flag -/

/-- The action invalidates this lease: directly, or as the registry does when a request of the session
    arrives with another cache identity. -/
def World.invalidates (w : World) (id : LeaseId) : Action → Bool
  | .invalidate j => j == id
  | .findOrCreateLease identity _ _ _ =>
      (w.manager.findExisting identity).isNone &&
        match w.lease? id with
        | none => false
        | some t => LeaseManager.supersedes identity t
  | _ => false

theorem Action.endsRequest_operation (cfg : ManagerConfig) (now : ℚ) {id : LeaseId} {a : Action}
    (ended : a.endsRequest id = true) :
    ∃ outcome, Operation cfg now id a (TrackedLease.afterNormalRequest now outcome) := by
  cases a with
  | afterNormalRequest j outcome =>
      have same : j = id := by simpa [Action.endsRequest] using ended
      subst same
      exact ⟨outcome, .afterNormalRequest outcome⟩
  | _ => cases ended

theorem Operation.busy {cfg : ManagerConfig} {w : World} {id : LeaseId} {a : Action}
    {f : TrackedLease → TrackedLease} (operation : Operation cfg w.clock id a f)
    (t : TrackedLease) :
    (f t).runtime.realRequestActive =
      if a.startsRequest id then true
      else if a.endsRequest id || w.invalidates id a then false
      else t.runtime.realRequestActive := by
  cases operation with
  | arm => rfl
  | invalidate => simp [Action.startsRequest, World.invalidates, TrackedLease.invalidate]
  | complete => rfl
  | targetStarted targetId =>
      rw [TrackedLease.targetStarted_frame]
      rfl
  | targetFinished targetId =>
      rw [TrackedLease.targetFinished_frame]
      rfl
  | beforeNormalRequest =>
      simp [Action.startsRequest, TrackedLease.beforeNormalRequest,
        TrackedLease.cancelPendingWarm]
  | afterNormalRequest outcome =>
      have ends : (Action.afterNormalRequest id outcome).endsRequest id = true := by
        simp [Action.endsRequest]
      rw [ends, TrackedLease.afterNormalRequest_frame]
      rfl
  | refreshTtl answer =>
      rw [TrackedLease.refreshTtl_frame]
      rfl
  | reconcileRoute routeHash => rfl
  | updateCostEstimates usage =>
      rw [TrackedLease.updateCostEstimates_frame]
      rfl

/-- Unless a request of the lease ends or the lease is invalidated, a busy lease stays busy, and only a
    request that starts makes it so. -/
theorem LeaseChange.busy {cfg : ManagerConfig} {w : World} {id : LeaseId} {a : Action}
    {t t' : TrackedLease} (known : w.lease? id = some t) (change : LeaseChange cfg w id t a t')
    (spared : (a.endsRequest id || w.invalidates id a) = false) :
    t'.runtime.realRequestActive = (a.startsRequest id || t.runtime.realRequestActive) := by
  cases change with
  | bookkeeping quiet unreturned frame =>
      rw [Action.not_startsRequest quiet]
      exact frame.busy
  | superseded missing switched =>
      simp [World.invalidates, Action.endsRequest, missing, known, switched] at spared
  | operated operation =>
      rw [operation.busy, spared]
      cases a.startsRequest id with
      | true => rfl
      | false => rfl
  | returned flying => exact finishWarm_busy _ _ t

/-- The condition on a run: a request of the lease that ends is the only one open, and the lease is
    invalidated only while none is open. -/
def OneOpenAtEnd (id : LeaseId) (before : List Action) (w : World) (a : Action) : Prop :=
  (a.endsRequest id = true →
    before.countP (Action.startsRequest id) = before.countP (Action.endsRequest id) + 1) ∧
  (w.invalidates id a = true →
    before.countP (Action.startsRequest id) = before.countP (Action.endsRequest id))

instance (id : LeaseId) (before : List Action) (w : World) (a : Action) :
    Decidable (OneOpenAtEnd id before w a) :=
  inferInstanceAs (Decidable ((_ → _) ∧ (_ → _)))

theorem Action.not_both (a : Action) (id : LeaseId) (started : a.startsRequest id = true) :
    a.endsRequest id = false := by
  cases a with
  | beforeNormalRequest j => rfl
  | _ => cases started

/-- As many requests of the lease have ended as have started. -/
def Balanced (id : LeaseId) (past : List Action) : Prop :=
  past.countP (Action.startsRequest id) = past.countP (Action.endsRequest id)

/-- A lease with an open request is tracked and busy. -/
structure OpenBusy (id : LeaseId) (past : List Action) (w : World) : Prop where
  tracked : ∀ t, w.lease? id = some t → t.runtime.realRequestActive = true ∨ Balanced id past
  untracked : w.lease? id = none → Balanced id past

/-- An action that neither starts nor ends a request leaves the requests balanced. -/
theorem Balanced.append {id : LeaseId} {past : List Action} {a : Action}
    (unstarted : a.startsRequest id = false) (unended : a.endsRequest id = false)
    (balanced : Balanced id past) : Balanced id (past ++ [a]) := by
  unfold Balanced
  rw [List.countP_append, List.countP_append, List.countP_singleton, List.countP_singleton, unstarted,
    unended]
  exact balanced

/-- No request of a lease that does not exist starts or ends. -/
theorem unrequested_of_untracked {cfg : ManagerConfig} {w w' : World} {a : Action} {id : LeaseId}
    (stepped : step cfg w a = some w') (untracked : w.lease? id = none) :
    a.startsRequest id = false ∧ a.endsRequest id = false := by
  have unoperated : ∀ f, ¬ Operation cfg w.clock id a f := by
    intro f operation
    obtain ⟨t, present⟩ := operation_tracked stepped operation
    rw [untracked] at present
    cases present
  constructor
  · cases started : a.startsRequest id with
    | false => rfl
    | true => exact absurd (Action.startsRequest_operation cfg w.clock started) (unoperated _)
  · cases ended : a.endsRequest id with
    | false => rfl
    | true =>
        obtain ⟨outcome, operation⟩ := Action.endsRequest_operation cfg w.clock ended
        exact absurd operation (unoperated _)

theorem World.not_invalidates_of_starts {w : World} {id : LeaseId} {a : Action}
    (started : a.startsRequest id = true) : w.invalidates id a = false := by
  cases a with
  | beforeNormalRequest j => rfl
  | _ => cases started

/-- A request that ends was the only one open. -/
theorem OneOpenAtEnd.balanced_of_ends {id : LeaseId} {past : List Action} {w : World} {a : Action}
    (serial : OneOpenAtEnd id past w a) (ended : a.endsRequest id = true) :
    Balanced id (past ++ [a]) := by
  have alone := serial.1 ended
  have unstarted : a.startsRequest id = false := by
    cases started : a.startsRequest id with
    | false => rfl
    | true =>
        rw [Action.not_both a id started] at ended
        cases ended
  unfold Balanced
  rw [List.countP_append, List.countP_append, List.countP_singleton, List.countP_singleton, unstarted,
    ended]
  simp only [Bool.false_eq_true, if_false, if_true]
  omega

theorem step_openBusy {cfg : ManagerConfig} {w w' : World} {a : Action} {id : LeaseId}
    {past : List Action} (stepped : step cfg w a = some w') (serial : OneOpenAtEnd id past w a)
    (held : OpenBusy id past w) : OpenBusy id (past ++ [a]) w' := by
  cases tracked : w.lease? id with
  | none =>
      obtain ⟨unstarted, unended⟩ := unrequested_of_untracked stepped tracked
      have balanced := (held.untracked tracked).append unstarted unended
      exact ⟨fun t appears => Or.inr balanced, fun absent => balanced⟩
  | some t =>
      obtain ⟨t', tracked', change⟩ := step_change stepped tracked
      constructor
      · intro x same
        rw [tracked'] at same
        cases same
        cases ended : a.endsRequest id with
        | true => exact Or.inr (serial.balanced_of_ends ended)
        | false =>
            cases started : a.startsRequest id with
            | true =>
                left
                rw [change.busy tracked (by rw [ended, World.not_invalidates_of_starts started]; rfl),
                  started]
                rfl
            | false =>
                cases killed : w.invalidates id a with
                | true =>
                    have balanced : Balanced id past := serial.2 killed
                    exact Or.inr (balanced.append started ended)
                | false =>
                    rw [change.busy tracked (by rw [ended, killed]; rfl), started]
                    rcases held.tracked t tracked with busy | balanced
                    · exact Or.inl busy
                    · exact Or.inr (balanced.append started ended)
      · intro absent
        rw [tracked'] at absent
        cases absent

/-- Under the condition, a lease with an open request is busy. -/
theorem busy_while_open {cfg : ManagerConfig} {start w : World} {acts : List Action} {id : LeaseId}
    (serial : Execution.AlongHistory (step cfg) (OneOpenAtEnd id) [] start acts)
    (run : exec cfg start acts = some w) {t : TrackedLease} (known : w.lease? id = some t) :
    t.runtime.realRequestActive = true ∨
      acts.countP (Action.startsRequest id) = acts.countP (Action.endsRequest id) := by
  have invariant : OpenBusy id acts w := by
    apply Execution.history_invariant (R := OpenBusy id) _ _ run
    · exact ⟨fun t present => Or.inr rfl, fun absent => rfl⟩
    · intro before a after u v split reached stepped held
      subst split
      exact step_openBusy stepped (serial.step reached) held
  exact invariant.tracked t known

/-- Real requests win when they do not nest past each other: if every request of the lease that ends is
    the only one open, the executor is invoked for the lease only when all its requests have ended. -/
theorem warm_sent_between_requests {cfg : ManagerConfig} {start w : World} {acts : List Action}
    {id : LeaseId} (run : exec cfg start acts = some w)
    (serial : Execution.AlongHistory (step cfg) (OneOpenAtEnd id) [] start acts) :
    ∀ before a after u v tid, acts = before ++ a :: after → exec cfg start before = some u →
      step cfg u a = some v → WarmSent u v tid id →
      before.countP (Action.startsRequest id) = before.countP (Action.endsRequest id) := by
  intro before a after u v tid split reached stepped sent
  subst split
  obtain ⟨-, t, fp, g, known, -, cleared⟩ := warmSent_sends stepped sent
  rcases busy_while_open serial.left reached known with busy | closed
  · rw [cleared.idle] at busy
    cases busy
  · exact closed

/-- The sample run serves its request before the evaluation that sends. -/
theorem warm_sent_between_requests_sample :
    sampleReady.countP (Action.startsRequest 0) =
      sampleReady.countP (Action.endsRequest 0) := by
  have run : exec sampleConfig {} (sampleReady ++ [.resume 0]) =
      some (sampleAt (sampleReady ++ [.resume 0])) := exec_sampleAt (by decide +kernel)
  exact warm_sent_between_requests run (by decide +kernel) _ _ [] _ _ 0 rfl
    (exec_sampleAt (by decide +kernel)) (Execution.step_final (by decide +kernel))
    (by decide +kernel)

/-- Two more requests start on the lease of the sample run, and one of them ends. -/
def sampleOverlap : List Action :=
  sampleDue ++ [.beforeNormalRequest 0, .beforeNormalRequest 0,
    .afterNormalRequest 0 .confirmedHit, .setClock 2000, .evaluateLease 0 0]

/-- Overlapping requests break the rule: the first of two to end clears the flag of both, and a warm is
    sent while the second is still open; it ends later. -/
theorem warm_sent_during_open_request :
    exec sampleConfig {} sampleOverlap = some (sampleAt sampleOverlap) ∧
    step sampleConfig (sampleAt sampleOverlap) (.resume 0) =
      some (sampleAt (sampleOverlap ++ [.resume 0])) ∧
    WarmSent (sampleAt sampleOverlap) (sampleAt (sampleOverlap ++ [.resume 0])) 0 0 ∧
    sampleOverlap.countP (Action.startsRequest 0) = 3 ∧
    sampleOverlap.countP (Action.endsRequest 0) = 2 ∧
    (exec sampleConfig {}
      (sampleOverlap ++ [.resume 0, .afterNormalRequest 0 .confirmedHit])).isSome = true :=
  ⟨Execution.exec_eq_final (by decide +kernel), Execution.step_final (by decide +kernel),
    by decide +kernel, by decide +kernel, by decide +kernel, by decide +kernel⟩

end CachePilot
