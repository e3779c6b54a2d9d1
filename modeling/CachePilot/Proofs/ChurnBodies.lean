/-
Module: CachePilot.Proofs.ChurnBodies
Layer: Proofs
Purpose: Which body the churn classifier reads as the previous one. The last event of a session is in the store and
  its last body in memory; the two advance together except when a body that is too large is stored over one that is
  kept, and when a body is kept whose event is not stored. As long as neither happens, a transition that is
  classified from content is classified from the body of the event it is compared with.
Trusted boundary: none
Main exports: storedRequests, InStep, KeepsInStep, inStep_observe_iff, ComparesPrevious, churn_reads_previous_body
-/
import CachePilot.Proofs.IdentityText
import CachePilot.Relay.ChurnRecords

namespace CachePilot

variable {B : Type} {cfg : ObserverConfig B}

/-! ### What was stored -/

/-- The event that an action stores, with the body of its request. -/
def ObserverAction.stored? (cfg : ObserverConfig B) : ObserverAction B → Option (TelemetryEvent × B)
  | .observe request responseHeaders usage outcome timestamp requestStored _ =>
      if requestStored then
        (request.observe cfg.prims cfg.text responseHeaders usage outcome timestamp).map fun observed =>
          (observed.event, request.body)
      else none
  | .restart => none

/-- The events that some actions stored, newest first, each with the body of its request. -/
def storedRequests (cfg : ObserverConfig B) (past : List (ObserverAction B)) : List (TelemetryEvent × B) :=
  (past.filterMap (ObserverAction.stored? cfg)).reverse

/-- The last of them for a session. -/
def lastStored (cfg : ObserverConfig B) (past : List (ObserverAction B)) (sessionHash : String) :
    Option (TelemetryEvent × B) :=
  (storedRequests cfg past).find? fun stored => stored.1.sessionHash = some sessionHash

theorem storedRequests_snoc (past : List (ObserverAction B)) (a : ObserverAction B) :
    storedRequests cfg (past ++ [a]) = (a.stored? cfg).toList ++ storedRequests cfg past := by
  unfold storedRequests
  rw [List.filterMap_append, List.reverse_append]
  cases stored : a.stored? cfg with
  | none => simp [stored]
  | some request => simp [stored]

variable (cfg) in
/-- The body cache plays no part in what is stored. -/
theorem rememberBody_requestEvents (o : RequestObserver B) (sessionHash : Option String) (body : Option B) :
    (o.rememberBody cfg sessionHash body).2.requestEvents = o.requestEvents := by
  unfold RequestObserver.rememberBody
  split
  · split
    · rfl
    · split <;> rfl
  · rfl

theorem recordChurn_requestEvents (o : RequestObserver B) (previous event : TelemetryEvent)
    (previousBody currentBody : Option B) (churnStored : Bool) :
    (o.recordChurn cfg previous event previousBody currentBody churnStored).requestEvents = o.requestEvents := by
  unfold RequestObserver.recordChurn
  split <;> rfl

theorem recordChurn_lastBody (o : RequestObserver B) (previous event : TelemetryEvent)
    (previousBody currentBody : Option B) (churnStored : Bool) :
    (o.recordChurn cfg previous event previousBody currentBody churnStored).lastBody = o.lastBody := by
  unfold RequestObserver.recordChurn
  split <;> rfl

theorem record_requestEvents (o : RequestObserver B) (event : TelemetryEvent) (body : Option B)
    (requestStored churnStored : Bool) :
    (o.record cfg event body requestStored churnStored).requestEvents =
      if requestStored then event :: o.requestEvents else o.requestEvents := by
  unfold RequestObserver.record
  have kept := rememberBody_requestEvents cfg o event.sessionHash body
  cases requestStored with
  | false => exact kept
  | true =>
      dsimp only
      rw [if_pos rfl, if_pos rfl]
      split
      · rw [kept]
      · split
        · rw [recordChurn_requestEvents, kept]
        · rw [kept]

variable (cfg) in
theorem record_lastBody (o : RequestObserver B) (event : TelemetryEvent) (body : Option B)
    (requestStored churnStored : Bool) :
    (o.record cfg event body requestStored churnStored).lastBody =
      (o.rememberBody cfg event.sessionHash body).2.lastBody := by
  unfold RequestObserver.record
  cases requestStored with
  | false => rfl
  | true =>
      dsimp only
      rw [if_pos rfl]
      split
      · rfl
      · split
        · rw [recordChurn_lastBody]
        · rfl

/-- The store holds the events that were stored. -/
theorem requestEvents_eq {as : List (ObserverAction B)} {o : RequestObserver B}
    (run : Execution.exec (observerStep cfg) {} as = some o) :
    o.requestEvents = (storedRequests cfg as).map Prod.fst := by
  refine Execution.history_invariant (R := fun past o => o.requestEvents = (storedRequests cfg past).map Prod.fst)
    rfl ?_ run
  intro before a after u v _ _ step held
  rw [storedRequests_snoc, List.map_append, ← held]
  cases a with
  | restart =>
      obtain rfl := Option.some.inj step
      rfl
  | observe request responseHeaders usage outcome timestamp requestStored churnStored =>
      dsimp only [observerStep] at step
      cases read : request.observe cfg.prims cfg.text responseHeaders usage outcome timestamp with
      | none =>
          rw [read] at step
          obtain rfl := Option.some.inj step
          cases requestStored <;> simp [ObserverAction.stored?, read]
      | some observed =>
          rw [read] at step
          obtain rfl := Option.some.inj step
          rw [record_requestEvents]
          cases requestStored <;> simp [ObserverAction.stored?, read]

theorem lastEventForSession_eq {as : List (ObserverAction B)} {o : RequestObserver B}
    (run : Execution.exec (observerStep cfg) {} as = some o) (sessionHash : String) :
    o.lastEventForSession sessionHash = (lastStored cfg as sessionHash).map Prod.fst := by
  rw [RequestObserver.lastEventForSession, requestEvents_eq run, List.find?_map]
  rfl

/-! ### What the cache keeps -/

theorem get?_evictOldest {bodies : Dict String B} {sessionHash h : String} {body : B}
    (kept : (RequestObserver.evictOldest bodies sessionHash).get? h = some body) : bodies.get? h = some body := by
  unfold RequestObserver.evictOldest at kept
  split at kept
  · split at kept
    · exact kept
    · rw [Dict.get?_erase] at kept
      split at kept
      · cases kept
      · exact kept
  · exact kept

/-- What is kept after a body was given: that body, or what was kept before. -/
theorem rememberBody_of_small {o : RequestObserver B} {sessionHash : String} {body : B}
    (churn : cfg.churnDetectionEnabled = true) (small : ¬bodyCacheMaxBytes < cfg.bytes body) :
    o.rememberBody cfg (some sessionHash) (some body) =
      (o.lastBody.get? sessionHash,
        { o with lastBody := (RequestObserver.evictOldest o.lastBody sessionHash).set sessionHash body }) := by
  simp [RequestObserver.rememberBody, churn, small]

theorem rememberBody_of_large {o : RequestObserver B} {sessionHash : String} {body : B}
    (churn : cfg.churnDetectionEnabled = true) (large : bodyCacheMaxBytes < cfg.bytes body) :
    o.rememberBody cfg (some sessionHash) (some body) = (none, o) := by
  simp [RequestObserver.rememberBody, churn, large]

theorem rememberBody_of_off {o : RequestObserver B} {sessionHash : Option String} {body : Option B}
    (churn : cfg.churnDetectionEnabled = false) : o.rememberBody cfg sessionHash body = (none, o) := by
  unfold RequestObserver.rememberBody
  split
  · simp [churn]
  · rfl

/-! ### The store and the cache in step -/

/-- No body is kept when churn detection is off, and no large one. -/
structure CacheBounds (cfg : ObserverConfig B) (o : RequestObserver B) : Prop where
  off : cfg.churnDetectionEnabled = false → o.lastBody = ∅
  small : ∀ h body, o.lastBody.get? h = some body → cfg.bytes body ≤ bodyCacheMaxBytes

/-- Every body that is kept is that of its session's last stored event, if it has one. -/
def InStep (cfg : ObserverConfig B) (past : List (ObserverAction B)) (o : RequestObserver B) : Prop :=
  ∀ h body, o.lastBody.get? h = some body → ∀ stored, lastStored cfg past h = some stored → stored.2 = body

/-- What a request must meet: a large body is not stored over one that is kept, and a small one is stored, unless the
    session has no stored event or the same body again. -/
def KeepsInStep (cfg : ObserverConfig B) (past : List (ObserverAction B)) (o : RequestObserver B) :
    ObserverAction B → Prop
  | .observe request responseHeaders usage outcome timestamp requestStored _ =>
      ∀ observed h, request.observe cfg.prims cfg.text responseHeaders usage outcome timestamp = some observed →
        observed.event.sessionHash = some h → cfg.churnDetectionEnabled = true →
        if bodyCacheMaxBytes < cfg.bytes request.body then requestStored = true → o.lastBody.get? h = none
        else requestStored = true ∨ ∀ stored, lastStored cfg past h = some stored → stored.2 = request.body
  | .restart => True

theorem CacheBounds.of_empty {o : RequestObserver B} (empty : o.lastBody = ∅) : CacheBounds cfg o where
  off := fun _ => empty
  small := by
    intro h body kept
    rw [empty] at kept
    cases kept

theorem InStep.of_empty {past : List (ObserverAction B)} {o : RequestObserver B} (empty : o.lastBody = ∅) :
    InStep cfg past o := by
  intro h body kept
  rw [empty] at kept
  cases kept

theorem lastStored_snoc (past : List (ObserverAction B)) (a : ObserverAction B) (h : String) :
    lastStored cfg (past ++ [a]) h =
      match a.stored? cfg with
      | none => lastStored cfg past h
      | some stored => if stored.1.sessionHash = some h then some stored else lastStored cfg past h := by
  unfold lastStored
  rw [storedRequests_snoc]
  cases stored : a.stored? cfg with
  | none => rfl
  | some request =>
      by_cases here : request.1.sessionHash = some h <;> simp [here]

section Step

variable {past : List (ObserverAction B)} {o : RequestObserver B} {request : PhysicalRequest B}
  {responseHeaders : List (String × String)} {usage : TokenUsage} {outcome : Outcome} {timestamp : ℚ}
  {requestStored churnStored : Bool} {observed : ObservedRequest}

theorem lastStored_observe
    (read : request.observe cfg.prims cfg.text responseHeaders usage outcome timestamp = some observed) (h : String) :
    lastStored cfg
        (past ++ [.observe request responseHeaders usage outcome timestamp requestStored churnStored]) h =
      if requestStored = true ∧ observed.event.sessionHash = some h then some (observed.event, request.body)
      else lastStored cfg past h := by
  rw [lastStored_snoc]
  cases requestStored with
  | false => simp [ObserverAction.stored?]
  | true => simp [ObserverAction.stored?, read]

/-- A request of a session, in its cases: churn detection may be off, and the body large or small. -/
theorem keepsInStep_iff {sessionHash : String}
    (read : request.observe cfg.prims cfg.text responseHeaders usage outcome timestamp = some observed)
    (session : observed.event.sessionHash = some sessionHash) (churn : cfg.churnDetectionEnabled = true) :
    KeepsInStep cfg past o (.observe request responseHeaders usage outcome timestamp requestStored churnStored) ↔
      if bodyCacheMaxBytes < cfg.bytes request.body then requestStored = true → o.lastBody.get? sessionHash = none
      else requestStored = true ∨ ∀ stored, lastStored cfg past sessionHash = some stored →
        stored.2 = request.body := by
  constructor
  · intro keeps
    exact keeps observed sessionHash read session churn
  · intro keeps observed' h read' session' _
    rw [read] at read'
    obtain rfl := Option.some.inj read'
    rw [session] at session'
    obtain rfl := Option.some.inj session'
    exact keeps

/-- A large body leaves the cache as it is. -/
theorem inStep_large_iff {sessionHash : String} (bounds : CacheBounds cfg o) (held : InStep cfg past o)
    (read : request.observe cfg.prims cfg.text responseHeaders usage outcome timestamp = some observed)
    (session : observed.event.sessionHash = some sessionHash) (churn : cfg.churnDetectionEnabled = true)
    (large : bodyCacheMaxBytes < cfg.bytes request.body) :
    InStep cfg (past ++ [.observe request responseHeaders usage outcome timestamp requestStored churnStored])
        (o.record cfg observed.event (some request.body) requestStored churnStored) ↔
      (requestStored = true → o.lastBody.get? sessionHash = none) := by
  have cache : (o.record cfg observed.event (some request.body) requestStored churnStored).lastBody = o.lastBody := by
    rw [record_lastBody, session, rememberBody_of_large churn large]
  constructor
  · intro after stored
    rw [Option.eq_none_iff_forall_not_mem]
    intro body kept
    have here : lastStored cfg
        (past ++ [.observe request responseHeaders usage outcome timestamp requestStored churnStored]) sessionHash =
          some (observed.event, request.body) := by
      rw [lastStored_observe read, if_pos ⟨stored, session⟩]
    have same : request.body = body := after sessionHash body (by rw [cache]; exact kept) _ here
    have small := bounds.small sessionHash body kept
    rw [← same] at small
    exact absurd large small.not_gt
  · intro fresh h body kept stored last
    rw [cache] at kept
    rw [lastStored_observe read] at last
    split at last
    · rename_i here
      rw [session, Option.some.injEq] at here
      obtain ⟨written, rfl⟩ := here
      rw [fresh written] at kept
      cases kept
    · exact held h body kept stored last

/-- A small body is kept. -/
theorem inStep_small_iff {sessionHash : String} (held : InStep cfg past o)
    (read : request.observe cfg.prims cfg.text responseHeaders usage outcome timestamp = some observed)
    (session : observed.event.sessionHash = some sessionHash) (churn : cfg.churnDetectionEnabled = true)
    (small : ¬bodyCacheMaxBytes < cfg.bytes request.body) :
    InStep cfg (past ++ [.observe request responseHeaders usage outcome timestamp requestStored churnStored])
        (o.record cfg observed.event (some request.body) requestStored churnStored) ↔
      (requestStored = true ∨ ∀ stored, lastStored cfg past sessionHash = some stored →
        stored.2 = request.body) := by
  have cache : (o.record cfg observed.event (some request.body) requestStored churnStored).lastBody =
      (RequestObserver.evictOldest o.lastBody sessionHash).set sessionHash request.body := by
    rw [record_lastBody, session, rememberBody_of_small churn small]
  have kept : (o.record cfg observed.event (some request.body) requestStored churnStored).lastBody.get? sessionHash =
      some request.body := by
    rw [cache, Dict.get?_set_self]
  constructor
  · intro after
    by_cases written : requestStored = true
    · exact Or.inl written
    · refine Or.inr fun stored last => after sessionHash _ kept stored ?_
      rw [lastStored_observe read, if_neg fun both => written both.1]
      exact last
  · intro written
    -- The bodies of the other sessions were kept before.
    have others : ∀ h body, h ≠ sessionHash →
        (o.record cfg observed.event (some request.body) requestStored churnStored).lastBody.get? h = some body →
        o.lastBody.get? h = some body := by
      intro h body other found
      rw [cache, Dict.get?_set, if_neg other] at found
      exact get?_evictOldest found
    intro h body found stored last
    rw [lastStored_observe read] at last
    by_cases here : h = sessionHash
    · subst here
      rw [kept, Option.some.injEq] at found
      subst found
      split at last
      · obtain rfl := Option.some.inj last
        rfl
      · rename_i unwritten
        rcases written with written | unchanged
        · exact absurd ⟨written, session⟩ unwritten
        · exact unchanged stored last
    · rw [if_neg] at last
      · exact held h body (others h body here found) stored last
      · rintro ⟨-, there⟩
        rw [session, Option.some.injEq] at there
        exact here there.symm

/-- A recorded request leaves the store and the cache in step exactly when it meets the condition. -/
theorem inStep_record_iff (bounds : CacheBounds cfg o) (held : InStep cfg past o)
    (read : request.observe cfg.prims cfg.text responseHeaders usage outcome timestamp = some observed) :
    InStep cfg (past ++ [.observe request responseHeaders usage outcome timestamp requestStored churnStored])
        (o.record cfg observed.event (some request.body) requestStored churnStored) ↔
      KeepsInStep cfg past o
        (.observe request responseHeaders usage outcome timestamp requestStored churnStored) := by
  cases session : observed.event.sessionHash with
  | none =>
      have cache : (o.record cfg observed.event (some request.body) requestStored churnStored).lastBody =
          o.lastBody := by
        rw [record_lastBody, session]
        rfl
      refine iff_of_true ?_ ?_
      · intro h body kept stored last
        rw [cache] at kept
        rw [lastStored_observe read, session, if_neg (by simp)] at last
        exact held h body kept stored last
      · intro observed' h read' session' _
        rw [read] at read'
        obtain rfl := Option.some.inj read'
        rw [session] at session'
        cases session'
  | some sessionHash =>
      cases churn : cfg.churnDetectionEnabled with
      | false =>
          have cache : (o.record cfg observed.event (some request.body) requestStored churnStored).lastBody = ∅ := by
            rw [record_lastBody, rememberBody_of_off churn]
            exact bounds.off churn
          refine iff_of_true (InStep.of_empty cache) ?_
          intro _ _ _ _ on
          rw [churn] at on
          cases on
      | true =>
          rw [keepsInStep_iff read session churn]
          split
          · exact inStep_large_iff bounds held read session churn ‹_›
          · exact inStep_small_iff held read session churn ‹_›

end Step

/-- What one step does: nothing, the recording of a request that was read, or a new start. -/
theorem observerStep_cases {u v : RequestObserver B} {a : ObserverAction B} (step : observerStep cfg u a = some v) :
    (v = u ∧ (∃ request responseHeaders usage outcome timestamp requestStored churnStored,
        a = .observe request responseHeaders usage outcome timestamp requestStored churnStored ∧
        request.observe cfg.prims cfg.text responseHeaders usage outcome timestamp = none)) ∨
    (∃ request responseHeaders usage outcome timestamp requestStored churnStored observed,
      a = .observe request responseHeaders usage outcome timestamp requestStored churnStored ∧
      request.observe cfg.prims cfg.text responseHeaders usage outcome timestamp = some observed ∧
      v = u.record cfg observed.event (some request.body) requestStored churnStored) ∨
    (a = .restart ∧ v = { u with lastBody := ∅ }) := by
  cases a with
  | restart => exact Or.inr (Or.inr ⟨rfl, (Option.some.inj step).symm⟩)
  | observe request responseHeaders usage outcome timestamp requestStored churnStored =>
      dsimp only [observerStep] at step
      cases read : request.observe cfg.prims cfg.text responseHeaders usage outcome timestamp with
      | none =>
          rw [read] at step
          exact Or.inl ⟨(Option.some.inj step).symm, request, responseHeaders, usage, outcome, timestamp,
            requestStored, churnStored, rfl, read⟩
      | some observed =>
          rw [read] at step
          exact Or.inr (Or.inl ⟨request, responseHeaders, usage, outcome, timestamp, requestStored, churnStored,
            observed, rfl, read, (Option.some.inj step).symm⟩)

/-- Every step keeps the bounds of the cache. -/
theorem cacheBounds_step {u v : RequestObserver B} {a : ObserverAction B} (held : CacheBounds cfg u)
    (step : observerStep cfg u a = some v) : CacheBounds cfg v := by
  rcases observerStep_cases step with ⟨rfl, -⟩ |
    ⟨request, responseHeaders, usage, outcome, timestamp, requestStored, churnStored, observed, rfl, read, rfl⟩ |
    ⟨rfl, rfl⟩
  · exact held
  · have cache := record_lastBody cfg u observed.event (some request.body) requestStored churnStored
    cases session : observed.event.sessionHash with
    | none =>
        rw [session] at cache
        exact ⟨fun off => cache.trans (held.off off), fun h body kept => held.small h body (cache ▸ kept)⟩
    | some sessionHash =>
        rw [session] at cache
        cases churn : cfg.churnDetectionEnabled with
        | false =>
            rw [rememberBody_of_off churn] at cache
            exact CacheBounds.of_empty (cache.trans (held.off churn))
        | true =>
            refine ⟨fun off => absurd (churn.symm.trans off) (by decide), ?_⟩
            intro h body kept
            by_cases large : bodyCacheMaxBytes < cfg.bytes request.body
            · rw [cache, rememberBody_of_large churn large] at kept
              exact held.small h body kept
            · rw [cache, rememberBody_of_small churn large, Dict.get?_set] at kept
              split at kept
              · rw [← Option.some.inj kept]
                exact not_lt.1 large
              · exact held.small h body (get?_evictOldest kept)
  · exact CacheBounds.of_empty rfl

theorem cacheBounds_of_run {as : List (ObserverAction B)} {o : RequestObserver B}
    (run : Execution.exec (observerStep cfg) {} as = some o) : CacheBounds cfg o :=
  Execution.invariant (CacheBounds.of_empty rfl) (fun _ _ _ step held => cacheBounds_step held step) run

/-- One step keeps the store and the cache in step exactly when it meets the condition. -/
theorem inStep_step_iff {past : List (ObserverAction B)} {u v : RequestObserver B} {a : ObserverAction B}
    (bounds : CacheBounds cfg u) (held : InStep cfg past u) (step : observerStep cfg u a = some v) :
    InStep cfg (past ++ [a]) v ↔ KeepsInStep cfg past u a := by
  rcases observerStep_cases step with
    ⟨rfl, request, responseHeaders, usage, outcome, timestamp, requestStored, churnStored, rfl, unread⟩ |
    ⟨request, responseHeaders, usage, outcome, timestamp, requestStored, churnStored, observed, rfl, read, rfl⟩ |
    ⟨rfl, rfl⟩
  · have nothing : ObserverAction.stored? cfg
        (.observe request responseHeaders usage outcome timestamp requestStored churnStored) = none := by
      cases requestStored <;> simp [ObserverAction.stored?, unread]
    refine iff_of_true ?_ ?_
    · intro h body kept stored last
      rw [lastStored_snoc, nothing] at last
      exact held h body kept stored last
    · intro observed h found
      rw [unread] at found
      cases found
  · exact inStep_record_iff bounds held read
  · exact iff_of_true (InStep.of_empty rfl) trivial

/-- A run whose steps all meet the condition ends in step. -/
theorem inStep_of_run {as : List (ObserverAction B)} {o : RequestObserver B}
    (guard : Execution.AlongHistory (observerStep cfg) (KeepsInStep cfg) [] {} as)
    (run : Execution.exec (observerStep cfg) {} as = some o) : InStep cfg as o := by
  refine Execution.history_invariant (R := fun past o => InStep cfg past o) (InStep.of_empty rfl) ?_ run
  intro before a after u v split reached step held
  subst split
  exact (inStep_step_iff (cacheBounds_of_run reached) held step).2 (guard.step reached)

/-! ### The comparison -/

/-- What a recorded event is compared with: the previous event of its session, with the body that was kept. -/
def RequestObserver.comparison (cfg : ObserverConfig B) (o : RequestObserver B) (event : TelemetryEvent)
    (body : Option B) (requestStored : Bool) : Option (TelemetryEvent × Option B) :=
  (event.sessionHash.bind o.lastEventForSession).bind fun previous =>
    if requestStored = true ∧ previous.cacheFingerprint ≠ event.cacheFingerprint ∧
        cfg.churnDetectionEnabled = true then
      some (previous, (o.rememberBody cfg event.sessionHash body).1)
    else none

/-- The two contents, when both bodies can be read. -/
def churnContents (cfg : ObserverConfig B) (previous event : TelemetryEvent) (previousBody currentBody : Option B) :
    Option (RequestContent × RequestContent) := do
  let previousPayload ← previousBody.bind (jsonOrNone cfg.text)
  let currentPayload ← currentBody.bind (jsonOrNone cfg.text)
  let previousContent ← previous.content cfg.prims previousPayload
  let currentContent ← event.content cfg.prims currentPayload
  pure (previousContent, currentContent)

/-- A transition is classified from the body of the event it is compared with, or else from the stored hashes. -/
def ReadsPrevious (cfg : ObserverConfig B) (past : List (ObserverAction B)) (previous event : TelemetryEvent)
    (previousBody : Option B) (currentBody : B) : Prop :=
  ∃ h body, event.sessionHash = some h ∧ lastStored cfg past h = some (previous, body) ∧
    (previousBody = some body ∨
      churnContents cfg previous event previousBody (some currentBody) = none ∧
      classifyChurn cfg.patterns cfg.prims cfg.text previous event previousBody (some currentBody) =
        Churn.classifyHashes previous.storedHashes event.storedHashes true)

/-- Every churn event that a step records is the classification of such a comparison. -/
def ComparesPrevious (cfg : ObserverConfig B) (past : List (ObserverAction B)) (u : RequestObserver B)
    (a : ObserverAction B) (v : RequestObserver B) : Prop :=
  match a with
  | .observe request responseHeaders usage outcome timestamp requestStored churnStored =>
      ∀ observed, request.observe cfg.prims cfg.text responseHeaders usage outcome timestamp = some observed →
        match u.comparison cfg observed.event (some request.body) requestStored with
        | none => v.churnEvents = u.churnEvents
        | some (previous, previousBody) =>
            ReadsPrevious cfg past previous observed.event previousBody request.body ∧
              v.churnEvents =
                if churnStored then
                  RequestObserver.churnEvent cfg previous observed.event previousBody (some request.body) ::
                    u.churnEvents
                else u.churnEvents
  | .restart => v.churnEvents = u.churnEvents

variable (cfg) in
theorem rememberBody_churnEvents (o : RequestObserver B) (sessionHash : Option String) (body : Option B) :
    (o.rememberBody cfg sessionHash body).2.churnEvents = o.churnEvents := by
  unfold RequestObserver.rememberBody
  split
  · split
    · rfl
    · split <;> rfl
  · rfl

variable (cfg) in
/-- Recording an event records the comparison, if there is one. -/
theorem record_churnEvents (o : RequestObserver B) (event : TelemetryEvent) (body : Option B)
    (requestStored churnStored : Bool) :
    (o.record cfg event body requestStored churnStored).churnEvents =
      match o.comparison cfg event body requestStored with
      | none => o.churnEvents
      | some (previous, previousBody) =>
          if churnStored then RequestObserver.churnEvent cfg previous event previousBody body :: o.churnEvents
          else o.churnEvents := by
  have kept := rememberBody_churnEvents cfg o event.sessionHash body
  unfold RequestObserver.record RequestObserver.comparison
  cases event.sessionHash.bind o.lastEventForSession with
  | none =>
      cases requestStored with
      | false => exact kept
      | true => exact kept
  | some previous =>
      cases requestStored with
      | false => exact kept
      | true =>
          by_cases changed : previous.cacheFingerprint ≠ event.cacheFingerprint
          · cases churn : cfg.churnDetectionEnabled <;> cases churnStored <;>
              simp [changed, churn, kept, RequestObserver.recordChurn]
          · simp [changed, kept]

/-- The body that is compared with is the one that was kept, when one was. -/
theorem rememberBody_fst {o : RequestObserver B} {sessionHash : String} {body previousBody : B}
    (kept : (o.rememberBody cfg (some sessionHash) (some body)).1 = some previousBody) :
    o.lastBody.get? sessionHash = some previousBody := by
  unfold RequestObserver.rememberBody at kept
  dsimp only at kept
  split at kept
  · cases kept
  · split at kept
    · cases kept
    · exact kept

/-- In step, a comparison reads the body of the previous event. -/
theorem readsPrevious_of_inStep {past : List (ObserverAction B)} {u : RequestObserver B}
    {event previous : TelemetryEvent}
    {body : B} {previousBody : Option B} {requestStored : Bool}
    (run : Execution.exec (observerStep cfg) {} past = some u) (held : InStep cfg past u)
    (compared : u.comparison cfg event (some body) requestStored = some (previous, previousBody)) :
    ReadsPrevious cfg past previous event previousBody body := by
  obtain ⟨last, found, compared⟩ := Option.bind_eq_some_iff.1 compared
  obtain ⟨sessionHash, session, found⟩ := Option.bind_eq_some_iff.1 found
  split at compared
  · rw [Option.some.injEq, Prod.mk.injEq] at compared
    obtain ⟨rfl, kept⟩ := compared
    rw [lastEventForSession_eq run] at found
    obtain ⟨stored, here, rfl⟩ := Option.map_eq_some_iff.1 found
    refine ⟨sessionHash, stored.2, session, here, ?_⟩
    rw [session] at kept
    cases previousBody with
    | none => exact Or.inr ⟨rfl, rfl⟩
    | some previousBody =>
        have same := held sessionHash previousBody (rememberBody_fst kept) stored here
        exact Or.inl (congrArg some same.symm)
  · cases compared

/-- In a run whose steps keep the store and the cache in step, every transition that is classified from content is
    classified from the body of the event it is compared with. The first step that does not puts them out of step:
    some session then has a body in the cache that is not that of its last event. -/
theorem churn_reads_previous_body (cfg : ObserverConfig B) {as : List (ObserverAction B)} {o : RequestObserver B}
    (run : Execution.exec (observerStep cfg) {} as = some o) :
    (Execution.AlongHistory (observerStep cfg) (KeepsInStep cfg) [] {} as →
      ∀ before a after u v, as = before ++ a :: after → Execution.exec (observerStep cfg) {} before = some u →
        observerStep cfg u a = some v → ComparesPrevious cfg before u a v) ∧
    ∀ before a after u v, as = before ++ a :: after → Execution.exec (observerStep cfg) {} before = some u →
      Execution.AlongHistory (observerStep cfg) (KeepsInStep cfg) [] {} before → observerStep cfg u a = some v →
      ¬KeepsInStep cfg before u a →
      ∃ h body stored, v.lastBody.get? h = some body ∧ lastStored cfg (before ++ [a]) h = some stored ∧
        stored.2 ≠ body := by
  constructor
  · intro guard before a after u v split reached step
    subst split
    have held := inStep_of_run guard.left reached
    rcases observerStep_cases step with
      ⟨rfl, request, responseHeaders, usage, outcome, timestamp, requestStored, churnStored, rfl, unread⟩ |
      ⟨request, responseHeaders, usage, outcome, timestamp, requestStored, churnStored, observed, rfl, read, rfl⟩ |
      ⟨rfl, rfl⟩
    · intro observed found
      rw [unread] at found
      cases found
    · intro observed' found
      rw [read] at found
      obtain rfl := Option.some.inj found
      have recorded := record_churnEvents cfg u observed.event (some request.body) requestStored churnStored
      cases compared : u.comparison cfg observed.event (some request.body) requestStored with
      | none =>
          rw [compared] at recorded
          exact recorded
      | some pair =>
          rw [compared] at recorded
          exact ⟨readsPrevious_of_inStep reached held compared, recorded⟩
    · exact rfl
  · intro before a after u v _ reached guard step breaks
    have out := mt (inStep_step_iff (cacheBounds_of_run reached) (inStep_of_run guard reached) step).1 breaks
    simp only [InStep, not_forall] at out
    obtain ⟨h, body, kept, stored, last, other⟩ := out
    exact ⟨h, body, stored, kept, last, other⟩

/-! ### Samples -/

/-- A body of a sample is a parsed object with its length in bytes, and a digest shows its text. -/
def churnConfig : ObserverConfig (List (String × Json) × ℕ) where
  patterns := noPatterns
  prims := { samplePrimitives with sha256 := fun text => "#" ++ text }
  text := { loads := fun body => some (.obj body.1), serialise := fun payload => some (payload, 2) }
  bytes := Prod.snd

/-- A request of one session with a system prompt. -/
def churnRequest (system : String) (bytes : ℕ) : PhysicalRequest (List (String × Json) × ℕ) where
  body := ([("model", .str "m"), ("system", .str system), ("max_tokens", .int 100)], bytes)
  path := "/v1/chat/completions"
  upstreamUrl := "https://upstream/v1/chat/completions"
  sessionHeader := "s"

def churnObserve (system : String) (bytes : ℕ) : ObserverAction (List (String × Json) × ℕ) :=
  .observe (churnRequest system bytes) [] {} .successUnverified 0 true true

variable (cfg) in
theorem observerStep_total (u : RequestObserver B) (a : ObserverAction B) : ∃ v, observerStep cfg u a = some v := by
  cases a with
  | restart => exact ⟨_, rfl⟩
  | observe request responseHeaders usage outcome timestamp requestStored churnStored =>
      dsimp only [observerStep]
      split
      · exact ⟨_, rfl⟩
      · exact ⟨_, rfl⟩

/-- A small body that is stored keeps the store and the cache in step. -/
theorem keepsInStep_churnObserve (past : List (ObserverAction (List (String × Json) × ℕ)))
    (u : RequestObserver (List (String × Json) × ℕ)) (system : String) {bytes : ℕ} (small : bytes ≤ bodyCacheMaxBytes) :
    KeepsInStep churnConfig past u (churnObserve system bytes) := by
  intro observed h _ _ _
  rw [if_neg (show ¬bodyCacheMaxBytes < churnConfig.bytes (churnRequest system bytes).body from small.not_gt)]
  exact Or.inl rfl

/-- Two small requests of a session that are stored: the second is compared with the first and its body. -/
theorem churn_reads_previous_body_sample :
    ∃ u v, Execution.exec (observerStep churnConfig) {} [churnObserve "a" 100] = some u ∧
      observerStep churnConfig u (churnObserve "b" 100) = some v ∧
      ComparesPrevious churnConfig [churnObserve "a" 100] u (churnObserve "b" 100) v := by
  obtain ⟨u, first⟩ := observerStep_total churnConfig {} (churnObserve "a" 100)
  obtain ⟨v, second⟩ := observerStep_total churnConfig u (churnObserve "b" 100)
  have reached : Execution.exec (observerStep churnConfig) {} [churnObserve "a" 100] = some u := by
    rw [Execution.exec_singleton, first]
  have run := Execution.exec_snoc reached second
  have small : 100 ≤ bodyCacheMaxBytes := by decide
  have guard : Execution.AlongHistory (observerStep churnConfig) (KeepsInStep churnConfig) [] {}
      [churnObserve "a" 100, churnObserve "b" 100] :=
    ⟨keepsInStep_churnObserve _ _ "a" small, fun _ _ => ⟨keepsInStep_churnObserve _ _ "b" small, fun _ _ => trivial⟩⟩
  exact ⟨u, v, reached, second,
    (churn_reads_previous_body churnConfig run).1 guard [churnObserve "a" 100] _ [] u v rfl reached second⟩

/-- What a recorded event says of the session, the identity and the system prompt of its request. -/
theorem event_of_observe {prims : TextPrimitives} {text : BodyText B} {request : PhysicalRequest B}
    {responseHeaders : List (String × String)} {usage : TokenUsage} {outcome : Outcome} {timestamp : ℚ}
    {observed : ObservedRequest}
    (read : request.observe prims text responseHeaders usage outcome timestamp = some observed) :
    observed.event.sessionHash = hashCorrelationValue prims request.sessionHeader ∧
      ∃ c : CanonicalRequest, observed.event.cacheFingerprint = cacheFingerprint prims c ∧
        observed.event.systemHash = some c.systemHash := by
  unfold PhysicalRequest.observe at read
  split at read
  · rename_i c historyHash _ _
    rw [← Option.some.inj read]
    exact ⟨rfl, c, rfl, rfl⟩
  · cases read

/-- The event that is recorded for a sample request. -/
def churnObserved (system : String) (bytes : ℕ) : Option ObservedRequest :=
  (churnRequest system bytes).observe churnConfig.prims churnConfig.text [] {} .successUnverified 0

theorem churnObserved_systemHash :
    (churnObserved "a" 100).map (fun observed => observed.event.systemHash) = some (some "#a") ∧
      (churnObserved "b" 2000000).map (fun observed => observed.event.systemHash) = some (some "#b") ∧
      (churnObserved "c" 100).map (fun observed => observed.event.systemHash) = some (some "#c") := by
  decide +kernel

/-- Sample events with different system prompts have different cache fingerprints. -/
theorem churnObserved_changes {system system' : String} {bytes bytes' : ℕ} {observed observed' : ObservedRequest}
    (read : churnObserved system bytes = some observed) (read' : churnObserved system' bytes' = some observed')
    (other : observed.event.systemHash ≠ observed'.event.systemHash) :
    observed.event.cacheFingerprint ≠ observed'.event.cacheFingerprint := by
  obtain ⟨-, c, fingerprint, systemHash⟩ := event_of_observe read
  obtain ⟨-, c', fingerprint', systemHash'⟩ := event_of_observe read'
  intro same
  rw [fingerprint, fingerprint'] at same
  have identities := CacheIdentity.eq_of_canonicalJson (String.append_right_inj "#" |>.1 same)
  rw [systemHash, systemHash', identities] at other
  exact other rfl

/-- A small request, a large one and a small one of the same session: the last is compared with the large one, and the
    body that is read as its previous one is that of the first. -/
theorem large_body_leaves_stale_body :
    ∃ u v, Execution.exec (observerStep churnConfig) {} [churnObserve "a" 100, churnObserve "b" 2000000] = some u ∧
      observerStep churnConfig u (churnObserve "c" 100) = some v ∧
      ¬ComparesPrevious churnConfig [churnObserve "a" 100, churnObserve "b" 2000000] u (churnObserve "c" 100) v := by
  obtain ⟨a, readA, -⟩ := Option.map_eq_some_iff.1 churnObserved_systemHash.1
  obtain ⟨b, readB, systemB⟩ := Option.map_eq_some_iff.1 churnObserved_systemHash.2.1
  obtain ⟨c, readC, systemC⟩ := Option.map_eq_some_iff.1 churnObserved_systemHash.2.2
  have changed : b.event.cacheFingerprint ≠ c.event.cacheFingerprint := by
    apply churnObserved_changes readB readC
    rw [systemB, systemC]
    decide
  unfold churnObserved at readA readB readC
  have sessionA : a.event.sessionHash = some "#s" := (event_of_observe readA).1
  have sessionB : b.event.sessionHash = some "#s" := (event_of_observe readB).1
  have sessionC : c.event.sessionHash = some "#s" := (event_of_observe readC).1
  have small (system : String) : ¬bodyCacheMaxBytes < churnConfig.bytes (churnRequest system 100).body :=
    show ¬bodyCacheMaxBytes < 100 by decide
  have large : bodyCacheMaxBytes < churnConfig.bytes (churnRequest "b" 2000000).body := by decide
  let u : RequestObserver (List (String × Json) × ℕ) :=
    RequestObserver.record churnConfig {} a.event (some (churnRequest "a" 100).body) true true
  let v := u.record churnConfig b.event (some (churnRequest "b" 2000000).body) true true
  have first : observerStep churnConfig {} (churnObserve "a" 100) = some u := by
    simp only [observerStep, churnObserve, readA]
    rfl
  have second : observerStep churnConfig u (churnObserve "b" 2000000) = some v := by
    simp only [observerStep, churnObserve, readB]
    rfl
  have events : v.requestEvents = [b.event, a.event] := by
    rw [record_requestEvents, record_requestEvents]
    rfl
  have kept : v.lastBody.get? "#s" = some (churnRequest "a" 100).body := by
    rw [record_lastBody, sessionB, rememberBody_of_large rfl large, record_lastBody, sessionA,
      rememberBody_of_small rfl (small "a"), Dict.get?_set_self]
  have compared : v.comparison churnConfig c.event (some (churnRequest "c" 100).body) true =
      some (b.event, some (churnRequest "a" 100).body) := by
    have last : v.lastEventForSession "#s" = some b.event := by
      simp [RequestObserver.lastEventForSession, events, sessionB]
    rw [RequestObserver.comparison, sessionC, Option.bind_some, last, Option.bind_some, if_pos ⟨rfl, changed, rfl⟩,
      rememberBody_of_small rfl (small "c"), kept]
  refine ⟨v, _, ?_, (observerStep_total churnConfig v (churnObserve "c" 100)).choose_spec, ?_⟩
  · rw [Execution.exec_cons, first, Option.bind_some, Execution.exec_singleton, second]
  · intro compares
    have reads := compares c readC
    rw [compared] at reads
    obtain ⟨⟨h', body, session, last, same⟩, -⟩ := reads
    rw [sessionC, Option.some.injEq] at session
    subst session
    have stored : lastStored churnConfig [churnObserve "a" 100, churnObserve "b" 2000000] "#s" =
        some (b.event, (churnRequest "b" 2000000).body) := by
      rw [show [churnObserve "a" 100, churnObserve "b" 2000000] =
        [churnObserve "a" 100] ++ [churnObserve "b" 2000000] from rfl, churnObserve, churnObserve,
        lastStored_observe readB, if_pos ⟨rfl, sessionB⟩]
    rw [stored, Option.some.injEq, Prod.mk.injEq] at last
    rcases same with same | ⟨unread, -⟩
    · rw [← last.2] at same
      have sizes : some 100 = some 2000000 := congrArg (Option.map Prod.snd) same
      exact absurd sizes (by decide)
    · cases unread

end CachePilot
