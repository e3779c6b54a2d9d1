/-
Module: CachePilot.Proofs.RecorderRefinement
Layer: Proofs
Purpose: The observer over tables is the observer over lists. Step by step, the rows of the request events and of the
  churn events are the lists, with every column of the classification, and both keep the same bodies. What is proved
  of the lists is so of what the queries show.
Trusted boundary: none
Main exports: RecorderAction.observed, ChurnEvent.recordAt, ShowsObserver, recorder_simulates, tables_show_observer
-/
import CachePilot.Lib.Simulation
import CachePilot.Proofs.RecordedHistory

namespace CachePilot

open KeyedLog SqlTable

variable {B : Type} {cfg : RecorderConfig B}

/-- What the observer over lists is told of an action. -/
def RecorderAction.observed : RecorderAction B → ObserverAction B
  | .observe request responseHeaders usage outcome now reach =>
      .observe request responseHeaders usage outcome now.seconds reach.requestStored reach.churnStored
  | .restart => .restart

/-- The row of a churn event, at a time of the host. -/
def ChurnEvent.recordAt (churn : ChurnEvent) (timestamp : UtcTime) : ChurnEventRecord where
  timestamp
  sessionHash := churn.sessionHash
  previousCacheFingerprint := churn.previousCacheFingerprint
  newCacheFingerprint := churn.newCacheFingerprint
  provider := some churn.provider
  model := some churn.model
  routeHash := churn.routeHash
  flags := churn.flags
  likelyCause := churn.classification.likelyCause
  confidence := churn.classification.confidence
  estimatedPrefixLossTokens := churn.classification.estimatedPrefixLossTokens
  firstDivergentOffset := churn.classification.firstDivergentByte.map DivergenceHint.offset
  firstDivergentLayer := churn.classification.firstDivergentByte.map fun hint => hint.layer.value

/-- A row shows a churn event. -/
def ChurnEventRecord.Shows (row : ChurnEventRecord) (churn : ChurnEvent) : Prop :=
  row = churn.recordAt row.timestamp ∧ row.timestamp.seconds = churn.timestamp

/-- The writes to a store are those of the lists, oldest first. -/
structure WritesShow (writes : List StoreWrite) (requests : List TelemetryEvent) (churn : List ChurnEvent) : Prop where
  requests : (writes.filterMap StoreWrite.request?).map RequestEventRecord.asEvent = requests.reverse
  churn : List.Forall₂ ChurnEventRecord.Shows (writes.filterMap StoreWrite.churn?) churn.reverse

/-- A store that shows these lists. -/
def StoreShows (texts : StorageTexts) (store : TelemetryStore) (requests : List TelemetryEvent)
    (churn : List ChurnEvent) : Prop :=
  ∃ writes, Holding texts writes store ∧ WritesShow writes requests churn

/-- The tables show the lists of the observer, and both keep the same bodies. -/
def ShowsObserver (cfg : RecorderConfig B) (x : Recorder B) (o : RequestObserver B) : Prop :=
  x.lastBody = o.lastBody ∧ StoreShows cfg.texts x.store o.requestEvents o.churnEvents

/-! ### One write after the other -/

section Writes

variable {texts : StorageTexts} {store : TelemetryStore} {requests : List TelemetryEvent} {churn : List ChurnEvent}

theorem StoreShows.recordRequest (shows : StoreShows texts store requests churn) (event : RequestEventRecord) :
    StoreShows texts (store.recordRequest texts event) (event.asEvent :: requests) churn := by
  obtain ⟨writes, holding, listed⟩ := shows
  have written : storeWrite texts store (.request event) = some (store.recordRequest texts event) := rfl
  refine ⟨_, holding_step holding written, ?_, ?_⟩
  · rw [filterMap_added StoreWrite.request? rfl, List.map_append, listed.requests, List.reverse_cons]
    rfl
  · rw [filterMap_untouched (by rfl)]
    exact listed.churn

theorem StoreShows.recordChurn (shows : StoreShows texts store requests churn) {event : ChurnEventRecord}
    {shown : ChurnEvent} (same : event.Shows shown) :
    StoreShows texts (store.recordChurn event) requests (shown :: churn) := by
  obtain ⟨writes, holding, listed⟩ := shows
  have written : storeWrite texts store (.churn event) = some (store.recordChurn event) := rfl
  refine ⟨_, holding_step holding written, ?_, ?_⟩
  · rw [filterMap_untouched (by rfl)]
    exact listed.requests
  · rw [filterMap_added StoreWrite.churn? rfl, List.reverse_cons]
    exact List.rel_append listed.churn (.cons same .nil)

/-- A write to another table shows nothing. -/
theorem StoreShows.other (shows : StoreShows texts store requests churn) (write : StoreWrite) {after : TelemetryStore}
    (written : storeWrite texts store write = some after) (unrequested : write.request? = none)
    (unchurned : write.churn? = none) : StoreShows texts after requests churn := by
  obtain ⟨writes, holding, listed⟩ := shows
  refine ⟨_, holding_step holding written, ?_, ?_⟩
  · rw [filterMap_untouched unrequested]
    exact listed.requests
  · rw [filterMap_untouched unchurned]
    exact listed.churn

theorem StoreShows.runRouteIntel (shows : StoreShows cfg.texts store requests churn)
    (previous : Option RequestEventRecord) (event : RequestEventRecord) (route : RouteIdentity) (routeStored : Bool) :
    StoreShows cfg.texts (cfg.runRouteIntel store previous event route routeStored) requests churn := by
  cases previous with
  | none => exact shows
  | some previous =>
      rw [RecorderConfig.runRouteIntel]
      split
      · exact shows.other (.routeEvent _) rfl rfl rfl
      · exact shows

theorem StoreShows.feedTtlLearner (shows : StoreShows cfg.texts store requests churn) (obs : ObservedOutcome)
    (reach : LearnerReach) : StoreShows cfg.texts (cfg.feedTtlLearner store obs reach) requests churn := by
  obtain ⟨writes, holding, -⟩ := id shows
  obtain ⟨row, made, -⟩ := holding.learnedRow cfg.texts.prims.sha256 obs
  have rowed : StoreShows cfg.texts (store.recordTtlObservation row) requests churn :=
    shows.other (.ttlObservation row) rfl rfl rfl
  cases reach with
  | nothing => exact shows
  | row =>
      rw [RecorderConfig.feedTtlLearner, made, Option.elim_some]
      exact rowed
  | profile =>
      rw [RecorderConfig.feedTtlLearner]
      rcases learn_writes cfg.texts.prims.sha256 store obs made with same | ⟨profile, same⟩
      · rw [same]
        exact rowed
      · rw [same]
        exact rowed.other (.profile profile obs.timestamp) rfl rfl rfl

/-- Both find the same last event of a session. -/
theorem StoreShows.lastEventForSession (shows : StoreShows texts store requests churn) (sessionHash : String) :
    ((store.lastEventForSession texts sessionHash).map (Option.map StoredRequestEvent.asRecord)).map
        (Option.map RequestEventRecord.asEvent) =
      some (requests.find? fun event => event.sessionHash = some sessionHash) := by
  obtain ⟨writes, holding, listed⟩ := shows
  rw [holding.lastRecordForSession, Option.map_some, lastFor, ← List.reverse_reverse requests, ← listed.requests,
    ← List.map_reverse, List.find?_map]
  rfl

end Writes

/-! ### One request -/

variable {x : Recorder B} {o : RequestObserver B}

/-- Both read the same last event of the session. -/
theorem StoreShows.previousEvent (shows : StoreShows cfg.texts x.store o.requestEvents o.churnEvents)
    (sessionHash : Option String) :
    ∃ previous, x.previousEvent cfg sessionHash = some previous ∧
      previous.map RequestEventRecord.asEvent = sessionHash.bind o.lastEventForSession := by
  cases sessionHash with
  | none => exact ⟨none, rfl, rfl⟩
  | some sessionHash =>
      obtain ⟨previous, found, same⟩ := Option.map_eq_some_iff.mp (shows.lastEventForSession sessionHash)
      exact ⟨previous, found, same⟩

/-- What a body is kept over depends on the bodies alone. -/
theorem rememberBody_of_lastBody (cfg : ObserverConfig B) (same : x.lastBody = o.lastBody)
    (sessionHash : Option String) (body : Option B) :
    (RequestObserver.rememberBody cfg { lastBody := x.lastBody } sessionHash body).1 =
        (o.rememberBody cfg sessionHash body).1 ∧
      (RequestObserver.rememberBody cfg { lastBody := x.lastBody } sessionHash body).2.lastBody =
        (o.rememberBody cfg sessionHash body).2.lastBody := by
  unfold RequestObserver.rememberBody
  dsimp only
  rw [same]
  split
  · split
    · exact ⟨rfl, rfl⟩
    · split <;> exact ⟨rfl, rfl⟩
  · exact ⟨rfl, rfl⟩

/-- The row of a change shows its churn event. -/
theorem churnRecord_shows (previous event : RequestEventRecord) (previousBody currentBody : Option B) :
    (cfg.churnRecord previous event previousBody currentBody).Shows
      (RequestObserver.churnEvent cfg.observer previous.asEvent event.asEvent previousBody currentBody) :=
  ⟨rfl, rfl⟩

/-- Recording one request on both sides. -/
theorem ShowsObserver.record (shows : ShowsObserver cfg x o) (event : RequestEventRecord) (obs : ObservedOutcome)
    (route : RouteIdentity) (body : Option B) (reach : RecorderReach) :
    ShowsObserver cfg (x.record cfg event obs route body reach)
      (o.record cfg.observer event.asEvent body reach.requestStored reach.churnStored) := by
  obtain ⟨bodies, shows⟩ := shows
  obtain ⟨previous, found, same⟩ := shows.previousEvent event.sessionHash
  obtain ⟨read, kept⟩ := rememberBody_of_lastBody cfg.observer bodies event.sessionHash body
  constructor
  · rw [record_lastBody, Recorder.record, found]
    dsimp only
    split
    · split <;> exact kept
    · exact kept
  · rw [record_requestEvents, record_churnEvents, RequestObserver.comparison, Recorder.record, found]
    change _ = event.asEvent.sessionHash.bind o.lastEventForSession at same
    rw [← same]
    dsimp only
    by_cases stored : reach.requestStored = true
    · have requested := shows.recordRequest event
      rw [if_pos stored, if_pos stored]
      cases previous with
      | none => exact (requested.runRouteIntel none event route reach.routeStored).feedTtlLearner obs reach.learner
      | some previous =>
          rw [Option.map_some, Option.bind_some, RecorderConfig.recordChurn]
          by_cases still : previous.cacheFingerprint = event.cacheFingerprint ∨ cfg.churnDetectionEnabled = false
          · have unchanged : ¬(reach.requestStored = true ∧
                previous.asEvent.cacheFingerprint ≠ event.asEvent.cacheFingerprint ∧
                cfg.observer.churnDetectionEnabled = true) := by
              rintro ⟨-, moved, on⟩
              rcases still with same | off
              · exact moved same
              · exact Bool.noConfusion (off.symm.trans on)
            rw [if_pos still, if_neg unchanged]
            exact (requested.runRouteIntel (some previous) event route reach.routeStored).feedTtlLearner obs
              reach.learner
          · obtain ⟨moved, on⟩ := not_or.mp still
            have changed : reach.requestStored = true ∧
                previous.asEvent.cacheFingerprint ≠ event.asEvent.cacheFingerprint ∧
                cfg.observer.churnDetectionEnabled = true :=
              ⟨stored, moved, Bool.not_eq_false _ ▸ on⟩
            rw [if_neg still, if_pos changed]
            dsimp only
            by_cases written : reach.churnStored = true
            · rw [if_pos written, if_pos written, read]
              exact ((requested.recordChurn (churnRecord_shows previous event _ body)).runRouteIntel (some previous)
                event route reach.routeStored).feedTtlLearner obs reach.learner
            · rw [if_neg written, if_neg written]
              exact requested
    · have uncompared : ((previous.map RequestEventRecord.asEvent).bind fun previous =>
          if reach.requestStored = true ∧ previous.cacheFingerprint ≠ event.asEvent.cacheFingerprint ∧
              cfg.observer.churnDetectionEnabled = true then
            some (previous, (o.rememberBody cfg.observer event.asEvent.sessionHash body).1)
          else none) = none := by
        refine Option.bind_eq_none_iff.mpr fun previous _ => if_neg fun compared => stored compared.1
      rw [if_neg stored, if_neg stored, uncompared]
      exact shows

/-- What is recorded of a request is at its time. -/
theorem observe_timestamp {prims : TextPrimitives} {text : BodyText B} {request : PhysicalRequest B}
    {responseHeaders : List (String × String)} {usage : TokenUsage} {outcome : Outcome} {timestamp : ℚ}
    {observed : ObservedRequest}
    (read : request.observe prims text responseHeaders usage outcome timestamp = some observed) :
    observed.event.timestamp = timestamp := by
  unfold PhysicalRequest.observe at read
  split at read
  · cases read
    rfl
  · cases read

theorem asEvent_recordAt {event : TelemetryEvent} {now : UtcTime} (timed : event.timestamp = now.seconds) :
    (event.recordAt now).asEvent = event := by
  rw [RequestEventRecord.asEvent]
  change { event with timestamp := now.seconds } = event
  rw [← timed]

/-! ### Whole runs -/

/-- The observer over lists follows the one over tables. -/
theorem recorder_simulates (cfg : RecorderConfig B) :
    Execution.Simulates (recorderStep cfg) (observerStep cfg.observer) (fun _ a => some a.observed)
      (ShowsObserver cfg) := by
  intro x o action after shows stepped
  cases action with
  | restart =>
      cases stepped
      exact ⟨_, rfl, rfl, shows.2⟩
  | observe request responseHeaders usage outcome now reach =>
      have told : ∀ found, request.observe cfg.observer.prims cfg.observer.text responseHeaders usage outcome
            now.seconds = found →
          Execution.exec (observerStep cfg.observer) o
              [RecorderAction.observed (.observe request responseHeaders usage outcome now reach)] =
            found.elim (some o) fun observed => some (o.record cfg.observer observed.event (some request.body)
              reach.requestStored reach.churnStored) := by
        rintro found rfl
        rw [Execution.exec_singleton, RecorderAction.observed, observerStep]
        cases request.observe cfg.observer.prims cfg.observer.text responseHeaders usage outcome now.seconds <;> rfl
      rw [recorderStep] at stepped
      cases read : request.observe cfg.texts.prims cfg.text responseHeaders usage outcome now.seconds with
      | none =>
          rw [read] at stepped
          cases stepped
          exact ⟨o, told none read, shows⟩
      | some observed =>
          rw [read] at stepped
          cases stepped
          have recorded := shows.record (observed.event.recordAt now) (observed.observation.outcomeAt now)
            (extractRouteIdentity request.upstreamUrl responseHeaders) (some request.body) reach
          rw [asEvent_recordAt (observe_timestamp read)] at recorded
          exact ⟨_, told (some observed) read, recorded⟩

/-- What the queries show of the tables is what the observer over lists has, whatever requests it sees, whichever
    writes fail and whenever the relay starts again: the same events, the same changes with the same classification,
    and the same bodies. -/
theorem tables_show_observer (cfg : RecorderConfig B) (past : List (RecorderAction B)) :
    ∃ x o, Execution.exec (recorderStep cfg) {} past = some x ∧
      Execution.exec (observerStep cfg.observer) {} (past.map RecorderAction.observed) = some o ∧
      x.lastBody = o.lastBody ∧ ∀ limit,
        (x.store.recentEvents cfg.texts limit).map (List.map fun row => row.asRecord.asEvent) =
            some (limited limit o.requestEvents) ∧
          ∃ rows, x.store.churnList limit = some rows ∧
            List.Forall₂ (fun row churn => row.toChurnEventRecord.Shows churn) rows (limited limit o.churnEvents) := by
  obtain ⟨x, run, -⟩ := run_tellsHistory cfg past
  have start : ShowsObserver cfg {} {} := ⟨rfl, [], holding_empty, rfl, .nil⟩
  obtain ⟨o, observed, bodies, writes, holding, listed⟩ := (recorder_simulates cfg).run_map start run
  have back := holding.readsBack
  refine ⟨x, o, run, observed, bodies, fun limit => ⟨?_, ?_⟩⟩
  · obtain ⟨events, found, same⟩ := Option.map_eq_some_iff.mp (back.requests limit)
    have plain : (events.map fun row => row.asRecord.asEvent) =
        ((events.map StoredRequestEvent.unnumbered).map StoredRequestEvent.asRecord).map
          RequestEventRecord.asEvent := by
      rw [List.map_map, List.map_map]
      rfl
    have shown : o.requestEvents =
        (writes.filterMap StoreWrite.request?).reverse.map RequestEventRecord.asEvent := by
      rw [List.map_reverse, listed.requests, List.reverse_reverse]
    rw [found, Option.map_some, plain, same, shown, limited_map, List.map_map, List.map_map]
    rfl
  · obtain ⟨rows, found, same⟩ := Option.map_eq_some_iff.mp (back.churn limit)
    refine ⟨rows, found, ?_⟩
    have shown := List.rel_reverse listed.churn
    rw [List.reverse_reverse] at shown
    rw [← List.forall₂_map_left_iff, same]
    unfold limited
    split
    · exact shown
    · exact List.forall₂_take _ shown

end CachePilot
