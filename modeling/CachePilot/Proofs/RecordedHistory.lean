/-
Module: CachePilot.Proofs.RecordedHistory
Layer: Proofs
Purpose: The tables tell one history. The request events that were written, each with the last one of its session in
  front of it, say exactly which churn events, route events and observations are in the other tables, in which order
  and with which columns, whatever writes fail and whenever the relay starts again. A request that moved the cache
  identity of its session is in the churn table before the learner looks, so it teaches nothing.
Trusted boundary: none
Main exports: RecordedRequest, recordedOf, RecordedStep, stepsOf, RecordedStep.churnEvent?, RecordedStep.routeEvent?,
  RecordedStep.learned?, TellsHistory, tellsHistory_step, tables_tell_history, moved_requests_teach_nothing
-/
import CachePilot.Proofs.AffinityPins
import CachePilot.Proofs.ChurnBodies
import CachePilot.Proofs.LearnedTables
import CachePilot.Relay.Recording

namespace CachePilot

open SqlTable KeyedLog

variable {B : Type}

/-! ### The history of the requests -/

/-- A request event that was written, with what was at hand when it was. -/
structure RecordedRequest where
  event : RequestEventRecord
  obs : ObservedOutcome
  route : RouteIdentity
  reach : RecorderReach

/-- The request event that an action writes, if it writes one. -/
def RecorderAction.recorded? (cfg : RecorderConfig B) : RecorderAction B → Option RecordedRequest
  | .observe request responseHeaders usage outcome now reach =>
      if reach.requestStored then
        (request.observe cfg.texts.prims cfg.text responseHeaders usage outcome now.seconds).map fun observed =>
          { event := observed.event.recordAt now
            obs := observed.observation.outcomeAt now
            route := extractRouteIdentity request.upstreamUrl responseHeaders
            reach }
      else none
  | .restart => none

/-- The request events that were written, in order. -/
def recordedOf (cfg : RecorderConfig B) (past : List (RecorderAction B)) : List RecordedRequest :=
  past.filterMap (RecorderAction.recorded? cfg)

/-- A recorded request, with the last one of its session in front of it. -/
abbrev RecordedStep := Option RecordedRequest × RecordedRequest

/-- The recorded requests, each with the one in front of it. -/
def stepsOf (cfg : RecorderConfig B) (past : List (RecorderAction B)) : List RecordedStep :=
  withPrevious (fun recorded => recorded.event.sessionHash) (recordedOf cfg past)

/-- The churn event of a transition, as far as the two request events say it. -/
def transitionOf (previous event : RequestEventRecord) : ChurnEventRecord where
  timestamp := event.timestamp
  sessionHash := event.sessionHash
  previousCacheFingerprint := previous.cacheFingerprint
  newCacheFingerprint := event.cacheFingerprint
  provider := some event.provider
  model := some event.model
  routeHash := event.routeHash
  flags := churnFlags previous.asEvent event.asEvent

/-- A churn event without its classification. -/
def ChurnEventRecord.unclassified (churn : ChurnEventRecord) : ChurnEventRecord :=
  { churn with
    likelyCause := none
    confidence := none
    estimatedPrefixLossTokens := none
    firstDivergentOffset := none
    firstDivergentLayer := none }

/-- A row of an observation without what the learner made of it. -/
def TtlObservationRecord.unaged (obs : TtlObservationRecord) : TtlObservationRecord :=
  { obs with idleAgeS := none, clean := false }

namespace RecordedStep

variable (cfg : RecorderConfig B) (step : RecordedStep)

/-- The cache identity of the session moved. -/
def moved : Bool := step.1.any fun previous => previous.event.cacheFingerprint ≠ step.2.event.cacheFingerprint

/-- The route of the session moved. -/
def routeMoved : Bool := step.1.any fun previous => previous.event.routeHash ≠ step.2.event.routeHash

/-- Recording comes past the churn event: there is none to record, or it can be written. -/
def goesOn : Bool := !(cfg.churnDetectionEnabled && step.moved) || step.2.reach.churnStored

/-- The churn event that is recorded, without its classification. -/
def churnEvent? : Option ChurnEventRecord :=
  if cfg.churnDetectionEnabled && step.moved && step.2.reach.churnStored then
    step.1.map fun previous => transitionOf previous.event step.2.event
  else none

/-- The route event that is recorded. -/
def routeEvent? : Option RouteEventRecord :=
  if step.goesOn cfg && cfg.routeIntelEnabled && step.routeMoved && step.2.reach.routeStored then
    step.1.map fun previous =>
      RouteChange.record { previous := previous.event, event := step.2.event, route := step.2.route }
  else none

/-- The observation of which a row is recorded. -/
def learned? : Option ObservedOutcome :=
  if step.goesOn cfg && decide (step.2.reach.learner ≠ .nothing) then some step.2.obs else none

end RecordedStep

/-- What a last row adds. -/
theorem filterMap_snoc {α β : Type} (f : α → Option β) (rows : List α) (row : α) :
    (rows ++ [row]).filterMap f = rows.filterMap f ++ (f row).toList := by
  rw [List.filterMap_append]
  cases shape : f row with
  | none => rw [List.filterMap_cons_none shape]; rfl
  | some value => rw [List.filterMap_cons_some shape]; rfl

theorem recordedOf_append (cfg : RecorderConfig B) (past : List (RecorderAction B)) (action : RecorderAction B) :
    recordedOf cfg (past ++ [action]) = recordedOf cfg past ++ (action.recorded? cfg).toList :=
  filterMap_snoc _ past action

/-! ### One write after the other -/

variable {cfg : RecorderConfig B} {texts : StorageTexts} {writes : List StoreWrite} {store : TelemetryStore}

@[simp] theorem asRecord_stored (event : RequestEventRecord) (id : ℕ) : (event.stored id).asRecord = event := rfl

/-- The query finds the last event that was written of the session. -/
theorem Holding.lastRecordForSession (holding : Holding texts writes store) (sessionHash : String) :
    (store.lastEventForSession texts sessionHash).map (Option.map StoredRequestEvent.asRecord) =
      some (lastFor RequestEventRecord.sessionHash (writes.filterMap StoreWrite.request?) (some sessionHash)) := by
  obtain ⟨entry, found, newest⟩ := holding.lastEventForSession sessionHash
  rw [found, lastFor, ← newest]
  cases entry <;> rfl

/-- A call of the learner writes its row, and a profile or none. -/
theorem learn_writes (endpointHash : String → String) (store : TelemetryStore) (obs : ObservedOutcome)
    {row : TtlObservationRecord} (made : store.learnedRow endpointHash obs = some row) :
    (store.learn endpointHash obs).1 = store.recordTtlObservation row ∨
      ∃ profile, (store.learn endpointHash obs).1 =
        (store.recordTtlObservation row).upsertProfile profile obs.timestamp := by
  unfold TelemetryStore.learnedRow at made
  obtain ⟨previous, last, made⟩ := Option.bind_eq_some_iff.mp made
  obtain ⟨clean, found, made⟩ := Option.bind_eq_some_iff.mp made
  cases made
  rw [TelemetryStore.learn, last]
  dsimp only
  rw [found]
  dsimp only
  rw [TelemetryStore.refineProfile]
  split
  · exact Or.inl rfl
  · dsimp only
    split
    · split
      · exact Or.inl rfl
      · exact Or.inr ⟨_, rfl⟩
    · split
      · split
        · exact Or.inr ⟨_, rfl⟩
        · exact Or.inl rfl
      · exact Or.inl rfl

/-- Whether a pair is clean can always be found out. -/
theorem Holding.cleanPair_isSome (holding : Holding texts writes store) (obs : ObservedOutcome)
    (previous : Option StoredTtlObservation) : ∃ clean, store.cleanPair obs previous = some clean := by
  cases previous with
  | none => exact ⟨false, rfl⟩
  | some previous =>
      have found := holding.churnBetween obs.cacheFingerprint (StoredTime.ofUtc previous.timestamp)
        (StoredTime.ofUtc obs.timestamp)
      have query : store.churnBetween obs.cacheFingerprint (.ofUtc previous.timestamp) (.ofUtc obs.timestamp) = _ :=
        found
      rw [TelemetryStore.cleanPair, query]
      split
      · exact ⟨_, rfl⟩
      · exact ⟨_, rfl⟩

/-- The row of an observation can always be made. -/
theorem Holding.learnedRow (holding : Holding texts writes store) (endpointHash : String → String)
    (obs : ObservedOutcome) :
    ∃ row, store.learnedRow endpointHash obs = some row ∧ row.unaged = obs.row endpointHash none false := by
  obtain ⟨previous, last, -⟩ := holding.lastTtlObservation obs.cacheFingerprint
  obtain ⟨clean, found⟩ := holding.cleanPair_isSome obs previous
  refine ⟨obs.row endpointHash
    (previous.bind fun previous => obs.idleAgeSince previous.toTtlObservationRecord) clean, ?_, rfl⟩
  rw [TelemetryStore.learnedRow, last]
  change (store.cleanPair obs previous).bind _ = _
  rw [found]
  rfl

/-- A pair is not clean when the fingerprint was moved at the time of the observation. -/
theorem Holding.cleanPair_of_touched (holding : Holding texts writes store) {obs : ObservedOutcome}
    {churn : ChurnEventRecord} (written : churn ∈ writes.filterMap StoreWrite.churn?)
    (touched : churn.newCacheFingerprint = obs.cacheFingerprint) (now : churn.timestamp = obs.timestamp)
    (previous : Option StoredTtlObservation) : store.cleanPair obs previous = some false := by
  cases previous with
  | none => rfl
  | some previous =>
      have found := holding.churnBetween obs.cacheFingerprint (StoredTime.ofUtc previous.timestamp)
        (StoredTime.ofUtc obs.timestamp)
      have query : store.churnBetween obs.cacheFingerprint (.ofUtc previous.timestamp) (.ofUtc obs.timestamp) = _ :=
        found
      rw [TelemetryStore.cleanPair]
      split
      · rename_i pair
        rw [query]
        refine congrArg (fun found => some !found) (decide_eq_true ⟨churn, written, Or.inr touched, ?_⟩)
        rw [StoredTime.instant_ofUtc, StoredTime.instant_ofUtc, now]
        have forward : previous.timestamp.seconds < obs.timestamp.seconds := by
          obtain ⟨age, aged⟩ := Option.isSome_iff_exists.mp pair.1
          unfold ObservedOutcome.idleAgeSince at aged
          dsimp only at aged
          split at aged
          · rename_i positive
            exact sub_pos.mp positive
          · cases aged
        exact ⟨Int.ofNat_le.mpr ((seconds_le_iff _ _).mp forward.le), le_rfl⟩
      · rfl

/-! ### What the tables hold -/

/-- The tables hold these records, up to what the classifier and the learner say of them. -/
def TablesHold (texts : StorageTexts) (store : TelemetryStore) (requests : List RequestEventRecord)
    (churn : List ChurnEventRecord) (routes : List RouteEventRecord) (rows : List TtlObservationRecord) : Prop :=
  ∃ writes s, Mirrors texts writes store s ∧ s.WellKeyed ∧ writes.filterMap StoreWrite.request? = requests ∧
    (writes.filterMap StoreWrite.churn?).map ChurnEventRecord.unclassified = churn ∧
    writes.filterMap StoreWrite.routeEvent? = routes ∧
    (writes.filterMap StoreWrite.ttlObservation?).map TtlObservationRecord.unaged = rows

/-- Every profile stays under its own key. -/
theorem wellKeyed_mirrored {s : TtlStore} (keyed : s.WellKeyed) (write : StoreWrite) :
    (s.mirrored write).WellKeyed := by
  cases write with
  | profile profile now =>
      intro key p found
      change (s.profiles.set profile.profileKey _).get? key = some p at found
      rw [Dict.get?_set] at found
      split at found
      · rename_i here
        cases found
        subst here
        cases known : s.profileFor (profile.storedAt now).asProfile.profileKey with
        | none => rfl
        | some stored => exact keyed _ stored known
      · exact keyed key p found
  | _ => exact keyed

section Hold

variable {requests : List RequestEventRecord} {churn : List ChurnEventRecord} {routes : List RouteEventRecord}
  {rows : List TtlObservationRecord}

theorem tablesHold_empty (texts : StorageTexts) : TablesHold texts {} [] [] [] [] := by
  refine ⟨[], {}, mirrors_empty texts, fun key p found => ?_, rfl, rfl, rfl, rfl⟩
  exact (Option.not_mem_none p found).elim

theorem TablesHold.recordRequest (hold : TablesHold texts store requests churn routes rows)
    (event : RequestEventRecord) :
    TablesHold texts (store.recordRequest texts event) (requests ++ [event]) churn routes rows := by
  obtain ⟨writes, s, mirrors, keyed, rfl, rfl, rfl, rfl⟩ := hold
  refine ⟨_, _, mirrors.write (.request event) rfl, wellKeyed_mirrored keyed _, ?_, ?_, ?_, ?_⟩
  · exact filterMap_added StoreWrite.request? rfl
  all_goals rw [filterMap_untouched (by rfl)]

theorem TablesHold.recordChurn (hold : TablesHold texts store requests churn routes rows) (event : ChurnEventRecord) :
    TablesHold texts (store.recordChurn event) requests (churn ++ [event.unclassified]) routes rows := by
  obtain ⟨writes, s, mirrors, keyed, rfl, rfl, rfl, rfl⟩ := hold
  refine ⟨_, _, mirrors.write (.churn event) rfl, wellKeyed_mirrored keyed _, ?_, ?_, ?_, ?_⟩
  · rw [filterMap_untouched (by rfl)]
  · rw [filterMap_added StoreWrite.churn? rfl, List.map_append]
    rfl
  all_goals rw [filterMap_untouched (by rfl)]

theorem TablesHold.recordRouteEvent (hold : TablesHold texts store requests churn routes rows)
    (event : RouteEventRecord) :
    TablesHold texts (store.recordRouteEvent event) requests churn (routes ++ [event]) rows := by
  obtain ⟨writes, s, mirrors, keyed, rfl, rfl, rfl, rfl⟩ := hold
  refine ⟨_, _, mirrors.write (.routeEvent event) rfl, wellKeyed_mirrored keyed _, ?_, ?_, ?_, ?_⟩
  · rw [filterMap_untouched (by rfl)]
  · rw [filterMap_untouched (by rfl)]
  · exact filterMap_added StoreWrite.routeEvent? rfl
  · rw [filterMap_untouched (by rfl)]

theorem TablesHold.recordTtlObservation (hold : TablesHold texts store requests churn routes rows)
    (obs : TtlObservationRecord) :
    TablesHold texts (store.recordTtlObservation obs) requests churn routes (rows ++ [obs.unaged]) := by
  obtain ⟨writes, s, mirrors, keyed, rfl, rfl, rfl, rfl⟩ := hold
  refine ⟨_, _, mirrors.write (.ttlObservation obs) rfl, wellKeyed_mirrored keyed _, ?_, ?_, ?_, ?_⟩
  · rw [filterMap_untouched (by rfl)]
  · rw [filterMap_untouched (by rfl)]
  · rw [filterMap_untouched (by rfl)]
  · rw [filterMap_added StoreWrite.ttlObservation? rfl, List.map_append]
    rfl

theorem TablesHold.upsertProfile (hold : TablesHold texts store requests churn routes rows) (profile : ProfileRecord)
    (now : UtcTime) : TablesHold texts (store.upsertProfile profile now) requests churn routes rows := by
  obtain ⟨writes, s, mirrors, keyed, rfl, rfl, rfl, rfl⟩ := hold
  refine ⟨_, _, mirrors.write (.profile profile now) rfl, wellKeyed_mirrored keyed _, ?_, ?_, ?_, ?_⟩
  all_goals rw [filterMap_untouched (by rfl)]

/-- The row that the learner records of an observation, without what it makes of it. -/
def RecorderConfig.unagedRow (cfg : RecorderConfig B) (obs : ObservedOutcome) : TtlObservationRecord :=
  obs.row cfg.texts.prims.sha256 none false

/-- The learner adds the row of its observation, unless it writes nothing. -/
theorem TablesHold.feedTtlLearner (hold : TablesHold cfg.texts store requests churn routes rows)
    (obs : ObservedOutcome) (reach : LearnerReach) :
    TablesHold cfg.texts (cfg.feedTtlLearner store obs reach) requests churn routes
      (rows ++ (if reach = .nothing then [] else [cfg.unagedRow obs])) := by
  obtain ⟨writes, s, mirrors, -⟩ := id hold
  obtain ⟨row, made, unaged⟩ := mirrors.holding.learnedRow cfg.texts.prims.sha256 obs
  have recorded := hold.recordTtlObservation row
  rw [unaged] at recorded
  cases reach with
  | nothing =>
      rw [if_pos rfl, List.append_nil]
      exact hold
  | row =>
      rw [if_neg (by decide), RecorderConfig.feedTtlLearner, made, Option.elim_some]
      exact recorded
  | profile =>
      rw [if_neg (by decide), RecorderConfig.feedTtlLearner]
      rcases learn_writes cfg.texts.prims.sha256 store obs made with same | ⟨profile, same⟩
      · rw [same]
        exact recorded
      · rw [same]
        exact recorded.upsertProfile profile obs.timestamp

/-! ### One request -/

variable {step : RecordedStep}

/-- Recording a change of the cache identity adds the churn event of the step, or stops. -/
theorem TablesHold.recordStepChurn (hold : TablesHold cfg.texts store requests churn routes rows)
    (previousBody body : Option B) :
    (step.goesOn cfg = false ∧ step.churnEvent? cfg = none ∧
        cfg.recordChurn store (step.1.map RecordedRequest.event) step.2.event previousBody body
          step.2.reach.churnStored = none) ∨
      (step.goesOn cfg = true ∧ ∃ after,
        cfg.recordChurn store (step.1.map RecordedRequest.event) step.2.event previousBody body
          step.2.reach.churnStored = some after ∧
        TablesHold cfg.texts after requests (churn ++ (step.churnEvent? cfg).toList) routes rows) := by
  obtain ⟨previous, recorded⟩ := step
  cases previous with
  | none =>
      refine Or.inr ⟨by simp [RecordedStep.goesOn, RecordedStep.moved], store, rfl, ?_⟩
      simpa [RecordedStep.churnEvent?, RecordedStep.moved] using hold
  | some previous =>
      rw [Option.map_some, RecorderConfig.recordChurn]
      dsimp only
      by_cases still : previous.event.cacheFingerprint = recorded.event.cacheFingerprint ∨
          cfg.churnDetectionEnabled = false
      · have unmoved : (cfg.churnDetectionEnabled && RecordedStep.moved (some previous, recorded)) = false := by
          rw [Bool.and_eq_false_iff]
          rcases still with same | off
          · exact Or.inr (by simp [RecordedStep.moved, same])
          · exact Or.inl off
        rw [if_pos still]
        refine Or.inr ⟨by simp [RecordedStep.goesOn, unmoved], store, rfl, ?_⟩
        simpa [RecordedStep.churnEvent?, unmoved] using hold
      · have moves : (cfg.churnDetectionEnabled && RecordedStep.moved (some previous, recorded)) = true := by
          obtain ⟨differ, on⟩ := not_or.mp still
          simp [RecordedStep.moved, differ, on]
        rw [if_neg still]
        by_cases written : recorded.reach.churnStored = true
        · rw [if_pos written]
          refine Or.inr ⟨by simp [RecordedStep.goesOn, written], _, rfl, ?_⟩
          have added := hold.recordChurn
            (cfg.churnRecord previous.event recorded.event previousBody body)
          rw [RecordedStep.churnEvent?, moves, written]
          exact added
        · rw [if_neg written]
          rw [Bool.not_eq_true] at written
          refine Or.inl ⟨?_, ?_, rfl⟩
          · rw [RecordedStep.goesOn, moves, written]
            rfl
          · rw [RecordedStep.churnEvent?, written, Bool.and_false, if_neg Bool.false_ne_true]

/-- The route analysis adds the route event of a step that comes so far. -/
theorem TablesHold.runRouteIntel (hold : TablesHold cfg.texts store requests churn routes rows)
    (on : step.goesOn cfg = true) :
    TablesHold cfg.texts
      (cfg.runRouteIntel store (step.1.map RecordedRequest.event) step.2.event step.2.route step.2.reach.routeStored)
      requests churn (routes ++ (step.routeEvent? cfg).toList) rows := by
  obtain ⟨previous, recorded⟩ := step
  rw [RecordedStep.routeEvent?, on, Bool.true_and]
  cases previous with
  | none =>
      dsimp only
      rw [Option.map_none, Option.map_none, ite_self, Option.toList_none, List.append_nil]
      exact hold
  | some previous =>
      rw [Option.map_some, RecorderConfig.runRouteIntel, Option.map_some]
      dsimp only
      by_cases switches : cfg.routeIntelEnabled = true ∧ previous.event.routeHash ≠ recorded.event.routeHash ∧
          recorded.reach.routeStored = true
      · rw [if_pos switches, if_pos (by simp [RecordedStep.routeMoved, switches])]
        exact hold.recordRouteEvent _
      · rw [if_neg switches, if_neg (by simpa [RecordedStep.routeMoved, and_assoc] using switches), Option.toList_none,
          List.append_nil]
        exact hold

/-- A request whose event is written adds to the tables what its step says. -/
theorem TablesHold.record {x : Recorder B} (hold : TablesHold cfg.texts x.store requests churn routes rows)
    (step : RecordedStep)
    (known : x.previousEvent cfg step.2.event.sessionHash = some (step.1.map RecordedRequest.event))
    (stored : step.2.reach.requestStored = true) (body : Option B) :
    TablesHold cfg.texts (x.record cfg step.2.event step.2.obs step.2.route body step.2.reach).store
      (requests ++ [step.2.event]) (churn ++ (step.churnEvent? cfg).toList) (routes ++ (step.routeEvent? cfg).toList)
      (rows ++ ((step.learned? cfg).map cfg.unagedRow).toList) := by
  rw [Recorder.record, known]
  dsimp only
  rw [if_pos stored]
  rcases (hold.recordRequest step.2.event).recordStepChurn _ body with ⟨stops, none, found⟩ | ⟨on, after, found, held⟩
  · rw [found, none, RecordedStep.routeEvent?, RecordedStep.learned?, stops]
    simp only [Bool.false_and, Bool.false_eq_true, if_false, Option.map_none, Option.toList_none, List.append_nil]
    exact hold.recordRequest step.2.event
  · rw [found]
    have fed := (held.runRouteIntel on).feedTtlLearner step.2.obs step.2.reach.learner
    rw [RecordedStep.learned?, on, Bool.true_and]
    by_cases silent : step.2.reach.learner = .nothing
    · simpa [silent] using fed
    · simpa [silent] using fed

end Hold

/-! ### Whole runs -/

/-- The tables say of a past what its recorded requests say. -/
def TellsHistory (cfg : RecorderConfig B) (past : List (RecorderAction B)) (x : Recorder B) : Prop :=
  TablesHold cfg.texts x.store ((recordedOf cfg past).map RecordedRequest.event)
    ((stepsOf cfg past).filterMap (RecordedStep.churnEvent? cfg))
    ((stepsOf cfg past).filterMap (RecordedStep.routeEvent? cfg))
    (((stepsOf cfg past).filterMap (RecordedStep.learned? cfg)).map cfg.unagedRow)

/-- The last recorded request of a session is the last event that its query finds. -/
theorem TellsHistory.previousEvent {past : List (RecorderAction B)} {x : Recorder B}
    (tells : TellsHistory cfg past x) (recorded : RecordedRequest) :
    x.previousEvent cfg recorded.event.sessionHash =
      some ((previousOf (fun recorded => recorded.event.sessionHash) (recordedOf cfg past) recorded).map
        RecordedRequest.event) := by
  obtain ⟨writes, s, mirrors, -, requests, -⟩ := tells
  rw [previousOf]
  cases recorded.event.sessionHash with
  | none => rfl
  | some sessionHash =>
      have found := mirrors.holding.lastRecordForSession sessionHash
      have own : ∀ recorded : RecordedRequest, recorded.event.sessionHash =
          (fun recorded : RecordedRequest => recorded.event.sessionHash) recorded := fun _ => rfl
      rw [requests, lastFor_map RecordedRequest.event own] at found
      exact found

/-- The steps of a past with one more action. -/
theorem stepsOf_append (past : List (RecorderAction B)) (action : RecorderAction B) :
    stepsOf cfg (past ++ [action]) =
      stepsOf cfg past ++ ((action.recorded? cfg).map fun recorded =>
        (previousOf (fun recorded => recorded.event.sessionHash) (recordedOf cfg past) recorded, recorded)).toList := by
  rw [stepsOf, recordedOf_append, stepsOf]
  cases action.recorded? cfg with
  | none => rw [Option.toList_none, List.append_nil, Option.map_none, Option.toList_none, List.append_nil]
  | some recorded => rw [Option.toList_some, withPrevious_append, Option.map_some, Option.toList_some]

/-- The step that a recorded request makes. -/
def stepAfter (cfg : RecorderConfig B) (past : List (RecorderAction B)) (recorded : RecordedRequest) : RecordedStep :=
  (previousOf (fun recorded => recorded.event.sessionHash) (recordedOf cfg past) recorded, recorded)

/-- A request whose event is written adds its step to the history. -/
theorem TellsHistory.record {past : List (RecorderAction B)} {x : Recorder B} (tells : TellsHistory cfg past x)
    {action : RecorderAction B} (recorded : RecordedRequest) (made : action.recorded? cfg = some recorded)
    (stored : recorded.reach.requestStored = true) (body : Option B) :
    TellsHistory cfg (past ++ [action])
      (x.record cfg recorded.event recorded.obs recorded.route body recorded.reach) := by
  have held := TablesHold.record tells (stepAfter cfg past recorded) (tells.previousEvent recorded) stored body
  rw [TellsHistory, recordedOf_append, stepsOf_append, made, Option.map_some, Option.toList_some, Option.toList_some,
    List.map_append, filterMap_snoc, filterMap_snoc, filterMap_snoc, List.map_append]
  rw [Option.toList_map] at held
  exact held

/-- An action that writes no request event leaves the tables alone. -/
theorem recorderStep_unrecorded {action : RecorderAction B} (unrecorded : action.recorded? cfg = none)
    (x : Recorder B) : ∃ after, recorderStep cfg x action = some after ∧ after.store = x.store := by
  cases action with
  | restart => exact ⟨_, rfl, rfl⟩
  | observe request responseHeaders usage outcome now reach =>
      rw [recorderStep]
      rw [RecorderAction.recorded?] at unrecorded
      cases read : request.observe cfg.texts.prims cfg.text responseHeaders usage outcome now.seconds with
      | none => exact ⟨x, rfl, rfl⟩
      | some observed =>
          refine ⟨_, rfl, ?_⟩
          split at unrecorded
          · rw [read] at unrecorded
            cases unrecorded
          · rename_i unstored
            rw [Recorder.record]
            split
            · rfl
            · dsimp only
              rw [if_neg unstored]

/-- The event and the observation of a request have one fingerprint. -/
theorem observe_fingerprint {prims : TextPrimitives} {text : BodyText B} {request : PhysicalRequest B}
    {responseHeaders : List (String × String)} {usage : TokenUsage} {outcome : Outcome} {timestamp : ℚ}
    {observed : ObservedRequest}
    (read : request.observe prims text responseHeaders usage outcome timestamp = some observed) :
    observed.observation.cacheFingerprint = observed.event.cacheFingerprint := by
  unfold PhysicalRequest.observe at read
  split at read
  · cases read
    rfl
  · cases read

/-- An action that writes a request event records it, and feeds the learner with its fingerprint and its time. -/
theorem recorderStep_recorded {action : RecorderAction B} {recorded : RecordedRequest}
    (made : action.recorded? cfg = some recorded) (x : Recorder B) :
    recorded.reach.requestStored = true ∧ recorded.obs.cacheFingerprint = recorded.event.cacheFingerprint ∧
      recorded.obs.timestamp = recorded.event.timestamp ∧ ∃ body, recorderStep cfg x action =
        some (x.record cfg recorded.event recorded.obs recorded.route body recorded.reach) := by
  cases action with
  | restart => cases made
  | observe request responseHeaders usage outcome now reach =>
      rw [RecorderAction.recorded?] at made
      split at made
      · rename_i stored
        obtain ⟨observed, read, rfl⟩ := Option.map_eq_some_iff.mp made
        refine ⟨stored, observe_fingerprint read, rfl, some request.body, ?_⟩
        rw [recorderStep, read]
      · cases made

/-- Every step keeps the tables telling the history, and none is refused. -/
theorem tellsHistory_step {past : List (RecorderAction B)} {x : Recorder B} (tells : TellsHistory cfg past x)
    (action : RecorderAction B) :
    ∃ after, recorderStep cfg x action = some after ∧ TellsHistory cfg (past ++ [action]) after := by
  cases made : action.recorded? cfg with
  | none =>
      obtain ⟨after, stepped, same⟩ := recorderStep_unrecorded made x
      refine ⟨after, stepped, ?_⟩
      rw [TellsHistory, recordedOf_append, stepsOf_append, made, same, Option.map_none, Option.toList_none,
        Option.toList_none, List.append_nil, List.append_nil]
      exact tells
  | some recorded =>
      obtain ⟨stored, -, -, body, stepped⟩ := recorderStep_recorded made x
      exact ⟨_, stepped, tells.record recorded made stored body⟩

/-- Every past can be run, and the tables tell it. -/
theorem run_tellsHistory (cfg : RecorderConfig B) (past : List (RecorderAction B)) :
    ∃ x, Execution.exec (recorderStep cfg) {} past = some x ∧ TellsHistory cfg past x := by
  induction past using List.reverseRecOn with
  | nil => exact ⟨{}, rfl, tablesHold_empty cfg.texts⟩
  | append_singleton past action ih =>
      obtain ⟨x, run, tells⟩ := ih
      obtain ⟨after, step, told⟩ := tellsHistory_step tells action
      exact ⟨after, Execution.exec_snoc_eq_some.mpr ⟨x, run, step⟩, told⟩

/-- What is read of the newest rows, seen through a function, is what the newest records are. -/
theorem map_limited {α β γ : Type} {limit : ℤ} {read : Option (List α)} {part : α → β} {records : List β}
    {f : β → γ} {seen : List γ} (all : read.map (List.map part) = some (limited limit records.reverse))
    (known : records.map f = seen) :
    read.map (List.map fun row => f (part row)) = some (limited limit seen.reverse) := by
  obtain ⟨values, found, same⟩ := Option.map_eq_some_iff.mp all
  rw [found, ← known, ← List.map_reverse, limited_map, ← same, List.map_map]
  rfl

/-- The tables tell one history. Whatever requests the relay sees, whichever writes fail and whenever it starts again:
    the request events are those that were written; with each of them behind the last one of its session, the churn
    events are the moves of the cache identity and the route events the moves of the route, as far as recording came,
    each with the columns of its two request events; and the rows of the learner are those of the requests. -/
theorem tables_tell_history (cfg : RecorderConfig B) (past : List (RecorderAction B)) :
    ∃ x, Execution.exec (recorderStep cfg) {} past = some x ∧ ∀ limit,
      (x.store.recentEvents cfg.texts limit).map (List.map StoredRequestEvent.asRecord) =
          some (limited limit ((recordedOf cfg past).map RecordedRequest.event).reverse) ∧
        (x.store.churnList limit).map (List.map fun row => row.toChurnEventRecord.unclassified) =
          some (limited limit ((stepsOf cfg past).filterMap (RecordedStep.churnEvent? cfg)).reverse) ∧
        (x.store.recentRouteEvents limit).map (List.map StoredRouteEvent.toRouteEventRecord) =
          some (limited limit ((stepsOf cfg past).filterMap (RecordedStep.routeEvent? cfg)).reverse) ∧
        ∀ cacheFingerprint,
          (x.store.recentTtlObservations cacheFingerprint limit).map
              (List.map fun row => row.toTtlObservationRecord.unaged) =
            some (limited limit
              ((((stepsOf cfg past).filterMap (RecordedStep.learned? cfg)).filter fun obs =>
                obs.cacheFingerprint = cacheFingerprint).map cfg.unagedRow).reverse) := by
  obtain ⟨x, run, writes, s, mirrors, -, requests, churn, routes, rows⟩ := run_tellsHistory cfg past
  have back := mirrors.holding.readsBack
  refine ⟨x, run, fun limit => ⟨?_, map_limited (back.churn limit) churn, ?_, fun cacheFingerprint => ?_⟩⟩
  · obtain ⟨events, found, same⟩ := Option.map_eq_some_iff.mp (back.requests limit)
    have plain : events.map StoredRequestEvent.asRecord =
        (events.map StoredRequestEvent.unnumbered).map StoredRequestEvent.asRecord := by
      rw [List.map_map]
      rfl
    rw [found, Option.map_some, plain, same, List.map_map, ← requests]
    exact congrArg some (List.map_id'' (fun _ => rfl) _)
  · rw [← routes]
    exact back.routeEvents limit
  · have found := back.ttlObservations cacheFingerprint limit
    rw [List.filter_reverse] at found
    refine map_limited found ?_
    have keyed : ∀ obs : TtlObservationRecord, obs.unaged.cacheFingerprint = obs.cacheFingerprint := fun _ => rfl
    have filtered := congrArg (List.filter fun obs => obs.cacheFingerprint = cacheFingerprint) rows
    rw [List.filter_map, List.filter_map] at filtered
    exact filtered

/-! ### Moved requests -/

/-- What an unclean observation leaves of every profile. -/
theorem profileFor_learn_unclean (endpointHash : String → String) {s : TtlStore} {obs : TTLObservation}
    (keyed : s.WellKeyed) (unclean : s.cleanAge obs = none) (key : String) :
    ((s.learn endpointHash obs).1.profileFor key).map (fun p => (p.bounds, p.sampleCount)) =
      (s.profileFor key).map fun p => (p.bounds, p.sampleCount) := by
  rw [TtlStore.profileFor_learn keyed, TtlStore.rewritten, unclean]
  dsimp only
  split
  · rename_i own
    rw [own]
    split
    · cases s.profileFor (obs.profileKey endpointHash) <;> rfl
    · rw [Option.none_or]
  · rfl

section Touched

variable {s : TtlStore} {obs : ObservedOutcome} {event : ChurnEventRecord}
  (mirrors : Mirrors cfg.texts writes store s) (keyed : s.WellKeyed)
  (written : event ∈ writes.filterMap StoreWrite.churn?) (touched : event.newCacheFingerprint = obs.cacheFingerprint)
  (now : event.timestamp = obs.timestamp)
include mirrors written touched now

/-- The row of an observation at whose time the fingerprint was moved is not clean. -/
theorem learnedRow_of_touched :
    ∃ row, store.learnedRow cfg.texts.prims.sha256 obs = some row ∧ row.cacheFingerprint = obs.cacheFingerprint ∧
      row.timestamp = obs.timestamp ∧ row.clean = false := by
  obtain ⟨previous, last, -⟩ := mirrors.holding.lastTtlObservation obs.cacheFingerprint
  have found := mirrors.holding.cleanPair_of_touched written touched now previous
  refine ⟨obs.row cfg.texts.prims.sha256
    (previous.bind fun previous => obs.idleAgeSince previous.toTtlObservationRecord) false, ?_, rfl, rfl, rfl⟩
  rw [TelemetryStore.learnedRow, last]
  change (store.cleanPair obs previous).bind _ = _
  rw [found]
  rfl

/-- There is no clean age to feed. -/
theorem cleanAge_of_touched : s.cleanAge obs.toObservation = none := by
  obtain ⟨previous, -, last⟩ := mirrors.lastTtlObservation obs.cacheFingerprint
  have found := mirrors.cleanPair obs previous
  rw [mirrors.holding.cleanPair_of_touched written touched now previous, ← last] at found
  have clean := TtlStore.clean_eq s obs.toObservation
  rw [← Option.not_isSome_iff_eq_none, ← clean, Bool.not_eq_true]
  exact (Option.some.inj found).symm

include keyed

/-- The learner leaves the bounds and the sample counts alone, and the row that it records is not clean. -/
theorem feedTtlLearner_of_touched (reach : LearnerReach) :
    (∀ key, ∃ kept stays, store.profileFor key = some kept ∧
      (cfg.feedTtlLearner store obs reach).profileFor key = some stays ∧
      (stays.map fun p => (p.asProfile.bounds, p.sampleCount)) =
        kept.map fun p => (p.asProfile.bounds, p.sampleCount)) ∧
    (reach ≠ .nothing → ∃ row,
      (cfg.feedTtlLearner store obs reach).lastTtlObservation obs.cacheFingerprint = some (some row) ∧
        row.timestamp = obs.timestamp ∧ row.clean = false) := by
  obtain ⟨row, made, fingerprint, timestamp, unclean⟩ := learnedRow_of_touched mirrors written touched now
  have recorded := mirrors.write (.ttlObservation row) rfl
  have last : ∃ found, (store.recordTtlObservation row).lastTtlObservation obs.cacheFingerprint = some (some found) ∧
      found.timestamp = obs.timestamp ∧ found.clean = false := by
    obtain ⟨found, read, known⟩ := recorded.holding.lastTtlObservation obs.cacheFingerprint
    rw [filterMap_added StoreWrite.ttlObservation? rfl, lastFor_append, if_pos fingerprint,
      Option.map_eq_some_iff] at known
    obtain ⟨found, rfl, same⟩ := known
    refine ⟨found, read, ?_, ?_⟩
    · rw [same, timestamp]
    · rw [same, unclean]
  have unmoved : ∀ key, ∃ kept stays, store.profileFor key = some kept ∧ store.profileFor key = some stays ∧
      (stays.map fun p => (p.asProfile.bounds, p.sampleCount)) =
        kept.map fun p => (p.asProfile.bounds, p.sampleCount) := by
    intro key
    obtain ⟨kept, read, -⟩ := mirrors.profileFor key
    exact ⟨kept, kept, read, read, rfl⟩
  cases reach with
  | nothing => exact ⟨unmoved, fun silent => absurd rfl silent⟩
  | row =>
      rw [RecorderConfig.feedTtlLearner, made, Option.elim_some]
      exact ⟨unmoved, fun _ => last⟩
  | profile =>
      rw [RecorderConfig.feedTtlLearner]
      constructor
      · intro key
        obtain ⟨more, learned, -⟩ := learn_mirrors cfg.texts.prims.sha256 mirrors obs
        obtain ⟨kept, read, above⟩ := mirrors.profileFor key
        obtain ⟨stays, readAfter, aboveAfter⟩ := learned.profileFor key
        have same := profileFor_learn_unclean cfg.texts.prims.sha256 keyed
          (cleanAge_of_touched mirrors written touched now) key
        rw [above, aboveAfter, Option.map_map, Option.map_map] at same
        exact ⟨kept, stays, read, readAfter, same⟩
      · intro _
        rcases learn_writes cfg.texts.prims.sha256 store obs made with same | ⟨profile, same⟩
        · rw [same]
          exact last
        · rw [same]
          exact last

end Touched

/-- The route analysis adds nothing but a route event. -/
theorem Mirrors.runRouteIntel {s : TtlStore} (mirrors : Mirrors cfg.texts writes store s)
    (previous : Option RequestEventRecord) (event : RequestEventRecord) (route : RouteIdentity) (routeStored : Bool) :
    (∃ more, Mirrors cfg.texts (writes ++ more) (cfg.runRouteIntel store previous event route routeStored) s) ∧
      (cfg.runRouteIntel store previous event route routeStored).profileFor = store.profileFor := by
  have same : ∃ more, Mirrors cfg.texts (writes ++ more) store s := ⟨[], by rwa [List.append_nil]⟩
  cases previous with
  | none => exact ⟨same, rfl⟩
  | some previous =>
      rw [RecorderConfig.runRouteIntel]
      split
      · exact ⟨⟨_, mirrors.write (.routeEvent _) rfl⟩, rfl⟩
      · exact ⟨same, rfl⟩

/-- A request that moved the cache identity of its session teaches nothing, when churn detection is on: the bounds and
    the sample count of every profile stay, and a row that is recorded of it is not clean. -/
theorem moved_requests_teach_nothing (cfg : RecorderConfig B) (past : List (RecorderAction B))
    (action : RecorderAction B) (recorded : RecordedRequest) (made : action.recorded? cfg = some recorded)
    (moved : (stepAfter cfg past recorded).moved = true) (on : cfg.churnDetectionEnabled = true) :
    ∃ x after, Execution.exec (recorderStep cfg) {} past = some x ∧ recorderStep cfg x action = some after ∧
      (∀ key, ∃ kept stays, x.store.profileFor key = some kept ∧ after.store.profileFor key = some stays ∧
        (stays.map fun p => (p.asProfile.bounds, p.sampleCount)) =
          kept.map fun p => (p.asProfile.bounds, p.sampleCount)) ∧
      ((stepAfter cfg past recorded).learned? cfg = some recorded.obs →
        ∃ row, after.store.lastTtlObservation recorded.event.cacheFingerprint = some (some row) ∧
          row.timestamp = recorded.event.timestamp ∧ row.clean = false) := by
  obtain ⟨x, run, tells⟩ := run_tellsHistory cfg past
  obtain ⟨stored, fingerprint, now, body, stepped⟩ := recorderStep_recorded made x
  refine ⟨x, _, run, stepped, ?_⟩
  have known := tells.previousEvent recorded
  obtain ⟨writes, s, mirrors, keyed, -⟩ := tells
  obtain ⟨previous, found, differ⟩ := (Option.any_eq_true _ _).mp moved
  have last : previousOf (fun recorded => recorded.event.sessionHash) (recordedOf cfg past) recorded = some previous :=
    found
  rw [last, Option.map_some] at known
  have changes : ¬(previous.event.cacheFingerprint = recorded.event.cacheFingerprint ∨
      cfg.churnDetectionEnabled = false) := by
    rw [on]
    exact not_or.mpr ⟨of_decide_eq_true differ, Bool.noConfusion⟩
  rw [Recorder.record, known]
  dsimp only
  rw [if_pos stored, RecorderConfig.recordChurn, if_neg changes]
  have requested := mirrors.write (.request recorded.event) rfl
  by_cases written : recorded.reach.churnStored = true
  · rw [if_pos written]
    dsimp only
    generalize
      (RequestObserver.rememberBody cfg.observer { lastBody := x.lastBody } recorded.event.sessionHash body).1 =
        previousBody
    have churned := requested.write (.churn (cfg.churnRecord previous.event recorded.event previousBody body)) rfl
    obtain ⟨⟨more, analysed⟩, unprofiled⟩ :=
      churned.runRouteIntel (some previous.event) recorded.event recorded.route recorded.reach.routeStored
    have listed : cfg.churnRecord previous.event recorded.event previousBody body ∈
        (writes ++ [StoreWrite.request recorded.event] ++
            [StoreWrite.churn (cfg.churnRecord previous.event recorded.event previousBody body)] ++ more).filterMap
          StoreWrite.churn? := by
      rw [List.filterMap_append, filterMap_added StoreWrite.churn? rfl]
      exact List.mem_append_left _ (List.mem_append_right _ List.mem_cons_self)
    obtain ⟨profiles, unclean⟩ := feedTtlLearner_of_touched analysed
      (wellKeyed_mirrored (wellKeyed_mirrored keyed _) _) listed (Eq.symm fingerprint) (Eq.symm now)
      recorded.reach.learner
    rw [unprofiled] at profiles
    rw [fingerprint, now] at unclean
    refine ⟨profiles, fun rowed => unclean fun silent => ?_⟩
    rw [RecordedStep.learned?] at rowed
    have reached : (stepAfter cfg past recorded).2.reach.learner = .nothing := silent
    rw [reached, decide_eq_false fun loud => loud rfl, Bool.and_false, if_neg Bool.false_ne_true] at rowed
    cases rowed
  · rw [if_neg written]
    refine ⟨fun key => ?_, fun rowed => ?_⟩
    · obtain ⟨kept, read, -⟩ := mirrors.profileFor key
      exact ⟨kept, kept, read, read, rfl⟩
    · have stops : (stepAfter cfg past recorded).goesOn cfg = false := by
        have unwritten : (stepAfter cfg past recorded).2.reach.churnStored = false := Bool.not_eq_true _ ▸ written
        rw [RecordedStep.goesOn, on, moved, unwritten]
        rfl
      rw [RecordedStep.learned?, stops, Bool.false_and, if_neg Bool.false_ne_true] at rowed
      cases rowed

/-! ### Samples -/

/-- A digest of a sample shows its text. -/
def sampleShownPrimitives : TextPrimitives :=
  { sampleStoragePrimitives with sha256 := fun text => "#" ++ text }

theorem read_sampleShownFloat (value : ℚ) :
    some (readRatio (sampleShownPrimitives.floatRepr value).toList) = some value :=
  read_sampleFloat value

/-- The observer of a sample, over the bodies of the samples of the classifier. -/
def sampleRecorder : RecorderConfig (List (String × Json) × ℕ) where
  texts :=
    { prims := sampleShownPrimitives
      decimalText := sampleStorageTexts.decimalText
      readDecimal := sampleStorageTexts.readDecimal
      read_decimalText := read_sampleDecimal
      read_floatRepr := read_sampleShownFloat }
  patterns := noPatterns
  text := churnConfig.text
  bytes := churnConfig.bytes

/-- A request of a sample, all of whose writes succeed. -/
def sampleAskedWith (system : String) : RecorderAction (List (String × Json) × ℕ) :=
  .observe (churnRequest system 100) [] {} .successUnverified sampleTime {}

theorem sampleAskedWith_systemHash :
    ((sampleAskedWith "a").recorded? sampleRecorder).map (fun recorded => recorded.event.systemHash) =
        some (some "#a") ∧
      ((sampleAskedWith "b").recorded? sampleRecorder).map (fun recorded => recorded.event.systemHash) =
        some (some "#b") := by
  decide +kernel

/-- What a recorded request of a sample says of its session, its identity and its system prompt. -/
theorem recorded_sampleAskedWith {system : String} {recorded : RecordedRequest}
    (made : (sampleAskedWith system).recorded? sampleRecorder = some recorded) :
    recorded.event.sessionHash = some "#s" ∧ ∃ c : CanonicalRequest,
      recorded.event.cacheFingerprint = cacheFingerprint sampleShownPrimitives c ∧
        recorded.event.systemHash = some c.systemHash := by
  rw [RecorderAction.recorded?.eq_def, sampleAskedWith] at made
  dsimp only at made
  rw [if_pos rfl] at made
  obtain ⟨observed, read, rfl⟩ := Option.map_eq_some_iff.mp made
  exact event_of_observe read

/-- A session whose system prompt changes: the second request teaches nothing. -/
theorem moved_requests_teach_nothing_sample :
    ∃ recorded x after, (sampleAskedWith "b").recorded? sampleRecorder = some recorded ∧
      Execution.exec (recorderStep sampleRecorder) {} [sampleAskedWith "a"] = some x ∧
      recorderStep sampleRecorder x (sampleAskedWith "b") = some after ∧
      ((stepAfter sampleRecorder [sampleAskedWith "a"] recorded).learned? sampleRecorder = some recorded.obs →
        ∃ row, after.store.lastTtlObservation recorded.event.cacheFingerprint = some (some row) ∧
          row.timestamp = recorded.event.timestamp ∧ row.clean = false) := by
  obtain ⟨first, madeFirst, systemA⟩ := Option.map_eq_some_iff.mp sampleAskedWith_systemHash.1
  obtain ⟨second, madeSecond, systemB⟩ := Option.map_eq_some_iff.mp sampleAskedWith_systemHash.2
  have moved : (stepAfter sampleRecorder [sampleAskedWith "a"] second).moved = true := by
    obtain ⟨sessionA, c, fingerprintA, promptA⟩ := recorded_sampleAskedWith madeFirst
    obtain ⟨sessionB, c', fingerprintB, promptB⟩ := recorded_sampleAskedWith madeSecond
    have differ : first.event.cacheFingerprint ≠ second.event.cacheFingerprint := by
      intro same
      rw [fingerprintA, fingerprintB] at same
      have identities := CacheIdentity.eq_of_canonicalJson (String.append_right_inj "#" |>.1 same)
      have prompts : first.event.systemHash = second.event.systemHash := by rw [promptA, promptB, identities]
      rw [systemA, systemB] at prompts
      exact absurd prompts (by decide)
    have previous : (stepAfter sampleRecorder [sampleAskedWith "a"] second).1 = some first := by
      have one : recordedOf sampleRecorder [sampleAskedWith "a"] = [first] := by
        rw [recordedOf, List.filterMap_cons_some madeFirst, List.filterMap_nil]
      rw [stepAfter, one]
      simp [previousOf, lastFor, sessionA, sessionB]
    rw [RecordedStep.moved, previous]
    exact decide_eq_true differ
  obtain ⟨x, after, run, stepped, -, unclean⟩ :=
    moved_requests_teach_nothing sampleRecorder [sampleAskedWith "a"] (sampleAskedWith "b") second madeSecond moved rfl
  exact ⟨second, x, after, madeSecond, run, stepped, unclean⟩

end CachePilot
