/-
Module: CachePilot.Proofs.StoreReports
Layer: Proofs
Purpose: The reports of the store agree with the records that were written, and with each other: every request counts
  for one outcome and for one provider, the cost of a provider is the sum of what was recorded of it, and nothing when
  nothing was. Over the runs of the observer they count its history; both tables of switches count the same ones.
Trusted boundary: none
Main exports: healthOf, recordedCost, summaryOf, routeStatsOf, Holding.aggregates, Holding.providerSummary,
  Holding.costTotals, Holding.routeIntelStats, reports_tell_history, RecordsSwitches, switches_counted_alike
-/
import CachePilot.Core.StoreQueries
import CachePilot.Proofs.RecordedHistory
import CachePilot.Proofs.SurvivalCurves

namespace CachePilot

open SqlTable

/-! ### What the reports say of records -/

/-- The health of the cache, as the request events and the churn events say it. -/
def healthOf (requests : List RequestEventRecord) (churn : List ChurnEventRecord) : CacheHealthStats :=
  { CacheHealthStats.fromOutcomes (requests.map RequestEventRecord.outcome) with
    churnEvents := churn.length
    routeChanges := churn.countP fun churn => churn.flags.routeChanged }

/-- What the requests of a provider are recorded to have cost; none when no cost is recorded. -/
def recordedCost (requests : List RequestEventRecord) (provider : String) : Option ℚ :=
  let costs := (requests.filter fun event => event.provider = provider).filterMap fun event => event.usage.cost
  if costs = [] then none else some costs.sum

/-- The requests and the recorded cost of every provider. -/
def summaryOf (requests : List RequestEventRecord) : List ProviderSummary :=
  (sortedTexts (requests.map RequestEventRecord.provider).toFinset).map fun provider =>
    { provider
      requests := requests.countP fun event => event.provider = provider
      recordedCostUsd := recordedCost requests provider }

/-- The route switches, as the route events say them. -/
def routeStatsOf (routes : List RouteEventRecord) : RouteIntelStats where
  routeSwitches := routes.length
  instabilityVerdicts := routes.countP fun event => event.verdict = .routeInstability
  shortTtlVerdicts := routes.countP fun event => event.verdict = .shortTtl
  lastSwitchAt := routes.getLast?.map RouteEventRecord.timestamp

/-! ### Counting outcomes -/

namespace CacheHealthStats

/-- What a list of outcomes adds to each counter. -/
theorem foldl_record (outcomes : List Outcome) (stats : CacheHealthStats) :
    outcomes.foldl record stats =
      { stats with
        total := stats.total + outcomes.length
        confirmedHits := stats.confirmedHits + outcomes.count .confirmedHit
        misses := stats.misses + outcomes.count .missRebuilt
        unverified := stats.unverified + outcomes.count .successUnverified
        failed := stats.failed + outcomes.count .failed } := by
  induction outcomes generalizing stats with
  | nil => rfl
  | cons outcome rest ih =>
      rw [List.foldl_cons, ih]
      cases outcome <;> simp [record, Nat.add_assoc, Nat.add_comm 1]

theorem fromOutcomes_eq (outcomes : List Outcome) :
    fromOutcomes outcomes =
      { total := outcomes.length
        confirmedHits := outcomes.count .confirmedHit
        misses := outcomes.count .missRebuilt
        unverified := outcomes.count .successUnverified
        failed := outcomes.count .failed } := by
  rw [fromOutcomes, foldl_record]
  simp

/-- Every outcome is counted once. -/
theorem total_fromOutcomes (outcomes : List Outcome) :
    (fromOutcomes outcomes).total =
      (fromOutcomes outcomes).confirmedHits + (fromOutcomes outcomes).misses + (fromOutcomes outcomes).unverified +
        (fromOutcomes outcomes).failed := by
  rw [fromOutcomes_eq]
  induction outcomes with
  | nil => rfl
  | cons outcome rest ih =>
      dsimp only at ih ⊢
      cases outcome <;> simp [ih] <;> omega

end CacheHealthStats

/-! ### Counting rows -/

variable {texts : StorageTexts} {writes : List StoreWrite} {store : TelemetryStore}

theorem requestRow_outcome (id : ℕ) (event : RequestEventRecord) :
    SqlRow.column (insertedRow id requestInsertColumns (requestValues texts event)) "outcome" =
      .text event.outcome.value := by
  simp [insertedRow, requestInsertColumns, requestValues, SqlRow.column, List.lookup_cons]

theorem requestRow_provider (id : ℕ) (event : RequestEventRecord) :
    SqlRow.column (insertedRow id requestInsertColumns (requestValues texts event)) "provider" =
      .text event.provider := by
  simp [insertedRow, requestInsertColumns, requestValues, SqlRow.column, List.lookup_cons]

theorem requestRow_costUsd (id : ℕ) (event : RequestEventRecord) :
    SqlRow.column (insertedRow id requestInsertColumns (requestValues texts event)) "cost_usd" =
      texts.ofDecimal event.usage.cost := by
  simp [insertedRow, requestInsertColumns, requestValues, SqlRow.column, List.lookup_cons]

theorem churnRow_routeChanged (id : ℕ) (churn : ChurnEventRecord) :
    SqlRow.column (insertedRow id churnInsertColumns (churnValues churn)) "route_changed" =
      .ofFlag churn.flags.routeChanged := by
  simp [insertedRow, churnInsertColumns, churnValues, SqlRow.column, List.lookup_cons]

theorem routeRow_verdict (id : ℕ) (event : RouteEventRecord) :
    SqlRow.column (insertedRow id routeInsertColumns (routeValues event)) "verdict" = .text event.verdict.value := by
  simp [insertedRow, routeInsertColumns, routeValues, SqlRow.column, List.lookup_cons]

theorem routeRow_timestamp (id : ℕ) (event : RouteEventRecord) :
    SqlRow.column (insertedRow id routeInsertColumns (routeValues event)) "timestamp" = .ofTime event.timestamp := by
  simp [insertedRow, routeInsertColumns, routeValues, SqlRow.column, List.lookup_cons]

/-- The rows with the stored name of an outcome are those of the requests that ended so. -/
theorem Holding.countOutcome (holding : Holding texts writes store) (outcome : Outcome) :
    store.requestEvents.countWhere "outcome" (.text outcome.value) =
      ((writes.filterMap StoreWrite.request?).map RequestEventRecord.outcome).count outcome := by
  rw [holding.requests.countWhere requestRow_outcome, List.count, List.countP_map]
  refine List.countP_congr fun event _ => ?_
  have named : event.outcome.value = outcome.value ↔ event.outcome = outcome :=
    ⟨outcome_value_injective, congrArg Outcome.value⟩
  simp [named]

/-- The health report counts what was written. -/
theorem Holding.aggregates (holding : Holding texts writes store) :
    store.aggregates = healthOf (writes.filterMap StoreWrite.request?) (writes.filterMap StoreWrite.churn?) := by
  have switches : store.churnEvents.countWhere "route_changed" (.integer 1) =
      (writes.filterMap StoreWrite.churn?).countP fun churn => churn.flags.routeChanged := by
    rw [holding.churn.countWhere churnRow_routeChanged]
    refine List.countP_congr fun churn _ => ?_
    cases churn.flags.routeChanged <;> simp [SqlValue.ofFlag]
  rw [TelemetryStore.aggregates, healthOf, CacheHealthStats.fromOutcomes_eq, holding.requests.length_rows,
    holding.churn.length_rows, switches, holding.countOutcome, holding.countOutcome, holding.countOutcome,
    holding.countOutcome, List.length_map]

/-! ### Providers and costs -/

/-- The providers are those of the requests, in order. -/
theorem Holding.providers (holding : Holding texts writes store) :
    store.providers =
      sortedTexts ((writes.filterMap StoreWrite.request?).map RequestEventRecord.provider).toFinset := by
  have read : ∀ id event,
      (SqlRow.column (insertedRow id requestInsertColumns (requestValues texts event)) "provider").text? =
        some event.provider := by
    intro id event
    rw [requestRow_provider, SqlValue.text?_text]
  rw [TelemetryStore.providers, holding.requests.filterMap_rows read, List.filterMap_eq_map']

theorem ofDecimal_eq_null_iff (value : Option ℚ) : texts.ofDecimal value = .null ↔ value = none := by
  cases value with
  | none => exact iff_of_true rfl rfl
  | some value => exact iff_of_false SqlValue.noConfusion (Option.some_ne_none value)

/-- The cost of each row of a provider that has one. -/
theorem Holding.costs (holding : Holding texts writes store) (provider : String) :
    (store.costRows provider).map (fun row => (texts.textToDecimal (row.column "cost_usd")).getD 0) =
      ((writes.filterMap StoreWrite.request?).filter fun event => event.provider = provider).filterMap
        fun event => event.usage.cost := by
  rw [TelemetryStore.costRows, ← List.filterMap_eq_map, List.filterMap_filter, List.filterMap_filter]
  refine holding.requests.filterMap_rows fun id event => ?_
  dsimp only [Function.comp_apply]
  rw [requestRow_provider, requestRow_costUsd, StorageTexts.textToDecimal_ofDecimal]
  cases cost : event.usage.cost with
  | none => simp [ofDecimal_eq_null_iff]
  | some value => simp [ofDecimal_eq_null_iff]

/-- The summary of the providers is that of the requests. -/
theorem Holding.providerSummary (holding : Holding texts writes store) :
    store.providerSummary texts = summaryOf (writes.filterMap StoreWrite.request?) := by
  rw [TelemetryStore.providerSummary, summaryOf, holding.providers]
  refine List.map_congr_left fun provider _ => ?_
  have requests := holding.requests.countWhere requestRow_provider (.text provider)
  have costs := holding.costs provider
  have empty : store.costRows provider = [] ↔
      ((writes.filterMap StoreWrite.request?).filter fun event => event.provider = provider).filterMap
        (fun event => event.usage.cost) = [] := by
    rw [← costs, List.map_eq_nil_iff]
  dsimp only
  rw [requests, costs, recordedCost]
  simp only [empty, SqlValue.text.injEq]

/-- One request more. -/
theorem recordedCost_append (requests : List RequestEventRecord) (event : RequestEventRecord) (provider : String) :
    recordedCost (requests ++ [event]) provider =
      match event.usage.cost with
      | none => recordedCost requests provider
      | some cost =>
          if provider = event.provider then some ((recordedCost requests provider).getD 0 + cost)
          else recordedCost requests provider := by
  have added : (requests ++ [event]).filter (fun event => event.provider = provider) =
        requests.filter (fun event => event.provider = provider) ++
          if provider = event.provider then [event] else [] := by
    rw [List.filter_append]
    by_cases own : provider = event.provider
    · simp [own]
    · simp [own, Ne.symm own]
  rw [recordedCost, added, recordedCost]
  generalize requests.filter (fun event => event.provider = provider) = listed
  cases cost : event.usage.cost with
  | none => split <;> simp [cost]
  | some value =>
      split
      · by_cases none : listed.filterMap (fun event => event.usage.cost) = []
        · simp [cost, none]
        · simp [cost, none]
      · simp

/-- The totals hold the recorded cost of every provider, and of those only that have one. -/
theorem Holding.costTotals (holding : Holding texts writes store) (provider : String) :
    (store.costTotals texts).get? provider = recordedCost (writes.filterMap StoreWrite.request?) provider := by
  let add (totals : Dict String ℚ) (event : RequestEventRecord) : Dict String ℚ :=
    event.usage.cost.elim totals fun cost => totals.set event.provider ((totals.get? event.provider).getD 0 + cost)
  have rows : store.costTotals texts = (writes.filterMap StoreWrite.request?).foldl add ∅ := by
    rw [TelemetryStore.costTotals, List.foldl_filter]
    refine holding.requests.foldl_rows (fun totals id event => ?_) ∅
    rw [TelemetryStore.addCost, requestRow_provider, requestRow_costUsd, StorageTexts.textToDecimal_ofDecimal,
      SqlValue.text?_text]
    cases cost : event.usage.cost with
    | none => simp [add, cost]
    | some value => simp [add, cost, ofDecimal_eq_null_iff]
  rw [rows]
  generalize writes.filterMap StoreWrite.request? = requests
  induction requests using List.reverseRecOn with
  | nil => rfl
  | append_singleton requests event ih =>
      rw [List.foldl_append, List.foldl_cons, List.foldl_nil, recordedCost_append, ← ih]
      cases cost : event.usage.cost with
      | none => simp [add, cost]
      | some value =>
          simp only [add, cost, Option.elim_some, Dict.get?_set]
          split
          · rename_i own
            rw [own]
          · rfl

/-- Every request is counted with one provider. -/
theorem sum_summaryOf (requests : List RequestEventRecord) :
    ((summaryOf requests).map ProviderSummary.requests).sum = requests.length := by
  have listed : (sortedTexts (requests.map RequestEventRecord.provider).toFinset).Perm
      (requests.map RequestEventRecord.provider).dedup := by
    refine List.perm_of_nodup_nodup_toFinset_eq (Finset.sort_nodup _ _) (List.nodup_dedup _) ?_
    rw [sortedTexts, Finset.sort_toFinset]
    exact Finset.ext fun provider => by rw [List.mem_toFinset, List.mem_toFinset, List.mem_dedup]
  have counted : ∀ provider, (requests.countP fun event => event.provider = provider) =
      (requests.map RequestEventRecord.provider).count provider := by
    intro provider
    rw [List.count, List.countP_map]
    refine List.countP_congr fun event _ => ?_
    simp
  rw [summaryOf, List.map_map]
  calc
    ((sortedTexts (requests.map RequestEventRecord.provider).toFinset).map fun provider =>
          requests.countP fun event => event.provider = provider).sum
        = ((requests.map RequestEventRecord.provider).dedup.map fun provider =>
            (requests.map RequestEventRecord.provider).count provider).sum := by
          simp only [counted]
          exact (listed.map _).sum_eq
    _ = (requests.map RequestEventRecord.provider).length := List.sum_map_count_dedup_eq_length _
    _ = requests.length := List.length_map _

/-! ### Route switches -/

theorem verdict_value_injective : Function.Injective RouteMissVerdict.value := by
  intro a b same
  cases a <;> cases b <;> first | rfl | exact absurd same (by decide)

theorem Holding.countVerdict (holding : Holding texts writes store) (verdict : RouteMissVerdict) :
    store.routeEvents.countWhere "verdict" (.text verdict.value) =
      (writes.filterMap StoreWrite.routeEvent?).countP fun event => event.verdict = verdict := by
  rw [holding.routeEvents.countWhere routeRow_verdict]
  refine List.countP_congr fun event _ => ?_
  simp [verdict_value_injective.eq_iff]

/-- The report of the route switches counts what was written. -/
theorem Holding.routeIntelStats (holding : Holding texts writes store) :
    store.routeIntelStats = some (routeStatsOf (writes.filterMap StoreWrite.routeEvent?)) := by
  obtain ⟨entry, last, event⟩ := holding.routeEvents.getLast_rows
  rw [TelemetryStore.routeIntelStats, last, routeStatsOf, event, holding.countVerdict, holding.countVerdict,
    holding.routeEvents.length_rows]
  cases entry with
  | none => rfl
  | some entry =>
      dsimp only [Option.map_some]
      rw [routeRow_timestamp, SqlValue.time?_ofTime]
      rfl

/-! ### The reports of a run -/

variable {B : Type} {cfg : RecorderConfig B} {past : List (RecorderAction B)}

/-- The health says nothing of a classification. -/
theorem healthOf_unclassified (requests : List RequestEventRecord) (churn : List ChurnEventRecord) :
    healthOf requests (churn.map ChurnEventRecord.unclassified) = healthOf requests churn := by
  rw [healthOf, healthOf, List.length_map, List.countP_map]
  rfl

/-- A switch of the route is never counted as a short TTL. -/
theorem routeEvent_not_shortTtl {step : RecordedStep} {event : RouteEventRecord}
    (recorded : step.routeEvent? cfg = some event) : event.verdict ≠ .shortTtl := by
  rw [RecordedStep.routeEvent?] at recorded
  split at recorded
  · rename_i reaches
    obtain ⟨previous, before, rfl⟩ := Option.map_eq_some_iff.mp recorded
    simp only [Bool.and_eq_true, RecordedStep.routeMoved, before, Option.any_some, decide_eq_true_eq] at reaches
    change RouterMissClassifier.classify _ _ _ _ _ ≠ _
    rw [RouterMissClassifier.classify, if_pos reaches.1.2]
    split <;> exact RouteMissVerdict.noConfusion
  · cases recorded

/-- The reports of a run say of its history what was recorded of it. Every request is counted for one outcome and for
    one provider, no provider has a recorded cost without one, and no switch of the route counts as a short TTL. -/
theorem reports_tell_history (cfg : RecorderConfig B) (past : List (RecorderAction B)) :
    ∃ x stats, Execution.exec (recorderStep cfg) {} past = some x ∧ x.store.routeIntelStats = some stats ∧
      x.store.aggregates = healthOf ((recordedOf cfg past).map RecordedRequest.event)
        ((stepsOf cfg past).filterMap (RecordedStep.churnEvent? cfg)) ∧
      x.store.providerSummary cfg.texts = summaryOf ((recordedOf cfg past).map RecordedRequest.event) ∧
      (∀ provider, (x.store.costTotals cfg.texts).get? provider =
        recordedCost ((recordedOf cfg past).map RecordedRequest.event) provider) ∧
      stats = routeStatsOf ((stepsOf cfg past).filterMap (RecordedStep.routeEvent? cfg)) ∧
      x.store.aggregates.total = x.store.aggregates.confirmedHits + x.store.aggregates.misses +
        x.store.aggregates.unverified + x.store.aggregates.failed ∧
      ((x.store.providerSummary cfg.texts).map ProviderSummary.requests).sum = x.store.aggregates.total ∧
      stats.shortTtlVerdicts = 0 := by
  obtain ⟨x, run, writes, s, mirrors, -, requests, churn, routes, -⟩ := run_tellsHistory cfg past
  have holding := mirrors.holding
  have health : x.store.aggregates = healthOf ((recordedOf cfg past).map RecordedRequest.event)
      ((stepsOf cfg past).filterMap (RecordedStep.churnEvent? cfg)) := by
    rw [holding.aggregates, requests, ← churn, healthOf_unclassified]
  have summary := holding.providerSummary
  have switches := holding.routeIntelStats
  rw [requests] at summary
  rw [routes] at switches
  refine ⟨x, _, run, switches, health, summary, fun provider => ?_, rfl, ?_, ?_, ?_⟩
  · rw [holding.costTotals, requests]
  · rw [health]
    exact CacheHealthStats.total_fromOutcomes _
  · rw [summary, sum_summaryOf, health, healthOf, CacheHealthStats.fromOutcomes_eq]
    simp
  · refine List.countP_eq_zero.mpr fun event listed => ?_
    obtain ⟨step, -, recorded⟩ := List.mem_filterMap.mp listed
    simpa using routeEvent_not_shortTtl recorded

/-! ### Two tables of switches -/

/-- The routes of two recorded requests are the same when their cache identities are, without collisions. -/
theorem route_of_fingerprint (collisionFree : Function.Injective cfg.texts.prims.sha256)
    {recorded other : RecordedRequest} (listed : recorded ∈ recordedOf cfg past) (listed' : other ∈ recordedOf cfg past)
    (same : recorded.event.cacheFingerprint = other.event.cacheFingerprint) :
    recorded.event.routeHash = other.event.routeHash := by
  have routed : ∀ recorded ∈ recordedOf cfg past, ∃ c : CanonicalRequest,
      recorded.event.cacheFingerprint = cacheFingerprint cfg.texts.prims c ∧ recorded.event.routeHash = c.route := by
    intro recorded listed
    obtain ⟨action, -, made⟩ := List.mem_filterMap.mp listed
    cases action with
    | restart => cases made
    | observe request responseHeaders usage outcome now reach =>
        rw [RecorderAction.recorded?] at made
        split at made
        · obtain ⟨observed, read, rfl⟩ := Option.map_eq_some_iff.mp made
          unfold PhysicalRequest.observe at read
          split at read
          · rename_i c historyHash accepted _
            obtain ⟨messages, -, system, -, built⟩ := canonicalOfPayload_spec accepted
            cases read
            exact ⟨c, rfl, built.route.symm⟩
          · cases read
        · cases made
  obtain ⟨c, fingerprint, route⟩ := routed recorded listed
  obtain ⟨c', fingerprint', route'⟩ := routed other listed'
  rw [fingerprint, fingerprint'] at same
  have identities := CacheIdentity.eq_of_canonicalJson (collisionFree same)
  rw [route, route', identities]

/-- Churn detection and route intelligence are on, and what they record can be written. -/
structure RecordsSwitches (cfg : RecorderConfig B) (past : List (RecorderAction B)) : Prop where
  churnDetection : cfg.churnDetectionEnabled = true
  routeIntel : cfg.routeIntelEnabled = true
  churnStored : ∀ recorded ∈ recordedOf cfg past, recorded.reach.churnStored = true
  routeStored : ∀ recorded ∈ recordedOf cfg past, recorded.reach.routeStored = true

/-- A step counts as a switch in one table when it does in the other. -/
theorem RecordsSwitches.step (records : RecordsSwitches cfg past)
    (collisionFree : Function.Injective cfg.texts.prims.sha256) {step : RecordedStep}
    (listed : step ∈ stepsOf cfg past) :
    (((step.churnEvent? cfg).map fun churn => churn.flags.routeChanged).getD false) =
      (step.routeEvent? cfg).isSome := by
  obtain ⟨previous, recorded⟩ := step
  cases previous with
  | none => simp [RecordedStep.churnEvent?, RecordedStep.routeEvent?]
  | some previous =>
      obtain ⟨earlier, own⟩ := KeyedLog.mem_of_withPrevious listed
      have moves : previous.event.routeHash ≠ recorded.event.routeHash →
          previous.event.cacheFingerprint ≠ recorded.event.cacheFingerprint :=
        mt (route_of_fingerprint collisionFree earlier own)
      by_cases still : previous.event.cacheFingerprint = recorded.event.cacheFingerprint
      · have unrouted := not_not.mp (mt moves (not_not.mpr still))
        simp [RecordedStep.churnEvent?, RecordedStep.routeEvent?, RecordedStep.moved, RecordedStep.routeMoved, still,
          unrouted]
      · by_cases unrouted : previous.event.routeHash = recorded.event.routeHash
        all_goals
          simp [RecordedStep.churnEvent?, RecordedStep.routeEvent?, RecordedStep.moved, RecordedStep.routeMoved,
            RecordedStep.goesOn, still, unrouted, records.churnDetection, records.routeIntel,
            records.churnStored recorded own, records.routeStored recorded own, transitionOf, churnFlags,
            RequestEventRecord.asEvent]

/-- The health report and the route report count the same switches of the route, when both analyses are on and can
    write: with digests that do not collide, a switch of the route moves the cache identity. -/
theorem switches_counted_alike (cfg : RecorderConfig B) (past : List (RecorderAction B))
    (collisionFree : Function.Injective cfg.texts.prims.sha256) (records : RecordsSwitches cfg past) :
    ∃ x stats, Execution.exec (recorderStep cfg) {} past = some x ∧ x.store.routeIntelStats = some stats ∧
      x.store.aggregates.routeChanges = stats.routeSwitches := by
  obtain ⟨x, run, writes, s, mirrors, -, requests, churn, routes, -⟩ := run_tellsHistory cfg past
  refine ⟨x, _, run, mirrors.holding.routeIntelStats, ?_⟩
  rw [mirrors.holding.aggregates, ← healthOf_unclassified, churn, routes]
  change ((stepsOf cfg past).filterMap (RecordedStep.churnEvent? cfg)).countP (fun churn => churn.flags.routeChanged) =
    ((stepsOf cfg past).filterMap (RecordedStep.routeEvent? cfg)).length
  rw [List.countP_filterMap, List.length_filterMap_eq_countP]
  refine List.countP_congr fun step listed => ?_
  rw [records.step collisionFree listed]

/-- A request of a sample that a deployment answered. -/
def sampleAnsweredBy (deployment : String) : RecorderAction (List (String × Json) × ℕ) :=
  .observe (churnRequest "a" 100) [("x-served-by", deployment)] {} .confirmedHit sampleTime {}

/-- Two deployments answer one session. -/
theorem switches_counted_alike_sample :
    ∃ x stats, Execution.exec (recorderStep sampleRecorder) {} [sampleAnsweredBy "a", sampleAnsweredBy "b"] = some x ∧
      x.store.routeIntelStats = some stats ∧ x.store.aggregates.routeChanges = stats.routeSwitches := by
  have reached : ∀ recorded ∈ recordedOf sampleRecorder [sampleAnsweredBy "a", sampleAnsweredBy "b"],
      recorded.reach = {} := by
    intro recorded listed
    obtain ⟨action, asked, made⟩ := List.mem_filterMap.mp listed
    simp only [List.mem_cons, List.not_mem_nil, or_false] at asked
    rcases asked with rfl | rfl
    all_goals
      obtain ⟨observed, -, rfl⟩ := Option.map_eq_some_iff.mp made
      rfl
  exact switches_counted_alike sampleRecorder _ (fun _ _ same => (String.append_right_inj "#").mp same)
    { churnDetection := rfl
      routeIntel := rfl
      churnStored := fun recorded listed => by rw [reached recorded listed]
      routeStored := fun recorded listed => by rw [reached recorded listed] }

end CachePilot
