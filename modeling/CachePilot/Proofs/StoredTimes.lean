/-
Module: CachePilot.Proofs.StoredTimes
Layer: Proofs
Purpose: What the queries by time say. Stored times are texts of one width, ordered as the points of time are, so a
  window of texts is a window of points of time: a churn event is found when its point of time lies in the closed
  window, and the newest route event of a session from a time on is none that is earlier.
Trusted boundary: none
Main exports: StoredTime, StoredTime.text_le_iff, ChurnEventRecord.Touches, Holding.churnBetween,
  Holding.lastRouteEventForSession, stored_times_keep_order
-/
import CachePilot.Proofs.StoreRoundTrip

namespace CachePilot

open SqlTable

/-! ### Stored times -/

/-- A time that has a storage form. -/
structure StoredTime extends AwareTime where
  text : String
  stored : toAwareTime.iso = some text

namespace StoredTime

/-- The storage form is that of a point of time in UTC, the one that is meant. -/
theorem text_eq (a : StoredTime) : ∃ t : UtcTime, a.text = t.isoText ∧ (t.instant : ℤ) = a.instant := by
  obtain ⟨t, converted, text⟩ := Option.map_eq_some_iff.mp a.stored
  exact ⟨t, text.symm, (a.toAwareTime.toUtc_eq_some_iff t).mp converted⟩

/-- Storage forms are ordered as the points of time are. -/
theorem text_le_iff (a b : StoredTime) : a.text ≤ b.text ↔ a.instant ≤ b.instant := by
  obtain ⟨t, text, number⟩ := a.text_eq
  obtain ⟨u, text', number'⟩ := b.text_eq
  rw [text, text', UtcTime.isoText_le_iff, ← number, ← number', Int.ofNat_le]

/-- The storage form is read back as the point of time that is meant. -/
theorem fromIso_text (a : StoredTime) : ∃ t, UtcTime.fromIso a.text = some t ∧ (t.instant : ℤ) = a.instant := by
  obtain ⟨t, text, number⟩ := a.text_eq
  exact ⟨t, by rw [text, UtcTime.fromIso_isoText], number⟩

theorem text_le_isoText_iff (a : StoredTime) (t : UtcTime) : a.text ≤ t.isoText ↔ a.instant ≤ t.instant := by
  obtain ⟨u, text, number⟩ := a.text_eq
  rw [text, UtcTime.isoText_le_iff, ← number, Int.ofNat_le]

theorem isoText_le_text_iff (t : UtcTime) (a : StoredTime) : t.isoText ≤ a.text ↔ (t.instant : ℤ) ≤ a.instant := by
  obtain ⟨u, text, number⟩ := a.text_eq
  rw [text, UtcTime.isoText_le_iff, ← number, Int.ofNat_le]

end StoredTime

/-- Half past one at night, two hours ahead of UTC. -/
def sampleAwareTime : AwareTime where
  year := 2026
  month := 8
  day := 13
  hour := 1
  minute := 30
  second := 0
  microsecond := 0
  valid := by decide
  offset := 7200000000
  offset_small := by decide

example : sampleAwareTime.iso = some "2026-08-12T23:30:00.000000+00:00" := by decide +kernel

/-! ### Churn events in a window -/

/-- The event is a transition from or to the cache fingerprint, at a point of time inside the closed window. -/
def ChurnEventRecord.TouchesWithin (churn : ChurnEventRecord) (cacheFingerprint : String) (start stop : ℤ) : Prop :=
  (churn.previousCacheFingerprint = cacheFingerprint ∨ churn.newCacheFingerprint = cacheFingerprint) ∧
    start ≤ churn.timestamp.instant ∧ churn.timestamp.instant ≤ stop

instance (churn : ChurnEventRecord) (cacheFingerprint : String) (start stop : ℤ) :
    Decidable (churn.TouchesWithin cacheFingerprint start stop) :=
  inferInstanceAs (Decidable (_ ∧ _))

/-- The columns of a churn event that the query by time reads. -/
theorem churnRow_columns (id : ℕ) (churn : ChurnEventRecord) :
    SqlRow.column (insertedRow id churnInsertColumns (churnValues churn)) "timestamp" = .ofTime churn.timestamp ∧
      SqlRow.column (insertedRow id churnInsertColumns (churnValues churn)) "previous_cache_fingerprint" =
        .text churn.previousCacheFingerprint ∧
      SqlRow.column (insertedRow id churnInsertColumns (churnValues churn)) "new_cache_fingerprint" =
        .text churn.newCacheFingerprint := by
  simp [insertedRow, churnInsertColumns, churnValues, SqlRow.column, List.lookup_cons]

variable {texts : StorageTexts} {writes : List StoreWrite} {store : TelemetryStore}

/-- The condition of the query says of a row what is asked of its event. -/
theorem rowTouchesWithin_churnRow (cacheFingerprint : String) (start stop : StoredTime) (id : ℕ)
    (churn : ChurnEventRecord) :
    TelemetryStore.rowTouchesWithin cacheFingerprint start.text stop.text
        (insertedRow id churnInsertColumns (churnValues churn)) =
      decide (churn.TouchesWithin cacheFingerprint start.instant stop.instant) := by
  obtain ⟨timestamp, previous, new⟩ := churnRow_columns id churn
  rw [TelemetryStore.rowTouchesWithin, timestamp, previous, new, SqlValue.ofTime, SqlValue.textLe, SqlValue.textLe,
    Bool.eq_iff_iff, decide_eq_true_iff, ChurnEventRecord.TouchesWithin]
  simp [start.text_le_isoText_iff, stop.isoText_le_text_iff]

/-- The query finds a churn event of the fingerprint in the closed window, if there is one. -/
theorem Holding.churnBetween (holding : Holding texts writes store) (cacheFingerprint : String)
    (start stop : StoredTime) :
    store.churnBetween cacheFingerprint start.toAwareTime stop.toAwareTime =
      some (decide (∃ churn ∈ writes.filterMap StoreWrite.churn?,
        churn.TouchesWithin cacheFingerprint start.instant stop.instant)) := by
  have rows := holding.churn.any_rows (rowTouchesWithin_churnRow cacheFingerprint start stop)
  rw [TelemetryStore.churnBetween, start.stored, stop.stored]
  change some (store.churnEvents.rows.any _) = _
  rw [rows, Option.some.injEq, Bool.eq_iff_iff, List.any_eq_true, decide_eq_true_iff]
  simp only [decide_eq_true_iff]

/-! ### The newest route event of a session -/

/-- The columns of a route event that the queries by session read. -/
theorem routeRow_columns (id : ℕ) (event : RouteEventRecord) :
    SqlRow.column (insertedRow id routeInsertColumns (routeValues event)) "timestamp" = .ofTime event.timestamp ∧
      SqlRow.column (insertedRow id routeInsertColumns (routeValues event)) "session_hash" =
        .ofText event.sessionHash := by
  simp [insertedRow, routeInsertColumns, routeValues, SqlRow.column, List.lookup_cons]

/-- The newest row that meets a condition is read as the newest event that does. -/
theorem Holding.newestRouteEvent (holding : Holding texts writes store) {condition : SqlRow → Bool}
    {states : RouteEventRecord → Bool}
    (agree : ∀ id event, condition (insertedRow id routeInsertColumns (routeValues event)) = states event) :
    ∃ found, store.newestRouteEvent condition = some found ∧
      found.map StoredRouteEvent.toRouteEventRecord =
        (writes.filterMap StoreWrite.routeEvent?).reverse.find? states := by
  obtain ⟨entry, row, event⟩ := holding.routeEvents.find_newest agree
  rw [TelemetryStore.newestRouteEvent, row, event]
  cases entry with
  | none => exact ⟨none, rfl, rfl⟩
  | some entry =>
      refine ⟨some ⟨entry.2, entry.1⟩, ?_, rfl⟩
      exact congrArg (Option.map some) (rowToRouteEvent_inserted entry.1 entry.2)

theorem ofText_eq_text_iff (value : Option String) (text : String) :
    SqlValue.ofText value = .text text ↔ value = some text := by
  cases value <;> simp [SqlValue.ofText]

/-- The query finds the newest event of the session that is not earlier than the point of time of its bound. -/
theorem Holding.lastRouteEventForSession (holding : Holding texts writes store) (sessionHash : String) {since : ℚ}
    {moment : UtcTime} (converted : UtcTime.fromTimestamp since = some moment) :
    ∃ found, store.lastRouteEventForSession sessionHash (some since) = some found ∧
      found.map StoredRouteEvent.toRouteEventRecord =
        (writes.filterMap StoreWrite.routeEvent?).reverse.find? fun event => event.Since sessionHash moment := by
  rw [TelemetryStore.lastRouteEventForSession, converted]
  refine holding.newestRouteEvent fun id event => ?_
  obtain ⟨timestamp, session⟩ := routeRow_columns id event
  rw [TelemetryStore.rowOfSession, timestamp, session, SqlValue.ofTime, SqlValue.ofTime, SqlValue.textLe,
    Bool.eq_iff_iff, Bool.and_eq_true, decide_eq_true_iff, decide_eq_true_iff, decide_eq_true_iff,
    UtcTime.isoText_le_iff, RouteEventRecord.Since, ofText_eq_text_iff]

/-- Storage forms are ordered as the points of time are, and are read back as these; times are compared as instants,
    as those of the source are, which are all in UTC. Whatever is written, a churn event
    of a fingerprint is found in a window when one lies in the closed window, and the route event that is found for a
    session from a time on is its newest one that is not earlier. -/
theorem stored_times_keep_order :
    (∀ a b : StoredTime, a.text ≤ b.text ↔ a.instant ≤ b.instant) ∧
      (∀ a : StoredTime, ∃ t, UtcTime.fromIso a.text = some t ∧ (t.instant : ℤ) = a.instant) ∧
      ∀ (texts : StorageTexts) (writes : List StoreWrite), ∃ store,
        Execution.exec (storeWrite texts) {} writes = some store ∧
        (∀ cacheFingerprint (start stop : StoredTime),
          store.churnBetween cacheFingerprint start.toAwareTime stop.toAwareTime =
            some (decide (∃ churn ∈ writes.filterMap StoreWrite.churn?,
              churn.TouchesWithin cacheFingerprint start.instant stop.instant))) ∧
        ∀ sessionHash since, ∀ moment ∈ UtcTime.fromTimestamp since, ∃ found,
          store.lastRouteEventForSession sessionHash (some since) = some found ∧
          (found.map StoredRouteEvent.toRouteEventRecord =
            (writes.filterMap StoreWrite.routeEvent?).reverse.find? fun event => event.Since sessionHash moment) ∧
          ∀ event ∈ found, moment.instant ≤ event.timestamp.instant := by
  refine ⟨StoredTime.text_le_iff, StoredTime.fromIso_text, fun texts writes => ?_⟩
  obtain ⟨store, run⟩ := Option.isSome_iff_exists.mp (exec_isSome texts {} writes)
  have holding := holding_exec run
  refine ⟨store, run, holding.churnBetween, fun sessionHash since moment converted => ?_⟩
  obtain ⟨found, read, newest⟩ := holding.lastRouteEventForSession sessionHash converted
  refine ⟨found, read, newest, fun event known => ?_⟩
  rw [known] at newest
  have since := List.find?_some newest.symm
  exact (of_decide_eq_true since).2

end CachePilot
