/-
Module: CachePilot.Core.TelemetryStore
Layer: Core
Purpose: The telemetry store: its six tables, the statements that write records and those that read them back. Every
  write is a call under the store's lock, so writes come one after the other; nothing but the uniqueness of a lease
  id can refuse one. A row that does not read as its record makes the whole query raise.
Trusted boundary: the reading of storage.py and of its statements; on one connection only a repeated lease id fails
Main exports: TelemetryStore, TelemetryStore.recordRequest, TelemetryStore.recordChurn, TelemetryStore.updateLease,
  TelemetryStore.upsertProfile, TelemetryStore.recordTtlObservation, TelemetryStore.recordRouteEvent,
  TelemetryStore.recentEvents, TelemetryStore.churnList, TelemetryStore.listLeases, TelemetryStore.profileFor,
  TelemetryStore.recentTtlObservations, TelemetryStore.recentRouteEvents, TelemetryStore.churnBetween,
  TelemetryStore.lastEventForSession, TelemetryStore.lastRouteEventForSession, RouteEventRecord.Since, StoreWrite,
  storeWrite
-/
import CachePilot.Core.StoredRecords
import CachePilot.Lib.UtcInstant

namespace CachePilot

/-- The tables of the store. -/
structure TelemetryStore where
  requestEvents : SqlTable := {}
  churnEvents : SqlTable := {}
  leases : SqlTable := {}
  providerProfiles : SqlTable := {}
  ttlObservations : SqlTable := {}
  routeEvents : SqlTable := {}

/-- Canonical UTC storage form for a timestamp; a time that has none in UTC raises. -/
def AwareTime.iso (value : AwareTime) : Option String := value.toUtc.map UtcTime.isoText

namespace TelemetryStore

variable (texts : StorageTexts) (store : TelemetryStore)

/-! ### Writes -/

/-- Insert one request event. -/
def recordRequest (event : RequestEventRecord) : TelemetryStore :=
  { store with
    requestEvents := store.requestEvents.insert requestInsertColumns (requestValues texts event) }

/-- Insert one churn event. -/
def recordChurn (churn : ChurnEventRecord) : TelemetryStore :=
  { store with churnEvents := store.churnEvents.insert churnInsertColumns (churnValues churn) }

/-- Replace the stored snapshot of a lease: delete its row and insert another one. A lease id that is still there
    raises. -/
def updateLease (lease : LeaseSnapshot) (now : UtcTime) : Option TelemetryStore :=
  let leases := store.leases.deleteWhere "lease_id" (.text lease.leaseId)
  if leases.rows.any fun row => row.column "lease_id" = .text lease.leaseId then none
  else some { store with leases := leases.insert leaseInsertColumns (leaseValues texts lease now) }

/-- Insert one route profile, or update the row of its key. -/
def upsertProfile (profile : ProfileRecord) (now : UtcTime) : TelemetryStore :=
  { store with
    providerProfiles :=
      store.providerProfiles.upsert profileInsertColumns (profileValues profile now) "profile_key"
        profileUpdatedColumns }

/-- Append one TTL observation. -/
def recordTtlObservation (obs : TtlObservationRecord) : TelemetryStore :=
  { store with
    ttlObservations := store.ttlObservations.insert ttlObservationInsertColumns (ttlObservationValues obs) }

/-- Insert one route event. -/
def recordRouteEvent (event : RouteEventRecord) : TelemetryStore :=
  { store with routeEvents := store.routeEvents.insert routeInsertColumns (routeValues event) }

/-! ### Reads -/

/-- Most recent request events, newest first. -/
def recentEvents (limit : ℤ) : Option (List StoredRequestEvent) :=
  (store.requestEvents.newest limit).mapM fun row => rowToRequestEvent texts (row.select requestEventColumns)

/-- Most recent churn events, newest first. -/
def churnList (limit : ℤ) : Option (List StoredChurnEvent) :=
  (store.churnEvents.newest limit).mapM fun row => rowToChurnEvent (row.select churnEventColumns)

/-- Most recent lease snapshots, newest first. -/
def listLeases (limit : ℤ) : Option (List StoredLeaseRow) :=
  (store.leases.newest limit).mapM fun row => rowToLease texts (row.select leaseColumns)

/-- The route profile of a key, if there is one. -/
def profileFor (key : String) : Option (Option ProfileRecord) :=
  match store.providerProfiles.rows.find? fun row => row.column "profile_key" = .text key with
  | none => some none
  | some row => (rowToProfile (row.select profileColumns)).map some

/-- Observations of one cache fingerprint, newest first. -/
def recentTtlObservations (cacheFingerprint : String) (limit : ℤ) : Option (List StoredTtlObservation) :=
  (SqlTable.limited limit
      (store.ttlObservations.rows.reverse.filter fun row =>
        row.column "cache_fingerprint" = .text cacheFingerprint)).mapM fun row =>
    rowToTtlObservation (row.select ttlObservationColumns)

/-- Most recent route-change events, newest first. -/
def recentRouteEvents (limit : ℤ) : Option (List StoredRouteEvent) :=
  (store.routeEvents.newest limit).mapM fun row => rowToRouteEvent (row.select routeEventColumns)

/-! ### Reads by time -/

/-- The row is that of a transition from or to the cache fingerprint, inside the closed window of stored times. -/
def rowTouchesWithin (cacheFingerprint start stop : String) (row : SqlRow) : Bool :=
  (row.column "previous_cache_fingerprint" = .text cacheFingerprint ||
      row.column "new_cache_fingerprint" = .text cacheFingerprint) &&
    (SqlValue.textLe (.text start) (row.column "timestamp") && SqlValue.textLe (row.column "timestamp") (.text stop))

/-- A churn event touched the fingerprint inside the closed window. -/
def churnBetween (cacheFingerprint : String) (start stop : AwareTime) : Option Bool := do
  let start ← start.iso
  let stop ← stop.iso
  some (store.churnEvents.rows.any (rowTouchesWithin cacheFingerprint start stop))

/-- The newest route event whose row meets a condition, if there is one. -/
def newestRouteEvent (condition : SqlRow → Bool) : Option (Option StoredRouteEvent) :=
  match store.routeEvents.rows.reverse.find? condition with
  | none => some none
  | some row => (rowToRouteEvent (row.select routeEventColumns)).map some

/-- The row is one of the session. -/
def rowOfSession (sessionHash : String) (row : SqlRow) : Bool := row.column "session_hash" = .text sessionHash

/-- Most recent request event for one session. -/
def lastEventForSession (sessionHash : String) : Option (Option StoredRequestEvent) :=
  match store.requestEvents.rows.reverse.find? (rowOfSession sessionHash) with
  | none => some none
  | some row => (rowToRequestEvent texts (row.select requestEventColumns)).map some

/-- Newest route event of one session, optionally only events recorded from a time on, in seconds of the epoch. -/
def lastRouteEventForSession (sessionHash : String) (since : Option ℚ) : Option (Option StoredRouteEvent) :=
  match since with
  | some since => do
      let since ← UtcTime.fromTimestamp since
      store.newestRouteEvent fun row =>
        rowOfSession sessionHash row && SqlValue.textLe (.ofTime since) (row.column "timestamp")
  | none => store.newestRouteEvent (rowOfSession sessionHash)

end TelemetryStore

/-- The event is one of the session, not earlier than a point of time. -/
def RouteEventRecord.Since (event : RouteEventRecord) (sessionHash : String) (moment : UtcTime) : Prop :=
  event.sessionHash = some sessionHash ∧ moment.instant ≤ event.timestamp.instant

instance (event : RouteEventRecord) (sessionHash : String) (moment : UtcTime) :
    Decidable (event.Since sessionHash moment) :=
  inferInstanceAs (Decidable (_ ∧ _))

/-- A write to the store. -/
inductive StoreWrite where
  | request (event : RequestEventRecord)
  | churn (churn : ChurnEventRecord)
  | lease (lease : LeaseSnapshot) (now : UtcTime)
  | profile (profile : ProfileRecord) (now : UtcTime)
  | ttlObservation (obs : TtlObservationRecord)
  | routeEvent (event : RouteEventRecord)

/-- One write. -/
def storeWrite (texts : StorageTexts) (store : TelemetryStore) : StoreWrite → Option TelemetryStore
  | .request event => some (store.recordRequest texts event)
  | .churn churn => some (store.recordChurn churn)
  | .lease lease now => store.updateLease texts lease now
  | .profile profile now => some (store.upsertProfile profile now)
  | .ttlObservation obs => some (store.recordTtlObservation obs)
  | .routeEvent event => some (store.recordRouteEvent event)

end CachePilot
