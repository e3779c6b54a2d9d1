/-
Module: CachePilot.Proofs.StoreRoundTrip
Layer: Proofs
Purpose: Whatever is written to the store is read back. After any sequence of writes the lease table has one row for
  each lease, its last snapshot; the other tables have every record, newest first; and the profile of a key is the
  last one written under it. A known key keeps its identity columns, so the last holds when all profiles of a key
  have one identity; the key is a join that two identities with a bar in them can share.
Trusted boundary: none
Main exports: StoreWrite.lease?, Holding, holding_exec, ReadsBack, KeysKeepIdentity, store_reads_back,
  shared_key_mixes_profiles
-/
import CachePilot.Lib.Execution
import CachePilot.Lib.KeyedLog
import CachePilot.Proofs.RecordRoundTrip

namespace CachePilot

open Execution KeyedLog SqlTable

/-! ### What was written -/

namespace StoreWrite

def request? : StoreWrite → Option RequestEventRecord
  | .request event => some event
  | _ => none

def churn? : StoreWrite → Option ChurnEventRecord
  | .churn event => some event
  | _ => none

/-- The snapshot of a lease, and when it was written. -/
def lease? : StoreWrite → Option (LeaseSnapshot × UtcTime)
  | .lease snapshot now => some (snapshot, now)
  | _ => none

/-- A profile, and when it was written. -/
def profile? : StoreWrite → Option (ProfileRecord × UtcTime)
  | .profile record now => some (record, now)
  | _ => none

def ttlObservation? : StoreWrite → Option TtlObservationRecord
  | .ttlObservation obs => some obs
  | _ => none

def routeEvent? : StoreWrite → Option RouteEventRecord
  | .routeEvent event => some event
  | _ => none

end StoreWrite

/-- The lease of a snapshot. -/
def leaseKey (entry : LeaseSnapshot × UtcTime) : String := entry.1.leaseId

/-- A request event without its row id. -/
def StoredRequestEvent.unnumbered (row : StoredRequestEvent) : StoredRequestEvent := { row with id := 0 }

/-- The route key of a profile. -/
def profileKeyOf (entry : ProfileRecord × UtcTime) : String := entry.1.profileKey

/-- A profile under the identity of another one. -/
def withIdentity (identity : RouteContext) (entry : ProfileRecord × UtcTime) : ProfileRecord × UtcTime :=
  ({ entry.1 with toRouteContext := identity }, entry.2)

/-- The last profile that was written under a key, with the identity of the first one. -/
def keptProfile (written : List (ProfileRecord × UtcTime)) (key : String) : Option (ProfileRecord × UtcTime) :=
  (written.find? fun entry => profileKeyOf entry = key).bind fun first =>
    (lastFor profileKeyOf written key).map (withIdentity first.1.toRouteContext)

/-- What the store says of the records of a sequence of writes: every row of its own table, newest first; for each
    lease the last snapshot, and for each route key the last profile with the identity of the first one. -/
structure ReadsBack (texts : StorageTexts) (writes : List StoreWrite) (store : TelemetryStore) : Prop where
  leases : ∀ limit,
    (store.listLeases texts limit).map (List.map StoredLeaseRow.toLeaseRecord) =
      some ((limited limit (latest leaseKey (writes.filterMap StoreWrite.lease?)).reverse).map fun entry =>
        entry.1.record texts.prims entry.2)
  requests : ∀ limit,
    (store.recentEvents texts limit).map (List.map StoredRequestEvent.unnumbered) =
      some ((limited limit (writes.filterMap StoreWrite.request?).reverse).map fun event => event.stored 0)
  churn : ∀ limit,
    (store.churnList limit).map (List.map StoredChurnEvent.toChurnEventRecord) =
      some (limited limit (writes.filterMap StoreWrite.churn?).reverse)
  ttlObservations : ∀ cacheFingerprint limit,
    (store.recentTtlObservations cacheFingerprint limit).map
        (List.map StoredTtlObservation.toTtlObservationRecord) =
      some (limited limit ((writes.filterMap StoreWrite.ttlObservation?).reverse.filter fun obs =>
        obs.cacheFingerprint = cacheFingerprint))
  routeEvents : ∀ limit,
    (store.recentRouteEvents limit).map (List.map StoredRouteEvent.toRouteEventRecord) =
      some (limited limit (writes.filterMap StoreWrite.routeEvent?).reverse)
  profiles : ∀ key,
    store.profileFor key =
      some ((keptProfile (writes.filterMap StoreWrite.profile?) key).map fun entry => entry.1.storedAt entry.2)

/-- All profiles that are written under one key have one identity. -/
def KeysKeepIdentity (writes : List StoreWrite) : Prop :=
  ∀ p ∈ writes.filterMap StoreWrite.profile?, ∀ q ∈ writes.filterMap StoreWrite.profile?,
    profileKeyOf p = profileKeyOf q → p.1.toRouteContext = q.1.toRouteContext

/-! ### The table of profiles -/

/-- The row of a profile. -/
def profileRow (entry : ProfileRecord × UtcTime) : SqlRow :=
  profileInsertColumns.zip (profileValues entry.1 entry.2)

theorem profileRow_key (entry : ProfileRecord × UtcTime) :
    SqlRow.column (profileRow entry) "profile_key" = .text (profileKeyOf entry) := by
  simp [profileRow, profileInsertColumns, profileValues, SqlRow.column, List.lookup_cons, profileKeyOf]

/-- An updated row keeps its identity and takes everything else of the new profile. -/
theorem update_profileRow (old new : ProfileRecord × UtcTime) :
    (profileRow old).update profileUpdatedColumns (profileRow new) =
      profileRow (withIdentity old.1.toRouteContext new) := by
  simp [profileRow, profileInsertColumns, profileValues, profileUpdatedColumns, SqlRow.update, SqlRow.column,
    List.lookup_cons, withIdentity, ProfileRecord.profileKey]

@[simp] theorem profileKeyOf_withIdentity (old new : ProfileRecord × UtcTime) :
    profileKeyOf (withIdentity old.1.toRouteContext new) = profileKeyOf old := rfl

/-- The table has a row for each key, with the profile that is kept under it. -/
def ProfilesHold (written : List (ProfileRecord × UtcTime)) (t : SqlTable) : Prop :=
  ∃ entries : List (ProfileRecord × UtcTime),
    t.rows = entries.map profileRow ∧
      ∀ key, (entries.find? fun entry => profileKeyOf entry = key) = keptProfile written key

theorem profilesHold_empty : ProfilesHold [] {} := ⟨[], rfl, fun _ => rfl⟩

section Kept

variable {written : List (ProfileRecord × UtcTime)} {key : String}

/-- No profile is kept under a key exactly when none was written under it. -/
theorem keptProfile_eq_none_iff :
    keptProfile written key = none ↔ (written.find? fun entry => profileKeyOf entry = key) = none := by
  have last : lastFor profileKeyOf written key = none ↔
      (written.find? fun entry => profileKeyOf entry = key) = none := by
    simp only [lastFor, List.find?_eq_none, List.mem_reverse]
  rw [keptProfile]
  cases first : written.find? fun entry => profileKeyOf entry = key with
  | none => exact iff_of_true rfl rfl
  | some entry =>
      rw [first] at last
      rw [Option.bind_some, Option.map_eq_none_iff]
      exact last

/-- A written profile takes the place of the one that was kept under its key; its identity is the old one, if there
    was one. -/
theorem keptProfile_append (new : ProfileRecord × UtcTime) :
    keptProfile (written ++ [new]) key =
      if profileKeyOf new = key then
        some (((keptProfile written key).map fun old => withIdentity old.1.toRouteContext new).getD new)
      else keptProfile written key := by
  rw [keptProfile, List.find?_append, lastFor_append]
  by_cases here : profileKeyOf new = key
  · rw [if_pos here, if_pos here]
    cases first : written.find? fun entry => profileKeyOf entry = key with
    | none =>
        rw [keptProfile_eq_none_iff.mpr first]
        simp [here, withIdentity]
    | some entry =>
        cases last : lastFor profileKeyOf written key with
        | none =>
            have none : keptProfile written key = none := by rw [keptProfile, first, last]; rfl
            rw [keptProfile_eq_none_iff.mp none] at first
            cases first
        | some entry' =>
            rw [keptProfile, first, last]
            rfl
  · rw [if_neg here, if_neg here, keptProfile]
    simp [here]

end Kept

theorem profileRow_key_eq_iff (p q : ProfileRecord × UtcTime) :
    SqlRow.column (profileRow p) "profile_key" = SqlRow.column (profileRow q) "profile_key" ↔
      profileKeyOf p = profileKeyOf q := by
  rw [profileRow_key, profileRow_key, SqlValue.text.injEq]

/-- A profile in the place of one with its key, with the identity of that one. -/
def replacing (new entry : ProfileRecord × UtcTime) : ProfileRecord × UtcTime :=
  if profileKeyOf entry = profileKeyOf new then withIdentity entry.1.toRouteContext new else entry

theorem profileKeyOf_replacing (new entry : ProfileRecord × UtcTime) :
    profileKeyOf (replacing new entry) = profileKeyOf entry := by
  unfold replacing
  split
  · next same => rw [profileKeyOf_withIdentity, same]
  · rfl

/-- An update of the rows with its key replaces their profiles. -/
theorem profileRow_replacing (new entry : ProfileRecord × UtcTime) :
    (if SqlRow.column (profileRow entry) "profile_key" = SqlRow.column (profileRow new) "profile_key" then
      (profileRow entry).update profileUpdatedColumns (profileRow new) else profileRow entry) =
        profileRow (replacing new entry) := by
  unfold replacing
  by_cases same : profileKeyOf entry = profileKeyOf new
  · rw [if_pos ((profileRow_key_eq_iff entry new).mpr same), if_pos same, update_profileRow]
  · rw [if_neg fun eq => same ((profileRow_key_eq_iff entry new).mp eq), if_neg same]

section Written

variable {written entries : List (ProfileRecord × UtcTime)} {new : ProfileRecord × UtcTime}
  (found : ∀ key, (entries.find? fun entry => profileKeyOf entry = key) = keptProfile written key)
include found

/-- The profile under a key when the new one replaces the one with its key. -/
theorem find?_replacing (known : ∃ old ∈ entries, profileKeyOf old = profileKeyOf new) (key : String) :
    ((entries.map (replacing new)).find? fun entry => profileKeyOf entry = key) =
      keptProfile (written ++ [new]) key := by
  have kept : ((fun entry => decide (profileKeyOf entry = key)) ∘ replacing new) =
      fun entry => decide (profileKeyOf entry = key) := by
    funext entry
    rw [Function.comp_apply, profileKeyOf_replacing]
  rw [List.find?_map, kept, found key, keptProfile_append]
  cases last : keptProfile written key with
  | none =>
      have unwritten : profileKeyOf new ≠ key := by
        intro here
        obtain ⟨old, member, same⟩ := known
        rw [← found key, List.find?_eq_none] at last
        exact last old member (decide_eq_true (same.trans here))
      rw [if_neg unwritten]
      rfl
  | some entry =>
      have matched := List.find?_some ((found key).trans last)
      have entryKey : profileKeyOf entry = key := of_decide_eq_true matched
      rw [Option.map_some, replacing, entryKey]
      by_cases here : profileKeyOf new = key
      · rw [if_pos here.symm, if_pos here]
        rfl
      · rw [if_neg fun eq => here eq.symm, if_neg here]

/-- The profile under a key when the new one is the first with its key. -/
theorem find?_added (unknown : ∀ entry ∈ entries, profileKeyOf entry ≠ profileKeyOf new) (key : String) :
    ((entries ++ [new]).find? fun entry => profileKeyOf entry = key) = keptProfile (written ++ [new]) key := by
  rw [List.find?_append, found key, keptProfile_append]
  by_cases here : profileKeyOf new = key
  · have nothing : keptProfile written key = none := by
      rw [← found key, List.find?_eq_none]
      intro entry member same
      exact unknown entry member ((of_decide_eq_true same).trans here.symm)
    simp [nothing, here]
  · simp [here]

end Written

/-- An upsert keeps the profile under its key. -/
theorem ProfilesHold.upsert {written : List (ProfileRecord × UtcTime)} {t : SqlTable} (holds : ProfilesHold written t)
    (new : ProfileRecord × UtcTime) :
    ProfilesHold (written ++ [new])
      (t.upsert profileInsertColumns (profileValues new.1 new.2) "profile_key" profileUpdatedColumns) := by
  obtain ⟨entries, rows, found⟩ := holds
  have row : profileInsertColumns.zip (profileValues new.1 new.2) = profileRow new := rfl
  have listed : (t.rows.any fun row =>
      SqlRow.column row "profile_key" = SqlRow.column (profileRow new) "profile_key") = true ↔
        ∃ old ∈ entries, profileKeyOf old = profileKeyOf new := by
    rw [rows, List.any_map, List.any_eq_true]
    simp only [Function.comp_apply, decide_eq_true_eq, profileRow_key_eq_iff]
  rw [SqlTable.upsert, row]
  split
  · next known =>
      refine ⟨entries.map (replacing new), ?_, find?_replacing found (listed.mp known)⟩
      rw [rows, List.map_map, List.map_map]
      exact List.map_congr_left fun entry _ => profileRow_replacing new entry
  · next unknown =>
      have first : ∀ entry ∈ entries, profileKeyOf entry ≠ profileKeyOf new :=
        fun entry member same => unknown (listed.mpr ⟨entry, member, same⟩)
      refine ⟨entries ++ [new], ?_, find?_added found first⟩
      rw [rows, List.map_append]
      rfl

/-- The row of a key is read as the profile that is kept under it. -/
theorem ProfilesHold.profileFor {written : List (ProfileRecord × UtcTime)} {store : TelemetryStore}
    (holds : ProfilesHold written store.providerProfiles) (key : String) :
    store.profileFor key = some ((keptProfile written key).map fun entry => entry.1.storedAt entry.2) := by
  obtain ⟨entries, rows, found⟩ := holds
  have matching : ((fun row : SqlRow => decide (row.column "profile_key" = .text key)) ∘ profileRow) =
      fun entry => decide (profileKeyOf entry = key) := by
    funext entry
    rw [Function.comp_apply, profileRow_key]
    simp only [SqlValue.text.injEq]
  rw [TelemetryStore.profileFor, rows, List.find?_map, matching, found key]
  cases keptProfile written key with
  | none => rfl
  | some entry =>
      have select : SqlRow.select profileColumns (profileRow entry) = profileValues entry.1 entry.2 :=
        SqlRow.select_zip (by decide) rfl
      dsimp only [Option.map_some]
      rw [select, rowToProfile_written]
      rfl

/-- When all profiles of a key have one identity, the last one is kept as it was written. -/
theorem keptProfile_eq_lastFor {written : List (ProfileRecord × UtcTime)}
    (identity : ∀ p ∈ written, ∀ q ∈ written, profileKeyOf p = profileKeyOf q →
      p.1.toRouteContext = q.1.toRouteContext) (key : String) :
    keptProfile written key = lastFor profileKeyOf written key := by
  rw [keptProfile]
  cases first : written.find? fun entry => profileKeyOf entry = key with
  | none =>
      have unlisted := List.find?_eq_none.mp first
      exact (List.find?_eq_none.mpr fun entry member => unlisted entry (List.mem_reverse.mp member)).symm
  | some entry =>
      rw [Option.bind_some]
      cases last : lastFor profileKeyOf written key with
      | none => rfl
      | some entry' =>
          have firstMatched := List.find?_some first
          have lastMatched := List.find?_some last
          have same := identity entry (List.mem_of_find?_eq_some first) entry' (lastFor_mem last)
            ((of_decide_eq_true firstMatched).trans (of_decide_eq_true lastMatched).symm)
          rw [Option.map_some, same]
          rfl

/-! ### The tables after a sequence of writes -/

/-- The tables hold the records of a sequence of writes. -/
structure Holding (texts : StorageTexts) (writes : List StoreWrite) (store : TelemetryStore) : Prop where
  requests : store.requestEvents.Holds requestInsertColumns (requestValues texts)
    (writes.filterMap StoreWrite.request?)
  churn : store.churnEvents.Holds churnInsertColumns churnValues (writes.filterMap StoreWrite.churn?)
  leases : store.leases.Holds leaseInsertColumns (fun entry => leaseValues texts entry.1 entry.2)
    (latest leaseKey (writes.filterMap StoreWrite.lease?))
  profiles : ProfilesHold (writes.filterMap StoreWrite.profile?) store.providerProfiles
  ttlObservations : store.ttlObservations.Holds ttlObservationInsertColumns ttlObservationValues
    (writes.filterMap StoreWrite.ttlObservation?)
  routeEvents : store.routeEvents.Holds routeInsertColumns routeValues
    (writes.filterMap StoreWrite.routeEvent?)

variable {texts : StorageTexts}

theorem holding_empty : Holding texts [] {} where
  requests := holds_empty
  churn := holds_empty
  leases := holds_empty
  profiles := profilesHold_empty
  ttlObservations := holds_empty
  routeEvents := holds_empty

/-- The lease id in the row of a lease. -/
theorem leaseRow_key (texts : StorageTexts) (id : ℕ) (entry : LeaseSnapshot × UtcTime) :
    SqlRow.column (insertedRow id leaseInsertColumns (leaseValues texts entry.1 entry.2)) "lease_id" =
      .text (leaseKey entry) := by
  have columns : leaseInsertColumns = "lease_id" :: leaseInsertColumns.tail := rfl
  rw [insertedRow, SqlRow.column_cons_of_ne (by decide), columns, leaseValues, List.zip_cons_cons,
    SqlRow.column_cons_self, leaseKey]

/-- The cache fingerprint in the row of a TTL observation. -/
theorem ttlObservationRow_key (id : ℕ) (obs : TtlObservationRecord) :
    SqlRow.column (insertedRow id ttlObservationInsertColumns (ttlObservationValues obs)) "cache_fingerprint" =
      .text obs.cacheFingerprint := by
  rw [insertedRow, SqlRow.column_cons_of_ne (by decide), ttlObservationInsertColumns, ttlObservationValues,
    List.zip_cons_cons, SqlRow.column_cons_of_ne (by decide), List.zip_cons_cons, SqlRow.column_cons_self]

/-- A lease update finds no row of its lease behind the delete. -/
theorem updateLease_isSome (store : TelemetryStore) (lease : LeaseSnapshot) (now : UtcTime) :
    (store.updateLease texts lease now).isSome = true := by
  rw [TelemetryStore.updateLease]
  split
  · rename_i still
    rw [List.any_eq_true] at still
    obtain ⟨row, member, same⟩ := still
    have removed := (List.mem_filter.mp member).2
    exact absurd (of_decide_eq_true same) (of_decide_eq_true removed)
  · rfl

theorem filterMap_added {R : Type} (f : StoreWrite → Option R) {writes : List StoreWrite} {write : StoreWrite}
    {record : R} (added : f write = some record) :
    (writes ++ [write]).filterMap f = writes.filterMap f ++ [record] := by
  rw [List.filterMap_append, List.filterMap_cons, added]
  rfl

theorem filterMap_untouched {R : Type} {f : StoreWrite → Option R} {writes : List StoreWrite} {write : StoreWrite}
    (untouched : f write = none) : (writes ++ [write]).filterMap f = writes.filterMap f := by
  rw [List.filterMap_append, List.filterMap_cons, untouched, List.filterMap_nil, List.append_nil]

/-- One write adds its record. -/
theorem holding_step {writes : List StoreWrite} {store after : TelemetryStore} {write : StoreWrite}
    (holding : Holding texts writes store)
    (stepped : storeWrite texts store write = some after) : Holding texts (writes ++ [write]) after := by
  obtain ⟨requests, churn, leases, profiles, ttlObservations, routeEvents⟩ := holding
  cases write with
  | request event =>
      cases stepped
      constructor
      case requests =>
        rw [filterMap_added StoreWrite.request? rfl]
        exact requests.insert event
      all_goals
        rw [filterMap_untouched]
        · assumption
        · rfl
  | churn event =>
      cases stepped
      constructor
      case churn =>
        rw [filterMap_added StoreWrite.churn? rfl]
        exact churn.insert event
      all_goals
        rw [filterMap_untouched]
        · assumption
        · rfl
  | lease lease now =>
      rw [storeWrite, TelemetryStore.updateLease] at stepped
      split at stepped
      · cases stepped
      cases stepped
      constructor
      case leases =>
        rw [filterMap_added StoreWrite.lease? rfl, latest_append]
        have deleted := leases.deleteWhere (leaseRow_key texts) (.text (leaseKey (lease, now)))
        simp only [ne_eq, SqlValue.text.injEq] at deleted
        exact deleted.insert (lease, now)
      all_goals
        rw [filterMap_untouched]
        · assumption
        · rfl
  | profile profile now =>
      cases stepped
      constructor
      case profiles =>
        rw [filterMap_added StoreWrite.profile? rfl]
        exact profiles.upsert (profile, now)
      all_goals
        rw [filterMap_untouched]
        · assumption
        · rfl
  | ttlObservation obs =>
      cases stepped
      constructor
      case ttlObservations =>
        rw [filterMap_added StoreWrite.ttlObservation? rfl]
        exact ttlObservations.insert obs
      all_goals
        rw [filterMap_untouched]
        · assumption
        · rfl
  | routeEvent event =>
      cases stepped
      constructor
      case routeEvents =>
        rw [filterMap_added StoreWrite.routeEvent? rfl]
        exact routeEvents.insert event
      all_goals
        rw [filterMap_untouched]
        · assumption
        · rfl

/-- The tables after any sequence of writes. -/
theorem holding_exec {writes : List StoreWrite} {store : TelemetryStore}
    (run : Execution.exec (storeWrite texts) {} writes = some store) : Holding texts writes store :=
  history_invariant (R := Holding texts) holding_empty
    (fun _ _ _ _ _ _ _ stepped holding => holding_step holding stepped) run

/-- No write is refused. -/
theorem exec_isSome (texts : StorageTexts) (store : TelemetryStore) (writes : List StoreWrite) :
    (Execution.exec (storeWrite texts) store writes).isSome = true := by
  induction writes generalizing store with
  | nil => rfl
  | cons write later ih =>
      have written : ∃ after, storeWrite texts store write = some after := by
        cases write with
        | lease lease now => exact Option.isSome_iff_exists.mp (updateLease_isSome store lease now)
        | _ => exact ⟨_, rfl⟩
      obtain ⟨after, written⟩ := written
      rw [exec_cons, written, Option.bind_some]
      exact ih after

/-- The records that the tables hold are read back. -/
theorem Holding.readsBack {writes : List StoreWrite} {store : TelemetryStore} (holding : Holding texts writes store) :
    ReadsBack texts writes store where
  leases limit := by
    rw [TelemetryStore.listLeases]
    exact holding.leases.read_newest (fun row => rowToLease texts (row.select leaseColumns))
      StoredLeaseRow.toLeaseRecord (fun entry => entry.1.record texts.prims entry.2)
      (fun id entry => ⟨entry.1.record texts.prims entry.2, id⟩)
      (fun id entry => rowToLease_inserted texts id entry.1 entry.2) (fun _ _ => rfl) limit
  requests limit := by
    rw [TelemetryStore.recentEvents]
    exact holding.requests.read_newest (fun row => rowToRequestEvent texts (row.select requestEventColumns))
      StoredRequestEvent.unnumbered (fun event => event.stored 0) (fun id event => event.stored id)
      (fun id event => rowToRequestEvent_inserted texts id event) (fun _ _ => rfl) limit
  churn limit := by
    have read := holding.churn.read_newest (fun row => rowToChurnEvent (row.select churnEventColumns))
      StoredChurnEvent.toChurnEventRecord id (fun id event => ⟨event, id⟩)
      (fun id event => rowToChurnEvent_inserted id event) (fun _ _ => rfl) limit
    rwa [List.map_id] at read
  ttlObservations cacheFingerprint limit := by
    have read := holding.ttlObservations.read_matching
      (fun row => rowToTtlObservation (row.select ttlObservationColumns))
      StoredTtlObservation.toTtlObservationRecord id (fun id obs => ⟨obs, id⟩)
      (fun id obs => rowToTtlObservation_inserted id obs) (fun _ _ => rfl)
      (fun id obs => ttlObservationRow_key id obs) (.text cacheFingerprint) limit
    simp only [SqlValue.text.injEq] at read
    rwa [List.map_id] at read
  routeEvents limit := by
    have read := holding.routeEvents.read_newest (fun row => rowToRouteEvent (row.select routeEventColumns))
      StoredRouteEvent.toRouteEventRecord id (fun id event => ⟨event, id⟩)
      (fun id event => rowToRouteEvent_inserted id event) (fun _ _ => rfl) limit
    rwa [List.map_id] at read
  profiles key := holding.profiles.profileFor key

/-- Whatever is written is read back; a profile has the identity under which its key was first written, which is its
    own when all profiles of the key have one identity. Floats are exact numbers here, and integers fit the 64 bits
    of the column. -/
theorem store_reads_back (texts : StorageTexts) (writes : List StoreWrite) :
    ∃ store, Execution.exec (storeWrite texts) {} writes = some store ∧ ReadsBack texts writes store ∧
      (KeysKeepIdentity writes → ∀ key,
        store.profileFor key =
          some ((lastFor profileKeyOf (writes.filterMap StoreWrite.profile?) key).map fun entry =>
            entry.1.storedAt entry.2)) := by
  obtain ⟨store, run⟩ := Option.isSome_iff_exists.mp (exec_isSome texts {} writes)
  have holding := holding_exec run
  refine ⟨store, run, holding.readsBack, fun identity key => ?_⟩
  rw [holding.profiles.profileFor, keptProfile_eq_lastFor identity]

/-! ### A shared key -/

/-- The start of a day. -/
def sampleParts : TimeParts where
  year := 2026
  month := 8
  day := 13
  hour := 0
  minute := 0
  second := 0
  microsecond := 0

theorem sampleParts_valid : sampleParts.Valid := by decide

def sampleTime : UtcTime := ⟨sampleParts, sampleParts_valid⟩

/-- Two profiles of different routes under one key: the bar belongs to the provider of the one and to the model of
    the other. -/
def barredProfiles : List StoreWrite :=
  [.profile { provider := "a|b", model := "c", apiMode := "chat", endpointHash := "e", updatedAt := sampleTime }
      sampleTime,
    .profile { provider := "a", model := "b|c", apiMode := "chat", endpointHash := "e", updatedAt := sampleTime }
      sampleTime]

/-- The second profile is not read back as it was written. -/
theorem shared_key_mixes_profiles :
    ¬∃ store, Execution.exec (storeWrite sampleStorageTexts) {} barredProfiles = some store ∧
      ∀ key, store.profileFor key =
        some ((lastFor profileKeyOf (barredProfiles.filterMap StoreWrite.profile?) key).map fun entry =>
          entry.1.storedAt entry.2) := by
  rintro ⟨store, run, exact⟩
  have read := exact "a|b|c|chat|e|"
  rw [(holding_exec run).profiles.profileFor] at read
  have kept : (keptProfile (barredProfiles.filterMap StoreWrite.profile?) "a|b|c|chat|e|").map
      (fun entry => entry.1.provider) = some "a|b" := by decide +kernel
  have last : (lastFor profileKeyOf (barredProfiles.filterMap StoreWrite.profile?) "a|b|c|chat|e|").map
      (fun entry => entry.1.provider) = some "a" := by decide +kernel
  have providers := congrArg (Option.map fun profile => profile.provider) (Option.some.inj read)
  rw [Option.map_map, Option.map_map] at providers
  have same : some "a|b" = some "a" := kept.symm.trans (providers.trans last)
  revert same
  decide

end CachePilot
