/-
Module: CachePilot.Proofs.RecordRoundTrip
Layer: Proofs
Purpose: What is written for a record is read back as that record. Each table's row, read with the columns of its
  query, holds every field of the record in the place of its own column.
Trusted boundary: none
Main exports: RequestEventRecord.stored, LeaseSnapshot.record, ProfileRecord.storedAt, rowToRequestEvent_inserted,
  rowToChurnEvent_inserted, rowToLease_inserted, rowToProfile_written, rowToTtlObservation_inserted,
  rowToRouteEvent_inserted
-/
import CachePilot.Core.TelemetryStore
import CachePilot.Lib.RatioText

namespace CachePilot

open SqlTable

/-- The stored event of a record. -/
def RequestEventRecord.stored (event : RequestEventRecord) (id : ℕ) : StoredRequestEvent where
  id := id
  sessionHash := event.sessionHash
  timestamp := event.timestamp
  provider := event.provider
  model := event.model
  routeHash := event.routeHash
  requestFingerprint := event.requestFingerprint
  cacheFingerprint := event.cacheFingerprint
  systemHash := event.systemHash
  toolsHash := event.toolsHash
  historyHash := event.historyHash
  inputTokens := event.usage.promptTokens
  outputTokens := event.usage.completionTokens
  cacheReadTokens := event.usage.cacheReadTokens
  cacheWriteTokens := event.usage.cacheWriteTokens
  costUsd := event.usage.cost
  requestKind := event.requestKind
  outcome := event.outcome
  toolsSetHash := event.toolsSetHash

/-- The record of a lease: its session and its base URL are replaced by their hashes, and its targets are sorted. A
    lease without a session has no session hash. -/
def LeaseSnapshot.record (prims : TextPrimitives) (lease : LeaseSnapshot) (now : UtcTime) : LeaseRecord where
  leaseId := lease.leaseId
  sessionHash := if lease.sessionId = "" then none else some (prims.sha256 lease.sessionId)
  provider := lease.provider
  model := lease.model
  apiMode := lease.apiMode
  baseUrlHash := prims.sha256 lease.baseUrl
  authScopeHash := lease.authScopeHash
  routeFingerprint := lease.routeFingerprint
  requestFingerprint := lease.requestFingerprint
  cacheFingerprint := lease.cacheFingerprint
  systemFingerprint := lease.systemFingerprint
  toolsFingerprint := lease.toolsFingerprint
  historyPrefixFingerprint := lease.historyPrefixFingerprint
  lastRealRequestAt := lease.lastRealRequestAt
  lastCacheTouchAt := lease.lastCacheTouchAt
  lastConfirmedHitAt := lease.lastConfirmedHitAt
  estimatedTtlS := lease.estimatedTtlS
  ttlConfidence := lease.ttlConfidence
  activeTargets := sortedTexts lease.activeTargets
  generation := lease.generation
  warmCount := lease.warmCount
  warmCostUsd := lease.warmCostUsd
  estimatedColdResumeCostUsd := lease.estimatedColdResumeCostUsd
  estimatedCachedResumeCostUsd := lease.estimatedCachedResumeCostUsd
  state := lease.state.value
  updatedAt := now

/-- A profile as it is stored: without a time of its last change it is the time of the write. -/
def ProfileRecord.storedAt (profile : ProfileRecord) (now : UtcTime) : ProfileRecord :=
  { profile with updatedAt := some (profile.updatedAt.getD now) }

variable (texts : StorageTexts) (id : ℕ)

/-- A request event is read back from its row. -/
theorem rowToRequestEvent_inserted (event : RequestEventRecord) :
    rowToRequestEvent texts
        ((insertedRow id requestInsertColumns (requestValues texts event)).select requestEventColumns) =
      some (event.stored id) := by
  have columns : requestEventColumns = "id" :: requestInsertColumns := rfl
  rw [columns, select_inserted (by decide) rfl]
  simp [rowToRequestEvent, rowAt, requestValues, RequestEventRecord.stored]

/-- A churn event is read back from its row. -/
theorem rowToChurnEvent_inserted (churn : ChurnEventRecord) :
    rowToChurnEvent ((insertedRow id churnInsertColumns (churnValues churn)).select churnEventColumns) =
      some ⟨churn, id⟩ := by
  have columns : churnEventColumns = "id" :: churnInsertColumns := rfl
  rw [columns, select_inserted (by decide) rfl]
  simp [rowToChurnEvent, rowAt, churnValues]

/-- A lease is read back from its row. -/
theorem rowToLease_inserted (lease : LeaseSnapshot) (now : UtcTime) :
    rowToLease texts ((insertedRow id leaseInsertColumns (leaseValues texts lease now)).select leaseColumns) =
      some ⟨lease.record texts.prims now, id⟩ := by
  have columns : leaseColumns = "id" :: leaseInsertColumns := rfl
  rw [columns, select_inserted (by decide) rfl]
  simp [rowToLease, rowAt, leaseValues, LeaseSnapshot.record]

/-- A profile is read back from the values that were written. -/
theorem rowToProfile_written (profile : ProfileRecord) (now : UtcTime) :
    rowToProfile (profileValues profile now) = some (profile.storedAt now) := by
  simp [rowToProfile, rowAt, profileValues, ProfileRecord.storedAt]

/-- A TTL observation is read back from its row. -/
theorem rowToTtlObservation_inserted (obs : TtlObservationRecord) :
    rowToTtlObservation
        ((insertedRow id ttlObservationInsertColumns (ttlObservationValues obs)).select ttlObservationColumns) =
      some ⟨obs, id⟩ := by
  have columns : ttlObservationColumns = "id" :: ttlObservationInsertColumns := rfl
  rw [columns, select_inserted (by decide) rfl]
  simp [rowToTtlObservation, rowAt, ttlObservationValues]

/-- A route event is read back from its row. -/
theorem rowToRouteEvent_inserted (event : RouteEventRecord) :
    rowToRouteEvent ((insertedRow id routeInsertColumns (routeValues event)).select routeEventColumns) =
      some ⟨event, id⟩ := by
  have columns : routeEventColumns = "id" :: routeInsertColumns := rfl
  rw [columns, select_inserted (by decide) rfl]
  simp [rowToRouteEvent, rowAt, routeValues]

/-! ### Sample texts -/

/-- The sample primitives, with a text for every float. -/
def sampleStoragePrimitives : TextPrimitives :=
  { samplePrimitives with floatRepr := fun value => String.ofList (ratioText ['.', '0'] value) }

theorem read_sampleDecimal (value : ℚ) :
    some (readRatio (String.ofList (ratioText [] value)).toList) = some value := by
  rw [String.toList_ofList, readRatio_ratioText (Or.inl rfl)]

theorem read_sampleFloat (value : ℚ) :
    some (readRatio (sampleStoragePrimitives.floatRepr value).toList) = some value := by
  rw [sampleStoragePrimitives, String.toList_ofList, readRatio_ratioText (Or.inr rfl)]

/-- Texts of numbers, for integers those of the host. -/
def sampleStorageTexts : StorageTexts where
  prims := sampleStoragePrimitives
  decimalText value := String.ofList (ratioText [] value)
  readDecimal text := some (readRatio text.toList)
  read_decimalText := read_sampleDecimal
  read_floatRepr := read_sampleFloat

end CachePilot
