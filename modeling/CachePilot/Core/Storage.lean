/-
Module: CachePilot.Core.Storage
Layer: Core
Purpose: The lease table of the telemetry store: what a row holds of a lease, and the statements that write and
  read rows. A statement is one autocommit transaction. That no two rows have one lease id is the table's unique
  constraint, a field of the structure. Row ids grow and are never reused. The time of a write is a parameter.
Trusted boundary: the reading of the lease statements in storage.py; each statement is atomic
Main exports: LeaseRow, leaseRowValues, StoredLease, LeaseTable, LeaseTable.delete, LeaseTable.insert,
  LeaseTable.select, LeaseTable.updateLease, LeaseTable.listLeases
-/
import Mathlib.Data.Finset.Sort
import Mathlib.Data.String.Basic
import CachePilot.Core.Identity
import CachePilot.Core.Leases

namespace CachePilot

/-- The stored name of a state. -/
def LeaseState.value : LeaseState → String
  | .inactive => "inactive"
  | .armed => "armed"
  | .warmScheduled => "warm_scheduled"
  | .warming => "warming"
  | .economicStop => "economic_stop"
  | .invalidated => "invalidated"

theorem LeaseState.value_injective : Function.Injective LeaseState.value := by
  intro a b same
  cases a <;> cases b <;> first | rfl | exact absurd same (by decide)

/-- A list of texts as a JSON array. -/
def dumpTexts (texts : List String) : String :=
  String.ofList ('[' :: (QuotedText.joinWith [',', ' ']
    (texts.map fun text => QuotedText.quote text.toList) ++ [']']))

/-- What a row of the lease table holds besides its row id. -/
structure LeaseRow where
  leaseId : LeaseId
  sessionHash : Option String
  provider : String
  model : String
  apiMode : String
  baseUrlHash : String
  authScopeHash : String
  routeFingerprint : Option String
  requestFingerprint : String
  cacheFingerprint : String
  systemFingerprint : String
  toolsFingerprint : String
  historyPrefixFingerprint : String
  lastRealRequestAt : ℚ
  lastCacheTouchAt : Option ℚ
  lastConfirmedHitAt : Option ℚ
  estimatedTtlS : ℚ
  ttlConfidence : ℚ
  activeTargetsJson : String
  generation : ℕ
  warmCount : ℕ
  warmCostUsd : String
  estimatedColdResumeCostUsd : Option String
  estimatedCachedResumeCostUsd : Option String
  state : String
  updatedAt : ℚ
deriving DecidableEq

/-- The active targets of a lease, sorted, as they are stored. -/
def CacheLease.targetsText (lease : CacheLease) : String := dumpTexts (lease.activeTargets.sort (· ≤ ·))

/-- Serialise a live lease: session and URL are hashed, the targets are sorted, costs are texts. -/
def leaseRowValues (prims : TextPrimitives) (lease : CacheLease) (now : ℚ) : LeaseRow where
  leaseId := lease.leaseId
  sessionHash := if lease.sessionId = "" then none else some (prims.sha256 lease.sessionId)
  provider := lease.provider
  model := lease.model
  apiMode := lease.apiMode
  baseUrlHash := prims.sha256 lease.baseUrl
  authScopeHash := lease.authScopeHash
  routeFingerprint := lease.routeFingerprint
  requestFingerprint := lease.requestFingerprint
  cacheFingerprint := lease.cacheFingerprint
  systemFingerprint := lease.systemFingerprint
  toolsFingerprint := lease.toolsFingerprint
  historyPrefixFingerprint := lease.historyPrefixFingerprint
  lastRealRequestAt := lease.lastRealRequestAt
  lastCacheTouchAt := lease.lastCacheTouchAt
  lastConfirmedHitAt := lease.lastConfirmedHitAt
  estimatedTtlS := lease.estimatedTtlS
  ttlConfidence := lease.ttlConfidence
  activeTargetsJson := lease.targetsText
  generation := lease.generation
  warmCount := lease.warmCount
  warmCostUsd := prims.floatRepr lease.warmCostUsd
  estimatedColdResumeCostUsd := lease.estimatedColdResumeCostUsd.map prims.floatRepr
  estimatedCachedResumeCostUsd := lease.estimatedCachedResumeCostUsd.map prims.floatRepr
  state := lease.state.value
  updatedAt := now

/-- A row of the lease table. -/
structure StoredLease extends LeaseRow where
  id : ℕ
deriving DecidableEq

/-- The lease table, oldest row first, with the last row id that was given out. -/
structure LeaseTable where
  rows : List StoredLease
  sequence : ℕ
  unique : (rows.map fun row => row.leaseId).Nodup

namespace LeaseTable

/-- A new table. -/
def empty : LeaseTable := ⟨[], 0, List.nodup_nil⟩

theorem unique_delete (t : LeaseTable) (leaseId : LeaseId) :
    ((t.rows.filter fun row => row.leaseId ≠ leaseId).map fun row => row.leaseId).Nodup :=
  t.unique.sublist (List.filter_sublist.map _)

/-- `DELETE FROM leases WHERE lease_id = ?`. -/
def delete (t : LeaseTable) (leaseId : LeaseId) : LeaseTable where
  rows := t.rows.filter fun row => row.leaseId ≠ leaseId
  sequence := t.sequence
  unique := t.unique_delete leaseId

theorem unique_insert (t : LeaseTable) {values : LeaseRow}
    (new : ∀ row ∈ t.rows, row.leaseId ≠ values.leaseId) :
    ((t.rows ++ [{ values with id := t.sequence + 1 : StoredLease }]).map
      fun row => row.leaseId).Nodup := by
  rw [List.map_append, List.nodup_append]
  refine ⟨t.unique, List.nodup_singleton _, ?_⟩
  intro a listed b single same
  obtain ⟨row, member, rfl⟩ := List.mem_map.1 listed
  rw [List.map_singleton, List.mem_singleton] at single
  exact new row member (same.trans single)

/-- `INSERT INTO leases ...`; a lease id that is already there raises. -/
def insert (t : LeaseTable) (values : LeaseRow) : Option LeaseTable :=
  if new : ∀ row ∈ t.rows, row.leaseId ≠ values.leaseId then
    some
      { rows := t.rows ++ [{ values with id := t.sequence + 1 }]
        sequence := t.sequence + 1
        unique := t.unique_insert new }
  else none

/-- `SELECT ... FROM leases WHERE lease_id = ?`: what the rows of a lease hold. -/
def select (t : LeaseTable) (leaseId : LeaseId) : List LeaseRow :=
  (t.rows.filter fun row => row.leaseId = leaseId).map StoredLease.toLeaseRow

/-- The most recent rows, newest first. -/
def listLeases (t : LeaseTable) (limit : ℕ) : List StoredLease := t.rows.reverse.take limit

/-- Replace the stored snapshot of a lease: the two statements of an update, when both succeed. -/
def updateLease (t : LeaseTable) (values : LeaseRow) : Option LeaseTable :=
  (t.delete values.leaseId).insert values

/-! ### What a statement leaves of a lease -/

theorem select_delete (t : LeaseTable) (leaseId other : LeaseId) :
    (t.delete leaseId).select other = if other = leaseId then [] else t.select other := by
  unfold delete select
  rw [List.filter_filter]
  by_cases same : other = leaseId
  · subst same
    have none : ∀ row ∈ t.rows,
        ¬ (decide (row.leaseId = other) && decide (row.leaseId ≠ other)) = true := by
      intro row listed
      simp
    rw [if_pos rfl, List.filter_eq_nil_iff.2 none, List.map_nil]
  · rw [if_neg same]
    congr 1
    apply List.filter_congr
    intro row listed
    by_cases here : row.leaseId = other
    · simp [here, same]
    · simp [here]

theorem select_insert {t t' : LeaseTable} {values : LeaseRow} (inserted : t.insert values = some t')
    (other : LeaseId) :
    t'.select other = if other = values.leaseId then [values] else t.select other := by
  unfold insert at inserted
  split at inserted
  · rename_i new
    cases inserted
    unfold select
    rw [List.filter_append, List.map_append]
    by_cases same : other = values.leaseId
    · subst same
      have none : ∀ row ∈ t.rows, ¬ decide (row.leaseId = values.leaseId) = true := by
        intro row listed
        simpa using new row listed
      rw [if_pos rfl, List.filter_eq_nil_iff.2 none]
      simp
    · have different : ¬ values.leaseId = other := fun eq => same eq.symm
      simp [same, different]
  · cases inserted

/-- Behind its delete the insert of an update cannot meet the constraint. -/
theorem insert_isSome_iff {t : LeaseTable} {values : LeaseRow} :
    (t.insert values).isSome = true ↔ t.select values.leaseId = [] := by
  unfold insert select
  rw [List.map_eq_nil_iff, List.filter_eq_nil_iff]
  split
  · rename_i new
    simpa using new
  · rename_i old
    simpa using old

/-- No lease has two rows. -/
theorem length_select_le (t : LeaseTable) (leaseId : LeaseId) : (t.select leaseId).length ≤ 1 := by
  unfold select
  rw [List.length_map, ← List.countP_eq_length_filter]
  have once := List.nodup_iff_count_le_one.1 t.unique leaseId
  rw [List.count_eq_countP, List.countP_map] at once
  exact once

end LeaseTable

end CachePilot
