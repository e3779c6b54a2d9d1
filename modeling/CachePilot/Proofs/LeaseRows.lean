/-
Module: CachePilot.Proofs.LeaseRows
Layer: Proofs
Purpose: An update of a lease row against an update that happens at once. The store deletes the old row in one
  transaction and inserts the new one in another; readers on other connections read between any two of them, and
  the insert may fail. Next to the table the state keeps what a store with an atomic update would hold.
Trusted boundary: none
Main exports: ObservedStore, StoreAction, storeStep, update_lease_atomic_exact
-/
import CachePilot.Core.Storage
import CachePilot.Lib.Execution

namespace CachePilot

/-- The lease table, the row of an update between its two statements, and the rows of a store whose updates are
    atomic. -/
structure ObservedStore where
  table : LeaseTable
  writing : Option LeaseRow := none
  atomic : LeaseId → Option LeaseRow

/-- A store before any update, with this table. -/
def ObservedStore.idle (table : LeaseTable) : ObservedStore where
  table := table
  atomic := fun leaseId => (table.select leaseId).head?

/-- The statements of updates and of readers. The updates of one store come one after the other, under its
    lock. -/
inductive StoreAction where
  | deleteRow (values : LeaseRow)
  | deleteFails (values : LeaseRow)
  | insertRow
  | insertFails
  | readRows (leaseId : LeaseId)
deriving DecidableEq

/-- One statement. -/
def storeStep (s : ObservedStore) : StoreAction → Option ObservedStore
  | .deleteRow values =>
      match s.writing with
      | some _ => none
      | none => some { s with table := s.table.delete values.leaseId, writing := some values }
  | .deleteFails _ =>
      match s.writing with
      | some _ => none
      | none => some s
  | .insertRow =>
      match s.writing with
      | none => none
      | some values =>
          (s.table.insert values).map fun table =>
            { table
              atomic := fun leaseId =>
                if leaseId = values.leaseId then some values else s.atomic leaseId }
  | .insertFails =>
      match s.writing with
      | none => none
      | some _ => some { s with writing := none }
  | .readRows _ => some s

namespace ObservedStore

/-- The rows of a lease are the one snapshot that an atomic store has of it, or the new one of the update that is
    under way. -/
def SeesSnapshot (s : ObservedStore) (leaseId : LeaseId) : Prop :=
  s.table.select leaseId = (s.atomic leaseId).toList ∨
    ∃ values, s.writing = some values ∧ values.leaseId = leaseId ∧ s.table.select leaseId = [values]

/-- The rows of every lease are those of the atomic store. -/
def Restored (s : ObservedStore) : Prop :=
  ∀ leaseId, s.table.select leaseId = (s.atomic leaseId).toList

/-- The rows of every lease are those of the atomic store, but the lease of the update under way has none. -/
def Consistent (s : ObservedStore) : Prop :=
  ∀ leaseId, s.table.select leaseId =
    if s.writing.any (fun values => values.leaseId = leaseId) then []
    else (s.atomic leaseId).toList

theorem consistent_idle (table : LeaseTable) : (idle table).Consistent := by
  intro leaseId
  have bound := table.length_select_le leaseId
  simp only [idle, Option.any_none, Bool.false_eq_true, if_false]
  cases rows : table.select leaseId with
  | nil => rfl
  | cons row rest =>
      rw [rows, List.length_cons] at bound
      have none : rest = [] := List.length_eq_zero_iff.1 (by omega)
      rw [none]
      rfl

theorem consistent_iff_restored {s : ObservedStore} (unwritten : s.writing = none) :
    s.Consistent ↔ s.Restored := by
  simp [Consistent, Restored, unwritten]

/-- Beside the lease of the update under way a reader sees the snapshot; there it sees nothing. -/
theorem seesSnapshot_iff {s : ObservedStore} (consistent : s.Consistent) (leaseId : LeaseId) :
    s.SeesSnapshot leaseId ↔
      ∀ values, s.writing = some values → values.leaseId = leaseId → s.atomic leaseId = none := by
  have rows := consistent leaseId
  cases writing : s.writing with
  | none =>
      simp only [writing, Option.any_none, Bool.false_eq_true, if_false] at rows
      simp [SeesSnapshot, rows]
  | some values =>
      by_cases here : values.leaseId = leaseId
      · simp only [writing, Option.any_some, here, decide_true, if_true] at rows
        have unseen : ∀ found, ¬ (s.writing = some found ∧ found.leaseId = leaseId ∧
            ([] : List LeaseRow) = [found]) := by simp
        simp only [SeesSnapshot, rows, not_exists.2 unseen, or_false, Option.some.injEq, forall_eq',
          here, forall_const]
        cases s.atomic leaseId <;> simp
      · simp only [writing, Option.any_some, here, decide_false, Bool.false_eq_true, if_false] at rows
        simp [SeesSnapshot, rows, here]

end ObservedStore

/-- What an atomic update promises of a statement: a reader sees one snapshot, and an update that raises leaves
    the old row. -/
def KeepsSnapshots (s : ObservedStore) (a : StoreAction) (t : ObservedStore) : Prop :=
  match a with
  | .readRows leaseId => s.SeesSnapshot leaseId
  | .insertFails | .deleteFails _ => t.Restored
  | .deleteRow _ | .insertRow => True

/-- No reader looks at a lease whose old row an update has deleted, and no insert fails behind such a delete. -/
def Undisturbed (s : ObservedStore) : StoreAction → Prop
  | .readRows leaseId =>
      ∀ values, s.writing = some values → values.leaseId = leaseId → s.atomic leaseId = none
  | .insertFails => ∀ values, s.writing = some values → s.atomic values.leaseId = none
  | .deleteRow _ | .deleteFails _ | .insertRow => True

/-- A statement that does not fail keeps the table consistent. -/
theorem consistent_deleteRow {s t : ObservedStore} {values : LeaseRow} (consistent : s.Consistent)
    (stepped : storeStep s (.deleteRow values) = some t) : t.Consistent := by
  unfold storeStep at stepped
  cases writing : s.writing with
  | some other =>
      rw [writing] at stepped
      cases stepped
  | none =>
      rw [writing] at stepped
      cases stepped
      intro leaseId
      have rows := (ObservedStore.consistent_iff_restored writing).1 consistent leaseId
      rw [LeaseTable.select_delete, rows, Option.any_some]
      by_cases here : leaseId = values.leaseId
      · simp [here]
      · have different : ¬ values.leaseId = leaseId := fun eq => here eq.symm
        simp [here, different]

theorem consistent_insertRow {s t : ObservedStore} (consistent : s.Consistent)
    (stepped : storeStep s .insertRow = some t) : t.Consistent := by
  unfold storeStep at stepped
  cases writing : s.writing with
  | none =>
      rw [writing] at stepped
      cases stepped
  | some values =>
      rw [writing] at stepped
      obtain ⟨table, inserted, rfl⟩ := Option.map_eq_some_iff.1 stepped
      intro leaseId
      have rows := consistent leaseId
      simp only [writing, Option.any_some] at rows
      simp only [Option.any_none, Bool.false_eq_true, if_false]
      rw [LeaseTable.select_insert inserted]
      by_cases here : leaseId = values.leaseId
      · simp [here]
      · have different : ¬ values.leaseId = leaseId := fun eq => here eq.symm
        simpa [here, different] using rows

theorem writing_insertRow {s t : ObservedStore} (stepped : storeStep s .insertRow = some t) :
    t.writing = none := by
  unfold storeStep at stepped
  cases writing : s.writing with
  | none =>
      rw [writing] at stepped
      cases stepped
  | some values =>
      rw [writing] at stepped
      obtain ⟨table, -, rfl⟩ := Option.map_eq_some_iff.1 stepped
      rfl

/-- An insert that fails keeps the old rows exactly when there was none to replace. -/
theorem restored_insertFails_iff {s t : ObservedStore} (consistent : s.Consistent)
    (stepped : storeStep s .insertFails = some t) : t.Restored ↔ Undisturbed s .insertFails := by
  unfold storeStep at stepped
  cases writing : s.writing with
  | none =>
      rw [writing] at stepped
      cases stepped
  | some values =>
      rw [writing] at stepped
      cases stepped
      simp only [Undisturbed, ObservedStore.Restored, writing, Option.some.injEq, forall_eq']
      constructor
      · intro restored
        have rows := consistent values.leaseId
        simp only [writing, Option.any_some, decide_true, if_true] at rows
        have gone := restored values.leaseId
        rw [rows] at gone
        exact Option.toList_eq_nil_iff.1 gone.symm
      · intro fresh leaseId
        have rows := consistent leaseId
        simp only [writing, Option.any_some] at rows
        rw [rows]
        by_cases here : values.leaseId = leaseId
        · subst here
          simp [fresh]
        · simp [here]

/-- A statement is exactly as good as its guard. -/
theorem keepsSnapshots_iff {s t : ObservedStore} {a : StoreAction} (consistent : s.Consistent)
    (stepped : storeStep s a = some t) : KeepsSnapshots s a t ↔ Undisturbed s a := by
  cases a with
  | deleteRow values => exact Iff.rfl
  | deleteFails values =>
      unfold storeStep at stepped
      cases writing : s.writing with
      | some other =>
          rw [writing] at stepped
          cases stepped
      | none =>
          rw [writing] at stepped
          cases stepped
          exact iff_of_true ((ObservedStore.consistent_iff_restored writing).1 consistent) trivial
  | insertRow => exact Iff.rfl
  | insertFails => exact restored_insertFails_iff consistent stepped
  | readRows leaseId => exact ObservedStore.seesSnapshot_iff consistent leaseId

theorem consistent_of_keepsSnapshots {s t : ObservedStore} {a : StoreAction} (consistent : s.Consistent)
    (stepped : storeStep s a = some t) (keeps : KeepsSnapshots s a t) : t.Consistent := by
  cases a with
  | deleteRow values => exact consistent_deleteRow consistent stepped
  | deleteFails values =>
      unfold storeStep at stepped
      cases writing : s.writing with
      | some other =>
          rw [writing] at stepped
          cases stepped
      | none =>
          rw [writing] at stepped
          cases stepped
          exact consistent
  | insertRow => exact consistent_insertRow consistent stepped
  | insertFails =>
      unfold storeStep at stepped
      cases writing : s.writing with
      | none =>
          rw [writing] at stepped
          cases stepped
      | some values =>
          rw [writing] at stepped
          cases stepped
          exact (ObservedStore.consistent_iff_restored rfl).2 keeps
  | readRows leaseId =>
      cases stepped
      exact consistent

/-- Updates of lease rows, over any table and any interleaving of statements. Every reader sees for its lease
    exactly the previous or the new snapshot, and every update that raises leaves the previous row, if and only
    if no reader looks at a lease, and no insert fails, between the delete of an old row and the insert of its
    replacement. -/
theorem update_lease_atomic_exact {table : LeaseTable} {t : ObservedStore} {acts : List StoreAction}
    (run : Execution.exec storeStep (.idle table) acts = some t) :
    Execution.EveryStep storeStep KeepsSnapshots (.idle table) acts ↔
      Execution.Along storeStep Undisturbed (.idle table) acts := by
  apply Execution.everyStep_iff_along_of_keeps (P := ObservedStore.Consistent) _ run
  · intro before a after u v split reached stepped consistent
    exact keepsSnapshots_iff consistent stepped
  · intro before a after u v split reached stepped consistent keeps
    exact consistent_of_keepsSnapshots consistent stepped keeps
  · exact ObservedStore.consistent_idle table

/-- A row of one lease, told apart by its generation. -/
def sampleRow (generation : ℕ) : LeaseRow where
  leaseId := 0
  sessionHash := none
  provider := "provider"
  model := "model"
  apiMode := "chat"
  baseUrlHash := "url"
  authScopeHash := "auth"
  routeFingerprint := none
  requestFingerprint := "request"
  cacheFingerprint := "fp"
  systemFingerprint := "system"
  toolsFingerprint := "tools"
  historyPrefixFingerprint := "history"
  lastRealRequestAt := 0
  lastCacheTouchAt := none
  lastConfirmedHitAt := none
  estimatedTtlS := 300
  ttlConfidence := 1
  activeTargetsJson := "[]"
  generation := generation
  warmCount := 0
  warmCostUsd := "0.0"
  estimatedColdResumeCostUsd := none
  estimatedCachedResumeCostUsd := none
  state := "inactive"
  updatedAt := 0

/-- The first row of the lease is written, its replacement follows, and a reader comes before and after. -/
theorem update_lease_atomic_undisturbed :
    Execution.EveryStep storeStep KeepsSnapshots (.idle .empty)
      [.deleteRow (sampleRow 1), .insertRow, .readRows 0, .deleteRow (sampleRow 2)] := by
  have run : Execution.exec storeStep (.idle .empty)
      [.deleteRow (sampleRow 1), .insertRow, .readRows 0, .deleteRow (sampleRow 2)] =
        some (Execution.final storeStep (.idle .empty)
          [.deleteRow (sampleRow 1), .insertRow, .readRows 0, .deleteRow (sampleRow 2)]) :=
    Execution.exec_eq_final (by decide +kernel)
  apply (update_lease_atomic_exact run).2
  refine ⟨trivial, fun u deleted => ⟨trivial, fun v inserted => ⟨?_, fun w read => ⟨trivial, ?_⟩⟩⟩⟩
  · intro values writing
    rw [writing_insertRow inserted] at writing
    cases writing
  · intro x deleted
    trivial

/-- A reader looks at the lease between the delete and the insert of its second row, and finds no row. -/
theorem update_lease_seen_empty :
    ¬ ∀ (table : LeaseTable) (t : ObservedStore) (acts : List StoreAction),
      Execution.exec storeStep (.idle table) acts = some t →
        Execution.EveryStep storeStep KeepsSnapshots (.idle table) acts := by
  intro atomic
  have before : Execution.exec storeStep (.idle .empty)
      [.deleteRow (sampleRow 1), .insertRow, .deleteRow (sampleRow 2)] =
        some (Execution.final storeStep (.idle .empty)
          [.deleteRow (sampleRow 1), .insertRow, .deleteRow (sampleRow 2)]) :=
    Execution.exec_eq_final (by decide +kernel)
  have keeps : KeepsSnapshots _ (.readRows 0) _ :=
    atomic .empty _ _ (Execution.exec_snoc before rfl) _ _ [] _ _ rfl before rfl
  rcases keeps with old | ⟨values, -, -, new⟩
  · revert old
    decide +kernel
  · have empty : (Execution.final storeStep (.idle .empty)
        [.deleteRow (sampleRow 1), .insertRow, .deleteRow (sampleRow 2)]).table.select 0 = [] := by
      decide +kernel
    rw [empty] at new
    cases new

/-- An insert that fails leaves the lease without its previous row. -/
example :
    (Execution.final storeStep (.idle .empty) [.deleteRow (sampleRow 1), .insertRow,
      .deleteRow (sampleRow 2), .insertFails]).table.select 0 = [] := by
  decide +kernel

end CachePilot
