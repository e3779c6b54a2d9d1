/-
Module: CachePilot.Lib.KeyedLog
Layer: Lib
Purpose: Append-only logs whose rows have a key. The last row of a key is the row that a query by key,
  newest first and limited to one, returns. Appending a row changes the last row of its own key and of no
  other. The latest rows are those without a later row of their key. Rows may come without a key; every row has at most
  one row in front of it, the last one of its key.
Trusted boundary: none
Main exports: KeyedLog.lastFor, KeyedLog.lastFor_append, KeyedLog.lastFor_map,
  KeyedLog.latest, KeyedLog.latest_append, KeyedLog.previousOf, KeyedLog.withPrevious, KeyedLog.withPrevious_append
-/
import Mathlib.Data.List.Induction
import Mathlib.Tactic.Common

namespace KeyedLog

variable {K R : Type*} [DecidableEq K]

/-- The last row with this key. -/
def lastFor (key : R → K) (rows : List R) (k : K) : Option R :=
  rows.reverse.find? fun row => key row = k

variable {key : R → K} {rows : List R} {row : R} {k : K}

@[simp] theorem lastFor_nil : lastFor key [] k = none := rfl

/-- An appended row is the last one of its key, and of no other. -/
@[simp] theorem lastFor_append :
    lastFor key (rows ++ [row]) k = if key row = k then some row else lastFor key rows k := by
  unfold lastFor
  rw [List.reverse_append, List.reverse_singleton, List.singleton_append, List.find?_cons]
  by_cases same : key row = k
  · simp [same]
  · simp [same]

/-- The last row of a key is a row of the log. -/
theorem lastFor_mem (found : lastFor key rows k = some row) : row ∈ rows :=
  List.mem_reverse.1 (List.mem_of_find?_eq_some found)

/-- A log of images has the images of the last rows, when the keys agree. -/
theorem lastFor_map {Q : Type*} (f : R → Q) {key' : Q → K} (agree : ∀ row, key' (f row) = key row)
    (rows : List R) (k : K) : lastFor key' (rows.map f) k = (lastFor key rows k).map f := by
  induction rows using List.reverseRecOn with
  | nil => rfl
  | append_singleton rows row ih =>
      rw [List.map_append, List.map_singleton, lastFor_append, lastFor_append, agree, ih]
      split
      · rfl
      · rfl

/-- The rows without a later row of their key, in order. -/
def latest (key : R → K) : List R → List R
  | [] => []
  | row :: later => if later.any fun other => key other = key row then latest key later else row :: latest key later

/-- An appended row replaces the latest one of its key. -/
theorem latest_append (rows : List R) (row : R) :
    latest key (rows ++ [row]) = (latest key rows).filter (fun other => key other ≠ key row) ++ [row] := by
  induction rows with
  | nil => rfl
  | cons first later ih =>
      rw [List.cons_append, latest, latest, List.any_append, ih]
      by_cases again : (later.any fun other => key other = key first) = true
      · simp [again]
      · by_cases same : key row = key first
        · simp [again, same]
        · have differ : ¬key first = key row := fun eq => same eq.symm
          simp [again, same, differ]

/-! ### Rows with a key or without -/

section Previous

variable {key : R → Option K}

/-- The row in front of a new one: the last row of its key. A row without a key has none in front of it. -/
def previousOf (key : R → Option K) (before : List R) (row : R) : Option R :=
  (key row).bind fun k => lastFor key before (some k)

/-- Rows with the ones in front of them, behind some rows that are there already. -/
def withPreviousFrom (key : R → Option K) (before : List R) : List R → List (Option R × R)
  | [] => []
  | row :: later => (previousOf key before row, row) :: withPreviousFrom key (before ++ [row]) later

/-- Every row of a log with the one in front of it. -/
def withPrevious (key : R → Option K) (rows : List R) : List (Option R × R) := withPreviousFrom key [] rows

theorem withPreviousFrom_append (before rows : List R) (row : R) :
    withPreviousFrom key before (rows ++ [row]) =
      withPreviousFrom key before rows ++ [(previousOf key (before ++ rows) row, row)] := by
  induction rows generalizing before with
  | nil =>
      rw [List.append_nil]
      rfl
  | cons first later ih =>
      rw [List.cons_append, withPreviousFrom, ih, withPreviousFrom, List.append_assoc, List.singleton_append,
        List.cons_append]

/-- A new row comes with the last one of its key, and leaves the rows in front as they are. -/
@[simp] theorem withPrevious_append (rows : List R) (row : R) :
    withPrevious key (rows ++ [row]) = withPrevious key rows ++ [(previousOf key rows row, row)] :=
  withPreviousFrom_append [] rows row

/-- The rows themselves are those of the log. -/
theorem map_snd_withPrevious (rows : List R) : (withPrevious key rows).map Prod.snd = rows := by
  induction rows using List.reverseRecOn with
  | nil => rfl
  | append_singleton rows row ih => rw [withPrevious_append, List.map_append, ih, List.map_singleton]

/-- A row and the one in front of it are rows of the log. -/
theorem mem_of_withPrevious {rows : List R} {previous row : R} (listed : (some previous, row) ∈ withPrevious key rows) :
    previous ∈ rows ∧ row ∈ rows := by
  constructor
  · induction rows using List.reverseRecOn with
    | nil => cases listed
    | append_singleton rows last ih =>
        rw [withPrevious_append, List.mem_append, List.mem_singleton, Prod.mk.injEq] at listed
        refine List.mem_append_left _ ?_
        rcases listed with earlier | ⟨front, -⟩
        · exact ih earlier
        · obtain ⟨k, -, found⟩ := Option.bind_eq_some_iff.mp front.symm
          exact List.mem_reverse.mp (List.mem_of_find?_eq_some found)
  · have rowed := List.mem_map_of_mem (f := Prod.snd) listed
    rwa [map_snd_withPrevious] at rowed

end Previous

end KeyedLog
