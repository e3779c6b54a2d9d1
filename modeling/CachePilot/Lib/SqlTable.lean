/-
Module: CachePilot.Lib.SqlTable
Layer: Lib
Purpose: Tables of named columns, as SQL statements write and read them. An INSERT gives values to the columns it
  names, position by position, and a SELECT reads the columns it names into a row of values. A row that is read
  with the columns it was written with holds the values in their places. Row ids grow with the inserts.
Trusted boundary: none
Main exports: SqlValue, SqlRow, SqlRow.select, SqlTable, SqlTable.insert, SqlTable.deleteWhere,
  SqlTable.upsert, SqlTable.countWhere, SqlTable.newest, SqlRow.select_zip, SqlTable.select_inserted,
  SqlTable.Holds, SqlTable.Holds.insert, SqlTable.Holds.deleteWhere, SqlTable.Holds.read_newest,
  SqlTable.Holds.read_filter, SqlTable.Holds.countWhere, SqlTable.Holds.any_rows, SqlTable.Holds.find_newest
-/
import Mathlib.Data.List.Nodup
import Mathlib.Data.Rat.Defs
import Mathlib.Data.String.Basic

namespace CachePilot

/-- A value of a column. -/
inductive SqlValue where
  | null
  | integer (value : ℤ)
  | real (value : ℚ)
  | text (value : String)
deriving DecidableEq

namespace SqlValue

/-- A text or NULL. -/
def ofText (value : Option String) : SqlValue := value.elim .null .text

/-- A float or NULL. -/
def ofReal (value : Option ℚ) : SqlValue := value.elim .null .real

/-- A natural number. -/
def ofNat (value : ℕ) : SqlValue := .integer value

/-- A natural number or NULL. -/
def ofNat? (value : Option ℕ) : SqlValue := value.elim .null .ofNat

/-- A flag as an integer. -/
def ofFlag (value : Bool) : SqlValue := .integer (if value then 1 else 0)

/-- Read a text. -/
def text? : SqlValue → Option String
  | .text value => some value
  | _ => none

/-- Read a natural number. -/
def nat? : SqlValue → Option ℕ
  | .integer (.ofNat value) => some value
  | _ => none

/-- Read a float. -/
def real? : SqlValue → Option ℚ
  | .real value => some value
  | .integer value => some value
  | _ => none

/-- Read a flag. -/
def flag? : SqlValue → Option Bool
  | .integer value => some (decide (value ≠ 0))
  | _ => none

/-- Read a value that may be NULL. -/
def nullable {α : Type} (read : SqlValue → Option α) : SqlValue → Option (Option α)
  | .null => some none
  | value => (read value).map some

/-- Read a text or NULL. -/
def nullText? (value : SqlValue) : Option (Option String) := nullable text? value

/-- Read a float or NULL. -/
def nullReal? (value : SqlValue) : Option (Option ℚ) := nullable real? value

/-- Read a natural number or NULL. -/
def nullNat? (value : SqlValue) : Option (Option ℕ) := nullable nat? value

/-- `<=` between texts; NULL compares with nothing. -/
def textLe : SqlValue → SqlValue → Bool
  | .text value, .text bound => value ≤ bound
  | _, _ => false

@[simp] theorem text?_text (value : String) : (SqlValue.text value).text? = some value := rfl

@[simp] theorem nat?_ofNat (value : ℕ) : (ofNat value).nat? = some value := rfl

@[simp] theorem real?_real (value : ℚ) : (SqlValue.real value).real? = some value := rfl

@[simp] theorem flag?_ofFlag (value : Bool) : (ofFlag value).flag? = some value := by
  cases value <;> rfl

@[simp] theorem nullText?_ofText (value : Option String) : (ofText value).nullText? = some value := by
  cases value <;> rfl

@[simp] theorem nullReal?_ofReal (value : Option ℚ) : (ofReal value).nullReal? = some value := by
  cases value <;> rfl

@[simp] theorem nullNat?_ofNat? (value : Option ℕ) : (ofNat? value).nullNat? = some value := by
  cases value <;> rfl

end SqlValue

/-- A row: the values of its columns. A column that was not written is NULL. -/
abbrev SqlRow := List (String × SqlValue)

namespace SqlRow

/-- The value of a column. -/
def column (row : SqlRow) (name : String) : SqlValue := (row.lookup name).getD .null

/-- The columns that a query names, in its order. -/
def select (columns : List String) (row : SqlRow) : List SqlValue := columns.map row.column

/-- The row with the values of another one in some columns. -/
def update (row : SqlRow) (columns : List String) (other : SqlRow) : SqlRow :=
  row.map fun entry => (entry.1, if entry.1 ∈ columns then other.column entry.1 else entry.2)

/-- A column that is not the first one of a row. -/
theorem column_cons_of_ne {name other : String} (differ : other ≠ name) (value : SqlValue) (row : SqlRow) :
    column ((name, value) :: row) other = column row other := by
  rw [column, List.lookup_cons, beq_eq_false_iff_ne.mpr differ, column]

@[simp] theorem column_cons_self (name : String) (value : SqlValue) (row : SqlRow) :
    column ((name, value) :: row) name = value := by
  rw [column, List.lookup_cons, beq_self_eq_true]
  rfl

/-- The columns of a row that was written with them hold its values in their places. -/
theorem select_zip {columns : List String} (distinct : columns.Nodup) {values : List SqlValue}
    (wide : values.length = columns.length) : select columns (columns.zip values) = values := by
  induction columns generalizing values with
  | nil => rw [List.eq_nil_of_length_eq_zero wide]; rfl
  | cons name rest ih =>
      cases values with
      | nil => cases wide
      | cons value values =>
          rw [List.nodup_cons] at distinct
          have later := ih distinct.2 (Nat.succ.inj wide)
          rw [List.zip_cons_cons, select, List.map_cons, column_cons_self]
          rw [select] at later
          refine congrArg (value :: ·) (Eq.trans (List.map_congr_left fun other listed => ?_) later)
          exact column_cons_of_ne (ne_of_mem_of_not_mem listed distinct.1) value _

end SqlRow

/-- A table with a row id, oldest row first, and the last row id that was given out. -/
structure SqlTable where
  rows : List SqlRow := []
  sequence : ℕ := 0

namespace SqlTable

/-- The row of an INSERT. -/
def insertedRow (id : ℕ) (columns : List String) (values : List SqlValue) : SqlRow :=
  ("id", .ofNat id) :: columns.zip values

/-- `INSERT INTO ... (columns) VALUES (values)`; the row id is the next one. -/
def insert (t : SqlTable) (columns : List String) (values : List SqlValue) : SqlTable where
  rows := t.rows ++ [insertedRow (t.sequence + 1) columns values]
  sequence := t.sequence + 1

/-- `DELETE FROM ... WHERE name = value`. -/
def deleteWhere (t : SqlTable) (name : String) (value : SqlValue) : SqlTable :=
  { t with rows := t.rows.filter fun row => row.column name ≠ value }

/-- `SELECT COUNT(*) ... WHERE name = value`. -/
def countWhere (t : SqlTable) (name : String) (value : SqlValue) : ℕ :=
  t.rows.countP fun row => row.column name = value

/-- `INSERT INTO ... ON CONFLICT(key) DO UPDATE SET`: the row with this key takes the new values of the updated
    columns, or a new row is written. -/
def upsert (t : SqlTable) (columns : List String) (values : List SqlValue) (key : String) (updated : List String) :
    SqlTable :=
  let new : SqlRow := columns.zip values
  if t.rows.any fun row => row.column key = new.column key then
    { t with rows := t.rows.map fun row => if row.column key = new.column key then row.update updated new else row }
  else { t with rows := t.rows ++ [new] }

/-- `LIMIT`; a negative limit is none. -/
def limited {α : Type} (limit : ℤ) (rows : List α) : List α :=
  if limit < 0 then rows else rows.take limit.toNat

/-- `ORDER BY id DESC LIMIT`. -/
def newest (t : SqlTable) (limit : ℤ) : List SqlRow := limited limit t.rows.reverse

/-- A limit that covers the rows. -/
def Covers (limit : ℤ) (count : ℕ) : Prop := limit < 0 ∨ (count : ℤ) ≤ limit

theorem limited_of_covers {α : Type} {limit : ℤ} {rows : List α} (covers : Covers limit rows.length) :
    limited limit rows = rows := by
  unfold limited
  split
  · rfl
  · rename_i bounded
    exact List.take_of_length_le (by rcases covers with unbounded | enough <;> omega)

/-- The columns of an inserted row, with its row id in front. -/
theorem select_inserted {id : ℕ} {columns : List String} (distinct : ("id" :: columns).Nodup)
    {values : List SqlValue} (wide : values.length = columns.length) :
    SqlRow.select ("id" :: columns) (insertedRow id columns values) = .ofNat id :: values := by
  rw [List.nodup_cons] at distinct
  rw [insertedRow, SqlRow.select, List.map_cons, SqlRow.column_cons_self]
  refine congrArg (SqlValue.ofNat id :: ·)
    (Eq.trans (List.map_congr_left fun other listed => ?_) (SqlRow.select_zip distinct.2 wide))
  exact SqlRow.column_cons_of_ne (ne_of_mem_of_not_mem listed distinct.1) _ _

/-! ### Tables that hold records -/

section Records

variable {R P Q : Type} {columns : List String} {values : R → List SqlValue}

/-- The rows of a table are those of the records, in their order, whatever their row ids. -/
def Holds (t : SqlTable) (columns : List String) (values : R → List SqlValue) (records : List R) : Prop :=
  ∃ entries : List (ℕ × R),
    t.rows = entries.map (fun entry => insertedRow entry.1 columns (values entry.2)) ∧
      entries.map Prod.snd = records

/-- A new table holds nothing. -/
theorem holds_empty : Holds {} columns values [] := ⟨[], rfl, rfl⟩

/-- An insert adds a record at the end. -/
theorem Holds.insert {t : SqlTable} {records : List R} (holds : Holds t columns values records) (record : R) :
    Holds (t.insert columns (values record)) columns values (records ++ [record]) := by
  obtain ⟨entries, rows, rfl⟩ := holds
  refine ⟨entries ++ [(t.sequence + 1, record)], ?_, ?_⟩
  · rw [SqlTable.insert, rows, List.map_append]
    rfl
  · rw [List.map_append]
    rfl

/-- A delete removes the records with this value of the column. -/
theorem Holds.deleteWhere {t : SqlTable} {records : List R} (holds : Holds t columns values records)
    {name : String} {key : R → SqlValue}
    (written : ∀ id record, SqlRow.column (insertedRow id columns (values record)) name = key record)
    (value : SqlValue) :
    Holds (t.deleteWhere name value) columns values (records.filter fun record => key record ≠ value) := by
  obtain ⟨entries, rows, rfl⟩ := holds
  refine ⟨entries.filter fun entry => key entry.2 ≠ value, ?_, ?_⟩
  · rw [SqlTable.deleteWhere, rows, List.filter_map]
    simp only [Function.comp_def, written]
  · rw [List.filter_map]
    rfl

theorem limited_map {α β : Type} (f : α → β) (limit : ℤ) (rows : List α) :
    limited limit (rows.map f) = (limited limit rows).map f := by
  unfold limited
  split
  · rfl
  · exact List.map_take.symm

/-- Rows that all read give the list of what they read as. -/
theorem mapM_eq_map {α β : Type} {read : α → Option β} {f : α → β} (rows : List α)
    (reads : ∀ row ∈ rows, read row = some (f row)) : rows.mapM read = some (rows.map f) := by
  induction rows with
  | nil => rfl
  | cons row rest ih =>
      rw [List.forall_mem_cons] at reads
      rw [List.mapM_cons, reads.1, ih reads.2]
      rfl

/-- Rows of which the front is read are read like the front of all. -/
theorem mapM_take {α β : Type} {read : α → Option β} {rows : List α} {values : List β}
    (all : rows.mapM read = some values) (limit : ℕ) : (rows.take limit).mapM read = some (values.take limit) := by
  induction rows generalizing values limit with
  | nil =>
      rw [List.mapM_nil] at all
      cases all
      rw [List.take_nil, List.take_nil, List.mapM_nil]
      rfl
  | cons row rest ih =>
      cases limit with
      | zero =>
          rw [List.take_zero, List.take_zero, List.mapM_nil]
          rfl
      | succ limit =>
          rw [List.mapM_cons] at all
          obtain ⟨value, first, all⟩ := Option.bind_eq_some_iff.mp all
          obtain ⟨later, others, shape⟩ := Option.bind_eq_some_iff.mp all
          cases shape
          rw [List.take_succ_cons, List.mapM_cons, first, List.take_succ_cons]
          change ((rest.take limit).mapM read).bind _ = _
          rw [ih others]
          rfl

variable (read : SqlRow → Option Q) (part : Q → P) (f : R → P)

/-- Rows of records are read as these records. -/
theorem read_entries (row : ℕ → R → Q)
    (reads : ∀ id record, read (insertedRow id columns (values record)) = some (row id record))
    (parts : ∀ id record, part (row id record) = f record) (entries : List (ℕ × R)) :
    ((entries.map fun entry => insertedRow entry.1 columns (values entry.2)).mapM read).map (List.map part) =
      some ((entries.map Prod.snd).map f) := by
  have each : ∀ entry ∈ entries,
      (read ∘ fun entry : ℕ × R => insertedRow entry.1 columns (values entry.2)) entry =
        some (row entry.1 entry.2) := fun entry _ => reads entry.1 entry.2
  rw [List.mapM_map, mapM_eq_map entries each, Option.map_some, List.map_map, List.map_map]
  exact congrArg some (List.map_congr_left fun entry _ => parts entry.1 entry.2)

/-- The newest rows of a table are read as the newest records. -/
theorem Holds.read_newest {t : SqlTable} {records : List R} (holds : Holds t columns values records)
    (row : ℕ → R → Q)
    (reads : ∀ id record, read (insertedRow id columns (values record)) = some (row id record))
    (parts : ∀ id record, part (row id record) = f record) (limit : ℤ) :
    ((t.newest limit).mapM read).map (List.map part) = some ((limited limit records.reverse).map f) := by
  obtain ⟨entries, rows, rfl⟩ := holds
  rw [newest, rows, ← List.map_reverse, limited_map, read_entries read part f row reads parts, ← limited_map,
    List.map_reverse]

/-- The newest rows with a value of a column are read as the newest records with this value. -/
theorem Holds.read_matching {t : SqlTable} {records : List R} (holds : Holds t columns values records)
    (row : ℕ → R → Q)
    (reads : ∀ id record, read (insertedRow id columns (values record)) = some (row id record))
    (parts : ∀ id record, part (row id record) = f record) {name : String} {key : R → SqlValue}
    (written : ∀ id record, SqlRow.column (insertedRow id columns (values record)) name = key record)
    (value : SqlValue) (limit : ℤ) :
    ((limited limit (t.rows.reverse.filter fun row => row.column name = value)).mapM read).map (List.map part) =
      some ((limited limit (records.reverse.filter fun record => key record = value)).map f) := by
  obtain ⟨entries, rows, rfl⟩ := holds
  rw [rows, ← List.map_reverse, List.filter_map, limited_map, read_entries read part f row reads parts, ← limited_map,
    ← List.map_reverse, List.filter_map]
  simp only [Function.comp_def, written]

/-- The rows that meet a condition are read as the records that meet the condition that it states of them. -/
theorem Holds.read_filter {t : SqlTable} {records : List R} (holds : Holds t columns values records)
    (row : ℕ → R → Q)
    (reads : ∀ id record, read (insertedRow id columns (values record)) = some (row id record))
    (parts : ∀ id record, part (row id record) = f record) {condition : SqlRow → Bool} {states : R → Bool}
    (agree : ∀ id record, condition (insertedRow id columns (values record)) = states record) :
    ((t.rows.filter condition).mapM read).map (List.map part) = some ((records.filter states).map f) := by
  obtain ⟨entries, rows, rfl⟩ := holds
  have matched : (condition ∘ fun entry : ℕ × R => insertedRow entry.1 columns (values entry.2)) =
      states ∘ Prod.snd := funext fun entry => agree entry.1 entry.2
  rw [rows, List.filter_map, matched, read_entries read part f row reads parts, List.filter_map]

/-- As many rows meet a condition as records meet the condition that it states of them. -/
theorem Holds.countP_rows {t : SqlTable} {records : List R} (holds : Holds t columns values records)
    {condition : SqlRow → Bool} {states : R → Bool}
    (agree : ∀ id record, condition (insertedRow id columns (values record)) = states record) :
    t.rows.countP condition = records.countP states := by
  obtain ⟨entries, rows, rfl⟩ := holds
  rw [rows, List.countP_map, List.countP_map]
  exact congrArg (List.countP · entries) (funext fun entry => agree entry.1 entry.2)

/-- As many rows have a value of a column as records have it. -/
theorem Holds.countWhere {t : SqlTable} {records : List R} (holds : Holds t columns values records)
    {name : String} {key : R → SqlValue}
    (written : ∀ id record, SqlRow.column (insertedRow id columns (values record)) name = key record)
    (value : SqlValue) : t.countWhere name value = records.countP fun record => key record = value :=
  holds.countP_rows fun id record => by rw [written]

/-- A table has as many rows as records. -/
theorem Holds.length_rows {t : SqlTable} {records : List R} (holds : Holds t columns values records) :
    t.rows.length = records.length := by
  obtain ⟨entries, rows, rfl⟩ := holds
  rw [rows, List.length_map, List.length_map]

/-- What is read of rows, where it can be, is what is read of the records. -/
theorem Holds.filterMap_rows {α : Type} {t : SqlTable} {records : List R} (holds : Holds t columns values records)
    {f : SqlRow → Option α} {g : R → Option α}
    (agree : ∀ id record, f (insertedRow id columns (values record)) = g record) :
    t.rows.filterMap f = records.filterMap g := by
  obtain ⟨entries, rows, rfl⟩ := holds
  rw [rows, List.filterMap_map, List.filterMap_map]
  exact congrArg (List.filterMap · entries) (funext fun entry => agree entry.1 entry.2)

/-- Rows are gone through like the records. -/
theorem Holds.foldl_rows {α : Type} {t : SqlTable} {records : List R} (holds : Holds t columns values records)
    {f : α → SqlRow → α} {g : α → R → α}
    (agree : ∀ a id record, f a (insertedRow id columns (values record)) = g a record) (a : α) :
    t.rows.foldl f a = records.foldl g a := by
  obtain ⟨entries, rows, rfl⟩ := holds
  rw [rows, List.foldl_map, List.foldl_map]
  exact congrArg (fun step => entries.foldl step a) (funext fun a => funext fun entry => agree a entry.1 entry.2)

/-- The last row is that of the last record. -/
theorem Holds.getLast_rows {t : SqlTable} {records : List R} (holds : Holds t columns values records) :
    ∃ entry : Option (ℕ × R),
      t.rows.getLast? = (entry.map fun entry => insertedRow entry.1 columns (values entry.2)) ∧
        records.getLast? = entry.map Prod.snd := by
  obtain ⟨entries, rows, rfl⟩ := holds
  exact ⟨entries.getLast?, by rw [rows, List.getLast?_map], List.getLast?_map⟩

/-- Some row meets a condition when a record meets the condition that it states of records. -/
theorem Holds.any_rows {t : SqlTable} {records : List R} (holds : Holds t columns values records)
    {condition : SqlRow → Bool} {states : R → Bool}
    (agree : ∀ id record, condition (insertedRow id columns (values record)) = states record) :
    t.rows.any condition = records.any states := by
  obtain ⟨entries, rows, rfl⟩ := holds
  rw [rows, List.any_map, List.any_map]
  exact congrArg entries.any (funext fun entry => agree entry.1 entry.2)

/-- The newest row that meets a condition is that of the newest record that does. -/
theorem Holds.find_newest {t : SqlTable} {records : List R} (holds : Holds t columns values records)
    {condition : SqlRow → Bool} {states : R → Bool}
    (agree : ∀ id record, condition (insertedRow id columns (values record)) = states record) :
    ∃ entry : Option (ℕ × R),
      t.rows.reverse.find? condition = (entry.map fun entry => insertedRow entry.1 columns (values entry.2)) ∧
        records.reverse.find? states = entry.map Prod.snd := by
  obtain ⟨entries, rows, rfl⟩ := holds
  refine ⟨entries.reverse.find? fun entry => states entry.2, ?_, ?_⟩
  · rw [rows, ← List.map_reverse, List.find?_map]
    exact congrArg (Option.map _) (congrArg entries.reverse.find? (funext fun entry => agree entry.1 entry.2))
  · rw [← List.map_reverse, List.find?_map]
    rfl

end Records

end SqlTable

end CachePilot
