/-
Module: CachePilot.Lib.RefCounts
Layer: Lib
Purpose: A reference-counted table. A key that is acquired keeps the record it was last acquired with and
  counts how often it is held; releasing it counts down and forgets the key with the last hold. That both
  dictionaries have the same keys, and that every stored count is positive, are fields of the structure.
Trusted boundary: none
Main exports: RefTable, RefTable.acquire, RefTable.release, RefEvent, count_run, record?_run,
  RefTable.eq_of_restored
-/
import Mathlib.Algebra.Order.Group.Int
import Mathlib.Data.List.Infix
import CachePilot.Lib.Dict

/-- Records by key with the number of times each key is held. -/
structure RefTable (K R : Type*) [DecidableEq K] where
  records : Dict K R
  counts : Dict K ℤ
  aligned : records.keys = counts.keys
  positive : ∀ k n, counts.get? k = some n → 0 < n

namespace RefTable

variable {K R : Type*} [DecidableEq K]

theorem positive_empty : ∀ (k : K) (n : ℤ), (∅ : Dict K ℤ).get? k = some n → 0 < n := by
  intro k n stored
  cases stored

/-- Nothing is held. -/
def empty : RefTable K R where
  records := ∅
  counts := ∅
  aligned := rfl
  positive := positive_empty

instance : EmptyCollection (RefTable K R) := ⟨empty⟩

/-- How often a key is held; a key that is not stored is not held. -/
def count (t : RefTable K R) (k : K) : ℤ := (t.counts.get? k).getD 0

/-- The record that a key is held with. -/
def record? (t : RefTable K R) (k : K) : Option R := t.records.get? k

theorem count_nonneg (t : RefTable K R) (k : K) : 0 ≤ t.count k := by
  unfold count
  cases stored : t.counts.get? k with
  | none => exact le_refl 0
  | some n => exact (t.positive k n stored).le

/-- A key is held exactly when it is stored. -/
theorem count_pos_iff {t : RefTable K R} {k : K} : 0 < t.count k ↔ k ∈ t.counts.keys := by
  rw [Dict.mem_keys_iff]
  unfold count
  cases stored : t.counts.get? k with
  | none => simp
  | some n => simpa using t.positive k n stored

theorem record?_eq_none_iff {t : RefTable K R} {k : K} : t.record? k = none ↔ t.count k = 0 := by
  rw [record?, ← Dict.not_mem_keys_iff, t.aligned, ← count_pos_iff]
  have := t.count_nonneg k
  omega

theorem positive_set {counts : Dict K ℤ} (positive : ∀ k n, counts.get? k = some n → 0 < n) {k : K}
    {n : ℤ} (grown : 0 < n) : ∀ k' n', (counts.set k n).get? k' = some n' → 0 < n' := by
  intro k' n' stored
  rw [Dict.get?_set] at stored
  split at stored
  · cases stored
    exact grown
  · exact positive k' n' stored

theorem positive_erase {counts : Dict K ℤ} (positive : ∀ k n, counts.get? k = some n → 0 < n) {k : K} :
    ∀ k' n', (counts.erase k).get? k' = some n' → 0 < n' := by
  intro k' n' stored
  rw [Dict.get?_erase] at stored
  split at stored
  · cases stored
  · exact positive k' n' stored

theorem aligned_acquire (t : RefTable K R) (k : K) (r : R) (n : ℤ) :
    (t.records.set k r).keys = (t.counts.set k n).keys := by
  rw [Dict.keys_set, Dict.keys_set, t.aligned]

theorem positive_acquire (t : RefTable K R) (k : K) :
    ∀ k' n, (t.counts.set k ((t.counts.get? k).getD 0 + 1)).get? k' = some n → 0 < n :=
  positive_set t.positive (by have := t.count_nonneg k; unfold count at this; omega)

/-- Hold a key once more, with this record from now on. -/
def acquire (t : RefTable K R) (k : K) (r : R) : RefTable K R where
  records := t.records.set k r
  counts := t.counts.set k ((t.counts.get? k).getD 0 + 1)
  aligned := aligned_acquire t k r _
  positive := positive_acquire t k

theorem aligned_erase (t : RefTable K R) (k : K) : (t.records.erase k).keys = (t.counts.erase k).keys := by
  rw [Dict.keys_erase, Dict.keys_erase, t.aligned]

theorem aligned_held (t : RefTable K R) {k : K} {n : ℤ} (held : 0 < (t.counts.get? k).getD 0 - 1) :
    t.records.keys = (t.counts.set k n).keys := by
  have stored : k ∈ t.counts.keys := by
    rw [← count_pos_iff]
    unfold count
    omega
  rw [Dict.keys_set, if_pos stored, t.aligned]

/-- Hold a key once less; the last hold forgets it, and a key that is not held is left alone. -/
def release (t : RefTable K R) (k : K) : RefTable K R :=
  if held : 0 < (t.counts.get? k).getD 0 - 1 then
    { records := t.records
      counts := t.counts.set k ((t.counts.get? k).getD 0 - 1)
      aligned := aligned_held t held
      positive := positive_set t.positive held }
  else
    { records := t.records.erase k
      counts := t.counts.erase k
      aligned := aligned_erase t k
      positive := positive_erase t.positive }

/-! ### One operation -/

theorem count_acquire (t : RefTable K R) (k : K) (r : R) (k' : K) :
    (t.acquire k r).count k' = if k' = k then t.count k + 1 else t.count k' := by
  unfold acquire count
  rw [Dict.get?_set]
  split <;> rfl

theorem record?_acquire (t : RefTable K R) (k : K) (r : R) (k' : K) :
    (t.acquire k r).record? k' = if k' = k then some r else t.record? k' :=
  Dict.get?_set _ _ _ _

theorem count_release (t : RefTable K R) (k k' : K) :
    (t.release k).count k' = if k' = k then max 0 (t.count k - 1) else t.count k' := by
  unfold release
  split
  · rename_i held
    unfold count
    rw [Dict.get?_set]
    split
    · rw [max_eq_right held.le]
      rfl
    · rfl
  · rename_i last
    unfold count
    rw [Dict.get?_erase]
    split
    · rw [max_eq_left (by omega)]
      rfl
    · rfl

theorem record?_release (t : RefTable K R) (k k' : K) :
    (t.release k).record? k' = if k' = k ∧ t.count k ≤ 1 then none else t.record? k' := by
  unfold release
  split
  · rename_i held
    have several : ¬ t.count k ≤ 1 := by
      unfold count
      omega
    simp [record?, several]
  · rename_i last
    have single : t.count k ≤ 1 := by
      unfold count
      omega
    simp [record?, Dict.get?_erase, single]

theorem keys_acquire (t : RefTable K R) (k : K) (r : R) :
    (t.acquire k r).counts.keys =
      if k ∈ t.counts.keys then t.counts.keys else t.counts.keys ++ [k] :=
  Dict.keys_set _ _ _

theorem keys_release (t : RefTable K R) (k : K) :
    (t.release k).counts.keys =
      if t.count k ≤ 1 then t.counts.keys.filter (· ≠ k) else t.counts.keys := by
  unfold release
  split
  · rename_i held
    have several : ¬ t.count k ≤ 1 := by
      unfold count
      omega
    have stored : k ∈ t.counts.keys := by
      rw [← count_pos_iff]
      omega
    rw [if_neg several, Dict.keys_set, if_pos stored]
  · rename_i last
    have single : t.count k ≤ 1 := by
      unfold count
      omega
    rw [if_pos single, Dict.keys_erase]

/-! ### Restoring a table -/

/-- A table is determined by the order of its keys, its counts and its records. -/
theorem ext_of_keys {t u : RefTable K R} (keys : t.counts.keys = u.counts.keys)
    (counts : ∀ k, t.count k = u.count k) (records : ∀ k, t.record? k = u.record? k) : t = u := by
  have sameRecords : t.records = u.records :=
    Dict.ext_of_keys (by rw [t.aligned, u.aligned, keys]) records
  have sameCounts : t.counts = u.counts := by
    refine Dict.ext_of_keys keys fun k => ?_
    have equal := counts k
    unfold count at equal
    cases left : t.counts.get? k with
    | none =>
        have unheld : k ∉ u.counts.keys := by
          rw [← keys]
          exact Dict.not_mem_keys_iff.2 left
        exact (Dict.not_mem_keys_iff.1 unheld).symm
    | some n =>
        obtain ⟨m, right⟩ := Dict.mem_keys_iff.1 (keys ▸ Dict.mem_keys_iff.2 ⟨n, left⟩)
        rw [left, right] at equal
        rw [right]
        exact congrArg some equal
  cases t
  cases u
  cases sameRecords
  cases sameCounts
  rfl

/-- Acquiring a key keeps the old keys in front. -/
theorem prefix_acquire {ks : List K} {t : RefTable K R} (front : ks <+: t.counts.keys) (k : K) (r : R) :
    ks <+: (t.acquire k r).counts.keys := by
  rw [keys_acquire]
  split
  · exact front
  · exact front.trans (List.prefix_append _ _)

/-- Releasing a key keeps the keys in front that it is not the last hold of. -/
theorem prefix_release {ks : List K} {t : RefTable K R} (front : ks <+: t.counts.keys) {k : K}
    (kept : k ∈ ks → 1 < t.count k) : ks <+: (t.release k).counts.keys := by
  rw [keys_release]
  split
  · rename_i last
    have outside : k ∉ ks := fun inside => absurd (kept inside) (by omega)
    obtain ⟨rest, whole⟩ := front
    refine ⟨rest.filter (· ≠ k), ?_⟩
    rw [← whole, List.filter_append]
    congr 1
    rw [eq_comm, List.filter_eq_self]
    intro j inside
    have differs : j ≠ k := fun same => outside (same ▸ inside)
    simpa using differs
  · exact front

/-- A table whose keys start with those of another one, with the same counts and records, is that one. -/
theorem eq_of_restored {t u : RefTable K R} (front : u.counts.keys <+: t.counts.keys)
    (counts : ∀ k, t.count k = u.count k) (records : ∀ k, t.record? k = u.record? k) : t = u := by
  obtain ⟨rest, whole⟩ := front
  have nothing : rest = [] := by
    rw [List.eq_nil_iff_forall_not_mem]
    intro k extra
    have held : k ∈ t.counts.keys := by
      rw [← whole]
      exact List.mem_append_right _ extra
    have old : k ∈ u.counts.keys := by
      rw [← count_pos_iff] at held ⊢
      rwa [← counts k]
    have apart := t.counts.nodup
    change t.counts.keys.Nodup at apart
    rw [← whole, List.nodup_append] at apart
    exact apart.2.2 k old k extra rfl
  refine ext_of_keys ?_ counts records
  rw [← whole, nothing, List.append_nil]

end RefTable

/-! ### Runs -/

/-- An operation on a reference-counted table. -/
inductive RefEvent (K R : Type*) where
  | acquire (k : K) (r : R)
  | release (k : K)
deriving DecidableEq

/-- The record that an operation gives a key. -/
def RefEvent.recordFor {K R : Type*} [DecidableEq K] (k : K) : RefEvent K R → Option R
  | .acquire k' r => if k' = k then some r else none
  | .release _ => none

namespace RefTable

variable {K R : Type*} [DecidableEq K]

def apply (t : RefTable K R) : RefEvent K R → RefTable K R
  | .acquire k r => t.acquire k r
  | .release k => t.release k

/-- The table after a list of operations. -/
def run (t : RefTable K R) (events : List (RefEvent K R)) : RefTable K R := events.foldl apply t

end RefTable

/-- The acquisitions of a key, and its releases that had an acquisition left to match. -/
structure RefTally where
  acquired : ℕ := 0
  released : ℕ := 0
deriving DecidableEq

namespace RefTally

variable {K R : Type*} [DecidableEq K]

def observe (k : K) (tally : RefTally) : RefEvent K R → RefTally
  | .acquire k' _ => if k' = k then { tally with acquired := tally.acquired + 1 } else tally
  | .release k' =>
      if k' = k ∧ tally.released < tally.acquired then { tally with released := tally.released + 1 }
      else tally

/-- The tally of a key over a list of operations. -/
def of (k : K) (events : List (RefEvent K R)) : RefTally := events.foldl (observe k) {}

end RefTally

namespace RefTable

variable {K R : Type*} [DecidableEq K]

/-- One operation moves the count of a key as it moves its tally. -/
theorem count_apply {t : RefTable K R} {k : K} {tally : RefTally}
    (agree : t.count k = tally.acquired - tally.released) (event : RefEvent K R) :
    (t.apply event).count k =
      (tally.observe k event).acquired - (tally.observe k event).released := by
  have nonneg := t.count_nonneg k
  cases event with
  | acquire k' r =>
      simp only [apply, RefTally.observe]
      rw [count_acquire]
      by_cases same : k' = k
      · subst same
        simp only [if_true, agree]
        push_cast
        omega
      · have other : ¬ k = k' := fun eq => same eq.symm
        simp only [same, other, if_false, agree]
  | release k' =>
      simp only [apply, RefTally.observe]
      rw [count_release]
      by_cases same : k' = k
      · subst same
        by_cases matched : tally.released < tally.acquired
        · simp only [matched, and_self, if_true, agree]
          push_cast
          omega
        · simp only [matched, and_false, if_false, if_true, agree]
          omega
      · have other : ¬ k = k' := fun eq => same eq.symm
        simp only [same, other, false_and, if_false, agree]

/-- After any operations, each key is held as often as it was acquired and not released. -/
theorem count_run (k : K) (events : List (RefEvent K R)) :
    ((∅ : RefTable K R).run events).count k =
      (RefTally.of k events).acquired - (RefTally.of k events).released := by
  have general : ∀ (t : RefTable K R) (tally : RefTally),
      t.count k = tally.acquired - tally.released →
        (t.run events).count k = (events.foldl (RefTally.observe k) tally).acquired -
          (events.foldl (RefTally.observe k) tally).released := by
    induction events with
    | nil => exact fun t tally agree => agree
    | cons event events ih => exact fun t tally agree => ih _ _ (count_apply agree event)
  exact general ∅ {} rfl

/-- The record of the last acquisition of a key. -/
def lastRecord (k : K) (events : List (RefEvent K R)) : Option R :=
  events.reverse.findSome? (RefEvent.recordFor k)

theorem lastRecord_snoc (k : K) (events : List (RefEvent K R)) (event : RefEvent K R) :
    lastRecord k (events ++ [event]) = (event.recordFor k <|> lastRecord k events) := by
  unfold lastRecord
  rw [List.reverse_append, List.reverse_singleton, List.singleton_append, List.findSome?_cons]
  cases event.recordFor k <;> rfl

theorem run_snoc (t : RefTable K R) (events : List (RefEvent K R)) (event : RefEvent K R) :
    t.run (events ++ [event]) = (t.run events).apply event := by
  simp [run]

/-- While a key is held, its record is that of its last acquisition. -/
theorem record?_run {k : K} {events : List (RefEvent K R)}
    (held : 0 < ((∅ : RefTable K R).run events).count k) :
    ((∅ : RefTable K R).run events).record? k = lastRecord k events := by
  induction events using List.reverseRecOn with
  | nil => exact absurd held (lt_irrefl 0)
  | append_singleton events event ih =>
      rw [run_snoc] at held ⊢
      rw [lastRecord_snoc]
      cases event with
      | acquire k' r =>
          simp only [apply, RefEvent.recordFor] at held ⊢
          rw [count_acquire] at held
          rw [record?_acquire]
          by_cases same : k' = k
          · subst same
            simp
          · have other : ¬ k = k' := fun eq => same eq.symm
            rw [if_neg other] at held ⊢
            rw [if_neg same, ih held]
            rfl
      | release k' =>
          simp only [apply, RefEvent.recordFor] at held ⊢
          rw [count_release] at held
          rw [record?_release]
          by_cases same : k = k'
          · subst same
            rw [if_pos rfl] at held
            have several : ¬ ((∅ : RefTable K R).run events).count k ≤ 1 := by omega
            rw [if_neg (by simp [several]), ih (by omega)]
            rfl
          · rw [if_neg same] at held
            rw [if_neg (by simp [same]), ih held]
            rfl

end RefTable
