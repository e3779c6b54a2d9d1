/-
Module: CachePilot.Lib.LockTable
Layer: Lib
Purpose: Keyed first-come-first-served locks as an event loop offers them. A lock is a flag and a queue of
  waiters. The fast path takes a lock that is neither held nor awaited; everyone else queues, and a
  release only clears the flag, so the head of the queue takes the lock later, when it is resumed.
  `Exclusive` ties the flags to a relation `holds` kept elsewhere (which task is inside which lock): a
  holder's lock is flagged and has no second holder. Its rules say how acquiring, releasing and queueing
  keep it.
Trusted boundary: none
Main exports: FifoLock, LockTable, LockTable.update, Exclusive, Exclusive.acquire, Exclusive.release,
  Exclusive.keep, Exclusive.change_unheld
-/
import CachePilot.Lib.Dict

/-- A lock: whether someone is inside, and who waits, in order of arrival. -/
structure FifoLock (T : Type*) where
  locked : Bool := false
  waiters : List T := []

namespace FifoLock

variable {T : Type*}

/-- The fast path of an acquire: nobody is inside and nobody waits. -/
def isFree (l : FifoLock T) : Bool := !l.locked && l.waiters.isEmpty

/-- Take the lock. -/
def lock (l : FifoLock T) : FifoLock T := { l with locked := true }

/-- Leave the lock; the first waiter is woken and takes it when it runs. -/
def release (l : FifoLock T) : FifoLock T := { l with locked := false }

/-- Queue behind the present waiters. -/
def enqueue (t : T) (l : FifoLock T) : FifoLock T := { l with waiters := l.waiters ++ [t] }

/-- Hand the lock to its first waiter. -/
def grant (l : FifoLock T) : FifoLock T := { locked := true, waiters := l.waiters.tail }

/-- Leave the queue without ever taking the lock. -/
def abandon [DecidableEq T] (t : T) (l : FifoLock T) : FifoLock T :=
  { l with waiters := l.waiters.erase t }

/-- The waiter that may take the lock now. -/
def next? (l : FifoLock T) : Option T := if l.locked then none else l.waiters.head?

theorem locked_eq_false_of_isFree {l : FifoLock T} (free : l.isFree = true) :
    l.locked = false := by
  simp only [isFree, Bool.and_eq_true, Bool.not_eq_true'] at free
  exact free.1

theorem locked_eq_false_of_next? {l : FifoLock T} {t : T} (first : l.next? = some t) :
    l.locked = false := by
  cases hl : l.locked with
  | false => rfl
  | true => simp [next?, hl] at first

end FifoLock

/-- Locks by key; a key without an entry has a fresh lock. -/
abbrev LockTable (K T : Type*) := Dict K (FifoLock T)

namespace LockTable

variable {K T : Type*} [DecidableEq K]

/-- The lock of a key. -/
def lockFor (L : LockTable K T) (k : K) : FifoLock T := (Dict.get? L k).getD {}

/-- Change the lock of a key. -/
def update (L : LockTable K T) (k : K) (f : FifoLock T → FifoLock T) : LockTable K T :=
  Dict.set L k (f (L.lockFor k))

theorem lockFor_update (L : LockTable K T) (k k' : K) (f : FifoLock T → FifoLock T) :
    (L.update k f).lockFor k' = if k' = k then f (L.lockFor k) else L.lockFor k' := by
  by_cases same : k' = k
  · simp [update, lockFor, same]
  · simp [update, lockFor, same, Dict.get?_set]

@[simp] theorem lockFor_empty (k : K) : lockFor (∅ : Dict K (FifoLock T)) k = {} := rfl

end LockTable

/-- Mutual exclusion: a lock with a holder is flagged, and has one holder. -/
structure Exclusive {K T : Type*} [DecidableEq K] (L : LockTable K T) (holds : T → K → Prop) :
    Prop where
  locked : ∀ t k, holds t k → (L.lockFor k).locked = true
  unique : ∀ t u k, holds t k → holds u k → t = u

namespace Exclusive

variable {K T : Type*} [DecidableEq K] {L : LockTable K T} {holds holds' : T → K → Prop}
  {f : FifoLock T → FifoLock T} {t : T} {k : K}

/-- Nobody holds a lock whose flag is clear. -/
theorem not_holds (ex : Exclusive L holds) (clear : (L.lockFor k).locked = false) (t : T) :
    ¬ holds t k := by
  intro held
  rw [ex.locked t k held] at clear
  exact Bool.noConfusion clear

/-- Taking an unflagged lock keeps exclusion. -/
theorem acquire (ex : Exclusive L holds) (clear : (L.lockFor k).locked = false)
    (flags : (f (L.lockFor k)).locked = true)
    (only : ∀ u j, holds' u j → holds u j ∨ u = t ∧ j = k) :
    Exclusive (L.update k f) holds' where
  locked := by
    intro u j held
    rw [LockTable.lockFor_update]
    by_cases same : j = k
    · rw [if_pos same]
      exact flags
    · rw [if_neg same]
      rcases only u j held with old | ⟨-, new⟩
      · exact ex.locked u j old
      · exact absurd new same
  unique := by
    intro u v j hu hv
    rcases only u j hu with oldU | ⟨rfl, rfl⟩
    · rcases only v j hv with oldV | ⟨rfl, rfl⟩
      · exact ex.unique u v j oldU oldV
      · exact absurd oldU (ex.not_holds clear u)
    · rcases only v j hv with oldV | ⟨rfl, -⟩
      · exact absurd oldV (ex.not_holds clear v)
      · rfl

/-- Releasing a lock that one holds keeps exclusion. -/
theorem release (ex : Exclusive L holds) (held : holds t k)
    (only : ∀ u j, holds' u j → holds u j ∧ u ≠ t) : Exclusive (L.update k f) holds' where
  locked := by
    intro u j hu
    obtain ⟨old, other⟩ := only u j hu
    rw [LockTable.lockFor_update]
    by_cases same : j = k
    · subst same
      exact absurd (ex.unique u t j old held) other
    · rw [if_neg same]
      exact ex.locked u j old
  unique := by
    intro u v j hu hv
    exact ex.unique u v j (only u j hu).1 (only v j hv).1

/-- Queueing and leaving the queue keep exclusion, as does any change that keeps the flag. -/
theorem keep (ex : Exclusive L holds) (flag : (f (L.lockFor k)).locked = (L.lockFor k).locked)
    (only : ∀ u j, holds' u j → holds u j) : Exclusive (L.update k f) holds' where
  locked := by
    intro u j hu
    rw [LockTable.lockFor_update]
    by_cases same : j = k
    · subst same
      rw [if_pos rfl, flag]
      exact ex.locked u j (only u j hu)
    · rw [if_neg same]
      exact ex.locked u j (only u j hu)
  unique := by
    intro u v j hu hv
    exact ex.unique u v j (only u j hu) (only v j hv)

/-- A lock that nobody holds may change in any way. -/
theorem change_unheld (ex : Exclusive L holds) (unheld : ∀ u, ¬ holds u k)
    (only : ∀ u j, holds' u j → holds u j) : Exclusive (L.update k f) holds' where
  locked := by
    intro u j hu
    have old := only u j hu
    rw [LockTable.lockFor_update]
    by_cases same : j = k
    · subst same
      exact absurd old (unheld u)
    · rw [if_neg same]
      exact ex.locked u j old
  unique := by
    intro u v j hu hv
    exact ex.unique u v j (only u j hu) (only v j hv)

/-- Fewer holders of the same locks are still exclusive. -/
theorem mono (ex : Exclusive L holds) (only : ∀ u j, holds' u j → holds u j) :
    Exclusive L holds' where
  locked := fun u j hu => ex.locked u j (only u j hu)
  unique := fun u v j hu hv => ex.unique u v j (only u j hu) (only v j hv)

end Exclusive
