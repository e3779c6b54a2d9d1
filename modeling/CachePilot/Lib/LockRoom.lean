/-
Module: CachePilot.Lib.LockRoom
Layer: Lib
Purpose: Keyed first-come-first-served locks together with those who use them. Everyone is away, waits in the queue of
  one lock, or is inside one lock. The moves are those of an event loop: step into a lock that nobody holds or awaits,
  queue at a busy one, take it when one is first in line, leave it, give up waiting. `Orderly` says that the locks and
  the seats agree, and every move keeps it. Two things follow for whole runs: where somebody waits, somebody can move;
  and while somebody waits, only those who were in line before get inside, in their order.
Trusted boundary: none
Main exports: Seat, LockRoom, LockMove, LockRoom.move, LockRoom.Orderly, LockRoom.Orderly.move, LockRoom.Orderly.exec,
  LockRoom.Orderly.someone_moves, LockRoom.ahead, LockRoom.Orderly.served_sublist
-/
import CachePilot.Lib.Execution
import CachePilot.Lib.LockTable

open scoped List

/-- Where somebody is. -/
inductive Seat (K : Type*) where
  | away
  | waiting (key : K)
  | inside (key : K)
deriving DecidableEq

theorem Seat.away_ne_inside {K : Type*} (key : K) : Seat.away ≠ Seat.inside key := by
  intro same
  cases same

theorem Seat.away_ne_waiting {K : Type*} (key : K) : Seat.away ≠ Seat.waiting key := by
  intro same
  cases same

/-- Locks, and where everybody is. -/
structure LockRoom (K T : Type*) where
  locks : LockTable K T
  seat : T → Seat K

/-- What somebody can do at a lock. -/
inductive LockMove (K T : Type*) where
  | enter (who : T) (key : K)
  | enqueue (who : T) (key : K)
  | take (who : T) (key : K)
  | leave (who : T) (key : K)
  | abandon (who : T) (key : K)

namespace LockMove

variable {K T : Type*}

/-- Who moves. -/
def who : LockMove K T → T
  | .enter t _ | .enqueue t _ | .take t _ | .leave t _ | .abandon t _ => t

/-- Who gets inside the lock of a key. -/
def serves [DecidableEq K] (key : K) : LockMove K T → Option T
  | .enter t k | .take t k => if k = key then some t else none
  | _ => none

end LockMove

namespace LockRoom

variable {K T : Type*} [DecidableEq K] [DecidableEq T]

/-- The lock of a key. -/
def lockOf (r : LockRoom K T) (k : K) : FifoLock T := r.locks.lockFor k

/-- One lock changes, and one takes another seat. -/
def change (r : LockRoom K T) (k : K) (f : FifoLock T → FifoLock T) (t : T) (seat : Seat K) : LockRoom K T where
  locks := r.locks.update k f
  seat := Function.update r.seat t seat

/-- One move; `none` when it is not possible. -/
def move (r : LockRoom K T) : LockMove K T → Option (LockRoom K T)
  | .enter t k =>
      if r.seat t = .away ∧ (r.lockOf k).isFree = true then some (r.change k FifoLock.lock t (.inside k)) else none
  | .enqueue t k =>
      if r.seat t = .away ∧ (r.lockOf k).isFree = false then some (r.change k (FifoLock.enqueue t) t (.waiting k))
      else none
  | .take t k =>
      if r.seat t = .waiting k ∧ (r.lockOf k).next? = some t then some (r.change k FifoLock.grant t (.inside k))
      else none
  | .leave t k => if r.seat t = .inside k then some (r.change k FifoLock.release t .away) else none
  | .abandon t k => if r.seat t = .waiting k then some (r.change k (FifoLock.abandon t) t .away) else none

/-- The ways a room changes. -/
inductive MoveCase (r : LockRoom K T) : LockMove K T → LockRoom K T → Prop where
  | entered {t k} (out : r.seat t = .away) (free : (r.lockOf k).isFree = true) :
      MoveCase r (.enter t k) (r.change k FifoLock.lock t (.inside k))
  | enqueued {t k} (out : r.seat t = .away) (busy : (r.lockOf k).isFree = false) :
      MoveCase r (.enqueue t k) (r.change k (FifoLock.enqueue t) t (.waiting k))
  | took {t k} (waits : r.seat t = .waiting k) (first : (r.lockOf k).next? = some t) :
      MoveCase r (.take t k) (r.change k FifoLock.grant t (.inside k))
  | left {t k} (inside : r.seat t = .inside k) : MoveCase r (.leave t k) (r.change k FifoLock.release t .away)
  | abandoned {t k} (waits : r.seat t = .waiting k) :
      MoveCase r (.abandon t k) (r.change k (FifoLock.abandon t) t .away)

theorem move_cases {r r' : LockRoom K T} {m : LockMove K T} (moved : r.move m = some r') : MoveCase r m r' := by
  cases m with
  | enter t k =>
      obtain ⟨⟨out, free⟩, moved⟩ := Option.ite_none_right_eq_some.1 moved
      cases moved
      exact .entered out free
  | enqueue t k =>
      obtain ⟨⟨out, busy⟩, moved⟩ := Option.ite_none_right_eq_some.1 moved
      cases moved
      exact .enqueued out busy
  | take t k =>
      obtain ⟨⟨waits, first⟩, moved⟩ := Option.ite_none_right_eq_some.1 moved
      cases moved
      exact .took waits first
  | leave t k =>
      obtain ⟨inside, moved⟩ := Option.ite_none_right_eq_some.1 moved
      cases moved
      exact .left inside
  | abandon t k =>
      obtain ⟨waits, moved⟩ := Option.ite_none_right_eq_some.1 moved
      cases moved
      exact .abandoned waits

section Change

variable (r : LockRoom K T) (k k' : K) (f : FifoLock T → FifoLock T) (t t' : T) (seat : Seat K)

theorem lockOf_change : (r.change k f t seat).lockOf k' = if k' = k then f (r.lockOf k) else r.lockOf k' :=
  LockTable.lockFor_update _ _ _ _

@[simp] theorem lockOf_change_self : (r.change k f t seat).lockOf k = f (r.lockOf k) := by
  rw [lockOf_change, if_pos rfl]

theorem lockOf_change_of_ne {k k' : K} (other : k' ≠ k) : (r.change k f t seat).lockOf k' = r.lockOf k' := by
  rw [lockOf_change, if_neg other]

@[simp] theorem seat_change_self : (r.change k f t seat).seat t = seat := Function.update_self _ _ _

theorem seat_change_of_ne {t t' : T} (other : t' ≠ t) : (r.change k f t seat).seat t' = r.seat t' :=
  Function.update_of_ne other _ _

end Change

/-! ### Order -/

/-- Locks and seats agree: a lock is flagged exactly while somebody is inside, who is alone there, and its queue is
    exactly those who wait there. -/
structure Orderly (r : LockRoom K T) : Prop where
  exclusive : Exclusive r.locks fun t k => r.seat t = .inside k
  held : ∀ k, (r.lockOf k).locked = true → ∃ t, r.seat t = .inside k
  queued : ∀ t k, t ∈ (r.lockOf k).waiters ↔ r.seat t = .waiting k
  once : ∀ k, (r.lockOf k).waiters.Nodup

omit [DecidableEq T] in
theorem orderly_empty {r : LockRoom K T} (unlocked : r.locks = ∅) (away : ∀ t, r.seat t = .away) : r.Orderly where
  exclusive :=
    { locked := fun t k held => by rw [away t] at held; cases held
      unique := fun t _ k held _ => by rw [away t] at held; cases held }
  held k flagged := by
    rw [lockOf, unlocked, LockTable.lockFor_empty] at flagged
    cases flagged
  queued t k := by
    rw [lockOf, unlocked, LockTable.lockFor_empty, away t]
    simp
  once k := by
    rw [lockOf, unlocked, LockTable.lockFor_empty]
    exact List.nodup_nil

namespace Orderly

variable {r r' : LockRoom K T} {t : T} {k : K} (orderly : r.Orderly)
include orderly

/-- A flag that stays has its holder, when only the one who moved may have left the lock that changed. -/
private theorem held_change {f : FifoLock T → FifoLock T} {seat : Seat K} (stays : ∀ j, j ≠ k → r.seat t ≠ .inside j)
    (flagged : (f (r.lockOf k)).locked = true → seat = .inside k) (j : K)
    (locked : ((r.change k f t seat).lockOf j).locked = true) :
    ∃ u, (r.change k f t seat).seat u = .inside j := by
  by_cases here : j = k
  · subst here
    rw [lockOf_change_self] at locked
    exact ⟨t, by rw [seat_change_self, flagged locked]⟩
  · rw [lockOf_change_of_ne _ _ _ _ here] at locked
    obtain ⟨u, inside⟩ := orderly.held j locked
    have other : u ≠ t := by
      rintro rfl
      exact stays j here inside
    exact ⟨u, by rw [seat_change_of_ne _ _ _ _ other, inside]⟩

/-- A flag that a change of the queue leaves has its holder still, when the one who moved was not inside. -/
private theorem held_keep {f : FifoLock T → FifoLock T} {seat : Seat K}
    (flag : (f (r.lockOf k)).locked = (r.lockOf k).locked) (outside : ∀ j, r.seat t ≠ .inside j) (j : K)
    (locked : ((r.change k f t seat).lockOf j).locked = true) :
    ∃ u, (r.change k f t seat).seat u = .inside j := by
  have before : (r.lockOf j).locked = true := by
    by_cases here : j = k
    · subst here
      rwa [lockOf_change_self, flag] at locked
    · rwa [lockOf_change_of_ne _ _ _ _ here] at locked
  obtain ⟨u, inside⟩ := orderly.held j before
  have other : u ≠ t := by
    rintro rfl
    exact outside j inside
  exact ⟨u, by rw [seat_change_of_ne _ _ _ _ other, inside]⟩

/-- The queues are as the seats say when the changed one is, and the one who moved waited nowhere else. -/
private theorem queued_change {f : FifoLock T → FifoLock T} {seat : Seat K}
    (own : t ∈ (f (r.lockOf k)).waiters ↔ seat = .waiting k)
    (others : ∀ u, u ≠ t → (u ∈ (f (r.lockOf k)).waiters ↔ u ∈ (r.lockOf k).waiters))
    (before : ∀ j, j ≠ k → r.seat t ≠ .waiting j) (after : ∀ j, j ≠ k → seat ≠ .waiting j) (u : T) (j : K) :
    u ∈ ((r.change k f t seat).lockOf j).waiters ↔ (r.change k f t seat).seat u = .waiting j := by
  by_cases here : j = k
  · subst here
    rw [lockOf_change_self]
    by_cases same : u = t
    · subst same
      rw [seat_change_self]
      exact own
    · rw [seat_change_of_ne _ _ _ _ same, others u same, orderly.queued]
  · rw [lockOf_change_of_ne _ _ _ _ here, orderly.queued]
    by_cases same : u = t
    · subst same
      rw [seat_change_self]
      exact iff_of_false (before j here) (after j here)
    · rw [seat_change_of_ne _ _ _ _ same]

private theorem once_change {f : FifoLock T → FifoLock T} {seat : Seat K} (nodup : (f (r.lockOf k)).waiters.Nodup)
    (j : K) : ((r.change k f t seat).lockOf j).waiters.Nodup := by
  by_cases here : j = k
  · subst here
    rw [lockOf_change_self]
    exact nodup
  · rw [lockOf_change_of_ne _ _ _ _ here]
    exact orderly.once j

omit [DecidableEq T] in
/-- The first in line of a lock stands in front of its queue. -/
theorem waiters_of_next? (first : (r.lockOf k).next? = some t) :
    ∃ rest, (r.lockOf k).waiters = t :: rest ∧ t ∉ rest := by
  unfold FifoLock.next? at first
  split at first
  · cases first
  · obtain ⟨rest, shape⟩ := List.head?_eq_some_iff.1 first
    have nodup := orderly.once k
    rw [shape, List.nodup_cons] at nodup
    exact ⟨rest, shape, nodup.1⟩

omit orderly in
/-- Those inside after somebody took another seat outside: the old ones but that one. -/
private theorem inside_out {seat : Seat K} {f : FifoLock T → FifoLock T} (out : ∀ j, seat ≠ .inside j) (u : T) (j : K)
    (inside : (r.change k f t seat).seat u = .inside j) : r.seat u = .inside j ∧ u ≠ t := by
  by_cases same : u = t
  · subst same
    rw [seat_change_self] at inside
    exact absurd inside (out j)
  · rw [seat_change_of_ne _ _ _ _ same] at inside
    exact ⟨inside, same⟩

omit orderly in
/-- Those inside after somebody took a seat inside: the old ones and that one. -/
private theorem inside_in {f : FifoLock T → FifoLock T} (u : T) (j : K)
    (inside : (r.change k f t (.inside k)).seat u = .inside j) : r.seat u = .inside j ∨ u = t ∧ j = k := by
  by_cases same : u = t
  · subst same
    rw [seat_change_self] at inside
    cases inside
    exact Or.inr ⟨rfl, rfl⟩
  · rw [seat_change_of_ne _ _ _ _ same] at inside
    exact Or.inl inside

/-- Every move keeps the order. -/
theorem move {m : LockMove K T} (moved : r.move m = some r') : r'.Orderly := by
  cases move_cases moved with
  | @entered t k out free =>
      have empty : (r.lockOf k).waiters = [] := by
        simp only [FifoLock.isFree, Bool.and_eq_true, List.isEmpty_iff] at free
        exact free.2
      exact
        { exclusive := orderly.exclusive.acquire (FifoLock.locked_eq_false_of_isFree free) rfl inside_in
          held := orderly.held_change (by simp [out]) fun _ => rfl
          queued := orderly.queued_change (by simp [FifoLock.lock, empty]) (by simp [FifoLock.lock]) (by simp [out])
            (by simp)
          once := orderly.once_change (orderly.once k) }
  | @enqueued t k out busy =>
      have absent : t ∉ (r.lockOf k).waiters := by
        rw [orderly.queued, out]
        exact Seat.away_ne_waiting k
      exact
        { exclusive := orderly.exclusive.keep rfl fun u j inside => (inside_out (by simp) u j inside).1
          held := orderly.held_keep rfl (by simp [out])
          queued := orderly.queued_change (by simp [FifoLock.enqueue])
            (fun u other => by simp [FifoLock.enqueue, other]) (by simp [out]) fun j other same => by
              cases same
              exact other rfl
          once := orderly.once_change
            (List.nodup_append.2 ⟨orderly.once k, List.nodup_singleton t, fun u member v last same => by
              rw [List.mem_singleton.1 last] at same
              exact absent (same ▸ member)⟩) }
  | @took t k waits first =>
      obtain ⟨rest, shape, absent⟩ := orderly.waiters_of_next? first
      have nodup := orderly.once k
      rw [shape, List.nodup_cons] at nodup
      exact
        { exclusive := orderly.exclusive.acquire (FifoLock.locked_eq_false_of_next? first) rfl inside_in
          held := orderly.held_change (by simp [waits]) fun _ => rfl
          queued := orderly.queued_change (by simp [FifoLock.grant, shape, absent])
            (fun u other => by simp [FifoLock.grant, shape, other]) (fun j other same => by
              rw [waits] at same
              cases same
              exact other rfl) (by simp)
          once := orderly.once_change (by simpa [FifoLock.grant, shape] using nodup.2) }
  | @left t k inside =>
      have absent : t ∉ (r.lockOf k).waiters := by
        rw [orderly.queued, inside]
        intro same
        cases same
      exact
        { exclusive := orderly.exclusive.release (t := t) inside (inside_out (by simp))
          held := orderly.held_change (fun j other same => by
              rw [inside] at same
              cases same
              exact other rfl) fun flagged => by cases flagged
          queued := orderly.queued_change (by simp [FifoLock.release, absent]) (by simp [FifoLock.release])
            (by simp [inside]) (by simp)
          once := orderly.once_change (orderly.once k) }
  | @abandoned t k waits =>
      have nodup := orderly.once k
      exact
        { exclusive := orderly.exclusive.keep rfl fun u j inside => (inside_out (by simp) u j inside).1
          held := orderly.held_keep rfl (by simp [waits])
          queued := orderly.queued_change (by simp [FifoLock.abandon, nodup.mem_erase_iff])
            (fun u other => by simp [FifoLock.abandon, nodup.mem_erase_iff, other]) (fun j other same => by
              rw [waits] at same
              cases same
              exact other rfl) (by simp)
          once := orderly.once_change (nodup.erase t) }

theorem exec {moves : List (LockMove K T)} (run : Execution.exec LockRoom.move r moves = some r') : r'.Orderly :=
  Execution.invariant orderly (fun _ _ _ moved held => held.move moved) run

omit [DecidableEq T] in
/-- Where somebody waits, somebody is inside, or the first in line can take the lock. -/
theorem someone_moves (waits : r.seat t = .waiting k) :
    (∃ u, r.seat u = .inside k) ∨ ∃ u, r.seat u = .waiting k ∧ (r.lockOf k).next? = some u := by
  cases locked : (r.lockOf k).locked with
  | true => exact Or.inl (orderly.held k locked)
  | false =>
      have member := (orderly.queued t k).2 waits
      obtain ⟨u, rest, shape⟩ := List.exists_cons_of_ne_nil (List.ne_nil_of_mem member)
      refine Or.inr ⟨u, (orderly.queued u k).1 (by rw [shape]; exact List.mem_cons_self), ?_⟩
      rw [FifoLock.next?, locked, shape]
      rfl

omit [DecidableEq T] in
/-- A lock without anybody inside or waiting is free. -/
theorem isFree_of_empty (nobody : ∀ u, r.seat u ≠ .inside k ∧ r.seat u ≠ .waiting k) :
    (r.lockOf k).isFree = true := by
  have unlocked : (r.lockOf k).locked = false := by
    cases locked : (r.lockOf k).locked with
    | false => rfl
    | true =>
        obtain ⟨u, inside⟩ := orderly.held k locked
        exact absurd inside (nobody u).1
  have empty : (r.lockOf k).waiters = [] := by
    apply List.eq_nil_iff_forall_not_mem.2
    intro u member
    exact (nobody u).2 ((orderly.queued u k).1 member)
  simp [FifoLock.isFree, unlocked, empty]

end Orderly

/-! ### Order of service -/

/-- Those in the queue of a lock before somebody. -/
def ahead (r : LockRoom K T) (t : T) (k : K) : List T := (r.lockOf k).waiters.takeWhile (· ≠ t)

/-- What others do keeps one waiting. -/
theorem seat_of_others {r r' : LockRoom K T} {m : LockMove K T} {t : T} (moved : r.move m = some r')
    (other : m.who ≠ t) : r'.seat t = r.seat t := by
  cases move_cases moved with
  | _ => exact seat_change_of_ne _ _ _ _ other.symm

/-- Leaving a queue shortens the line in front of those who stay. -/
theorem takeWhile_erase_sublist {u t : T} (other : u ≠ t) (line : List T) :
    (line.erase u).takeWhile (· ≠ t) <+ line.takeWhile (· ≠ t) := by
  induction line with
  | nil => exact List.Sublist.refl _
  | cons v line ih =>
      by_cases gone : v = u
      · subst gone
        rw [List.erase_cons_head, List.takeWhile_cons_of_pos (by simpa using other)]
        exact List.sublist_cons_self _ _
      · rw [List.erase_cons_tail (by simpa using gone)]
        by_cases here : v = t
        · subst here
          simp
        · rw [List.takeWhile_cons_of_pos (by simpa using here), List.takeWhile_cons_of_pos (by simpa using here)]
          exact ih.cons_cons v

/-- Those who queue behind somebody are not in front. -/
theorem takeWhile_append_of_mem {t : T} {line : List T} (member : t ∈ line) (behind : List T) :
    (line ++ behind).takeWhile (· ≠ t) = line.takeWhile (· ≠ t) := by
  induction line with
  | nil => cases member
  | cons v line ih =>
      by_cases here : v = t
      · subst here
        simp
      · rw [List.cons_append, List.takeWhile_cons_of_pos (by simpa using here),
          List.takeWhile_cons_of_pos (by simpa using here),
          ih ((List.mem_cons.1 member).resolve_left fun same => here same.symm)]

/-- One move of another: who gets inside was first of those ahead, and nobody comes ahead. -/
theorem Orderly.served_move {r r' : LockRoom K T} {m : LockMove K T} {t : T} {k : K} (orderly : r.Orderly)
    (waits : r.seat t = .waiting k) (other : m.who ≠ t) (moved : r.move m = some r') :
    (m.serves k).toList ++ r'.ahead t k <+ r.ahead t k := by
  have member : t ∈ (r.lockOf k).waiters := (orderly.queued t k).2 waits
  have kept : ∀ {j : K} {f : FifoLock T → FifoLock T} {u : T} {seat : Seat K}, j ≠ k →
      (r.change j f u seat).ahead t k = r.ahead t k := by
    intro j f u seat elsewhere
    rw [ahead, lockOf_change_of_ne _ _ _ _ elsewhere.symm, ahead]
  cases move_cases moved with
  | @entered u j out free =>
      rw [LockMove.serves]
      split
      · rename_i same
        subst same
        simp only [FifoLock.isFree, Bool.and_eq_true, List.isEmpty_iff] at free
        rw [free.2] at member
        cases member
      · rename_i elsewhere
        rw [kept elsewhere]
        exact List.Sublist.refl _
  | @enqueued u j out busy =>
      by_cases same : j = k
      · subst same
        have behind := takeWhile_append_of_mem member [u]
        simp only [LockMove.serves, Option.toList_none, List.nil_append, ahead, lockOf_change_self, FifoLock.enqueue]
        rw [behind]
      · rw [kept same]
        exact List.Sublist.refl _
  | @took u j waits' first =>
      rw [LockMove.serves]
      split
      · rename_i same
        subst same
        obtain ⟨rest, shape, -⟩ := orderly.waiters_of_next? first
        have front : r.ahead t j = u :: rest.takeWhile (· ≠ t) := by
          have front : u ≠ t := other
          rw [ahead, shape, List.takeWhile_cons_of_pos (by simpa using front)]
        rw [front, ahead, lockOf_change_self, FifoLock.grant, shape, List.tail_cons, Option.toList_some,
          List.singleton_append]
      · rename_i elsewhere
        rw [kept elsewhere]
        exact List.Sublist.refl _
  | @left u j inside =>
      by_cases same : j = k
      · subst same
        simp only [LockMove.serves, Option.toList_none, List.nil_append, ahead, lockOf_change_self, FifoLock.release]
        exact List.Sublist.refl _
      · rw [kept same]
        exact List.Sublist.refl _
  | @abandoned u j waits' =>
      by_cases same : j = k
      · subst same
        simp only [LockMove.serves, Option.toList_none, List.nil_append, ahead, lockOf_change_self, FifoLock.abandon]
        exact takeWhile_erase_sublist other _
      · rw [kept same]
        exact List.Sublist.refl _

/-- First come, first served: while somebody waits, those who get inside were ahead, and come in their order. -/
theorem Orderly.served_sublist {r r' : LockRoom K T} {moves : List (LockMove K T)} {t : T} {k : K}
    (orderly : r.Orderly) (waits : r.seat t = .waiting k) (others : ∀ m ∈ moves, m.who ≠ t)
    (run : Execution.exec LockRoom.move r moves = some r') :
    Execution.trace LockRoom.move (fun _ m => m.serves k) r moves ++ r'.ahead t k <+ r.ahead t k := by
  induction moves generalizing r with
  | nil =>
      cases run
      exact List.Sublist.refl _
  | cons m moves ih =>
      obtain ⟨s, moved, rest⟩ := Execution.exec_cons_eq_some.1 run
      rw [List.forall_mem_cons] at others
      have still : s.seat t = .waiting k := (seat_of_others moved others.1).trans waits
      have later := ih (orderly.move moved) still others.2 rest
      rw [Execution.trace_cons moved, List.append_assoc]
      exact ((List.Sublist.refl _).append later).trans (orderly.served_move waits others.1 moved)

end LockRoom
