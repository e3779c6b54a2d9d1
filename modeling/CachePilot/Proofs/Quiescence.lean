/-
Module: CachePilot.Proofs.Quiescence
Layer: Proofs
Purpose: Evaluations come to an end. The event loop moves through the rooms of the lock library: every step is a few
  moves of the task it schedules. So the locks stay in order, a waiting task always has somebody in front of it who can
  move, and it is overtaken by nobody. Every step of a task uses up some of its work, so whatever the executor answers
  and whoever is scheduled, the tasks run dry, and then every lock is free and no lease is marked as being warmed.
Trusted boundary: none
Main exports: World.room, RoomMoves, step_room, run_orderly, World.work, work_decreases, World.Quiet, Flagged,
  step_flagged, evaluations_run_dry, waiting_in_line
-/
import Mathlib.Algebra.BigOperators.Group.List.Basic
import CachePilot.Lib.LockRoom
import CachePilot.Proofs.Tasks

namespace CachePilot

/-! ### The room of a world -/

/-- Where a point of a task is among the locks. -/
def TaskPoint.seat : TaskPoint → Seat String
  | .ready => .away
  | .atLock _ fp _ => .waiting fp
  | .executing _ fp _ => .inside fp

/-- Where a task is among the locks; a task that was never started is away. -/
def World.seatOf (w : World) (tid : TaskId) : Seat String := (w.pointOf tid).elim .away TaskPoint.seat

/-- The locks of a world and the seats of its tasks. -/
def World.room (w : World) : LockRoom String TaskId where
  locks := w.manager.locks
  seat := w.seatOf

section Room

variable (w : World) (tid : TaskId) (task : EvaluationTask)

@[simp] theorem room_lockOf (fp : String) : w.room.lockOf fp = w.lockOf fp := rfl

theorem room_seat {w : World} {tid : TaskId} {task : EvaluationTask} (here : w.task? tid = some task) :
    w.room.seat tid = task.point.seat := by
  change (w.pointOf tid).elim _ _ = _
  rw [World.pointOf_eq here]
  rfl

theorem seatOf_putTask : (w.putTask tid task).seatOf = Function.update w.seatOf tid task.point.seat := by
  funext other
  unfold World.seatOf
  rw [World.pointOf_putTask]
  by_cases same : other = tid
  · subst same
    rw [if_pos rfl, Function.update_self]
    rfl
  · rw [if_neg same, Function.update_of_ne same]

/-- One lock changes while one task moves. -/
theorem room_change {w w' v : World} {tid : TaskId} {task : EvaluationTask} {fp : String}
    {f : FifoLock TaskId → FifoLock TaskId} {seat : Seat String} (shape : w' = v.putTask tid task)
    (locks : v.manager.locks = w.manager.locks.update fp f) (seats : v.seatOf = w.seatOf)
    (point : task.point.seat = seat) : w'.room = w.room.change fp f tid seat := by
  subst shape point
  unfold World.room LockRoom.change
  rw [seatOf_putTask, seats, World.manager_putTask, locks]

/-- A task that is at no lock moves without changing the room. -/
theorem room_putTask_away {w : World} {tid : TaskId} {task : EvaluationTask} (out : w.seatOf tid = .away)
    (ready : task.point = .ready) : (w.putTask tid task).room = w.room := by
  have seats := seatOf_putTask w tid task
  rw [ready, TaskPoint.seat, ← out, Function.update_eq_self] at seats
  unfold World.room
  rw [seats]
  rfl

end Room

/-- The task whose warm a step sends under the lock of a fingerprint. -/
def entering (cfg : ManagerConfig) (fp : String) (w : World) (a : Action) : Option TaskId :=
  match a, step cfg w a with
  | .resume tid, some w' => if w'.seatOf tid = .inside fp then some tid else none
  | _, _ => none

/-- The moves that a step makes at the locks are those of the task it schedules, and the warm it sends is of one that
    got inside. -/
structure RoomMoves (cfg : ManagerConfig) (w w' : World) (a : Action) (moves : List (LockMove String TaskId)) :
    Prop where
  run : Execution.exec LockRoom.move w.room moves = some w'.room
  own : ∀ m ∈ moves, a.task? = some m.who
  served : ∀ fp,
    (entering cfg fp w a).toList.Sublist (Execution.trace LockRoom.move (fun _ m => m.serves fp) w.room moves)

theorem entering_eq_some {cfg : ManagerConfig} {w w' : World} {a : Action} {fp : String} {tid : TaskId}
    (stepped : step cfg w a = some w') (enters : entering cfg fp w a = some tid) :
    a = .resume tid ∧ w'.seatOf tid = .inside fp := by
  unfold entering at enters
  rw [stepped] at enters
  split at enters
  · rename_i task after resumed
    cases resumed
    obtain ⟨inside, same⟩ := Option.ite_none_right_eq_some.1 enters
    cases same
    exact ⟨rfl, inside⟩
  · cases enters

section Moves

variable {cfg : ManagerConfig} {w w' : World} {a : Action} (stepped : step cfg w a = some w')
include stepped

/-- Moves after which nobody that was resumed is inside a lock. -/
private theorem roomMoves_out {moves : List (LockMove String TaskId)}
    (run : Execution.exec LockRoom.move w.room moves = some w'.room) (own : ∀ m ∈ moves, a.task? = some m.who)
    (out : ∀ tid fp, a = .resume tid → w'.seatOf tid ≠ .inside fp) : RoomMoves cfg w w' a moves where
  run := run
  own := own
  served fp := by
    cases enters : entering cfg fp w a with
    | none => exact List.nil_sublist _
    | some tid =>
        obtain ⟨resumed, inside⟩ := entering_eq_some stepped enters
        exact absurd inside (out tid fp resumed)

/-- A step that makes no move at the locks. -/
private theorem roomMoves_none (same : w'.room = w.room)
    (out : ∀ tid fp, a = .resume tid → w'.seatOf tid ≠ .inside fp) : ∃ moves, RoomMoves cfg w w' a moves := by
  refine ⟨[], roomMoves_out stepped ?_ (by simp) out⟩
  rw [same]
  rfl

/-- A step that makes one move, and ends outside. -/
private theorem roomMoves_one (tid : TaskId) {m : LockMove String TaskId} (moved : w.room.move m = some w'.room)
    (about : a.task? = some tid) (who : m.who = tid)
    (out : ∀ tid fp, a = .resume tid → w'.seatOf tid ≠ .inside fp) : ∃ moves, RoomMoves cfg w w' a moves := by
  refine ⟨[m], roomMoves_out stepped ?_ ?_ out⟩
  · rw [Execution.exec_singleton, moved]
  · intro n member
    rw [List.mem_singleton.1 member, who, about]

/-- A step that gets a task inside a lock by one move. -/
private theorem roomMoves_in {tid : TaskId} {k : String} {m : LockMove String TaskId}
    (moved : w.room.move m = some w'.room) (about : a = .resume tid) (who : m.who = tid)
    (serves : ∀ fp, m.serves fp = if k = fp then some tid else none) (inside : w'.seatOf tid = .inside k) :
    ∃ moves, RoomMoves cfg w w' a moves := by
  refine ⟨[m], ?_, ?_, fun fp => ?_⟩
  · rw [Execution.exec_singleton, moved]
  · intro n member
    rw [List.mem_singleton.1 member, who, about]
    rfl
  · rw [Execution.trace_cons moved, serves]
    cases enters : entering cfg fp w a with
    | none => exact List.nil_sublist _
    | some u =>
        obtain ⟨resumed, within⟩ := entering_eq_some stepped enters
        rw [about] at resumed
        cases resumed
        rw [inside] at within
        cases within
        rw [if_pos rfl]
        exact List.Sublist.refl _

end Moves

/-- A task that a step puts back to its queue is at no lock. -/
private theorem away_of_resumed {w : World} {tid u : TaskId} {task : EvaluationTask} {fp : String} {a : Action}
    (ready : task.point = .ready) (about : a.task? = some tid) (resumed : a = .resume u) :
    (w.putTask tid task).seatOf u ≠ .inside fp := by
  rw [resumed] at about
  cases about
  rw [seatOf_putTask, Function.update_self, ready]
  exact Seat.away_ne_inside fp

private theorem not_resumed {a : Action} {w : World} (idle : a.task? = none) (tid : TaskId) (fp : String)
    (resumed : a = .resume tid) : w.seatOf tid ≠ .inside fp := by
  rw [resumed] at idle
  cases idle

/-- Two moves of one task at one lock, in and out again. -/
private theorem exec_through {r : LockRoom String TaskId} {tid : TaskId} {fp : String} {m : LockMove String TaskId}
    {f : FifoLock TaskId → FifoLock TaskId} (moved : r.move m = some (r.change fp f tid (.inside fp))) :
    Execution.exec LockRoom.move r [m, .leave tid fp] =
      some ((r.change fp f tid (.inside fp)).change fp FifoLock.release tid .away) := by
  rw [Execution.exec_cons_eq_some]
  refine ⟨_, moved, ?_⟩
  rw [Execution.exec_singleton, LockRoom.move, if_pos (by simp)]

/-- Two changes of one lock, while one task went in and out. -/
private theorem room_change_twice {w w' v : World} {tid : TaskId} {task : EvaluationTask} {fp : String}
    {f : FifoLock TaskId → FifoLock TaskId} (shape : w' = v.putTask tid task)
    (locks : v.manager.locks = (w.manager.locks.update fp f).update fp FifoLock.release) (seats : v.seatOf = w.seatOf)
    (point : task.point = .ready) :
    w'.room = (w.room.change fp f tid (.inside fp)).change fp FifoLock.release tid .away := by
  subst shape
  unfold World.room LockRoom.change
  rw [seatOf_putTask, seats, World.manager_putTask, locks, point, Function.update_idem]
  rfl

/-- Every step of the event loop is moves at the locks. -/
theorem step_room {cfg : ManagerConfig} {w w' : World} {a : Action} (stepped : step cfg w a = some w') :
    ∃ moves, RoomMoves cfg w w' a moves := by
  cases step_cases stepped with
  | reused found => exact roomMoves_none stepped rfl (not_resumed rfl)
  | resolverRaised missing raised => exact roomMoves_none stepped rfl (not_resumed rfl)
  | created missing resolved => exact roomMoves_none stepped rfl (not_resumed rfl)
  | operated operation known => exact roomMoves_none stepped rfl (not_resumed operation.task?)
  | snapshotStored snapshot => exact roomMoves_none stepped rfl (not_resumed rfl)
  | snapshotDropped fp => exact roomMoves_none stepped rfl (not_resumed rfl)
  | clockSet now => exact roomMoves_none stepped rfl (not_resumed rfl)
  | @spawned _ tid queue starts unused =>
      have out : w.seatOf tid = .away := by simp [World.seatOf, World.pointOf, unused]
      have about : a.task? = some tid := by rcases starts with ⟨j, rfl⟩ | rfl <;> rfl
      exact roomMoves_none stepped (room_putTask_away out rfl) fun u fp => away_of_resumed rfl about
  | @unknownLease tid task id rest here ready queued missing =>
      have out : w.seatOf tid = .away := by simp [World.seatOf, World.pointOf, here, ready, TaskPoint.seat]
      exact roomMoves_none stepped (room_putTask_away out rfl) fun u fp => away_of_resumed rfl rfl
  | @decided tid task id rest t t' decision here ready queued known runs =>
      have out : (w.putLease id t').seatOf tid = .away := by
        simp [World.seatOf, World.pointOf, here, ready, TaskPoint.seat]
      exact roomMoves_none stepped (room_putTask_away out rfl) fun u fp => away_of_resumed rfl rfl
  | @waits tid task id rest t g here ready queued known authorised busy =>
      have out : w.room.seat tid = .away := by rw [room_seat here, ready, TaskPoint.seat]
      have moved : w.room.move (.enqueue tid t.lease.cacheFingerprint) =
          some (w.room.change t.lease.cacheFingerprint (FifoLock.enqueue tid) tid
            (.waiting t.lease.cacheFingerprint)) := if_pos ⟨out, busy⟩
      refine roomMoves_one stepped tid
        (moved.trans (congrArg some (Eq.symm (room_change rfl rfl rfl rfl)))) rfl rfl ?_
      rintro u fp resumed
      cases resumed
      rw [seatOf_putTask, Function.update_self]
      exact fun same => by cases same
  | @refusedAtOnce tid task id rest t g decision here ready queued known authorised free refused =>
      have out : w.room.seat tid = .away := by rw [room_seat here, ready, TaskPoint.seat]
      have moved : w.room.move (.enter tid t.lease.cacheFingerprint) =
          some (w.room.change t.lease.cacheFingerprint FifoLock.lock tid (.inside t.lease.cacheFingerprint)) :=
        if_pos ⟨out, free⟩
      have through := exec_through moved
      refine ⟨_, roomMoves_out stepped (through.trans (congrArg some (Eq.symm (room_change_twice rfl rfl rfl rfl)))) ?_
        fun u fp => away_of_resumed rfl rfl⟩
      intro m member
      rcases List.mem_pair.1 member with rfl | rfl <;> rfl
  | @sentAtOnce tid task id rest t g snapshot here ready queued known authorised free passed =>
      have out : w.room.seat tid = .away := by rw [room_seat here, ready, TaskPoint.seat]
      have moved : w.room.move (.enter tid t.lease.cacheFingerprint) =
          some (w.room.change t.lease.cacheFingerprint FifoLock.lock tid (.inside t.lease.cacheFingerprint)) :=
        if_pos ⟨out, free⟩
      refine roomMoves_in stepped (k := t.lease.cacheFingerprint)
        (moved.trans (congrArg some (Eq.symm (room_change rfl rfl rfl rfl)))) rfl rfl (fun fp => rfl) ?_
      rw [seatOf_putTask, Function.update_self]
      rfl
  | @refusedAtLock tid task id fp g t decision here waiting first known refused =>
      have inLine : w.room.seat tid = .waiting fp := by rw [room_seat here, waiting, TaskPoint.seat]
      have moved : w.room.move (.take tid fp) = some (w.room.change fp FifoLock.grant tid (.inside fp)) :=
        if_pos ⟨inLine, first⟩
      have through := exec_through moved
      refine ⟨_, roomMoves_out stepped (through.trans (congrArg some (Eq.symm (room_change_twice rfl rfl rfl rfl)))) ?_
        fun u fp => away_of_resumed rfl rfl⟩
      intro m member
      rcases List.mem_pair.1 member with rfl | rfl <;> rfl
  | @sentAtLock tid task id fp g t snapshot here waiting first known passed =>
      have inLine : w.room.seat tid = .waiting fp := by rw [room_seat here, waiting, TaskPoint.seat]
      have moved : w.room.move (.take tid fp) = some (w.room.change fp FifoLock.grant tid (.inside fp)) :=
        if_pos ⟨inLine, first⟩
      refine roomMoves_in stepped (k := fp)
        (moved.trans (congrArg some (Eq.symm (room_change rfl rfl rfl rfl)))) rfl rfl
        (fun fp => rfl) ?_
      rw [seatOf_putTask, Function.update_self]
      rfl
  | @returned tid task id fp snapshot t answer here inside known =>
      have within : w.room.seat tid = .inside fp := by rw [room_seat here, inside, TaskPoint.seat]
      have moved : w.room.move (.leave tid fp) = some (w.room.change fp FifoLock.release tid .away) := if_pos within
      refine roomMoves_one stepped tid
        (moved.trans (congrArg some (Eq.symm (room_change rfl rfl rfl rfl)))) rfl rfl ?_
      rintro u k resumed
      cases resumed
  | @cancelledReady tid task here ready =>
      have out : w.seatOf tid = .away := by simp [World.seatOf, World.pointOf, here, ready, TaskPoint.seat]
      refine roomMoves_none stepped (room_putTask_away out rfl) ?_
      rintro u k resumed
      cases resumed
  | @cancelledWaiting tid task id fp g here waiting =>
      have inLine : w.room.seat tid = .waiting fp := by rw [room_seat here, waiting, TaskPoint.seat]
      have moved : w.room.move (.abandon tid fp) = some (w.room.change fp (FifoLock.abandon tid) tid .away) :=
        if_pos inLine
      refine roomMoves_one stepped tid
        (moved.trans (congrArg some (Eq.symm (room_change rfl rfl rfl rfl)))) rfl rfl ?_
      rintro u k resumed
      cases resumed
  | @cancelledWarm tid task id fp snapshot t here inside known =>
      have within : w.room.seat tid = .inside fp := by rw [room_seat here, inside, TaskPoint.seat]
      have moved : w.room.move (.leave tid fp) = some (w.room.change fp FifoLock.release tid .away) := if_pos within
      refine roomMoves_one stepped tid
        (moved.trans (congrArg some (Eq.symm (room_change rfl rfl rfl rfl)))) rfl rfl ?_
      rintro u k resumed
      cases resumed

/-- The locks of a run are in order. -/
theorem run_orderly {cfg : ManagerConfig} {start w : World} {acts : List Action} (initial : start.Initial)
    (run : exec cfg start acts = some w) : w.room.Orderly := by
  apply Execution.invariant (I := fun u => u.room.Orderly) _ _ run
  · obtain ⟨empty, idle⟩ := initial
    refine LockRoom.orderly_empty ?_ fun tid => ?_
    · change start.manager.locks = ∅
      rw [empty]
    · change start.seatOf tid = .away
      simp [World.seatOf, World.pointOf, World.task?, idle]
  · intro u a v stepped orderly
    obtain ⟨moves, made⟩ := step_room stepped
    exact orderly.exec made.run

theorem Reachable.orderly {cfg : ManagerConfig} {w : World} (reachable : Reachable cfg w) : w.room.Orderly := by
  obtain ⟨start, acts, initial, run⟩ := reachable
  exact run_orderly initial run

theorem Reachable.placed {cfg : ManagerConfig} {w : World} (reachable : Reachable cfg w) : w.Placed := by
  obtain ⟨start, acts, initial, run⟩ := reachable
  exact run_placed initial run

/-- What comes after a reachable world is reachable. -/
theorem Reachable.extend {cfg : ManagerConfig} {w w' : World} {acts : List Action} (reachable : Reachable cfg w)
    (run : exec cfg w acts = some w') : Reachable cfg w' := by
  obtain ⟨start, before, initial, reached⟩ := reachable
  exact ⟨start, before ++ acts, initial, Execution.exec_append_eq_some.2 ⟨w, reached, run⟩⟩

/-! ### First come, first served -/

/-- While a task waits at a lock, the warms that others send under it are of tasks that were ahead, in their order. -/
theorem served_in_order {cfg : ManagerConfig} {w w' : World} {acts : List Action} {tid : TaskId} {fp : String}
    (orderly : w.room.Orderly) (waits : w.seatOf tid = .waiting fp) (unmoved : ∀ a ∈ acts, a.task? ≠ some tid)
    (run : exec cfg w acts = some w') :
    w'.seatOf tid = .waiting fp ∧
      (Execution.trace (step cfg) (entering cfg fp) w acts ++ w'.room.ahead tid fp).Sublist
        (w.room.ahead tid fp) := by
  induction acts generalizing w with
  | nil =>
      cases run
      exact ⟨waits, List.Sublist.refl _⟩
  | cons a acts ih =>
      obtain ⟨v, stepped, rest⟩ := Execution.exec_cons_eq_some.1 run
      rw [List.forall_mem_cons] at unmoved
      obtain ⟨moves, made⟩ := step_room stepped
      have others : ∀ m ∈ moves, m.who ≠ tid := by
        intro m member same
        exact unmoved.1 (same ▸ made.own m member)
      have still : v.room.seat tid = .waiting fp := by
        apply Execution.invariant_along (I := fun r : LockRoom String TaskId => r.seat tid = .waiting fp)
          (G := fun _ m => m.who ≠ tid) waits _ _ made.run
        · intro r m r' other moved seated
          exact (LockRoom.seat_of_others moved other).trans seated
        · exact Execution.Along.of_forall fun before m after r split _ => others m (by rw [split]; simp)
      have front := orderly.served_sublist waits others made.run
      obtain ⟨waits', later⟩ := ih (orderly.exec made.run) still unmoved.2 rest
      refine ⟨waits', ?_⟩
      rw [Execution.trace_cons stepped, List.append_assoc]
      exact ((made.served fp).append later).trans front

/-! ### Somebody can move -/

/-- A task that stands somewhere among the locks is one that was started. -/
theorem task_of_seat (w : World) (tid : TaskId) (seated : w.seatOf tid ≠ .away) :
    ∃ task, w.task? tid = some task ∧ task.point.seat = w.seatOf tid := by
  cases here : w.task? tid with
  | none =>
      apply absurd _ seated
      simp [World.seatOf, World.pointOf, here]
  | some task => exact ⟨task, rfl, (room_seat here).symm⟩

/-- The executor can return to a task inside a lock, with any answer. -/
theorem returns_of_inside {w : World} (cfg : ManagerConfig) (placed : w.Placed) {tid : TaskId} {fp : String}
    (inside : w.seatOf tid = .inside fp) (answer : ExecuteResult) :
    (step cfg w (.executeReturns tid answer)).isSome = true := by
  obtain ⟨task, here, seat⟩ := task_of_seat w tid (by rw [inside]; exact (Seat.away_ne_inside fp).symm)
  cases place : task.point with
  | ready => rw [place, inside] at seat; cases seat
  | atLock id k g => rw [place, inside] at seat; cases seat
  | executing id k snapshot =>
      have stands : w.StandsAt tid id k := Or.inr ⟨snapshot, by rw [World.pointOf_eq here, place]⟩
      obtain ⟨t, known, -⟩ := placed tid id k stands
      simp [step, World.executeReturns, here, place, known]

/-- The first in line of a lock can be resumed. -/
theorem resumes_of_first {w : World} (cfg : ManagerConfig) (placed : w.Placed) {tid : TaskId} {fp : String}
    (waits : w.seatOf tid = .waiting fp) (first : (w.lockOf fp).next? = some tid) :
    (step cfg w (.resume tid)).isSome = true := by
  obtain ⟨task, here, seat⟩ := task_of_seat w tid (by rw [waits]; exact (Seat.away_ne_waiting fp).symm)
  cases place : task.point with
  | ready => rw [place, waits] at seat; cases seat
  | executing id k snapshot => rw [place, waits] at seat; cases seat
  | atLock id k g =>
      rw [place, waits] at seat
      cases seat
      have stands : w.StandsAt tid id fp := Or.inl ⟨g, by rw [World.WaitsAt, World.pointOf_eq here, place]⟩
      obtain ⟨t, known, -⟩ := placed tid id fp stands
      simp [step, World.resume, here, place, first, known]

/-- The line at a lock moves: the executor can return to the task inside, or the first in line can be resumed, which is
    the waiting task or one ahead of it. -/
theorem line_moves {w : World} (cfg : ManagerConfig) (orderly : w.room.Orderly) (placed : w.Placed) {tid : TaskId}
    {fp : String} (waits : w.seatOf tid = .waiting fp) :
    (∃ u, w.seatOf u = .inside fp ∧ ∀ answer, (step cfg w (.executeReturns u answer)).isSome = true) ∨
      ∃ u, (u = tid ∨ u ∈ w.room.ahead tid fp) ∧ (step cfg w (.resume u)).isSome = true := by
  rcases orderly.someone_moves waits with ⟨u, inside⟩ | ⟨u, inLine, first⟩
  · exact Or.inl ⟨u, inside, returns_of_inside cfg placed inside⟩
  · refine Or.inr ⟨u, ?_, resumes_of_first cfg placed inLine first⟩
    obtain ⟨rest, shape, -⟩ := orderly.waiters_of_next? first
    by_cases same : u = tid
    · exact Or.inl same
    · right
      rw [LockRoom.ahead, shape, List.takeWhile_cons_of_pos (by simpa using same)]
      exact List.mem_cons_self

/-- A task that waits at the lock of a fingerprint is not overtaken, and the line goes on. Whatever happens while it is
    neither resumed nor cancelled, it goes on waiting; the warms sent under that lock are, each once and in this order,
    of tasks that stood ahead of it in the queue, and those who still stand ahead were there before; and the executor
    can return to the task inside, or the first in line can be resumed. -/
theorem waiting_in_line {cfg : ManagerConfig} {w w' : World} {acts : List Action} {tid : TaskId} {fp : String}
    (reachable : Reachable cfg w) (waits : w.seatOf tid = .waiting fp) (unmoved : ∀ a ∈ acts, a.task? ≠ some tid)
    (run : exec cfg w acts = some w') :
    w'.seatOf tid = .waiting fp ∧
      (Execution.trace (step cfg) (entering cfg fp) w acts ++ w'.room.ahead tid fp).Sublist
        (w.room.ahead tid fp) ∧
      ((∃ u, w'.seatOf u = .inside fp ∧ ∀ answer, (step cfg w' (.executeReturns u answer)).isSome = true) ∨
        ∃ u, (u = tid ∨ u ∈ w'.room.ahead tid fp) ∧ (step cfg w' (.resume u)).isSome = true) := by
  obtain ⟨still, order⟩ := served_in_order reachable.orderly waits unmoved run
  have after := reachable.extend run
  exact ⟨still, order, line_moves cfg after.orderly after.placed still⟩

/-! ### Work -/

/-- What a point of a task leaves to do for its lease: to get into the lock, and out of it. -/
def TaskPoint.work : TaskPoint → ℕ
  | .ready => 0
  | .executing _ _ _ => 1
  | .atLock _ _ _ => 2

/-- The steps that a task takes at most. -/
def EvaluationTask.work (task : EvaluationTask) : ℕ := 3 * task.queue.length + task.point.work

/-- The steps that all tasks take at most. -/
def World.work (w : World) : ℕ := (w.tasks.values.map EvaluationTask.work).sum

/-- A step of a task: it is resumed, or the executor returns to it. -/
def Action.advances : Action → Bool
  | .resume _ | .executeReturns _ _ => true
  | _ => false

/-- A task that changed counts with its new work. -/
theorem work_putTask {w : World} {tid : TaskId} {task : EvaluationTask} (here : w.task? tid = some task)
    (task' : EvaluationTask) : (w.putTask tid task').work + task.work = w.work + task'.work := by
  have before := (Dict.values_perm_erase here).map EvaluationTask.work
  have after := (Dict.values_perm_erase (Dict.get?_set_self w.tasks tid task')).map EvaluationTask.work
  have others : (w.tasks.set tid task').erase tid = w.tasks.erase tid := by
    rw [Dict.erase_eq_filterKeys, Dict.filterKeys_set, Dict.erase_eq_filterKeys]
    simp
  rw [others] at after
  have now : (w.putTask tid task').work = task'.work + ((w.tasks.erase tid).values.map EvaluationTask.work).sum := by
    change (((w.tasks.set tid task').values.map EvaluationTask.work)).sum = _
    rw [after.sum_eq, List.map_cons, List.sum_cons]
  have then_ : w.work = task.work + ((w.tasks.erase tid).values.map EvaluationTask.work).sum := by
    rw [World.work, before.sum_eq, List.map_cons, List.sum_cons]
  omega

/-- A task that has less to do leaves less to do in all. -/
theorem work_moved {w v w' : World} {tid : TaskId} {task task' : EvaluationTask} (here : w.task? tid = some task)
    (shape : w' = v.putTask tid task') (tasks : v.tasks = w.tasks) (less : task'.work < task.work) :
    w'.work < w.work := by
  have here' : v.task? tid = some task := by rw [World.task?, tasks, ← World.task?, here]
  have same : v.work = w.work := by rw [World.work, tasks, World.work]
  have sum := work_putTask here' task'
  rw [shape]
  omega

/-- Every step of a task uses up some of its work. -/
theorem work_decreases {cfg : ManagerConfig} {w w' : World} {a : Action} (stepped : step cfg w a = some w')
    (advances : a.advances = true) : w'.work < w.work := by
  cases step_cases stepped with
  | operated operation known => cases operation <;> cases advances
  | spawned starts unused => rcases starts with ⟨j, rfl⟩ | rfl <;> cases advances
  | unknownLease here ready queued missing =>
      exact work_moved here rfl rfl (by simp [EvaluationTask.work, TaskPoint.work, ready, queued])
  | decided here ready queued known runs =>
      exact work_moved here rfl rfl (by simp [EvaluationTask.work, TaskPoint.work, ready, queued])
  | waits here ready queued known authorised busy =>
      exact work_moved here rfl rfl (by simp [EvaluationTask.work, TaskPoint.work, ready, queued]; omega)
  | refusedAtOnce here ready queued known authorised free refused =>
      exact work_moved here rfl rfl (by simp [EvaluationTask.work, TaskPoint.work, ready, queued])
  | sentAtOnce here ready queued known authorised free passed =>
      exact work_moved here rfl rfl (by simp [EvaluationTask.work, TaskPoint.work, ready, queued]; omega)
  | refusedAtLock here waiting first known refused =>
      exact work_moved here rfl rfl (by simp [EvaluationTask.work, TaskPoint.work, waiting])
  | sentAtLock here waiting first known passed =>
      exact work_moved here rfl rfl (by simp [EvaluationTask.work, TaskPoint.work, waiting])
  | returned here inside known =>
      exact work_moved here rfl rfl (by simp [EvaluationTask.work, TaskPoint.work, inside])
  | _ => cases advances

/-- A run of steps of tasks is not longer than the work at its start. -/
theorem length_le_work {cfg : ManagerConfig} {w w' : World} {acts : List Action}
    (run : exec cfg w acts = some w') (advances : ∀ a ∈ acts, a.advances = true) :
    acts.length + w'.work ≤ w.work := by
  induction acts generalizing w with
  | nil =>
      cases run
      simp
  | cons a acts ih =>
      obtain ⟨v, stepped, rest⟩ := Execution.exec_cons_eq_some.1 run
      rw [List.forall_mem_cons] at advances
      have less := work_decreases stepped advances.1
      have later := ih rest advances.2
      rw [List.length_cons]
      omega

/-! ### No flag without a warm -/

/-- A lease that is marked as being warmed has its warm in flight. -/
def World.Flagged (w : World) : Prop :=
  ∀ id t, w.lease? id = some t → t.runtime.warmRequestActive = true → ∃ tid, w.inFlight tid = some id

section Flags

variable {w v w' : World} {tid : TaskId} {task task' : EvaluationTask}

/-- One task moves. A mark that is new is that of its own warm, and the lease of the warm it had is not marked. -/
private theorem flagged_move (flagged : w.Flagged) (shape : w' = v.putTask tid task') (points : v.pointOf = w.pointOf)
    (fresh : ∀ id t', v.lease? id = some t' → t'.runtime.warmRequestActive = true →
      (∃ t, w.lease? id = some t ∧ t.runtime.warmRequestActive = true) ∨
        ∃ fp snapshot, task'.point = .executing id fp snapshot)
    (landed : ∀ id t', v.lease? id = some t' → t'.runtime.warmRequestActive = true → w.inFlight tid ≠ some id) :
    w'.Flagged := by
  subst shape
  intro id t' known marked
  rw [World.lease?_putTask] at known
  rcases fresh id t' known marked with ⟨t, before, old⟩ | ⟨fp, snapshot, inside⟩
  · obtain ⟨u, flying⟩ := flagged id t before old
    have other : u ≠ tid := by
      rintro rfl
      exact landed id t' known marked flying
    refine ⟨u, ?_⟩
    rw [World.inFlight_eq_some_iff] at flying ⊢
    obtain ⟨fp, snapshot, place⟩ := flying
    exact ⟨fp, snapshot, by rw [World.pointOf_putTask, if_neg other, points, place]⟩
  · refine ⟨tid, World.inFlight_eq_some_iff.2 ⟨fp, snapshot, ?_⟩⟩
    rw [World.pointOf_putTask, if_pos rfl, inside]

/-- A task outside the executor moves, and nothing is newly marked. -/
private theorem flagged_outside (flagged : w.Flagged) (shape : w' = v.putTask tid task')
    (points : v.pointOf = w.pointOf) (outside : ∀ id, w.inFlight tid ≠ some id)
    (fresh : ∀ id t', v.lease? id = some t' → t'.runtime.warmRequestActive = true →
      ∃ t, w.lease? id = some t ∧ t.runtime.warmRequestActive = true) : w'.Flagged :=
  flagged_move flagged shape points (fun id t' known marked => Or.inl (fresh id t' known marked))
    fun id _ _ _ => outside id

/-- Nothing is newly marked when one lease is written that is marked only if it was. -/
private theorem marked_putLease {id : LeaseId} {t u : TrackedLease} (known : w.lease? id = some t)
    (kept : u.runtime.warmRequestActive = true → t.runtime.warmRequestActive = true) (j : LeaseId)
    (x : TrackedLease) (after : (w.putLease id u).lease? j = some x)
    (marked : x.runtime.warmRequestActive = true) :
    ∃ y, w.lease? j = some y ∧ y.runtime.warmRequestActive = true := by
  rw [World.lease?_putLease] at after
  split at after
  · rename_i same
    cases after
    exact ⟨t, by rw [same, known], kept marked⟩
  · exact ⟨x, after, marked⟩

theorem outside_of_ready (here : w.task? tid = some task) (ready : task.point = .ready) (id : LeaseId) :
    w.inFlight tid ≠ some id := by
  intro flying
  obtain ⟨fp, snapshot, place⟩ := World.inFlight_eq_some_iff.1 flying
  rw [World.pointOf_eq here, ready] at place
  cases place

theorem outside_of_waiting {j : LeaseId} {fp : String} {g : ℕ} (here : w.task? tid = some task)
    (waiting : task.point = .atLock j fp g) (id : LeaseId) : w.inFlight tid ≠ some id := by
  intro flying
  obtain ⟨fp, snapshot, place⟩ := World.inFlight_eq_some_iff.1 flying
  rw [World.pointOf_eq here, waiting] at place
  cases place

end Flags

/-- No operation marks a lease as being warmed. -/
theorem Operation.marked {cfg : ManagerConfig} {now : ℚ} {id : LeaseId} {a : Action} {f : TrackedLease → TrackedLease}
    (operation : Operation cfg now id a f) (t : TrackedLease)
    (marked : (f t).runtime.warmRequestActive = true) : t.runtime.warmRequestActive = true := by
  cases operation with
  | invalidate => cases marked
  | targetStarted targetId => rwa [TrackedLease.targetStarted_frame] at marked
  | targetFinished targetId => rwa [TrackedLease.targetFinished_frame] at marked
  | afterNormalRequest outcome => rwa [TrackedLease.afterNormalRequest_frame] at marked
  | refreshTtl answer => rwa [TrackedLease.refreshTtl_frame] at marked
  | updateCostEstimates usage => rwa [TrackedLease.updateCostEstimates_frame] at marked
  | _ => exact marked

/-- No evaluation marks a lease before it has the lock. -/
theorem Evaluated.marked {cfg : ManagerConfig} {now : ℚ} {t t' : TrackedLease} {e : Evaluation}
    (ends : Evaluated cfg now t t' e) (marked : t'.runtime.warmRequestActive = true) :
    t.runtime.warmRequestActive = true := by
  cases ends with
  | scheduled guards =>
      unfold schedule at marked
      dsimp only at marked
      split at marked
      · exact marked
      · exact marked
  | _ => exact marked

/-- Every step keeps marks with warms in flight. -/
theorem step_flagged {cfg : ManagerConfig} {w w' : World} {a : Action} (stepped : step cfg w a = some w')
    (flagged : w.Flagged) : w'.Flagged := by
  have superseded : ∀ identity id x, (w.manager.invalidateSuperseded identity).leases.get? id = some x →
      x.runtime.warmRequestActive = true → ∃ tid, w.inFlight tid = some id := by
    intro identity id x known marked
    rw [lease?_invalidateSuperseded] at known
    obtain ⟨t, before, shape⟩ := Option.map_eq_some_iff.1 known
    split at shape
    · rw [← shape] at marked
      cases marked
    · exact flagged id t before (by rw [shape, marked])
  cases step_cases stepped with
  | reused found => exact flagged
  | resolverRaised missing raised => exact superseded _
  | created missing resolved =>
      intro id x known marked
      change (LeaseManager.insertLease _ _ _ _).leases.get? id = some x at known
      rw [lease?_insertLease] at known
      split at known
      · cases known
        cases marked
      · exact superseded _ id x known marked
  | operated operation known =>
      intro id x after marked
      obtain ⟨t, before, old⟩ := marked_putLease known (operation.marked _) id x after marked
      exact flagged id t before old
  | snapshotStored snapshot => exact flagged
  | snapshotDropped fp => exact flagged
  | clockSet now => exact flagged
  | spawned starts unused =>
      refine flagged_outside flagged rfl rfl ?_ fun id t known marked => ⟨t, known, marked⟩
      intro id flying
      obtain ⟨fp, snapshot, place⟩ := World.inFlight_eq_some_iff.1 flying
      simp [World.pointOf, unused] at place
  | unknownLease here ready queued missing =>
      exact flagged_outside flagged rfl rfl (outside_of_ready here ready) fun id t known marked => ⟨t, known, marked⟩
  | decided here ready queued known runs =>
      exact flagged_outside flagged rfl rfl (outside_of_ready here ready)
        (marked_putLease known (evaluated_of_runs runs).marked)
  | waits here ready queued known authorised busy =>
      exact flagged_outside flagged rfl rfl (outside_of_ready here ready)
        (marked_putLease known fun marked => marked)
  | refusedAtOnce here ready queued known authorised free refused =>
      exact flagged_outside flagged rfl rfl (outside_of_ready here ready)
        (marked_putLease known fun marked => marked)
  | @sentAtOnce tid task id rest t g snapshot here ready queued known authorised free passed =>
      refine flagged_move flagged rfl rfl ?_ fun j _ _ _ => outside_of_ready here ready j
      intro j x after marked
      by_cases same : j = id
      · rw [same]
        exact Or.inr ⟨_, _, rfl⟩
      · exact Or.inl ⟨x, by simpa [same] using after, marked⟩
  | refusedAtLock here waiting first known refused =>
      exact flagged_outside flagged rfl rfl (outside_of_waiting here waiting)
        fun id t known marked => ⟨t, known, marked⟩
  | @sentAtLock tid task id fp g t snapshot here waiting first known passed =>
      refine flagged_move flagged rfl rfl ?_ fun j _ _ _ => outside_of_waiting here waiting j
      intro j x after marked
      by_cases same : j = id
      · rw [same]
        exact Or.inr ⟨_, _, rfl⟩
      · exact Or.inl ⟨x, by simpa [same] using after, marked⟩
  | @returned tid task id fp snapshot t answer here inside known =>
      refine flagged_move flagged rfl rfl ?_ ?_
      · intro j x after marked
        refine Or.inl (marked_putLease known (fun marked => ?_) j x after marked)
        rw [finishWarm_flag] at marked
        cases marked
      · intro j x after marked flying
        rw [World.inFlight_of_inside here inside] at flying
        cases flying
        simp only [World.lease?_changeLock, World.lease?_putLease, if_pos] at after
        cases after
        rw [finishWarm_flag] at marked
        cases marked
  | cancelledReady here ready =>
      exact flagged_outside flagged rfl rfl (outside_of_ready here ready) fun id t known marked => ⟨t, known, marked⟩
  | cancelledWaiting here waiting =>
      exact flagged_outside flagged rfl rfl (outside_of_waiting here waiting)
        fun id t known marked => ⟨t, known, marked⟩
  | @cancelledWarm tid task id fp snapshot t here inside known =>
      refine flagged_move flagged rfl rfl ?_ ?_
      · intro j x after marked
        exact Or.inl (marked_putLease known (fun marked => by cases marked) j x after marked)
      · intro j x after marked flying
        rw [World.inFlight_of_inside here inside] at flying
        cases flying
        simp only [World.lease?_changeLock, World.lease?_putLease, if_pos] at after
        cases after
        cases marked

theorem Reachable.flagged {cfg : ManagerConfig} {w : World} (reachable : Reachable cfg w) : w.Flagged := by
  obtain ⟨start, acts, initial, run⟩ := reachable
  apply Execution.invariant (I := World.Flagged) _ _ run
  · obtain ⟨empty, -⟩ := initial
    intro id t known
    simp [World.lease?, empty] at known
  · intro u a v stepped flagged
    exact step_flagged stepped flagged

/-! ### The end of the tasks -/

/-- Nothing is going on: every task is done, every lock is free, and no lease is marked as being warmed. -/
structure World.Quiet (w : World) : Prop where
  finished : ∀ tid task, w.task? tid = some task → task.point = .ready ∧ task.queue = []
  unlocked : ∀ fp, (w.lockOf fp).isFree = true
  cool : ∀ id t, w.lease? id = some t → t.runtime.warmRequestActive = false

/-- When every task is done, nothing is going on. -/
theorem quiet_of_finished {cfg : ManagerConfig} {w : World} (reachable : Reachable cfg w)
    (finished : ∀ tid task, w.task? tid = some task → task.point = .ready ∧ task.queue = []) : w.Quiet where
  finished := finished
  unlocked fp := by
    apply reachable.orderly.isFree_of_empty (k := fp)
    intro tid
    have away : w.seatOf tid = .away := by
      unfold World.seatOf World.pointOf
      cases here : w.task? tid with
      | none => rfl
      | some task =>
          change task.point.seat = .away
          rw [(finished tid task here).1]
          rfl
    change w.seatOf tid ≠ _ ∧ w.seatOf tid ≠ _
    rw [away]
    exact ⟨Seat.away_ne_inside fp, Seat.away_ne_waiting fp⟩
  cool id t known := by
    cases marked : t.runtime.warmRequestActive with
    | false => rfl
    | true =>
        obtain ⟨tid, flying⟩ := reachable.flagged id t known marked
        obtain ⟨task, fp, snapshot, here, inside⟩ := World.inside_of_inFlight flying
        rw [(finished tid task here).1] at inside
        cases inside

/-- While a task is not done, some task can go on. -/
theorem some_task_advances {cfg : ManagerConfig} {w : World} (reachable : Reachable cfg w) {tid : TaskId}
    {task : EvaluationTask} (here : w.task? tid = some task) (unfinished : ¬(task.point = .ready ∧ task.queue = [])) :
    ∃ a w', a.advances = true ∧ step cfg w a = some w' := by
  have enabled : ∀ {a : Action}, a.advances = true → (step cfg w a).isSome = true →
      ∃ a w', a.advances = true ∧ step cfg w a = some w' := by
    intro a advances able
    obtain ⟨w', stepped⟩ := Option.isSome_iff_exists.1 able
    exact ⟨a, w', advances, stepped⟩
  have seat := room_seat here
  cases place : task.point with
  | ready =>
      cases queued : task.queue with
      | nil => exact absurd ⟨place, queued⟩ unfinished
      | cons id rest =>
          exact enabled (a := .resume tid) rfl (by simp [step, World.resume, here, place, queued])
  | executing id fp snapshot =>
      rw [place] at seat
      exact enabled rfl (returns_of_inside cfg reachable.placed seat .raised)
  | atLock id fp g =>
      rw [place] at seat
      rcases line_moves cfg reachable.orderly reachable.placed seat with ⟨u, -, returns⟩ | ⟨u, -, resumes⟩
      · exact enabled rfl (returns .raised)
      · exact enabled rfl resumes

/-- No task can go on exactly when nothing is going on. -/
theorem stopped_iff_quiet {cfg : ManagerConfig} {w : World} (reachable : Reachable cfg w) :
    (∀ a, a.advances = true → step cfg w a = none) ↔ w.Quiet := by
  constructor
  · intro stopped
    apply quiet_of_finished reachable
    intro tid task here
    by_contra unfinished
    obtain ⟨a, w', advances, stepped⟩ := some_task_advances reachable here unfinished
    rw [stopped a advances] at stepped
    cases stepped
  · intro quiet a advances
    cases a with
    | resume tid =>
        cases here : w.task? tid with
        | none => simp [step, World.resume, here]
        | some task =>
            obtain ⟨ready, empty⟩ := quiet.finished tid task here
            simp [step, World.resume, here, ready, empty]
    | executeReturns tid answer =>
        cases here : w.task? tid with
        | none => simp [step, World.executeReturns, here]
        | some task =>
            obtain ⟨ready, -⟩ := quiet.finished tid task here
            simp [step, World.executeReturns, here, ready]
    | _ => cases advances

/-- The tasks can be run until nothing is going on. -/
theorem exists_quiet_end {cfg : ManagerConfig} {w : World} (reachable : Reachable cfg w) :
    ∃ acts w', (∀ a ∈ acts, a.advances = true) ∧ exec cfg w acts = some w' ∧ w'.Quiet := by
  induction bound : w.work using Nat.strongRecOn generalizing w with
  | ind work ih =>
      by_cases stopped : ∀ a, a.advances = true → step cfg w a = none
      · exact ⟨[], w, by simp, rfl, (stopped_iff_quiet reachable).1 stopped⟩
      · push Not at stopped
        obtain ⟨a, advances, able⟩ := stopped
        obtain ⟨v, stepped⟩ := Option.ne_none_iff_exists'.1 able
        have less := work_decreases stepped advances
        have reached : exec cfg w [a] = some v := (Execution.exec_singleton w a).trans stepped
        obtain ⟨acts, w', all, run, quiet⟩ := ih v.work (bound ▸ less) (reachable.extend reached) rfl
        refine ⟨a :: acts, w', List.forall_mem_cons.2 ⟨advances, all⟩, ?_, quiet⟩
        exact Execution.exec_cons_eq_some.2 ⟨v, stepped, run⟩

/-- The tasks run dry. From any world that is reached, and whatever is resumed first and whatever the executor answers,
    the tasks take no more steps than there is work; they can take none exactly when nothing is going on, every lock
    free and no lease marked as being warmed; and from anywhere on the way they can get there. -/
theorem evaluations_run_dry {cfg : ManagerConfig} {w w' : World} {acts : List Action} (reachable : Reachable cfg w)
    (advances : ∀ a ∈ acts, a.advances = true) (run : exec cfg w acts = some w') :
    acts.length ≤ w.work ∧ ((∀ a, a.advances = true → step cfg w' a = none) ↔ w'.Quiet) ∧
      ∃ more w'', (∀ a ∈ more, a.advances = true) ∧ exec cfg w' more = some w'' ∧ w''.Quiet := by
  have bound := length_le_work run advances
  have after := reachable.extend run
  exact ⟨by omega, stopped_iff_quiet after, exists_quiet_end after⟩

/-! ### A sample -/

theorem reachable_sampleAt {acts : List Action} (runs : (exec sampleConfig {} acts).isSome = true) :
    Reachable sampleConfig (sampleAt acts) :=
  ⟨{}, acts, World.initial_empty, exec_sampleAt runs⟩

theorem sampleShared_runs : (exec sampleConfig {} sampleShared).isSome = true := by decide +kernel

/-- The warm that holds the lock fails, and the waiting evaluation takes its turn. -/
def sampleReturned : List Action := [.executeReturns 0 .raised, .resume 1]

theorem sampleReturned_runs : (exec sampleConfig {} (sampleShared ++ sampleReturned)).isSome = true := by
  decide +kernel

theorem sampleReturned_advances : ∀ a ∈ sampleReturned, a.advances = true := by decide

theorem evaluations_run_dry_shared :
    sampleReturned.length ≤ (sampleAt sampleShared).work ∧
      ((∀ a, a.advances = true → step sampleConfig (sampleAt (sampleShared ++ sampleReturned)) a = none) ↔
        (sampleAt (sampleShared ++ sampleReturned)).Quiet) ∧
      ∃ more w'', (∀ a ∈ more, a.advances = true) ∧
        exec sampleConfig (sampleAt (sampleShared ++ sampleReturned)) more = some w'' ∧ w''.Quiet :=
  evaluations_run_dry (reachable_sampleAt sampleShared_runs) sampleReturned_advances
    (Execution.exec_final sampleReturned_runs)

/-- A third evaluation of the shared identity queues behind the second, and the warm in front of it goes out. -/
def sampleThird : List Action := sampleShared ++ [.evaluateLease 2 1, .resume 2]

theorem sampleThird_runs : (exec sampleConfig {} sampleThird).isSome = true := by decide +kernel

theorem sampleThird_waits : (sampleAt sampleThird).seatOf 2 = .waiting "fp" := by decide +kernel

theorem sampleTurn_runs : (exec sampleConfig {} (sampleThird ++ sampleReturned)).isSome = true := by decide +kernel

theorem sampleReturned_unmoved : ∀ a ∈ sampleReturned, a.task? ≠ some 2 := by decide

theorem waiting_in_line_third :
    (sampleAt (sampleThird ++ sampleReturned)).seatOf 2 = .waiting "fp" ∧
      (Execution.trace (step sampleConfig) (entering sampleConfig "fp") (sampleAt sampleThird) sampleReturned ++
        (sampleAt (sampleThird ++ sampleReturned)).room.ahead 2 "fp").Sublist
          ((sampleAt sampleThird).room.ahead 2 "fp") ∧
      ((∃ u, (sampleAt (sampleThird ++ sampleReturned)).seatOf u = .inside "fp" ∧ ∀ answer,
          (step sampleConfig (sampleAt (sampleThird ++ sampleReturned)) (.executeReturns u answer)).isSome = true) ∨
        ∃ u, (u = 2 ∨ u ∈ (sampleAt (sampleThird ++ sampleReturned)).room.ahead 2 "fp") ∧
          (step sampleConfig (sampleAt (sampleThird ++ sampleReturned)) (.resume u)).isSome = true) :=
  waiting_in_line (reachable_sampleAt sampleThird_runs) sampleThird_waits sampleReturned_unmoved
    (Execution.exec_final sampleTurn_runs)

/-- One task stands ahead of it, and sends the warm. -/
example :
    (sampleAt sampleThird).room.ahead 2 "fp" = [1] ∧
      Execution.trace (step sampleConfig) (entering sampleConfig "fp") (sampleAt sampleThird) sampleReturned = [1] := by
  decide +kernel

end CachePilot
