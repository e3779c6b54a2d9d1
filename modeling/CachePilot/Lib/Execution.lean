/-
Module: CachePilot.Lib.Execution
Layer: Lib
Purpose: Finite executions of a partial step function, and the rules by which a property of one step
  becomes a property of every run. A machine is a function `next : S → A → Option S`; `none` says that
  the action is not enabled. `exec` runs a list of actions. The history rules below are the only
  inductions over runs in the development: an invariant may speak about the actions performed so far
  (`history_invariant`), and a guard on the steps of a run is a hypothesis of the step lemma
  (`invariant_along`).
Trusted boundary: none
Main exports: exec, exec_append, Along, history_invariant, invariant_along, trace,
  everyStep_iff_along, everyState_iff_along, Since, AtEach, forall_prefix_iff_atEach
-/
import Mathlib.Algebra.Group.Defs
import Mathlib.Data.List.Induction
import Mathlib.Tactic.Common

namespace Execution

variable {S A : Type*} {next : S → A → Option S}

/-- Run a list of actions from a state. -/
def exec (next : S → A → Option S) : S → List A → Option S
  | s, [] => some s
  | s, a :: as => (next s a).bind fun t => exec next t as

@[simp] theorem exec_nil (s : S) : exec next s [] = some s := rfl

theorem exec_cons (s : S) (a : A) (as : List A) :
    exec next s (a :: as) = (next s a).bind fun t => exec next t as := rfl

@[simp] theorem exec_singleton (s : S) (a : A) : exec next s [a] = next s a := by
  simp [exec_cons]

/-- A run of a concatenation is a run of the first part followed by a run of the second. -/
theorem exec_append (s : S) (as bs : List A) :
    exec next s (as ++ bs) = (exec next s as).bind fun t => exec next t bs := by
  induction as generalizing s with
  | nil => simp
  | cons a as ih =>
      simp only [List.cons_append, exec_cons, Option.bind_assoc]
      exact congrArg _ (funext fun t => ih t)

theorem exec_append_eq_some {s u : S} {as bs : List A} :
    exec next s (as ++ bs) = some u ↔
      ∃ t, exec next s as = some t ∧ exec next t bs = some u := by
  rw [exec_append, Option.bind_eq_some_iff]

theorem exec_cons_eq_some {s u : S} {a : A} {as : List A} :
    exec next s (a :: as) = some u ↔
      ∃ t, next s a = some t ∧ exec next t as = some u := by
  rw [exec_cons, Option.bind_eq_some_iff]

/-- The last action of a run, exposed. -/
theorem exec_snoc_eq_some {s u : S} {a : A} {as : List A} :
    exec next s (as ++ [a]) = some u ↔
      ∃ t, exec next s as = some t ∧ next t a = some u := by
  simp [exec_append_eq_some]

/-- Extend a run by one step. -/
theorem exec_snoc {s t u : S} {a : A} {as : List A}
    (run : exec next s as = some t) (step : next t a = some u) :
    exec next s (as ++ [a]) = some u :=
  exec_snoc_eq_some.2 ⟨t, run, step⟩

/-- Where a run ends; a run that gets stuck counts as not having moved. -/
def final (next : S → A → Option S) (s : S) (as : List A) : S := (exec next s as).getD s

theorem exec_eq_final {s : S} {as : List A} (runs : (exec next s as).isSome = true) :
    exec next s as = some (final next s as) := by
  obtain ⟨t, reached⟩ := Option.isSome_iff_exists.1 runs
  rw [final, reached]
  rfl

/-- The rest of a run that does not get stuck. -/
theorem exec_final {s : S} {as bs : List A} (runs : (exec next s (as ++ bs)).isSome = true) :
    exec next (final next s as) bs = some (final next s (as ++ bs)) := by
  obtain ⟨u, reached⟩ := Option.isSome_iff_exists.1 runs
  obtain ⟨t, before, rest⟩ := exec_append_eq_some.1 reached
  rw [final, final, before, reached]
  exact rest

/-- The last step of a run that does not get stuck. -/
theorem step_final {s : S} {as : List A} {a : A} (runs : (exec next s (as ++ [a])).isSome = true) :
    next (final next s as) a = some (final next s (as ++ [a])) := by
  have last := exec_final runs
  rwa [exec_singleton] at last

/-- Two machines that agree on the actions of a run run it alike. -/
theorem exec_congr {next' : S → A → Option S} {as : List A} (agree : ∀ s, ∀ a ∈ as, next s a = next' s a) (s : S) :
    exec next s as = exec next' s as := by
  induction as generalizing s with
  | nil => rfl
  | cons a as ih =>
      rw [exec_cons, exec_cons, agree s a List.mem_cons_self]
      exact congrArg _ (funext fun t => ih (fun u b listed => agree u b (List.mem_cons_of_mem a listed)) t)

/-- The predicate `P` holds of the state and the action of every step of the run. -/
def Along (next : S → A → Option S) (P : S → A → Prop) : S → List A → Prop
  | _, [] => True
  | s, a :: as => P s a ∧ ∀ t ∈ next s a, Along next P t as

/-- A guard that can be decided at each step can be decided along a run. -/
instance Along.decidable (P : S → A → Prop) [∀ s a, Decidable (P s a)] :
    ∀ (s : S) (as : List A), Decidable (Along next P s as)
  | _, [] => .isTrue trivial
  | s, a :: as =>
      match h : next s a with
      | none => decidable_of_iff (P s a) (by simp [Along, h])
      | some t =>
          have : Decidable (Along next P t as) := Along.decidable P t as
          decidable_of_iff (P s a ∧ Along next P t as) (by simp [Along, h])

/-- The guard of a run, read at one of its steps. -/
theorem Along.step {P : S → A → Prop} {s t : S} {before after : List A} {a : A}
    (along : Along next P s (before ++ a :: after))
    (run : exec next s before = some t) : P t a := by
  induction before generalizing s with
  | nil =>
      cases run
      exact along.1
  | cons b before ih =>
      obtain ⟨u, hstep, hrun⟩ := exec_cons_eq_some.1 run
      exact ih (along.2 u hstep) hrun

/-- A guard that holds at every step that a run reaches holds along it. -/
theorem Along.of_forall {P : S → A → Prop} {s : S} {as : List A}
    (holds : ∀ before a after t, as = before ++ a :: after →
      exec next s before = some t → P t a) : Along next P s as := by
  induction as generalizing s with
  | nil => trivial
  | cons a as ih =>
      refine ⟨holds [] a as s rfl rfl, fun t hstep => ih ?_⟩
      rintro before b after u rfl hrun
      exact holds (a :: before) b after u rfl (exec_cons_eq_some.2 ⟨t, hstep, hrun⟩)

/-- Along a run is the same as at each of its steps. -/
theorem along_iff {P : S → A → Prop} {s : S} {as : List A} :
    Along next P s as ↔ ∀ before a after t, as = before ++ a :: after →
      exec next s before = some t → P t a := by
  refine ⟨?_, Along.of_forall⟩
  rintro along before a after t rfl run
  exact along.step run

theorem Along.mono {P Q : S → A → Prop} {s : S} {as : List A}
    (weaken : ∀ t a, P t a → Q t a) (along : Along next P s as) : Along next Q s as :=
  along_iff.2 fun before a after t split run =>
    weaken t a (along_iff.1 along before a after t split run)

/-- The guard of a run may be read on another machine that agrees on its actions. -/
theorem Along.congr {next' : S → A → Option S} {P P' : S → A → Prop} {s : S} {as : List A}
    (agree : ∀ s, ∀ a ∈ as, next s a = next' s a) (weaken : ∀ s, ∀ a ∈ as, P' s a → P s a)
    (along : Along next' P' s as) : Along next P s as := by
  induction as generalizing s with
  | nil => trivial
  | cons a as ih =>
      refine ⟨weaken s a List.mem_cons_self along.1, fun t reached => ?_⟩
      rw [agree s a List.mem_cons_self] at reached
      exact ih (fun u b listed => agree u b (List.mem_cons_of_mem a listed))
        (fun u b listed => weaken u b (List.mem_cons_of_mem a listed)) (along.2 t reached)

theorem Along.left {P : S → A → Prop} {s : S} {as bs : List A}
    (along : Along next P s (as ++ bs)) : Along next P s as := by
  apply Along.of_forall
  intro before a after t split run
  subst split
  have whole : Along next P s (before ++ a :: (after ++ bs)) := by simpa using along
  exact whole.step run

/-- `Along` for guards that also read the actions performed so far, after those of `past`. -/
def AlongHistory (next : S → A → Option S) (P : List A → S → A → Prop) :
    List A → S → List A → Prop
  | _, _, [] => True
  | past, s, a :: as => P past s a ∧ ∀ t ∈ next s a, AlongHistory next P (past ++ [a]) t as

instance AlongHistory.decidable (P : List A → S → A → Prop)
    [∀ past s a, Decidable (P past s a)] :
    ∀ (past : List A) (s : S) (as : List A), Decidable (AlongHistory next P past s as)
  | _, _, [] => .isTrue trivial
  | past, s, a :: as =>
      match h : next s a with
      | none => decidable_of_iff (P past s a) (by simp [AlongHistory, h])
      | some t =>
          have : Decidable (AlongHistory next P (past ++ [a]) t as) :=
            AlongHistory.decidable P (past ++ [a]) t as
          decidable_of_iff (P past s a ∧ AlongHistory next P (past ++ [a]) t as)
            (by simp [AlongHistory, h])

/-- The guard of a run, read at one of its steps. -/
theorem AlongHistory.step {P : List A → S → A → Prop} {past : List A} {s t : S}
    {before after : List A} {a : A}
    (along : AlongHistory next P past s (before ++ a :: after))
    (run : exec next s before = some t) : P (past ++ before) t a := by
  induction before generalizing past s with
  | nil =>
      cases run
      rw [List.append_nil]
      exact along.1
  | cons b before ih =>
      obtain ⟨u, hstep, hrun⟩ := exec_cons_eq_some.1 run
      have later := ih (along.2 u hstep) hrun
      rwa [List.append_assoc] at later

theorem AlongHistory.left {P : List A → S → A → Prop} {past : List A} {s : S} {as bs : List A}
    (along : AlongHistory next P past s (as ++ bs)) : AlongHistory next P past s as := by
  induction as generalizing past s with
  | nil => trivial
  | cons a as ih => exact ⟨along.1, fun t hstep => ih (along.2 t hstep)⟩

/-- The history rule: a relation between the actions performed so far and the state reached, which
    holds at the start and survives each step of this run, holds at its end. -/
theorem history_invariant {R : List A → S → Prop} {s t : S} {as : List A}
    (start : R [] s)
    (step : ∀ before a after u v, as = before ++ a :: after →
      exec next s before = some u → next u a = some v → R before u → R (before ++ [a]) v)
    (run : exec next s as = some t) : R as t := by
  induction as using List.reverseRecOn generalizing t with
  | nil =>
      cases run
      exact start
  | append_singleton as a ih =>
      obtain ⟨u, hrun, hstep⟩ := exec_snoc_eq_some.1 run
      refine step as a [] u t rfl hrun hstep (ih ?_ hrun)
      rintro before b after v w rfl
      exact step before b (after ++ [a]) v w (by simp)

/-- The guarded invariant rule: a property of states that every guarded step preserves holds at the
    end of a run whose steps all meet the guard. -/
theorem invariant_along {I : S → Prop} {G : S → A → Prop} {s t : S} {as : List A}
    (start : I s) (step : ∀ u a v, G u a → next u a = some v → I u → I v)
    (along : Along next G s as) (run : exec next s as = some t) : I t := by
  refine history_invariant (R := fun _ u => I u) start ?_ run
  rintro before a after u v rfl hrun hstep held
  exact step u a v (along.step hrun) hstep held

/-- The invariant rule: what every step preserves, every run preserves. -/
theorem invariant {I : S → Prop} {s t : S} {as : List A}
    (start : I s) (step : ∀ u a v, next u a = some v → I u → I v)
    (run : exec next s as = some t) : I t :=
  history_invariant (R := fun _ u => I u) start
    (fun _ a _ u v _ _ hstep held => step u a v hstep held) run

/-! ### Observations -/

/-- What an observer of the steps sees along a run, in order. -/
def trace {O : Type*} (next : S → A → Option S) (observe : S → A → Option O) :
    S → List A → List O
  | _, [] => []
  | s, a :: as =>
      match next s a with
      | none => []
      | some t => (observe s a).toList ++ trace next observe t as

section Trace

variable {O : Type*} {observe : S → A → Option O}

theorem trace_cons {s t : S} {a : A} {as : List A} (step : next s a = some t) :
    trace next observe s (a :: as) = (observe s a).toList ++ trace next observe t as := by
  rw [trace, step]

theorem trace_append {s t : S} {as bs : List A} (run : exec next s as = some t) :
    trace next observe s (as ++ bs) = trace next observe s as ++ trace next observe t bs := by
  induction as generalizing s with
  | nil =>
      cases run
      rfl
  | cons a as ih =>
      obtain ⟨u, hstep, hrun⟩ := exec_cons_eq_some.1 run
      rw [List.cons_append, trace_cons hstep, trace_cons hstep, ih hrun, List.append_assoc]

/-- One more step adds what is seen in it. -/
theorem trace_snoc {s t u : S} {as : List A} {a : A} (run : exec next s as = some t)
    (step : next t a = some u) :
    trace next observe s (as ++ [a]) = trace next observe s as ++ (observe t a).toList := by
  rw [trace_append run, trace_cons step, trace, List.append_nil]

/-- A measure of states to which every step adds what is seen in it grows by the whole trace. -/
theorem measure_trace {M : Type*} [AddMonoid M] {m : S → M} {g : List O → M} (nil : g [] = 0)
    (append : ∀ xs ys, g (xs ++ ys) = g xs + g ys)
    (step : ∀ u a v, next u a = some v → m v = m u + g (observe u a).toList)
    {s t : S} {as : List A} (run : exec next s as = some t) :
    m t = m s + g (trace next observe s as) := by
  induction as generalizing s with
  | nil =>
      cases run
      rw [trace, nil, add_zero]
  | cons a as ih =>
      obtain ⟨u, hstep, hrun⟩ := exec_cons_eq_some.1 run
      rw [trace_cons hstep, append, ih hrun, step s a u hstep, add_assoc]

/-- A part of the state that every step folds what is seen in it into is the fold of the whole trace. -/
theorem fold_trace {M : Type*} {m : S → M} {f : M → O → M}
    (step : ∀ u a v, next u a = some v → m v = (observe u a).toList.foldl f (m u))
    {s t : S} {as : List A} (run : exec next s as = some t) :
    m t = (trace next observe s as).foldl f (m s) := by
  induction as generalizing s with
  | nil =>
      cases run
      rfl
  | cons a as ih =>
      obtain ⟨u, hstep, hrun⟩ := exec_cons_eq_some.1 run
      rw [trace_cons hstep, List.foldl_append, ← step s a u hstep]
      exact ih hrun

/-- Everything in a trace was seen at some step. -/
theorem exists_step_of_mem_trace {s t : S} {as : List A} {o : O} (run : exec next s as = some t)
    (seen : o ∈ trace next observe s as) :
    ∃ before a after u v, as = before ++ a :: after ∧ exec next s before = some u ∧
      next u a = some v ∧ observe u a = some o := by
  induction as generalizing s with
  | nil => cases seen
  | cons a as ih =>
      obtain ⟨u, hstep, hrun⟩ := exec_cons_eq_some.1 run
      rw [trace_cons hstep] at seen
      rcases List.mem_append.1 seen with here | later
      · exact ⟨[], a, as, s, u, rfl, rfl, hstep, Option.mem_toList.1 here⟩
      · obtain ⟨before, b, after, x, y, split, reached, last, observed⟩ := ih hrun later
        exact ⟨a :: before, b, after, x, y, by rw [split]; rfl,
          exec_cons_eq_some.2 ⟨u, hstep, reached⟩, last, observed⟩

end Trace

/-! ### Exact conditions -/

/-- Every step of the run relates the states before and after it by `R`. -/
def EveryStep (next : S → A → Option S) (R : S → A → S → Prop) (s : S) (as : List A) : Prop :=
  ∀ before a after u v, as = before ++ a :: after → exec next s before = some u →
    next u a = some v → R u a v

/-- When, at every step that the run takes from a state with `P`, the guard is exactly what the step needs
    to keep `P` and to have `Q`, then it is exactly what the run needs: every state of the run has `P` and
    every step has `Q` if and only if every step meets the guard. -/
theorem everyStep_iff_along {P : S → Prop} {Q : S → A → S → Prop} {G : S → A → Prop} {s t : S}
    {as : List A} (start : P s) (run : exec next s as = some t)
    (exact : EveryStep next (fun u a v => P u → ((P v ∧ Q u a v) ↔ G u a)) s as) :
    EveryStep next (fun u a v => P v ∧ Q u a v) s as ↔ Along next G s as := by
  constructor
  · intro every
    have holds : ∀ before after u, as = before ++ after → exec next s before = some u → P u := by
      intro before after u split reached
      rcases List.eq_nil_or_concat before with rfl | ⟨earlier, a, rfl⟩
      · cases reached
        exact start
      · rw [List.concat_eq_append] at reached
        obtain ⟨x, first, last⟩ := exec_snoc_eq_some.1 reached
        exact (every earlier a after x u (by simp [split]) first last).1
    apply Along.of_forall
    intro before a after u split reached
    have whole := run
    rw [split] at whole
    obtain ⟨x, first, rest⟩ := exec_append_eq_some.1 whole
    rw [reached] at first
    cases first
    obtain ⟨v, last, -⟩ := exec_cons_eq_some.1 rest
    have held := holds before (a :: after) u split reached
    exact (exact before a after u v split reached last held).1
      (every before a after u v split reached last)
  · intro along before a after u v split reached last
    have held : P u := by
      apply history_invariant (R := fun _ x => P x) start _ reached
      intro earlier b later x y between first stepped kept
      have position : as = earlier ++ b :: (later ++ a :: after) := by simp [split, between]
      exact ((exact earlier b _ x y position first stepped kept).2
        (along_iff.1 along earlier b _ x position first)).1
    exact (exact before a after u v split reached last held).2
      (along_iff.1 along before a after u split reached)

/-- The same for a property of states alone. -/
theorem everyState_iff_along {P : S → Prop} {G : S → A → Prop} {s t : S} {as : List A}
    (start : P s) (run : exec next s as = some t)
    (exact : EveryStep next (fun u a v => P u → (P v ↔ G u a)) s as) :
    EveryStep next (fun _ _ v => P v) s as ↔ Along next G s as := by
  have bare := everyStep_iff_along (Q := fun _ _ _ => True) (G := G) start run (by
    intro before a after u v split reached stepped held
    rw [and_true]
    exact exact before a after u v split reached stepped held)
  simpa only [and_true] using bare

/-- The same when what a step has to have already keeps `P`: every step has `Q` if and only if every step meets
    the guard. -/
theorem everyStep_iff_along_of_keeps {P : S → Prop} {Q : S → A → S → Prop} {G : S → A → Prop} {s t : S}
    {as : List A} (start : P s) (run : exec next s as = some t)
    (exact : EveryStep next (fun u a v => P u → (Q u a v ↔ G u a)) s as)
    (keeps : EveryStep next (fun u a v => P u → Q u a v → P v) s as) :
    EveryStep next Q s as ↔ Along next G s as := by
  have both := everyStep_iff_along (P := P) (Q := Q) (G := G) start run (by
    intro before a after u v split reached stepped held
    rw [← exact before a after u v split reached stepped held]
    exact ⟨And.right, fun has => ⟨keeps before a after u v split reached stepped held has, has⟩⟩)
  rw [← both]
  constructor
  · intro every before a after u v split reached stepped
    have held : P u := by
      apply history_invariant (R := fun _ x => P x) start _ reached
      intro earlier b later x y between first step kept
      have position : as = earlier ++ b :: (later ++ a :: after) := by simp [split, between]
      exact keeps earlier b _ x y position first step kept (every earlier b _ x y position first step)
    have has := every before a after u v split reached stepped
    exact ⟨keeps before a after u v split reached stepped held has, has⟩
  · intro every before a after u v split reached stepped
    exact (every before a after u v split reached stepped).2

/-! ### Since -/

/-- Some step of the run met `E`, which may look at the actions before it, and every later step met
    `N`. -/
def Since (next : S → A → Option S) (E : List A → S → A → Prop) (N : S → A → Prop) (s : S)
    (as : List A) : Prop :=
  ∃ early a late u v, as = early ++ a :: late ∧ exec next s early = some u ∧
    next u a = some v ∧ E early u a ∧ Along next N v late

section Since

variable {E E' : List A → S → A → Prop} {N N' : S → A → Prop} {s u v : S} {as : List A} {a : A}

/-- The step that meets `E` is the last one. -/
theorem Since.now (run : exec next s as = some u) (step : next u a = some v) (event : E as u a) :
    Since next E N s (as ++ [a]) :=
  ⟨as, a, [], u, v, rfl, run, step, event, trivial⟩

/-- One more step that meets `N`. -/
theorem Since.extend (since : Since next E N s as) (run : exec next s as = some u)
    (quiet : N u a) : Since next E N s (as ++ [a]) := by
  obtain ⟨early, b, late, x, y, rfl, first, step, event, along⟩ := since
  refine ⟨early, b, late ++ [a], x, y, by simp, first, step, event, ?_⟩
  have tail : exec next y late = some u := by
    obtain ⟨x', first', rest⟩ := exec_append_eq_some.1 run
    rw [first] at first'
    cases first'
    obtain ⟨y', step', rest⟩ := exec_cons_eq_some.1 rest
    rw [step] at step'
    cases step'
    exact rest
  apply Along.of_forall
  intro before c after t split reached
  rcases List.eq_nil_or_concat after with rfl | ⟨after, d, rfl⟩
  · obtain ⟨rfl, rfl⟩ : late = before ∧ a = c := by simpa using split
    rw [tail] at reached
    cases reached
    exact quiet
  · obtain ⟨rfl, rfl⟩ : late = before ++ c :: after ∧ a = d := by
      have aligned : late ++ [a] = (before ++ c :: after) ++ [d] := by simpa using split
      exact List.append_inj_left' aligned rfl |> fun l => ⟨l, by simpa [l] using aligned⟩
    exact along.step reached

theorem Since.mono (since : Since next E N s as)
    (event : ∀ early x b, exec next s early = some x → E early x b → E' early x b)
    (quiet : ∀ x b, N x b → N' x b) : Since next E' N' s as := by
  obtain ⟨early, b, late, x, y, split, first, step, happened, along⟩ := since
  exact ⟨early, b, late, x, y, split, first, step, event early x b first happened,
    along.mono fun z c => quiet z c⟩

end Since

/-! ### Prefixes -/

section Prefixes

variable {A : Type*} {P : List A → Prop} {G : List A → A → Prop} {past as : List A} {a : A}

/-- A guard that may look at the earlier items holds at each item of a list that comes after `past`. -/
def AtEach (G : List A → A → Prop) : List A → List A → Prop
  | _, [] => True
  | past, a :: as => G past a ∧ AtEach G (past ++ [a]) as

instance AtEach.decidable [∀ past a, Decidable (G past a)] :
    ∀ past as : List A, Decidable (AtEach G past as)
  | _, [] => .isTrue trivial
  | past, a :: as =>
      have : Decidable (AtEach G (past ++ [a]) as) := AtEach.decidable (past ++ [a]) as
      inferInstanceAs (Decidable (_ ∧ _))

theorem atEach_snoc : AtEach G past (as ++ [a]) ↔ AtEach G past as ∧ G (past ++ as) a := by
  induction as generalizing past with
  | nil => simp [AtEach]
  | cons b as ih =>
      rw [List.cons_append, AtEach, AtEach, ih, and_assoc, List.append_assoc, List.singleton_append]

/-- The guard holds at each item exactly when it holds at the end of every prefix. -/
theorem atEach_iff : AtEach G [] as ↔ ∀ before a, before ++ [a] <+: as → G before a := by
  induction as using List.reverseRecOn with
  | nil => simp [AtEach]
  | append_singleton as b ih =>
      rw [atEach_snoc, ih, List.nil_append]
      simp only [List.prefix_concat_iff]
      constructor
      · rintro ⟨every, last⟩ before a (whole | within)
        · obtain ⟨rfl, rfl⟩ := List.append_singleton_inj.1 whole
          exact last
        · exact every before a within
      · intro every
        exact ⟨fun before a within => every before a (Or.inr within), every as b (Or.inl rfl)⟩

/-- What holds of the empty list, and of every prefix when it holds of the one before, holds of every
    prefix. -/
theorem forall_prefix (start : P [])
    (step : ∀ before a, before ++ [a] <+: as → P before → P (before ++ [a])) :
    ∀ before, before <+: as → P before := by
  intro before
  induction before using List.reverseRecOn with
  | nil =>
      intro within
      exact start
  | append_singleton before a ih =>
      intro within
      exact step before a within (ih ((List.prefix_append before [a]).trans within))

/-- When the guard at an item is exactly what keeps `P`, the guard at each item is exactly what keeps `P`
    at every prefix. -/
theorem forall_prefix_iff_atEach (start : P [])
    (step : ∀ before a, before ++ [a] <+: as → P before → (P (before ++ [a]) ↔ G before a)) :
    (∀ before, before <+: as → P before) ↔ AtEach G [] as := by
  rw [atEach_iff]
  constructor
  · intro every before a within
    have earlier : P before := every before ((List.prefix_append before [a]).trans within)
    exact (step before a within earlier).1 (every (before ++ [a]) within)
  · intro guarded
    apply forall_prefix start
    intro before a within earlier
    exact (step before a within earlier).2 (guarded before a within)

end Prefixes

end Execution
