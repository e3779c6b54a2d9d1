/-
Module: CachePilot.Lib.Simulation
Layer: Lib
Purpose: One machine follows another. It is told of each action of the first machine, or of none, depending on the
  state in which it happens. A relation between their states is a simulation when what is told of a step can be done
  from every related state, and leads to related states. A simulation of steps is one of runs, and carries invariants
  over.
Trusted boundary: none
Main exports: Execution.Simulates, Execution.Simulates.run, Execution.Simulates.run_map
-/
import CachePilot.Lib.Execution

namespace Execution

variable {S T A C : Type*}

/-- Every step of a machine is followed by what another machine is told of it, from related states to related states. -/
def Simulates (next : S → A → Option S) (other : T → C → Option T) (told : S → A → Option C)
    (R : S → T → Prop) : Prop :=
  ∀ s t a s', R s t → next s a = some s' → ∃ t', exec other t (told s a).toList = some t' ∧ R s' t'

variable {next : S → A → Option S} {other : T → C → Option T} {told : S → A → Option C} {R : S → T → Prop}

/-- Every run is followed by what is told along it. -/
theorem Simulates.run (simulates : Simulates next other told R) {s s' : S} {t : T} {as : List A} (start : R s t)
    (run : exec next s as = some s') : ∃ t', exec other t (trace next told s as) = some t' ∧ R s' t' := by
  induction as generalizing s t with
  | nil =>
      cases run
      exact ⟨t, rfl, start⟩
  | cons a as ih =>
      obtain ⟨u, step, rest⟩ := exec_cons_eq_some.mp run
      obtain ⟨v, moved, related⟩ := simulates s t a u start step
      obtain ⟨t', ran, final⟩ := ih related rest
      rw [trace_cons step]
      exact ⟨t', exec_append_eq_some.mpr ⟨v, moved, ran⟩, final⟩

/-- When each action is told as one action whatever the state, a run is followed by the run of these. -/
theorem Simulates.run_map {f : A → C} (simulates : Simulates next other (fun _ a => some (f a)) R) {s s' : S} {t : T}
    {as : List A} (start : R s t) (run : exec next s as = some s') :
    ∃ t', exec other t (as.map f) = some t' ∧ R s' t' := by
  have all : trace next (fun _ a => some (f a)) s as = as.map f := by
    clear start
    induction as generalizing s with
    | nil => rfl
    | cons a as ih =>
        obtain ⟨u, step, rest⟩ := exec_cons_eq_some.mp run
        rw [trace_cons step, ih rest]
        rfl
  rw [← all]
  exact simulates.run start run

end Execution
