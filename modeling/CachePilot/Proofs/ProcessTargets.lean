/-
Module: CachePilot.Proofs.ProcessTargets
Layer: Proofs
Purpose: Terminal tool runs that overlap. A run goes through the tool-request middleware when it starts and
  through the post-tool-call hook when it completes; the registry matches the two by the normalised command. Its
  counts are those of the promoted runs exactly as long as no run that was not promoted completes while a promoted
  run with the same target is going on.
Trusted boundary: none
Main exports: TerminalRun, TerminalSession, terminalStep, process_target_balance_exact
-/
import CachePilot.Hermes.Lifecycle
import CachePilot.Lib.Execution

namespace CachePilot

/-- A terminal tool run: the arguments it was started with in the end, and whether the middleware promoted it. -/
structure TerminalRun where
  args : Json
  promoted : Bool

/-- Runs of a session, by the id of their tool call. -/
structure TerminalSession where
  plugin : HermesPlugin := {}
  running : Dict ℕ TerminalRun := ∅

/-- A run starts or completes, or a session id is published. -/
inductive TerminalHook where
  | toolRequest (call : ℕ) (args : Json) (learned : String → Option CommandDurationStats) (now : ℚ)
  | postToolCall (call : ℕ) (sessionId : String)
  | sessionStart (sessionId : String)

/-- The plugin as it is set up: the text primitives, the settings and the id of the process. -/
structure TerminalConfig where
  prims : CommandPrimitives
  settings : LongTasksSettings := {}
  processSessionId : String := ""

/-- One hook. A tool call is requested once, and it completes once with the arguments that it ran with. -/
def terminalStep (cfg : TerminalConfig) (s : TerminalSession) : TerminalHook → Option TerminalSession
  | .toolRequest call args learned now =>
      match s.running.get? call with
      | some _ => none
      | none =>
          let (plugin, promotion) := s.plugin.toolRequest cfg.prims cfg.settings learned
            cfg.processSessionId "terminal" args now
          let run : TerminalRun :=
            match promotion with
            | some promotion => { args := .obj promotion.args, promoted := true }
            | none => { args, promoted := false }
          some { plugin, running := s.running.set call run }
  | .postToolCall call sessionId =>
      match s.running.get? call with
      | none => none
      | some run =>
          some
            { plugin := s.plugin.postToolCall cfg.prims cfg.settings "terminal" run.args sessionId
              running := s.running.erase call }
  | .sessionStart sessionId =>
      some { s with plugin := s.plugin.publishSessionId sessionId }

/-- The process target of a run's command. -/
def TerminalRun.target? (prims : CommandPrimitives) (run : TerminalRun) : Option String :=
  HermesPlugin.completedTarget prims "terminal" run.args

/-- The number of the promoted runs of a target that have started and not completed. -/
def TerminalSession.promotedRuns (prims : CommandPrimitives) (s : TerminalSession) (id : String) : ℕ :=
  s.running.values.countP fun run => run.promoted ∧ run.target? prims = some id

/-- The reference count of every process target is the number of its promoted runs that are going on. -/
def TerminalSession.Balanced (prims : CommandPrimitives) (s : TerminalSession) : Prop :=
  ∀ command, BackgroundTargetRegistry.refcount s.plugin.targets (processTargetId prims command) =
    s.promotedRuns prims (processTargetId prims command)

/-- A run that was not promoted only completes while no promoted run of the same target is going on. -/
def ReleasesOwn (prims : CommandPrimitives) (s : TerminalSession) : TerminalHook → Prop
  | .postToolCall call _ =>
      ∀ run id, s.running.get? call = some run → run.promoted = false → run.target? prims = some id →
        ∀ other ∈ s.running.values, other.promoted = true → other.target? prims ≠ some id
  | _ => True

/-! ### The running runs -/

section Runs

variable {prims : CommandPrimitives} {s v : TerminalSession} {call : ℕ} {run : TerminalRun}

/-- A run that starts counts for its target when it was promoted. -/
theorem promotedRuns_started (new : s.running.get? call = none)
    (running : v.running = s.running.set call run) (id : String) :
    v.promotedRuns prims id =
      s.promotedRuns prims id + if run.promoted ∧ run.target? prims = some id then 1 else 0 := by
  unfold TerminalSession.promotedRuns
  rw [running, Dict.values_set_of_new new, List.countP_append, List.countP_singleton]
  simp

/-- A run that completes counted for its target when it was promoted. -/
theorem promotedRuns_completed (found : s.running.get? call = some run)
    (running : v.running = s.running.erase call) (id : String) :
    s.promotedRuns prims id =
      v.promotedRuns prims id + if run.promoted ∧ run.target? prims = some id then 1 else 0 := by
  unfold TerminalSession.promotedRuns
  rw [running, (Dict.values_perm_erase found).countP_eq, List.countP_cons]
  simp

/-- Nothing is counted for a target exactly when no promoted run of it is going on. -/
theorem promotedRuns_eq_zero_iff {id : String} :
    s.promotedRuns prims id = 0 ↔
      ∀ other ∈ s.running.values, other.promoted = true → other.target? prims ≠ some id := by
  rw [TerminalSession.promotedRuns, List.countP_eq_zero]
  simp

end Runs

/-- The target of a terminal run. -/
theorem completedTarget_terminal {prims : CommandPrimitives} {members : List (String × Json)}
    {command : String} (found : commandOf members = some command) :
    HermesPlugin.completedTarget prims "terminal" (.obj members) =
      some (processTargetId prims command) := by
  simp [HermesPlugin.completedTarget, found]

/-- A target of a run is the process target of some command. -/
theorem target?_eq_some {prims : CommandPrimitives} {run : TerminalRun} {id : String}
    (target : run.target? prims = some id) : ∃ command, id = processTargetId prims command := by
  unfold TerminalRun.target? HermesPlugin.completedTarget at target
  simp only [ne_eq, not_true_eq_false, if_false] at target
  split at target
  · obtain ⟨command, -, same⟩ := Option.map_eq_some_iff.1 target
    exact ⟨command, same.symm⟩
  · cases target

/-! ### One hook -/

/-- Starting a run keeps the balance. -/
theorem balanced_toolRequest {cfg : TerminalConfig} {s v : TerminalSession} {call : ℕ} {args : Json}
    {learned : String → Option CommandDurationStats} {now : ℚ} (balanced : s.Balanced cfg.prims)
    (stepped : terminalStep cfg s (.toolRequest call args learned now) = some v) :
    v.Balanced cfg.prims := by
  unfold terminalStep at stepped
  dsimp only at stepped
  cases new : s.running.get? call with
  | some run =>
      rw [new] at stepped
      cases stepped
  | none =>
      rw [new] at stepped
      dsimp only [HermesPlugin.toolRequest] at stepped
      intro command
      have before := balanced command
      rcases toolRequest_cases cfg.prims cfg.settings learned s.plugin.targets "terminal" args
        (s.plugin.currentSessionId cfg.processSessionId) now with passed | promoted
      · rw [passed] at stepped
        cases stepped
        rw [promotedRuns_started new rfl]
        simpa using before
      · obtain ⟨members, ran, -, -, -, found, answer⟩ := promoted
        rw [answer] at stepped
        cases stepped
        have target : TerminalRun.target? cfg.prims
            { args := .obj (promotedArgs cfg.settings members), promoted := true } =
              some (processTargetId cfg.prims ran) :=
          completedTarget_terminal ((commandOf_promotedArgs cfg.settings members).trans found)
        have counted := RefTable.count_acquire s.plugin.targets (processTargetId cfg.prims ran)
          { id := processTargetId cfg.prims ran, kind := .process
            sessionId := s.plugin.currentSessionId cfg.processSessionId, startedAt := now }
          (processTargetId cfg.prims command)
        rw [promotedRuns_started new rfl, target]
        unfold BackgroundTargetRegistry.refcount at before ⊢
        rw [counted]
        by_cases same : processTargetId cfg.prims command = processTargetId cfg.prims ran
        · rw [same] at before ⊢
          simp [before]
        · have other : ¬ processTargetId cfg.prims ran = processTargetId cfg.prims command :=
            fun eq => same eq.symm
          simp [same, other, before]

/-- A completed run of no target, or of a plugin that is off, keeps the balance. -/
theorem balanced_of_unreleased {prims : CommandPrimitives} {s v : TerminalSession} {call : ℕ}
    {run : TerminalRun} (balanced : s.Balanced prims) (found : s.running.get? call = some run)
    (running : v.running = s.running.erase call) (targets : v.plugin.targets = s.plugin.targets)
    (uncounted : ∀ id, ¬ (run.promoted = true ∧ run.target? prims = some id)) : v.Balanced prims := by
  intro command
  have before := balanced command
  have counted : s.promotedRuns prims (processTargetId prims command) = _ :=
    promotedRuns_completed found running _
  rw [if_neg (uncounted _), Nat.add_zero] at counted
  rw [targets, before, counted]

/-- A completed run that releases its target keeps the balance exactly when it was promoted or nothing else is
    counted for the target. -/
theorem balanced_of_released_iff {prims : CommandPrimitives} {s v : TerminalSession} {call : ℕ}
    {run : TerminalRun} {id : String} (balanced : s.Balanced prims)
    (found : s.running.get? call = some run) (running : v.running = s.running.erase call)
    (target : run.target? prims = some id)
    (targets : v.plugin.targets = BackgroundTargetRegistry.release s.plugin.targets id) :
    v.Balanced prims ↔ (run.promoted = false → s.promotedRuns prims id = 0) := by
  obtain ⟨command, rfl⟩ := target?_eq_some target
  have named := processTargetId_ne_empty prims command
  have moved : ∀ id', BackgroundTargetRegistry.refcount v.plugin.targets id' =
      if id' = processTargetId prims command then
        max 0 (BackgroundTargetRegistry.refcount s.plugin.targets (processTargetId prims command) - 1)
      else BackgroundTargetRegistry.refcount s.plugin.targets id' := by
    intro id'
    rw [targets]
    exact BackgroundTargetRegistry.refcount_release _ _ named
  have counted : ∀ id', s.promotedRuns prims id' = _ := promotedRuns_completed found running
  have here := balanced command
  have countedHere := counted (processTargetId prims command)
  have movedHere := moved (processTargetId prims command)
  rw [if_pos rfl] at movedHere
  simp only [target, and_true] at countedHere
  constructor
  · intro after unpromoted
    have afterHere := after command
    simp only [unpromoted, Bool.false_eq_true, if_false, Nat.add_zero] at countedHere
    omega
  · intro alone other
    by_cases same : processTargetId prims other = processTargetId prims command
    · rw [same]
      cases promoted : run.promoted with
      | true =>
          simp only [promoted, if_true] at countedHere
          omega
      | false =>
          have none := alone promoted
          simp only [promoted, Bool.false_eq_true, if_false, Nat.add_zero] at countedHere
          omega
    · have different : ¬ processTargetId prims command = processTargetId prims other :=
        fun eq => same eq.symm
      have countedOther := counted (processTargetId prims other)
      simp only [target, Option.some.injEq, different, and_false, if_false, Nat.add_zero]
        at countedOther
      rw [moved, if_neg same, balanced other, countedOther]

/-- Completing a run keeps the balance exactly when it was promoted, or has no target, or no promoted run of the
    same target is going on. -/
theorem balanced_postToolCall_iff {cfg : TerminalConfig} {s v : TerminalSession} {call : ℕ}
    {sessionId : String} (balanced : s.Balanced cfg.prims)
    (enabled : ∀ run ∈ s.running.values, run.promoted = true → cfg.settings.enabled = true)
    (stepped : terminalStep cfg s (.postToolCall call sessionId) = some v) :
    v.Balanced cfg.prims ↔ ReleasesOwn cfg.prims s (.postToolCall call sessionId) := by
  unfold terminalStep at stepped
  dsimp only at stepped
  cases found : s.running.get? call with
  | none =>
      rw [found] at stepped
      cases stepped
  | some run =>
      rw [found] at stepped
      cases stepped
      have targets := HermesPlugin.targets_postToolCall cfg.prims cfg.settings s.plugin "terminal"
        run.args sessionId
      have guard : ReleasesOwn cfg.prims s (.postToolCall call sessionId) ↔
          (run.promoted = false → ∀ id, run.target? cfg.prims = some id →
            s.promotedRuns cfg.prims id = 0) := by
        simp only [ReleasesOwn, promotedRuns_eq_zero_iff, found, Option.some.injEq]
        constructor
        · intro own unpromoted id target
          exact own run id rfl unpromoted target
        · rintro alone run' id rfl unpromoted target
          exact alone unpromoted id target
      rw [guard]
      cases target : run.target? cfg.prims with
      | none =>
          have same : HermesPlugin.completedTarget cfg.prims "terminal" run.args = none := target
          rw [same] at targets
          constructor
          · intro after unpromoted id absent
            cases absent
          · intro alone
            refine balanced_of_unreleased balanced found rfl targets ?_
            rintro id ⟨-, present⟩
            rw [target] at present
            cases present
      | some id =>
          have same : HermesPlugin.completedTarget cfg.prims "terminal" run.args = some id := target
          rw [same] at targets
          cases on : cfg.settings.enabled with
          | true =>
              simp only [on, if_true] at targets
              rw [balanced_of_released_iff balanced found rfl target targets]
              simp
          | false =>
              have unpromoted : ∀ other ∈ s.running.values, ¬ other.promoted = true := by
                intro other listed promoted
                rw [enabled other listed promoted] at on
                cases on
              simp only [on, Bool.false_eq_true, if_false] at targets
              constructor
              · intro after alone id' shared
                rw [promotedRuns_eq_zero_iff]
                intro other listed promoted
                exact absurd promoted (unpromoted other listed)
              · intro alone
                refine balanced_of_unreleased balanced found rfl targets ?_
                rintro id' ⟨promoted, -⟩
                exact unpromoted run (Dict.mem_values_iff.2 ⟨call, found⟩) promoted

/-- A plugin promotes a run only when it is enabled. -/
theorem run_enabled_of_promoted {cfg : TerminalConfig} {s t : TerminalSession}
    {hooks : List TerminalHook} (idle : s.running = ∅)
    (run : Execution.exec (terminalStep cfg) s hooks = some t) :
    ∀ run ∈ t.running.values, run.promoted = true → cfg.settings.enabled = true := by
  refine Execution.invariant (I := fun u : TerminalSession =>
    ∀ run ∈ u.running.values, run.promoted = true → cfg.settings.enabled = true) ?_ ?_ run
  · intro run listed
    rw [idle] at listed
    cases listed
  · intro u hook v stepped held
    cases hook with
    | toolRequest call args learned now =>
        unfold terminalStep at stepped
        dsimp only [HermesPlugin.toolRequest] at stepped
        cases new : u.running.get? call with
        | some run =>
            rw [new] at stepped
            cases stepped
        | none =>
            rw [new] at stepped
            rcases toolRequest_cases cfg.prims cfg.settings learned u.plugin.targets "terminal" args
              (u.plugin.currentSessionId cfg.processSessionId) now with passed | promoted
            · rw [passed] at stepped
              cases stepped
              intro run listed promoted
              rw [Dict.values_set_of_new new, List.mem_append, List.mem_singleton] at listed
              rcases listed with old | rfl
              · exact held run old promoted
              · cases promoted
            · obtain ⟨members, ran, -, on, -⟩ := promoted
              exact fun _ _ _ => on
    | postToolCall call sessionId =>
        unfold terminalStep at stepped
        dsimp only at stepped
        cases found : u.running.get? call with
        | none =>
            rw [found] at stepped
            cases stepped
        | some run =>
            rw [found] at stepped
            cases stepped
            intro other listed
            apply held other
            rw [(Dict.values_perm_erase found).mem_iff]
            exact List.mem_cons_of_mem _ listed
    | sessionStart sessionId =>
        cases stepped
        exact held

/-! ### Every interleaving -/

/-- The balance of process targets, over every interleaving of terminal runs in a new session: after every hook the
    reference count of each process target is the number of its promoted runs that are going on, if and only if
    no run that was not promoted completes while a promoted run of the same target is going on. -/
theorem process_target_balance_exact {cfg : TerminalConfig} {s t : TerminalSession}
    {hooks : List TerminalHook} (idle : s.running = ∅) (fresh : s.plugin.targets = ∅)
    (run : Execution.exec (terminalStep cfg) s hooks = some t) :
    Execution.EveryStep (terminalStep cfg) (fun _ _ v => v.Balanced cfg.prims) s hooks ↔
      Execution.Along (terminalStep cfg) (ReleasesOwn cfg.prims) s hooks := by
  apply Execution.everyState_iff_along (P := fun u : TerminalSession => u.Balanced cfg.prims) _ run
  · intro before hook after u v split reached stepped balanced
    cases hook with
    | toolRequest call args learned now =>
        exact ⟨fun _ => trivial, fun _ => balanced_toolRequest balanced stepped⟩
    | postToolCall call sessionId =>
        exact balanced_postToolCall_iff balanced (run_enabled_of_promoted idle reached) stepped
    | sessionStart sessionId =>
        cases stepped
        refine ⟨fun _ => trivial, fun _ command => ?_⟩
        rw [HermesPlugin.targets_publishSessionId]
        exact balanced command
  · intro command
    simp only [TerminalSession.promotedRuns, idle, fresh]
    rfl

/-- The plugin with its default settings. -/
def sampleTerminalConfig : TerminalConfig := { prims := sampleCommandPrimitives }

/-- A tool call that runs make, with further arguments. -/
def sampleMake (call : ℕ) (more : List (String × Json)) : TerminalHook :=
  .toolRequest call (.obj (("command", .str "make") :: more)) (fun _ => none) 0

/-- The session after a list of hooks on a new one. -/
def sampleTerminalAt (hooks : List TerminalHook) : TerminalSession :=
  Execution.final (terminalStep sampleTerminalConfig) {} hooks

/-- Two promoted runs of one command overlap and the first one completes. -/
theorem process_target_balance_promoted :
    Execution.EveryStep (terminalStep sampleTerminalConfig)
      (fun _ _ v => v.Balanced sampleCommandPrimitives) {}
      [sampleMake 0 [], sampleMake 1 [], .postToolCall 0 "s"] := by
  have run : Execution.exec (terminalStep sampleTerminalConfig) {}
      [sampleMake 0 [], sampleMake 1 [], .postToolCall 0 "s"] =
        some (sampleTerminalAt [sampleMake 0 [], sampleMake 1 [], .postToolCall 0 "s"]) :=
    Execution.exec_eq_final (by decide +kernel)
  refine (process_target_balance_exact rfl rfl run).2 ?_
  apply Execution.Along.of_forall
  intro before hook after u split reached
  match before, split with
  | [], split => cases split; trivial
  | [_], split => cases split; trivial
  | [_, _], split =>
      cases split
      have here : u = sampleTerminalAt [sampleMake 0 [], sampleMake 1 []] :=
        Option.some.inj (reached.symm.trans (Execution.exec_eq_final (by decide +kernel)))
      have promoted : ((sampleTerminalAt [sampleMake 0 [], sampleMake 1 []]).running.get? 0).all
          TerminalRun.promoted = true := by decide +kernel
      intro run id found unpromoted
      rw [← here, found, Option.all_some, unpromoted] at promoted
      cases promoted
  | _ :: _ :: _ :: _, split => simp at split

/-- A promoted run goes on, and a run of the same command in the explicit foreground completes. The registry
    forgets the target of the run that goes on. -/
theorem process_target_released_early :
    ¬ ∀ (cfg : TerminalConfig) (s t : TerminalSession) (hooks : List TerminalHook), s.running = ∅ →
      s.plugin.targets = ∅ → Execution.exec (terminalStep cfg) s hooks = some t →
        Execution.EveryStep (terminalStep cfg) (fun _ _ v => v.Balanced cfg.prims) s hooks := by
  intro balanced
  have started : Execution.exec (terminalStep sampleTerminalConfig) {}
      [sampleMake 0 [], sampleMake 1 [("background", .bool false)]] =
        some (sampleTerminalAt [sampleMake 0 [], sampleMake 1 [("background", .bool false)]]) :=
    Execution.exec_eq_final (by decide +kernel)
  have completed : terminalStep sampleTerminalConfig
      (sampleTerminalAt [sampleMake 0 [], sampleMake 1 [("background", .bool false)]])
      (.postToolCall 1 "s") = some (sampleTerminalAt
        [sampleMake 0 [], sampleMake 1 [("background", .bool false)], .postToolCall 1 "s"]) :=
    Execution.step_final (by decide +kernel)
  have every := balanced sampleTerminalConfig {} _ _ rfl rfl (Execution.exec_snoc started completed)
  have last := every _ _ [] _ _ rfl started completed "make"
  revert last
  decide +kernel

end CachePilot
