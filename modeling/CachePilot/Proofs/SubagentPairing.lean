/-
Module: CachePilot.Proofs.SubagentPairing
Layer: Proofs
Purpose: Subagents that start and stop in any order. Each stop ends a running child that started with the same
  identity fields; when none is left running, the registry is the old one exactly when every child had a session
  id to be released by, or no id at all, and no target that was active before lost its record to a child.
Trusted boundary: none
Main exports: Subagent, SubagentHook, Delegation, delegationStep, subagent_pairing_exact
-/
import CachePilot.Hermes.Lifecycle
import CachePilot.Lib.Execution

namespace CachePilot

/-- The identity fields of a subagent in its hooks. -/
structure Subagent where
  parentSessionId : String := ""
  childSessionId : String := ""
  childSubagentId : String := ""
deriving DecidableEq

/-- A subagent hook; a start also reads the clock. -/
inductive SubagentHook where
  | start (child : Subagent) (now : ℚ)
  | stop (child : Subagent)
deriving DecidableEq

/-- The plugin with the children that started and did not stop. -/
structure Delegation where
  plugin : HermesPlugin := {}
  running : List Subagent := []

/-- One hook; a child stops once for each time that it started. -/
def delegationStep (settings : LongTasksSettings) (s : Delegation) : SubagentHook → Option Delegation
  | .start child now =>
      some
        { plugin := s.plugin.subagentStart settings child.parentSessionId child.childSessionId
            child.childSubagentId now
          running := s.running ++ [child] }
  | .stop child =>
      if child ∈ s.running then
        some
          { plugin := s.plugin.subagentStop settings child.childSessionId
            running := s.running.erase child }
      else none

namespace Subagent

/-- The id that a child's target is registered under. -/
def targetId (child : Subagent) : String :=
  HermesPlugin.subagentTargetId child.childSessionId child.childSubagentId

/-- The target of a child that starts now. -/
def target (child : Subagent) (now : ℚ) : BackgroundTarget :=
  { id := child.targetId, kind := .subagent, sessionId := child.parentSessionId, startedAt := now }

/-- The child has no session id but an id of its own: its target is registered and no stop names it. -/
def Phantom (child : Subagent) : Prop := child.childSessionId = "" ∧ child.childSubagentId ≠ ""

instance (child : Subagent) : Decidable child.Phantom := inferInstanceAs (Decidable (_ ∧ _))

theorem targetId_of_session {child : Subagent} (named : child.childSessionId ≠ "") :
    child.targetId = child.childSessionId :=
  if_pos named

theorem targetId_of_no_session {child : Subagent} (unnamed : child.childSessionId = "") :
    child.targetId = child.childSubagentId := by
  unfold targetId HermesPlugin.subagentTargetId
  rw [if_neg (not_not.2 unnamed)]

end Subagent

/-- The targets that the starts of some hooks register. -/
def SubagentHook.started? : SubagentHook → Option BackgroundTarget
  | .start child now => if child.targetId = "" then none else some (child.target now)
  | .stop _ => none

/-- The target of the last start under an id. -/
def lastStarted (id : String) (hooks : List SubagentHook) : Option BackgroundTarget :=
  hooks.reverse.findSome? fun hook => hook.started?.filter fun target => target.id = id

/-- The hook starts a child whose target under this id no stop will name. -/
def SubagentHook.isPhantom (id : String) : SubagentHook → Bool
  | .start child _ => child.Phantom ∧ child.childSubagentId = id
  | .stop _ => false

theorem lastStarted_snoc (id : String) (hooks : List SubagentHook) (hook : SubagentHook) :
    lastStarted id (hooks ++ [hook]) =
      ((hook.started?.filter fun target => target.id = id) <|> lastStarted id hooks) := by
  unfold lastStarted
  rw [List.reverse_append, List.reverse_singleton, List.singleton_append, List.findSome?_cons]
  cases hook.started?.filter fun target => target.id = id <;> rfl

theorem lastStarted_named (id : String) (hooks : List SubagentHook) {child : Subagent}
    (named : child.targetId ≠ "") (now : ℚ) :
    lastStarted id (hooks ++ [.start child now]) =
      if child.targetId = id then some (child.target now) else lastStarted id hooks := by
  rw [lastStarted_snoc, SubagentHook.started?, if_neg named, Option.filter_some]
  have name : (child.target now).id = child.targetId := rfl
  by_cases same : child.targetId = id
  · simp [name, same]
  · simp [name, same]

/-! ### What the registry holds -/

/-- The running children whose stop will release an id. -/
def Delegation.runningUnder (s : Delegation) (id : String) : ℕ :=
  s.running.countP fun child => child.childSessionId ≠ "" ∧ child.childSessionId = id

/-- The account of the registry after some hooks: every id is held as often as before, once more for each running
    child that will release it, and once more for each child that none will; it has the record of its last start;
    and the old ids are still in front. -/
structure PairingAccount (s : Delegation) (hooks : List SubagentHook) (t : Delegation) : Prop where
  counts : ∀ id, t.plugin.targets.count id =
    s.plugin.targets.count id + t.runningUnder id + hooks.countP (SubagentHook.isPhantom id)
  records : ∀ id, t.plugin.targets.record? id =
    if t.plugin.targets.count id = 0 then none
    else (lastStarted id hooks <|> s.plugin.targets.record? id)
  front : s.plugin.targets.counts.keys <+: t.plugin.targets.counts.keys

theorem PairingAccount.refl {s : Delegation} (idle : s.running = []) : PairingAccount s [] s where
  counts := by
    intro id
    simp [Delegation.runningUnder, idle]
  records := by
    intro id
    split
    · rename_i unheld
      exact RefTable.record?_eq_none_iff.2 unheld
    · rfl
  front := List.prefix_rfl

/-- A start that names no child changes nothing. -/
theorem PairingAccount.startUnnamed {s t : Delegation} {hooks : List SubagentHook}
    (account : PairingAccount s hooks t) {child : Subagent} (unnamed : child.targetId = "") (now : ℚ)
    {v : Delegation} (registry : v.plugin.targets = t.plugin.targets)
    (running : v.running = t.running ++ [child]) :
    PairingAccount s (hooks ++ [.start child now]) v := by
  have noSession : child.childSessionId = "" := by
    by_contra named
    rw [Subagent.targetId_of_session named] at unnamed
    exact named unnamed
  have noId : child.childSubagentId = "" := by
    rwa [Subagent.targetId_of_no_session noSession] at unnamed
  constructor
  · intro id
    rw [registry, account.counts id]
    simp [Delegation.runningUnder, running, noSession, SubagentHook.isPhantom, Subagent.Phantom, noId]
  · intro id
    rw [registry, lastStarted_snoc, account.records id]
    simp [SubagentHook.started?, unnamed]
  · rw [registry]
    exact account.front

/-- A start that names a child holds its target once more. -/
theorem PairingAccount.startNamed {s t : Delegation} {hooks : List SubagentHook}
    (account : PairingAccount s hooks t) {child : Subagent} (named : child.targetId ≠ "") (now : ℚ)
    {v : Delegation}
    (registry : v.plugin.targets = t.plugin.targets.acquire child.targetId (child.target now))
    (running : v.running = t.running ++ [child]) :
    PairingAccount s (hooks ++ [.start child now]) v := by
  constructor
  · intro id
    have one : v.runningUnder id + ([SubagentHook.start child now].countP (SubagentHook.isPhantom id)) =
        t.runningUnder id + if child.targetId = id then 1 else 0 := by
      unfold Delegation.runningUnder
      rw [running, List.countP_append, List.countP_singleton, List.countP_singleton, Nat.add_assoc]
      congr 1
      by_cases session : child.childSessionId = ""
      · rw [Subagent.targetId_of_no_session session] at named ⊢
        simp [session, SubagentHook.isPhantom, Subagent.Phantom, named]
      · rw [Subagent.targetId_of_session session]
        simp [session, SubagentHook.isPhantom, Subagent.Phantom]
    rw [registry, RefTable.count_acquire, List.countP_append]
    have old := account.counts id
    by_cases same : id = child.targetId
    · subst same
      simp only [if_true] at one ⊢
      omega
    · have other : ¬ child.targetId = id := fun eq => same eq.symm
      simp only [same, other, if_false] at one ⊢
      omega
  · intro id
    rw [registry, RefTable.record?_acquire, RefTable.count_acquire, lastStarted_named _ _ named]
    by_cases same : id = child.targetId
    · subst same
      have nonneg := t.plugin.targets.count_nonneg child.targetId
      have held : ¬ t.plugin.targets.count child.targetId + 1 = 0 := by omega
      simp [held]
    · have other : ¬ child.targetId = id := fun eq => same eq.symm
      rw [if_neg same, if_neg same, if_neg other, account.records id]
  · rw [registry]
    exact RefTable.prefix_acquire account.front _ _

/-- A stop without a session id changes nothing. -/
theorem PairingAccount.stopUnnamed {s t : Delegation} {hooks : List SubagentHook}
    (account : PairingAccount s hooks t) {child : Subagent} (unnamed : child.childSessionId = "")
    {v : Delegation} (registry : v.plugin.targets = t.plugin.targets)
    (running : v.running = t.running.erase child) (was : child ∈ t.running) :
    PairingAccount s (hooks ++ [.stop child]) v := by
  constructor
  · intro id
    have moved := (List.perm_cons_erase was).countP_eq fun other =>
      other.childSessionId ≠ "" ∧ other.childSessionId = id
    rw [List.countP_cons] at moved
    simp only [unnamed, ne_eq, not_true_eq_false, false_and, decide_false, Bool.false_eq_true,
      if_false, Nat.add_zero] at moved
    rw [registry, account.counts id, List.countP_append]
    simp only [Delegation.runningUnder, running, ne_eq, moved, List.countP_singleton,
      SubagentHook.isPhantom, Bool.false_eq_true, if_false, Nat.add_zero]
  · intro id
    rw [registry, lastStarted_snoc, account.records id]
    rfl
  · rw [registry]
    exact account.front

/-- A stop with a session id holds that target once less. -/
theorem PairingAccount.stopNamed {s t : Delegation} {hooks : List SubagentHook}
    (account : PairingAccount s hooks t) {child : Subagent} (named : child.childSessionId ≠ "")
    {v : Delegation}
    (registry : v.plugin.targets = RefTable.release t.plugin.targets child.childSessionId)
    (running : v.running = t.running.erase child) (was : child ∈ t.running) :
    PairingAccount s (hooks ++ [.stop child]) v := by
  have moved : ∀ id, t.runningUnder id =
      v.runningUnder id + if child.childSessionId = id then 1 else 0 := by
    intro id
    have counted := (List.perm_cons_erase was).countP_eq fun other =>
      other.childSessionId ≠ "" ∧ other.childSessionId = id
    rw [List.countP_cons] at counted
    simpa [Delegation.runningUnder, running, named] using counted
  have holding : 0 < t.runningUnder child.childSessionId := by
    rw [moved child.childSessionId, if_pos rfl]
    omega
  have old := account.counts child.childSessionId
  have before := s.plugin.targets.count_nonneg child.childSessionId
  constructor
  · intro id
    have here := account.counts id
    have less := moved id
    rw [registry, RefTable.count_release, List.countP_append]
    simp only [List.countP_singleton, SubagentHook.isPhantom, Bool.false_eq_true, if_false,
      Nat.add_zero]
    by_cases same : id = child.childSessionId
    · subst same
      rw [if_pos rfl] at less ⊢
      omega
    · have other : ¬ child.childSessionId = id := fun eq => same eq.symm
      rw [if_neg other] at less
      rw [if_neg same]
      omega
  · intro id
    rw [registry, RefTable.record?_release, RefTable.count_release, lastStarted_snoc,
      account.records id]
    by_cases same : id = child.childSessionId
    · subst same
      by_cases last : t.plugin.targets.count child.childSessionId ≤ 1
      · simp [last]
      · have kept : ¬ max 0 (t.plugin.targets.count child.childSessionId - 1) = 0 := by omega
        have held : ¬ t.plugin.targets.count child.childSessionId = 0 := by omega
        simp [last, kept, held, SubagentHook.started?]
    · simp [same, SubagentHook.started?]
  · rw [registry]
    apply RefTable.prefix_release account.front
    intro active
    rw [← RefTable.count_pos_iff] at active
    omega

/-- The account is kept by every hook of an enabled plugin. -/
theorem PairingAccount.step {settings : LongTasksSettings} (enabled : settings.enabled = true)
    {s t v : Delegation} {hooks : List SubagentHook} {hook : SubagentHook}
    (account : PairingAccount s hooks t) (stepped : delegationStep settings t hook = some v) :
    PairingAccount s (hooks ++ [hook]) v := by
  cases hook with
  | start child now =>
      cases stepped
      by_cases named : child.targetId = ""
      · refine account.startUnnamed named now ?_ rfl
        exact (HermesPlugin.targets_subagentStart enabled _ _ _ _ _).trans (if_pos named)
      · refine account.startNamed named now ?_ rfl
        exact (HermesPlugin.targets_subagentStart enabled _ _ _ _ _).trans (if_neg named)
  | stop child =>
      unfold delegationStep at stepped
      dsimp only at stepped
      split at stepped
      · rename_i was
        cases stepped
        by_cases named : child.childSessionId = ""
        · refine account.stopUnnamed named ?_ rfl was
          simp [HermesPlugin.subagentStop, enabled, named]
        · refine account.stopNamed named ?_ rfl was
          simp [HermesPlugin.subagentStop, enabled, named, BackgroundTargetRegistry.release]
      · cases stepped

theorem PairingAccount.run {settings : LongTasksSettings} (enabled : settings.enabled = true)
    {s t : Delegation} {hooks : List SubagentHook} (idle : s.running = [])
    (run : Execution.exec (delegationStep settings) s hooks = some t) : PairingAccount s hooks t := by
  refine Execution.history_invariant (R := PairingAccount s) (PairingAccount.refl idle) ?_ run
  intro before hook after u v split reached stepped account
  exact account.step enabled stepped

/-- A plugin whose long-task runtime is off never touches its registry. -/
theorem targets_of_disabled {settings : LongTasksSettings} (disabled : settings.enabled = false)
    {s t : Delegation} {hooks : List SubagentHook}
    (run : Execution.exec (delegationStep settings) s hooks = some t) :
    t.plugin.targets = s.plugin.targets := by
  refine Execution.invariant (I := fun u => u.plugin.targets = s.plugin.targets) rfl ?_ run
  intro u hook v stepped same
  cases hook with
  | start child now =>
      cases stepped
      simpa [HermesPlugin.subagentStart, disabled] using same
  | stop child =>
      unfold delegationStep at stepped
      dsimp only at stepped
      split at stepped
      · cases stepped
        simpa [HermesPlugin.subagentStop, disabled] using same
      · cases stepped

/-! ### The registry afterwards -/

/-- When every child has stopped, an id is held more often than before by exactly the children that no stop
    named. -/
theorem PairingAccount.restores_counts_iff {s t : Delegation} {hooks : List SubagentHook}
    (account : PairingAccount s hooks t) (done : t.running = []) :
    (∀ id, t.plugin.targets.count id = s.plugin.targets.count id) ↔
      ∀ child now, .start child now ∈ hooks → ¬ child.Phantom := by
  have counts : ∀ id, t.plugin.targets.count id =
      s.plugin.targets.count id + hooks.countP (SubagentHook.isPhantom id) := by
    intro id
    have counted := account.counts id
    simpa [Delegation.runningUnder, done] using counted
  constructor
  · intro same child now started phantom
    have more : 0 < hooks.countP (SubagentHook.isPhantom child.childSubagentId) :=
      List.countP_pos_iff.2 ⟨_, started, by simp [SubagentHook.isPhantom, phantom]⟩
    have counted := counts child.childSubagentId
    rw [same] at counted
    omega
  · intro released id
    have none : hooks.countP (SubagentHook.isPhantom id) = 0 := by
      rw [List.countP_eq_zero]
      intro hook listed
      cases hook with
      | start child now => simp [SubagentHook.isPhantom, released child now listed]
      | stop child => simp [SubagentHook.isPhantom]
    rw [counts id, none]
    simp

/-- Subagents leave no residue, in every sequence of hooks in which each stop ends a running child: when none is
    left running, the registry is the old one if and only if the long-task runtime is off, or every child had a
    session id or no id at all and no target that was active before was last registered with another record. -/
theorem subagent_pairing_exact {settings : LongTasksSettings} {s t : Delegation}
    {hooks : List SubagentHook} (idle : s.running = [])
    (run : Execution.exec (delegationStep settings) s hooks = some t) (done : t.running = []) :
    t.plugin.targets = s.plugin.targets ↔
      (settings.enabled = true →
        (∀ child now, .start child now ∈ hooks → ¬ child.Phantom) ∧
        ∀ id record target, s.plugin.targets.record? id = some record →
          lastStarted id hooks = some target → target = record) := by
  cases enabled : settings.enabled with
  | false =>
      constructor
      · intro same on
        cases on
      · intro condition
        exact targets_of_disabled enabled run
  | true =>
      have account := PairingAccount.run enabled idle run
      constructor
      · intro same on
        refine ⟨(account.restores_counts_iff done).1 fun id => by rw [same], ?_⟩
        intro id record target active last
        have recorded := account.records id
        rw [same, last, active] at recorded
        split at recorded
        · cases recorded
        · exact (Option.some.inj recorded).symm
      · intro condition
        obtain ⟨released, kept⟩ := condition rfl
        have counts := (account.restores_counts_iff done).2 released
        refine RefTable.eq_of_restored account.front counts fun id => ?_
        rw [account.records id]
        split
        · rename_i unheld
          rw [counts id] at unheld
          exact (RefTable.record?_eq_none_iff.2 unheld).symm
        · rename_i held
          cases last : lastStarted id hooks with
          | none => rfl
          | some target =>
              cases active : s.plugin.targets.record? id with
              | none =>
                  rw [counts id] at held
                  exact absurd (RefTable.record?_eq_none_iff.1 active) held
              | some record =>
                  rw [kept id record target active last]
                  rfl

/-- Two children of one parent overlap and stop in the order in which they started. -/
def sampleChildren : List SubagentHook :=
  [.start { parentSessionId := "p", childSessionId := "a" } 1,
    .start { parentSessionId := "p", childSessionId := "b" } 2,
    .stop { parentSessionId := "p", childSessionId := "a" },
    .stop { parentSessionId := "p", childSessionId := "b" }]

/-- They leave the registry as it was. -/
theorem subagent_pairing_overlapping :
    (Execution.final (delegationStep {}) {} sampleChildren).plugin.targets = ∅ := by
  have run : Execution.exec (delegationStep {}) {} sampleChildren =
      some (Execution.final (delegationStep {}) {} sampleChildren) :=
    Execution.exec_eq_final (by decide +kernel)
  refine (subagent_pairing_exact rfl run (by decide +kernel)).2 fun _ => ⟨?_, ?_⟩
  · intro child now started
    have sessions : ∀ hook ∈ sampleChildren,
        ∀ c n, hook = SubagentHook.start c n → c.childSessionId ≠ "" := by
      simp [sampleChildren]
    exact fun phantom => sessions _ started child now rfl phantom.1
  · intro id record target active
    cases active

/-- A child that only has an id of its own starts and stops. -/
def samplePhantom : List SubagentHook :=
  [.start { parentSessionId := "p", childSubagentId := "c" } 1,
    .stop { parentSessionId := "p", childSubagentId := "c" }]

/-- Its target stays in the registry. -/
theorem subagent_pairing_leaks :
    ¬ ∀ (settings : LongTasksSettings) (s t : Delegation) (hooks : List SubagentHook), s.running = [] →
      Execution.exec (delegationStep settings) s hooks = some t → t.running = [] →
        t.plugin.targets = s.plugin.targets := by
  intro restored
  have run : Execution.exec (delegationStep {}) {} samplePhantom =
      some (Execution.final (delegationStep {}) {} samplePhantom) :=
    Execution.exec_eq_final (by decide +kernel)
  have same := restored {} {} _ samplePhantom rfl run (by decide +kernel)
  have leaked : (Execution.final (delegationStep {}) {} samplePhantom).plugin.targets.count "c" = 1 := by
    decide +kernel
  rw [same] at leaked
  cases leaked

end CachePilot
