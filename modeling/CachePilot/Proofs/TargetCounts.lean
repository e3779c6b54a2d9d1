/-
Module: CachePilot.Proofs.TargetCounts
Layer: Proofs
Purpose: What the counts of the target registry say after any list of registrations and releases. A release
  names a target id and no registration, so a matching chooses for each release which of the pending
  registrations of that id it ends. The reference count is the number of pending registrations under every
  matching; the registry keeps one record per id, so a session's count goes by the last registration.
Trusted boundary: none
Main exports: RegistryOperation, Matching, active_count_by_last_registration
-/
import Mathlib.Data.List.Dedup
import CachePilot.Hermes.Targets
import CachePilot.Lib.Execution

namespace CachePilot

open BackgroundTargetRegistry

/-- An operation on the registry. -/
inductive RegistryOperation where
  | register (target : BackgroundTarget)
  | release (targetId : String)
deriving DecidableEq

/-- One operation on the registry. -/
def RegistryOperation.apply (registry : BackgroundTargetRegistry) :
    RegistryOperation → BackgroundTargetRegistry
  | .register target => BackgroundTargetRegistry.register registry target
  | .release targetId => BackgroundTargetRegistry.release registry targetId

/-- The registry after a list of operations on a new one. -/
def registryAfter (ops : List RegistryOperation) : BackgroundTargetRegistry :=
  ops.foldl RegistryOperation.apply ∅

theorem registryAfter_snoc (ops : List RegistryOperation) (op : RegistryOperation) :
    registryAfter (ops ++ [op]) = op.apply (registryAfter ops) := by
  simp [registryAfter]

/-- What an operation does to the reference-counted table; an empty id does nothing. -/
def RegistryOperation.event? : RegistryOperation → Option (RefEvent String BackgroundTarget)
  | .register target => if target.id = "" then none else some (.acquire target.id target)
  | .release targetId => if targetId = "" then none else some (.release targetId)

theorem RegistryOperation.apply_eq (registry : BackgroundTargetRegistry) (op : RegistryOperation) :
    op.apply registry =
      match op.event? with
      | some event => RefTable.apply registry event
      | none => registry := by
  cases op with
  | register target =>
      by_cases unnamed : target.id = ""
      · simp [apply, event?, BackgroundTargetRegistry.register, unnamed]
      · simp [apply, event?, BackgroundTargetRegistry.register, unnamed, RefTable.apply]
  | release targetId =>
      by_cases unnamed : targetId = ""
      · simp [apply, event?, BackgroundTargetRegistry.release, unnamed]
      · simp [apply, event?, BackgroundTargetRegistry.release, unnamed, RefTable.apply]

/-- The registry is the reference-counted table of the operations on named targets. -/
theorem registryAfter_eq_run (ops : List RegistryOperation) :
    registryAfter ops = (∅ : BackgroundTargetRegistry).run (ops.filterMap RegistryOperation.event?) := by
  have same : RegistryOperation.apply = fun registry op =>
      match op.event? with
      | some event => RefTable.apply registry event
      | none => registry := funext₂ RegistryOperation.apply_eq
  rw [registryAfter, RefTable.run, List.foldl_filterMap, same]
  congr 1
  funext registry op
  cases op.event? <;> rfl

/-! ### Registrations and their releases -/

/-- The registrations of an id, and its releases that had a registration left to match. -/
def registrationTally (targetId : String) (ops : List RegistryOperation) : RefTally :=
  RefTally.of targetId (ops.filterMap RegistryOperation.event?)

/-- The last registration of an id. -/
def lastRegistration (targetId : String) (ops : List RegistryOperation) : Option BackgroundTarget :=
  RefTable.lastRecord targetId (ops.filterMap RegistryOperation.event?)

/-- The registrations that are not matched by a release, in one of the ways to match them: each release of an
    id ends one pending registration of that id, and none when none is pending. -/
inductive Matching : List RegistryOperation → List BackgroundTarget → Prop where
  | nil : Matching [] []
  | registered {ops pending} (target : BackgroundTarget) (before : Matching ops pending)
      (named : target.id ≠ "") : Matching (ops ++ [.register target]) (pending ++ [target])
  | released {ops pending} (target : BackgroundTarget) (before : Matching ops pending)
      (chosen : target ∈ pending) : Matching (ops ++ [.release target.id]) (pending.erase target)
  | ignored {ops pending} (target : BackgroundTarget) (before : Matching ops pending)
      (unnamed : target.id = "") : Matching (ops ++ [.register target]) pending
  | unmatched {ops pending} (targetId : String) (before : Matching ops pending)
      (absent : ∀ target ∈ pending, target.id ≠ targetId) :
      Matching (ops ++ [.release targetId]) pending

/-- Any operations can be matched. -/
theorem exists_matching (ops : List RegistryOperation) : ∃ pending, Matching ops pending := by
  induction ops using List.reverseRecOn with
  | nil => exact ⟨[], .nil⟩
  | append_singleton ops op ih =>
      obtain ⟨pending, matching⟩ := ih
      cases op with
      | register target =>
          by_cases unnamed : target.id = ""
          · exact ⟨pending, matching.ignored target unnamed⟩
          · exact ⟨pending ++ [target], matching.registered target unnamed⟩
      | release targetId =>
          by_cases absent : ∀ target ∈ pending, target.id ≠ targetId
          · exact ⟨pending, matching.unmatched targetId absent⟩
          · push Not at absent
            obtain ⟨target, chosen, rfl⟩ := absent
            exact ⟨pending.erase target, matching.released target chosen⟩

/-- A pending registration is of a named target. -/
theorem Matching.named {ops : List RegistryOperation} {pending : List BackgroundTarget}
    (matching : Matching ops pending) : ∀ target ∈ pending, target.id ≠ "" := by
  induction matching with
  | nil => exact fun target listed => absurd listed List.not_mem_nil
  | registered target before named ih =>
      intro other listed
      rcases List.mem_append.1 listed with old | new
      · exact ih other old
      · rw [List.mem_singleton.1 new]
        exact named
  | released target before chosen ih => exact fun other listed => ih other (List.mem_of_mem_erase listed)
  | ignored target before unnamed ih => exact ih
  | unmatched targetId before absent ih => exact ih

/-- Under every matching the reference count of an id is the number of its pending registrations. -/
theorem Matching.refcount_eq {ops : List RegistryOperation} {pending : List BackgroundTarget}
    (matching : Matching ops pending) (id : String) :
    refcount (registryAfter ops) id = pending.countP fun target => target.id = id := by
  induction matching with
  | nil => rfl
  | @registered ops pending target before named ih =>
      rw [registryAfter_snoc, RegistryOperation.apply, refcount_register _ _ named, List.countP_append,
        List.countP_singleton]
      by_cases same : id = target.id
      · subst same
        simp [ih]
      · have other : ¬ target.id = id := fun eq => same eq.symm
        simp [same, other, ih]
  | @released ops pending target before chosen ih =>
      have named := before.named target chosen
      have moved := (List.perm_cons_erase chosen).countP_eq fun other => other.id = id
      rw [List.countP_cons] at moved
      rw [registryAfter_snoc, RegistryOperation.apply, refcount_release _ _ named]
      by_cases same : id = target.id
      · subst same
        simp only [decide_true, if_true] at moved
        rw [if_pos rfl, ih, moved]
        push_cast
        omega
      · have other : ¬ target.id = id := fun eq => same eq.symm
        simp only [other, decide_false, Bool.false_eq_true, if_false] at moved
        rw [if_neg same, ih, moved]
        rfl
  | @ignored ops pending target before unnamed ih =>
      rw [registryAfter_snoc, RegistryOperation.apply, register, if_pos unnamed, ih]
  | @unmatched ops pending targetId before absent ih =>
      rw [registryAfter_snoc, RegistryOperation.apply]
      by_cases unnamed : targetId = ""
      · rw [release, if_pos unnamed, ih]
      · rw [refcount_release _ _ unnamed]
        by_cases same : id = targetId
        · subst same
          have none : (pending.countP fun target => target.id = id) = 0 :=
            List.countP_eq_zero.2 fun target listed => by simpa using absent target listed
          simp [ih, none]
        · rw [if_neg same, ih]

/-- The count is the number of registrations less that of the releases with a registration to match. -/
theorem refcount_eq_tally (id : String) (ops : List RegistryOperation) :
    refcount (registryAfter ops) id =
      (registrationTally id ops).acquired - (registrationTally id ops).released := by
  rw [registryAfter_eq_run]
  exact RefTable.count_run id _

/-! ### Counts of a session -/

/-- The distinct ids of the registered targets. -/
def registeredIds (ops : List RegistryOperation) : List String :=
  (ops.filterMap fun op => op.event?.bind fun event =>
    match event with
    | .acquire id _ => some id
    | .release _ => none).dedup

/-- The ids with a pending registration under a session. -/
def pendingIds (pending : List BackgroundTarget) (sessionId : String) : List String :=
  ((pending.filter fun target => target.sessionId = sessionId).map BackgroundTarget.id).dedup

/-- The ids that are held and were last registered under a session. -/
def lastRegisteredIds (ops : List RegistryOperation) (sessionId : String) : List String :=
  (registeredIds ops).filter fun id =>
    0 < (registrationTally id ops).acquired - (registrationTally id ops).released ∧
      (lastRegistration id ops).any fun target => target.sessionId = sessionId

theorem mem_registeredIds {ops : List RegistryOperation} {id : String} {target : BackgroundTarget}
    (last : lastRegistration id ops = some target) : id ∈ registeredIds ops := by
  obtain ⟨event, listed, given⟩ := List.exists_of_findSome?_eq_some last
  obtain ⟨op, performed, same⟩ := List.mem_filterMap.1 (List.mem_reverse.1 listed)
  rw [registeredIds, List.mem_dedup, List.mem_filterMap]
  refine ⟨op, performed, ?_⟩
  rw [same]
  cases event with
  | acquire k r =>
      simp only [RefEvent.recordFor] at given
      split at given
      · rename_i this
        rw [← this]
        rfl
      · cases given
  | release k => cases given

/-- A session's count is the number of the held ids that were last registered under it. -/
theorem activeCount_eq_lastRegistered (ops : List RegistryOperation) (sessionId : String) :
    activeCount (registryAfter ops) (some sessionId) = (lastRegisteredIds ops sessionId).length := by
  apply activeCount_eq_of_mem_iff
  · exact (List.nodup_dedup _).filter _
  · intro id
    have counted := refcount_eq_tally id ops
    have recorded : 0 < refcount (registryAfter ops) id →
        (registryAfter ops).record? id = lastRegistration id ops := by
      intro held
      unfold refcount at held
      rw [registryAfter_eq_run] at held ⊢
      exact RefTable.record?_run held
    simp only [lastRegisteredIds, List.mem_filter, decide_eq_true_eq]
    constructor
    · rintro ⟨-, held, under⟩
      obtain ⟨target, last, own⟩ := (Option.any_eq_true _ _).1 under
      exact ⟨target, by rw [recorded (by omega), last], of_decide_eq_true own⟩
    · rintro ⟨target, found, own⟩
      have held : 0 < refcount (registryAfter ops) id := by
        have nonneg := (registryAfter ops).count_nonneg id
        have stored : refcount (registryAfter ops) id ≠ 0 := by
          intro zero
          rw [RefTable.record?_eq_none_iff.2 zero] at found
          cases found
        exact lt_of_le_of_ne nonneg stored.symm
      rw [recorded held] at found
      refine ⟨mem_registeredIds found, by omega, ?_⟩
      simp [found, own]

/-! ### Targets that keep their session -/

/-- A registration of an active target is made under the session that the target has. -/
def RegistryOperation.KeepsSession (registry : BackgroundTargetRegistry) : RegistryOperation → Prop
  | .register target =>
      ∀ current, registry.record? target.id = some current → current.sessionId = target.sessionId
  | .release _ => True

/-- No registration moves an active target to another session. -/
def KeepSessions (ops : List RegistryOperation) : Prop :=
  Execution.AtEach (fun past op => op.KeepsSession (registryAfter past)) [] ops

theorem keepSessions_snoc {ops : List RegistryOperation} {op : RegistryOperation} :
    KeepSessions (ops ++ [op]) ↔ KeepSessions ops ∧ op.KeepsSession (registryAfter ops) := by
  rw [KeepSessions, Execution.atEach_snoc, List.nil_append]
  rfl

/-- Then every pending registration is under the session of its target's record. -/
theorem Matching.sessions {ops : List RegistryOperation} {pending : List BackgroundTarget}
    (matching : Matching ops pending) (kept : KeepSessions ops) :
    ∀ target ∈ pending, ∃ current, (registryAfter ops).record? target.id = some current ∧
      current.sessionId = target.sessionId := by
  induction matching with
  | nil => exact fun target listed => absurd listed List.not_mem_nil
  | @registered ops pending target before named ih =>
      obtain ⟨earlier, own⟩ := keepSessions_snoc.1 kept
      intro other listed
      rw [registryAfter_snoc, RegistryOperation.apply, register_named _ named, RefTable.record?_acquire]
      rcases List.mem_append.1 listed with old | new
      · obtain ⟨current, found, same⟩ := ih earlier other old
        by_cases shared : other.id = target.id
        · rw [shared] at found
          exact ⟨target, if_pos shared, (own current found).symm.trans same⟩
        · exact ⟨current, by rw [if_neg shared, found], same⟩
      · rw [List.mem_singleton.1 new]
        exact ⟨target, if_pos rfl, rfl⟩
  | @released ops pending target before chosen ih =>
      obtain ⟨earlier, -⟩ := keepSessions_snoc.1 kept
      intro other listed
      obtain ⟨current, found, same⟩ := ih earlier other (List.mem_of_mem_erase listed)
      have several : ¬ (other.id = target.id ∧ (registryAfter ops).count target.id ≤ 1) := by
        rintro ⟨shared, last⟩
        have counted : (registryAfter ops).count target.id = _ := before.refcount_eq target.id
        have both := (List.perm_cons_erase chosen).countP_eq fun t => t.id = target.id
        have another : 0 < (pending.erase target).countP fun t => t.id = target.id :=
          List.countP_pos_iff.2 ⟨other, listed, by simpa using shared⟩
        rw [List.countP_cons] at both
        simp only [decide_true, if_true] at both
        omega
      refine ⟨current, ?_, same⟩
      rw [registryAfter_snoc, RegistryOperation.apply, release_named _ (before.named target chosen),
        RefTable.record?_release, if_neg several, found]
  | @ignored ops pending target before unnamed ih =>
      obtain ⟨earlier, -⟩ := keepSessions_snoc.1 kept
      rw [registryAfter_snoc, RegistryOperation.apply, register, if_pos unnamed]
      exact ih earlier
  | @unmatched ops pending targetId before absent ih =>
      obtain ⟨earlier, -⟩ := keepSessions_snoc.1 kept
      intro other listed
      obtain ⟨current, found, same⟩ := ih earlier other listed
      refine ⟨current, ?_, same⟩
      rw [registryAfter_snoc, RegistryOperation.apply]
      by_cases unnamed : targetId = ""
      · rw [release, if_pos unnamed, found]
      · have differs : ¬ (other.id = targetId ∧ (registryAfter ops).count targetId ≤ 1) :=
          fun both => absent other listed both.1
        rw [release_named _ unnamed, RefTable.record?_release, if_neg differs, found]

/-- Then a session's count is the number of the ids with a pending registration under it. -/
theorem Matching.activeCount_eq {ops : List RegistryOperation} {pending : List BackgroundTarget}
    (matching : Matching ops pending) (kept : KeepSessions ops) (sessionId : String) :
    activeCount (registryAfter ops) (some sessionId) = (pendingIds pending sessionId).length := by
  apply activeCount_eq_of_mem_iff
  · exact List.nodup_dedup _
  · intro id
    simp only [pendingIds, List.mem_dedup, List.mem_map, List.mem_filter, decide_eq_true_eq]
    constructor
    · rintro ⟨target, ⟨listed, own⟩, rfl⟩
      obtain ⟨current, found, same⟩ := matching.sessions kept target listed
      exact ⟨current, found, same.trans own⟩
    · rintro ⟨current, found, own⟩
      have held : 0 < pending.countP fun target => target.id = id := by
        have counted : (registryAfter ops).count id = _ := matching.refcount_eq id
        have stored : (registryAfter ops).count id ≠ 0 := by
          intro zero
          rw [RefTable.record?_eq_none_iff.2 zero] at found
          cases found
        omega
      obtain ⟨target, listed, named⟩ := List.countP_pos_iff.1 held
      have shared : target.id = id := of_decide_eq_true named
      obtain ⟨other, foundOther, same⟩ := matching.sessions kept target listed
      rw [shared, found] at foundOther
      cases foundOther
      exact ⟨target, ⟨listed, same.symm.trans own⟩, shared⟩

/-! ### The counts -/

/-- The counts of the registry, after any registrations and releases. A session's count is the number of the
    distinct ids that are still held and were last registered under it. As long as no registration moves an
    active target to another session, it is the number of the distinct ids with a registration under the session
    that no release matches. The reference count of an id is the number of its registrations less its releases
    that had one to match, it is not negative, and it is the number of the id's unmatched registrations. -/
theorem active_count_by_last_registration (ops : List RegistryOperation) :
    (∀ sessionId, activeCount (registryAfter ops) (some sessionId) =
      (lastRegisteredIds ops sessionId).length) ∧
    (KeepSessions ops → ∀ pending, Matching ops pending → ∀ sessionId,
      activeCount (registryAfter ops) (some sessionId) = (pendingIds pending sessionId).length) ∧
    ∀ id,
      refcount (registryAfter ops) id =
        (registrationTally id ops).acquired - (registrationTally id ops).released ∧
      0 ≤ refcount (registryAfter ops) id ∧
      (∃ pending, Matching ops pending) ∧
      ∀ pending, Matching ops pending →
        refcount (registryAfter ops) id = pending.countP fun target => target.id = id := by
  refine ⟨activeCount_eq_lastRegistered ops, ?_, ?_⟩
  · intro kept pending matching sessionId
    exact matching.activeCount_eq kept sessionId
  · intro id
    refine ⟨refcount_eq_tally id ops, (registryAfter ops).count_nonneg id, exists_matching ops, ?_⟩
    intro pending matching
    exact matching.refcount_eq id

/-- A process target that a session registers. -/
def sampleTarget (sessionId : String) : BackgroundTarget :=
  { id := "process:make", kind := .process, sessionId }

/-- One session registers the target twice and releases it once. -/
theorem active_count_one_session :
    activeCount (registryAfter [.register (sampleTarget "s"), .register (sampleTarget "s"),
      .release "process:make"]) (some "s") = (pendingIds [sampleTarget "s"] "s").length := by
  apply (active_count_by_last_registration _).2.1
  · refine ⟨?_, ?_, trivial, trivial⟩
    · intro current found
      cases found
    · intro current found
      have same : some current = some (sampleTarget "s") := found.symm.trans (by decide)
      rw [Option.some.inj same]
  · exact ((Matching.nil.registered (sampleTarget "s") (by decide)).registered
      (sampleTarget "s") (by decide)).released (sampleTarget "s") (by decide)

/-- Without a release every registration of a named target is pending. -/
theorem Matching.all_pending {ops : List RegistryOperation} {pending : List BackgroundTarget}
    (matching : Matching ops pending) (unreleased : ∀ targetId, .release targetId ∉ ops) :
    ∀ target, .register target ∈ ops → target.id ≠ "" → target ∈ pending := by
  induction matching with
  | nil => exact fun target listed => absurd listed List.not_mem_nil
  | @registered ops pending target before named ih =>
      intro other listed otherNamed
      have earlier := ih fun targetId old => unreleased targetId (List.mem_append_left _ old)
      rcases List.mem_append.1 listed with old | new
      · exact List.mem_append_left _ (earlier other old otherNamed)
      · cases List.mem_singleton.1 new
        exact List.mem_append_right _ (List.mem_singleton.2 rfl)
  | @released ops pending target before chosen ih =>
      exact absurd (List.mem_append_right _ (List.mem_singleton.2 rfl)) (unreleased target.id)
  | @ignored ops pending target before unnamed ih =>
      intro other listed otherNamed
      have earlier := ih fun targetId old => unreleased targetId (List.mem_append_left _ old)
      rcases List.mem_append.1 listed with old | new
      · exact earlier other old otherNamed
      · cases List.mem_singleton.1 new
        exact absurd unnamed otherNamed
  | @unmatched ops pending targetId before absent ih =>
      exact absurd (List.mem_append_right _ (List.mem_singleton.2 rfl)) (unreleased targetId)

/-- Two sessions register one target id and nothing is released. Both registrations are unmatched, but the first
    session counts no active target. -/
theorem shared_target_uncounted :
    ¬ ∀ ops, ∃ pending, Matching ops pending ∧ ∀ sessionId,
      activeCount (registryAfter ops) (some sessionId) = (pendingIds pending sessionId).length := by
  intro claimed
  obtain ⟨pending, matching, counted⟩ :=
    claimed [.register (sampleTarget "s"), .register (sampleTarget "t")]
  have unmatched : sampleTarget "s" ∈ pending :=
    matching.all_pending (by simp) (sampleTarget "s") (by simp) (by decide)
  have listed : "process:make" ∈ pendingIds pending "s" := by
    rw [pendingIds, List.mem_dedup, List.mem_map]
    exact ⟨sampleTarget "s", List.mem_filter.2 ⟨unmatched, by decide⟩, rfl⟩
  have counts := counted "s"
  have uncounted : activeCount (registryAfter [.register (sampleTarget "s"),
      .register (sampleTarget "t")]) (some "s") = 0 := by decide
  have some := List.length_pos_of_mem listed
  omega

end CachePilot
