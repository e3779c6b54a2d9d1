/-
Module: CachePilot.Hermes.Targets
Layer: Hermes
Purpose: The background target registry of the plugin: one record and one reference count for each target id.
  It is the reference-counted table over target ids; an empty id is never registered.
Trusted boundary: the reading of targets.py
Main exports: TargetKind, BackgroundTarget, processTargetId, BackgroundTargetRegistry
-/
import CachePilot.Hermes.CommandSignature
import CachePilot.Lib.RefCounts

namespace CachePilot

/-- What kind of work a target is. -/
inductive TargetKind where
  | process
  | subagent
  | external
deriving DecidableEq, Repr

/-- One unit of background work that keeps a session's lease relevant. -/
structure BackgroundTarget where
  id : String
  kind : TargetKind
  sessionId : String := ""
  startedAt : ℚ := 0
  expectedCompletion : Bool := true
deriving DecidableEq

/-- Namespace prefix of process target ids. -/
def processTargetPrefix : String := "process:"

/-- Stable target id for one auto-backgrounded terminal command. -/
def processTargetId (prims : CommandPrimitives) (command : String) : String :=
  processTargetPrefix ++ normalizeSignature prims command

theorem processTargetId_ne_empty (prims : CommandPrimitives) (command : String) :
    processTargetId prims command ≠ "" := by
  intro empty
  have length := congrArg String.length empty
  rw [processTargetId, String.length_append] at length
  have prefixed : processTargetPrefix.length = 8 := by decide
  have none : "".length = 0 := rfl
  omega

/-- Reference-counted registry of active background targets. -/
abbrev BackgroundTargetRegistry := RefTable String BackgroundTarget

namespace BackgroundTargetRegistry

/-- Add a target; an empty id is ignored. -/
def register (registry : BackgroundTargetRegistry) (target : BackgroundTarget) :
    BackgroundTargetRegistry :=
  if target.id = "" then registry else registry.acquire target.id target

/-- Count a target down and remove it at zero; an empty id is ignored. -/
def release (registry : BackgroundTargetRegistry) (targetId : String) : BackgroundTargetRegistry :=
  if targetId = "" then registry else RefTable.release registry targetId

def refcount (registry : BackgroundTargetRegistry) (targetId : String) : ℤ := registry.count targetId

/-- Number of active targets, of one session when it is given. -/
def activeCount (registry : BackgroundTargetRegistry) (sessionId : Option String := none) : ℕ :=
  match sessionId with
  | none => registry.counts.entries.length
  | some sessionId => registry.records.values.countP fun t => t.sessionId = sessionId

/-- Active targets, of one session when it is given, newest registered first. -/
def activeTargets (registry : BackgroundTargetRegistry) (sessionId : Option String := none) :
    List BackgroundTarget :=
  (registry.records.values.filter fun t => sessionId.all (t.sessionId = ·)).reverse

/-- The ids of the active targets of a session. -/
def activeIds (registry : BackgroundTargetRegistry) (sessionId : String) : List String :=
  (registry.records.entries.filter fun entry => entry.2.sessionId = sessionId).map Prod.fst

theorem mem_activeIds_iff {registry : BackgroundTargetRegistry} {sessionId id : String} :
    id ∈ activeIds registry sessionId ↔
      ∃ target, registry.record? id = some target ∧ target.sessionId = sessionId := by
  simp only [activeIds, List.mem_map, List.mem_filter, decide_eq_true_eq, Prod.exists,
    exists_and_right, exists_eq_right, RefTable.record?, Dict.get?_eq_some_iff]

theorem nodup_activeIds (registry : BackgroundTargetRegistry) (sessionId : String) :
    (activeIds registry sessionId).Nodup :=
  registry.records.nodup.sublist (List.filter_sublist.map Prod.fst)

/-- A session's count is the number of its active ids. -/
theorem activeCount_eq_length (registry : BackgroundTargetRegistry) (sessionId : String) :
    activeCount registry (some sessionId) = (activeIds registry sessionId).length := by
  simp only [activeCount, activeIds, Dict.values, List.length_map]
  rw [List.countP_map, List.countP_eq_length_filter]
  rfl

/-- Any list of the active ids of a session without repetitions has that length. -/
theorem activeCount_eq_of_mem_iff {registry : BackgroundTargetRegistry} {sessionId : String}
    {ids : List String} (nodup : ids.Nodup)
    (members : ∀ id, id ∈ ids ↔ ∃ target, registry.record? id = some target ∧
      target.sessionId = sessionId) :
    activeCount registry (some sessionId) = ids.length := by
  rw [activeCount_eq_length]
  apply List.Perm.length_eq
  rw [List.perm_ext_iff_of_nodup (nodup_activeIds registry sessionId) nodup]
  intro id
  rw [mem_activeIds_iff, members]

section Operations

variable (registry : BackgroundTargetRegistry) (target : BackgroundTarget) (targetId id : String)

theorem register_named {target : BackgroundTarget} (named : target.id ≠ "") :
    register registry target = registry.acquire target.id target :=
  if_neg named

theorem refcount_register {target : BackgroundTarget} (named : target.id ≠ "") :
    refcount (register registry target) id =
      if id = target.id then refcount registry target.id + 1 else refcount registry id := by
  rw [register_named registry named]
  exact RefTable.count_acquire _ _ _ _

theorem release_named {targetId : String} (named : targetId ≠ "") :
    release registry targetId = RefTable.release registry targetId :=
  if_neg named

theorem refcount_release {targetId : String} (named : targetId ≠ "") :
    refcount (release registry targetId) id =
      if id = targetId then max 0 (refcount registry targetId - 1) else refcount registry id := by
  rw [release_named registry named]
  exact RefTable.count_release _ _ _

end Operations

end BackgroundTargetRegistry

end CachePilot
