/-
Module: CachePilot.Hermes.Lifecycle
Layer: Hermes
Purpose: The lifecycle hooks of the plugin that touch its state: the target registry and the session id that the
  hooks publish. A hook is given the fields of its payload that it reads; every other field is only logged. The
  duration learner's record of a completed command is left out: the registry does not read it.
Trusted boundary: the reading of lifecycle.py, for the payload fields that its hooks read
Main exports: HermesPlugin, publishSessionId, currentSessionId, postToolCall, subagentStart, subagentStop,
  onSessionStart, onSessionReset
-/
import CachePilot.Hermes.ToolMiddleware

namespace CachePilot

/-- The state of the plugin: the registry and the published session id. -/
structure HermesPlugin where
  targets : BackgroundTargetRegistry := ∅
  sessionId : Option String := none

/-- A new plugin. -/
def HermesPlugin.start : HermesPlugin := {}

namespace HermesPlugin

/-- Record the session id of a hook payload; an empty one is ignored. -/
def publishSessionId (p : HermesPlugin) (sessionId : String) : HermesPlugin :=
  if sessionId = "" then p else { p with sessionId := some sessionId }

/-- The published session id, else the one of the process. -/
def currentSessionId (p : HermesPlugin) (processSessionId : String) : String :=
  p.sessionId.getD processSessionId

@[simp] theorem targets_publishSessionId (p : HermesPlugin) (sessionId : String) :
    (p.publishSessionId sessionId).targets = p.targets := by
  unfold publishSessionId
  split <;> rfl

/-- The tool-request middleware of the plugin, under its current session. -/
def toolRequest (prims : CommandPrimitives) (settings : LongTasksSettings)
    (learned : String → Option CommandDurationStats) (processSessionId : String) (p : HermesPlugin)
    (toolName : String) (args : Json) (now : ℚ) : HermesPlugin × Option ToolPromotion :=
  let (targets, promotion) := CachePilot.toolRequest prims settings learned p.targets toolName args
    (p.currentSessionId processSessionId) now
  ({ p with targets }, promotion)

/-- The process target of a completed tool call: that of a terminal call with a command. -/
def completedTarget (prims : CommandPrimitives) (toolName : String) (args : Json) : Option String :=
  if toolName ≠ "terminal" then none
  else
    match args with
    | .obj members => (commandOf members).map (processTargetId prims)
    | _ => none

/-- A tool call completed: a terminal command releases its process target. -/
def postToolCall (prims : CommandPrimitives) (settings : LongTasksSettings) (p : HermesPlugin)
    (toolName : String) (args : Json) (sessionId : String) : HermesPlugin :=
  let p := p.publishSessionId sessionId
  match completedTarget prims toolName args with
  | some targetId =>
      if settings.enabled then
        { p with targets := BackgroundTargetRegistry.release p.targets targetId }
      else p
  | none => p

/-- What the plugin holds after a tool call completed. -/
theorem targets_postToolCall (prims : CommandPrimitives) (settings : LongTasksSettings) (p : HermesPlugin)
    (toolName : String) (args : Json) (sessionId : String) :
    (p.postToolCall prims settings toolName args sessionId).targets =
      match completedTarget prims toolName args with
      | some targetId =>
          if settings.enabled then BackgroundTargetRegistry.release p.targets targetId else p.targets
      | none => p.targets := by
  unfold postToolCall
  dsimp only
  cases completedTarget prims toolName args with
  | none => simp
  | some targetId =>
      cases settings.enabled with
      | true => simp
      | false => simp

/-- The target id of a subagent: its session id, else its own id. -/
def subagentTargetId (childSessionId childSubagentId : String) : String :=
  if childSessionId ≠ "" then childSessionId else childSubagentId

/-- A subagent started: its target is registered under the parent's session. -/
def subagentStart (settings : LongTasksSettings) (p : HermesPlugin)
    (parentSessionId childSessionId childSubagentId : String) (now : ℚ) : HermesPlugin :=
  let p := p.publishSessionId parentSessionId
  if !settings.enabled then p
  else
    let targetId := subagentTargetId childSessionId childSubagentId
    if targetId ≠ "" then
      let target : BackgroundTarget :=
        { id := targetId, kind := .subagent, sessionId := parentSessionId, startedAt := now }
      { p with targets := BackgroundTargetRegistry.register p.targets target }
    else p

/-- What an enabled plugin holds after a subagent started. -/
theorem targets_subagentStart {settings : LongTasksSettings} (enabled : settings.enabled = true)
    (p : HermesPlugin) (parentSessionId childSessionId childSubagentId : String) (now : ℚ) :
    (p.subagentStart settings parentSessionId childSessionId childSubagentId now).targets =
      if subagentTargetId childSessionId childSubagentId = "" then p.targets
      else
        p.targets.acquire (subagentTargetId childSessionId childSubagentId)
          { id := subagentTargetId childSessionId childSubagentId, kind := .subagent
            sessionId := parentSessionId, startedAt := now } := by
  unfold subagentStart
  by_cases unnamed : subagentTargetId childSessionId childSubagentId = ""
  · simp [enabled, unnamed]
  · simp [enabled, unnamed, BackgroundTargetRegistry.register]

/-- A subagent stopped: the target of its session id is released. The payload's own id of the child is not among
    the fields that are read. -/
def subagentStop (settings : LongTasksSettings) (p : HermesPlugin) (childSessionId : String) :
    HermesPlugin :=
  if !settings.enabled then p
  else if childSessionId ≠ "" then
    { p with targets := BackgroundTargetRegistry.release p.targets childSessionId }
  else p

/-- A session started. -/
def onSessionStart (p : HermesPlugin) (sessionId : String) : HermesPlugin := p.publishSessionId sessionId

/-- A session was reset. -/
def onSessionReset (p : HermesPlugin) (sessionId : String) : HermesPlugin := p.publishSessionId sessionId

end HermesPlugin

end CachePilot
