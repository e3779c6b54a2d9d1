/-
Module: CachePilot.Hermes.LearnedDurations
Layer: Hermes
Purpose: The duration learner over the life of its database. Its rows outlive the process, its windows do not; what
  it says about a command is read from the row of its signature and given to the classifier. All writes succeed.
Trusted boundary: the reading of duration_history.py; rows outlive the process, and all writes succeed
Main exports: CommandDurationHistory.stats, CommandDurationHistory.restarted, DurationAct, durationStep, historyAfter
-/
import CachePilot.Hermes.DurationHistory
import CachePilot.Hermes.ToolMiddleware

namespace CachePilot

/-- The stats that a row of a signature holds. -/
def CommandHistoryRow.stats (signature : String) (row : CommandHistoryRow) : CommandDurationStats where
  signature := signature
  sampleCount := row.sampleCount
  runtimeP50 := some (.finite row.runtimeP50)
  runtimeP90 := some (.finite row.runtimeP90)
  runtimeP95 := some (.finite row.runtimeP95)
  backgroundSuccessRate := row.backgroundSuccessRate.map .finite

/-- Aggregate stats for a command, under its signature. -/
def CommandDurationHistory.stats (prims : CommandPrimitives) (h : CommandDurationHistory) (command : String) :
    Option CommandDurationStats :=
  if h.disabled then none
  else
    let signature := normalizeSignature prims command
    if signature = "" then none else (h.rows.get? signature).map fun row => row.stats signature

/-- The learner of a new process on the same database. -/
def CommandDurationHistory.restarted (h : CommandDurationHistory) : CommandDurationHistory := { rows := h.rows }

/-- A duration is recorded, or the process is restarted. -/
inductive DurationAct where
  | record (command : String) (durationS : ℚ) (background success : Bool) (now : ℚ)
  | restart

/-- What the learner does. -/
def durationStep (prims : CommandPrimitives) (h : CommandDurationHistory) : DurationAct → CommandDurationHistory
  | .record command durationS background success now =>
      h.record prims command durationS background success now true
  | .restart => h.restarted

/-- The learner after some acts on a new database. -/
def historyAfter (prims : CommandPrimitives) (acts : List DurationAct) : CommandDurationHistory :=
  acts.foldl (durationStep prims) {}

end CachePilot
