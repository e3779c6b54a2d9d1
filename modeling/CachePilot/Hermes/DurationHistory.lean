/-
Module: CachePilot.Hermes.DurationHistory
Layer: Hermes
Purpose: The duration learner. It keeps a window of the latest durations of each command signature and persists one
  row of aggregates under the signature. Floats are exact; the time and the outcome of the write are arguments.
  A failed write disables the store for good. Log lines are left out.
Trusted boundary: the reading of duration_history.py, with exact durations
Main exports: CommandHistoryRow, CommandDurationHistory, percentile, CommandDurationHistory.record
-/
import CachePilot.Hermes.CommandSignature
import CachePilot.Lib.Dict

namespace CachePilot

/-- The columns of a row of the command history, without its signature. -/
structure CommandHistoryRow where
  sampleCount : ℕ
  runtimeP50 : ℚ
  runtimeP90 : ℚ
  runtimeP95 : ℚ
  backgroundSuccessRate : Option ℚ
  updatedAt : ℚ

/-- The learner: whether it is disabled, its windows, and the persisted rows by signature. -/
structure CommandDurationHistory where
  disabled : Bool := false
  windows : Dict String (List ℚ) := ∅
  successWindows : Dict String (List Bool) := ∅
  rows : Dict String CommandHistoryRow := ∅

/-- Rolling window of most recent durations kept per signature. -/
def windowSize : ℕ := 512

/-- Append to a window; the oldest entry of a full one falls out. -/
def appendWindow {A : Type} (window : List A) (entry : A) : List A :=
  (window ++ [entry]).drop (window.length + 1 - windowSize)

/-- Linear-interpolation percentile over sorted samples; no samples raise. -/
def percentile (sortedSamples : List ℚ) (p : ℚ) : Option ℚ :=
  match sortedSamples with
  | [] => none
  | [sample] => some sample
  | samples =>
      let rank := ((samples.length : ℚ) - 1) * p
      let lower := rank.floor.toNat
      let upper := min (lower + 1) (samples.length - 1)
      let fraction := rank - lower
      match samples[lower]?, samples[upper]? with
      | some low, some high => some (low + fraction * (high - low))
      | _, _ => none

/-- Between two samples a percentile is interpolated. -/
example : percentile [1, 2, 3, 4, 5, 6, 7, 8, 9, 10] (9 / 10) = some (91 / 10) ∧
    percentile [7] (9 / 10) = some 7 ∧ percentile [] (1 / 2) = none := by
  decide +kernel

namespace CommandDurationHistory

/-- Update the success window of a background run; its mean is the rate. -/
def updatedSuccessRate (h : CommandDurationHistory) (signature : String) (background success : Bool) :
    CommandDurationHistory × Option ℚ :=
  if !background then (h, none)
  else
    let window := appendWindow ((h.successWindows.get? signature).getD []) success
    ({ h with successWindows := h.successWindows.set signature window },
      some ((window.count true : ℚ) / window.length))

/-- Record one observed duration of a command under its signature. -/
def record (prims : CommandPrimitives) (h : CommandDurationHistory) (command : String) (durationS : ℚ)
    (background success : Bool) (now : ℚ) (stored : Bool) : CommandDurationHistory :=
  if h.disabled then h
  else
    let signature := normalizeSignature prims command
    if signature = "" then h
    else
      let window := appendWindow ((h.windows.get? signature).getD []) durationS
      let h := { h with windows := h.windows.set signature window }
      let samples := window.insertionSort (· ≤ ·)
      match percentile samples (1 / 2), percentile samples (9 / 10), percentile samples (19 / 20) with
      | some p50, some p90, some p95 =>
          let (h, successRate) := h.updatedSuccessRate signature background success
          if !stored then { h with disabled := true }
          else
            let existing := h.rows.get? signature
            let previousRate := existing.bind CommandHistoryRow.backgroundSuccessRate
            let rate := if background then successRate else previousRate
            let sampleCount := (existing.map CommandHistoryRow.sampleCount).getD 0 + 1
            { h with
              rows := h.rows.set signature
                { sampleCount, runtimeP50 := p50, runtimeP90 := p90, runtimeP95 := p95
                  backgroundSuccessRate := rate, updatedAt := now } }
      | _, _, _ => { h with disabled := true }

end CommandDurationHistory

end CachePilot
