/-
CheckpointMonitor/Settings.lean

What a run can be told to do.
-/
import CheckpointMonitor.Tally.Summary

namespace CheckpointMonitor

/-- The settings of a run. -/
structure Settings where
  /-- The file to be replayed, instead of the standard input. -/
  input : Option String := none
  /-- The form of the closing report. -/
  reportFormat : Summary.Format := .text
  /-- Which diagnostics are shown. -/
  logFilter : String := "warn"
  deriving DecidableEq

end CheckpointMonitor
