/-
CheckpointMonitor/Watch/Termination.lean

Why a watch came to its end.
-/
import CheckpointMonitor.Protocol.Violation

namespace CheckpointMonitor

/-- Why a watch came to its end, all reads and writes having gone well. -/
inductive Termination where
  /-- The stream was over. -/
  | endOfStream
  /-- A shutdown was requested. -/
  | interrupted
  /-- The protocol was broken. -/
  | violation (violation : Violation)
  deriving DecidableEq

/-- The violation that ended the watch, if one did. -/
def Termination.violation? : Termination → Option Violation
  | violation v => some v
  | _ => none

end CheckpointMonitor
