/-
CheckpointMonitor/Failure.lean

Everything that can end the work other than well, each failure by its cause, and
what is said about it.
-/
import CheckpointMonitor.Channel.Fault
import CheckpointMonitor.Monitor

namespace CheckpointMonitor

/-- Why the work failed. -/
inductive Failure where
  /-- The protocol was broken. -/
  | violation (violation : Violation)
  /-- Something was shown to a monitor that had halted. -/
  | halted
  /-- A read, a write or a flush failed. -/
  | channel (fault : Fault)
  /-- The settings cannot be used, for the reason given. -/
  | settings (reason : String)
  deriving DecidableEq

namespace Failure

/-- The failure of a marker or a line that was refused. -/
def ofRefusal : Refusal → Failure
  | .violation v => violation v
  | .halted => halted

/-- The failure in words. -/
def message : Failure → String
  | violation v => v.message
  | halted => "monitor halted after a protocol violation; no further events are accepted"
  | channel fault => "stream I/O failed: " ++ fault.text
  | settings reason => "configuration error: " ++ reason

/-- What lies behind the failure, in words, where that is something else. -/
def cause? : Failure → Option String
  | channel fault => some fault.text
  | _ => none

end Failure

end CheckpointMonitor
