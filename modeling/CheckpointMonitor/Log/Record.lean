/-
CheckpointMonitor/Log/Record.lean

The diagnostics, as data.  A record says what happened; its level, its target
and its wording are read off it.  What a line or a marker leaves in the log
follows from what came of it, so the log can be compared with the monitor record
by record.  When it happened is left out.
-/
import CheckpointMonitor.Log.Level
import CheckpointMonitor.Monitor
import CheckpointMonitor.Watch.Termination

namespace CheckpointMonitor.Log

/-- A diagnostic. -/
inductive Record where
  /-- A marker moved the protocol on. -/
  | advanced (marker : Marker) (before after : Phase)
  /-- A request for a checkpoint was passed over, since one is queued already. -/
  | duplicateIgnored
  /-- The protocol was broken. -/
  | violation (violation : Violation)
  /-- A watch ended on request after so many lines. -/
  | shutdownRequested (lines : Nat)
  /-- A watch ended with its stream after so many lines. -/
  | sourceClosed (lines : Nat)
  /-- The report could not be written after the stream had failed. -/
  | summaryLost (complaint : String)
  /-- The last word of a run. -/
  | runEnded (termination : Termination) (lines cycles : Nat) (phase : Phase)
  deriving DecidableEq

/-- A marker's name where a termination is spelled out. -/
def markerTag : Marker → String
  | .persistTriggered => "PersistTriggered"
  | .persistQueued => "PersistQueued"
  | .bufferCleared => "BufferCleared"
  | .restoreFinished => "RestoreFinished"

/-- A phase's name where a termination is spelled out. -/
def phaseTag : Phase → String
  | .idle => "Idle"
  | .triggered => "Triggered"
  | .queued => "Queued"
  | .bufferCleared => "BufferCleared"

/-- A termination spelled out in full. -/
def terminationTag : Termination → String
  | .endOfStream => "EndOfStream"
  | .interrupted => "Interrupted"
  | .violation v =>
    let line := match v.line with
      | none => "None"
      | some n => "Some(" ++ n.repr ++ ")"
    "Violation(ProtocolViolation \x7b event: " ++ markerTag v.marker ++ ", state: " ++
      phaseTag v.phase ++ ", line_number: " ++ line ++ " \x7d)"

namespace Record

def level : Record → Level
  | advanced .. => .debug
  | duplicateIgnored => .warn
  | violation _ => .error
  | shutdownRequested _ => .info
  | sourceClosed _ => .debug
  | summaryLost _ => .warn
  | runEnded .. => .info

/-- The part of the program that speaks. -/
def target : Record → String
  | advanced .. | duplicateIgnored | violation _ => "persist_monitor::machine"
  | shutdownRequested _ | sourceClosed _ => "persist_monitor::stream"
  | summaryLost _ | runEnded .. => "persist_monitor"

/-- The diagnostic in words. -/
def message : Record → String
  | advanced marker before after => marker.name ++ ": " ++ before.name ++ " -> " ++ after.name
  | duplicateIgnored =>
    "Persist triggered while another persist is queued, ignoring duplicate"
  | violation v => v.message
  | shutdownRequested lines => "Shutdown requested after " ++ lines.repr ++ " lines"
  | sourceClosed lines => "Line source closed after " ++ lines.repr ++ " lines"
  | summaryLost complaint => "Could not write statistics after stream failure: " ++ complaint
  | runEnded termination lines cycles phase =>
    "Run ended (" ++ terminationTag termination ++ "): " ++ lines.repr ++ " lines, " ++
      cycles.repr ++ " cycles completed, final state " ++ phase.name

/-- The fields that a diagnostic has: its wording and no other. -/
def fields (_ : Record) : List String := ["message"]

/-- The record of an accepted marker. -/
def ofTransition : Transition → Record
  | .advanced marker before after => advanced marker before after
  | .ignored _ _ => duplicateIgnored

/-- The record of a refusal; a monitor that halted before says nothing. -/
def ofRefusal : Refusal → List Record
  | .violation v => [violation v]
  | .halted => []

/-- What a marker shown to the monitor leaves in the log. -/
def ofObservation : Except Refusal Transition → List Record
  | .ok transition => [ofTransition transition]
  | .error refusal => ofRefusal refusal

/-- What a line leaves in the log: a record for each accepted marker, also when the line is
refused in the end, and then one for the refusal. -/
def ofReading (reading : Monitor.Reading) : List Record :=
  reading.accepted.map ofTransition ++ (reading.refusal.map ofRefusal).getD []

end Record

end CheckpointMonitor.Log
