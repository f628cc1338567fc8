/-
CheckpointMonitor/Protocol/Violation.lean

A breach of the protocol: a marker that came in a phase which refuses it, and
the line on which it came if that is known.
-/
import CheckpointMonitor.Protocol.Phase

namespace CheckpointMonitor

/-- A marker that came in a phase which refuses it. -/
structure Violation where
  /-- The marker that was refused. -/
  marker : Marker
  /-- The phase that refused it. -/
  phase : Phase
  /-- The number of the line that carried it, counted from one, if it came on a line. -/
  line : Option Nat := none
  deriving DecidableEq

namespace Violation

/-- The same breach, now known to stand on line `n`; a line known before is forgotten. -/
def atLine (v : Violation) (n : Nat) : Violation :=
  { v with line := some n }

/-- The text that names the line, empty when no line is known. -/
def lineNote : Option Nat → String
  | none => ""
  | some n => " (line " ++ n.repr ++ ")"

/-- The breach in words. -/
def message (v : Violation) : String :=
  "protocol violation: '" ++ v.marker.phrase ++ "' received in state " ++ v.phase.name ++
    lineNote v.line

@[simp] theorem atLine_marker (v : Violation) (n : Nat) : (v.atLine n).marker = v.marker := rfl

@[simp] theorem atLine_phase (v : Violation) (n : Nat) : (v.atLine n).phase = v.phase := rfl

@[simp] theorem atLine_line (v : Violation) (n : Nat) : (v.atLine n).line = some n := rfl

@[simp] theorem atLine_atLine (v : Violation) (m n : Nat) : (v.atLine m).atLine n = v.atLine n := rfl

end Violation

end CheckpointMonitor
