/-
CheckpointMonitor/Channel/Fault.lean

What can go wrong when bytes are read or written.
-/

namespace CheckpointMonitor

/-- The kinds of failure of a read or a write. -/
inductive Fault.Kind where
  | other
  | interrupted
  | brokenPipe
  | unexpectedEnd
  | timedOut
  | notFound
  | permissionDenied
  | invalidData
  | writeZero
  deriving DecidableEq

/-- What a kind of failure is called when nothing more is known. -/
def Fault.Kind.text : Fault.Kind → String
  | other => "other error"
  | interrupted => "operation interrupted"
  | brokenPipe => "broken pipe"
  | unexpectedEnd => "unexpected end of file"
  | timedOut => "timed out"
  | notFound => "entity not found"
  | permissionDenied => "permission denied"
  | invalidData => "invalid data"
  | writeZero => "write zero"

/-- A failure of a read or a write. -/
structure Fault where
  kind : Fault.Kind
  /-- What the channel says about the failure. -/
  detail : Option String := none
  deriving DecidableEq

namespace Fault

/-- The failure in words: the channel's own where it has some, the kind's otherwise. -/
def text (fault : Fault) : String :=
  fault.detail.getD fault.kind.text

/-- A write that took nothing although something was offered. -/
def writeZero : Fault := ⟨.writeZero, none⟩

/-- An interrupted read is simply begun again; every other failure ends the reading. -/
def isRetried (fault : Fault) : Bool :=
  fault.kind = .interrupted

end Fault

end CheckpointMonitor
