/-
CheckpointMonitor/Channel/Sink.lean

Where bytes are written.  A sink may take only a few bytes at a time, may be full
after a number of bytes, and may fail at one of its flushes; `taken` and
`flushes` are what can be seen of it from outside.

`writeAll` offers a piece again and again until all of it is taken, so how much a
single write takes cannot be seen in the end; a write that takes nothing is a
failure of its own.  Every action answers with the sink afterwards, also when it
fails.
-/
import CheckpointMonitor.Channel.Fault

namespace CheckpointMonitor

/-- A receiver of bytes. -/
structure Sink where
  /-- The most that a single write takes; no limit if absent. -/
  perWrite : Option Nat := none
  /-- The most that is taken in all; no limit if absent. -/
  capacity : Option Nat := none
  /-- How a write into the full sink fails; if absent, such a write takes nothing. -/
  fullFault : Option Fault := none
  /-- The number of a flush that fails, counted from one, and how it fails. -/
  flushFault : Option (Nat × Fault) := none
  /-- The number of a flush during which a shutdown is requested. -/
  shutdownFlush : Option Nat := none
  /-- The bytes taken so far. -/
  taken : Array UInt8 := #[]
  /-- The flushes tried so far, a failed one included. -/
  flushes : Nat := 0

/-- A failed action, and the sink that it leaves. -/
structure Sink.Failure where
  fault : Fault
  sink : Sink

namespace Sink

/-- Whether the sink has taken all it can hold. -/
def isFull (s : Sink) : Bool :=
  match s.capacity with
  | none => false
  | some capacity => capacity ≤ s.taken.size

/-- The part of a nonempty offer that a single write takes. -/
def portion (s : Sink) (bytes : List UInt8) : List UInt8 :=
  let offered := match s.perWrite with
    | none => bytes
    | some most => bytes.take most
  match s.capacity with
  | none => offered
  | some capacity => offered.take (capacity - s.taken.size)

/-- The sink after it took the bytes. -/
def accept (s : Sink) (bytes : List UInt8) : Sink :=
  { s with taken := s.taken ++ bytes }

/-- A single write: answers with the number of bytes taken. -/
def write (s : Sink) (bytes : List UInt8) : Except Failure (Nat × Sink) :=
  match s.isFull, s.fullFault with
  | true, some fault => .error ⟨fault, s⟩
  | _, _ => .ok ((s.portion bytes).length, s.accept (s.portion bytes))

/-- Writes until all bytes are taken.  A write that takes nothing is a failure. -/
def writeAll (s : Sink) (bytes : List UInt8) : Except Failure Sink :=
  match bytes with
  | [] => .ok s
  | byte :: rest =>
    match s.write (byte :: rest) with
    | .error failure => .error failure
    | .ok (0, s') => .error ⟨.writeZero, s'⟩
    | .ok (n + 1, s') => s'.writeAll (rest.drop n)
termination_by bytes.length
decreasing_by
  simp only [List.length_drop, List.length_cons]
  omega

/-- Asks the sink to pass on what it holds.  A failing flush is counted all the same. -/
def flush (s : Sink) : Except Failure Sink :=
  let flushed := { s with flushes := s.flushes + 1 }
  match s.flushFault with
  | none => .ok flushed
  | some (n, fault) => if flushed.flushes = n then .error ⟨fault, flushed⟩ else .ok flushed

/-- Whether a shutdown was requested during the last flush. -/
def requestsShutdown (s : Sink) : Bool :=
  s.shutdownFlush = some s.flushes

@[simp] theorem taken_accept (s : Sink) (bytes : List UInt8) :
    (s.accept bytes).taken = s.taken ++ bytes := rfl

@[simp] theorem writeAll_nil (s : Sink) : s.writeAll [] = .ok s := by
  rw [writeAll]

end Sink

end CheckpointMonitor
