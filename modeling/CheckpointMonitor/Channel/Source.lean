/-
CheckpointMonitor/Channel/Source.lean

Where lines come from: a stream as it arrives, in pieces, with waits, failures
and shutdown requests between them.

`readLine` gathers bytes up to the next line feed, across as many pieces as it
takes.  A shutdown request that arrives amid a line does not by itself end the
line; it is looked at whenever the reading has to wait, and then the unfinished
line is given up.

`size_rest_le` says that no byte is read twice: what was taken and what is left
are together no more than what there was.
-/
import CheckpointMonitor.Channel.Fault

namespace CheckpointMonitor

/-- The byte that ends a line. -/
def lineFeed : UInt8 := 10

/-- What arrives next. -/
inductive Source.Arrival where
  /-- Some bytes. -/
  | data (bytes : List UInt8)
  /-- Nothing yet: the reader has to wait. -/
  | pending
  /-- A request to shut down. -/
  | shutdown
  /-- The read fails. -/
  | failure (fault : Fault)

/-- A stream of bytes as it arrives; it ends after its last arrival. -/
abbrev Source := List Source.Arrival

namespace Source

/-- How the reading of a line ended. -/
inductive Ending where
  /-- At the line's line feed. -/
  | lineFeed
  /-- At the end of the stream. -/
  | exhausted
  /-- At a wait, a shutdown having been requested. -/
  | interrupted
  /-- At a failure. -/
  | failed (fault : Fault)
  deriving DecidableEq

/-- The reading of a line. -/
structure Read where
  /-- The bytes of the line that were read, without the line feed. -/
  bytes : List UInt8
  ending : Ending
  /-- Whether a shutdown has been requested by now. -/
  shutdown : Bool
  /-- What is left to be read. -/
  rest : Source

namespace Read

/-- The reading of a line that began with the given bytes. -/
def after (bytes : List UInt8) (read : Read) : Read :=
  { read with bytes := bytes ++ read.bytes }

/-- The number of bytes taken from the stream, the line feed included. -/
def size (read : Read) : Nat :=
  match read.ending with
  | .lineFeed => read.bytes.length + 1
  | _ => read.bytes.length

@[simp] theorem ending_after (bytes : List UInt8) (read : Read) :
    (read.after bytes).ending = read.ending := rfl

@[simp] theorem rest_after (bytes : List UInt8) (read : Read) :
    (read.after bytes).rest = read.rest := rfl

@[simp] theorem bytes_after (bytes : List UInt8) (read : Read) :
    (read.after bytes).bytes = bytes ++ read.bytes := rfl

@[simp] theorem shutdown_after (bytes : List UInt8) (read : Read) :
    (read.after bytes).shutdown = read.shutdown := rfl

@[simp] theorem size_after (bytes : List UInt8) (read : Read) :
    (read.after bytes).size = bytes.length + read.size := by
  simp only [size, ending_after, bytes_after, List.length_append]
  split <;> omega

end Read

/-- Reads up to the next line feed; `shutdown` tells whether a shutdown was requested before. -/
def readLine (shutdown : Bool) : Source → Read
  | [] => ⟨[], .exhausted, shutdown, []⟩
  | .data bytes :: rest =>
    match bytes.dropWhile (· != lineFeed) with
    | _ :: left => ⟨bytes.takeWhile (· != lineFeed), .lineFeed, shutdown, .data left :: rest⟩
    | [] => (readLine shutdown rest).after bytes
  | .pending :: rest =>
    if shutdown then ⟨[], .interrupted, shutdown, rest⟩ else readLine shutdown rest
  | .shutdown :: rest => readLine true rest
  | .failure fault :: rest =>
    if fault.isRetried then readLine shutdown rest else ⟨[], .failed fault, shutdown, rest⟩

/-- The number of bytes that may still arrive. -/
def size : Source → Nat
  | [] => 0
  | .data bytes :: rest => bytes.length + size rest
  | _ :: rest => size rest

/-- What was read and what is left are no more than what there was. -/
theorem size_rest_le (shutdown : Bool) (source : Source) :
    (source.readLine shutdown).size + size (source.readLine shutdown).rest ≤ size source := by
  fun_induction readLine shutdown source with
  | case1 => simp [Read.size, size]
  | case2 shutdown bytes later byte left hdrop =>
    have h := congrArg List.length (List.takeWhile_append_dropWhile (p := (· != lineFeed)) (l := bytes))
    rw [hdrop, List.length_append, List.length_cons] at h
    simp only [Read.size, size]
    omega
  | case3 shutdown bytes later hdrop ih =>
    simp only [Read.size_after, Read.rest_after, size]
    omega
  | case4 => simp [Read.size, size]
  | case5 shutdown later _ ih => simpa only [size] using ih
  | case6 shutdown later ih => simpa only [size] using ih
  | case7 shutdown fault later _ ih => simpa only [size] using ih
  | case8 => simp [Read.size, size]

end Source

end CheckpointMonitor
