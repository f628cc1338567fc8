/-
CheckpointMonitor/Watch.lean

The watch over a stream.  Line after line is read from the source, written to the
sink with a line feed after it, flushed, and only then shown to the monitor; so
a line is visible downstream before anything follows from it, and a line that
could not be passed on is not interpreted.

The watch ends with the stream, at a shutdown request, at the first violation, or
at the first failure of a read, a write or a flush.  A shutdown request is looked
at before each line, and while the reading of a line has to wait.

`run` ends because each line that is handled was taken from the source, which
holds fewer bytes afterwards (`size_lt_of_step`).
-/
import CheckpointMonitor.Channel.Source
import CheckpointMonitor.Channel.Sink
import CheckpointMonitor.Log.Record
import CheckpointMonitor.Text.Utf8

namespace CheckpointMonitor

/-- A watch under way. -/
structure Watch where
  monitor : Monitor := {}
  source : Source
  sink : Sink := {}
  /-- Whether a shutdown has been requested. -/
  shutdown : Bool := false
  /-- The lines read so far. -/
  lines : Nat := 0
  /-- The bytes taken from the source so far. -/
  consumed : Nat := 0
  log : Array Log.Record := #[]

namespace Watch

/-- How a watch comes to its end. -/
inductive Stop where
  /-- It ended as a watch does. -/
  | ended (termination : Termination)
  /-- A read, a write or a flush failed. -/
  | failed (fault : Fault)
  /-- The monitor had halted before the watch began. -/
  | halted
  deriving DecidableEq

/-- What comes of the fetching of a line: the line, read and passed on, or the end. -/
inductive Fetched where
  | line (bytes : List UInt8) (watch : Watch)
  | stop (stop : Stop) (watch : Watch)

/-- What follows on a line: more lines, or the end. -/
inductive Step where
  | next (watch : Watch)
  | stop (stop : Stop) (watch : Watch)

/-- Passes a line on: the line, a line feed, and a flush. -/
def echo (sink : Sink) (line : List UInt8) : Except Sink.Failure Sink := do
  let sink ← sink.writeAll line
  let sink ← sink.writeAll [lineFeed]
  sink.flush

/-- Counts a line that was read and passes it on. -/
def passOn (w : Watch) (line : List UInt8) : Fetched :=
  match echo w.sink line with
  | .error failure =>
    .stop (.failed failure.fault) { w with lines := w.lines + 1, sink := failure.sink }
  | .ok sink =>
    let shutdown := w.shutdown || sink.requestsShutdown
    .line line { w with lines := w.lines + 1, sink, shutdown }

/-- Ends the watch on request. -/
def interrupt (w : Watch) : Fetched :=
  .stop (.ended .interrupted) { w with log := w.log.push (.shutdownRequested w.lines) }

/-- Ends the watch with its stream. -/
def close (w : Watch) : Fetched :=
  .stop (.ended .endOfStream) { w with log := w.log.push (.sourceClosed w.lines) }

/-- The watch after a line was read from the source. -/
def take (w : Watch) (read : Source.Read) : Watch :=
  { w with source := read.rest, shutdown := read.shutdown, consumed := w.consumed + read.size }

/-- Reads a line and passes it on, or ends the watch.  A last line without a line feed is a line
like any other; an end right after a line feed is none. -/
def fetch (w : Watch) : Fetched :=
  if w.shutdown then w.interrupt
  else
    let read := w.source.readLine false
    match read.ending with
    | .lineFeed => (w.take read).passOn read.bytes
    | .exhausted =>
      if read.bytes.isEmpty then (w.take read).close else (w.take read).passOn read.bytes
    | .interrupted => (w.take read).interrupt
    | .failed fault => .stop (.failed fault) (w.take read)

/-- The watch after the current line was read by the monitor. -/
def record (w : Watch) (reading : Monitor.Reading) : Watch :=
  { w with monitor := reading.monitor, log := w.log ++ Log.Record.ofReading reading }

/-- Shows the current line to the monitor. -/
def interpret (w : Watch) (line : List UInt8) : Step :=
  let reading := w.monitor.readLine (Utf8.decodeLossy line) w.lines
  match reading.refusal with
  | none => .next (w.record reading)
  | some (.violation v) => .stop (.ended (.violation v)) (w.record reading)
  | some .halted => .stop .halted (w.record reading)

/-- Fetches a line and shows it to the monitor, or ends the watch. -/
def step (w : Watch) : Step :=
  match w.fetch with
  | .line bytes w' => w'.interpret bytes
  | .stop stop w' => .stop stop w'

@[simp] theorem source_record (w : Watch) (reading : Monitor.Reading) :
    (w.record reading).source = w.source := rfl

@[simp] theorem source_take (w : Watch) (read : Source.Read) :
    (w.take read).source = read.rest := rfl

theorem source_of_passOn {w w' : Watch} {line bytes : List UInt8}
    (h : w.passOn line = .line bytes w') : w'.source = w.source := by
  simp only [passOn] at h
  split at h
  · cases h
  · obtain ⟨-, rfl⟩ := Fetched.line.inj h
    rfl

theorem source_of_interpret {w w' : Watch} {line : List UInt8} (h : w.interpret line = .next w') :
    w'.source = w.source := by
  simp only [interpret] at h
  split at h <;> simp only [Step.next.injEq, reduceCtorEq] at h
  rw [← h, source_record]

/-- A line that was fetched leaves less to be read. -/
theorem size_lt_of_fetch {w w' : Watch} {bytes : List UInt8} (h : w.fetch = .line bytes w') :
    Source.size w'.source < Source.size w.source := by
  have hle := w.source.size_rest_le false
  simp only [fetch] at h
  split at h
  · simp [interrupt] at h
  split at h
  · next hending =>
    rw [source_of_passOn h, source_take]
    simp only [Source.Read.size, hending] at hle
    omega
  · next hending =>
    split at h
    · simp [close] at h
    next hbytes =>
    rw [source_of_passOn h, source_take]
    have : (w.source.readLine false).bytes.length ≠ 0 := by simpa using hbytes
    simp only [Source.Read.size, hending] at hle
    omega
  · simp [interrupt] at h
  · simp at h

/-- A step that goes on leaves less to be read. -/
theorem size_lt_of_step {w w' : Watch} (h : w.step = .next w') :
    Source.size w'.source < Source.size w.source := by
  simp only [step] at h
  split at h
  · next hfetch =>
    rw [source_of_interpret h]
    exact size_lt_of_fetch hfetch
  · cases h

/-- A watch that came to its end. -/
structure Finished where
  stop : Stop
  watch : Watch

/-- Goes on with the watch to its end. -/
def run (w : Watch) : Finished :=
  match _h : w.step with
  | .next w' => w'.run
  | .stop stop w' => ⟨stop, w'⟩
termination_by Source.size w.source
decreasing_by exact size_lt_of_step _h

/-- What a watch that ended well has to say. -/
structure Outcome where
  tally : Tally
  finalPhase : Phase
  linesEchoed : Nat
  termination : Termination
  deriving DecidableEq

/-- The outcome of a watch that ended as a watch does. -/
def Finished.outcome? (finished : Finished) : Option Outcome :=
  match finished.stop with
  | .ended termination =>
    some ⟨finished.watch.monitor.tally, finished.watch.monitor.phase, finished.watch.lines, termination⟩
  | _ => none

end Watch

end CheckpointMonitor
