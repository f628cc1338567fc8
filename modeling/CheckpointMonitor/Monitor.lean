/-
CheckpointMonitor/Monitor.lean

The monitor follows the protocol through the markers that it is shown.  An
accepted marker moves it on or is passed over; a refused one is recorded as a
violation, and from then on nothing is accepted and nothing changes.

A line is read as the markers that it carries, in their fixed order.  The reading
stops at the first refusal, and also after a marker that was passed over; what
was accepted before a refusal on the same line stays accepted.
-/
import CheckpointMonitor.Protocol.Violation
import CheckpointMonitor.Tally

namespace CheckpointMonitor

/-- What an accepted marker did. -/
inductive Transition where
  /-- The protocol moved on. -/
  | advanced (marker : Marker) (before after : Phase)
  /-- The marker was passed over. -/
  | ignored (marker : Marker) (phase : Phase)
  deriving DecidableEq

namespace Transition

/-- The accepted marker. -/
def marker : Transition → Marker
  | advanced marker _ _ => marker
  | ignored marker _ => marker

/-- Whether the marker was passed over. -/
def isIgnored : Transition → Bool
  | advanced .. => false
  | ignored .. => true

end Transition

/-- Why a marker or a line is not accepted. -/
inductive Refusal where
  /-- The marker may not come in the current phase. -/
  | violation (violation : Violation)
  /-- A violation was recorded before. -/
  | halted
  deriving DecidableEq

/-- How far the protocol has come, and what was counted on the way. -/
structure Monitor where
  phase : Phase := .idle
  tally : Tally := {}
  /-- How often the protocol came back to idle. -/
  cyclesCompleted : Nat := 0
  /-- How many lines were read before the monitor halted. -/
  linesSeen : Nat := 0
  /-- The violation that halted the monitor. -/
  violation : Option Violation := none
  deriving DecidableEq

namespace Monitor

/-- Whether a violation has been recorded. -/
def isHalted (m : Monitor) : Bool :=
  m.violation.isSome

/-- The monitor after the protocol moved on to a phase. -/
def enter (m : Monitor) (phase : Phase) : Monitor :=
  { m with
    phase
    tally := m.tally.enter phase
    cyclesCompleted := if phase = .idle then m.cyclesCompleted + 1 else m.cyclesCompleted }

/-- The monitor after it recorded a violation. -/
def halt (m : Monitor) (v : Violation) : Monitor :=
  { m with violation := some v }

/-- Shows the monitor a marker, which came on the given line if there is one. -/
def observeAt (line : Option Nat) (m : Monitor) (marker : Marker) :
    Except Refusal Transition × Monitor :=
  if m.isHalted then (.error .halted, m)
  else match m.phase.answer marker with
    | .advance next => (.ok (.advanced marker m.phase next), m.enter next)
    | .ignore => (.ok (.ignored marker m.phase), m)
    | .refuse =>
      let v : Violation := ⟨marker, m.phase, line⟩
      (.error (.violation v), m.halt v)

/-- Shows the monitor a marker that came on no line. -/
def observe (m : Monitor) (marker : Marker) : Except Refusal Transition × Monitor :=
  observeAt none m marker

/-- What the reading of a line came to. -/
structure Reading where
  /-- What the accepted markers did, in order. -/
  accepted : List Transition
  /-- Why the reading stopped short, if it did. -/
  refusal : Option Refusal
  /-- The monitor afterwards. -/
  monitor : Monitor

namespace Reading

/-- The reading of a line on which a transition came first. -/
def after (transition : Transition) (reading : Reading) : Reading :=
  { reading with accepted := transition :: reading.accepted }

/-- The transitions of a line that was accepted as a whole, or the refusal. -/
def result (reading : Reading) : Except Refusal (List Transition) :=
  match reading.refusal with
  | none => .ok reading.accepted
  | some refusal => .error refusal

/-- Whether the last accepted marker of a line was passed over. -/
def endsOnDuplicate (transitions : List Transition) : Bool :=
  transitions.getLast?.any Transition.isIgnored

end Reading

/-- Shows the monitor the markers of a line, up to the first that is refused or passed over. -/
def readMarkers (line : Option Nat) (m : Monitor) : List Marker → Reading
  | [] => ⟨[], none, m⟩
  | marker :: rest =>
    match observeAt line m marker with
    | (.error refusal, m') => ⟨[], some refusal, m'⟩
    | (.ok transition, m') =>
      if transition.isIgnored then ⟨[transition], none, m'⟩
      else (readMarkers line m' rest).after transition

/-- Reads a line with its number; a halted monitor does not even count it. -/
def readLine (m : Monitor) (line : String) (number : Nat) : Reading :=
  if m.isHalted then ⟨[], some .halted, m⟩
  else readMarkers (some number) { m with linesSeen := m.linesSeen + 1 } (Marker.carriedBy line)

end Monitor

end CheckpointMonitor
