/-
CheckpointMonitor/Protocol/Marker.lean

The four phrases by which a program announces the steps of a checkpoint.  A
phrase may stand anywhere in a line, and one line may carry several of them; a
line is then read as the markers it carries, in their fixed order and each at
most once, wherever and however often they stand in it.
-/
import CheckpointMonitor.Text.Occurrence

namespace CheckpointMonitor

/-- A step of a checkpoint, as it is announced in the log. -/
inductive Marker where
  /-- A checkpoint was asked for. -/
  | persistTriggered
  /-- A further request was merged into the running checkpoint. -/
  | persistQueued
  /-- The staging buffer was given back. -/
  | bufferCleared
  /-- The program runs again from the checkpoint. -/
  | restoreFinished
  deriving DecidableEq

namespace Marker

/-- The markers in the order in which a line that carries several is read. -/
def all : List Marker := [persistTriggered, persistQueued, bufferCleared, restoreFinished]

/-- The phrase that announces the step. -/
def phrase : Marker → String
  | persistTriggered => "persist was triggered"
  | persistQueued => "persist was queued! persist now..."
  | bufferCleared => "finished clearing buffer"
  | restoreFinished => "restore finished"

/-- The marker's name in diagnostics. -/
def name : Marker → String
  | persistTriggered => "persist-triggered"
  | persistQueued => "persist-queued"
  | bufferCleared => "buffer-cleared"
  | restoreFinished => "restore-finished"

/-- Whether the line carries the marker: its phrase stands in the line, letter for letter. -/
def occursIn (marker : Marker) (line : String) : Bool :=
  Text.occurs marker.phrase.toList line.toList

/-- The markers that the line carries, each once, in the order of `all`. -/
def carriedBy (line : String) : List Marker :=
  all.filter (·.occursIn line)

theorem mem_all (marker : Marker) : marker ∈ all := by
  cases marker <;> simp [all]

@[simp] theorem mem_carriedBy {marker : Marker} {line : String} :
    marker ∈ carriedBy line ↔ marker.occursIn line = true := by
  simp [carriedBy, mem_all]

end Marker

end CheckpointMonitor
