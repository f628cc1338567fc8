/-
CheckpointMonitor/Protocol/Phase.lean

The phases of a checkpoint and how each of them answers a marker:

    phase            marker              answer
    idle             persist triggered   on to triggered
    triggered        persist queued      on to queued
    triggered        buffer cleared      on to buffer cleared
    queued           buffer cleared      on to buffer cleared
    buffer cleared   restore finished    on to idle
    queued           persist triggered   a duplicate, passed over

Every other pair is refused.
-/
import CheckpointMonitor.Protocol.Marker

namespace CheckpointMonitor

/-- Where a program stands in the making of a checkpoint. -/
inductive Phase where
  /-- No checkpoint is being made. -/
  | idle
  /-- A checkpoint was asked for and is being made. -/
  | triggered
  /-- A further request was merged into the one that is being made. -/
  | queued
  /-- The checkpoint is written and its buffer given back. -/
  | bufferCleared
  deriving DecidableEq

namespace Phase

/-- The phase's name in diagnostics. -/
def name : Phase → String
  | idle => "idle"
  | triggered => "triggered"
  | queued => "queued"
  | bufferCleared => "buffer-cleared"

/-- What a phase makes of a marker. -/
inductive Answer where
  /-- The protocol moves on to a further phase. -/
  | advance (next : Phase)
  /-- The marker says nothing new and is passed over. -/
  | ignore
  /-- The marker may not come in this phase. -/
  | refuse
  deriving DecidableEq

/-- The table above. -/
def answer : Phase → Marker → Answer
  | idle, .persistTriggered => .advance triggered
  | triggered, .persistQueued => .advance queued
  | triggered, .bufferCleared => .advance bufferCleared
  | queued, .bufferCleared => .advance bufferCleared
  | bufferCleared, .restoreFinished => .advance idle
  | queued, .persistTriggered => .ignore
  | _, _ => .refuse

end Phase

end CheckpointMonitor
