/-
CheckpointMonitor/Tally.lean

The two counters that a run is summed up in.  Both are counted on the way from
one phase to the next, and neither ever falls.
-/
import CheckpointMonitor.Protocol.Phase

namespace CheckpointMonitor

/-- What is counted over a run. -/
structure Tally where
  /-- How often a checkpoint was begun. -/
  recoveriesTriggered : Nat := 0
  /-- How often a further request was merged into the checkpoint being made. -/
  persistsQueued : Nat := 0
  deriving DecidableEq

/-- The counters after the protocol moved on to a phase. -/
def Tally.enter (tally : Tally) : Phase → Tally
  | .triggered => { tally with recoveriesTriggered := tally.recoveriesTriggered + 1 }
  | .queued => { tally with persistsQueued := tally.persistsQueued + 1 }
  | _ => tally

end CheckpointMonitor
