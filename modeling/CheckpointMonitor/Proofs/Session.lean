/-
CheckpointMonitor/Proofs/Session.lean

Sessions: what can happen to a monitor over its whole life.  A session is any row
of calls, each of which shows the monitor a marker or a line or has it watch a
stream, with any source and sink and with or without a shutdown requested before.
Calls go on after failures, interruptions and violations like after anything else.

Since a watch only shows lines (`Watch.monitor_run`), a session is a row of acts
(`callAll_eq_actAll`), and every monitor that is reached is consistent and has
counted its lines (`reached_consistent`).
-/
import CheckpointMonitor.Proofs.Watch.Run

namespace CheckpointMonitor

/-- A call that is made of a monitor. -/
inductive Call where
  /-- It is shown a marker. -/
  | observe (marker : Marker)
  /-- It is shown a line with its number. -/
  | readLine (line : String) (number : Nat)
  /-- It watches a stream. -/
  | watch (source : Source) (sink : Sink) (shutdown : Bool)

namespace Monitor

/-- The monitor after a call. -/
def call (m : Monitor) : Call → Monitor
  | .observe k => (m.observe k).2
  | .readLine line number => (m.readLine line number).monitor
  | .watch source sink shutdown =>
    (Watch.run { monitor := m, source, sink, shutdown }).watch.monitor

/-- The monitor after a session. -/
def callAll (m : Monitor) (calls : List Call) : Monitor :=
  calls.foldl call m

/-- What a call does to the monitor, act by act. -/
def actsOfCall (m : Monitor) : Call → List Act
  | .observe k => [.observe k]
  | .readLine line number => [.readLine line number]
  | .watch source sink shutdown => Watch.acts { monitor := m, source, sink, shutdown }

/-- What a session does to the monitor, act by act. -/
def actsOf (m : Monitor) : List Call → List Act
  | [] => []
  | c :: calls => m.actsOfCall c ++ (m.call c).actsOf calls

theorem call_eq_actAll (m : Monitor) (c : Call) : m.call c = m.actAll (m.actsOfCall c) := by
  cases c with
  | observe k => rfl
  | readLine line number => rfl
  | watch source sink shutdown => exact Watch.monitor_run _

theorem callAll_eq_actAll (m : Monitor) (calls : List Call) :
    m.callAll calls = m.actAll (m.actsOf calls) := by
  induction calls generalizing m with
  | nil => rfl
  | cons c calls ih =>
    rw [actsOf, actAll_append, ← call_eq_actAll]
    exact ih (m.call c)

/-- **Every monitor that is reached is consistent.**  After any session its counters and its phase
hang together, a recorded violation is about its phase, and it has counted the lines that it
was shown, directly or by a watch, before it halted. -/
theorem reached_consistent (calls : List Call) :
    Consistent (callAll {} calls) ∧
      (callAll {} calls).linesSeen = linesCounted {} (actsOf {} calls) := by
  rw [callAll_eq_actAll]
  refine ⟨actAll_preserves Consistent.act consistent_new _, ?_⟩
  rw [linesSeen_actAll]
  exact Nat.zero_add _

/-- The counters of a monitor fit into 64 bits as long as fewer markers and lines are shown. -/
theorem reached_counters_lt (calls : List Call)
    (h : ((actsOf {} calls).flatMap Act.markers).length + (actsOf {} calls).length < UInt64.size) :
    (callAll {} calls).tally.recoveriesTriggered < UInt64.size ∧
      (callAll {} calls).tally.persistsQueued < UInt64.size ∧
      (callAll {} calls).cyclesCompleted < UInt64.size ∧ (callAll {} calls).linesSeen < UInt64.size := by
  have hconsistent := actAll_preserves Consistent.act consistent_new (actsOf {} calls)
  have hrecoveries := recoveries_actAll_le {} (actsOf {} calls)
  have hlines : (actAll {} (actsOf {} calls)).linesSeen ≤ (actsOf {} calls).length := by
    rw [linesSeen_actAll, Nat.zero_add]
    exact History.count_le_length _ _
  rw [Nat.zero_add] at hrecoveries
  have hmerged := hconsistent.merged_le_recoveries
  have hcycles := hconsistent.cycles_le_recoveries
  rw [callAll_eq_actAll]
  refine ⟨?_, ?_, ?_, ?_⟩ <;> omega

end Monitor

end CheckpointMonitor
