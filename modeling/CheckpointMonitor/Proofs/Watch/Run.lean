/-
CheckpointMonitor/Proofs/Watch/Run.lean

What a run of a watch does to its monitor.  The fetching of a line reads, writes and
flushes, and leaves the monitor alone (`monitor_of_fetch`); the monitor is only ever
shown the fetched lines, one after another.  `acts` lists these showings, and
`monitor_run` says that a run does nothing else to its monitor, however it ends.

`run_of_next` and `run_of_stop` unfold a run by one step; nothing else opens it.
-/
import CheckpointMonitor.Watch
import CheckpointMonitor.Proofs.Monitor.Act

namespace CheckpointMonitor.Watch

variable {w w' : Watch} {bytes line : List UInt8} {stop : Stop}

/-! ### A step -/

/-- The watch that a fetching leaves. -/
def Fetched.watch : Fetched → Watch
  | .line _ w => w
  | .stop _ w => w

/-- The watch that a step leaves. -/
def Step.watch : Step → Watch
  | .next w => w
  | .stop _ w => w

theorem monitor_passOn (w : Watch) (line : List UInt8) :
    (w.passOn line).watch.monitor = w.monitor := by
  rw [passOn]
  split <;> rfl

/-- Whatever comes of the fetching of a line, the monitor has no part in it. -/
theorem monitor_fetch (w : Watch) : w.fetch.watch.monitor = w.monitor := by
  rw [fetch]
  split
  · rfl
  · dsimp only
    split
    · exact monitor_passOn _ _
    · split
      · rfl
      · exact monitor_passOn _ _
    · rfl
    · rfl

theorem monitor_of_fetch_line (h : w.fetch = .line bytes w') : w'.monitor = w.monitor := by
  rw [← monitor_fetch w, h, Fetched.watch]

theorem monitor_of_fetch_stop (h : w.fetch = .stop stop w') : w'.monitor = w.monitor := by
  rw [← monitor_fetch w, h, Fetched.watch]

/-- However the showing of a line ends, the watch left has the monitor that read the line. -/
theorem watch_interpret (w : Watch) (line : List UInt8) :
    (w.interpret line).watch
      = w.record (w.monitor.readLine (Utf8.decodeLossy line) w.lines) := by
  rw [interpret]
  split <;> rfl

theorem step_of_line (h : w.fetch = .line bytes w') : w.step = w'.interpret bytes := by
  rw [step, h]

theorem step_of_stop (h : w.fetch = .stop stop w') : w.step = .stop stop w' := by
  rw [step, h]

/-! ### A run -/

theorem run_of_next (h : w.step = .next w') : w.run = w'.run := by
  rw [run]
  split
  · next h' => rw [Step.next.inj (h.symm.trans h')]
  · next h' => cases h.symm.trans h'

theorem run_of_stop (h : w.step = .stop stop w') : w.run = ⟨stop, w'⟩ := by
  rw [run]
  split
  · next h' => cases h.symm.trans h'
  · next h' =>
    obtain ⟨rfl, rfl⟩ := Step.stop.inj (h.symm.trans h')
    rfl

/-! ### The lines that reach the monitor -/

/-- The lines that a run shows to its monitor, with their numbers. -/
def acts (w : Watch) : List Monitor.Act :=
  match _hfetch : w.fetch with
  | .stop _ _ => []
  | .line bytes w' =>
    .readLine (Utf8.decodeLossy bytes) w'.lines ::
      match _hnext : w'.interpret bytes with
      | .next w'' => w''.acts
      | .stop _ _ => []
termination_by Source.size w.source
decreasing_by
  rw [source_of_interpret _hnext]
  exact size_lt_of_fetch _hfetch

/-- **A run does nothing to its monitor but show it lines.** -/
theorem monitor_run (w : Watch) : w.run.watch.monitor = w.monitor.actAll w.acts := by
  fun_induction acts w with
  | case1 w stop w' hfetch =>
    rw [run_of_stop (step_of_stop hfetch), Monitor.actAll_nil]
    exact monitor_of_fetch_stop hfetch
  | case2 w bytes w' hfetch ih =>
    -- the line is shown to the monitor as it was before the fetching
    have hread : (w'.interpret bytes).watch.monitor
        = (w'.monitor.readLine (Utf8.decodeLossy bytes) w'.lines).monitor := by
      rw [watch_interpret]
      rfl
    rw [Monitor.actAll_cons, Monitor.act, ← monitor_of_fetch_line hfetch]
    split
    · next w'' hnext =>
      rw [hnext] at hread
      rw [run_of_next ((step_of_line hfetch).trans hnext), ih w'' hnext]
      exact congrArg (fun m : Monitor => m.actAll w''.acts) hread
    · next stop w'' hstop =>
      rw [hstop] at hread
      rw [run_of_stop ((step_of_line hfetch).trans hstop)]
      exact hread

end CheckpointMonitor.Watch
