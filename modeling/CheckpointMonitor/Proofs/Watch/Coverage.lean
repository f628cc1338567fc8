/-
CheckpointMonitor/Proofs/Watch/Coverage.lean

The lines that a run covered, however it ended.

A line is echoed as a whole before the monitor sees it, and nothing comes between the
two.  So unless an echo fails, the lines in the sink are the lines that the monitor has
read, and the refusal on which the run ended, if any, is that of the last of them
(`exists_covers`).  Nothing is assumed of the source, of the requests to shut down or of
the monitor; the sink may fail as long as the run does not end with that.

`failure?` is the other half of `outcome?`: a run has one of the two.
-/
import CheckpointMonitor.Failure
import CheckpointMonitor.Proofs.Watch.Passage

namespace CheckpointMonitor.Watch

variable {w v final : Watch} {line : List UInt8} {lines : List (List UInt8)} {sink : Sink} {stop : Stop}

/-! ### How a run ended -/

/-- The refusal with which a run ended, if it ended with one. -/
def Stop.refusal? : Stop → Option Refusal
  | .ended (.violation v) => some (.violation v)
  | .halted => some .halted
  | _ => none

@[simp] theorem Stop.refusal?_ofRefusal (refusal : Refusal) :
    (Stop.ofRefusal refusal).refusal? = some refusal := by
  cases refusal <;> rfl

theorem Stop.refusal?_ended (termination : Termination) :
    (Stop.ended termination).refusal? = termination.violation?.map .violation := by
  cases termination <;> rfl

/-- The failure with which a run ended, if it did not end as a watch does. -/
def Finished.failure? (finished : Finished) : Option Failure :=
  match finished.stop with
  | .ended _ => none
  | .failed fault => some (.channel fault)
  | .halted => some .halted

theorem Finished.stop_of_outcome? {finished : Finished} {outcome : Outcome}
    (h : finished.outcome? = some outcome) :
    finished.stop = .ended outcome.termination ∧
      outcome = ⟨finished.watch.monitor.tally, finished.watch.monitor.phase, finished.watch.lines,
        outcome.termination⟩ := by
  rw [outcome?] at h
  split at h
  · next hstop =>
    obtain rfl := Option.some.inj h
    exact ⟨hstop, rfl⟩
  · cases h

/-! ### Covered lines -/

/-- The run echoed the lines, no more and no less, and they are what its monitor read; a refusal
with which the run ended is that of the last of them. -/
structure Covers (w : Watch) (lines : List (List UInt8)) : Prop where
  /-- They are the first lines of the stream. -/
  first : lines <+: Text.lines w.source.bytes
  sink : w.run.watch.sink = w.sink.after (Text.unlines lines) lines.length
  count : w.run.watch.lines = w.lines + lines.length
  course : w.monitor.readLines (w.lines + 1) (lines.map Utf8.decodeLossy)
    = ⟨w.run.watch.monitor, lines.length, w.run.stop.refusal?⟩

theorem Covers.taken (h : w.Covers lines) :
    w.run.watch.sink.taken = w.sink.taken ++ Text.unlines lines := by
  rw [h.sink]
  rfl

theorem Covers.lineFeed_notMem (h : w.Covers lines) : ∀ line ∈ lines, lineFeed ∉ line :=
  fun _ hline => Text.lineFeed_notMem_of_mem_lines (h.first.subset hline)

/-- A sink that accepts everything takes every line. -/
theorem echo_of_accepting (h : sink.Accepting) (line : List UInt8) :
    echo sink line = .ok (sink.after (line ++ [lineFeed]) 1) := by
  rw [echo_eq h.perWrite, if_pos (Sink.fitting_of_none h.capacity _), (h.accept _).flush, Sink.after_accept]

/-- Where no line is fetched, nothing is echoed and nothing is shown, unless an echo failed. -/
theorem left_of_fetch_stop (h : v.fetch = .stop stop final)
    (hecho : (∀ fault, stop ≠ .failed fault) ∨ v.sink.Accepting) :
    final.sink = v.sink ∧ final.lines = v.lines ∧ stop.refusal? = none := by
  rcases fetch_cases v with ⟨-, hf⟩ | ⟨-, ⟨_, -, -, hf⟩ | ⟨failure, -, hfailed, hf⟩ | ⟨-, -, hf⟩ |
    ⟨-, hf⟩ | ⟨_, -, hf⟩⟩
  · obtain ⟨rfl, rfl⟩ := Fetched.stop.inj (hf.symm.trans h)
    exact ⟨rfl, rfl, rfl⟩
  · cases hf.symm.trans h
  · -- an echo failed
    obtain ⟨rfl, -⟩ := Fetched.stop.inj (hf.symm.trans h)
    rcases hecho with hne | haccepting
    · exact absurd rfl (hne failure.fault)
    · rw [echo_of_accepting haccepting] at hfailed
      cases hfailed
  · obtain ⟨rfl, rfl⟩ := Fetched.stop.inj (hf.symm.trans h)
    exact ⟨rfl, rfl, rfl⟩
  · obtain ⟨rfl, rfl⟩ := Fetched.stop.inj (hf.symm.trans h)
    exact ⟨rfl, rfl, rfl⟩
  · obtain ⟨rfl, rfl⟩ := Fetched.stop.inj (hf.symm.trans h)
    exact ⟨rfl, rfl, rfl⟩

/-- **Every run covers some lines,** unless an echo failed. -/
theorem exists_covers (hecho : (∀ fault, w.run.stop ≠ .failed fault) ∨ w.sink.Accepting) :
    ∃ lines, w.Covers lines := by
  obtain ⟨lines, v, stop, final, hreaches, hstop, hrun⟩ := exists_reaches w
  have hpassed := hreaches.passed
  rcases stop_cases hstop with hfetch | ⟨line, v', refusal, hfetch, hrefusal, rfl, rfl⟩
  · -- the run ended between two lines
    have hecho' : (∀ fault, stop ≠ .failed fault) ∨ v.sink.Accepting := by
      apply hecho.imp
      · rw [hrun]
        exact id
      · rw [hpassed.sink]
        exact fun h => h.after _ _
    obtain ⟨hsink, hcount, hrefusal⟩ := left_of_fetch_stop hfetch hecho'
    refine ⟨lines, ⟨_, hreaches.lines_eq.symm⟩, ?_, ?_, ?_⟩
    · rw [hrun]
      exact hsink.trans hpassed.sink
    · rw [hrun]
      exact hcount.trans hpassed.count
    · rw [hrun, hrefusal, monitor_of_fetch_stop hfetch]
      exact hreaches.course_eq
  · -- the run ended on a line that was refused
    have hlast := passed_of_fetch hfetch
    have hall := (hpassed.trans hlast).record (v'.monitor.readLine (Utf8.decodeLossy line) v'.lines)
    have hnumber : v'.lines = w.lines + 1 + lines.length := by
      rw [hlast.count, hpassed.count, Nat.add_right_comm]
      rfl
    refine ⟨lines ++ [line], ⟨Text.lines v'.source.bytes, ?_⟩, ?_, ?_, ?_⟩
    · rw [hreaches.lines_eq, lines_of_fetch hfetch, List.append_assoc]
      rfl
    · rw [hrun]
      exact hall.sink
    · rw [hrun]
      exact hall.count
    · have hcourse := hreaches.course_eq
      have haccepted : (w.monitor.readLines (w.lines + 1) (lines.map Utf8.decodeLossy)).refusal = none := by
        rw [hcourse]
      rw [List.map_append, Monitor.readLines_append haccepted, hcourse, List.length_map, ← hnumber,
        ← monitor_of_fetch_line hfetch, List.map_singleton, Monitor.readLines_of_refused hrefusal, hrun,
        Stop.refusal?_ofRefusal, List.length_append]
      rfl

/-- The bytes that were taken, counted from their echo. -/
theorem Echoes.consumed_eq {w' : Watch} {echoed : List UInt8} (h : Echoes w w' echoed) :
    w'.consumed = w.consumed + min echoed.length w.source.bytes.length := by
  obtain ⟨used, hbytes, hconsumed, rfl | ⟨rfl, -, hnil⟩⟩ := h
  · rw [hconsumed, hbytes, List.length_append, Nat.min_eq_left (Nat.le_add_right _ _)]
  · -- a line that was left open is the last of the source
    rw [hconsumed, hbytes, hnil, List.append_nil, List.length_append, Nat.min_eq_right (Nat.le_add_right _ _)]

end CheckpointMonitor.Watch
