/-
CheckpointMonitor/Proofs/Watch/Relay.lean

Watching what was echoed.

What a run echoes is again a stream, cut into the same lines; so a run over it reads
what the first one read.  It does not matter how the first run ended, nor how its stream
arrived: the lines that it covered are written out as a whole, and whatever came after
them in the stream is not in the echo.

Lines that carry no marker may follow, as those of a report do: they are passed on and
counted if the monitor comes to them (`Covers.relay_of_accepted`), and never read if it
halted before (`Covers.relay_of_refused`).
-/
import CheckpointMonitor.Proofs.Tally.Report
import CheckpointMonitor.Proofs.Watch.Coverage
import CheckpointMonitor.Proofs.Watch.Reference

namespace CheckpointMonitor

/-- The end that the echo of a run has: a stream that was cut off ends where it was. -/
def Termination.relayed : Termination → Termination
  | .interrupted => .endOfStream
  | termination => termination

theorem Termination.relayed_eq (termination : Termination) :
    termination.relayed = (termination.violation?.map .violation).getD .endOfStream := by
  cases termination <;> rfl

namespace Watch

variable {w u : Watch} {lines : List (List UInt8)} {later : List UInt8}

/-- The second run comes to what the first one came to, with so many lines more in which nothing was
said. -/
structure Relays (first second : Finished) (more : Nat) : Prop where
  monitor : second.watch.monitor
    = { first.watch.monitor with linesSeen := first.watch.monitor.linesSeen + more }
  outcome : ∃ outcome, first.outcome? = some outcome ∧
    second.outcome? = some
      { outcome with
        linesEchoed := outcome.linesEchoed + more
        termination := outcome.termination.relayed }

/-- The course of a watch over covered lines, and more after them. -/
theorem Covers.course_relay (h : w.Covers lines) (hmonitor : u.monitor = w.monitor)
    (hcount : w.lines = 0 ∧ u.lines = 0) (hbytes : u.source.bytes = Text.unlines lines ++ later) :
    Text.lines u.source.bytes = lines ++ Text.lines later ∧
    u.course = w.monitor.readLines (w.lines + 1)
      (lines.map Utf8.decodeLossy ++ (Text.lines later).map Utf8.decodeLossy) := by
  have hlines : Text.lines u.source.bytes = lines ++ Text.lines later := by
    rw [hbytes, Text.lines_unlines_append h.lineFeed_notMem]
  refine ⟨hlines, ?_⟩
  rw [Watch.course, hlines, hmonitor, hcount.1, hcount.2, List.map_append]

/-- After a refusal nothing more is read. -/
theorem Covers.relay_of_refused (h : w.Covers lines) {refusal : Refusal}
    (hrefusal : w.run.stop.refusal? = some refusal) (hu : u.Undisturbed) (hmonitor : u.monitor = w.monitor)
    (hcount : w.lines = 0 ∧ u.lines = 0) (hbytes : u.source.bytes = Text.unlines lines ++ later) :
    u.run.stop = .ofRefusal refusal ∧ u.run.watch.monitor = w.run.watch.monitor ∧
      u.run.watch.sink.taken = u.sink.taken ++ Text.unlines lines ∧ u.run.watch.lines = w.run.watch.lines := by
  obtain ⟨hstop, hend, hpassed⟩ := run_of_undisturbed hu
  obtain ⟨hlines, hcourse⟩ := h.course_relay hmonitor hcount hbytes
  have hread := h.course
  rw [hrefusal] at hread
  -- the reading comes to the same refusal, on the same line
  have hrefused := congrArg Monitor.Course.refusal hread
  rw [Monitor.readLines_append_of_refused hrefused, hread] at hcourse
  rw [hcourse, hlines, List.take_left] at hpassed
  refine ⟨?_, ?_, ?_, ?_⟩
  · rw [hstop, hcourse]
    rfl
  · rw [hend, hcourse]
  · rw [hpassed.sink]
    rfl
  · rw [hpassed.count, h.count, hcount.1, hcount.2]

/-- Where nothing was refused, lines without markers are read to the end. -/
theorem Covers.relay_of_accepted (h : w.Covers lines) (hrefusal : w.run.stop.refusal? = none)
    (hm : w.monitor.isHalted = false) (hu : u.Undisturbed) (hmonitor : u.monitor = w.monitor)
    (hcount : w.lines = 0 ∧ u.lines = 0) (hbytes : u.source.bytes = Text.unlines lines ++ later)
    (hclosed : Text.Closed later)
    (hunmarked : ∀ line ∈ Text.lines later, Marker.carriedBy (Utf8.decodeLossy line) = []) :
    let more := (Text.lines later).length
    u.run.stop = .ended .endOfStream ∧
      u.run.watch.monitor
        = { w.run.watch.monitor with linesSeen := w.run.watch.monitor.linesSeen + more } ∧
      u.run.watch.sink.taken = u.sink.taken ++ (Text.unlines lines ++ later) ∧
      u.run.watch.lines = w.run.watch.lines + more := by
  intro more
  obtain ⟨hstop, hend, hpassed⟩ := run_of_undisturbed hu
  obtain ⟨hlines, hcourse⟩ := h.course_relay hmonitor hcount hbytes
  have hread := h.course
  rw [hrefusal] at hread
  have haccepted := congrArg Monitor.Course.refusal hread
  have hnot := Monitor.not_halted_of_readLines hm haccepted
  rw [hread] at hnot
  have htexts : ∀ text ∈ (Text.lines later).map Utf8.decodeLossy, Marker.carriedBy text = [] := by
    intro text htext
    obtain ⟨line, hline, rfl⟩ := List.mem_map.mp htext
    exact hunmarked line hline
  rw [Monitor.readLines_append haccepted, hread, Monitor.readLines_of_unmarked hnot _ htexts, List.length_map,
    List.length_map] at hcourse
  have hall : u.course.count = (Text.lines u.source.bytes).length := by
    rw [hcourse, hlines, List.length_append]
    rfl
  rw [hall, List.take_length, hlines] at hpassed
  refine ⟨?_, ?_, ?_, ?_⟩
  · rw [hstop, hcourse]
    rfl
  · rw [hend, hcourse]
    rfl
  · rw [hpassed.sink, Text.unlines_append, Text.unlines_lines later, if_pos hclosed]
    rfl
  · rw [hpassed.count, h.count, hcount.1, hcount.2, List.length_append, Nat.add_assoc]

/-- **A run over an echo relays the run that it comes from,** and lines without markers after it are
passed on unless a violation came before. -/
theorem Covers.relays (h : w.Covers lines) (hm : w.monitor.isHalted = false) {outcome : Outcome}
    (houtcome : w.run.outcome? = some outcome) (hu : u.Undisturbed) (hmonitor : u.monitor = w.monitor)
    (hcount : w.lines = 0 ∧ u.lines = 0) (hbytes : u.source.bytes = Text.unlines lines ++ later)
    (hclosed : Text.Closed later)
    (hunmarked : ∀ line ∈ Text.lines later, Marker.carriedBy (Utf8.decodeLossy line) = []) :
    match outcome.termination.violation? with
    | none =>
      Relays w.run u.run (Text.lines later).length ∧
        u.run.watch.sink.taken = u.sink.taken ++ (Text.unlines lines ++ later)
    | some _ => Relays w.run u.run 0 ∧ u.run.watch.sink.taken = u.sink.taken ++ Text.unlines lines := by
  obtain ⟨hstop, hfields⟩ := Finished.stop_of_outcome? houtcome
  have hrefusal := Stop.refusal?_ended outcome.termination
  have hrelayed := outcome.termination.relayed_eq
  rw [← hstop] at hrefusal
  rcases hend : outcome.termination.violation? with - | violation
  · rw [hend] at hrefusal hrelayed
    obtain ⟨hstop', hmonitor', htaken', hcount'⟩ :=
      h.relay_of_accepted hrefusal hm hu hmonitor hcount hbytes hclosed hunmarked
    refine ⟨⟨hmonitor', outcome, houtcome, ?_⟩, htaken'⟩
    rw [Finished.outcome?, hstop', hmonitor', hcount', hrelayed, hfields]
    rfl
  · rw [hend] at hrefusal hrelayed
    obtain ⟨hstop', hmonitor', htaken', hcount'⟩ :=
      h.relay_of_refused hrefusal hu hmonitor hcount hbytes
    refine ⟨⟨hmonitor', outcome, houtcome, ?_⟩, htaken'⟩
    rw [Finished.outcome?, hstop', hmonitor', hcount', hrelayed, hfields]
    rfl

/-- **A monitor that watches the output of another comes to the same.**

Let a run end as a watch does, whatever its stream, its sink and the requests to shut down.  A run
of the same monitor over its echo passes this echo on as it is and comes to the same
counts, the same phase and the same violation on the same line; where the first run
was interrupted, the second one ends with its stream.  The same holds with a report after the
echo, whatever its numbers and its form: no line of it carries a marker, and
it is passed on too, unless a violation came before. -/
theorem run_relays_echo {m : Monitor} {source : Source} {sink : Sink} {shutdown : Bool} {outcome : Outcome}
    (hm : m.isHalted = false)
    (houtcome : (run { monitor := m, source, sink, shutdown }).outcome? = some outcome) :
    let first := run { monitor := m, source, sink, shutdown }
    ∃ echo : List UInt8, first.watch.sink.taken = sink.taken ++ echo ∧
      (∀ (replayed : Source) (sink' : Sink), replayed.Steady → sink'.Boundless → replayed.bytes = echo →
        let second := run { monitor := m, source := replayed, sink := sink' }
        Relays first second 0 ∧ second.watch.sink.taken = sink'.taken ++ echo) ∧
      (∀ (tally : Tally) (format : Summary.Format) (replayed : Source) (sink' : Sink),
        let report := Utf8.encode (Summary.render tally format)
        (∀ line ∈ Text.lines report, Marker.carriedBy (Utf8.decodeLossy line) = []) ∧
        (replayed.Steady → sink'.Boundless → replayed.bytes = echo ++ report →
          let second := run { monitor := m, source := replayed, sink := sink' }
          match outcome.termination.violation? with
          | none =>
            Relays first second (Text.lines report).length ∧
              second.watch.sink.taken = sink'.taken ++ (echo ++ report)
          | some _ =>
            Relays first second 0 ∧ second.watch.sink.taken = sink'.taken ++ echo)) := by
  intro first
  let w : Watch := { monitor := m, source, sink, shutdown }
  have hstop := (Finished.stop_of_outcome? houtcome).1
  obtain ⟨lines, hcovers⟩ : ∃ lines, w.Covers lines := by
    apply exists_covers
    exact Or.inl fun fault hfailed => Stop.noConfusion (hstop.symm.trans hfailed)
  refine ⟨Text.unlines lines, hcovers.taken, ?_, ?_⟩
  · intro replayed sink' hreplayed hsink' hbytes second
    let u : Watch := { monitor := m, source := replayed, sink := sink' }
    have hu : u.Undisturbed := ⟨hreplayed, hsink', rfl⟩
    have hecho : u.source.bytes = Text.unlines lines ++ [] := hbytes.trans (List.append_nil _).symm
    have hrelays := hcovers.relays hm houtcome hu rfl ⟨rfl, rfl⟩ hecho (Or.inl rfl) nofun
    rw [List.append_nil] at hrelays
    rcases hend : outcome.termination.violation? with - | violation <;> rwa [hend] at hrelays
  · intro tally format replayed sink' report
    have hunmarked : ∀ line ∈ Text.lines report, Marker.carriedBy (Utf8.decodeLossy line) = [] :=
      fun _ => Summary.carriedBy_line_render tally format
    refine ⟨hunmarked, ?_⟩
    intro hreplayed hsink' hbytes second
    let u : Watch := { monitor := m, source := replayed, sink := sink' }
    exact hcovers.relays (u := u) hm houtcome ⟨hreplayed, hsink', rfl⟩ rfl ⟨rfl, rfl⟩ hbytes
      (Summary.closed_render tally format) hunmarked

/-- A stream that is interrupted amid its second line, whose echo is watched with a report after it,
and one with a violation and more after it, which is not in the echo. -/
theorem relays_of_interrupted_and_of_violation :
    let cut : Source :=
      [.data (Utf8.encode "persist was triggered\nrestore fin"), .shutdown, .pending, .data [lineFeed]]
    let broken : Source := [.data (Utf8.encode "finished clearing buffer\nx")]
    let echo := Utf8.encode "persist was triggered\n"
    let echo' := Utf8.encode "finished clearing buffer\n"
    let report := Utf8.encode (Summary.render ⟨1, 0⟩ .text)
    let outcome : Outcome := ⟨⟨1, 0⟩, .triggered, 1, .interrupted⟩
    let outcome' : Outcome := ⟨{}, .idle, 1, .violation ⟨.bufferCleared, .idle, some 1⟩⟩
    Monitor.isHalted {} = false ∧ (run { source := cut }).outcome? = some outcome ∧
      (run { source := broken }).outcome? = some outcome' ∧
      Relays (run { source := cut }) (run { source := [.data (echo ++ report)] }) 5 ∧
      (run { source := [.data (echo ++ report)] }).watch.sink.taken = (echo ++ report).toArray ∧
      Relays (run { source := broken }) (run { source := [.data echo'] }) 0 := by
  intro cut broken echo echo' report outcome outcome'
  have houtcome : (run { source := cut }).outcome? = some outcome := by decide +kernel
  have houtcome' : (run { source := broken }).outcome? = some outcome' := by decide +kernel
  have hsink : Sink.Boundless {} := ⟨by decide, rfl, rfl, rfl⟩
  obtain ⟨first, htaken, -, hrelayed⟩ := run_relays_echo (m := {}) rfl houtcome
  obtain ⟨first', htaken', hrelayed', -⟩ := run_relays_echo (m := {}) rfl houtcome'
  have hfirst : first = echo := by
    have h : (run { source := cut }).watch.sink.taken = echo.toArray := by decide +kernel
    simpa using congrArg Array.toList (htaken.symm.trans h)
  have hfirst' : first' = echo' := by
    have h : (run { source := broken }).watch.sink.taken = echo'.toArray := by decide +kernel
    simpa using congrArg Array.toList (htaken'.symm.trans h)
  rw [hfirst] at hrelayed
  rw [hfirst'] at hrelayed'
  have hbytes : Source.bytes [.data (echo ++ report)] = echo ++ report := List.append_nil _
  have hbytes' : Source.bytes [.data echo'] = echo' := List.append_nil _
  obtain ⟨hrelays, hall⟩ := (hrelayed ⟨1, 0⟩ .text [.data (echo ++ report)] {}).2 (by decide) hsink hbytes
  obtain ⟨hrelays', -⟩ := hrelayed' [.data echo'] {} (by decide) hsink hbytes'
  have hlength : (Text.lines report).length = 5 := by decide +kernel
  rw [hlength] at hrelays
  exact ⟨rfl, houtcome, houtcome', hrelays, by simpa using hall, hrelays'⟩

end Watch

end CheckpointMonitor
