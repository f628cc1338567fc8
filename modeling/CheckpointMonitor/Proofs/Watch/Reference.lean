/-
CheckpointMonitor/Proofs/Watch/Reference.lean

What a run comes to when nothing disturbs it: no failing read, no full or failing sink,
and no request to shut down.

It is enough that nothing stands in the way of the lines that the monitor will read
(`Unhindered`); what would fail after a refused one does not matter.  A step then passes
one of these lines on (`step_of_unhindered`), and passing composes (`Passed.trans`);
so a whole run passes them all on, the refused one included, and ends as the reading of
them does (`run_of_unhindered`, by induction on the lines that are left).
-/
import CheckpointMonitor.Proofs.Watch.Passage

namespace CheckpointMonitor.Watch

variable {w w' v : Watch}

/-! ### Unhindered watches -/

/-- A watch whose run nothing cuts short: every line of its source can be read, the lines that its
monitor will read can be echoed, and no shutdown is requested as long as there is more to do. -/
structure Unhindered (w : Watch) : Prop where
  source : w.source.Steady
  shutdown : w.shutdown = false
  sink : w.sink.Admits (Text.unlines ((Text.lines w.source.bytes).take w.course.count)) w.course.count
  last : w.course.refusal = none → w.sink.shutdownFlush ≠ some (w.sink.flushes + w.course.count)

/-- The course of a watch that goes on is that of the next one, with one more line before. -/
theorem course_of_next (h : w.step = .next v) : w.course = v.course.next := by
  obtain ⟨line, w', hfetch, hnext⟩ := exists_of_next h
  obtain ⟨haccepted, rfl⟩ := accepted_of_interpret hnext
  have hnumber : w'.lines = w.lines + 1 := (passed_of_fetch hfetch).count
  rw [course, lines_of_fetch hfetch, ← monitor_of_fetch_line hfetch, ← hnumber, List.map_cons,
    Monitor.readLines_of_accepted haccepted]
  rfl

/-- An unhindered watch that goes on stays so: its monitor has one line less to read, and its sink one
line less to admit. -/
theorem Unhindered.next (h : w.Unhindered) (hstep : w.step = .next v) : v.Unhindered := by
  obtain ⟨line, w', hfetch, hnext⟩ := exists_of_next hstep
  obtain ⟨-, hshutdown, hrest⟩ := Source.readLine_of_steady h.source
  have hcourse := course_of_next hstep
  have hsink : v.sink = w.sink.after (line ++ [lineFeed]) 1 := by
    rw [(accepted_of_interpret hnext).2]
    exact (sink_of_fetch hfetch :)
  have hadmits := h.sink
  rw [lines_of_fetch hfetch, ← source_of_interpret hnext, hcourse, Monitor.Course.next,
    List.take_succ_cons, Text.unlines_cons, List.append_cons] at hadmits
  have hlast : v.course.refusal = none →
      w.sink.shutdownFlush ≠ some (w.sink.flushes + (v.course.count + 1)) := by
    have hlast := h.last
    rwa [hcourse] at hlast
  refine ⟨?_, ?_, ?_, ?_⟩
  · rw [source_of_next hstep]
    exact hrest
  · -- a request in the flush of this line would have to be one in the last flush
    have hquiet : v.course.count = 0 → w.sink.shutdownFlush ≠ some (w.sink.flushes + 1) := by
      intro hcount
      have hnil := Monitor.count_readLines_eq_zero_iff.mp hcount
      have hnone : v.course.refusal = none := by rw [course, hnil, Monitor.readLines_nil]
      have hlast := hlast hnone
      rwa [hcount] at hlast
    rw [shutdown_of_next hstep, hshutdown, hsink, hadmits.requestsShutdown hquiet]
    rfl
  · rw [hsink]
    exact hadmits.right
  · intro hnone
    rw [hsink, Sink.flushes_after, Nat.add_assoc, Nat.add_comm 1]
    exact hlast hnone

/-- **What an unhindered watch can do.**  It ends with its stream, or passes on the first of the
lines that are left, and then goes on unhindered or ends as the line is refused. -/
theorem step_of_unhindered (h : w.Unhindered) :
    (Text.lines w.source.bytes = [] ∧
      ∃ v, w.step = .stop (.ended .endOfStream) v ∧ v.monitor = w.monitor ∧ Passed w v []) ∨
    ∃ line v, Passed w v [line] ∧ Text.lines w.source.bytes = line :: Text.lines v.source.bytes ∧
      ((w.step = .next v ∧ v.Unhindered) ∨
        ∃ refusal, w.step = .stop (.ofRefusal refusal) v ∧
          w.course = ⟨v.monitor, 1, some refusal⟩) := by
  rcases Source.spent_or_complete h.source with ⟨hnil, hend, hbytes⟩ | hread
  · -- nothing is left
    left
    exact ⟨by rw [hnil, Text.lines_nil], step_of_spent h.shutdown hend hbytes⟩
  right
  have hlines := Source.lines_of_complete hread
  -- the line is among those that the monitor will read, so it is echoed
  obtain ⟨count, hcount⟩ : ∃ count, w.course.count = count + 1 := by
    apply Nat.exists_eq_succ_of_ne_zero
    rw [course, Ne, Monitor.count_readLines_eq_zero_iff, hlines]
    exact List.cons_ne_nil _ _
  have hsink := h.sink
  rw [hlines, hcount, List.take_succ_cons, Text.unlines_cons, List.append_cons] at hsink
  have hfetch := (fetch_of_complete h.shutdown hread).trans (passOn_of_ok (echo_of_admits hsink.left))
  generalize w.ahead.echoed _ = w' at hfetch
  have hpassed := passed_of_fetch hfetch
  have hleft := lines_of_fetch hfetch
  refine ⟨_, w'.record (w'.monitor.readLine (Utf8.decodeLossy (w.source.readLine false).bytes) w'.lines),
    hpassed.record _, hleft, ?_⟩
  rcases hrefusal : (w'.monitor.readLine (Utf8.decodeLossy (w.source.readLine false).bytes) w'.lines).refusal
    with - | refusal
  · -- accepted, with one line less to be read
    left
    have hstep := (step_of_line hfetch).trans (interpret_of_accepted hrefusal)
    exact ⟨hstep, h.next hstep⟩
  · right
    have hnumber : w'.lines = w.lines + 1 := hpassed.count
    refine ⟨refusal, (step_of_line hfetch).trans (interpret_of_refused hrefusal), ?_⟩
    rw [course, hleft, ← monitor_of_fetch_line hfetch, ← hnumber, List.map_cons,
      Monitor.readLines_of_refused hrefusal]
    rfl

/-! ### The whole run -/

/-- How a watch ends on a course of lines. -/
def Stop.ofCourse (course : Monitor.Course) : Stop :=
  match course.refusal with
  | none => .ended .endOfStream
  | some refusal => .ofRefusal refusal

/-- **An unhindered run passes on the lines that its monitor reads,** a refused one included, and
ends as the reading of them does. -/
theorem run_of_unhindered (h : w.Unhindered) :
    w.run.stop = .ofCourse w.course ∧ w.run.watch.monitor = w.course.monitor ∧
      Passed w w.run.watch ((Text.lines w.source.bytes).take w.course.count) := by
  induction hlines : Text.lines w.source.bytes generalizing w with
  | nil =>
    rcases step_of_unhindered h with ⟨-, v, hstep, hmonitor, hpassed⟩ | ⟨line, v, -, hl, -⟩
    · rw [run_of_stop hstep, course, hlines]
      exact ⟨rfl, hmonitor, hpassed⟩
    · cases hlines.symm.trans hl
  | cons line later ih =>
    rcases step_of_unhindered h with ⟨hl, -⟩ | ⟨line', v, hpassed, hl, ⟨hstep, hv⟩ | ⟨refusal, hstep, hcourse⟩⟩
    · cases hlines.symm.trans hl
    · -- the run goes on with the lines after this one
      obtain ⟨rfl, hlater⟩ := List.cons.inj (hlines.symm.trans hl)
      obtain ⟨hstop, hmonitor, hrun⟩ := ih hv hlater.symm
      rw [run_of_next hstep, course_of_next hstep]
      exact ⟨hstop, hmonitor, hpassed.trans hrun⟩
    · -- the run ends on this line
      obtain ⟨rfl, -⟩ := List.cons.inj (hlines.symm.trans hl)
      rw [run_of_stop hstep, hcourse]
      exact ⟨rfl, rfl, hpassed⟩

/-- A watch on which nothing fails and no shutdown is requested. -/
structure Undisturbed (w : Watch) : Prop where
  source : w.source.Steady
  sink : w.sink.Boundless
  shutdown : w.shutdown = false

theorem Undisturbed.unhindered (h : w.Undisturbed) : w.Unhindered where
  source := h.source
  shutdown := h.shutdown
  sink := h.sink.admits _ _
  last _ := by
    rw [h.sink.shutdownFlush]
    exact (Option.some_ne_none _).symm

/-- **An undisturbed run passes on the lines that its monitor reads.** -/
theorem run_of_undisturbed (h : w.Undisturbed) :
    w.run.stop = .ofCourse w.course ∧ w.run.watch.monitor = w.course.monitor ∧
      Passed w w.run.watch ((Text.lines w.source.bytes).take w.course.count) :=
  run_of_unhindered h.unhindered

/-! ### The reference -/

/-- A watch that passed on every line has left nothing to be read. -/
theorem Echoes.bytes_eq_nil (h : Echoes w w' (Text.unlines (Text.lines w.source.bytes))) :
    w'.source.bytes = [] := by
  obtain ⟨used, hbytes, -, hecho | ⟨-, -, hnil⟩⟩ := h
  · have hlength := congrArg List.length hecho
    rw [Text.unlines_lines] at hlength
    have hle : w.source.bytes.length ≤ used.length := by
      split at hlength
      · omega
      · rw [List.length_append] at hlength
        omega
    rw [hbytes, List.length_append] at hle
    exact List.length_eq_zero_iff.mp (by omega)
  · exact hnil

/-- The outcome of a run whose monitor halts on what it refuses. -/
theorem outcome?_of_course {finished : Finished} {course : Monitor.Course}
    (hrefusal : course.refusal = course.monitor.violation.map .violation)
    (hstop : finished.stop = .ofCourse course) (hmonitor : finished.watch.monitor = course.monitor) :
    ∃ termination,
      finished.outcome? = some
        ⟨course.monitor.tally, course.monitor.phase, finished.watch.lines, termination⟩ ∧
      (course.refusal = none ∧ termination = .endOfStream ∨
        ∃ v, course.refusal = some (.violation v) ∧ termination = .violation v) := by
  rw [Finished.outcome?, hstop, Stop.ofCourse, hmonitor]
  rcases hv : course.monitor.violation with - | v
  · rw [hv, Option.map_none] at hrefusal
    rw [hrefusal]
    exact ⟨_, rfl, Or.inl ⟨rfl, rfl⟩⟩
  · rw [hv, Option.map_some] at hrefusal
    rw [hrefusal]
    exact ⟨_, rfl, Or.inr ⟨v, rfl, rfl⟩⟩

/-- **A run is the reading of the lines of its source.**

Let a monitor that has not halted watch over a source on which no read fails, into a sink that takes
all it is given, and let no shutdown be requested.  Then the run comes to what the reading of the
source's lines comes to, one after another with their numbers up to the first violation: the
monitor, the outcome, and as many lines echoed and flushes made as lines were read.

The echo consists of the lines that were read, each with a line feed.  It is what was taken from
the source, byte for byte; only if the source ends amid the last of them does the echo have a
line feed more. -/
theorem run_reads_lines {m : Monitor} {source : Source} {sink : Sink} (hm : m.isHalted = false)
    (hsource : source.Steady) (hsink : sink.Boundless) :
    let finished := run { monitor := m, source, sink }
    let lines := Text.lines source.bytes
    let course := m.readLines 1 (lines.map Utf8.decodeLossy)
    let echoed := Text.unlines (lines.take course.count)
    (∃ termination,
      finished.outcome? = some ⟨course.monitor.tally, course.monitor.phase, course.count, termination⟩ ∧
      (course.refusal = none ∧ termination = .endOfStream ∨
        ∃ v, course.refusal = some (.violation v) ∧ termination = .violation v)) ∧
    finished.watch.monitor = course.monitor ∧
    finished.watch.sink.taken = sink.taken ++ echoed ∧
    finished.watch.sink.flushes = sink.flushes + course.count ∧
    (∃ used, source.bytes = used ++ finished.watch.source.bytes ∧
      finished.watch.consumed = used.length ∧
      (echoed = used ∨
        echoed = used ++ [lineFeed] ∧ used ≠ [] ∧ finished.watch.source.bytes = [])) ∧
    (course.refusal = none →
      course.count = lines.length ∧ finished.watch.source.bytes = [] ∧
      echoed = if Text.Closed source.bytes then source.bytes else source.bytes ++ [lineFeed]) := by
  intro finished lines course echoed
  have hw : Undisturbed { monitor := m, source, sink } := ⟨hsource, hsink, rfl⟩
  obtain ⟨hstop, hmonitor, hpassed⟩ := run_of_undisturbed hw
  have hread : (lines.take course.count).length = course.count := by
    apply List.length_take_of_le
    rw [← List.length_map Utf8.decodeLossy]
    exact Monitor.count_readLines_le m 1 _
  have hlines : finished.watch.lines = course.count := by
    rw [← hread, ← Nat.zero_add (lines.take course.count).length]
    exact hpassed.count
  have hsink' : finished.watch.sink = sink.after echoed course.count := by
    rw [← hread]
    exact hpassed.sink
  obtain ⟨used, hbytes, hconsumed, hecho⟩ := hpassed.echoes
  refine ⟨?_, hmonitor, ?_, ?_, ⟨used, hbytes, ?_, hecho⟩, ?_⟩
  · rw [← hlines]
    exact outcome?_of_course (Monitor.refusal_readLines hm 1 _) hstop hmonitor
  · rw [hsink']
    rfl
  · rw [hsink']
    rfl
  · rw [← Nat.zero_add used.length]
    exact hconsumed
  · -- all lines are accepted, so they are all passed on
    intro haccepted
    have hall : lines.take course.count = lines := by
      apply List.take_of_length_le
      rw [← List.length_map Utf8.decodeLossy]
      exact Nat.le_of_eq (Monitor.count_of_accepted haccepted).symm
    refine ⟨?_, ?_, ?_⟩
    · rw [← hread, hall]
    · refine Echoes.bytes_eq_nil (w := { monitor := m, source, sink }) ?_
      have hechoes : Echoes _ finished.watch echoed := hpassed.echoes
      rwa [show echoed = Text.unlines lines from congrArg Text.unlines hall] at hechoes
    · rw [show echoed = Text.unlines lines from congrArg Text.unlines hall]
      exact Text.unlines_lines source.bytes

/-- A line that is not well-formed, and a violation on a last line that is left open. -/
theorem outcome_of_violation_amid_line :
    let source : Source :=
      [.data [0xFF, 0x0D, 0x0A, 0x72, 0x65, 0x73], .failure ⟨.interrupted, none⟩, .pending,
        .data [0x74, 0x6F, 0x72, 0x65, 0x20, 0x66, 0x69, 0x6E, 0x69, 0x73, 0x68, 0x65, 0x64]]
    let sink : Sink := { perWrite := some 1 }
    let finished := run { source, sink }
    Monitor.isHalted {} = false ∧ source.Steady ∧ sink.Boundless ∧
      finished.watch.sink.taken = (source.bytes ++ [lineFeed]).toArray ∧
      finished.watch.sink.flushes = 2 ∧
      finished.watch.monitor.violation = some ⟨.restoreFinished, .idle, some 2⟩ := by
  intro source sink finished
  have hsteady : source.Steady := by decide
  have hboundless : sink.Boundless := ⟨by decide, rfl, rfl, rfl⟩
  obtain ⟨-, hmonitor, htaken, hflushes, -⟩ := run_reads_lines (m := {}) rfl hsteady hboundless
  refine ⟨rfl, hsteady, hboundless, htaken.trans ?_, hflushes.trans ?_, ?_⟩
  · decide
  · decide
  · exact (congrArg Monitor.violation hmonitor).trans (by decide)

end CheckpointMonitor.Watch
