/-
CheckpointMonitor/Proofs/Watch/Composition.lean

Runs compose.

A run keeps nothing from call to call but its monitor, and it takes nothing from its
source beyond the last line that it read.  So a stream may be cut between two lines and
watched in two runs, the second with the monitor that the first one left: together they
come to what one run comes to (`Composes`).  Only the numbers of the lines begin anew,
and with them the line that a violation names.

`PassesOver` is all that the second run has to know of the first one: the lines of
the first part were passed on, and the monitor accepted them.  It does not matter whether
the first run ended with its stream (`passesOver_of_closed`) or was stopped there by a
request to shut down (`passesOver_of_interrupted`).
-/
import CheckpointMonitor.Proofs.Monitor.Numbering
import CheckpointMonitor.Proofs.Watch.Coverage
import CheckpointMonitor.Proofs.Watch.Interruption
import CheckpointMonitor.Proofs.Watch.Reference

namespace CheckpointMonitor

/-- The same termination, with so many more lines before it. -/
def Termination.below (before : Nat) : Termination → Termination
  | .violation v => .violation (v.below before)
  | termination => termination

namespace Watch

variable {u u' w v final : Watch} {part : List UInt8}

/-- The same outcome, with so many more lines before it. -/
def Outcome.below (before : Nat) (outcome : Outcome) : Outcome :=
  { outcome with
    linesEchoed := before + outcome.linesEchoed
    termination := outcome.termination.below before }

/-! ### A part of a stream -/

/-- The run passed on the lines of the bytes, which its monitor accepted, and took no more than
these bytes from its source. -/
structure PassesOver (u : Watch) (part : List UInt8) : Prop where
  course : u.monitor.readLines (u.lines + 1) ((Text.lines part).map Utf8.decodeLossy)
    = ⟨u.run.watch.monitor, (Text.lines part).length, none⟩
  sink : u.run.watch.sink = u.sink.after part (Text.lines part).length
  count : u.run.watch.lines = u.lines + (Text.lines part).length
  consumed : u.run.watch.consumed = u.consumed + part.length

/-- An undisturbed run that meets no violation passes over all of its stream, if that leaves no line
open. -/
theorem passesOver_of_closed (hu : u.Undisturbed) (hm : u.monitor.isHalted = false)
    (hclosed : Text.Closed u.source.bytes) (h : ∀ v, u.run.stop ≠ .ended (.violation v)) :
    u.run.stop = .ended .endOfStream ∧ PassesOver u u.source.bytes := by
  obtain ⟨hstop, hmonitor, hpassed⟩ := run_of_undisturbed hu
  -- a refusal would be a violation
  have haccepted : u.course.refusal = none := by
    have hrefusal : u.course.refusal = u.course.monitor.violation.map .violation :=
      Monitor.refusal_readLines hm _ _
    rcases hv : u.course.monitor.violation with - | v
    · simpa [hv] using hrefusal
    · rw [hv, Option.map_some] at hrefusal
      rw [Stop.ofCourse, hrefusal] at hstop
      exact absurd hstop (h v)
  have hcount : u.course.count = (Text.lines u.source.bytes).length := by
    have h := Monitor.count_of_accepted haccepted
    rwa [List.length_map] at h
  rw [hcount, List.take_length] at hpassed
  have hecho : Text.unlines (Text.lines u.source.bytes) = u.source.bytes := by
    rw [Text.unlines_lines, if_pos hclosed]
  refine ⟨?_, ?_, ?_, hpassed.count, ?_⟩
  · rw [hstop, Stop.ofCourse, haccepted]
  · show u.course = _
    rw [hmonitor, ← hcount, ← haccepted]
  · rw [hpassed.sink, hecho]
  · rw [hpassed.echoes.consumed_eq, hecho, Nat.min_self]

/-- A watch that is interrupted has read some bytes of a line at most, which are lost. -/
theorem lost_of_interrupted (h : v.step = .stop (.ended .interrupted) final) :
    ∃ lost, lineFeed ∉ lost ∧ v.source.bytes = lost ++ final.source.bytes ∧
      final.consumed = v.consumed + lost.length := by
  rcases stop_cases h with hfetch | ⟨line, v', refusal, -, -, hrefusal, -⟩
  · rcases fetch_cases v with ⟨-, hf⟩ | ⟨-, ⟨_, -, -, hf⟩ | ⟨_, -, -, hf⟩ | ⟨-, -, hf⟩ | ⟨hend, hf⟩ |
      ⟨_, -, hf⟩⟩
    · -- before a line, nothing is read
      obtain ⟨-, rfl⟩ := Fetched.stop.inj (hf.symm.trans hfetch)
      exact ⟨[], List.not_mem_nil, rfl, rfl⟩
    · cases hf.symm.trans hfetch
    · cases hf.symm.trans hfetch
    · cases hf.symm.trans hfetch
    · -- amid a line
      obtain ⟨-, rfl⟩ := Fetched.stop.inj (hf.symm.trans hfetch)
      have htaken : (v.source.readLine false).taken = (v.source.readLine false).bytes := by
        apply Source.Read.taken_of_ne
        rw [hend]
        exact Source.Ending.noConfusion
      refine ⟨(v.source.readLine false).bytes, Source.lineFeed_notMem_readLine false v.source, ?_, ?_⟩
      · rw [← htaken]
        exact Source.bytes_readLine false v.source
      · show v.consumed + (v.source.readLine false).size = _
        rw [Source.Read.size_eq_length, htaken]
    · cases hf.symm.trans hfetch
  · cases refusal <;> cases hrefusal

/-- An interrupted run passes over what it took from its source, if that leaves no line open. -/
theorem passesOver_of_interrupted (h : u.run.stop = .ended .interrupted) (hclosed : Text.Closed part)
    (hbytes : u.source.bytes = part ++ u.run.watch.source.bytes) : PassesOver u part := by
  obtain ⟨lines, v, stop, final, hreaches, hstop, hrun⟩ := exists_reaches u
  rw [hrun] at h hbytes
  obtain rfl : stop = .ended .interrupted := h
  obtain ⟨hmonitor, hsink, hcount, -⟩ := interrupted_of_step hstop
  obtain ⟨lost, hlost, hleft, hconsumed⟩ := lost_of_interrupted hstop
  have hpassed := hreaches.passed
  obtain ⟨used, hused, hcounted, -⟩ := hpassed.echoes
  obtain rfl : part = used ++ lost := by
    apply (List.append_left_inj final.source.bytes).mp
    show part ++ final.source.bytes = _
    rw [← hbytes, hused, hleft, List.append_assoc]
  -- bytes that were lost would be a line left open
  obtain rfl : lost = [] := by
    by_contra hne
    rcases hclosed with hnil | hlast
    · exact hne (List.append_eq_nil_iff.mp hnil).2
    · rw [List.getLast?_append_of_ne_nil _ hne] at hlast
      exact hlost (List.mem_of_getLast? hlast)
  rw [List.append_nil] at hclosed ⊢
  rw [List.nil_append] at hleft
  obtain rfl : lines = Text.lines used := by
    apply (List.append_left_inj (Text.lines final.source.bytes)).mp
    rw [← Text.lines_append hclosed, ← hleft, ← hused, ← hreaches.lines_eq]
  refine ⟨?_, ?_, ?_, ?_⟩
  · rw [hrun, hreaches.course_eq]
    show Monitor.Course.mk v.monitor _ none = Monitor.Course.mk final.monitor _ none
    rw [hmonitor]
  · rw [hrun]
    show final.sink = _
    rw [hsink, hpassed.sink, Text.unlines_lines, if_pos hclosed]
  · rw [hrun]
    exact hcount.trans hpassed.count
  · rw [hrun]
    show final.consumed = _
    rw [hconsumed, hcounted, List.length_nil, Nat.add_zero]

/-! ### One run after another -/

/-- The last run comes to what the first two come to one after the other, the first of which passed
on so many lines. -/
structure Composes (u u' w : Watch) (count : Nat) : Prop where
  /-- The first run counts these lines. -/
  lines : u.run.watch.lines = count
  /-- The echoes follow one another. -/
  taken : ∃ echo later : List UInt8,
    u.run.watch.sink.taken = u.sink.taken ++ echo ∧
      u'.run.watch.sink.taken = u'.sink.taken ++ later ∧
      w.run.watch.sink.taken = w.sink.taken ++ (echo ++ later)
  /-- The flushes add up. -/
  flushes : ∃ flushes later,
    u.run.watch.sink.flushes = u.sink.flushes + flushes ∧
      u'.run.watch.sink.flushes = u'.sink.flushes + later ∧
      w.run.watch.sink.flushes = w.sink.flushes + (flushes + later)
  /-- So do the bytes taken from the sources. -/
  consumed : w.run.watch.consumed = u.run.watch.consumed + u'.run.watch.consumed
  /-- The monitors are the same, but for the line of a violation. -/
  monitor : w.run.watch.monitor = u'.run.watch.monitor.below count
  /-- The outcomes are the same, but for the line of a violation and the lines echoed before. -/
  outcome : ∃ outcome, u'.run.outcome? = some outcome ∧ w.run.outcome? = some (outcome.below count)

/-- The outcome of a course that goes on after so many lines. -/
theorem outcome?_below {course : Monitor.Course} {finished finished' : Finished} {before : Nat}
    (hrefusal : course.refusal = course.monitor.violation.map .violation)
    (hstop : finished.stop = .ofCourse course) (hmonitor : finished.watch.monitor = course.monitor)
    (hstop' : finished'.stop = .ofCourse (course.below before))
    (hmonitor' : finished'.watch.monitor = course.monitor.below before)
    (hlines : finished'.watch.lines = before + finished.watch.lines) :
    ∃ outcome, finished.outcome? = some outcome ∧
      finished'.outcome? = some (outcome.below before) := by
  rw [Finished.outcome?, Finished.outcome?, hstop, hstop', hmonitor, hmonitor', hlines]
  rcases hv : course.monitor.violation with - | violation
  · rw [hv, Option.map_none] at hrefusal
    simp only [Stop.ofCourse, Monitor.Course.below, hrefusal, Option.map_none]
    exact ⟨_, rfl, rfl⟩
  · rw [hv, Option.map_some] at hrefusal
    simp only [Stop.ofCourse, Monitor.Course.below, hrefusal, Option.map_some]
    exact ⟨_, rfl, rfl⟩

/-- **A run over the first part of a stream is taken up by a run over the rest.** -/
theorem composes_of_passesOver (hpart : PassesOver u part) (hm : u.monitor.isHalted = false)
    (hclosed : Text.Closed part) (hu' : u'.Undisturbed) (hw : w.Undisturbed)
    (hbytes : w.source.bytes = part ++ u'.source.bytes)
    (hmonitor : w.monitor = u.monitor) (hmonitor' : u'.monitor = u.run.watch.monitor)
    (hlines : u.lines = 0 ∧ u'.lines = 0 ∧ w.lines = 0)
    (hconsumed : u.consumed = 0 ∧ u'.consumed = 0 ∧ w.consumed = 0) :
    Composes u u' w (Text.lines part).length := by
  obtain ⟨hstop', hend', hpassed'⟩ := run_of_undisturbed hu'
  obtain ⟨hstop, hend, hpassed⟩ := run_of_undisturbed hw
  have hread := hpart.course
  rw [hlines.1] at hread
  have hm' : u'.monitor.isHalted = false := by
    have haccepted := congrArg Monitor.Course.refusal hread
    have hnot := Monitor.not_halted_of_readLines hm haccepted
    rwa [hread, ← hmonitor'] at hnot
  -- the lines of the whole are those of the part and those of the rest
  have hall := Text.lines_append hclosed u'.source.bytes
  have hcourse : w.course = (u'.course.below (Text.lines part).length).after (Text.lines part).length := by
    rw [course, course, hmonitor, hlines.2.1, hlines.2.2, hbytes, hall, List.map_append,
      Monitor.readLines_resumed hm (congrArg Monitor.Course.refusal hread), hread, hmonitor', List.length_map]
  have htake : (Text.lines w.source.bytes).take w.course.count
      = Text.lines part ++ (Text.lines u'.source.bytes).take u'.course.count := by
    rw [hbytes, hall, hcourse]
    exact List.take_length_add_append _
  have hecho : Text.unlines (Text.lines part) = part := by
    rw [Text.unlines_lines, if_pos hclosed]
  rw [htake] at hpassed
  have hcount : w.run.watch.lines = (Text.lines part).length + u'.run.watch.lines := by
    rw [hpassed.count, hpassed'.count, hlines.2.1, hlines.2.2, List.length_append]
    omega
  constructor
  case lines =>
    rw [hpart.count, hlines.1, Nat.zero_add]
  case taken =>
    refine ⟨part, Text.unlines ((Text.lines u'.source.bytes).take u'.course.count), ?_, ?_, ?_⟩
    · rw [hpart.sink]
      rfl
    · rw [hpassed'.sink]
      rfl
    · rw [hpassed.sink, Text.unlines_append, hecho]
      rfl
  case flushes =>
    refine ⟨(Text.lines part).length, ((Text.lines u'.source.bytes).take u'.course.count).length,
      ?_, ?_, ?_⟩
    · rw [hpart.sink]
      rfl
    · rw [hpassed'.sink]
      rfl
    · rw [hpassed.sink, List.length_append]
      rfl
  case consumed =>
    rw [hpassed.echoes.consumed_eq, hpassed'.echoes.consumed_eq, hpart.consumed, hconsumed.1,
      hconsumed.2.1, hconsumed.2.2, hbytes, Text.unlines_append, hecho, List.length_append,
      List.length_append]
    omega
  case monitor =>
    rw [hend, hend', hcourse]
    rfl
  case outcome =>
    have hrefusal := Monitor.refusal_readLines hm' (u'.lines + 1)
      ((Text.lines u'.source.bytes).map Utf8.decodeLossy)
    refine outcome?_below hrefusal hstop' hend' ?_ ?_ hcount
    · rw [hstop, hcourse]
      rfl
    · rw [hend, hcourse]
      rfl

/-- **Runs compose.**

Let a monitor that has not halted watch over the first part of a stream, which leaves no line open,
and then over the rest, into sinks that take all they are given.  If the first run meets no violation,
it ends with its stream, and the two runs come to what one run over the whole stream comes to: the
echoes follow one another, the monitor is the same, and so is the outcome; only the lines of
the second run are counted from the first one on, also the line of its violation.

It is the same if the first run was over the whole stream and was stopped by a shutdown right after
that part: a run over the rest of the source goes on where it was stopped, and nothing is lost,
repeated or put in another order. -/
theorem runs_compose {m : Monitor} {part : List UInt8} {rest whole : Source} {sink sink' : Sink}
    (hm : m.isHalted = false) (hclosed : Text.Closed part) (hrest : rest.Steady) (hwhole : whole.Steady)
    (hbytes : whole.bytes = part ++ rest.bytes) (hsink : sink.Boundless) (hsink' : sink'.Boundless) :
    let onwards (u : Watch) : Watch := { monitor := u.run.watch.monitor, source := rest, sink := sink' }
    let atOnce : Watch := { monitor := m, source := whole, sink }
    let count := (Text.lines part).length
    (∀ (source : Source) (first : Sink), source.Steady → source.bytes = part → first.Boundless →
      let u : Watch := { monitor := m, source, sink := first }
      (∀ v, u.run.stop ≠ .ended (.violation v)) →
        u.run.stop = .ended .endOfStream ∧ Composes u (onwards u) atOnce count) ∧
    (∀ (source : Source) (first : Sink) (shutdown : Bool), source.bytes = whole.bytes → first.Accepting →
      let u : Watch := { monitor := m, source, sink := first, shutdown }
      u.run.stop = .ended .interrupted → u.run.watch.source.bytes = rest.bytes →
        Composes u (onwards u) atOnce count) := by
  intro onwards atOnce count
  have hall : atOnce.Undisturbed := ⟨hwhole, hsink, rfl⟩
  have hnext : ∀ u : Watch, (onwards u).Undisturbed := fun u => ⟨hrest, hsink', rfl⟩
  constructor
  · intro source first hsource hpart hfirst u hviolation
    have hclosed' : Text.Closed u.source.bytes := hpart ▸ hclosed
    obtain ⟨hstop, hpasses⟩ := passesOver_of_closed ⟨hsource, hfirst, rfl⟩ hm hclosed' hviolation
    have hpasses : PassesOver u part := hpart ▸ hpasses
    exact ⟨hstop, composes_of_passesOver hpasses hm hclosed (hnext u) hall hbytes rfl rfl ⟨rfl, rfl, rfl⟩
      ⟨rfl, rfl, rfl⟩⟩
  · intro source first shutdown hsource hfirst u hstop hleft
    have hpasses : PassesOver u part := by
      apply passesOver_of_interrupted hstop hclosed
      rw [hleft, ← hbytes]
      exact hsource
    exact composes_of_passesOver hpasses hm hclosed (hnext u) hall hbytes rfl rfl ⟨rfl, rfl, rfl⟩
      ⟨rfl, rfl, rfl⟩

/-- A checkpoint is begun in the first part and restored twice in the rest.  The second restoration is
on the second line of the rest, and on the third of the whole; whether the first run
ended with its stream or was stopped there makes no difference. -/
theorem composes_of_violation_in_rest :
    let part := Utf8.encode "persist was triggered, finished clearing buffer\n"
    let rest : Source := [.data (Utf8.encode "restore finished\nrestore finished")]
    let whole : Source := .data part :: rest
    let stopping : Sink := { shutdownFlush := some 1 }
    let first : Watch := { source := [.data part] }
    let stopped : Watch := { source := whole, sink := stopping }
    let onwards (u : Watch) : Watch := { monitor := u.run.watch.monitor, source := rest }
    (Monitor.isHalted {} = false ∧ Text.Closed part ∧ rest.Steady ∧ whole.Steady ∧
        whole.bytes = part ++ rest.bytes ∧ Sink.Boundless {} ∧ stopping.Accepting) ∧
      ((∀ v, first.run.stop ≠ .ended (.violation v)) ∧
        Composes first (onwards first) { source := whole } 1) ∧
      (stopped.run.stop = .ended .interrupted ∧ stopped.run.watch.source.bytes = rest.bytes ∧
        Composes stopped (onwards stopped) { source := whole } 1) ∧
      (onwards stopped).run.stop = .ended (.violation ⟨.restoreFinished, .idle, some 2⟩) ∧
      (run { source := whole }).stop = .ended (.violation ⟨.restoreFinished, .idle, some 3⟩) := by
  intro part rest whole stopping first stopped onwards
  have hclosed : Text.Closed part := Or.inr (by decide)
  have hrest : rest.Steady := by decide
  have hwhole : whole.Steady := by decide
  have hsink : Sink.Boundless {} := ⟨by decide, rfl, rfl, rfl⟩
  have hstopping : stopping.Accepting := ⟨by decide, rfl, rfl⟩
  have hbytes : whole.bytes = part ++ rest.bytes := by decide
  have hfirst : first.run.stop = .ended .endOfStream := by decide +kernel
  have hstopped : stopped.run.stop = .ended .interrupted := by decide +kernel
  have hleft : stopped.run.watch.source.bytes = rest.bytes := by decide +kernel
  have hviolation : ∀ v, first.run.stop ≠ .ended (.violation v) := by
    intro v
    rw [hfirst]
    exact fun h => Termination.noConfusion (Stop.ended.inj h)
  obtain ⟨hends, hstops⟩ := runs_compose (m := {}) rfl hclosed hrest hwhole hbytes hsink hsink
  obtain ⟨-, hcomposes⟩ := hends [.data part] {} (by decide) (by decide) hsink hviolation
  have hcomposes' := hstops whole stopping false rfl hstopping hstopped hleft
  exact ⟨⟨rfl, hclosed, hrest, hwhole, hbytes, hsink, hstopping⟩, ⟨hviolation, hcomposes⟩,
    ⟨hstopped, hleft, hcomposes'⟩, by decide +kernel, by decide +kernel⟩

end Watch

end CheckpointMonitor
