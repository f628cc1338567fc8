/-
CheckpointMonitor/Proofs/Watch/Failing.lean

What a failure of the stream leaves behind.

A line is shown to the monitor only after it was echoed as a whole, so wherever a read,
a write or a flush fails, the monitor has read the lines before and knows nothing of the
line on which the failure came.  `FailedAfter` says for each of the three points of failure
what the sink holds of that line, and that the failure is the first that there was to
meet.  `failed_after_lines` is the case analysis of the last fetching; what went before it
is `Reaches`.

What a run does not meet has no part in it: failures after which a read is begun again
could as well not be there (`run_withoutRetries`), and so could all that arrives after a
line on which the run ended (`run_append`).
-/
import CheckpointMonitor.Proofs.Watch.Reference

namespace CheckpointMonitor.Watch

variable {w v final : Watch} {lines : List (List UInt8)} {fault : Fault}

/-! ### The point of failure -/

/-- The failure that ended a run, which had passed on the lines and left the last watch. -/
inductive FailedAfter (w : Watch) (lines : List (List UInt8)) (fault : Fault) (final : Watch) : Prop where
  /-- A read failed, the first of the source's failures.  The bytes of the line that was being read
  are lost; nothing of it was echoed. -/
  | reading (unfinished : List UInt8)
      (hunfinished : lineFeed ∉ unfinished)
      (hbytes : w.source.bytes = Text.unlines lines ++ unfinished ++ final.source.bytes)
      (hconsumed : final.consumed = w.consumed + (Text.unlines lines ++ unfinished).length)
      (hfirst : w.source.failures = fault :: final.source.failures)
      (hsink : final.sink = w.sink.after (Text.unlines lines) lines.length)
  /-- A write failed, or took nothing, since the sink was full.  A part of the next line was echoed,
  and no failure of the source had been met. -/
  | writing (line : List UInt8) (later : List (List UInt8)) (part : List UInt8)
      (hlines : Text.lines w.source.bytes = lines ++ line :: later)
      (hpart : part <+: line ++ [lineFeed] ∧ part ≠ line ++ [lineFeed])
      (hsink : final.sink = (w.sink.after (Text.unlines lines) lines.length).accept part)
      (hfull : final.sink.isFull = true)
      (hfault : fault = w.sink.fullFault.getD .writeZero)
      (hfirst : w.source.failures = final.source.failures)
  /-- The flush of the next line failed, the line itself being echoed, and no failure of the source
  had been met. -/
  | flushing (line : List UInt8) (later : List (List UInt8))
      (hlines : Text.lines w.source.bytes = lines ++ line :: later)
      (hsink : final.sink = w.sink.after (Text.unlines (lines ++ [line])) (lines.length + 1))
      (hfault : w.sink.flushFault = some (w.sink.flushes + lines.length + 1, fault))
      (hfirst : w.source.failures = final.source.failures)

/-- A line that was read to its end has met no failure. -/
theorem failures_of_complete {source : Source} (h : (source.readLine false).Complete) :
    source.failures = (source.readLine false).rest.failures := by
  have hfailures := Source.failures_readLine false source
  rcases h with hend | ⟨hend, -⟩ <;> rwa [hend] at hfailures

theorem Reaches.failures_eq (h : Reaches w lines v) : w.source.failures = v.source.failures := by
  induction h with
  | refl => rfl
  | line hfetch hnext _ ih =>
    obtain ⟨-, hread, -, sink, -, rfl⟩ := exists_of_fetch_line hfetch
    rw [failures_of_complete hread, ← ih, source_of_interpret hnext]
    rfl

/-- Nothing is reached from the end of a source. -/
theorem Reaches.source_of_nil (h : Reaches w lines v) (hnil : w.source = []) : v.source = [] := by
  cases h with
  | refl => exact hnil
  | line hfetch =>
    obtain ⟨-, hread, -⟩ := exists_of_fetch_line hfetch
    rw [hnil] at hread
    rcases hread with hend | ⟨-, hne⟩
    · cases hend
    · exact absurd rfl hne

/-- A line was taken with its line feed, unless it was the last of the source and left open. -/
theorem used_of_fetch {line : List UInt8} (h : w.fetch = .line line v) :
    v.source = [] ∨
      w.source.bytes = line ++ [lineFeed] ++ v.source.bytes ∧
        v.consumed = w.consumed + (line.length + 1) := by
  obtain ⟨-, hread, rfl, sink, -, rfl⟩ := exists_of_fetch_line h
  rcases hread with hend | ⟨hend, -⟩
  · have hbytes := Source.bytes_readLine false w.source
    rw [Source.Read.taken_of_lineFeed hend] at hbytes
    refine Or.inr ⟨hbytes, ?_⟩
    show w.consumed + (w.source.readLine false).size = _
    rw [Source.Read.size, hend]
  · exact Or.inl (Source.rest_of_exhausted hend)

/-- As long as the source is not at its end, what was taken from it is the echo. -/
theorem Reaches.used (h : Reaches w lines v) (hne : v.source ≠ []) :
    w.source.bytes = Text.unlines lines ++ v.source.bytes ∧
      v.consumed = w.consumed + (Text.unlines lines).length := by
  induction h with
  | refl => exact ⟨rfl, rfl⟩
  | @line w w' w'' v line lines hfetch hnext hlines ih =>
    obtain ⟨hbytes, hconsumed⟩ := ih hne
    obtain ⟨-, rfl⟩ := accepted_of_interpret hnext
    rcases used_of_fetch hfetch with hnil | ⟨htaken, hcount⟩
    · exact absurd (hlines.source_of_nil hnil) hne
    have hrecorded : w'.source.bytes = Text.unlines lines ++ v.source.bytes := hbytes
    have hconsumed : v.consumed = w'.consumed + (Text.unlines lines).length := hconsumed
    rw [Text.unlines_cons, htaken, hrecorded, hconsumed, hcount, List.length_append, List.length_cons]
    refine ⟨by simp, by omega⟩

/-- **A watch that fails has echoed no more than a part of a line that its monitor has not seen.** -/
theorem failed_after_lines (hsink : w.sink.perWrite ≠ some 0) (h : Reaches w lines v)
    (hfetch : v.fetch = .stop (.failed fault) final) : FailedAfter w lines fault final := by
  have hpassed := h.passed.sink
  have hlines := h.lines_eq
  have hsink' : v.sink.perWrite ≠ some 0 := by
    rw [hpassed]
    exact hsink
  rcases failed_of_fetch hfetch with ⟨hend, rfl⟩ | ⟨sink, hread, hecho, rfl⟩
  · -- the read failed
    have hfailures := Source.failures_readLine false v.source
    have hbytes := Source.bytes_readLine false v.source
    rw [hend] at hfailures
    have hne : v.source ≠ [] := by
      intro hnil
      rw [hnil] at hend
      cases hend
    obtain ⟨hused, hconsumed⟩ := h.used hne
    have htaken : (v.source.readLine false).taken = (v.source.readLine false).bytes := by
      exact Source.Read.taken_of_ne (by rw [hend]; exact Source.Ending.noConfusion)
    rw [htaken] at hbytes
    refine .reading (v.source.readLine false).bytes (Source.lineFeed_notMem_readLine false v.source)
      ?_ ?_ (h.failures_eq.trans hfailures) hpassed
    · rw [hused, List.append_assoc, hbytes]
      rfl
    · show v.consumed + (v.source.readLine false).size = _
      rw [hconsumed, Source.Read.size_eq_length, htaken, List.length_append, Nat.add_assoc]
  · -- the line was read, and its echo failed
    rw [Source.lines_of_complete hread] at hlines
    have hfailures := h.failures_eq.trans (failures_of_complete hread)
    rw [echo_eq hsink'] at hecho
    split at hecho
    · rcases Sink.flush_cases (v.sink.accept ((v.source.readLine false).bytes ++ [lineFeed]))
        with ⟨fault', hfault, hflush⟩ | ⟨-, hflush⟩
      · rw [hflush] at hecho
        obtain ⟨rfl, rfl⟩ := Sink.Failure.mk.inj (Except.error.inj hecho)
        refine .flushing (v.source.readLine false).bytes _ hlines ?_ ?_ hfailures
        · show (v.sink.accept _).after [] 1 = _
          rw [hpassed, Text.unlines_append, Text.unlines_cons, Text.unlines_nil]
          show ((w.sink.after _ _).after _ 0).after [] 1 = _
          rw [Sink.after_after, Sink.after_after, List.append_nil]
        · rw [hpassed] at hfault
          exact hfault
      · rw [hflush] at hecho
        cases hecho
    · next hfit =>
      obtain ⟨rfl, rfl⟩ := Sink.Failure.mk.inj (Except.error.inj hecho)
      refine .writing (v.source.readLine false).bytes _ (v.sink.fitting _) hlines
        ⟨v.sink.fitting_prefix _, hfit⟩ ?_ (Sink.isFull_accept_fitting hfit) ?_ hfailures
      · rw [← hpassed]
      · rw [hpassed]
        rfl

/-! ### What a run does not see of its source -/

/-- The watch over another source. -/
def onSource (change : Source → Source) (w : Watch) : Watch :=
  { w with source := change w.source }

/-- What comes of a fetching, over another source. -/
def Fetched.onSource (change : Source → Source) : Fetched → Fetched
  | .line bytes w => .line bytes (w.onSource change)
  | .stop reason w => .stop reason (w.onSource change)

/-- What follows on a line, over another source. -/
def Step.onSource (change : Source → Source) : Step → Step
  | .next w => .next (w.onSource change)
  | .stop reason w => .stop reason (w.onSource change)

section OnSource

variable {change : Source → Source}

theorem passOn_onSource (w : Watch) (line : List UInt8) :
    (w.onSource change).passOn line = (w.passOn line).onSource change := by
  have hsink : echo (w.onSource change).sink line = echo w.sink line := rfl
  rcases hecho : echo w.sink line with failure | sink
  · rw [passOn_of_error hecho, passOn_of_error (hsink.trans hecho)]
    rfl
  · rw [passOn_of_ok hecho, passOn_of_ok (hsink.trans hecho)]
    rfl

theorem interpret_onSource (w : Watch) (line : List UInt8) :
    (w.onSource change).interpret line = (w.interpret line).onSource change := by
  have hreading : (w.onSource change).monitor.readLine (Utf8.decodeLossy line) (w.onSource change).lines
      = w.monitor.readLine (Utf8.decodeLossy line) w.lines := rfl
  rcases hrefusal : (w.monitor.readLine (Utf8.decodeLossy line) w.lines).refusal with - | refusal
  · rw [interpret_of_accepted hrefusal, interpret_of_accepted (hreading ▸ hrefusal)]
    rfl
  · rw [interpret_of_refused hrefusal, interpret_of_refused (hreading ▸ hrefusal)]
    rfl

/-- A change of the source that its next reading does not see is not seen by the next step. -/
theorem step_onSource
    (hread : w.shutdown = false → (change w.source).readLine false
      = { w.source.readLine false with rest := change (w.source.readLine false).rest }) :
    (w.onSource change).step = w.step.onSource change := by
  have hfetch : (w.onSource change).fetch = w.fetch.onSource change := by
    by_cases hshutdown : w.shutdown = true
    · rw [fetch_of_shutdown hshutdown, fetch_of_shutdown (w := w.onSource change) hshutdown]
      rfl
    have hshutdown : w.shutdown = false := Bool.eq_false_iff.mpr hshutdown
    have hshutdown' : (w.onSource change).shutdown = false := hshutdown
    have hread : (w.onSource change).source.readLine false = _ := hread hshutdown
    have hahead : (w.onSource change).ahead = w.ahead.onSource change := by
      rw [ahead, hread]
      rfl
    rcases (w.source.readLine false).ending_cases with hcomplete | ⟨hend, hbytes⟩ | hend | ⟨fault, hend⟩
    · rw [fetch_of_complete hshutdown hcomplete, ← passOn_onSource, ← hahead,
        fetch_of_complete hshutdown' (by rwa [hread]), hread]
    · rw [fetch_of_spent hshutdown hend hbytes,
        fetch_of_spent hshutdown' (by rwa [hread]) (by rwa [hread]), hahead]
      rfl
    · rw [fetch_of_interrupted hshutdown hend, fetch_of_interrupted hshutdown' (by rwa [hread]), hahead]
      rfl
    · rw [fetch_of_failed hshutdown hend, fetch_of_failed hshutdown' (by rwa [hread]), hahead]
      rfl
  rw [step, step, hfetch]
  rcases w.fetch with ⟨bytes, w'⟩ | ⟨reason, w'⟩
  · exact interpret_onSource w' bytes
  · rfl

end OnSource

/-- **Failures after which a read is begun again change nothing.** -/
theorem run_withoutRetries (w : Watch) :
    (w.onSource Source.withoutRetries).run
      = ⟨w.run.stop, w.run.watch.onSource Source.withoutRetries⟩ := by
  have hstep : ∀ u : Watch,
      (u.onSource Source.withoutRetries).step = u.step.onSource Source.withoutRetries :=
    fun u => step_onSource fun _ => u.source.readLine_withoutRetries false
  refine run_lockstep (R := fun u u' => u' = u.onSource Source.withoutRetries)
    (S := fun f f' => f' = ⟨f.stop, f.watch.onSource Source.withoutRetries⟩) ?_ ?_ rfl
  · rintro u - v rfl hnext
    exact ⟨_, by rw [hstep, hnext]; rfl, rfl⟩
  · rintro u - stop v rfl hstop
    exact run_of_stop (by rw [hstep, hstop]; rfl)

/-- What is left of a source whose bytes leave no line open leaves none open either. -/
theorem closed_of_next (hclosed : Text.Closed w.source.bytes) (h : w.step = .next v) :
    Text.Closed v.source.bytes := by
  obtain ⟨line, w', hfetch, hnext⟩ := exists_of_next h
  obtain ⟨-, hread, rfl, sink, -, rfl⟩ := exists_of_fetch_line hfetch
  have hbytes := Source.bytes_readLine false w.source
  rw [Source.Read.taken_of_lineFeed (Source.ending_of_closed hread hclosed), List.append_assoc] at hbytes
  rw [hbytes] at hclosed
  rw [source_of_interpret hnext]
  exact Text.closed_line_iff.mp hclosed

/-- **What arrives after a run has come to its end has no part in it,** as long as it is not the
stream's end to which it came, and no line was left open. -/
theorem run_append (hclosed : Text.Closed w.source.bytes) (h : w.run.stop ≠ .ended .endOfStream)
    (later : Source) :
    (w.onSource (· ++ later)).run = ⟨w.run.stop, w.run.watch.onSource (· ++ later)⟩ := by
  -- a reading that does not come to the end of the stream does not see what comes after it
  have hstep : ∀ u : Watch, Text.Closed u.source.bytes →
      (∀ v, u.step ≠ .stop (.ended .endOfStream) v) →
      (u.onSource (· ++ later)).step = u.step.onSource (· ++ later) := by
    intro u hclosed hstep
    refine step_onSource fun hshutdown => Source.readLine_append ?_ later
    intro hend
    by_cases hbytes : (u.source.readLine false).bytes = []
    · exact hstep _ (step_of_stop (fetch_of_spent hshutdown hend hbytes))
    · have hline := Source.ending_of_closed (Or.inr ⟨hend, hbytes⟩) hclosed
      cases hend.symm.trans hline
  refine run_lockstep
    (R := fun u u' => u' = u.onSource (· ++ later) ∧ Text.Closed u.source.bytes)
    (S := fun f f' => f.stop ≠ .ended .endOfStream → f' = ⟨f.stop, f.watch.onSource (· ++ later)⟩)
    ?_ ?_ ⟨rfl, hclosed⟩ h
  · rintro u - v ⟨rfl, hclosed⟩ hnext
    have hstep' := hstep u hclosed (by rw [hnext]; exact fun _ => Step.noConfusion)
    exact ⟨_, by rw [hstep', hnext]; rfl, rfl, closed_of_next hclosed hnext⟩
  · rintro u - stop v ⟨rfl, hclosed⟩ hstop hne
    have hstep' := hstep u hclosed (by rw [hstop]; rintro v' heq; exact hne (Step.stop.inj heq).1)
    exact run_of_stop (by rw [hstep', hstop]; rfl)

/-! ### Failures of a run -/

/-- A run that fails has shown its monitor the lines before the failure, which accepted them all,
and nothing else. -/
theorem failed_of_run (hsink : w.sink.perWrite ≠ some 0) (h : w.run.stop = .failed fault) :
    ∃ lines, lines <+: Text.lines w.source.bytes ∧
      w.monitor.readLines (w.lines + 1) (lines.map Utf8.decodeLossy)
        = ⟨w.run.watch.monitor, lines.length, none⟩ ∧
      FailedAfter w lines fault w.run.watch := by
  obtain ⟨lines, v, stop, final, hreaches, hstop, hrun⟩ := exists_reaches w
  rw [hrun] at h ⊢
  obtain rfl : stop = .failed fault := h
  rcases stop_cases hstop with hfetch | ⟨line, v', refusal, -, -, hrefusal, -⟩
  · refine ⟨lines, ⟨_, hreaches.lines_eq.symm⟩, ?_, failed_after_lines hsink hreaches hfetch⟩
    rw [hreaches.course_eq]
    exact congrArg (fun m : Monitor => (⟨m, lines.length, none⟩ : Monitor.Course))
      (monitor_of_fetch_stop hfetch).symm
  · -- on a refusal the run does not end with a failure
    cases refusal <;> cases hrefusal

/-- **A failure leaves the monitor and the echo at a definite point.**

Let a run fail, whatever the monitor, the source, the sink and the requests to shut down.  Then
there are lines, the first ones of the stream, such that the monitor is what it is after it read
them with their numbers, none of them refused.  The sink holds their echo, followed by nothing if a
read failed, by a part of the next line if a write did, and by all of it if its flush did; and the
failure is the first that was met.

Failures after which a read is begun again could as well not be there.  What comes after a violating
line has no part in the run, be it failures or not; and a violating line ends the run wherever
the lines up to it can be read, echoed and flushed. -/
theorem run_failure_atomic (m : Monitor) (source : Source) (sink : Sink) (shutdown : Bool)
    (hsink : sink.perWrite ≠ some 0) :
    let w : Watch := { monitor := m, source, sink, shutdown }
    (∀ fault, w.run.stop = .failed fault →
      ∃ lines, lines <+: Text.lines source.bytes ∧
        m.readLines 1 (lines.map Utf8.decodeLossy) = ⟨w.run.watch.monitor, lines.length, none⟩ ∧
        FailedAfter w lines fault w.run.watch) ∧
    (w.onSource Source.withoutRetries).run
      = ⟨w.run.stop, w.run.watch.onSource Source.withoutRetries⟩ ∧
    (∀ violation later, Text.Closed source.bytes → w.run.stop = .ended (.violation violation) →
      (w.onSource (· ++ later)).run = ⟨w.run.stop, w.run.watch.onSource (· ++ later)⟩) ∧
    (∀ violation later, source.Steady → Text.Closed source.bytes → shutdown = false →
      let course := m.readLines 1 ((Text.lines source.bytes).map Utf8.decodeLossy)
      let echoed := Text.unlines ((Text.lines source.bytes).take course.count)
      course.refusal = some (.violation violation) → sink.Admits echoed course.count →
      let finished := (w.onSource (· ++ later)).run
      finished.stop = .ended (.violation violation) ∧ finished.watch.monitor = course.monitor ∧
        finished.watch.sink = sink.after echoed course.count) := by
  intro w
  have happend : ∀ violation later, Text.Closed source.bytes →
      w.run.stop = .ended (.violation violation) →
      (w.onSource (· ++ later)).run = ⟨w.run.stop, w.run.watch.onSource (· ++ later)⟩ := by
    intro violation later hclosed hstop
    apply run_append hclosed
    rw [hstop]
    exact fun h => Termination.noConfusion (Stop.ended.inj h)
  refine ⟨fun fault h => failed_of_run hsink h, run_withoutRetries w, happend, ?_⟩
  intro violation later hsource hclosed hshutdown course echoed hrefusal hadmits finished
  have hrefusal' : w.course.refusal = some (.violation violation) := hrefusal
  have hw : w.Unhindered :=
    ⟨hsource, hshutdown, hadmits, fun hnone => by cases hnone.symm.trans hrefusal'⟩
  obtain ⟨hstop, hmonitor, hpassed⟩ := run_of_unhindered hw
  have hread : ((Text.lines source.bytes).take course.count).length = course.count := by
    apply List.length_take_of_le
    rw [← List.length_map Utf8.decodeLossy]
    exact Monitor.count_readLines_le m 1 _
  have hviolated : w.run.stop = .ended (.violation violation) := by
    rw [hstop, Stop.ofCourse, hrefusal']
    rfl
  have hfinished : finished = _ := happend violation later hclosed hviolated
  rw [hfinished]
  refine ⟨hviolated, hmonitor, ?_⟩
  rw [← hread]
  exact hpassed.sink

/-- A read that fails amid a line that carries a marker, and a read that would fail after a
violation. -/
theorem failures_amid_line_and_after_violation :
    let source : Source :=
      [.data (Utf8.encode "persist was triggered\nfinished clearing"), .failure ⟨.interrupted, none⟩,
        .pending, .data (Utf8.encode " buffer"), .failure ⟨.timedOut, none⟩, .data [lineFeed]]
    let sink : Sink := { perWrite := some 7, capacity := some 30 }
    let w : Watch := { source, sink }
    let violating : Source := [.data (Utf8.encode "restore finished\n")]
    let later : Source := [.failure ⟨.brokenPipe, none⟩]
    let w' : Watch := { source := violating, sink }
    sink.perWrite ≠ some 0 ∧
      (w.run.stop = .failed ⟨.timedOut, none⟩ ∧
        ∃ lines, lines <+: Text.lines source.bytes ∧
          Monitor.readLines {} 1 (lines.map Utf8.decodeLossy)
            = ⟨w.run.watch.monitor, lines.length, none⟩ ∧
          FailedAfter w lines ⟨.timedOut, none⟩ w.run.watch) ∧
      (w'.onSource (· ++ later)).run.stop = .ended (.violation ⟨.restoreFinished, .idle, some 1⟩) := by
  intro source sink w violating later w'
  have hsink : sink.perWrite ≠ some 0 := by decide
  have hrun : w.run.stop = .failed ⟨.timedOut, none⟩ := by decide +kernel
  obtain ⟨hfailed, -⟩ := run_failure_atomic {} source sink false hsink
  obtain ⟨-, -, -, hviolation⟩ := run_failure_atomic {} violating sink false hsink
  have hadmits : sink.Admits (Utf8.encode "restore finished\n") 1 :=
    ⟨hsink, by decide, nofun, nofun⟩
  have hviolated := hviolation ⟨.restoreFinished, .idle, some 1⟩ later (by decide) (by decide) rfl
    (by decide +kernel) hadmits
  exact ⟨hsink, ⟨hrun, hfailed _ hrun⟩, hviolated.1⟩

end CheckpointMonitor.Watch
