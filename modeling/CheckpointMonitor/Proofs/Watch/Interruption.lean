/-
CheckpointMonitor/Proofs/Watch/Interruption.lean

A shutdown cuts a run off between two lines.

A request is met amid the reading of a line or in the flush after it (`Requested`), but
it is looked at only before a line and where the reading of one has to wait.  So what
a watch knows between two lines is what was requested until then
(`Reaches.tracks`), and an interrupted run has passed on whole lines, all of which its
monitor has seen.

Against this there are two undisturbed runs to compare.  An interrupted run comes to what a
run over just these lines comes to (`Reaches.beside`, by induction on the lines); a run
that was not interrupted comes to what it would come to without any requests
(`run_calmed`, in lockstep).
-/
import CheckpointMonitor.Proofs.Watch.Agreement

namespace CheckpointMonitor.Watch

variable {w w' v u final : Watch} {line : List UInt8} {lines : List (List UInt8)}

/-! ### What was requested -/

/-- A shutdown was requested before the first watch, or on the way from it to the second: amid the
reading of a line, or in a flush. -/
def Requested (w v : Watch) : Prop :=
  w.shutdown = true ∨ v.source.requests < w.source.requests ∨
    ∃ n, w.sink.shutdownFlush = some n ∧ w.sink.flushes < n ∧ n ≤ v.sink.flushes

/-- The second watch comes after the first, and knows of a shutdown exactly if one was requested. -/
structure Tracks (w v : Watch) : Prop where
  requests : v.source.requests ≤ w.source.requests
  flushes : w.sink.flushes ≤ v.sink.flushes
  shutdownFlush : v.sink.shutdownFlush = w.sink.shutdownFlush
  shutdown : v.shutdown = true ↔ Requested w v

theorem Tracks.refl (w : Watch) : Tracks w w where
  requests := Nat.le_refl _
  flushes := Nat.le_refl _
  shutdownFlush := rfl
  shutdown := by
    refine ⟨Or.inl, ?_⟩
    rintro (h | h | ⟨n, -, hlt, hle⟩)
    · exact h
    · exact absurd h (Nat.lt_irrefl _)
    · omega

theorem Tracks.trans (h : Tracks w v) (h' : Tracks v u) : Tracks w u where
  requests := Nat.le_trans h'.requests h.requests
  flushes := Nat.le_trans h.flushes h'.flushes
  shutdownFlush := h'.shutdownFlush.trans h.shutdownFlush
  shutdown := by
    have hrequests := h.requests
    have hrequests' := h'.requests
    have hflushes := h.flushes
    have hflushes' := h'.flushes
    rw [h'.shutdown, Requested, Requested, h.shutdown, Requested, h.shutdownFlush]
    constructor
    · rintro ((hshutdown | hlt | ⟨n, hn, hlt, hle⟩) | hlt | ⟨n, hn, hlt, hle⟩)
      · exact Or.inl hshutdown
      · exact Or.inr (Or.inl (by omega))
      · exact Or.inr (Or.inr ⟨n, hn, hlt, by omega⟩)
      · exact Or.inr (Or.inl (by omega))
      · exact Or.inr (Or.inr ⟨n, hn, by omega, hle⟩)
    · -- a request on the whole way fell on one of its two parts
      rintro (hshutdown | hlt | ⟨n, hn, hlt, hle⟩)
      · exact Or.inl (Or.inl hshutdown)
      · rcases Nat.lt_or_ge v.source.requests w.source.requests with hv | hv
        · exact Or.inl (Or.inr (Or.inl hv))
        · exact Or.inr (Or.inl (by omega))
      · rcases Nat.lt_or_ge v.sink.flushes n with hv | hv
        · exact Or.inr (Or.inr ⟨n, hn, hv, hle⟩)
        · exact Or.inl (Or.inr (Or.inr ⟨n, hn, hlt, hv⟩))

theorem Tracks.record (h : Tracks w v) (reading : Monitor.Reading) : Tracks w (v.record reading) :=
  ⟨h.requests, h.flushes, h.shutdownFlush, h.shutdown⟩

/-- A watch that fetched a line knows of the requests that it met amid the line and in the flush. -/
theorem tracks_of_fetch (h : w.fetch = .line line w') : Tracks w w' := by
  have hsink := sink_of_fetch h
  obtain ⟨hshutdown, -, rfl, sink, -, rfl⟩ := exists_of_fetch_line h
  obtain rfl : sink = _ := hsink
  refine ⟨Source.requests_rest_le false w.source, Nat.le_succ _, rfl, ?_⟩
  -- one flush was made, so a request in a flush is one in this flush
  show ((w.source.readLine false).shutdown || decide _) = true ↔ _
  rw [Bool.or_eq_true, Source.shutdown_readLine_iff, decide_eq_true_iff, Requested, hshutdown, or_assoc]
  refine or_congr_right (or_congr_right ⟨fun hn => ⟨_, hn, Nat.lt_succ_self _, Nat.le_refl _⟩, ?_⟩)
  rintro ⟨n, hn, hlt, hle⟩
  obtain rfl : n = w.sink.flushes + 1 := Nat.le_antisymm hle hlt
  exact hn

/-- **Between two lines a watch knows of a shutdown exactly if one was requested.** -/
theorem Reaches.tracks (h : Reaches w lines v) : Tracks w v := by
  induction h with
  | refl w => exact Tracks.refl w
  | line hfetch hnext _ ih =>
    obtain ⟨-, rfl⟩ := accepted_of_interpret hnext
    exact ((tracks_of_fetch hfetch).record _).trans ih

/-! ### Where a run is interrupted -/

/-- A watch is interrupted between two lines, or amid a line, the read bytes of which are lost. -/
theorem interrupted_of_step (h : v.step = .stop (.ended .interrupted) final) :
    final.monitor = v.monitor ∧ final.sink = v.sink ∧ final.lines = v.lines ∧
      (v.shutdown = true ∧ final.source = v.source ∨
        final.source.requests < v.source.requests) := by
  rcases stop_cases h with hfetch | ⟨line, v', refusal, -, -, hrefusal, -⟩
  · rcases fetch_cases v with ⟨hshutdown, hf⟩ | ⟨-, ⟨_, -, -, hf⟩ | ⟨_, -, -, hf⟩ | ⟨-, -, hf⟩ |
      ⟨hend, hf⟩ | ⟨_, -, hf⟩⟩
    · obtain ⟨-, rfl⟩ := Fetched.stop.inj (hf.symm.trans hfetch)
      exact ⟨rfl, rfl, rfl, Or.inl ⟨hshutdown, rfl⟩⟩
    · cases hf.symm.trans hfetch
    · cases hf.symm.trans hfetch
    · cases hf.symm.trans hfetch
    · -- the wait at which the reading was interrupted came after a request
      obtain ⟨-, rfl⟩ := Fetched.stop.inj (hf.symm.trans hfetch)
      refine ⟨rfl, rfl, rfl, Or.inr ?_⟩
      rcases Source.shutdown_readLine_iff.mp (Source.shutdown_of_interrupted hend) with hfalse | hlt
      · cases hfalse
      · exact hlt
    · cases hf.symm.trans hfetch
  · cases refusal <;> cases hrefusal

/-- A run is interrupted only if a shutdown was requested. -/
theorem requested_of_interrupted (h : w.run.stop = .ended .interrupted) : Requested w w.run.watch := by
  obtain ⟨lines, v, stop, final, hreaches, hstop, hrun⟩ := exists_reaches w
  rw [hrun] at h ⊢
  obtain rfl : stop = .ended .interrupted := h
  have htracks := hreaches.tracks
  obtain ⟨-, hsink, -, ⟨hshutdown, hsource⟩ | hlt⟩ := interrupted_of_step hstop
  · have hrequested := htracks.shutdown.mp hshutdown
    rw [Requested] at hrequested ⊢
    rwa [hsource, hsink]
  · have hle := htracks.requests
    exact Or.inr (Or.inl (Nat.lt_of_lt_of_le hlt hle))

/-- A quiet watch is not interrupted. -/
theorem Quiet.not_interrupted (h : w.Quiet) : w.run.stop ≠ .ended .interrupted := by
  intro hstop
  rcases requested_of_interrupted hstop with hshutdown | hlt | ⟨n, hn, -⟩
  · cases h.shutdown.symm.trans hshutdown
  · rw [h.requests] at hlt
    exact Nat.not_lt_zero _ hlt
  · cases h.shutdownFlush.symm.trans hn

/-- Once a shutdown was requested, no line is begun. -/
theorem run_of_requested (h : Reaches w lines v) (hrequested : Requested w v) :
    w.run = ⟨.ended .interrupted, { v with log := v.log.push (.shutdownRequested v.lines) }⟩ := by
  rw [h.run_eq]
  exact run_of_stop (step_of_stop (fetch_of_shutdown (h.tracks.shutdown.mpr hrequested)))

/-- **A line that was passed on is shown to the monitor, although a shutdown was requested amid it or
in its flush,** and a refusal of it comes first. -/
theorem run_of_requested_amid (h : Reaches w lines v) (hfetch : v.fetch = .line line w')
    (hrequested : Requested w w') :
    let reading := v.monitor.readLine (Utf8.decodeLossy line) (v.lines + 1)
    w.run.stop = (reading.refusal.map Stop.ofRefusal).getD (.ended .interrupted) ∧
      w.run.watch.monitor = reading.monitor ∧
      w.run.watch.sink = v.sink.after (line ++ [lineFeed]) 1 := by
  intro reading
  have hpassed := passed_of_fetch hfetch
  have hsink := sink_of_fetch hfetch
  have hreading : w'.monitor.readLine (Utf8.decodeLossy line) w'.lines = reading := by
    rw [monitor_of_fetch_line hfetch, hpassed.count]
    rfl
  have hshutdown := ((h.tracks.trans (tracks_of_fetch hfetch)).shutdown).mpr hrequested
  rw [h.run_eq]
  rcases hrefusal : reading.refusal with - | refusal
  · -- the line is recorded, and no further one is begun
    have hnext := interpret_of_accepted (hreading ▸ hrefusal)
    have hstop := step_of_stop (fetch_of_shutdown (w := w'.record reading) hshutdown)
    rw [run_of_next ((step_of_line hfetch).trans hnext), hreading, run_of_stop hstop]
    exact ⟨rfl, rfl, hsink⟩
  · -- the watch stops on the line before it could look at the request
    have hstop := interpret_of_refused (hreading ▸ hrefusal)
    rw [run_of_stop ((step_of_line hfetch).trans hstop), hreading]
    exact ⟨rfl, rfl, hsink⟩

/-- A line that is completed without a wait after a request is passed on, unless its echo fails. -/
theorem fetch_of_swift {before amid later : Source} {others : List (List UInt8)}
    (h : Reaches w lines v) (hrequested : ¬ Requested w v)
    (hsource : v.source = before ++ .shutdown :: amid ++ later) (hbefore : before.Steady)
    (hopen : lineFeed ∉ before.bytes) (hamid : amid.Swift) (hend : lineFeed ∈ amid.bytes ∨ later = [])
    (hlines : Text.lines v.source.bytes = line :: others) :
    (∃ v', v.fetch = .line line v' ∧ Requested w v') ∨
      ∃ failure, echo v.sink line = .error failure ∧ w.run.stop = .failed failure.fault := by
  have hshutdown : v.shutdown = false := by
    rw [← Bool.not_eq_true, h.tracks.shutdown]
    exact hrequested
  have hne : v.source.bytes ≠ [] := by
    intro hnil
    rw [hnil, Text.lines_nil] at hlines
    cases hlines
  obtain ⟨hread, hknown⟩ : (v.source.readLine false).Complete ∧ (v.source.readLine false).shutdown = true := by
    rw [hsource] at hne ⊢
    exact Source.complete_of_swift hbefore hopen hamid hend hne
  obtain ⟨hline, -⟩ := List.cons.inj ((Source.lines_of_complete hread).symm.trans hlines)
  have hfetch := fetch_of_complete hshutdown hread
  rw [hline] at hfetch
  rcases hecho : echo v.sink line with failure | sink
  · right
    refine ⟨failure, rfl, ?_⟩
    rw [h.run_eq, run_of_stop (step_of_stop (hfetch.trans (passOn_of_error hecho)))]
  · left
    have hpassed := hfetch.trans (passOn_of_ok hecho)
    refine ⟨_, hpassed, (h.tracks.trans (tracks_of_fetch hpassed)).shutdown.mp ?_⟩
    show ((v.source.readLine false).shutdown || _) = true
    rw [hknown, Bool.true_or]

/-! ### The run over the lines before -/

/-- **Beside a run, another one passes on the same lines,** if these are all the lines of its
source and nothing disturbs it. -/
theorem Reaches.beside (h : Reaches w lines v) (halike : w.Alike w') (hquiet : w'.Quiet)
    (hsource : w'.source.Steady) (hlines : Text.lines w'.source.bytes = lines) :
    ∃ u, w'.run = u.run ∧ v.Alike u ∧ u.Quiet ∧ u.source.Steady ∧ Text.lines u.source.bytes = [] := by
  induction h generalizing w' with
  | refl => exact ⟨w', rfl, halike, hquiet, hsource, hlines⟩
  | @line w w₁ w'' v line lines hfetch hnext _ ih =>
    obtain ⟨hshutdown, hread, hline, -⟩ := exists_of_fetch_line hfetch
    -- the other one reads the same line, perhaps up to another ending
    have hread' : (w'.source.readLine false).Complete := by
      rcases Source.spent_or_complete hsource with ⟨hnil, -⟩ | hread'
      · rw [hnil, Text.lines_nil] at hlines
        cases hlines
      · exact hread'
    obtain ⟨hline', hlater⟩ := List.cons.inj ((Source.lines_of_complete hread').symm.trans hlines)
    have hstep := halike.step hshutdown hquiet.shutdown ⟨hline.trans hline'.symm, Or.inl ⟨hread, hread'⟩⟩
    rw [(step_of_line hfetch).trans hnext] at hstep
    rcases hstep' : w'.step with v' | ⟨stop, v'⟩
    · rw [hstep'] at hstep
      obtain ⟨hv⟩ := hstep
      have hrest := source_of_next hstep'
      obtain ⟨u, hrun, hu⟩ := ih hv (hquiet.next hstep') (hrest ▸ (Source.readLine_of_steady hsource).2.2)
        (hrest ▸ hlater)
      exact ⟨u, (run_of_next hstep').trans hrun, hu⟩
    · rw [hstep'] at hstep
      cases hstep

/-- A quiet watch with nothing left to be read ends with its stream. -/
theorem run_of_spent (hquiet : w.Quiet) (hsource : w.source.Steady)
    (hlines : Text.lines w.source.bytes = []) :
    w.run.stop = .ended .endOfStream ∧ w.run.watch.monitor = w.monitor ∧ w.run.watch.sink = w.sink ∧
      w.run.watch.lines = w.lines := by
  rcases Source.spent_or_complete hsource with ⟨-, hend, hbytes⟩ | hread
  · obtain ⟨v, hstep, hmonitor, hpassed⟩ := step_of_spent hquiet.shutdown hend hbytes
    rw [run_of_stop hstep]
    exact ⟨rfl, hmonitor, hpassed.sink.trans w.sink.after_zero, hpassed.count⟩
  · cases (Source.lines_of_complete hread).symm.trans hlines

/-! ### The run without requests -/

/-- The watch without requests to shut down. -/
def calmed (w : Watch) : Watch :=
  { w with
    source := w.source.calm
    sink := { w.sink with shutdownFlush := none }
    shutdown := false }

/-- **A run that was not interrupted comes to what it comes to without any requests.** -/
theorem run_calmed (h : w.run.stop ≠ .ended .interrupted) : Finished.Same w.run w.calmed.run := by
  have hread : ∀ source source' : Source, source' = source.calm →
      (source.readLine false).ending ≠ .interrupted →
      (source.readLine false).bytes = (source'.readLine false).bytes ∧
        (source.readLine false).ending = (source'.readLine false).ending ∧
        ((source.readLine false).Complete →
          (source'.readLine false).rest = (source.readLine false).rest.calm) := by
    rintro source - rfl hend
    rw [Source.readLine_calm hend]
    exact ⟨rfl, rfl, fun _ => rfl⟩
  have hquiet : w.calmed.Quiet := ⟨rfl, w.source.requests_calm, rfl⟩
  have halike : w.Alike w.calmed := ⟨rfl, ⟨Iff.rfl, rfl, rfl, rfl, rfl, rfl⟩, rfl, rfl⟩
  exact halike.run_same hread rfl hquiet rfl h

/-! ### Interrupted runs -/

/-- **An interrupted run comes to what a run over the lines before comes to.** -/
theorem interrupted_run (h : w.run.stop = .ended .interrupted) :
    ∃ lines v, Reaches w lines v ∧ w.run.watch.monitor = v.monitor ∧ w.run.watch.sink = v.sink ∧
      w.run.watch.lines = v.lines := by
  obtain ⟨lines, v, stop, final, hreaches, hstop, hrun⟩ := exists_reaches w
  rw [hrun] at h ⊢
  obtain rfl : stop = .ended .interrupted := h
  obtain ⟨hmonitor, hsink, hcount, -⟩ := interrupted_of_step hstop
  exact ⟨lines, v, hreaches, hmonitor, hsink, hcount⟩

/-- **A shutdown cuts a run off between two lines.**

Let a monitor watch over any source into any sink, whenever a shutdown is requested.

If the run is interrupted, then the lines that it counts were echoed as a whole, and the monitor has
read them all and refused none.  A run over just these lines, without any request, comes to the same
monitor and the same sink, and ends with its stream.  If the run is not interrupted, then without the
requests it comes to the same.

A run is interrupted only if a shutdown was requested; and where one was requested before a line is
begun, the run ends there, with nothing more taken from the source.  A line that is completed without
a wait after the request is passed on unless its echo fails, and a line that was passed on is shown to
the monitor, the violation on it coming before the interruption. -/
theorem run_interrupted_between_lines (m : Monitor) (source : Source) (sink : Sink) (shutdown : Bool) :
    let w : Watch := { monitor := m, source, sink, shutdown }
    (w.run.stop = .ended .interrupted →
      let count := w.run.watch.lines
      let lines := (Text.lines source.bytes).take count
      lines.length = count ∧
      w.run.watch.sink = sink.after (Text.unlines lines) count ∧
      m.readLines 1 (lines.map Utf8.decodeLossy) = ⟨w.run.watch.monitor, count, none⟩ ∧
      ∀ first : Source, first.Steady → Text.lines first.bytes = lines →
        let alone := run { monitor := m, source := first, sink := { sink with shutdownFlush := none } }
        alone.stop = .ended .endOfStream ∧
        alone.outcome? = w.run.outcome?.map ({ · with termination := .endOfStream }) ∧
        alone.watch.monitor = w.run.watch.monitor ∧
        alone.watch.sink.taken = w.run.watch.sink.taken ∧
        alone.watch.sink.flushes = w.run.watch.sink.flushes ∧
        alone.watch.lines = count) ∧
    (w.run.stop ≠ .ended .interrupted → Finished.Same w.run w.calmed.run) ∧
    (w.run.stop = .ended .interrupted → Requested w w.run.watch) ∧
    (∀ lines v, Reaches w lines v → Requested w v →
      w.run = ⟨.ended .interrupted, { v with log := v.log.push (.shutdownRequested v.lines) }⟩) ∧
    (∀ lines v (before amid later : Source) line others, Reaches w lines v → ¬ Requested w v →
      v.source = before ++ .shutdown :: amid ++ later → before.Steady → lineFeed ∉ before.bytes →
      amid.Swift → (lineFeed ∈ amid.bytes ∨ later = []) →
      Text.lines v.source.bytes = line :: others →
      (∃ v', v.fetch = .line line v' ∧ Requested w v') ∨
        ∃ failure, echo v.sink line = .error failure ∧ w.run.stop = .failed failure.fault) ∧
    (∀ lines v line v', Reaches w lines v → v.fetch = .line line v' → Requested w v' →
      let reading := v.monitor.readLine (Utf8.decodeLossy line) (lines.length + 1)
      w.run.stop = (reading.refusal.map Stop.ofRefusal).getD (.ended .interrupted) ∧
      w.run.watch.monitor = reading.monitor ∧
      w.run.watch.sink = v.sink.after (line ++ [lineFeed]) 1) := by
  intro w
  refine ⟨?_, run_calmed, requested_of_interrupted, fun lines v => run_of_requested,
    fun lines v before amid later line others => fetch_of_swift, ?_⟩
  · intro hstop count lines
    obtain ⟨passed, v, hreaches, hmonitor, hsink, hcount⟩ := interrupted_run hstop
    have hpassed := hreaches.passed
    have hlength : count = passed.length := by
      rw [← Nat.zero_add passed.length]
      exact hcount.trans hpassed.count
    have hlines : lines = passed := by
      show (Text.lines source.bytes).take count = passed
      rw [hlength]
      exact hreaches.take_lines
    rw [hlines, hlength, hmonitor, hsink]
    refine ⟨rfl, hpassed.sink, hreaches.course_eq, ?_⟩
    intro first hfirst hfirstLines alone
    -- the run over these lines alone passes them on beside this one
    have halike : w.Alike { monitor := m, source := first, sink := { sink with shutdownFlush := none } } :=
      ⟨rfl, ⟨Iff.rfl, rfl, rfl, rfl, rfl, rfl⟩, rfl, rfl⟩
    obtain ⟨u, hrun, hu, hquiet, hsteady, hspent⟩ :=
      hreaches.beside halike ⟨rfl, Source.requests_of_steady hfirst, rfl⟩ hfirst hfirstLines
    obtain ⟨hend, hmonitor', hsink', hcount'⟩ := run_of_spent hquiet hsteady hspent
    have halone : alone = u.run := hrun
    rw [halone, hend, hmonitor', hsink', hcount', ← hu.monitor, ← hu.sink.taken, ← hu.sink.flushes,
      ← hu.lines]
    refine ⟨rfl, ?_, rfl, rfl, rfl, hcount.symm.trans hlength⟩
    rw [Finished.outcome?, Finished.outcome?, hend, hstop, hmonitor, hmonitor', hcount, hcount',
      ← hu.monitor, ← hu.lines]
    rfl
  · intro lines v line v' hreaches hfetch hrequested
    have hnumber : v.lines = lines.length := hreaches.passed.count.trans (Nat.zero_add _)
    rw [← hnumber]
    exact run_of_requested_amid hreaches hfetch hrequested

/-- A wait after the request gives an unfinished line up; without it the line is shown, and its
violation comes first. -/
example :
    let arrivals (amid : Source) : Source :=
      .data (Utf8.encode "persist was triggered\nrestore fin") :: .shutdown :: amid
        ++ [.data (Utf8.encode "ished\n")]
    let waiting := run { source := arrivals [.pending] }
    let swift := run { source := arrivals [] }
    (waiting.stop = .ended .interrupted ∧ waiting.watch.lines = 1 ∧
      waiting.watch.sink.taken = (Utf8.encode "persist was triggered\n").toArray) ∧
    swift.stop = .ended (.violation ⟨.restoreFinished, .triggered, some 2⟩) := by
  decide +kernel

end CheckpointMonitor.Watch
