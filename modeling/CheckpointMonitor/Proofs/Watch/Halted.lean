/-
CheckpointMonitor/Proofs/Watch/Halted.lean

Halted monitors, for good and from nothing else.

A run asks its monitor only about a line that it has passed on, so a run with a halted
monitor goes as far as the first line and no further: it ends as its stream, its sink or a
request to shut down ends it, and only where a first line was read to its end and passed on
does it find the monitor halted (`run_of_halted`).  The monitor stays as it is in every
case.

The other way around, a monitor that had not halted never answers that it has, also not
at the end of a run (`not_halted_of_run`).
-/
import CheckpointMonitor.Proofs.Monitor.Halting
import CheckpointMonitor.Proofs.Session
import CheckpointMonitor.Proofs.Watch.Coverage

namespace CheckpointMonitor

namespace Watch

variable {w w' final : Watch} {line : List UInt8} {stop : Stop} {sink : Sink}

/-! ### One line at most -/

/-- An echo that failed has passed on a part of the line with its line feed, at most all of it. -/
theorem taken_of_echo_error {failure : Sink.Failure} (h : echo sink line = .error failure) :
    ∃ part, part <+: line ++ [lineFeed] ∧ failure.sink.taken = sink.taken ++ part := by
  by_cases hsink : sink.perWrite = some 0
  · -- a sink that takes nothing
    refine ⟨[], List.nil_prefix, ?_⟩
    rcases eq_or_ne line [] with rfl | hline
    · simp only [echo, bind, Except.bind, Sink.writeAll_nil,
        Sink.writeAll_of_zero hsink (List.cons_ne_nil lineFeed [])] at h
      rw [← Except.error.inj h]
      exact Array.append_empty.symm
    · simp only [echo, bind, Except.bind, Sink.writeAll_of_zero hsink hline] at h
      rw [← Except.error.inj h]
      exact Array.append_empty.symm
  · rw [echo_eq hsink] at h
    split at h
    · -- all was written, but the flush failed
      refine ⟨line ++ [lineFeed], List.prefix_refl _, ?_⟩
      rcases Sink.flush_cases (sink.accept (line ++ [lineFeed])) with ⟨fault, -, hflush⟩ | ⟨-, hflush⟩
      · rw [hflush] at h
        rw [← Except.error.inj h, Sink.after_accept]
        rfl
      · rw [hflush] at h
        cases h
    · refine ⟨sink.fitting (line ++ [lineFeed]), Sink.fitting_prefix _ _, ?_⟩
      rw [← Except.error.inj h]
      rfl

/-- A fetching passes on a part of the first line of the source, at most all of it. -/
theorem taken_of_fetch (w : Watch) :
    ∃ part, part <+: (w.source.readLine false).bytes ++ [lineFeed] ∧
      w.fetch.watch.sink.taken = w.sink.taken ++ part := by
  -- wherever the sink is left alone
  have hnothing : ∃ part, part <+: (w.source.readLine false).bytes ++ [lineFeed] ∧
      w.sink.taken = w.sink.taken ++ part :=
    ⟨[], List.nil_prefix, Array.append_empty.symm⟩
  rcases fetch_cases w with ⟨-, hf⟩ | ⟨-, ⟨sink, -, hecho, hf⟩ | ⟨failure, -, hecho, hf⟩ | ⟨-, -, hf⟩ |
    ⟨-, hf⟩ | ⟨_, -, hf⟩⟩
  · rw [hf]
    exact hnothing
  · refine ⟨_, List.prefix_refl _, ?_⟩
    rw [hf]
    show sink.taken = _
    rw [sink_of_echo hecho]
    rfl
  · rw [hf]
    exact taken_of_echo_error hecho
  · rw [hf]
    exact hnothing
  · rw [hf]
    exact hnothing
  · rw [hf]
    exact hnothing

/-- A line is fetched exactly if it was read to its end and passed on. -/
theorem exists_fetch_line_iff :
    (∃ line w', w.fetch = .line line w') ↔ w.shutdown = false ∧ (w.source.readLine false).Complete ∧
      ∃ sink, echo w.sink (w.source.readLine false).bytes = .ok sink := by
  constructor
  · rintro ⟨line, w', h⟩
    obtain ⟨hshutdown, hread, rfl, sink, hecho, -⟩ := exists_of_fetch_line h
    exact ⟨hshutdown, hread, sink, hecho⟩
  · rintro ⟨hshutdown, hread, sink, hecho⟩
    exact ⟨_, _, (fetch_of_complete hshutdown hread).trans (passOn_of_ok hecho)⟩

/-! ### Runs with a halted monitor -/

/-- A line that was passed on finds the monitor halted. -/
theorem run_of_fetch_line (hm : w.monitor.isHalted = true) (h : w.fetch = .line line w') :
    w.run = ⟨.halted, w'.record ⟨[], some .halted, w.monitor⟩⟩ := by
  rw [← monitor_of_fetch_line h] at hm ⊢
  have hread := Monitor.readLine_of_halted hm (Utf8.decodeLossy line) w'.lines
  have hrefused : (w'.monitor.readLine (Utf8.decodeLossy line) w'.lines).refusal = some .halted := by
    rw [hread]
  rw [run_of_stop ((step_of_line h).trans (interpret_of_refused hrefused)), hread]
  rfl

/-- What comes of a run whose monitor had halted before. -/
structure Rejected (w : Watch) : Prop where
  /-- The monitor stays as it is. -/
  monitor : w.run.watch.monitor = w.monitor
  /-- No more is echoed than the first line. -/
  taken : ∃ part, part <+: (w.source.readLine false).bytes ++ [lineFeed] ∧
    w.run.watch.sink.taken = w.sink.taken ++ part
  /-- The run finds the monitor halted exactly if a first line was read to its end, echoed and
  flushed. -/
  halted : w.run.failure? = some .halted ↔
    w.shutdown = false ∧ (w.source.readLine false).Complete ∧
      ∃ sink, echo w.sink (w.source.readLine false).bytes = .ok sink
  /-- Otherwise it fails as the reading or the echo of this line did, or it ends with nothing echoed,
  since nothing was left of the stream or a shutdown was requested. -/
  otherwise : w.run.failure? ≠ some .halted →
    (∃ fault, w.run.failure? = some (.channel fault) ∧
      ((w.source.readLine false).ending = .failed fault ∨
        (w.source.readLine false).Complete ∧
          ∃ sink, echo w.sink (w.source.readLine false).bytes = .error ⟨fault, sink⟩)) ∨
    ∃ termination, w.run.outcome? = some ⟨w.monitor.tally, w.monitor.phase, w.lines, termination⟩ ∧
      (termination = .endOfStream ∧ (w.source.readLine false).ending = .exhausted ∧
          (w.source.readLine false).bytes = [] ∨
        termination = .interrupted ∧ (w.shutdown = true ∨ (w.source.readLine false).ending = .interrupted))

/-- **A run with a halted monitor goes as far as the first line.** -/
theorem rejected_of_halted (hm : w.monitor.isHalted = true) : w.Rejected where
  monitor := (monitor_run w).trans (Monitor.actAll_of_halted hm _)
  taken := by
    have htaken := taken_of_fetch w
    rcases hf : w.fetch with ⟨line, w'⟩ | ⟨stop, w'⟩
    · rw [hf] at htaken
      rw [run_of_fetch_line hm hf]
      exact htaken
    · rw [hf] at htaken
      rw [run_of_stop (step_of_stop hf)]
      exact htaken
  halted := by
    rw [← exists_fetch_line_iff]
    constructor
    · intro hhalted
      rcases hf : w.fetch with ⟨line, w'⟩ | ⟨stop, w'⟩
      · exact ⟨line, w', rfl⟩
      · -- where no line is fetched the monitor is not asked
        rw [run_of_stop (step_of_stop hf)] at hhalted
        cases stop with
        | ended => cases hhalted
        | failed => cases hhalted
        | halted =>
          obtain ⟨-, -, hrefusal⟩ := left_of_fetch_stop hf (Or.inl nofun)
          cases hrefusal
    · rintro ⟨line, w', hf⟩
      rw [run_of_fetch_line hm hf]
      rfl
  otherwise := by
    intro hne
    rcases fetch_cases w with ⟨hshutdown, hf⟩ | ⟨-, ⟨sink, -, -, hf⟩ | ⟨failure, hread, hecho, hf⟩ |
      ⟨hend, hbytes, hf⟩ | ⟨hend, hf⟩ | ⟨fault, hend, hf⟩⟩
    · right
      rw [run_of_stop (step_of_stop hf)]
      exact ⟨_, rfl, Or.inr ⟨rfl, Or.inl hshutdown⟩⟩
    · rw [run_of_fetch_line hm hf] at hne
      exact absurd rfl hne
    · left
      rw [run_of_stop (step_of_stop hf)]
      exact ⟨failure.fault, rfl, Or.inr ⟨hread, failure.sink, hecho⟩⟩
    · right
      rw [run_of_stop (step_of_stop hf)]
      exact ⟨_, rfl, Or.inl ⟨rfl, hend, hbytes⟩⟩
    · right
      rw [run_of_stop (step_of_stop hf)]
      exact ⟨_, rfl, Or.inr ⟨rfl, Or.inr hend⟩⟩
    · left
      rw [run_of_stop (step_of_stop hf)]
      exact ⟨fault, rfl, Or.inl hend⟩

/-- **A run with a monitor that had not halted does not find it halted.** -/
theorem not_halted_of_run (hm : w.monitor.isHalted = false) : w.run.failure? ≠ some .halted := by
  intro hhalted
  have hstop : w.run.stop = .halted := by
    rw [Finished.failure?] at hhalted
    split at hhalted
    · cases hhalted
    · cases hhalted
    · assumption
  obtain ⟨lines, hcovers⟩ : ∃ lines, w.Covers lines := by
    apply exists_covers
    rw [hstop]
    exact Or.inl nofun
  -- the refusal would have been that of a line, and a line is refused by a violation
  have hrefusal := Monitor.refusal_readLines hm (w.lines + 1) (lines.map Utf8.decodeLossy)
  rw [hcovers.course, hstop] at hrefusal
  obtain ⟨v, -, hv⟩ := Option.map_eq_some_iff.mp hrefusal.symm
  cases hv

/-- A run fails only as its source or its sink does, or on a monitor that had halted. -/
theorem failure_of_run {failure : Failure} (h : w.run.failure? = some failure) :
    (∃ fault, failure = .channel fault) ∨ failure = .halted ∧ w.monitor.isHalted = true := by
  rw [Finished.failure?] at h
  split at h
  · cases h
  · exact Or.inl ⟨_, (Option.some.inj h).symm⟩
  · next hstop =>
    refine Or.inr ⟨(Option.some.inj h).symm, ?_⟩
    by_contra hm
    apply not_halted_of_run (Bool.eq_false_iff.mpr hm)
    rw [Finished.failure?, hstop]

end Watch

namespace Monitor

variable {m : Monitor}

/-- No call changes a halted monitor. -/
theorem callAll_of_halted (hm : m.isHalted = true) (calls : List Call) : m.callAll calls = m := by
  rw [callAll_eq_actAll, actAll_of_halted hm]

/-- A marker does not find a monitor halted that had not. -/
theorem not_halted_of_observe (hm : m.isHalted = false) (k : Marker) :
    (m.observe k).1 ≠ .error .halted := by
  intro h
  rw [observe] at h
  rcases observeAt_cases none m k with ⟨hh, -⟩ | ⟨p, -, -, e⟩ | ⟨-, -, e⟩ | ⟨-, -, e⟩
  · cases hm.symm.trans hh
  · cases (congrArg Prod.fst e).symm.trans h
  · cases (congrArg Prod.fst e).symm.trans h
  · cases (congrArg Prod.fst e).symm.trans h

/-- Nor does a line. -/
theorem not_halted_of_readLine (hm : m.isHalted = false) (text : String) (number : Nat) :
    (m.readLine text number).result ≠ .error .halted := by
  intro h
  have hrefusal := refusal_readLine hm text number
  rw [Reading.result] at h
  split at h
  · cases h
  · next hread =>
    obtain rfl := Except.error.inj h
    obtain ⟨v, -, hv⟩ := Option.map_eq_some_iff.mp (hrefusal.symm.trans hread)
    cases hv

/-- **A violation halts a monitor for good, and nothing else does.**

A monitor that a session left halted is the monitor at which the refused marker arrived, with the
violation noted, and whatever is done afterwards leaves it at that: every marker and every line is
answered with the halt, and a watch goes as far as its first line.  A monitor that had not
halted never answers so, and no watch fails in any other way than by its channels or by a
monitor that had halted. -/
theorem halted_for_good :
    (∀ calls : List Call, (callAll {} calls).isHalted = true →
      ∃ before a after m' v, actsOf {} calls = before ++ a :: after ∧ Offends (actAll {} before) a m' v ∧
        ∀ later : List Call,
          let m := callAll {} (calls ++ later)
          m = m'.halt v ∧
          (∀ k, m.observe k = (.error .halted, m)) ∧
          (∀ text number, (m.readLine text number).result = .error .halted ∧
            (m.readLine text number).monitor = m) ∧
          ∀ source sink shutdown, Watch.Rejected { monitor := m, source, sink, shutdown }) ∧
    (∀ m : Monitor, m.isHalted = false →
      (∀ k, (m.observe k).1 ≠ .error .halted) ∧
      (∀ text number, (m.readLine text number).result ≠ .error .halted) ∧
      ∀ source sink shutdown,
        (Watch.run { monitor := m, source, sink, shutdown }).failure? ≠ some .halted) ∧
    (∀ (w : Watch) (failure : Failure), w.run.failure? = some failure →
      (∃ fault, failure = .channel fault) ∨ failure = .halted ∧ w.monitor.isHalted = true) := by
  refine ⟨?_, ?_, ?_⟩
  · intro calls hhalted
    have hhalted' := hhalted
    rw [callAll_eq_actAll] at hhalted'
    obtain ⟨before, a, after, m', v, hacts, hoffends, hend⟩ := exists_offends_of_actAll rfl hhalted'
    refine ⟨before, a, after, m', v, hacts, hoffends, ?_⟩
    intro later m
    have hm : m = callAll {} calls := by
      show callAll {} (calls ++ later) = _
      rw [callAll, List.foldl_append]
      exact callAll_of_halted hhalted later
    have hm' : m.isHalted = true := hm ▸ hhalted
    refine ⟨?_, observeAt_of_halted hm', ?_, ?_⟩
    · rw [hm, callAll_eq_actAll, hend]
    · intro text number
      rw [readLine_of_halted hm']
      exact ⟨rfl, rfl⟩
    · intro source sink shutdown
      exact Watch.rejected_of_halted hm'
  · intro m hm
    exact ⟨not_halted_of_observe hm, not_halted_of_readLine hm, fun _ _ _ => Watch.not_halted_of_run hm⟩
  · intro w failure h
    exact Watch.failure_of_run h

/-- A watch halts on a line whose first marker still moved the protocol on, and the calls after it
change nothing. -/
theorem halted_of_second_marker :
    let source : Source := [.data (Utf8.encode "x\npersist was triggered, restore finished\ny\n")]
    let calls : List Call := [.watch source {} false]
    let later : List Call := [.readLine "finished clearing buffer" 7, .observe .bufferCleared]
    let m := callAll {} (calls ++ later)
    (callAll {} calls).isHalted = true ∧
      m = callAll {} calls ∧
      (m.phase, m.linesSeen, m.violation) =
        (.triggered, 2, some ⟨.restoreFinished, .triggered, some 2⟩) ∧
      m.observe .bufferCleared = (.error .halted, m) ∧
      (Watch.run { monitor := m, source := [.data [lineFeed]] }).failure? = some .halted ∧
      (Watch.run { monitor := m, source := [] }).failure? ≠ some .halted := by
  intro source calls later m
  have hhalted : (callAll {} calls).isHalted = true := by decide +kernel
  obtain ⟨_, _, _, _, _, -, -, hlater⟩ := halted_for_good.1 calls hhalted
  obtain ⟨hm, hobserve, -, hwatch⟩ := hlater later
  obtain ⟨hm', -⟩ := hlater []
  rw [List.append_nil] at hm'
  have hsame : m = callAll {} calls := hm.trans hm'.symm
  have hfields : (m.phase, m.linesSeen, m.violation) =
      (.triggered, 2, some ⟨.restoreFinished, .triggered, some 2⟩) := by
    rw [hsame]
    decide +kernel
  refine ⟨hhalted, hsame, hfields, hobserve _, ?_, ?_⟩
  · -- an empty line is passed on
    have hsink : Sink.Accepting {} := ⟨by decide, rfl, rfl⟩
    exact (hwatch [.data [lineFeed]] {} false).halted.mpr
      ⟨rfl, Or.inl rfl, _, Watch.echo_of_accepting hsink _⟩
  · -- without a line the monitor is not asked
    intro hfound
    rcases (hwatch [] {} false).halted.mp hfound with ⟨-, hend | ⟨-, hbytes⟩, -⟩
    · cases hend
    · exact hbytes rfl

end Monitor

end CheckpointMonitor
