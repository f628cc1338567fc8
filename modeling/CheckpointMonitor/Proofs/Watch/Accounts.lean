/-
CheckpointMonitor/Proofs/Watch/Accounts.lean

What an outcome says, against everything else that can be seen of its run.

A run counts its lines, and so do the monitor and the sink, each on its own; the violation
is noted by the monitor and answered by the run.  That all of them agree follows from the
lines that the run covered (`Covers`): they are what was echoed, what was flushed one by one
and what the monitor read.  On which of them the monitor halted is said by the reading of
lines alone (`Monitor.exists_of_refused`).

Nothing is assumed of the source, the sink or the requests to shut down.
-/
import CheckpointMonitor.Proofs.Monitor.Numbering
import CheckpointMonitor.Proofs.Monitor.Trail
import CheckpointMonitor.Proofs.Protocol.Detection
import CheckpointMonitor.Proofs.Watch.Coverage
import CheckpointMonitor.Proofs.Watch.Reference

namespace CheckpointMonitor

/-- Lines that are written out have as many line feeds as there are lines. -/
theorem Text.count_unlines {lines : List (List UInt8)} (h : ∀ line ∈ lines, lineFeed ∉ line) :
    (unlines lines).count lineFeed = lines.length := by
  induction lines with
  | nil => rfl
  | cons line later ih =>
    obtain ⟨hline, hlater⟩ := List.forall_mem_cons.mp h
    rw [unlines_cons, List.count_append, List.count_cons_self, List.count_eq_zero.mpr hline, ih hlater,
      List.length_cons, Nat.zero_add]

namespace Watch

variable {w : Watch} {lines : List (List UInt8)} {o : Outcome} {v : Violation}

/-- Covered lines are counted by the monitor too. -/
theorem Covers.linesSeen (h : w.Covers lines) (hm : w.monitor.isHalted = false) :
    w.run.watch.monitor.linesSeen = w.monitor.linesSeen + lines.length := by
  have hseen := Monitor.linesSeen_readLines hm (w.lines + 1) (lines.map Utf8.decodeLossy)
  rwa [h.course] at hseen

/-- The violation that ended a run is the one that its monitor holds. -/
theorem Covers.violation_eq (h : w.Covers lines) (hm : w.monitor.isHalted = false)
    (ho : w.run.outcome? = some o) : w.run.watch.monitor.violation = o.termination.violation? := by
  have hrefusal := Monitor.refusal_readLines hm (w.lines + 1) (lines.map Utf8.decodeLossy)
  rw [h.course, (Finished.stop_of_outcome? ho).1, Stop.refusal?_ended] at hrefusal
  exact (Option.map_injective (fun _ _ => Refusal.violation.inj) hrefusal).symm

/-- **The line of a violation.**  A run that ended on a violation covered the lines that its monitor
accepted and, as the last one, the line on which it halted. -/
theorem Covers.exists_last (h : w.Covers lines) (hm : w.monitor.isHalted = false)
    (hstop : w.run.stop = .ended (.violation v)) :
    ∃ earlier last, lines = earlier ++ [last] ∧ v.line = some (w.lines + lines.length) ∧
      v.phase = w.run.watch.monitor.phase ∧ (v.phase, v.marker) ∉ Phase.rows ∧
      Utf8.encode v.marker.phrase <:+: last ∧
      (w.monitor.readLines (w.lines + 1) (earlier.map Utf8.decodeLossy)).refusal = none := by
  have hrefusal : (w.monitor.readLines (w.lines + 1) (lines.map Utf8.decodeLossy)).refusal
      = some (.violation v) := by
    rw [h.course, hstop]
    rfl
  obtain ⟨earlier, text, later, hmap, hcount, haccepted, hrefused, hmonitor⟩ :=
    Monitor.exists_of_refused hrefusal
  -- all the lines were read, so nothing comes after the refused one
  obtain ⟨earlier, last, rfl, rfl, hlast⟩ := List.map_eq_append_iff.mp hmap
  obtain ⟨last, later', rfl, rfl, rfl⟩ := List.map_eq_cons_iff.mp hlast
  have hlater : later' = [] := by
    rw [h.course, List.length_map] at hcount
    simpa using hcount
  subst hlater
  have hbefore := Monitor.not_halted_of_readLines hm haccepted
  obtain ⟨hcarried, hphase, hrows⟩ := Monitor.carried_of_refused hbefore hrefused
  refine ⟨earlier, last, rfl, ?_, ?_, hrows, Marker.occursIn_decodeLossy_iff.mp hcarried, haccepted⟩
  · rw [Monitor.line_of_readLine hbefore hrefused, List.length_map, List.length_append, Nat.add_right_comm]
    rfl
  · rw [hphase, hmonitor, h.course]

/-- **An outcome is in accord with the monitor and the sink.**

Let a monitor that has not halted watch over any source, into any sink, with a shutdown requested or
not, and let the run have an outcome.  Then the outcome gives the counters and the phase of the
monitor.  The lines that it counts are those in the sink, each with a line feed, as many as there
were flushes and as the monitor has seen.  It tells of a violation exactly if the monitor halted,
and of the one that is recorded: it is on the last line in the sink, which carries the marker, and
the marker has no row in the phase of the outcome; all lines before were accepted.  After any other
end no violation is recorded. -/
theorem outcome_accords {m : Monitor} {source : Source} {sink : Sink} {shutdown : Bool} {o : Outcome}
    (hm : m.isHalted = false) (ho : (run { monitor := m, source, sink, shutdown }).outcome? = some o) :
    let finished := run { monitor := m, source, sink, shutdown }
    let after := finished.watch.monitor
    o.tally = after.tally ∧ o.finalPhase = after.phase ∧
    ∃ lines : List (List UInt8), (∀ line ∈ lines, lineFeed ∉ line) ∧
      (finished.watch.sink.taken = sink.taken ++ Text.unlines lines ∧
        (Text.unlines lines).count lineFeed = o.linesEchoed ∧ lines.length = o.linesEchoed ∧
        finished.watch.sink.flushes = sink.flushes + o.linesEchoed ∧
        after.linesSeen = m.linesSeen + o.linesEchoed) ∧
      (after.isHalted = true ↔ ∃ v, o.termination = .violation v) ∧
      (∀ v, o.termination = .violation v →
        after.violation = some v ∧ v.line = some o.linesEchoed ∧ v.phase = o.finalPhase ∧
          (v.phase, v.marker) ∉ Phase.rows ∧
          ∃ earlier last, lines = earlier ++ [last] ∧ Utf8.encode v.marker.phrase <:+: last ∧
            (m.readLines 1 (earlier.map Utf8.decodeLossy)).refusal = none) ∧
      (o.termination = .endOfStream ∨ o.termination = .interrupted → after.violation = none) := by
  intro finished after
  obtain ⟨hstop, heq⟩ := Finished.stop_of_outcome? ho
  -- a run with an outcome did not fail
  have hecho : ∀ fault, finished.stop ≠ .failed fault := by
    intro fault hfailed
    cases hstop.symm.trans hfailed
  obtain ⟨lines, hcovers⟩ := exists_covers (Or.inl hecho)
  have hlines : lines.length = o.linesEchoed := by
    rw [heq]
    exact (hcovers.count.trans (Nat.zero_add _)).symm
  have hphase : o.finalPhase = after.phase := by rw [heq]
  have hviolation : after.violation = o.termination.violation? := hcovers.violation_eq hm ho
  refine ⟨by rw [heq], hphase, lines, hcovers.lineFeed_notMem, ⟨hcovers.taken, ?_, hlines, ?_, ?_⟩, ?_, ?_, ?_⟩
  · rw [Text.count_unlines hcovers.lineFeed_notMem, hlines]
  · rw [← hlines]
    exact congrArg Sink.flushes hcovers.sink
  · rw [← hlines]
    exact hcovers.linesSeen hm
  · rw [Monitor.isHalted, hviolation]
    rcases o.termination with - | - | v <;> simp [Termination.violation?]
  · intro v hv
    rw [hv] at hstop hviolation
    obtain ⟨earlier, last, hlast, hline, hv', hrows, hcarried, haccepted⟩ := hcovers.exists_last hm hstop
    refine ⟨hviolation, ?_, hv'.trans hphase.symm, hrows, earlier, last, hlast, hcarried, haccepted⟩
    rw [hline, hlines]
    exact congrArg some (Nat.zero_add _)
  · rintro (hend | hend) <;> rw [hviolation, hend] <;> rfl

/-- A violation on a last line that is left open, after a line that was passed over. -/
theorem accord_of_violation_amid_line :
    let m : Monitor := { phase := .queued, linesSeen := 9 }
    let source : Source :=
      [.data [0x21, 0x0A, 0x72, 0x65, 0x73, 0x74, 0x6F, 0x72, 0x65], .pending,
        .data [0x20, 0x66, 0x69, 0x6E, 0x69, 0x73, 0x68, 0x65, 0x64]]
    let sink : Sink := { perWrite := some 1, taken := #[0x0A], flushes := 4 }
    let finished := run { monitor := m, source, sink, shutdown := false }
    m.isHalted = false ∧ ∃ o, finished.outcome? = some o ∧
      o.termination = .violation ⟨.restoreFinished, .queued, some 2⟩ ∧ o.linesEchoed = 2 ∧
      finished.watch.sink.flushes = 6 ∧ finished.watch.monitor.linesSeen = 11 := by
  intro m source sink finished
  have hw : Undisturbed { monitor := m, source, sink, shutdown := false } :=
    ⟨by decide, ⟨by decide, rfl, rfl, rfl⟩, rfl⟩
  obtain ⟨hstop, hmonitor, -⟩ := run_of_undisturbed hw
  obtain ⟨termination, ho, -⟩ := outcome?_of_course (Monitor.refusal_readLines rfl 1 _) hstop hmonitor
  obtain ⟨-, -, lines, -, ⟨-, -, -, hflushes, hseen⟩, hhalted, hviolation, -⟩ := outcome_accords rfl ho
  have hv : finished.watch.monitor.violation = some ⟨.restoreFinished, .queued, some 2⟩ :=
    (congrArg Monitor.violation hmonitor).trans (by decide)
  obtain ⟨v, hend⟩ := hhalted.mp (by rw [Monitor.isHalted, hv]; rfl)
  obtain ⟨hrecorded, hline, -⟩ := hviolation v hend
  obtain rfl := Option.some.inj (hv.symm.trans hrecorded)
  -- the line of the violation is the number of lines
  have hlines := Option.some.inj hline
  refine ⟨rfl, _, ho, hend, hlines.symm, ?_, ?_⟩
  · rw [hflushes, ← hlines]
  · rw [hseen, ← hlines]

end Watch

end CheckpointMonitor
