/-
CheckpointMonitor/Proofs/Watch/Agreement.lean

Watches that agree in all but their sources and in what is known of a shutdown.

Such watches need not read their lines from the same arrivals.  If their readings
come to the same, so do their steps (`Alike.step`), and what is left to be
compared is what they have yet to read.  A step reads one line and knows of a
shutdown what the reading and the flush told it (`reading_of_step`,
`shutdown_of_step`).

A quiet watch is one that never learns of a shutdown; it is not interrupted.
-/
import CheckpointMonitor.Proofs.Watch.Passage

namespace CheckpointMonitor.Watch

variable {w w' v : Watch} {line : List UInt8}

/-! ### Agreement -/

/-- The watches agree in what they have done; their sources may differ. -/
structure Alike (w w' : Watch) : Prop where
  monitor : w.monitor = w'.monitor
  sink : w.sink.Alike w'.sink
  lines : w.lines = w'.lines
  log : w.log = w'.log

/-- Fetchings that came to the same. -/
inductive AlikeFetched : Fetched → Fetched → Prop where
  | line {w w' : Watch} {bytes : List UInt8} (h : w.Alike w') :
    AlikeFetched (.line bytes w) (.line bytes w')
  | stop {w w' : Watch} {stop : Stop} (h : w.Alike w') :
    AlikeFetched (.stop stop w) (.stop stop w')

/-- Steps that came to the same. -/
inductive AlikeStep : Step → Step → Prop where
  | next {w w' : Watch} (h : w.Alike w') : AlikeStep (.next w) (.next w')
  | stop {w w' : Watch} {stop : Stop} (h : w.Alike w') : AlikeStep (.stop stop w) (.stop stop w')

/-- Readings that came to the same: the same bytes, with the same ending or both complete. -/
def AlikeRead (read read' : Source.Read) : Prop :=
  read.bytes = read'.bytes ∧ (read.Complete ∧ read'.Complete ∨ read.ending = read'.ending)

/-- The echo of a line depends on what the sink takes alone. -/
theorem alike_echo {sink sink' : Sink} (h : sink.Alike sink') (line : List UInt8) :
    Sink.AlikeResult (echo sink line) (echo sink' line) :=
  (h.writeAll line).bind fun _ _ h => (h.writeAll [lineFeed]).bind fun _ _ h => h.flush

namespace Alike

theorem record (h : w.Alike w') (reading : Monitor.Reading) :
    (w.record reading).Alike (w'.record reading) :=
  ⟨rfl, h.sink, h.lines, congrArg (fun log : Array Log.Record => log ++ Log.Record.ofReading reading) h.log⟩

theorem ahead (h : w.Alike w') : w.ahead.Alike w'.ahead :=
  ⟨h.monitor, h.sink, h.lines, h.log⟩

theorem interrupt (h : w.Alike w') : AlikeFetched w.interrupt w'.interrupt := by
  refine .stop ⟨h.monitor, h.sink, h.lines, ?_⟩
  rw [h.lines, h.log]

theorem close (h : w.Alike w') : AlikeFetched w.close w'.close := by
  refine .stop ⟨h.monitor, h.sink, h.lines, ?_⟩
  rw [h.lines, h.log]

theorem passOn (h : w.Alike w') (line : List UInt8) :
    AlikeFetched (w.passOn line) (w'.passOn line) := by
  have hlines := congrArg Nat.succ h.lines
  have hecho := alike_echo h.sink line
  rw [Watch.passOn, Watch.passOn]
  generalize echo w.sink line = result at hecho ⊢
  generalize echo w'.sink line = result' at hecho ⊢
  cases hecho with
  | ok hsink => exact .line ⟨h.monitor, hsink, hlines, h.log⟩
  | error hsink => exact .stop ⟨h.monitor, hsink, hlines, h.log⟩

theorem interpret (h : w.Alike w') (line : List UInt8) :
    AlikeStep (w.interpret line) (w'.interpret line) := by
  rw [Watch.interpret, Watch.interpret, ← h.monitor, ← h.lines]
  generalize w.monitor.readLine (Utf8.decodeLossy line) w.lines = reading
  have hrecord := h.record reading
  split
  · exact .next hrecord
  · exact .stop hrecord
  · exact .stop hrecord

/-- **What a watch fetches depends on what its reading came to alone.** -/
theorem fetch (h : w.Alike w') (hw : w.shutdown = false) (hw' : w'.shutdown = false)
    (hread : AlikeRead (w.source.readLine false) (w'.source.readLine false)) :
    AlikeFetched w.fetch w'.fetch := by
  -- the same ending means the same kind of ending, since the bytes are the same
  obtain ⟨hbytes, hcomplete | hend⟩ := hread
  · rw [fetch_of_complete hw hcomplete.1, fetch_of_complete hw' hcomplete.2, hbytes]
    exact h.ahead.passOn _
  rcases (w.source.readLine false).ending_cases with hcomplete | ⟨hspent, hnil⟩ | hinterrupted |
    ⟨fault, hfailed⟩
  · have hcomplete' : (w'.source.readLine false).Complete := by
      rwa [Source.Read.Complete, ← hend, ← hbytes]
    rw [fetch_of_complete hw hcomplete, fetch_of_complete hw' hcomplete', hbytes]
    exact h.ahead.passOn _
  · rw [fetch_of_spent hw hspent hnil, fetch_of_spent hw' (hend ▸ hspent) (hbytes ▸ hnil)]
    exact h.ahead.close
  · rw [fetch_of_interrupted hw hinterrupted, fetch_of_interrupted hw' (hend ▸ hinterrupted)]
    exact h.ahead.interrupt
  · rw [fetch_of_failed hw hfailed, fetch_of_failed hw' (hend ▸ hfailed)]
    exact .stop h.ahead

/-- **Watches that agree, and whose readings come to the same, step alike.** -/
theorem step (h : w.Alike w') (hw : w.shutdown = false) (hw' : w'.shutdown = false)
    (hread : AlikeRead (w.source.readLine false) (w'.source.readLine false)) :
    AlikeStep w.step w'.step := by
  have hfetch := h.fetch hw hw' hread
  rw [Watch.step, Watch.step]
  generalize w.fetch = fetched at hfetch ⊢
  generalize w'.fetch = fetched' at hfetch ⊢
  cases hfetch with
  | line h => exact h.interpret _
  | stop h => exact .stop h

end Alike

/-! ### What a step reads -/

/-- A step takes from the source what it read. -/
theorem consumed_of_step (hw : w.shutdown = false) :
    w.step.watch.consumed = w.consumed + (w.source.readLine false).size := by
  have hfetch : w.fetch.watch.consumed = w.ahead.consumed := by
    rcases fetch_cases w with ⟨hshutdown, -⟩ | ⟨-, ⟨_, -, -, hf⟩ | ⟨_, -, -, hf⟩ | ⟨-, -, hf⟩ |
      ⟨-, hf⟩ | ⟨_, -, hf⟩⟩
    · rw [hw] at hshutdown
      cases hshutdown
    all_goals
      rw [hf]
      rfl
  rcases hf : w.fetch with ⟨line, w'⟩ | ⟨stop, w'⟩
  · rw [hf] at hfetch
    rw [step_of_line hf, watch_interpret]
    exact hfetch
  · rw [hf] at hfetch
    rw [step_of_stop hf]
    exact hfetch

/-! ### Quiet watches -/

/-- A watch that never learns of a shutdown. -/
structure Quiet (w : Watch) : Prop where
  shutdown : w.shutdown = false
  requests : w.source.requests = 0
  shutdownFlush : w.sink.shutdownFlush = none

theorem Quiet.next (h : w.Quiet) (hstep : w.step = .next v) : v.Quiet := by
  obtain ⟨bytes, hsink⟩ := sink_of_next hstep
  have hflush : v.sink.shutdownFlush = none := by
    rw [hsink]
    exact h.shutdownFlush
  have hrest : v.source.requests = 0 := by
    have hle := Source.requests_rest_le false w.source
    rw [h.requests] at hle
    rw [source_of_next hstep]
    exact Nat.le_zero.mp hle
  refine ⟨?_, hrest, hflush⟩
  have hread : (w.source.readLine false).shutdown = false := by
    rw [← Bool.not_eq_true, Source.shutdown_readLine_iff, h.requests]
    simp
  rw [shutdown_of_next hstep, hread, Sink.requestsShutdown, hflush]
  rfl

/-! ### Runs of which nothing shows a difference -/

/-- The two runs came to the same. -/
structure Finished.Same (finished finished' : Finished) : Prop where
  stop : finished.stop = finished'.stop
  outcome : finished.outcome? = finished'.outcome?
  monitor : finished.watch.monitor = finished'.watch.monitor
  taken : finished.watch.sink.taken = finished'.watch.sink.taken
  flushes : finished.watch.sink.flushes = finished'.watch.sink.flushes
  lines : finished.watch.lines = finished'.watch.lines
  consumed : finished.watch.consumed = finished'.watch.consumed
  log : finished.watch.log = finished'.watch.log

theorem Alike.same {stop : Stop} (h : w.Alike w') (hconsumed : w.consumed = w'.consumed) :
    Finished.Same ⟨stop, w⟩ ⟨stop, w'⟩ where
  stop := rfl
  outcome := by
    rw [Finished.outcome?, Finished.outcome?, h.monitor, h.lines]
  monitor := h.monitor
  taken := h.sink.taken
  flushes := h.sink.flushes
  lines := h.lines
  consumed := hconsumed
  log := h.log

/-- A watch that stops, but not on request, has read, and was not interrupted in it. -/
theorem uninterrupted_of_stop {stop : Stop} (h : w.step = .stop stop v)
    (hstop : stop ≠ .ended .interrupted) :
    w.shutdown = false ∧ (w.source.readLine false).ending ≠ .interrupted := by
  have hinterrupt : ∀ u : Watch, w.fetch ≠ u.interrupt := by
    intro u hfetch
    exact hstop (Step.stop.inj (h.symm.trans (step_of_stop hfetch))).1
  have hshutdown : w.shutdown = false :=
    Bool.eq_false_iff.mpr fun hshutdown => hinterrupt w (fetch_of_shutdown hshutdown)
  exact ⟨hshutdown, fun hend => hinterrupt w.ahead (fetch_of_interrupted hshutdown hend)⟩

/-- **Runs that read the same come to the same.**  Beside a run that is not interrupted, a quiet one
whose source is in relation to that of the first comes to the same, if readings of related sources
give the same bytes with the same ending, unless the first is interrupted, and related sources are
left after a line. -/
theorem Alike.run_same {P : Source → Source → Prop}
    (hread : ∀ source source', P source source' → (source.readLine false).ending ≠ .interrupted →
      (source.readLine false).bytes = (source'.readLine false).bytes ∧
        (source.readLine false).ending = (source'.readLine false).ending ∧
        ((source.readLine false).Complete →
          P (source.readLine false).rest (source'.readLine false).rest))
    (h : w.Alike w') (hconsumed : w.consumed = w'.consumed) (hquiet : w'.Quiet)
    (hsource : P w.source w'.source) (hstop : w.run.stop ≠ .ended .interrupted) :
    Finished.Same w.run w'.run := by
  -- one step, and what was taken from the sources with it
  have hstep : ∀ u u' : Watch, u.Alike u' → u.consumed = u'.consumed → u'.Quiet → P u.source u'.source →
      u.shutdown = false → (u.source.readLine false).ending ≠ .interrupted →
      AlikeStep u.step u'.step ∧ u.step.watch.consumed = u'.step.watch.consumed := by
    intro u u' halike hconsumed hquiet hsource hshutdown hend
    obtain ⟨hbytes, hending, -⟩ := hread _ _ hsource hend
    refine ⟨halike.step hshutdown hquiet.shutdown ⟨hbytes, Or.inr hending⟩, ?_⟩
    rw [consumed_of_step hshutdown, consumed_of_step hquiet.shutdown, hconsumed, Source.Read.size,
      Source.Read.size, hbytes, hending]
  refine run_lockstep
    (R := fun u u' => u.Alike u' ∧ u.consumed = u'.consumed ∧ u'.Quiet ∧ P u.source u'.source)
    (S := fun f f' => f.stop ≠ .ended .interrupted → Finished.Same f f')
    ?_ ?_ ⟨h, hconsumed, hquiet, hsource⟩ hstop
  · rintro u u' v ⟨halike, hconsumed, hquiet, hsource⟩ hnext
    obtain ⟨line, u₁, hfetch, -⟩ := exists_of_next hnext
    obtain ⟨hshutdown, hcomplete, -⟩ := exists_of_fetch_line hfetch
    have hend : (u.source.readLine false).ending ≠ .interrupted := by
      rcases hcomplete with hend | ⟨hend, -⟩ <;> rw [hend] <;> exact Source.Ending.noConfusion
    obtain ⟨hsteps, hcount⟩ := hstep u u' halike hconsumed hquiet hsource hshutdown hend
    rw [hnext] at hsteps hcount
    rcases hnext' : u'.step with v' | ⟨stop, v'⟩
    · rw [hnext'] at hsteps hcount
      obtain ⟨hv⟩ := hsteps
      have hrest := (hread _ _ hsource hend).2.2 hcomplete
      rw [← source_of_next hnext, ← source_of_next hnext'] at hrest
      exact ⟨v', rfl, hv, hcount, hquiet.next hnext', hrest⟩
    · rw [hnext'] at hsteps
      cases hsteps
  · rintro u u' stop v ⟨halike, hconsumed, hquiet, hsource⟩ hu hne
    obtain ⟨hshutdown, hend⟩ := uninterrupted_of_stop hu hne
    obtain ⟨hsteps, hcount⟩ := hstep u u' halike hconsumed hquiet hsource hshutdown hend
    rw [hu] at hsteps hcount
    rcases hu' : u'.step with v' | ⟨stop', v'⟩
    · rw [hu'] at hsteps
      cases hsteps
    · rw [hu'] at hsteps hcount
      rw [run_of_stop hu']
      cases hsteps with
      | stop hv => exact hv.same hcount

end CheckpointMonitor.Watch
