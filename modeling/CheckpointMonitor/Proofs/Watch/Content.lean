/-
CheckpointMonitor/Proofs/Watch/Content.lean

What a run comes to where its sink accepts everything.

Nothing of the sink can be seen then but what it has taken, and nothing of the source but
what it delivers; beside these only the moment counts at which the run is interrupted, if
it is (`run_of_content`).

A run that is not interrupted comes to what it comes to without any requests, and two such
runs go in step, line by line (`Beside.step`).  Of an interrupted run the moment says which
lines it read: the first of those that are delivered (`Reaches.lines_delivery`).
-/
import CheckpointMonitor.Proofs.Watch.Coverage
import CheckpointMonitor.Proofs.Watch.Cutting

namespace CheckpointMonitor.Watch

variable {w w' v : Watch} {lines : List (List UInt8)}

/-! ### Side by side -/

/-- The watches stand at the same place: they have the same monitor, have read the same number of
lines, and their sinks have taken the same. -/
structure Beside (w w' : Watch) : Prop where
  monitor : w.monitor = w'.monitor
  lines : w.lines = w'.lines
  taken : w.sink.taken = w'.sink.taken

/-- Watches side by side whose readings come to the same make the same step. -/
theorem Beside.step (h : Beside w w') (hsink : w.sink.Accepting) (hsink' : w'.sink.Accepting)
    (hw : w.shutdown = false) (hw' : w'.shutdown = false)
    (hbytes : (w.source.readLine false).bytes = (w'.source.readLine false).bytes)
    (hending : (w.source.readLine false).ending = (w'.source.readLine false).ending) :
    (∃ v v', w.step = .next v ∧ w'.step = .next v' ∧ Beside v v') ∨
      ∃ stop v v', w.step = .stop stop v ∧ w'.step = .stop stop v' ∧ Beside v v' := by
  rcases (w.source.readLine false).ending_cases with hread | ⟨hend, hnil⟩ | hend | ⟨fault, hend⟩
  · -- a line is read, passed on and shown
    have hread' : (w'.source.readLine false).Complete := by
      rwa [Source.Read.Complete, ← hending, ← hbytes]
    obtain ⟨line, hline⟩ : ∃ line, (w.source.readLine false).bytes = line := ⟨_, rfl⟩
    let u := w.ahead.echoed (w.sink.after (line ++ [lineFeed]) 1)
    let u' := w'.ahead.echoed (w'.sink.after (line ++ [lineFeed]) 1)
    have hfetch : w.fetch = .line line u := by
      rw [fetch_of_complete hw hread, hline]
      exact passOn_of_ok (echo_of_accepting hsink line)
    have hfetch' : w'.fetch = .line line u' := by
      rw [fetch_of_complete hw' hread', ← hbytes, hline]
      exact passOn_of_ok (echo_of_accepting hsink' line)
    have hbeside : ∀ reading : Monitor.Reading, Beside (u.record reading) (u'.record reading) := by
      intro reading
      refine ⟨rfl, congrArg (· + 1) h.lines, ?_⟩
      show w.sink.taken ++ (line ++ [lineFeed]) = w'.sink.taken ++ (line ++ [lineFeed])
      rw [h.taken]
    have hreading : u'.monitor.readLine (Utf8.decodeLossy line) u'.lines
        = u.monitor.readLine (Utf8.decodeLossy line) u.lines := by
      show w'.monitor.readLine _ (w'.lines + 1) = w.monitor.readLine _ (w.lines + 1)
      rw [h.monitor, h.lines]
    rw [step_of_line hfetch, step_of_line hfetch']
    rcases hrefusal : (u.monitor.readLine (Utf8.decodeLossy line) u.lines).refusal with - | refusal
    · left
      rw [interpret_of_accepted hrefusal, interpret_of_accepted (hreading ▸ hrefusal), hreading]
      exact ⟨_, _, rfl, rfl, hbeside _⟩
    · right
      rw [interpret_of_refused hrefusal, interpret_of_refused (hreading ▸ hrefusal), hreading]
      exact ⟨_, _, _, rfl, rfl, hbeside _⟩
  · right
    refine ⟨_, _, _, step_of_stop (fetch_of_spent hw hend hnil),
      step_of_stop (fetch_of_spent hw' (hending ▸ hend) (hbytes ▸ hnil)), h.monitor, h.lines, h.taken⟩
  · right
    refine ⟨_, _, _, step_of_stop (fetch_of_interrupted hw hend),
      step_of_stop (fetch_of_interrupted hw' (hending ▸ hend)), h.monitor, h.lines, h.taken⟩
  · right
    refine ⟨_, _, _, step_of_stop (fetch_of_failed hw hend),
      step_of_stop (fetch_of_failed hw' (hending ▸ hend)), h.monitor, h.lines, h.taken⟩

/-- **Quiet runs side by side come to the same** if their sources deliver the same. -/
theorem Beside.run (h : Beside w w') (hsink : w.sink.Accepting) (hsink' : w'.sink.Accepting)
    (hquiet : w.Quiet) (hquiet' : w'.Quiet) (hdelivery : w.source.delivery = w'.source.delivery) :
    w.run.stop = w'.run.stop ∧ Beside w.run.watch w'.run.watch := by
  refine run_lockstep
    (R := fun u u' => Beside u u' ∧ (u.sink.Accepting ∧ u'.sink.Accepting) ∧ (u.Quiet ∧ u'.Quiet) ∧
      u.source.delivery = u'.source.delivery)
    (S := fun f f' => f.stop = f'.stop ∧ Beside f.watch f'.watch)
    ?_ ?_ ⟨h, ⟨hsink, hsink'⟩, ⟨hquiet, hquiet'⟩, hdelivery⟩
  · rintro u u' v ⟨hbeside, ⟨hsink, hsink'⟩, ⟨hquiet, hquiet'⟩, hdelivery⟩ hnext
    obtain ⟨hbytes, hending, hrest⟩ :=
      Source.readLine_of_delivery hquiet.requests hquiet'.requests hdelivery
    rcases hbeside.step hsink hsink' hquiet.shutdown hquiet'.shutdown hbytes hending with
      ⟨_, v', hstep, hnext', hv⟩ | ⟨_, _, _, hstep, -, -⟩
    · obtain rfl := Step.next.inj (hstep.symm.trans hnext)
      obtain ⟨line, u₁, hfetch, -⟩ := exists_of_next hnext
      obtain ⟨-, hcomplete, -⟩ := exists_of_fetch_line hfetch
      obtain ⟨bytes, hv₁⟩ := sink_of_next hnext
      obtain ⟨bytes', hv₂⟩ := sink_of_next hnext'
      refine ⟨v', hnext', hv, ⟨?_, ?_⟩, ⟨hquiet.next hnext, hquiet'.next hnext'⟩, ?_⟩
      · rw [hv₁]
        exact hsink.after bytes 1
      · rw [hv₂]
        exact hsink'.after bytes' 1
      · rw [source_of_next hnext, source_of_next hnext']
        exact hrest hcomplete
    · cases hstep.symm.trans hnext
  · rintro u u' stop v ⟨hbeside, ⟨hsink, hsink'⟩, ⟨hquiet, hquiet'⟩, hdelivery⟩ hstop
    obtain ⟨hbytes, hending, -⟩ :=
      Source.readLine_of_delivery hquiet.requests hquiet'.requests hdelivery
    rcases hbeside.step hsink hsink' hquiet.shutdown hquiet'.shutdown hbytes hending with
      ⟨_, _, hstep, -, -⟩ | ⟨_, _, v', hstep, hstop', hv⟩
    · cases hstep.symm.trans hstop
    · obtain ⟨rfl, rfl⟩ := Step.stop.inj (hstep.symm.trans hstop)
      rw [run_of_stop hstop']
      exact ⟨rfl, hv⟩

/-! ### Interrupted runs -/

/-- The moment at which a run was interrupted, if it was: after so many lines. -/
def Finished.interruption? (finished : Finished) : Option Nat :=
  match finished.stop with
  | .ended .interrupted => some finished.watch.lines
  | _ => none

theorem Finished.interruption?_of_interrupted {finished : Finished} (h : finished.stop = .ended .interrupted) :
    finished.interruption? = some finished.watch.lines := by
  rw [interruption?, h]

theorem Finished.interruption?_eq_none_iff {finished : Finished} :
    finished.interruption? = none ↔ finished.stop ≠ .ended .interrupted := by
  rw [interruption?]
  split
  · next h => simp [h]
  · next h => simpa using h

/-- The lines that were passed on are the first of those that are delivered, and the others are
left. -/
theorem Reaches.lines_delivery (h : Reaches w lines v) :
    Text.lines w.source.delivery.bytes = lines ++ Text.lines v.source.delivery.bytes := by
  induction h with
  | refl => rfl
  | line hfetch hnext _ ih =>
    obtain ⟨-, hread, rfl, sink, -, rfl⟩ := exists_of_fetch_line hfetch
    rw [Source.lines_delivery_of_complete hread, List.cons_append, ← ih, source_of_interpret hnext]
    rfl

/-- Runs that are interrupted after the same lines come to the same. -/
theorem Beside.run_of_interrupted (h : Beside w w')
    (hdelivery : w.source.delivery = w'.source.delivery) (hstop : w.run.stop = .ended .interrupted)
    (hstop' : w'.run.stop = .ended .interrupted) (hlines : w.run.watch.lines = w'.run.watch.lines) :
    Beside w.run.watch w'.run.watch := by
  obtain ⟨lines, v, hreaches, hmonitor, hsink, hcount⟩ := interrupted_run hstop
  obtain ⟨lines', v', hreaches', hmonitor', hsink', hcount'⟩ := interrupted_run hstop'
  have hpassed := hreaches.passed
  have hpassed' := hreaches'.passed
  -- as many lines of the same are the same
  have hlength : lines.length = lines'.length := by
    rw [hcount, hcount', hpassed.count, hpassed'.count, h.lines] at hlines
    exact Nat.add_left_cancel hlines
  have hsame : lines = lines' := by
    have hall := hreaches.lines_delivery
    rw [hdelivery, hreaches'.lines_delivery] at hall
    exact (List.append_inj_left hall hlength.symm).symm
  have hcourse := hreaches.course_eq
  rw [hsame, h.monitor, h.lines, hreaches'.course_eq] at hcourse
  refine ⟨?_, hlines, ?_⟩
  · rw [hmonitor, hmonitor']
    exact (congrArg Monitor.Course.monitor hcourse).symm
  · rw [hsink, hsink', hpassed.sink, hpassed'.sink, hsame]
    show w.sink.taken ++ Text.unlines lines' = w'.sink.taken ++ Text.unlines lines'
    rw [h.taken]

/-! ### Content and moment -/

/-- **A run depends on what is delivered and on the moment at which it is interrupted,** and on nothing
else, where the sink accepts everything. -/
theorem Beside.run_of_content (h : Beside w w') (hsink : w.sink.Accepting) (hsink' : w'.sink.Accepting)
    (hdelivery : w.source.delivery = w'.source.delivery)
    (hmoment : w.run.interruption? = w'.run.interruption?) :
    w.run.stop = w'.run.stop ∧ Beside w.run.watch w'.run.watch := by
  by_cases hstop : w.run.stop = .ended .interrupted
  · rw [Finished.interruption?_of_interrupted hstop] at hmoment
    have hstop' : w'.run.stop = .ended .interrupted := by
      by_contra hne
      cases hmoment.trans (Finished.interruption?_eq_none_iff.mpr hne)
    rw [Finished.interruption?_of_interrupted hstop'] at hmoment
    exact ⟨hstop.trans hstop'.symm, h.run_of_interrupted hdelivery hstop hstop' (Option.some.inj hmoment)⟩
  · have hstop' : w'.run.stop ≠ .ended .interrupted := by
      rw [← Finished.interruption?_eq_none_iff, ← hmoment]
      exact Finished.interruption?_eq_none_iff.mpr hstop
    -- without the requests, which did not count
    have hsame := run_calmed hstop
    have hsame' := run_calmed hstop'
    have hbeside : Beside w.calmed w'.calmed := ⟨h.monitor, h.lines, h.taken⟩
    have hcalmed : w.calmed.source.delivery = w'.calmed.source.delivery :=
      w.source.delivery_calm.trans (hdelivery.trans w'.source.delivery_calm.symm)
    obtain ⟨hstops, hend⟩ := hbeside.run ⟨hsink.perWrite, hsink.capacity, hsink.flushFault⟩
      ⟨hsink'.perWrite, hsink'.capacity, hsink'.flushFault⟩ ⟨rfl, w.source.requests_calm, rfl⟩
      ⟨rfl, w'.source.requests_calm, rfl⟩ hcalmed
    refine ⟨hsame.stop.trans (hstops.trans hsame'.stop.symm), ?_, ?_, ?_⟩
    · rw [hsame.monitor, hsame'.monitor, hend.monitor]
    · rw [hsame.lines, hsame'.lines, hend.lines]
    · rw [hsame.taken, hsame'.taken, hend.taken]

end CheckpointMonitor.Watch
