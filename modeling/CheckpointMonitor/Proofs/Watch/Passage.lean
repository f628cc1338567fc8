/-
CheckpointMonitor/Proofs/Watch/Passage.lean

How a run goes from line to line, whatever happens on its way.

`Passed` relates a watch to what becomes of it when lines are passed on: the lines are
counted, echoed with a line feed each and flushed one by one, and the bytes taken
from the source are those of the echo, but for the line feed that a last line left
open is given.

`fetch_cases` is the inversion lemma for the fetching of a line; it lists all that can
come of one.  `Reaches w lines v` says that a run from `w` comes to `v` over lines
that were all passed on and accepted.  Every run reaches a watch at which it stops
(`exists_reaches`), so a fact about runs is a fact about `Reaches`, by induction on the
lines, and one about the step at which the run stops.
-/
import CheckpointMonitor.Proofs.Channel.Incidents
import CheckpointMonitor.Proofs.Channel.Writing
import CheckpointMonitor.Proofs.Monitor.Course
import CheckpointMonitor.Proofs.Watch.Run

namespace CheckpointMonitor.Watch

variable {w w' w'' v : Watch} {line : List UInt8} {lines lines' : List (List UInt8)}
variable {sink sink' : Sink} {stop : Stop}

/-! ### Lines passed on -/

/-- The bytes that were taken from the source of a watch, and their echo: the bytes as they are, or,
if the source ended amid a line, with a line feed more. -/
def Echoes (w w' : Watch) (echoed : List UInt8) : Prop :=
  ∃ used, w.source.bytes = used ++ w'.source.bytes ∧ w'.consumed = w.consumed + used.length ∧
    (echoed = used ∨ echoed = used ++ [lineFeed] ∧ used ≠ [] ∧ w'.source.bytes = [])

theorem Echoes.refl (w : Watch) : Echoes w w [] :=
  ⟨[], rfl, rfl, Or.inl rfl⟩

theorem Echoes.trans {echoed echoed' : List UInt8} (h : Echoes w w' echoed)
    (h' : Echoes w' w'' echoed') : Echoes w w'' (echoed ++ echoed') := by
  obtain ⟨used, hbytes, hconsumed, hecho⟩ := h
  obtain ⟨used', hbytes', hconsumed', hecho'⟩ := h'
  refine ⟨used ++ used', ?_, ?_, ?_⟩
  · rw [hbytes, hbytes', List.append_assoc]
  · rw [hconsumed', hconsumed, List.length_append, Nat.add_assoc]
  rcases hecho with rfl | ⟨rfl, hused, hend⟩
  · rcases hecho' with rfl | ⟨rfl, hused', hend'⟩
    · exact Or.inl rfl
    · refine Or.inr ⟨(List.append_assoc _ _ _).symm, ?_, hend'⟩
      exact List.append_ne_nil_of_right_ne_nil _ hused'
  · -- nothing is left after a line that was left open
    obtain ⟨rfl, hend'⟩ := List.append_eq_nil_iff.mp (hbytes'.symm.trans hend)
    rcases hecho' with rfl | ⟨-, hused', -⟩
    · refine Or.inr ⟨?_, ?_, hend'⟩
      · rw [List.append_nil, List.append_nil]
      · rwa [List.append_nil]
    · exact absurd rfl hused'

/-- What becomes of a watch when lines are passed on. -/
structure Passed (w w' : Watch) (lines : List (List UInt8)) : Prop where
  count : w'.lines = w.lines + lines.length
  sink : w'.sink = w.sink.after (Text.unlines lines) lines.length
  echoes : Echoes w w' (Text.unlines lines)

theorem Passed.refl (w : Watch) : Passed w w [] :=
  ⟨rfl, w.sink.after_zero.symm, Echoes.refl w⟩

theorem Passed.trans (h : Passed w w' lines) (h' : Passed w' w'' lines') :
    Passed w w'' (lines ++ lines') where
  count := by rw [h'.count, h.count, List.length_append, Nat.add_assoc]
  sink := by rw [h'.sink, h.sink, Sink.after_after, Text.unlines_append, List.length_append]
  echoes := by
    rw [Text.unlines_append]
    exact h.echoes.trans h'.echoes

/-- The monitor's reading of a line has no part in it. -/
theorem Passed.record (h : Passed w w' lines) (reading : Monitor.Reading) :
    Passed w (w'.record reading) lines :=
  ⟨h.count, h.sink, h.echoes⟩

/-! ### The echo of a line -/

/-- **The echo of a line is one write of the line with its line feed, and a flush.**  The flush is
tried exactly if all of it fits. -/
theorem echo_eq (hsink : sink.perWrite ≠ some 0) (line : List UInt8) :
    echo sink line =
      if sink.fitting (line ++ [lineFeed]) = line ++ [lineFeed] then
        (sink.accept (line ++ [lineFeed])).flush
      else
        .error ⟨sink.fullFault.getD .writeZero, sink.accept (sink.fitting (line ++ [lineFeed]))⟩ := by
  have hsink' : (sink.accept line).perWrite ≠ some 0 := hsink
  simp only [echo, bind, Except.bind, Sink.writeAll_eq hsink]
  by_cases hline : sink.fitting line = line
  · rw [if_pos hline, Sink.fitting_append hline]
    dsimp only
    rw [Sink.writeAll_eq hsink', Sink.accept_accept, Sink.accept_accept]
    by_cases hlineFeed : (sink.accept line).fitting [lineFeed] = [lineFeed]
    · rw [if_pos hlineFeed, if_pos (by rw [hlineFeed])]
    · rw [if_neg hlineFeed, if_neg (by rwa [List.append_cancel_left_eq])]
      rfl
  · -- the line feed has no part in it
    have hne : sink.fitting line ≠ line ++ [lineFeed] := by
      intro heq
      have hle := (sink.fitting_prefix line).length_le
      rw [heq, List.length_append, List.length_singleton] at hle
      omega
    rw [if_neg hline, Sink.fitting_append_of_ne hline, if_neg hne]

/-- An echo that succeeded has passed the line on with its line feed, and flushed once. -/
theorem sink_of_echo (h : echo sink line = .ok sink') :
    sink' = sink.after (line ++ [lineFeed]) 1 := by
  simp only [echo, bind, Except.bind] at h
  split at h
  · cases h
  next s₁ h₁ =>
  split at h
  · cases h
  next s₂ h₂ =>
  rw [Sink.eq_accept_of_writeAll h₂, Sink.eq_accept_of_writeAll h₁, Sink.accept_accept] at h
  rcases Sink.flush_cases (sink.accept (line ++ [lineFeed])) with ⟨fault, -, hflush⟩ | ⟨-, hflush⟩
  · rw [hflush] at h
    cases h
  · rw [hflush] at h
    obtain rfl := Except.ok.inj h
    exact Sink.after_after sink (line ++ [lineFeed]) [] 0 1 |>.trans (by rw [List.append_nil])

/-- A line that the sink admits is echoed. -/
theorem echo_of_admits (h : sink.Admits (line ++ [lineFeed]) 1) :
    echo sink line = .ok (sink.after (line ++ [lineFeed]) 1) := by
  rw [echo_eq h.perWrite, if_pos h.fits]
  rcases Sink.flush_cases (sink.accept (line ++ [lineFeed])) with ⟨fault, hfault, -⟩ | ⟨-, hflush⟩
  · have hnumber := h.flushFault _ fault hfault
    simp only [Sink.accept] at hnumber
    omega
  · rw [hflush, Sink.after, Sink.accept_nil]
    rfl

/-! ### The fetching of a line -/

/-- The watch after a line was echoed into its sink. -/
def echoed (w : Watch) (sink : Sink) : Watch :=
  { w with lines := w.lines + 1, sink, shutdown := w.shutdown || sink.requestsShutdown }

theorem passOn_of_ok (h : echo w.sink line = .ok sink) : w.passOn line = .line line (w.echoed sink) := by
  rw [passOn, h]
  rfl

theorem passOn_of_error {failure : Sink.Failure} (h : echo w.sink line = .error failure) :
    w.passOn line
      = .stop (.failed failure.fault) { w with lines := w.lines + 1, sink := failure.sink } := by
  rw [passOn, h]

theorem fetch_of_shutdown (h : w.shutdown = true) : w.fetch = w.interrupt :=
  if_pos h

/-- The watch after it read as far as it could. -/
def ahead (w : Watch) : Watch :=
  w.take (w.source.readLine false)

theorem fetch_of_complete (h : w.shutdown = false) (hread : (w.source.readLine false).Complete) :
    w.fetch = w.ahead.passOn (w.source.readLine false).bytes := by
  rw [fetch, if_neg (Bool.eq_false_iff.mp h)]
  rcases hread with hend | ⟨hend, hne⟩
  · simp only [hend]
    rfl
  · simp only [hend, List.isEmpty_iff, hne, if_false]
    rfl

theorem fetch_of_spent (h : w.shutdown = false) (hend : (w.source.readLine false).ending = .exhausted)
    (hbytes : (w.source.readLine false).bytes = []) : w.fetch = w.ahead.close := by
  rw [fetch, if_neg (Bool.eq_false_iff.mp h)]
  simp only [hend, hbytes]
  rfl

theorem fetch_of_interrupted (h : w.shutdown = false)
    (hend : (w.source.readLine false).ending = .interrupted) : w.fetch = w.ahead.interrupt := by
  rw [fetch, if_neg (Bool.eq_false_iff.mp h)]
  simp only [hend]
  rfl

theorem fetch_of_failed {fault : Fault} (h : w.shutdown = false)
    (hend : (w.source.readLine false).ending = .failed fault) :
    w.fetch = .stop (.failed fault) w.ahead := by
  rw [fetch, if_neg (Bool.eq_false_iff.mp h)]
  simp only [hend]
  rfl

/-- **What can come of the fetching of a line.**  It is interrupted before anything is read, or the
reading ends it, or a line that was read to its end is passed on, with success or without. -/
theorem fetch_cases (w : Watch) :
    (w.shutdown = true ∧ w.fetch = w.interrupt) ∨
    w.shutdown = false ∧
      ((∃ sink, (w.source.readLine false).Complete ∧
          echo w.sink (w.source.readLine false).bytes = .ok sink ∧
          w.fetch = .line (w.source.readLine false).bytes (w.ahead.echoed sink)) ∨
        (∃ failure, (w.source.readLine false).Complete ∧
          echo w.sink (w.source.readLine false).bytes = .error failure ∧
          w.fetch = .stop (.failed failure.fault)
            { w.ahead with lines := w.lines + 1, sink := failure.sink }) ∨
        ((w.source.readLine false).ending = .exhausted ∧ (w.source.readLine false).bytes = [] ∧
          w.fetch = w.ahead.close) ∨
        ((w.source.readLine false).ending = .interrupted ∧ w.fetch = w.ahead.interrupt) ∨
        ∃ fault, (w.source.readLine false).ending = .failed fault ∧
          w.fetch = .stop (.failed fault) w.ahead) := by
  rcases hshutdown : w.shutdown with - | -
  · refine Or.inr ⟨rfl, ?_⟩
    rcases (w.source.readLine false).ending_cases with hread | ⟨hend, hbytes⟩ | hend | ⟨fault, hend⟩
    · have hfetch := fetch_of_complete hshutdown hread
      rcases hecho : echo w.sink (w.source.readLine false).bytes with failure | sink
      · exact Or.inr (Or.inl ⟨failure, hread, rfl, hfetch.trans (passOn_of_error hecho)⟩)
      · exact Or.inl ⟨sink, hread, rfl, hfetch.trans (passOn_of_ok hecho)⟩
    · exact Or.inr (Or.inr (Or.inl ⟨hend, hbytes, fetch_of_spent hshutdown hend hbytes⟩))
    · exact Or.inr (Or.inr (Or.inr (Or.inl ⟨hend, fetch_of_interrupted hshutdown hend⟩)))
    · exact Or.inr (Or.inr (Or.inr (Or.inr ⟨fault, hend, fetch_of_failed hshutdown hend⟩)))
  · exact Or.inl ⟨rfl, fetch_of_shutdown hshutdown⟩

/-- A line that was fetched was read to its end and echoed. -/
theorem exists_of_fetch_line (h : w.fetch = .line line w') :
    w.shutdown = false ∧ (w.source.readLine false).Complete ∧
      (w.source.readLine false).bytes = line ∧
      ∃ sink, echo w.sink line = .ok sink ∧ w' = w.ahead.echoed sink := by
  rcases fetch_cases w with ⟨-, hf⟩ | ⟨hshutdown, ⟨sink, hread, hecho, hf⟩ | ⟨_, -, -, hf⟩ | ⟨-, -, hf⟩ |
    ⟨-, hf⟩ | ⟨_, -, hf⟩⟩
  · cases hf.symm.trans h
  · obtain ⟨rfl, rfl⟩ := Fetched.line.inj (hf.symm.trans h)
    exact ⟨hshutdown, hread, rfl, sink, hecho, rfl⟩
  all_goals cases hf.symm.trans h

/-- A fetching that failed did so at a read, or at the echo of a line that was read to its end. -/
theorem failed_of_fetch {fault : Fault} {final : Watch} (h : w.fetch = .stop (.failed fault) final) :
    ((w.source.readLine false).ending = .failed fault ∧ final = w.ahead) ∨
      ∃ sink, (w.source.readLine false).Complete ∧
        echo w.sink (w.source.readLine false).bytes = .error ⟨fault, sink⟩ ∧
        final = { w.ahead with lines := w.lines + 1, sink } := by
  rcases fetch_cases w with ⟨-, hf⟩ | ⟨-, ⟨_, -, -, hf⟩ | ⟨failure, hread, hecho, hf⟩ | ⟨-, -, hf⟩ |
    ⟨-, hf⟩ | ⟨fault', hend, hf⟩⟩
  · cases hf.symm.trans h
  · cases hf.symm.trans h
  · obtain ⟨hfault, rfl⟩ := Fetched.stop.inj (hf.symm.trans h)
    obtain rfl := Stop.failed.inj hfault
    exact Or.inr ⟨failure.sink, hread, hecho, rfl⟩
  · cases hf.symm.trans h
  · cases hf.symm.trans h
  · obtain ⟨hfault, rfl⟩ := Fetched.stop.inj (hf.symm.trans h)
    obtain rfl := Stop.failed.inj hfault
    exact Or.inl ⟨hend, rfl⟩

/-- A fetched line is the first of the source's lines, and the others are left. -/
theorem lines_of_fetch (h : w.fetch = .line line w') :
    Text.lines w.source.bytes = line :: Text.lines w'.source.bytes := by
  obtain ⟨-, hread, rfl, sink, -, rfl⟩ := exists_of_fetch_line h
  exact Source.lines_of_complete hread

/-- A fetched line was written with its line feed, and flushed once. -/
theorem sink_of_fetch (h : w.fetch = .line line w') : w'.sink = w.sink.after (line ++ [lineFeed]) 1 := by
  obtain ⟨-, -, -, sink, hecho, rfl⟩ := exists_of_fetch_line h
  exact sink_of_echo hecho

/-- A fetched line is passed on. -/
theorem passed_of_fetch (h : w.fetch = .line line w') : Passed w w' [line] := by
  have hsink := sink_of_fetch h
  obtain ⟨-, hread, rfl, sink, -, rfl⟩ := exists_of_fetch_line h
  have hbytes := Source.bytes_readLine false w.source
  refine ⟨rfl, ?_, (w.source.readLine false).taken, hbytes, ?_, ?_⟩
  · rw [Text.unlines_cons, Text.unlines_nil]
    exact hsink
  · show w.consumed + (w.source.readLine false).size = _
    rw [Source.Read.size_eq_length]
  · rw [Text.unlines_cons, Text.unlines_nil, Source.Read.taken]
    rcases hread with hend | ⟨hend, hne⟩
    · left
      rw [hend]
    · right
      rw [hend]
      exact ⟨rfl, hne, congrArg Source.bytes (Source.rest_of_exhausted hend)⟩

/-! ### The showing of a line -/

/-- How a watch ends on a refusal. -/
def Stop.ofRefusal : Refusal → Stop
  | .violation v => .ended (.violation v)
  | .halted => .halted

theorem interpret_of_accepted
    (h : (w.monitor.readLine (Utf8.decodeLossy line) w.lines).refusal = none) :
    w.interpret line
      = .next (w.record (w.monitor.readLine (Utf8.decodeLossy line) w.lines)) := by
  rw [interpret]
  simp only [h]

theorem interpret_of_refused {refusal : Refusal}
    (h : (w.monitor.readLine (Utf8.decodeLossy line) w.lines).refusal = some refusal) :
    w.interpret line
      = .stop (.ofRefusal refusal)
        (w.record (w.monitor.readLine (Utf8.decodeLossy line) w.lines)) := by
  rw [interpret]
  cases refusal <;> simp only [h, Stop.ofRefusal]

/-- The watch goes on after a line exactly if the monitor accepts it. -/
theorem accepted_of_interpret (h : w.interpret line = .next w') :
    (w.monitor.readLine (Utf8.decodeLossy line) w.lines).refusal = none ∧
      w' = w.record (w.monitor.readLine (Utf8.decodeLossy line) w.lines) := by
  rcases hread : (w.monitor.readLine (Utf8.decodeLossy line) w.lines).refusal with - | refusal
  · rw [interpret_of_accepted hread] at h
    exact ⟨rfl, (Step.next.inj h).symm⟩
  · rw [interpret_of_refused hread] at h
    cases h

/-- The watch ends after a line exactly if the monitor refuses it. -/
theorem refused_of_interpret (h : w.interpret line = .stop stop w') :
    ∃ refusal, (w.monitor.readLine (Utf8.decodeLossy line) w.lines).refusal = some refusal ∧
      stop = .ofRefusal refusal ∧
      w' = w.record (w.monitor.readLine (Utf8.decodeLossy line) w.lines) := by
  rcases hread : (w.monitor.readLine (Utf8.decodeLossy line) w.lines).refusal with - | refusal
  · rw [interpret_of_accepted hread] at h
    cases h
  · rw [interpret_of_refused hread] at h
    obtain ⟨rfl, rfl⟩ := Step.stop.inj h
    exact ⟨refusal, rfl, rfl, rfl⟩

/-- A watch that goes on has fetched a line that its monitor accepts. -/
theorem exists_of_next (h : w.step = .next v) :
    ∃ line w', w.fetch = .line line w' ∧ w'.interpret line = .next v := by
  rcases hfetch : w.fetch with ⟨line, w'⟩ | ⟨stop, w'⟩
  · exact ⟨line, w', rfl, (step_of_line hfetch).symm.trans h⟩
  · cases (step_of_stop hfetch).symm.trans h

theorem source_of_next (h : w.step = .next v) : v.source = (w.source.readLine false).rest := by
  obtain ⟨line, w', hfetch, hnext⟩ := exists_of_next h
  obtain ⟨-, -, -, sink, -, rfl⟩ := exists_of_fetch_line hfetch
  rw [source_of_interpret hnext]
  rfl

/-- A watch that goes on knows of a shutdown what the reading and the flush told it. -/
theorem shutdown_of_next (h : w.step = .next v) :
    v.shutdown = ((w.source.readLine false).shutdown || v.sink.requestsShutdown) := by
  obtain ⟨line, w', hfetch, hnext⟩ := exists_of_next h
  obtain ⟨-, -, -, sink, -, rfl⟩ := exists_of_fetch_line hfetch
  obtain ⟨-, rfl⟩ := accepted_of_interpret hnext
  rfl

/-- A watch that goes on has the sink after one more line. -/
theorem sink_of_next (h : w.step = .next v) : ∃ bytes, v.sink = w.sink.after bytes 1 := by
  obtain ⟨line, w', hfetch, hnext⟩ := exists_of_next h
  obtain ⟨-, rfl⟩ := accepted_of_interpret hnext
  exact ⟨_, (passed_of_fetch hfetch).sink⟩

/-- A watch with nothing left to be read ends with its stream. -/
theorem step_of_spent (hshutdown : w.shutdown = false)
    (hend : (w.source.readLine false).ending = .exhausted)
    (hbytes : (w.source.readLine false).bytes = []) :
    ∃ v, w.step = .stop (.ended .endOfStream) v ∧ v.monitor = w.monitor ∧ Passed w v [] := by
  have hall := Source.bytes_readLine false w.source
  have hsize : (w.source.readLine false).size = 0 := by
    rw [Source.Read.size, hend, hbytes, List.length_nil]
  rw [Source.Read.taken, hend, hbytes] at hall
  refine ⟨_, step_of_stop (fetch_of_spent hshutdown hend hbytes), rfl, rfl, w.sink.after_zero.symm, [],
    hall, ?_, Or.inl rfl⟩
  show w.consumed + (w.source.readLine false).size = _
  rw [hsize, List.length_nil]

/-- The reading of the lines that are left. -/
def course (w : Watch) : Monitor.Course :=
  w.monitor.readLines (w.lines + 1) ((Text.lines w.source.bytes).map Utf8.decodeLossy)

/-! ### Watches that are reached -/

/-- A run from the first watch comes to the second over the lines, all of them passed on and
accepted. -/
inductive Reaches : Watch → List (List UInt8) → Watch → Prop where
  | refl (w : Watch) : Reaches w [] w
  | line {w w' w'' v : Watch} {line : List UInt8} {lines : List (List UInt8)}
      (hfetch : w.fetch = .line line w') (hnext : w'.interpret line = .next w'')
      (hlines : Reaches w'' lines v) : Reaches w (line :: lines) v

namespace Reaches

theorem run_eq (h : Reaches w lines v) : w.run = v.run := by
  induction h with
  | refl => rfl
  | line hfetch hnext _ ih => rw [run_of_next ((step_of_line hfetch).trans hnext), ih]

/-- The lines that were passed on are the first of the source's lines, and the others are left. -/
theorem lines_eq (h : Reaches w lines v) :
    Text.lines w.source.bytes = lines ++ Text.lines v.source.bytes := by
  induction h with
  | refl => rfl
  | line hfetch hnext _ ih =>
    rw [lines_of_fetch hfetch, ← source_of_interpret hnext, ih, List.cons_append]

theorem take_lines (h : Reaches w lines v) :
    (Text.lines w.source.bytes).take lines.length = lines := by
  rw [h.lines_eq, List.take_left]

theorem passed (h : Reaches w lines v) : Passed w v lines := by
  induction h with
  | refl w => exact Passed.refl w
  | line hfetch hnext _ ih =>
    obtain ⟨-, rfl⟩ := accepted_of_interpret hnext
    exact ((passed_of_fetch hfetch).record _).trans ih

/-- The monitor has read the lines that were passed on, and accepted them all. -/
theorem course_eq (h : Reaches w lines v) :
    w.monitor.readLines (w.lines + 1) (lines.map Utf8.decodeLossy) = ⟨v.monitor, lines.length, none⟩ := by
  induction h with
  | refl => rfl
  | @line w w' _ _ _ _ hfetch hnext _ ih =>
    obtain ⟨haccepted, rfl⟩ := accepted_of_interpret hnext
    have hnumber : w'.lines = w.lines + 1 := (passed_of_fetch hfetch).count
    rw [← monitor_of_fetch_line hfetch, ← hnumber, List.map_cons,
      Monitor.readLines_of_accepted haccepted]
    exact congrArg Monitor.Course.next ih

end Reaches

/-- **Every run reaches a watch at which it stops.** -/
theorem exists_reaches (w : Watch) :
    ∃ lines v stop final, Reaches w lines v ∧ v.step = .stop stop final ∧ w.run = ⟨stop, final⟩ := by
  induction hn : Source.size w.source using Nat.strongRecOn generalizing w with
  | _ n ih =>
    rcases hstep : w.step with w'' | ⟨stop, final⟩
    · obtain ⟨lines, v, stop, final, hreaches, hstop, hrun⟩ :=
        ih _ (hn ▸ size_lt_of_step hstep) w'' rfl
      obtain ⟨line, w', hfetch, hnext⟩ := exists_of_next hstep
      exact ⟨line :: lines, v, stop, final, .line hfetch hnext hreaches, hstop,
        (run_of_next hstep).trans hrun⟩
    · exact ⟨[], w, stop, final, .refl w, hstep, run_of_stop hstep⟩

/-- A watch stops where no line is fetched, or on a line that its monitor refuses. -/
theorem stop_cases {final : Watch} (h : v.step = .stop stop final) :
    v.fetch = .stop stop final ∨
      ∃ line v' refusal, v.fetch = .line line v' ∧
        (v'.monitor.readLine (Utf8.decodeLossy line) v'.lines).refusal = some refusal ∧
        stop = .ofRefusal refusal ∧
        final = v'.record (v'.monitor.readLine (Utf8.decodeLossy line) v'.lines) := by
  rcases hfetch : v.fetch with ⟨line, v'⟩ | ⟨stop', v'⟩
  · obtain ⟨refusal, hrefusal, hstop, hfinal⟩ :=
      refused_of_interpret ((step_of_line hfetch).symm.trans h)
    exact Or.inr ⟨line, v', refusal, rfl, hrefusal, hstop, hfinal⟩
  · obtain ⟨rfl, rfl⟩ := Step.stop.inj ((step_of_stop hfetch).symm.trans h)
    exact Or.inl rfl

/-! ### Two runs side by side -/

/-- **Two runs in lockstep.**  If related watches go on to related watches, and where the first one
stops the results are as wanted, then the results of related watches are as wanted. -/
theorem run_lockstep {R : Watch → Watch → Prop} {S : Finished → Finished → Prop}
    (hnext : ∀ u u' v, R u u' → u.step = .next v → ∃ v', u'.step = .next v' ∧ R v v')
    (hstop : ∀ u u' stop v, R u u' → u.step = .stop stop v → S ⟨stop, v⟩ u'.run)
    (h : R w w') : S w.run w'.run := by
  induction hn : Source.size w.source using Nat.strongRecOn generalizing w w' with
  | _ n ih =>
    rcases hstep : w.step with v | ⟨stop, v⟩
    · obtain ⟨v', hstep', hv⟩ := hnext w w' v h hstep
      rw [run_of_next hstep, run_of_next hstep']
      exact ih _ (hn ▸ size_lt_of_step hstep) hv rfl
    · rw [run_of_stop hstep]
      exact hstop w w' stop v h hstep

end CheckpointMonitor.Watch
