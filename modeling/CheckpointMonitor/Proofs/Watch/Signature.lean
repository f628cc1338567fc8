/-
CheckpointMonitor/Proofs/Watch/Signature.lean

Of a log only the markers matter.

The signature of a log is the list of the sets of markers of its lines, with the empty ones left
out: neither the text around a marker nor the order or the number of markers in a line can be
told from it, nor how many lines without markers there are.  Two undisturbed runs over logs of
the same signature come to the same verdict (`run_judged`), since the markers of a line are
read in an order of their own and lines without any are only counted.  What is left to differ is
the echo and the counting of lines: a line keeps its place in its own log (`KeepsTo`), and the
number of the violation is that place.

The lines that a run shows to its monitor are those that it covered (`Covers.acts_eq`).
-/
import CheckpointMonitor.Proofs.Journal
import CheckpointMonitor.Proofs.Monitor.Verdict
import CheckpointMonitor.Proofs.Watch.Accounts

namespace CheckpointMonitor

/-! ### Signatures -/

namespace Marker

variable {line line' : List UInt8} {k : Marker}

/-- The markers whose phrases stand in the bytes. -/
def standingIn (line : List UInt8) : Finset Marker :=
  all.toFinset.filter fun k => Utf8.encode k.phrase <:+: line

/-- The sets of markers of the lines, with the empty ones left out. -/
def signature (log : List (List UInt8)) : List (Finset Marker) :=
  (log.map standingIn).filter (· ≠ ∅)

theorem mem_standingIn : k ∈ standingIn line ↔ Utf8.encode k.phrase <:+: line := by
  rw [standingIn, Finset.mem_filter, List.mem_toFinset]
  exact and_iff_right k.mem_all

theorem signature_append (log log' : List (List UInt8)) :
    signature (log ++ log') = signature log ++ signature log' := by
  rw [signature, List.map_append, List.filter_append]
  rfl

/-- Lines without markers can be put in anywhere. -/
theorem signature_insert {noise : List (List UInt8)} (h : ∀ line ∈ noise, standingIn line = ∅)
    (before after : List (List UInt8)) : signature (before ++ noise ++ after) = signature (before ++ after) := by
  have hnoise : signature noise = [] := by
    rw [signature, List.filter_eq_nil_iff]
    intro s hs
    obtain ⟨line, hline, rfl⟩ := List.mem_map.mp hs
    simp [h line hline]
  rw [signature_append, signature_append, hnoise, List.append_nil, signature_append]

/-- A line can be written anew, with the same markers. -/
theorem signature_rewrite (h : standingIn line = standingIn line') (before after : List (List UInt8)) :
    signature (before ++ line :: after) = signature (before ++ line' :: after) := by
  rw [signature, signature, List.map_append, List.map_append, List.map_cons, List.map_cons, h]

/-! ### Signatures and groups -/

/-- A line is read as its set of markers, in the order of `all`. -/
theorem carriedBy_eq_filter (line : List UInt8) :
    carriedBy (Utf8.decodeLossy line) = all.filter (· ∈ standingIn line) := by
  refine List.filter_congr fun k _ => ?_
  rw [Bool.eq_iff_iff, occursIn_decodeLossy_iff, decide_eq_true_iff, mem_standingIn]

theorem toFinset_carriedBy (line : List UInt8) :
    (carriedBy (Utf8.decodeLossy line)).toFinset = standingIn line := by
  ext k
  rw [List.mem_toFinset, mem_carriedBy, occursIn_decodeLossy_iff, mem_standingIn]

theorem carriedBy_eq_nil_iff : carriedBy (Utf8.decodeLossy line) = [] ↔ standingIn line = ∅ := by
  rw [← toFinset_carriedBy, List.toFinset_eq_empty_iff]

/-- The groups of a log are its signature, each set in the order of `all`. -/
theorem groups_eq (log : List (List UInt8)) :
    groups (log.map Utf8.decodeLossy) = (signature log).map fun s => all.filter (· ∈ s) := by
  rw [groups, signature, List.filter_map, List.filter_map, List.filter_map, List.map_map, List.map_map]
  refine congrArg₂ List.map (funext carriedBy_eq_filter) (List.filter_congr fun line _ => ?_)
  exact decide_eq_decide.mpr (not_congr carriedBy_eq_nil_iff)

/-- The signature of a log are its groups, as sets. -/
theorem signature_eq (log : List (List UInt8)) :
    signature log = (groups (log.map Utf8.decodeLossy)).map List.toFinset := by
  rw [groups, signature, List.filter_map, List.filter_map, List.filter_map, List.map_map, List.map_map]
  refine congrArg₂ List.map (funext fun line => (toFinset_carriedBy line).symm) (List.filter_congr fun line _ => ?_)
  exact decide_eq_decide.mpr (not_congr carriedBy_eq_nil_iff.symm)

end Marker

/-! ### Numbers of lines -/

/-- The same end, with the violation on another line. -/
def Termination.atLine (n : Nat) : Termination → Termination
  | violation v => violation (v.atLine n)
  | termination => termination

/-- How a run ends whose monitor has the violation, if it has one, and that nothing disturbs. -/
def Termination.ofViolation : Option Violation → Termination
  | none => endOfStream
  | some v => violation v

/-- The same diagnostic, after so many lines or with the violation on that line. -/
def Log.Record.atLine (n : Nat) : Log.Record → Log.Record
  | violation v => violation (v.atLine n)
  | shutdownRequested _ => shutdownRequested n
  | sourceClosed _ => sourceClosed n
  | record => record

theorem Monitor.onLine_onLine (m : Monitor) (seen seen' n n' : Nat) :
    (m.onLine seen n).onLine seen' n' = m.onLine seen' n' := by
  simp only [onLine, Option.map_map]
  rfl

/-- Only the violation in an account has a number. -/
theorem Monitor.accountOf_atLine (ts : List Transition) (violation : Option Violation) (n : Nat) :
    accountOf ts (violation.map (·.atLine n)) = (accountOf ts violation).map (Log.Record.atLine n) := by
  rw [accountOf, accountOf, List.map_append, List.map_map]
  congr 1
  · exact List.map_congr_left fun t _ => by cases t <;> rfl
  · rcases violation with - | v <;> rfl

namespace Watch

variable {w w' v : Watch} {line : List UInt8} {lines : List (List UInt8)} {stop : Stop}

/-! ### The lines that are shown -/

theorem acts_of_fetch_stop (h : w.fetch = .stop stop w') : w.acts = [] := by
  rw [acts]
  split
  · rfl
  · next hfetch => cases h.symm.trans hfetch

theorem acts_of_fetch_line (h : w.fetch = .line line w') :
    w.acts = .readLine (Utf8.decodeLossy line) w'.lines ::
      match w'.interpret line with
      | .next v => v.acts
      | .stop _ _ => [] := by
  rw [acts]
  split
  · next hfetch => cases h.symm.trans hfetch
  · next hfetch =>
    obtain ⟨rfl, rfl⟩ := Fetched.line.inj (h.symm.trans hfetch)
    split <;> rename_i hinterpret <;> rw [hinterpret]

/-- The lines that were passed on and accepted were shown, with their numbers. -/
theorem Reaches.acts_eq (h : Reaches w lines v) :
    w.acts = Monitor.Act.ofLines (w.lines + 1) (lines.map Utf8.decodeLossy) ++ v.acts := by
  induction h with
  | refl => rfl
  | @line w w' _ _ _ _ hfetch hnext _ ih =>
    have hnumber : w'.lines = w.lines + 1 := (passed_of_fetch hfetch).count
    rw [acts_of_fetch_line hfetch, hnext, List.map_cons, Monitor.Act.ofLines, List.cons_append, ← hnumber]
    obtain ⟨-, rfl⟩ := accepted_of_interpret hnext
    exact congrArg _ ih

/-- **A run shows the lines that it covered.** -/
theorem Covers.acts_eq (h : w.Covers lines) (hecho : ∀ fault, w.run.stop ≠ .failed fault) :
    w.acts = Monitor.Act.ofLines (w.lines + 1) (lines.map Utf8.decodeLossy) := by
  obtain ⟨lines', v, stop, final, hreaches, hstop, hrun⟩ := exists_reaches w
  have hcount := h.count
  have hpassed := hreaches.passed
  rw [hrun] at hcount hecho
  -- as many lines as were shown are the lines that were shown
  have heq : ∀ shown, shown <+: Text.lines w.source.bytes → final.lines = w.lines + shown.length →
      lines = shown := by
    intro shown hshown hlines
    have hlength : lines.length = shown.length := Nat.add_left_cancel (hcount.symm.trans hlines)
    exact (List.prefix_of_prefix_length_le h.first hshown hlength.le).eq_of_length hlength
  rcases stop_cases hstop with hfetch | ⟨line, v', refusal, hfetch, -, rfl, rfl⟩
  · have hlast := (left_of_fetch_stop hfetch (Or.inl hecho)).2.1
    rw [hreaches.acts_eq, acts_of_fetch_stop hfetch, List.append_nil,
      heq lines' ⟨_, hreaches.lines_eq.symm⟩ (hlast.trans hpassed.count)]
  · have hlast := hpassed.trans (passed_of_fetch hfetch)
    have hfirst : lines' ++ [line] <+: Text.lines w.source.bytes :=
      ⟨Text.lines v'.source.bytes, by rw [hreaches.lines_eq, lines_of_fetch hfetch]; simp⟩
    have hinterpret : v'.interpret line = .stop _ _ := (step_of_line hfetch).symm.trans hstop
    rw [hreaches.acts_eq, acts_of_fetch_line hfetch, hinterpret, heq _ hfirst hlast.count, List.map_append,
      Monitor.Act.ofLines_append, (passed_of_fetch hfetch).count, hpassed.count, List.length_map,
      Nat.add_right_comm]
    rfl

/-! ### Undisturbed runs -/

/-- An undisturbed run ends with its stream or on the violation that its monitor then holds. -/
theorem stop_of_undisturbed (hw : w.Undisturbed) (hm : w.monitor.isHalted = false) :
    w.run.stop = .ended (.ofViolation w.run.watch.monitor.violation) := by
  obtain ⟨hstop, hmonitor, -⟩ := run_of_undisturbed hw
  have hrefusal : w.course.refusal = w.course.monitor.violation.map .violation :=
    Monitor.refusal_readLines hm _ _
  rw [hstop, hmonitor, Stop.ofCourse, hrefusal]
  rcases w.course.monitor.violation with - | v <;> rfl

theorem exists_covers_of_undisturbed (hw : w.Undisturbed) (hm : w.monitor.isHalted = false) :
    (∀ fault, w.run.stop ≠ .failed fault) ∧ ∃ lines, w.Covers lines := by
  have hecho : ∀ fault, w.run.stop ≠ .failed fault := by
    intro fault hfailed
    cases (stop_of_undisturbed hw hm).symm.trans hfailed
  exact ⟨hecho, exists_covers (Or.inl hecho)⟩

/-- The log of a run accounts for its transitions and its violation, and then says how it ended. -/
theorem log_of_run (hm : w.monitor.isHalted = false) :
    w.run.watch.log.toList = w.log.toList
      ++ (Monitor.accountOf (w.monitor.along Monitor.transitions w.acts) w.run.watch.monitor.violation
        ++ w.run.closing) := by
  rw [log_run, (Monitor.trail_actAll hm _).2, ← monitor_run]

/-- **An undisturbed run comes to the verdict on the groups of its log.** -/
theorem run_judged (hw : w.Undisturbed) (hm : w.monitor.isHalted = false) (hfirst : w.lines = 0) :
    let log := Text.lines w.source.bytes
    let verdict := w.monitor.verdict (Marker.groups (log.map Utf8.decodeLossy))
    let n := w.run.watch.lines
    w.run.watch.monitor = verdict.monitor.onLine (w.monitor.linesSeen + n) n ∧
      w.monitor.along Monitor.transitions w.acts = verdict.transitions ∧
      Marker.signature (log.take n) = (Marker.signature log).take verdict.position := by
  intro log verdict n
  have hjudged := Monitor.judged hm w.monitor.linesSeen w.lines (log.map Utf8.decodeLossy)
  obtain ⟨-, hmonitor, hpassed⟩ := run_of_undisturbed hw
  -- as many lines are counted as are read
  have hcount : n = w.course.count := by
    have hcount_le : w.course.count ≤ log.length := by
      rw [← List.length_map Utf8.decodeLossy]
      exact Monitor.count_readLines_le _ _ _
    rw [show n = _ from hpassed.count, hfirst, Nat.zero_add, List.length_take_of_le hcount_le]
  rw [hcount]
  refine ⟨?_, ?_, ?_⟩
  · have hlast : w.lines + w.course.count = w.course.count := by rw [hfirst, Nat.zero_add]
    exact hmonitor.trans (hjudged.monitor.trans (congrArg (Monitor.onLine _ _) hlast))
  · -- the lines that were covered are those that are read, and the others yield nothing
    obtain ⟨hecho, lines, hcovers⟩ := exists_covers_of_undisturbed hw hm
    have hlength : lines.length = w.course.count := by
      rw [← hcount, show n = _ from hcovers.count, hfirst, Nat.zero_add]
    have hread : lines = log.take w.course.count := by
      rw [← hlength]
      exact List.prefix_iff_eq_take.mp hcovers.first
    rw [hcovers.acts_eq hecho, hread, List.map_take]
    exact (Monitor.along_ofLines_take hm _ _).trans hjudged.transitions
  · rw [Marker.signature_eq, Marker.signature_eq, ← List.map_take, List.map_take]
    exact congrArg _ hjudged.groups

/-! ### Two logs of one signature -/

/-- What a run does with the lines of its own log: it passes on the first of them and counts them, and
a violation is on the last, where the marker stands. -/
structure KeepsTo (m : Monitor) (sink : Sink) (log : List (List UInt8)) (finished : Finished) : Prop where
  count_le : finished.watch.lines ≤ log.length
  echo : finished.watch.sink.taken = sink.taken ++ Text.unlines (log.take finished.watch.lines)
  flushes : finished.watch.sink.flushes = sink.flushes + finished.watch.lines
  seen : finished.watch.monitor.linesSeen = m.linesSeen + finished.watch.lines
  violation : ∀ v, finished.watch.monitor.violation = some v →
    v.line = some finished.watch.lines ∧
    ∃ earlier last, log.take finished.watch.lines = earlier ++ [last] ∧ v.marker ∈ Marker.standingIn last ∧
      (m.readLines 1 (earlier.map Utf8.decodeLossy)).refusal = none

theorem keepsTo_of_undisturbed {m : Monitor} {source : Source} {sink : Sink} (hm : m.isHalted = false)
    (hsource : source.Steady) (hsink : sink.Boundless) :
    KeepsTo m sink (Text.lines source.bytes) (run { monitor := m, source, sink }) := by
  have hw : Undisturbed { monitor := m, source, sink } := ⟨hsource, hsink, rfl⟩
  obtain ⟨-, lines, hcovers⟩ := exists_covers_of_undisturbed hw hm
  have hlength : (run { monitor := m, source, sink }).watch.lines = lines.length :=
    hcovers.count.trans (Nat.zero_add _)
  have hlines : lines = (Text.lines source.bytes).take (run { monitor := m, source, sink }).watch.lines := by
    rw [hlength]
    exact List.prefix_iff_eq_take.mp hcovers.first
  refine ⟨?_, ?_, ?_, ?_, ?_⟩
  · rw [hlength]
    exact hcovers.first.length_le
  · rw [← hlines]
    exact hcovers.taken
  · rw [hlength]
    exact congrArg Sink.flushes hcovers.sink
  · rw [hlength]
    exact hcovers.linesSeen hm
  · intro v hv
    have hstop := stop_of_undisturbed hw hm
    rw [hv] at hstop
    obtain ⟨earlier, last, hlast, hline, -, -, hcarried, haccepted⟩ := hcovers.exists_last hm hstop
    refine ⟨?_, earlier, last, ?_, Marker.mem_standingIn.mpr hcarried, haccepted⟩
    · rw [hline, hlength]
      exact congrArg some (Nat.zero_add _)
    · rw [← hlines, hlast]

theorem outcome?_of_undisturbed (hw : w.Undisturbed) (hm : w.monitor.isHalted = false) :
    w.run.outcome? = some ⟨w.run.watch.monitor.tally, w.run.watch.monitor.phase, w.run.watch.lines,
      .ofViolation w.run.watch.monitor.violation⟩ := by
  rw [Finished.outcome?, stop_of_undisturbed hw hm]

/-- The outcome of a run whose violation is on another line. -/
theorem outcome?_of_atLine {n : Nat} (hw : w.Undisturbed) (hm : w.monitor.isHalted = false)
    (hafter : w.run.watch.monitor = v.monitor.onLine w.run.watch.monitor.linesSeen n) :
    w.run.outcome? = some ⟨v.monitor.tally, v.monitor.phase, w.run.watch.lines,
      (Termination.ofViolation v.monitor.violation).atLine n⟩ := by
  rw [outcome?_of_undisturbed hw hm, hafter]
  simp only [Monitor.onLine]
  rcases v.monitor.violation with - | u <;> rfl

/-- Two logs that account for the same transitions differ in the numbers of lines alone. -/
theorem log_of_atLine (hw : w.Undisturbed) (hw' : w'.Undisturbed) (hm : w.monitor.isHalted = false)
    (hm' : w'.monitor.isHalted = false) (hlog : w.log = #[]) (hlog' : w'.log = #[])
    (htransitions : w.monitor.along Monitor.transitions w.acts = w'.monitor.along Monitor.transitions w'.acts)
    (hviolation : w'.run.watch.monitor.violation
      = w.run.watch.monitor.violation.map (·.atLine w'.run.watch.lines)) :
    w'.run.watch.log.toList = w.run.watch.log.toList.map (Log.Record.atLine w'.run.watch.lines) := by
  -- what closes the log depends on the violation and the lines alone
  have hclosing : w'.run.closing = w.run.closing.map (Log.Record.atLine w'.run.watch.lines) := by
    rw [Finished.closing, Finished.closing, stop_of_undisturbed hw hm, stop_of_undisturbed hw' hm', hviolation]
    rcases w.run.watch.monitor.violation with - | u <;> rfl
  rw [log_of_run hm, log_of_run hm', hlog, hlog', hviolation, Monitor.accountOf_atLine, hclosing, htransitions,
    List.nil_append, List.nil_append, List.map_append]

/-- **Of a log only the markers matter.**

Let a monitor that has not halted watch over two logs, undisturbed, and let the logs have the same
signature.  Then it makes the same transitions, comes to the same phase with the same counters and
cycles, halts on the same marker in the same phase or not at all, and ends and puts on record the
same; the lines that were read carry the same sets of markers, so the violation, if there is one, is
at the same place among the lines that carry any.  The runs differ in how many lines there were, in
their echoes and in the number of the violating line, and in these each keeps to its own log.

In particular lines without markers can be put in or left out, and a line can be replaced by any
other that carries the same markers. -/
theorem run_heeds_signature {m : Monitor} {log log' : List (List UInt8)} {source source' : Source}
    {sink sink' : Sink} (hm : m.isHalted = false) (hlog : Text.lines source.bytes = log)
    (hlog' : Text.lines source'.bytes = log') (hsource : source.Steady) (hsource' : source'.Steady)
    (hsink : sink.Boundless) (hsink' : sink'.Boundless) (h : Marker.signature log = Marker.signature log') :
    let start : Watch := { monitor := m, source, sink }
    let start' : Watch := { monitor := m, source := source', sink := sink' }
    let finished := start.run
    let finished' := start'.run
    let n := finished.watch.lines
    let n' := finished'.watch.lines
    let after := finished.watch.monitor
    m.along Monitor.transitions start.acts = m.along Monitor.transitions start'.acts ∧
    finished'.watch.monitor = after.onLine (m.linesSeen + n') n' ∧
    (∃ termination, finished.outcome? = some ⟨after.tally, after.phase, n, termination⟩ ∧
      finished'.outcome? = some ⟨after.tally, after.phase, n', termination.atLine n'⟩) ∧
    Marker.signature (log.take n) = Marker.signature (log'.take n') ∧
    finished'.watch.log.toList = finished.watch.log.toList.map (Log.Record.atLine n') ∧
    (KeepsTo m sink log finished ∧ KeepsTo m sink' log' finished') ∧
    (∀ before noise later, (∀ line ∈ noise, Marker.standingIn line = ∅) →
      Marker.signature (before ++ noise ++ later) = Marker.signature (before ++ later)) ∧
    ∀ before line line' later, Marker.standingIn line = Marker.standingIn line' →
      Marker.signature (before ++ line :: later) = Marker.signature (before ++ line' :: later) := by
  subst hlog hlog'
  intro start start' finished finished' n n' after
  have hstart : start.Undisturbed := ⟨hsource, hsink, rfl⟩
  have hstart' : start'.Undisturbed := ⟨hsource', hsink', rfl⟩
  obtain ⟨hmonitor, htransitions, hread⟩ := run_judged hstart hm rfl
  obtain ⟨hmonitor', htransitions', hread'⟩ := run_judged hstart' hm rfl
  -- both verdicts are on the same groups
  have hgroups : Marker.groups ((Text.lines start'.source.bytes).map Utf8.decodeLossy)
      = Marker.groups ((Text.lines source.bytes).map Utf8.decodeLossy) := by
    rw [Marker.groups_eq, Marker.groups_eq]
    exact congrArg _ h.symm
  rw [hgroups] at hmonitor' htransitions' hread'
  have hafter : finished'.watch.monitor = after.onLine (m.linesSeen + n') n' := by
    rw [show after = _ from hmonitor, Monitor.onLine_onLine]
    exact hmonitor'
  have htrace : m.along Monitor.transitions start.acts = m.along Monitor.transitions start'.acts :=
    htransitions.trans htransitions'.symm
  refine ⟨htrace, hafter, ⟨_, outcome?_of_undisturbed hstart hm, ?_⟩, ?_, ?_,
    ⟨keepsTo_of_undisturbed hm hsource hsink, keepsTo_of_undisturbed hm hsource' hsink'⟩,
    fun before noise later hnoise => Marker.signature_insert hnoise before later,
    fun before line line' later hline => Marker.signature_rewrite hline before later⟩
  · have hseen : finished'.watch.monitor.linesSeen = m.linesSeen + n' := congrArg Monitor.linesSeen hafter
    rw [← hseen] at hafter
    exact outcome?_of_atLine (v := finished.watch) hstart' hm hafter
  · exact hread.trans ((congrArg _ h).trans hread'.symm)
  · exact log_of_atLine hstart hstart' hm hm rfl rfl htrace (congrArg Monitor.violation hafter)

/-- Two logs of one signature, with a violation on the second line of the one and on the fourth of the
other. -/
theorem verdict_of_noisy_log :
    let log := ["persist was triggered", "restore finished"].map Utf8.encode
    let log' := ["", "[!] persist was triggered (persist was triggered)", "ok", "restore finished?"].map Utf8.encode
    let start : Watch := { source := [.data (Text.unlines log)] }
    let start' : Watch := { source := [.data (Text.unlines log')], sink := { perWrite := some 1 } }
    Marker.signature log = Marker.signature log' ∧
      start.run.watch.monitor.violation = some ⟨.restoreFinished, .triggered, some 2⟩ ∧
      start'.run.watch.monitor.violation = some ⟨.restoreFinished, .triggered, some 4⟩ := by
  intro log log' start start'
  have hlog : Text.lines (Source.bytes [.data (Text.unlines log)]) = log := by decide
  have hlog' : Text.lines (Source.bytes [.data (Text.unlines log')]) = log' := by decide
  have hsignature : Marker.signature log = Marker.signature log' := by decide
  have hsteady : start.source.Steady := by decide
  have hsteady' : start'.source.Steady := by decide
  have hsink : start.sink.Boundless := ⟨by decide, rfl, rfl, rfl⟩
  have hsink' : start'.sink.Boundless := ⟨by decide, rfl, rfl, rfl⟩
  obtain ⟨-, hmonitor, -⟩ :=
    run_heeds_signature (m := {}) rfl hlog hlog' hsteady hsteady' hsink hsink' hsignature
  have hviolation : start.run.watch.monitor.violation = some ⟨.restoreFinished, .triggered, some 2⟩ := by
    rw [(run_of_undisturbed ⟨hsteady, hsink, rfl⟩).2.1]
    decide
  have hcount : start'.run.watch.lines = 4 :=
    (run_of_undisturbed ⟨hsteady', hsink', rfl⟩).2.2.count.trans (by decide)
  refine ⟨hsignature, hviolation, (congrArg Monitor.violation hmonitor).trans ?_⟩
  rw [hcount]
  exact congrArg (Option.map _) hviolation

end Watch

end CheckpointMonitor
