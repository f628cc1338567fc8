/-
CheckpointMonitor/Proofs/CommandLine/Conclusion.lean

What a command leaves behind once it watches.

After the watch the report is written on two ways, one for a watch that ended as a watch does
and one for a watch that failed.  On a standard output that accepts everything the two
cannot be told apart but by the failure that the command complains of
(`conclude_of_accepting`), and where the output fails as well, a failure of the stream is
still the one complained of (`complaint_of_failed`).

So what the command leaves behind is settled by the watch, and the watch by what its
source delivers and by the moment of the interruption: where the source comes from, how its
bytes arrive and what else the surroundings hold has no part in it (`starts_report`).
-/
import CheckpointMonitor.CommandLine.Execution
import CheckpointMonitor.Proofs.FileTree
import CheckpointMonitor.Proofs.Monitor.Numbering
import CheckpointMonitor.Proofs.Watch.Content
import CheckpointMonitor.Proofs.Watch.Halted

namespace CheckpointMonitor

/-- The report on a sink that accepts everything. -/
theorem Summary.write_of_accepting {sink : Sink} (h : sink.Accepting) (tally : Tally) (format : Format) :
    write tally format sink = .ok (sink.after (Utf8.encode (render tally format)) 1) := by
  simp only [write, bind, Except.bind, h.writeAll, (h.accept _).flush, Sink.after_accept]

namespace CommandLine

variable {surroundings : Surroundings} {arguments : List String} {plan plan' : Plan} {output output' : Sink}

/-! ### After the watch -/

/-- The failure that the command complains of after a watch, if there is one. -/
def failureAfter (finished : Watch.Finished) : Option Failure :=
  match finished.stop with
  | .ended termination => termination.violation?.map .violation
  | .failed fault => some (.channel fault)
  | .halted => some .halted

theorem failureAfter_eq_none_iff {finished : Watch.Finished} :
    failureAfter finished = none ↔
      finished.stop = .ended .endOfStream ∨ finished.stop = .ended .interrupted := by
  rw [failureAfter]
  rcases finished.stop with termination | fault | -
  · cases termination <;> simp [Termination.violation?]
  · simp
  · simp

/-- **On an output that accepts everything** the report follows on the echo in every case, and the
command fails exactly if there is something to complain of. -/
theorem conclude_of_accepting {finished : Watch.Finished} (h : finished.watch.sink.Accepting)
    (format : Summary.Format) :
    let result := conclude format finished
    let report := Utf8.encode (Summary.render finished.watch.monitor.tally format)
    result.output = finished.watch.sink.after report 1 ∧
      result.exitCode = (failureAfter finished).elim 0 (fun _ => failureCode) ∧
      result.complaint = (failureAfter finished).elim "" fun failure => (Complaint.ofFailure failure).render := by
  have hwrite := Summary.write_of_accepting h finished.watch.monitor.tally format
  unfold conclude failureAfter
  rcases finished.stop with termination | fault | -
  · simp only [concludeEnded, hwrite]
    cases termination with
    | endOfStream => exact ⟨rfl, rfl, rfl⟩
    | interrupted => exact ⟨rfl, rfl, rfl⟩
    | violation v => exact ⟨rfl, rfl, rfl⟩
  · simp only [concludeFailed, hwrite]
    exact ⟨rfl, rfl, rfl⟩
  · simp only [concludeFailed, hwrite]
    exact ⟨rfl, rfl, rfl⟩

/-- A failure of the stream is complained of whether or not the report can be written. -/
theorem complaint_of_failed {finished : Watch.Finished} {fault : Fault} (h : finished.stop = .failed fault)
    (format : Summary.Format) :
    (conclude format finished).exitCode = failureCode ∧
      (conclude format finished).complaint = (Complaint.ofFailure (.channel fault)).render := by
  unfold conclude
  rw [h]
  simp only [concludeFailed]
  split
  · exact ⟨rfl, rfl⟩
  · exact ⟨rfl, rfl⟩

theorem render_violation (v : Violation) :
    (Complaint.ofFailure (.violation v)).render = "Error: " ++ v.message ++ "\n" :=
  String.append_empty

/-! ### Before the watch -/

/-- What the watch of a plan comes to, a shutdown having been requested before it or not. -/
def Plan.watched (plan : Plan) (output : Sink) (shutdown : Bool) : Watch.Finished :=
  Watch.run { plan.watch output with shutdown }

/-- What the command leaves behind after this watch. -/
def Plan.result (plan : Plan) (output : Sink) (shutdown : Bool) : Result :=
  conclude plan.settings.reportFormat (plan.watched output shutdown)

/-- The command line and the surroundings bring the command to watch as planned. -/
def Starts (surroundings : Surroundings) (arguments : List String) (plan : Plan) : Prop :=
  ∃ options, parse arguments = .ok (.run options) ∧ prepare surroundings options = .ok plan

/-- A command that comes to watch leaves behind what its watch came to. -/
theorem execute_of_starts (h : Starts surroundings arguments plan) :
    let result := plan.result surroundings.output false
    execute surroundings arguments = { result with log := result.shown plan.filter } := by
  obtain ⟨options, hparse, hplan⟩ := h
  intro result
  rw [execute, hparse]
  show run surroundings options = _
  simp only [run, hplan]
  rfl

theorem openSource_of_starts (h : Starts surroundings arguments plan) :
    openSource surroundings plan.settings = .ok plan.source := by
  obtain ⟨options, -, hplan⟩ := h
  simp only [prepare, bind, Except.bind] at hplan
  split at hplan
  · cases hplan
  split at hplan
  · cases hplan
  split at hplan
  · cases hplan
  next hsource =>
    obtain rfl := Except.ok.inj hplan
    exact hsource

/-! ### The whole run -/

/-- The same after the watch of a plan, whose output still accepts everything. -/
theorem Plan.result_of_accepting (plan : Plan) (houtput : output.Accepting) (shutdown : Bool) :
    let finished := plan.watched output shutdown
    let report := Utf8.encode (Summary.render finished.watch.monitor.tally plan.settings.reportFormat)
    let result := plan.result output shutdown
    result.output = finished.watch.sink.after report 1 ∧
      result.exitCode = (failureAfter finished).elim 0 (fun _ => failureCode) ∧
      result.complaint = (failureAfter finished).elim "" fun failure => (Complaint.ofFailure failure).render := by
  intro finished
  let w : Watch := { plan.watch output with shutdown }
  obtain ⟨lines, hcovers⟩ : ∃ lines, w.Covers lines := Watch.exists_covers (Or.inr houtput)
  have hsink : finished.watch.sink.Accepting := by
    rw [show finished.watch.sink = _ from hcovers.sink]
    exact houtput.after _ _
  exact conclude_of_accepting hsink plan.settings.reportFormat

/-- What the command leaves behind after a watch of a new monitor, on an output that accepts
everything: the echo of the lines and one report of their counts. -/
structure Reports (source : Source) (output : Sink) (format : Summary.Format) (finished : Watch.Finished)
    (result : Result) (lines : List (List UInt8)) : Prop where
  /-- The lines are the first of the source, all of them echoed as a whole. -/
  first : lines <+: Text.lines source.bytes
  echo : finished.watch.sink.taken = output.taken ++ Text.unlines lines
  count : finished.watch.lines = lines.length
  /-- The monitor has read these lines and no others. -/
  monitor : finished.watch.monitor = (Monitor.readLines {} 1 (lines.map Utf8.decodeLossy)).monitor
  /-- The report follows on the echo, and nothing else does. -/
  report : result.output.taken
    = finished.watch.sink.taken ++ Utf8.encode (Summary.render finished.watch.monitor.tally format)
  exitCode : result.exitCode = 0 ↔
    finished.stop = .ended .endOfStream ∨ finished.stop = .ended .interrupted
  /-- A violation is on the last line. -/
  violation : ∀ v, finished.stop = .ended (.violation v) →
    v.line = some lines.length ∧ result.complaint = "Error: " ++ v.message ++ "\n"
  not_halted : finished.stop ≠ .halted

/-- **One report follows on the echo,** however the watch ended. -/
theorem exists_reports (plan : Plan) (houtput : output.Accepting) (shutdown : Bool) :
    ∃ lines, Reports plan.source output plan.settings.reportFormat (plan.watched output shutdown)
      (plan.result output shutdown) lines := by
  let w : Watch := { plan.watch output with shutdown }
  let finished := plan.watched output shutdown
  obtain ⟨lines, hcovers⟩ : ∃ lines, w.Covers lines := Watch.exists_covers (Or.inr houtput)
  obtain ⟨hresult, hexit, hcomplaint⟩ := plan.result_of_accepting houtput shutdown
  have hcourse : Monitor.readLines {} 1 (lines.map Utf8.decodeLossy)
      = ⟨finished.watch.monitor, lines.length, finished.stop.refusal?⟩ := hcovers.course
  have hhalted : finished.stop ≠ .halted := by
    intro hstop
    have hnot : finished.failure? ≠ some .halted := Watch.not_halted_of_run (w := w) rfl
    apply hnot
    rw [Watch.Finished.failure?, hstop]
  refine ⟨lines, hcovers.first, hcovers.taken, ?_, ?_, ?_, ?_, ?_, hhalted⟩
  · exact hcovers.count.trans (Nat.zero_add _)
  · rw [hcourse]
  · rw [hresult]
    rfl
  · rw [hexit, ← failureAfter_eq_none_iff]
    show _ ↔ failureAfter finished = none
    cases failureAfter finished <;> simp [failureCode]
  · intro v hstop
    have hrefusal : (Monitor.readLines {} 1 (lines.map Utf8.decodeLossy)).refusal
        = some (.violation v) := by
      rw [hcourse, hstop]
      rfl
    obtain ⟨n, hline, hn⟩ := Monitor.line_of_readLines rfl hrefusal
    rw [hcourse, Nat.add_comm] at hn
    refine ⟨?_, ?_⟩
    · rw [hline, Nat.add_left_cancel hn]
    · rw [hcomplaint, failureAfter, hstop]
      exact render_violation v

/-- **What is left behind depends on content, moment and form alone.** -/
theorem result_of_content {shutdown shutdown' : Bool}
    (hformat : plan'.settings.reportFormat = plan.settings.reportFormat) (houtput' : output'.Accepting)
    (houtput : output.Accepting) (htaken : output'.taken = output.taken)
    (hdelivery : plan'.source.delivery = plan.source.delivery)
    (hmoment : (plan'.watched output' shutdown').interruption?
      = (plan.watched output shutdown).interruption?) :
    let result := plan.result output shutdown
    let result' := plan'.result output' shutdown'
    result'.output.taken = result.output.taken ∧ result'.exitCode = result.exitCode ∧
      result'.complaint = result.complaint := by
  let w : Watch := { plan.watch output with shutdown }
  let w' : Watch := { plan'.watch output' with shutdown := shutdown' }
  let finished := plan.watched output shutdown
  let finished' := plan'.watched output' shutdown'
  have hbeside : Watch.Beside w' w := ⟨rfl, rfl, htaken⟩
  obtain ⟨hstop, hend⟩ : finished'.stop = finished.stop ∧ Watch.Beside finished'.watch finished.watch :=
    hbeside.run_of_content houtput' houtput hdelivery hmoment
  have hfailure : failureAfter finished' = failureAfter finished := by
    rw [failureAfter, failureAfter, hstop]
  obtain ⟨hresult, hexit, hcomplaint⟩ := plan.result_of_accepting houtput shutdown
  obtain ⟨hresult', hexit', hcomplaint'⟩ := plan'.result_of_accepting houtput' shutdown'
  intro result result'
  refine ⟨?_, ?_, ?_⟩
  · -- the same echo, and the same report after it
    let report := Utf8.encode (Summary.render finished.watch.monitor.tally plan.settings.reportFormat)
    have htaken : result.output.taken = finished.watch.sink.taken ++ report := by
      rw [hresult]
      rfl
    have htaken' : result'.output.taken = finished'.watch.sink.taken ++ report := by
      rw [hresult', hformat, show (plan'.watched output' shutdown').watch.monitor = _ from hend.monitor]
      rfl
    rw [htaken, htaken', hend.taken]
  · rw [hexit, hexit']
    exact congrArg (fun failure? : Option Failure => failure?.elim 0 fun _ => failureCode) hfailure
  · rw [hcomplaint, hcomplaint']
    exact congrArg (fun failure? : Option Failure =>
      failure?.elim "" fun failure => (Complaint.ofFailure failure).render) hfailure

/-- What a source holds as it is opened: a capture delivers what stands under its path. -/
theorem delivery_of_openSource {settings : Settings} {source : Source}
    (h : openSource surroundings settings = .ok source) :
    (settings.input = none → source = surroundings.input) ∧
      ∀ path node, settings.input = some path → surroundings.files path = .ok node →
        source.delivery = node.delivery := by
  constructor
  · intro hinput
    rw [openSource, hinput] at h
    exact (Except.ok.inj h).symm
  · intro path node hinput hnode
    obtain ⟨source', hopen, -, hdelivery⟩ := Files.source_of_node hnode
    rw [openSource, hinput] at h
    simp only [hopen] at h
    obtain rfl := Except.ok.inj h
    exact hdelivery

/-- **What a command leaves behind once it watches.**

Let the arguments, the settings and the filter be accepted and the source be opened.  Then the command
leaves behind what its watch comes to, of a new monitor, whatever the source is and whenever a shutdown
is requested.

On a standard output that accepts everything, the lines that were echoed as a whole are followed by one
report, in the form that was settled on, of the counts of just these lines.  The exit status is zero
exactly if the stream ended or was interrupted; a violation is complained of with the number of the
last line.  A failure of the stream is complained of as it is, also where the report cannot
be written.

All this depends on what the source delivers, on the moment of the interruption and on the form of the
report alone.  The plan of another command line, in other surroundings, leaves the same behind if it
agrees in these: a capture, whether it can be read to its end or only up to some place, comes to what the
same delivery comes to on the standard input. -/
theorem starts_report (hstarts : Starts surroundings arguments plan) :
    let format := plan.settings.reportFormat
    let output := surroundings.output
    execute surroundings arguments
      = { plan.result output false with log := (plan.result output false).shown plan.filter } ∧
    (plan.settings.input = none → plan.source = surroundings.input) ∧
    (∀ path node, plan.settings.input = some path → surroundings.files path = .ok node →
      plan.source.delivery = node.delivery) ∧
    ∀ shutdown : Bool,
      let finished := plan.watched output shutdown
      let result := plan.result output shutdown
      (∀ fault, finished.stop = .failed fault →
        result.exitCode = failureCode ∧
          result.complaint = (Complaint.ofFailure (.channel fault)).render) ∧
      (output.Accepting →
        (∃ lines, Reports plan.source output format finished result lines) ∧
        ∀ (plan' : Plan) (output' : Sink) (shutdown' : Bool),
          plan'.settings.reportFormat = format → output'.Accepting → output'.taken = output.taken →
          plan'.source.delivery = plan.source.delivery →
          (plan'.watched output' shutdown').interruption? = finished.interruption? →
          let result' := plan'.result output' shutdown'
          result'.output.taken = result.output.taken ∧ result'.exitCode = result.exitCode ∧
            result'.complaint = result.complaint) := by
  intro format output
  obtain ⟨hinput, hfile⟩ := delivery_of_openSource (openSource_of_starts hstarts)
  refine ⟨execute_of_starts hstarts, hinput, hfile, ?_⟩
  intro shutdown finished result
  refine ⟨fun fault hfailed => complaint_of_failed hfailed format, ?_⟩
  intro houtput
  refine ⟨exists_reports plan houtput shutdown, ?_⟩
  intro plan' output' shutdown' hformat houtput' htaken hdelivery hmoment result'
  exact result_of_content hformat houtput' houtput htaken hdelivery hmoment

/-- The filter that shows nothing. -/
theorem parse_filter_empty : Log.Filter.parse "" = .ok [] := by
  have hparts : "".splitOn "," = [""] := by
    rw [String.splitOn, if_neg (by decide), String.splitOnAux, if_pos (by decide)]
    rfl
  rw [Log.Filter.parse, hparts]
  rfl

/-- A log with a violation on its second line, once as it arrives on the standard input, a few bytes at a
time, and once as a capture. -/
theorem report_of_input_and_of_capture :
    let content := Utf8.encode "persist was triggered\nrestore finished\nx"
    let files : Files := fun _ => .ok (.file content)
    let input : Source :=
      [.data (Utf8.encode "persist was trig"), .pending, .data (Utf8.encode "gered\nrestore finished\nx")]
    let live : Surroundings := { files, input, output := { perWrite := some 1 } }
    let replay : Surroundings := { files }
    let plan : Plan := ⟨{ logFilter := "" }, [], input⟩
    let plan' : Plan := ⟨{ input := some "run.log", logFilter := "" }, [], [.data content]⟩
    let result := execute live ["--log-filter", ""]
    let result' := execute replay ["--input", "run.log", "--log-filter="]
    Starts live ["--log-filter", ""] plan ∧ Starts replay ["--input", "run.log", "--log-filter="] plan' ∧
      live.output.Accepting ∧
      result.output.taken = (Utf8.encode "persist was triggered\nrestore finished\n").toArray ++
        Utf8.encode (Summary.render ⟨1, 0⟩ .text) ∧
      result.exitCode ≠ 0 ∧
      result.complaint
        = "Error: protocol violation: 'restore finished' received in state triggered (line 2)\n" ∧
      result'.output.taken = result.output.taken ∧ result'.exitCode = result.exitCode ∧
      result'.complaint = result.complaint := by
  intro content files input live replay plan plan' result result'
  have hstarts : Starts live ["--log-filter", ""] plan := by
    refine ⟨{ logFilter := some "" }, rfl, ?_⟩
    show (do
      let filter ← (Log.Filter.parse "").mapError StartError.filter
      _) = _
    rw [parse_filter_empty]
    rfl
  have hstarts' : Starts replay ["--input", "run.log", "--log-filter="] plan' := by
    refine ⟨{ input := some "run.log", logFilter := some "" }, rfl, ?_⟩
    show (do
      let filter ← (Log.Filter.parse "").mapError StartError.filter
      _) = _
    rw [parse_filter_empty]
    rfl
  have houtput : live.output.Accepting := ⟨by decide, rfl, rfl⟩
  have houtput' : replay.output.Accepting := ⟨by decide, rfl, rfl⟩
  obtain ⟨hresult, -, -, hreports⟩ := starts_report hstarts
  obtain ⟨hresult', -⟩ := starts_report hstarts'
  obtain ⟨⟨lines, hreport⟩, hsame⟩ := (hreports false).2 houtput
  have hecho : (plan.watched live.output false).watch.sink.taken
      = (Utf8.encode "persist was triggered\nrestore finished\n").toArray := by decide +kernel
  have htally : (plan.watched live.output false).watch.monitor.tally = ⟨1, 0⟩ := by decide +kernel
  have hstop : (plan.watched live.output false).stop
      = .ended (.violation ⟨.restoreFinished, .triggered, some 2⟩) := by decide +kernel
  have hall := hreport.report
  have hexit := hreport.exitCode
  rw [hecho, htally] at hall
  rw [hstop] at hexit
  have hmoment : (plan'.watched replay.output false).interruption?
      = (plan.watched live.output false).interruption? := by decide +kernel
  obtain ⟨htaken', hexit', hcomplaint'⟩ :=
    hsame plan' replay.output false rfl houtput' rfl (by decide +kernel) hmoment
  refine ⟨hstarts, hstarts', houtput, ?_, ?_, ?_, ?_, ?_, ?_⟩
  · rw [show result = _ from hresult]
    exact hall
  · rw [show result = _ from hresult]
    simpa using hexit
  · rw [show result = _ from hresult]
    exact (hreport.violation _ hstop).2.trans (by decide +kernel)
  · rw [show result = _ from hresult, show result' = _ from hresult']
    exact htaken'
  · rw [show result = _ from hresult, show result' = _ from hresult']
    exact hexit'
  · rw [show result = _ from hresult, show result' = _ from hresult']
    exact hcomplaint'

end CommandLine

end CheckpointMonitor
