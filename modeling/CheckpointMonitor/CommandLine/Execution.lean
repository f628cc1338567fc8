/-
CheckpointMonitor/CommandLine/Execution.lean

The command from its arguments to its exit status.

It is all or nothing up to the watch: the settings, the filter and the source are
made ready in this order, and the first of them that fails ends the run before
anything is read or written (`prepare`).  After the watch the report is written
in every case, also when the stream failed (`conclude`).
-/
import CheckpointMonitor.CommandLine.Options
import CheckpointMonitor.Log.Filter
import CheckpointMonitor.Settings.Load
import CheckpointMonitor.Text.Printable
import CheckpointMonitor.Watch

namespace CheckpointMonitor.CommandLine

/-! ### Making ready -/

/-- The settings that the options and the file that they name make together; an option beats the
file. -/
def Options.settings (options : Options) (files : Files) : Except Settings.LoadError Settings := do
  let settings ← match options.config with
    | some path => Settings.load files path
    | none => pure {}
  return {
    input := options.input <|> settings.input
    reportFormat := options.format.getD settings.reportFormat
    logFilter := options.logFilter.getD settings.logFilter }

/-- The filter: that of the options, or else that of the environment if it is one, or else that of
the settings. -/
def Options.filter (options : Options) (environment : Option String) (settings : Settings) :
    Except Log.FilterError Log.Filter :=
  match options.logFilter, environment.map Log.Filter.parse with
  | none, some (.ok filter) => .ok filter
  | _, _ => Log.Filter.parse settings.logFilter

/-- Why the watch cannot begin. -/
inductive StartError where
  | settings (error : Settings.LoadError)
  | filter (error : Log.FilterError)
  | capture (path : String) (error : AccessError)

/-- What a command runs in. -/
structure Surroundings where
  files : Files
  /-- The filter that the environment gives. -/
  environment : Option String := none
  input : Source := []
  output : Sink := {}

/-- All that the watch needs. -/
structure Plan where
  settings : Settings
  filter : Log.Filter
  source : Source

/-- The stream that is watched: the file that the settings name, or the standard input. -/
def openSource (surroundings : Surroundings) (settings : Settings) : Except StartError Source :=
  match settings.input with
  | none => .ok surroundings.input
  | some path => (surroundings.files.source path).mapError (.capture path)

/-- Makes ready for the watch. -/
def prepare (surroundings : Surroundings) (options : Options) : Except StartError Plan := do
  let settings ← (options.settings surroundings.files).mapError .settings
  let filter ← (options.filter surroundings.environment settings).mapError .filter
  let source ← openSource surroundings settings
  return { settings, filter, source }

/-! ### Complaints -/

/-- What is said at the end of a run that failed: the failure, and what lies behind it. -/
structure Complaint where
  message : String
  causes : List String := []

namespace Complaint

/-- The complaint about a failure. -/
def ofFailure (failure : Failure) : Complaint :=
  ⟨failure.message, failure.cause?.toList⟩

/-- The complaint about a start that failed. -/
def ofStartError : StartError → Complaint
  | .settings error => ofFailure error.failure
  | .filter error => ⟨error.message, error.causes⟩
  | .capture path error =>
    let failure := Failure.channel error.fault
    ⟨"cannot open capture " ++ path, failure.message :: failure.cause?.toList⟩

/-- A cause after a label; should it have several lines, they begin below one another. -/
def causeLines (label cause : String) : String :=
  let margin := String.ofList (List.replicate label.length ' ')
  label ++ String.intercalate ("\n" ++ margin) (cause.splitOn "\n") ++ "\n"

/-- The causes below one another, numbered if there are several. -/
def causeBlock : List String → String
  | [cause] => causeLines "    " cause
  | causes =>
    String.join (causes.zipIdx.map fun (cause, n) => causeLines ("    " ++ n.repr ++ ": ") cause)

/-- The complaint as it is printed. -/
def render (complaint : Complaint) : String :=
  let causes :=
    if complaint.causes.isEmpty then "" else "\nCaused by:\n" ++ causeBlock complaint.causes
  "Error: " ++ complaint.message ++ "\n" ++ causes

end Complaint

/-! ### After the watch -/

/-- What a run leaves behind. -/
structure Result where
  exitCode : Nat
  /-- The standard output. -/
  output : Sink
  /-- The diagnostics, all of them. -/
  log : Array Log.Record := #[]
  /-- What is said on the standard error beside the diagnostics. -/
  complaint : String := ""

/-- The diagnostics that are shown. -/
def Result.shown (result : Result) (filter : Log.Filter) : Array Log.Record :=
  result.log.filter filter.admits

/-- The exit status of a run that failed. -/
def failureCode : Nat := 1

/-- The exit status of a command line that cannot be understood. -/
def usageCode : Nat := 2

/-- A run that failed. -/
def Result.failed (output : Sink) (log : Array Log.Record) (failure : Failure) : Result :=
  { exitCode := failureCode, output, log, complaint := (Complaint.ofFailure failure).render }

/-- The last record of a run whose watch ended as a watch does. -/
def lastRecord (monitor : Monitor) (termination : Termination) : Log.Record :=
  .runEnded termination monitor.linesSeen monitor.cyclesCompleted monitor.phase

/-- Ends a run whose watch ended as a watch does. -/
def concludeEnded (format : Summary.Format) (watch : Watch) (termination : Termination) : Result :=
  match Summary.write watch.monitor.tally format watch.sink with
  | .error failure => .failed failure.sink watch.log (.channel failure.fault)
  | .ok output =>
    let log := watch.log.push (lastRecord watch.monitor termination)
    match termination with
    | .violation v => .failed output log (.violation v)
    | _ => { exitCode := 0, output, log }

/-- Ends a run whose watch failed.  The report is written all the same, and should that fail too,
the first failure is the one complained of. -/
def concludeFailed (format : Summary.Format) (watch : Watch) (failure : Failure) : Result :=
  match Summary.write watch.monitor.tally format watch.sink with
  | .ok output => .failed output watch.log failure
  | .error lost =>
    let record := Log.Record.summaryLost (Failure.channel lost.fault).message
    .failed lost.sink (watch.log.push record) failure

/-- Ends a run after its watch. -/
def conclude (format : Summary.Format) (finished : Watch.Finished) : Result :=
  match finished.stop with
  | .ended termination => concludeEnded format finished.watch termination
  | .failed fault => concludeFailed format finished.watch (.channel fault)
  | .halted => concludeFailed format finished.watch .halted

/-! ### The whole run -/

/-- The watch that a plan is for. -/
def Plan.watch (plan : Plan) (output : Sink) : Watch :=
  { source := plan.source, sink := output }

/-- Runs with the options; only the diagnostics that the filter shows are kept. -/
def run (surroundings : Surroundings) (options : Options) : Result :=
  match prepare surroundings options with
  | .error error =>
    { exitCode := failureCode
      output := surroundings.output
      complaint := (Complaint.ofStartError error).render }
  | .ok plan =>
    let result := conclude plan.settings.reportFormat (plan.watch surroundings.output).run
    { result with log := result.shown plan.filter }

/-- Adds the hint at the help text to the last of the pieces. -/
def withHint : List String → List String
  | [] => []
  | [last] => [last ++ "\n\nFor more information, try '", "--help", "'.\n"]
  | piece :: rest => piece :: withHint rest

/-- What is said about a command line that cannot be understood.  There is no terminal to show it, so
what would only steer one is left out; where the style changes, no sequence is left open. -/
def usageComplaint (error : UsageError) : String :=
  String.join ((withHint error.pieces).map Text.printable)

/-- Prints the help text. -/
def printHelp (output : Sink) : Result :=
  match output.writeAll (Utf8.encode helpText) with
  | .ok output => { exitCode := 0, output }
  | .error failure => { exitCode := 0, output := failure.sink }

/-- Runs the command. -/
def execute (surroundings : Surroundings) (arguments : List String) : Result :=
  match parse arguments with
  | .error error =>
    { exitCode := usageCode, output := surroundings.output, complaint := usageComplaint error }
  | .ok .help => printHelp surroundings.output
  | .ok (.run options) => run surroundings options

end CheckpointMonitor.CommandLine
