/-
CheckpointMonitor/Main.lean

The command itself: it reads the arguments, the environment and the files, hands
the lines of the standard input to the watch as they arrive, and writes what comes
of it.  The user's interrupt reaches the watch as a shutdown request: on the
standard input while it waits for a line, and in a capture, which is read
beforehand and is never waited for, before the next line.  Nothing is decided here.
-/
import CheckpointMonitor.CommandLine.Execution
import Std.Async.Signal

namespace CheckpointMonitor.CommandLine

/-- The system's number for the reading of a directory. -/
def isDirectoryCode : UInt32 := 21

/-- The system's number for a path that can be none. -/
def invalidPathCode : UInt32 := 22

/-- An error of the system in its own words. -/
def systemText : IO.Error → String
  | .permissionDenied .. => "Permission denied (os error 13)"
  | .hardwareFault .. => "Input/output error (os error 5)"
  | error => toString error

/-- The number of bytes that are asked for at a time. -/
def chunkSize : USize := 65536

/-- Reads a file, onto the bytes read before, to its end or to where reading it fails. -/
partial def readContent (handle : IO.FS.Handle) (content : ByteArray) :
    IO (ByteArray × Option IO.Error) := do
  match ← (handle.read chunkSize).toBaseIO with
  | .error error => return (content, some error)
  | .ok bytes => if bytes.isEmpty then return (content, none) else readContent handle (content ++ bytes)

/-- What stands under a path that can be opened. -/
def nodeOf (handle : IO.FS.Handle) : IO FileTree.Node := do
  match ← readContent handle .empty with
  | (content, none) => return .file content.toList
  | (content, some error) =>
    if let .inappropriateType _ code _ := error then
      if code = isDirectoryCode then return .directory
    return .broken content.toList ⟨.other, some (systemText error)⟩

/-- Why a path cannot be opened. -/
def accessErrorOf : IO.Error → AccessError
  | .noFileOrDirectory .. => .notFound
  | .inappropriateType .. => .notDirectory
  | .invalidArgument _ code _ => if code = invalidPathCode then .nulInPath else .nameTooLong
  | error => .other (systemText error)

/-- What stands under a path on the disk. -/
def readNode (path : String) : IO (Except AccessError FileTree.Node) := do
  match ← (IO.FS.Handle.mk path .read).toBaseIO with
  | .error error => return .error (accessErrorOf error)
  | .ok handle => return .ok (← nodeOf handle)

/-- The files at the given paths. -/
def readFiles (paths : List String) : IO Files := do
  let nodes ← paths.mapM fun path => return (path, ← readNode path)
  return fun path => (nodes.lookup path).getD (.error .notFound)

/-- The files that a run with these options can open: the one with the settings, and the one that
they name. -/
def filesFor (options : Options) : IO Files := do
  let files ← readFiles options.config.toList
  let input := match options.settings files with
    | .ok settings => settings.input
    | .error _ => none
  readFiles (options.config.toList ++ input.toList)

/-- Prints a diagnostic. -/
def printRecord (record : Log.Record) : IO Unit :=
  IO.eprintln ("".pushn ' ' (5 - record.level.name.length) ++ record.level.name ++ " " ++
    record.target ++ ": " ++ record.message)

/-- Writes what was passed on and what was logged since the last time. -/
def publish (filter : Log.Filter) (output : Sink) (log : Array Log.Record) : IO Unit := do
  let stdout ← IO.getStdout
  stdout.write ⟨output.taken⟩
  stdout.flush
  for record in log do
    if filter.admits record then printRecord record

/-- Reads a line of the standard input with its line feed, onto the bytes read before; the last line
may have none, and at the end there is nothing. -/
partial def readArrived (bytes : ByteArray) : IO ByteArray := do
  let next ← (← IO.getStdin).read 1
  if next.toList.all (· != lineFeed) && !next.isEmpty then readArrived (bytes ++ next)
  else return bytes ++ next

/-- The user's request for a shutdown, once it comes. -/
abbrev Interrupt := Std.Async.AsyncTask Int

/-- What happens next: a line arrives, or nothing more does, or the user asks for a shutdown. -/
def nextArrival (interrupt : Interrupt) : IO Source := do
  let reading ← IO.asTask (readArrived .empty)
  let arrived : Task Source := reading.map fun
    | .ok bytes => if bytes.isEmpty then [] else [Source.Arrival.data bytes.toList]
    | .error error => [Source.Arrival.failure ⟨.other, some (systemText error)⟩]
  let asked : Task Source := Task.map (fun _ => [.shutdown, .pending]) interrupt
  IO.waitAny [asked, arrived]

/-- The watch of the standard input before its next step. -/
def awaitLine (interrupt : Interrupt) (watch : Watch) : IO Watch := do
  return { watch with source := ← nextArrival interrupt }

/-- The watch of a capture before its next step. -/
def noteInterrupt (interrupt : Interrupt) (watch : Watch) : IO Watch := do
  return { watch with shutdown := watch.shutdown || (← IO.hasFinished interrupt) }

/-- Goes on with a watch line by line; before each it is made ready. -/
partial def follow (ready : Watch → IO Watch) (filter : Log.Filter) (watch : Watch) :
    IO Watch.Finished := do
  match (← ready watch).step with
  | .next watch =>
    publish filter watch.sink watch.log
    follow ready filter { watch with sink := {}, log := #[] }
  | .stop stop watch => return ⟨stop, watch⟩

/-- Ends a run: prints what is still to be printed. -/
def report (filter : Log.Filter) (result : Result) : IO UInt32 := do
  publish filter result.output result.log
  IO.eprint result.complaint
  return result.exitCode.toUInt32

/-- Runs with the options. -/
def runLive (options : Options) : IO UInt32 := do
  let waiter ← Std.Async.Signal.Waiter.mk .sigint false
  let interrupt ← waiter.wait
  let files ← filesFor options
  let environment ← IO.getEnv "RUST_LOG"
  match prepare { files, environment } options with
  | .error error =>
    IO.eprint (Complaint.ofStartError error).render
    return failureCode.toUInt32
  | .ok plan =>
    let ready := if plan.settings.input.isSome then noteInterrupt interrupt else awaitLine interrupt
    let finished ← follow ready plan.filter (plan.watch {})
    report plan.filter (conclude plan.settings.reportFormat finished)

end CheckpointMonitor.CommandLine

open CheckpointMonitor CommandLine in
/-- The command. -/
def main (arguments : List String) : IO UInt32 := do
  match parse arguments with
  | .ok (.run options) => runLive options
  | _ => report [] (execute { files := fun _ => .error .notFound } arguments)
