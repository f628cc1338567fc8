/-
CheckpointMonitor/CommandLine/Options.lean

The command line.  Each option takes one value, either in the same argument
(`--format=json`, `-fjson`, `-f=json`) or as the next one, and is given at most
once; an argument that is no option and no such value is unexpected.

A value that stands in an argument of its own is only looked at when the next
option is met, or at the end.  So an unexpected argument in between is complained
of first.

Of what is said about a wrong command line, advice on what else could have been
meant and the summary of the usage are left out.
-/
import CheckpointMonitor.Tally.Summary

namespace CheckpointMonitor.CommandLine

/-- The options that take a value. -/
inductive Flag where
  | input
  | config
  | format
  | logFilter
  deriving DecidableEq

namespace Flag

def all : List Flag := [input, config, format, logFilter]

/-- The option's long name. -/
def name : Flag → String
  | input => "input"
  | config => "config"
  | format => "format"
  | logFilter => "log-filter"

/-- The option's letter, if it has one. -/
def letter? : Flag → Option Char
  | input => some 'i'
  | config => some 'c'
  | format => some 'f'
  | logFilter => none

/-- The option and its value, as they stand in messages. -/
def usage : Flag → String
  | input => "--input <INPUT>"
  | config => "--config <CONFIG>"
  | format => "--format <FORMAT>"
  | logFilter => "--log-filter <LOG_FILTER>"

end Flag

/-- What the options say. -/
structure Options where
  input : Option String := none
  config : Option String := none
  format : Option Summary.Format := none
  logFilter : Option String := none
  deriving DecidableEq

/-- What is wrong with a command line. -/
inductive UsageError where
  | unexpectedArgument (argument : String)
  /-- Help takes no value. -/
  | unexpectedValue (value : String)
  | valueRequired (flag : Flag)
  | repeated (flag : Flag)
  | invalidFormat (value : String) (unknown : Summary.UnknownFormat)
  deriving DecidableEq

/-- The complaint in words, cut where its style changes: what the user wrote and the names of options
stand out from the rest. -/
def UsageError.pieces : UsageError → List String
  | unexpectedArgument argument => ["error: unexpected argument '", argument, "' found"]
  | unexpectedValue value =>
    ["error: unexpected value '", value, "' for '", "--help", "' found; no more were expected"]
  | valueRequired flag =>
    ["error: a value is required for '", flag.usage, "' but none was supplied"]
  | repeated flag => ["error: the argument '", flag.usage, "' cannot be used multiple times"]
  | invalidFormat value unknown =>
    ["error: invalid value '", value, "' for '", Flag.format.usage, "': " ++ unknown.message]

/-- What the command line asks for. -/
inductive Request where
  | help
  | run (options : Options)
  deriving DecidableEq

namespace Options

/-- Whether an option has been given. -/
def has (options : Options) : Flag → Bool
  | .input => options.input.isSome
  | .config => options.config.isSome
  | .format => options.format.isSome
  | .logFilter => options.logFilter.isSome

/-- The value of a path, which may not be empty. -/
def pathValue (flag : Flag) (value : String) : Except UsageError String :=
  if value.isEmpty then .error (.valueRequired flag) else .ok value

/-- The options with one more. -/
def give (options : Options) (flag : Flag) (value : String) : Except UsageError Options := do
  if options.has flag then .error (.repeated flag)
  else match flag with
    | .input => return { options with input := some (← pathValue flag value) }
    | .config => return { options with config := some (← pathValue flag value) }
    | .format =>
      match Summary.Format.parse value with
      | .ok format => return { options with format := some format }
      | .error unknown => .error (.invalidFormat value unknown)
    | .logFilter => return { options with logFilter := some value }

end Options

/-- An option whose value, if it has come, stands in an argument of its own. -/
structure Waiting where
  flag : Flag
  value : Option String := none

/-- The options once the waiting one has been looked at. -/
def Waiting.settle (options : Options) : Option Waiting → Except UsageError Options
  | none => .ok options
  | some ⟨flag, none⟩ => .error (.valueRequired flag)
  | some ⟨flag, some value⟩ => options.give flag value

/-- What an argument is by its form. -/
inductive Argument where
  /-- Two hyphens: all further arguments are plain. -/
  | separator
  /-- A long name, with a value if an equals sign follows. -/
  | long (name : String) (value : Option String)
  /-- A letter after a hyphen, with what follows it. -/
  | short (letter : Char) (rest : List Char)
  /-- Anything else; a single hyphen is one. -/
  | plain (text : String)

/-- The form of an argument. -/
def Argument.ofText (text : String) : Argument :=
  match text.toList with
  | ['-', '-'] => .separator
  | '-' :: '-' :: word =>
    let name := String.ofList (word.takeWhile (· ≠ '='))
    match word.dropWhile (· ≠ '=') with
    | [] => .long name none
    | _ :: value => Argument.long name (some (String.ofList value))
  | '-' :: letter :: rest => .short letter rest
  | _ => .plain text

/-- The value that follows a letter in the same argument, after an equals sign or without one. -/
def attachedValue? : List Char → Option String
  | [] => none
  | '=' :: value => some (String.ofList value)
  | value => some (String.ofList value)

/-- Goes on after an option, whose value is attached or still to come. -/
def meet (options : Options) (waiting : Option Waiting) (flag : Flag) (attached : Option String) :
    Except UsageError (Options × Option Waiting) := do
  let options ← Waiting.settle options waiting
  match attached with
  | some value => return (← options.give flag value, none)
  | none => return (options, some ⟨flag, none⟩)

/-- Reads the arguments that are left. -/
def parseFrom (options : Options) (waiting : Option Waiting) :
    List String → Except UsageError Request
  | [] => do return .run (← Waiting.settle options waiting)
  | argument :: rest =>
    match Argument.ofText argument with
    | .separator =>
      match rest with
      | [] => do return .run (← Waiting.settle options waiting)
      | first :: _ => .error (.unexpectedArgument first)
    | .long name value =>
      match Flag.all.find? (·.name == name), name == "help", value with
      | some flag, _, _ => do
        let (options, waiting) ← meet options waiting flag value
        parseFrom options waiting rest
      | none, true, none => do
        let _ ← Waiting.settle options waiting
        return .help
      | none, true, some value => .error (.unexpectedValue value)
      | none, false, _ => .error (.unexpectedArgument ("--" ++ name))
    | .short letter attached =>
      match Flag.all.find? (·.letter? == some letter), letter == 'h' with
      | some flag, _ => do
        let (options, waiting) ← meet options waiting flag (attachedValue? attached)
        parseFrom options waiting rest
      | none, true => do
        let _ ← Waiting.settle options waiting
        return .help
      | none, false => .error (.unexpectedArgument (String.ofList ['-', letter]))
    | .plain text =>
      match waiting with
      | some ⟨flag, none⟩ => parseFrom options (some ⟨flag, some text⟩) rest
      | _ => .error (.unexpectedArgument text)

/-- Reads a command line. -/
def parse (arguments : List String) : Except UsageError Request :=
  parseFrom {} none arguments

/-- The help text. -/
def helpText : String :=
  "Echo a persist/restore log and fail on protocol violations\n\n" ++
  "Usage: persist-monitor [OPTIONS]\n\n" ++
  "Options:\n" ++
  "  -i, --input <INPUT>            Replay a captured log file instead of reading stdin\n" ++
  "  -c, --config <CONFIG>          Configuration file path (TOML)\n" ++
  "  -f, --format <FORMAT>          Statistics report format: text or json\n" ++
  "      --log-filter <LOG_FILTER>  Diagnostics filter for stderr, e.g. \"persist_monitor=debug\"\n" ++
  "  -h, --help                     Print help\n"

end CheckpointMonitor.CommandLine
