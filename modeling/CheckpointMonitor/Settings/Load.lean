/-
CheckpointMonitor/Settings/Load.lean

Settings out of a text and out of a file, and what is said when they cannot be
used.
-/
import CheckpointMonitor.Settings.Decode
import CheckpointMonitor.Toml.Grammar
import CheckpointMonitor.Toml.Diagnostic
import CheckpointMonitor.FileTree
import CheckpointMonitor.Failure

namespace CheckpointMonitor.Settings

/-- Why a text does not give settings. -/
inductive TextError where
  /-- The text is no document. -/
  | malformed (text : String) (error : Toml.SyntaxError)
  /-- A value of the document is wrong. -/
  | wrongValue (text : String) (wrong : WrongValue)

/-- The reason in full. -/
def TextError.reason : TextError → String
  | malformed text error =>
    Toml.Diagnostic.render ⟨text, ⟨error.offset, error.offset⟩, error.reason.message⟩
  | wrongValue text wrong => Toml.Diagnostic.render ⟨text, wrong.span, wrong.complaint.text⟩

/-- The failure that it is. -/
def TextError.failure (error : TextError) : Failure :=
  .settings error.reason

/-- The settings that a text gives. -/
def ofText (text : String) : Except TextError Settings :=
  match Toml.Entries.ofText text with
  | .error error => .error (.malformed text error)
  | .ok entries =>
    match decode entries with
    | .error wrong => .error (.wrongValue text wrong)
    | .ok settings => .ok settings

/-- Why a file does not give settings. -/
inductive LoadError where
  /-- The file cannot be read. -/
  | unreadable (path : String) (error : AccessError)
  /-- The text of the file does not give settings. -/
  | unusable (path : String) (error : TextError)

/-- The reason in full, which names the file. -/
def LoadError.reason : LoadError → String
  | unreadable path error => "cannot read " ++ path ++ ": " ++ error.text
  | unusable path error => path ++ ": " ++ error.failure.message

/-- The failure that it is. -/
def LoadError.failure (error : LoadError) : Failure :=
  .settings error.reason

/-- The settings that a file gives. -/
def load (files : Files) (path : String) : Except LoadError Settings :=
  match files.readText path with
  | .error error => .error (.unreadable path error)
  | .ok text =>
    match ofText text with
    | .error error => .error (.unusable path error)
    | .ok settings => .ok settings

end CheckpointMonitor.Settings
