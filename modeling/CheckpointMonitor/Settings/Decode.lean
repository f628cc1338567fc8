/-
CheckpointMonitor/Settings/Decode.lean

Settings out of a document.  Three keys are known, and the values under them are
looked at in the order of the document, so the first wrong one is complained of;
all other keys are passed over, whatever stands under them.

The form of the report is given by its name, or as a table whose only key is that
name and holds nothing.
-/
import CheckpointMonitor.Settings
import CheckpointMonitor.Toml.Document
import CheckpointMonitor.Decimal.Shortest

namespace CheckpointMonitor.Settings

open Toml

/-- What was found in the place of a string. -/
inductive Found where
  | integer (value : Int)
  | float (value : Decimal.Binary64)
  | boolean (value : Bool)
  | sequence
  | map
  deriving DecidableEq

/-- What was found, in words. -/
def Found.text : Found → String
  | integer value =>
    let digits := value.natAbs.repr
    "integer `" ++ (if value < 0 then "-" ++ digits else digits) ++ "`"
  | float value => "floating point `" ++ value.toText ++ "`"
  | boolean value => "boolean `" ++ (if value then "true" else "false") ++ "`"
  | sequence => "sequence"
  | map => "map"

/-- What is wrong with a value. -/
inductive Complaint where
  /-- The input is not given as a string. -/
  | inputNotString (found : Found)
  /-- The filter is not given as a string. -/
  | filterNotString (found : Found)
  /-- No form of the report has this name. -/
  | unknownFormat (name : String)
  /-- The form of the report is given neither by name nor as a table. -/
  | formatNotNamed
  /-- The table that gives the form of the report is empty. -/
  | formatMissing
  /-- The table that gives the form of the report has several keys. -/
  | formatAmbiguous
  /-- The table under the name of the form holds something. -/
  | contentNotEmptyTable
  /-- The array under the name of the form holds something. -/
  | contentNotEmptyArray
  /-- Under the name of the form stands no table. -/
  | contentNotTable (kind : String)
  deriving DecidableEq

/-- The complaint in words. -/
def Complaint.text : Complaint → String
  | inputNotString found => "invalid type: " ++ found.text ++ ", expected path string"
  | filterNotString found => "invalid type: " ++ found.text ++ ", expected a string"
  | unknownFormat name => "unknown variant `" ++ name ++ "`, expected `text` or `json`"
  | formatNotNamed => "wanted string or table"
  | formatMissing => "wanted exactly 1 element, found 0 elements"
  | formatAmbiguous => "wanted exactly 1 element, more than 1 element"
  | contentNotEmptyTable => "expected empty table"
  | contentNotEmptyArray => "expected empty array"
  | contentNotTable kind => "expected table, found " ++ kind

/-- A wrong value and its place. -/
structure WrongValue where
  complaint : Complaint
  span : Span
  deriving DecidableEq

/-- A string, or what was found instead. -/
def stringOf : Node → Except Found String
  | .scalar (.string text) _ => .ok text
  | .scalar (.integer value) _ => .error (.integer value)
  | .scalar (.float value) _ => .error (.float value)
  | .scalar (.boolean value) _ => .error (.boolean value)
  | .scalar .moment _ => .error .map
  | .array .. | .tables _ => .error .sequence
  | .table .. => .error .map

/-- The name of a kind of value. -/
def kindName : Scalar → String
  | .string _ => "string"
  | .integer _ => "integer"
  | .float _ => "float"
  | .boolean _ => "boolean"
  | .moment => "datetime"

/-- What is wrong with the value under the name of the form, if anything. -/
def contentComplaint? : Node → Option Complaint
  | .table _ _ [] | .array [] _ | .tables [] => none
  | .table .. | .array .. => some .contentNotEmptyTable
  | .tables _ => some .contentNotEmptyArray
  | .scalar value _ => some (.contentNotTable (kindName value))

/-- The form of the report with a name that stands at the given place. -/
def formatNamed (name : String) (span : Span) : Except WrongValue Summary.Format :=
  match Summary.Format.ofName? name with
  | some format => .ok format
  | none => .error ⟨.unknownFormat name, span⟩

/-- The form of the report.  A value without a place of its own is shown by what holds it. -/
def formatOf (key : Key) (node : Node) : Except WrongValue Summary.Format :=
  let span := node.span?.getD key.span
  match node with
  | .scalar (.string name) span => formatNamed name span
  | .table _ _ [] => .error ⟨.formatMissing, span⟩
  | .table _ _ [(name, content)] => do
    let format ← formatNamed name.name name.span
    match contentComplaint? content with
    | none => return format
    | some complaint => .error ⟨complaint, content.span?.getD span⟩
  | .table _ _ (_ :: _ :: _) => .error ⟨.formatAmbiguous, span⟩
  | _ => .error ⟨.formatNotNamed, span⟩

/-- The settings with the value of one entry of the document. -/
def set (settings : Settings) (entry : Key × Node) : Except WrongValue Settings :=
  let (key, node) := entry
  let span := node.span?.getD key.span
  match key.name with
  | "input" =>
    match stringOf node with
    | .ok path => .ok { settings with input := some path }
    | .error found => .error ⟨.inputNotString found, span⟩
  | "report_format" =>
    match formatOf key node with
    | .ok reportFormat => .ok { settings with reportFormat }
    | .error wrong => .error wrong
  | "log_filter" =>
    match stringOf node with
    | .ok logFilter => .ok { settings with logFilter }
    | .error found => .error ⟨.filterNotString found, span⟩
  | _ => .ok settings

/-- The settings that the entries of a document make. -/
def decode (entries : Entries) : Except WrongValue Settings :=
  entries.foldlM set {}

end CheckpointMonitor.Settings
