/-
CheckpointMonitor/Log/Directive.lean

A part of a filter: a level for everything, a target, or a target with a level.
Between brackets it may go on to name a span or, in braces, a field of the
diagnostics that it is about, and a value for the field:

    target[span{field=value}]=level

No diagnostic is made within a span, and no span has a field, so a directive that
names a span or gives a value shows nothing and hides nothing; one with a field
alone is about the diagnostics that have the field.

Blanks around a directive are passed over where its form is read, but they are
part of the text that its pieces are cut from, by the places that the form gives.
So a blank before a directive shifts every piece of it: the level begins with the
equals sign then, and is none.
-/
import CheckpointMonitor.Log.Pattern
import CheckpointMonitor.Log.Record
import CheckpointMonitor.Text.Blank
import CheckpointMonitor.Text.Utf8

namespace CheckpointMonitor.Log

/-- The most that a directive shows: everything up to a level, or nothing. -/
abbrev Threshold := Option Level

namespace Threshold

/-- Whether a level is shown. -/
def admits (threshold : Threshold) (level : Level) : Bool :=
  match threshold with
  | none => false
  | some most => level.verbosity ≤ most.verbosity

/-- The threshold at a place in the order, nothing being zero. -/
def ofVerbosity? (n : Nat) : Option Threshold :=
  if n = 0 then some none
  else (Level.all.find? (·.verbosity = n)).map some

/-- The threshold with a name, capitals counting as small letters. -/
def ofName? (word : String) : Option Threshold :=
  let word := word.map Char.toUpper
  if word = "OFF" then some none
  else (Level.all.find? (·.name = word)).map some

/-- The threshold that a word gives by its number, with or without a plus sign, or by its name. -/
def ofWord? (word : String) : Option Threshold :=
  let digits := match word.toList with
    | '+' :: rest => rest
    | all => all
  if digits.isEmpty || !digits.all Char.isDigit then ofName? word
  else ofVerbosity? (digits.foldl (fun n c => n * 10 + (c.toNat - '0'.toNat)) 0)

end Threshold

/-- Why a text is no filter. -/
inductive FilterError where
  /-- What stands in the place of a level is none. -/
  | badLevel
  /-- A directive begins or is put together wrongly. -/
  | badDirective
  /-- What stands in the place of a field's value is neither a number nor a pattern. -/
  | badValue (pattern : String) (fault : PatternFault)
  deriving DecidableEq

namespace FilterError

/-- The wording where a level is none. -/
def levelMessage : String :=
  "error parsing level filter: expected one of \"off\", \"error\", \"warn\", " ++
    "\"info\", \"debug\", \"trace\", or a number 0-5"

/-- What lies behind the error, in words; a level that is none is a cause of its own. -/
def causes : FilterError → List String
  | badLevel => [levelMessage]
  | badDirective => []
  | badValue pattern fault => fault.reasons pattern

/-- The reason in words. -/
def message : FilterError → String
  | badLevel => levelMessage
  | badDirective => "invalid filter directive"
  | badValue pattern fault =>
    "invalid field filter: " ++ ((fault.reasons pattern).head?.getD "")

end FilterError

/-- A part of a filter. -/
structure Directive where
  /-- What the targets it covers begin with; empty for all of them. -/
  target : String := ""
  /-- The field that a diagnostic has to have, if the directive is about one. -/
  field : Option String := none
  threshold : Threshold
  /-- Whether it is about spans only; no diagnostic is made within one. -/
  spansOnly : Bool := false
  deriving DecidableEq

namespace Directive

/-- The threshold after an equals sign; nothing there stands for everything. -/
def thresholdOf (word : String) : Except FilterError Threshold :=
  if word.isEmpty then .ok (some .trace)
  else match Threshold.ofWord? word with
    | some threshold => .ok threshold
    | none => .error .badLevel

/-- A character that a directive may begin with, unless it begins with a bracket. -/
def mayBegin (c : Char) : Bool :=
  Text.isAlphanumeric c || c = '-' || c = ':' || c = '_'

/-- The name of a field and the value it is asked to have: what stands before the first equals sign,
and between it and the second. -/
def splitField (text : List Char) : String × Option String :=
  let name := String.ofList (text.takeWhile (· ≠ '='))
  match text.dropWhile (· ≠ '=') with
  | [] => (name, none)
  | _ :: value => (name, some (String.ofList (value.takeWhile (· ≠ '='))))

/-- Reads a field and its value; there has to be something. -/
def readField (text : String) : Except FilterError (String × Option String) := do
  if text.isEmpty then .error .badDirective
  else
    let (name, value) := splitField text.toList
    match value with
    | none => return (name, none)
    | some pattern =>
      if isNumber pattern then return (name, value)
      else match Pattern.check pattern with
        | .ok () => return (name, value)
        | .error fault => .error (.badValue pattern fault)

/-! ### The form of a directive -/

/-- Where a reading stands; a piece that has begun is held by the place where it begins. -/
inductive Place where
  | start
  /-- In a target, or in a level for everything. -/
  | word
  | span (first : Nat)
  | field (first : Nat)
  | fieldEnd
  | spanEnd
  | level (first : Nat)

/-- A directive that is being read. -/
structure Reading where
  place : Place := .start
  /-- How many bytes have been read, without the blanks before the directive. -/
  offset : Nat := 0
  target : String := ""
  field : Option String := none
  spansOnly : Bool := false

/-- The piece of a text between two places, given in bytes. -/
def piece (written : List UInt8) (first stop : Nat) : String :=
  Utf8.decodeLossy ((written.drop first).take (stop - first))

namespace Reading

/-- Reads a character. -/
def next (written : List UInt8) (reading : Reading) (c : Char) : Except FilterError Reading :=
  let here := reading.offset
  let moved := { reading with offset := here + c.utf8Size }
  match reading.place, c with
  | .start, '[' => .ok { moved with place := .span moved.offset }
  | .start, _ => if mayBegin c then .ok { moved with place := .word } else .error .badDirective
  | .word, '=' =>
    .ok { moved with target := piece written 0 here, place := .level moved.offset }
  | .word, '[' =>
    .ok { moved with target := piece written 0 here, place := .span moved.offset }
  | .span _, ']' => .ok { moved with spansOnly := true, place := .spanEnd }
  | .span first, '{' => .ok { moved with spansOnly := first < here, place := .field moved.offset }
  | .field first, '}' => do
    let (name, value) ← readField (piece written first here)
    return { moved with
      field := some name
      spansOnly := moved.spansOnly || value.isSome
      place := .fieldEnd }
  | .fieldEnd, ']' => .ok { moved with place := .spanEnd }
  | .spanEnd, '=' => .ok { moved with place := .level moved.offset }
  | .fieldEnd, _ | .spanEnd, _ => .error .badDirective
  | .word, _ | .span _, _ | .field _, _ | .level _, _ => .ok moved

/-- The directive that has been read. -/
def finish (text : String) (reading : Reading) : Except FilterError Directive := do
  let about : Directive :=
    { target := reading.target
      field := reading.field
      threshold := some .trace
      spansOnly := reading.spansOnly }
  match reading.place with
  | .word =>
    match Threshold.ofWord? text with
    | some threshold => return { threshold }
    | none => return { about with target := text }
  | .level first =>
    let written := Utf8.encode text
    return { about with threshold := ← thresholdOf (piece written first written.length) }
  | .spanEnd => return about
  | .start | .span _ | .field _ | .fieldEnd => .error .badDirective

end Reading

/-- Reads a directive. -/
def parse (text : String) : Except FilterError Directive := do
  let reading ← (Text.trim text.toList).foldlM (Reading.next (Utf8.encode text)) {}
  reading.finish text

/-! ### What a directive is about -/

/-- Whether the directive covers a diagnostic. -/
def covers (directive : Directive) (record : Record) : Bool :=
  !directive.spansOnly && directive.target.toList.isPrefixOf record.target.toList &&
    directive.field.all record.fields.contains

/-- Whether the other directive is at least as special: its target is longer, or it is as long and
the other is about a field if this one is. -/
def yieldsTo (directive other : Directive) : Bool :=
  directive.target.length < other.target.length ||
    (directive.target.length = other.target.length &&
      (directive.field.isNone || other.field.isSome))

end Directive

end CheckpointMonitor.Log
