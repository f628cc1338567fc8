/-
CheckpointMonitor/Toml/Cursor.lean

Reading text from left to right: a place in the text, readers that move it on,
and the readers for what stands between the words of a document (blanks, line
ends and comments).

A reader either answers and moves on, or fails at a place for a reason; nothing is
ever read again by another reader after a failure, so what decides between two
readings is always looked at first (`peek`, `ahead`).
-/
import CheckpointMonitor.Toml.Document

namespace CheckpointMonitor.Toml

/-- A place in a text. -/
structure Cursor where
  /-- What stands after it. -/
  rest : List Char
  /-- How many bytes stand before it. -/
  offset : Nat := 0
  /-- How many bytes the whole text has. -/
  size : Nat

/-- Why a text is no document. -/
inductive SyntaxReason where
  /-- Something else was expected here. -/
  | expected (what : String)
  /-- The number is too large or too small. -/
  | outOfRange
  /-- Arrays, tables or keys are nested too deeply. -/
  | tooDeep
  /-- A key cannot be added where it stands. -/
  | misplaced (error : BuildError)

/-- The reason in words. -/
def SyntaxReason.message : SyntaxReason → String
  | expected what => "expected " ++ what
  | outOfRange => "number out of range"
  | tooDeep => "nested too deeply"
  | misplaced (.duplicate key) => "duplicate key: " ++ key.name
  | misplaced (.notTable key) => "not a table: " ++ key.name

/-- A place at which a text cannot be read on, and why. -/
structure SyntaxError where
  offset : Nat
  reason : SyntaxReason

/-- A reader of something that stands in a text. -/
abbrev Reader := StateT Cursor (Except SyntaxError)

namespace Reader

variable {α : Type}

/-- Fails here. -/
def fail (reason : SyntaxReason) : Reader α := do
  throw ⟨(← get).offset, reason⟩

/-- Fails here for want of something. -/
def expected (what : String) : Reader α :=
  fail (.expected what)

/-- The next character, without passing it. -/
def peek : Reader (Option Char) := do
  return (← get).rest.head?

/-- Whether the text goes on like this. -/
def ahead (text : String) : Reader Bool := do
  return text.toList.isPrefixOf (← get).rest

/-- Passes the next character. -/
def skip : Reader Unit :=
  modify fun cursor =>
    match cursor.rest with
    | [] => cursor
    | c :: rest => { cursor with rest, offset := cursor.offset + c.utf8Size }

/-- Passes so many characters. -/
def skipMany : Nat → Reader Unit
  | 0 => pure ()
  | n + 1 => do
    skip
    skipMany n

/-- Passes the text if it stands here; tells whether it did. -/
def accept (text : String) : Reader Bool := do
  if ← ahead text then
    skipMany text.length
    return true
  else return false

/-- Passes the first of the texts that stands here, if one does; tells whether one did. -/
def acceptOneOf : List String → Reader Bool
  | [] => return false
  | text :: texts => do
    if ← accept text then return true else acceptOneOf texts

/-- Passes the text, which has to stand here. -/
def expect (text : String) : Reader Unit := do
  unless ← accept text do expected text

/-- Reads characters as long as they pass the test. -/
def takeWhile (test : Char → Bool) : Reader (List Char) := do
  let cursor ← get
  let taken := cursor.rest.takeWhile test
  let width := taken.foldl (fun n c => n + c.utf8Size) 0
  set { cursor with rest := cursor.rest.dropWhile test, offset := cursor.offset + width }
  return taken

/-- Reads, and tells where the thing read stands. -/
def spanned (reader : Reader α) : Reader (α × Span) := do
  let start := (← get).offset
  let a ← reader
  return (a, ⟨start, (← get).offset⟩)

/-- Reads until the reader has no more to give, at most so many times. -/
def repeatAtMost (reader : Reader (Option α)) : Nat → Array α → Reader (Array α)
  | 0, found => return found
  | n + 1, found => do
    match ← reader with
    | none => return found
    | some a => repeatAtMost reader n (found.push a)

/-- Reads until the reader has no more to give.  Each thing read takes up at least a byte, so there
are no more of them than bytes. -/
def many (reader : Reader (Option α)) : Reader (List α) := do
  let cursor ← get
  return (← repeatAtMost reader (cursor.size - cursor.offset + 1) #[]).toList

/-! ### Between the words -/

/-- A blank within a line. -/
def isBlank (c : Char) : Bool :=
  c = ' ' || c = '\t'

/-- A character that may stand in a comment: any but the control characters other than the tab. -/
def isPlain (c : Char) : Bool :=
  c = '\t' || ('\x20' ≤ c && c ≠ '\x7f')

/-- Passes the blanks that stand here. -/
def blanks : Reader Unit := do
  let _ ← takeWhile isBlank

/-- Passes the line end that stands here, if one does: a line feed, or a carriage return with a
line feed. -/
def acceptLineEnd : Reader Bool :=
  acceptOneOf ["\n", "\r\n"]

/-- Passes the comment that stands here, if one does, without the line end. -/
def comment : Reader Unit := do
  if ← accept "#" then
    let _ ← takeWhile isPlain

/-- Passes what is left of a line: blanks, a comment, and the line end or the end of the text. -/
def restOfLine : Reader Unit := do
  blanks
  comment
  unless ← acceptLineEnd do
    if (← peek).isSome then expected "newline"

/-- Passes blanks, comments and line ends.  A comment ends with its line. -/
def gap : Reader Unit := do
  let _ ← many do
    match ← peek with
    | some '#' => restOfLine; return some ()
    | some c =>
      if isBlank c then blanks; return some ()
      else if ← acceptLineEnd then return some ()
      else return none
    | none => return none

end Reader

end CheckpointMonitor.Toml
