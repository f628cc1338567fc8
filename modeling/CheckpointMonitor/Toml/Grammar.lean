/-
CheckpointMonitor/Toml/Grammar.lean

Values, lines and whole documents.

The nesting of values is bounded, and the bound is what the reader of values
recurs on: `value n` reads a value that holds at most `n` levels of arrays and
tables.  The readers of an array and of a table between braces are given the
reader for what they hold.
-/
import CheckpointMonitor.Toml.Moment

namespace CheckpointMonitor.Toml

namespace Reader

/-- Fails at a key that cannot be added where it stands. -/
def built {α : Type} : Except BuildError α → Reader α
  | .ok a => return a
  | .error error =>
    let key := match error with
      | .duplicate key => key
      | .notTable key => key
    throw ⟨key.span.start, .misplaced error⟩

/-- Reads a value that holds no further values. -/
def scalar : Reader Scalar := do
  match ← peek with
  | some '"' => return .string (← string .double)
  | some '\'' => return .string (← string .single)
  | some 't' =>
    expect "true"
    return .boolean true
  | some 'f' =>
    expect "false"
    return .boolean false
  | some _ =>
    match ← moment? with
    | some found => return found
    | none => number
  | none => expected "value"

/-- Reads an array after its opening bracket.  Its elements may stand on lines of their own, and a
comma may follow the last. -/
def arrayElements (element : Reader Node) : Reader (List Node) := do
  gap
  let elements ← many do
    if ← ahead "]" then return none
    else
      let node ← element
      gap
      unless ← accept "," do
        unless ← ahead "]" do expected "closing bracket"
      gap
      return some node
  expect "]"
  return elements

/-- Reads a line's key and value, up to the end of the value. -/
def assignment (value : Reader Node) : Reader Assignment := do
  let (path, last) ← key
  expect "="
  blanks
  return ⟨path, last, ← value⟩

/-- Reads a table between braces after its opening brace.  All of it stands on one line, and no
comma follows the last entry. -/
def bracesEntries (value : Reader Node) : Reader Entries := do
  blanks
  if ← accept "\x7d" then return []
  else
    let entry : Reader Assignment := do
      let line ← assignment value
      blanks
      return line
    let first ← entry
    let more ← many do
      if ← accept "," then return some (← entry) else return none
    expect "\x7d"
    built (Assignment.addAll .braces [] (first :: more))

/-- Reads a value that holds at most so many levels of arrays and tables. -/
def value : Nat → Reader Node
  | 0 => do
    if (← ahead "[") || (← ahead "\x7b") then fail .tooDeep
    else
      let (value, span) ← spanned scalar
      return .scalar value span
  | depth + 1 => do
    if ← ahead "[" then
      let (elements, span) ← spanned do
        skip
        arrayElements (value depth)
      return .array elements span
    else if ← ahead "\x7b" then
      let (entries, span) ← spanned do
        skip
        bracesEntries (value depth)
      return .table .braces (some span) entries
    else
      let (value, span) ← spanned scalar
      return .scalar value span

/-- Reads a line that gives a key its value, if one stands here. -/
def assignmentLine : Reader (Option Assignment) := do
  gap
  match ← peek with
  | none | some '[' => return none
  | some _ =>
    let line ← assignment (value (depthLimit - 1))
    restOfLine
    return some line

/-- Reads a header. -/
def header : Reader Header := do
  let ((path, last, ofArray), span) ← spanned do
    let ofArray ← accept "[["
    unless ofArray do expect "["
    let (path, last) ← key
    expect (if ofArray then "]]" else "]")
    return (path, last, ofArray)
  restOfLine
  return ⟨path, last, span, ofArray⟩

/-- Reads a header with the lines under it, if one stands here. -/
def block : Reader (Option Block) := do
  if (← peek).isNone then return none
  else
    let header ← header
    return some ⟨header, ← many assignmentLine⟩

/-- Reads a whole document. -/
def entries : Reader Entries := do
  let _ ← accept "\uFEFF"
  let lines ← many assignmentLine
  let blocks ← many block
  built (Entries.ofBlocks lines blocks)

end Reader

/-- The entries of the document that a text is. -/
def Entries.ofText (text : String) : Except SyntaxError Entries := do
  let (entries, _) ← Reader.entries.run ⟨text.toList, 0, text.utf8ByteSize⟩
  return entries

end CheckpointMonitor.Toml
