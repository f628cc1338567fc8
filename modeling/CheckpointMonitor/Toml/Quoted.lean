/-
CheckpointMonitor/Toml/Quoted.lean

Strings, in their four forms, and keys.

Between double quotes a backslash begins an escape; between single quotes every
character stands for itself.  Between three quotes of either kind a string may run
over several lines: a line end right after the opening quotes is dropped, every
other one counts as a line feed, and one or two quotes more than the closing three
belong to the string.
-/
import CheckpointMonitor.Text.Hexadecimal
import CheckpointMonitor.Toml.Cursor

namespace CheckpointMonitor.Toml

/-- The two kinds of quotes. -/
inductive Quote where
  | single
  | double
  deriving DecidableEq

namespace Quote

def char : Quote → Char
  | single => '\''
  | double => '"'

/-- Three of the quotes. -/
def triple (quote : Quote) : String :=
  String.ofList (List.replicate 3 quote.char)

/-- Whether a character stands for itself between such quotes, on one line. -/
def isPlain (quote : Quote) (c : Char) : Bool :=
  Reader.isPlain c && c ≠ quote.char && (quote = .single || c ≠ '\\')

end Quote

namespace Reader

/-- Reads hexadecimal digits, exactly so many, onto those read before. -/
def hexDigits (value : Nat) : Nat → Reader Nat
  | 0 => return value
  | n + 1 => do
    match (← peek).bind hexDigit? with
    | none => expected "hexadecimal digit"
    | some digit =>
      skip
      hexDigits (value * 16 + digit) n

/-- Reads a character by its number, which has to be that of a character. -/
def characterByNumber (digits : Nat) : Reader Char := do
  let n ← hexDigits 0 digits
  if n.isValidChar then return Char.ofNat n else fail .outOfRange

/-- Reads an escape after its backslash. -/
def escape : Reader Char := do
  let some c ← peek | expected "escape"
  skip
  match c with
  | 'b' => return '\x08'
  | 't' => return '\t'
  | 'n' => return '\n'
  | 'f' => return '\x0c'
  | 'r' => return '\r'
  | '"' => return '"'
  | '\\' => return '\\'
  | 'u' => characterByNumber 4
  | 'U' => characterByNumber 8
  | _ => expected "escape"

/-- Reads a further piece of a string on one line; there is none at its closing quote.  A
backslash that is reached here begins an escape: between single quotes it stands for itself. -/
def linePiece (quote : Quote) : Reader (Option (List Char)) := do
  let plain ← takeWhile quote.isPlain
  if !plain.isEmpty then return some plain
  else if ← accept "\\" then return some [← escape]
  else return none

/-- Reads a string on one line. -/
def lineString (quote : Quote) : Reader String := do
  expect (String.singleton quote.char)
  let pieces ← many (linePiece quote)
  expect (String.singleton quote.char)
  return String.ofList pieces.flatten

/-- Passes a backslash at the end of a line, with the line end and all blanks and line ends that
follow; tells whether one stands here. -/
def acceptContinuation : Reader Bool := do
  let isContinuation := match (← get).rest with
    | '\\' :: rest =>
      match rest.dropWhile isBlank with
      | '\n' :: _ | '\r' :: '\n' :: _ => true
      | _ => false
    | _ => false
  if isContinuation then
    skip
    let _ ← many do
      match ← peek with
      | some c =>
        if isBlank c then blanks; return some ()
        else if ← acceptLineEnd then return some ()
        else return none
      | none => return none
  return isContinuation

/-- Reads a further piece of a string over several lines; there is none at its closing quotes.
Quotes belong to the string if there are fewer than three. -/
def blockPiece (quote : Quote) : Reader (Option (List Char)) := do
  let plain ← takeWhile quote.isPlain
  if !plain.isEmpty then return some plain
  else if ← acceptLineEnd then return some ['\n']
  else if ← acceptContinuation then return some []
  else if ← accept "\\" then return some [← escape]
  else
    let quotes := (← get).rest.takeWhile (· == quote.char)
    if quotes.isEmpty || quotes.length ≥ 3 then return none
    skipMany quotes.length
    return some quotes

/-- Reads a string over several lines. -/
def blockString (quote : Quote) : Reader String := do
  expect quote.triple
  let _ ← acceptLineEnd
  let pieces ← many (blockPiece quote)
  let quotes := (← get).rest.takeWhile (· == quote.char)
  if quotes.length < 3 then expected "closing quotes"
  else
    -- the last three close the string, and at most two before them belong to it
    let last := min (quotes.length - 3) 2
    skipMany (last + 3)
    return String.ofList (pieces.flatten ++ quotes.take last)

/-- Reads a string in any of its forms. -/
def string (quote : Quote) : Reader String := do
  if ← ahead quote.triple then blockString quote else lineString quote

/-! ### Keys -/

/-- A character that may stand in a key without quotes. -/
def isBare (c : Char) : Bool :=
  c.isAlphanum || c = '-' || c = '_'

/-- Reads one part of a key. -/
def keyPart : Reader Key := do
  let (name, span) ← spanned do
    match ← peek with
    | some '"' => lineString .double
    | some '\'' => lineString .single
    | _ =>
      let name ← takeWhile isBare
      if name.isEmpty then expected "key" else return String.ofList name
  return ⟨name, span⟩

/-- The number of levels at which a document is nested too deeply. -/
def depthLimit : Nat := 80

/-- Reads a key: parts joined by points, each with blanks around it. -/
def key : Reader (List Key × Key) := do
  let part : Reader Key := do
    blanks
    let part ← keyPart
    blanks
    return part
  let first ← part
  let more ← many do
    if ← accept "." then return some (← part) else return none
  if more.length + 1 ≥ depthLimit then fail .tooDeep
  else match more.getLast? with
    | none => return ([], first)
    | some last => return (first :: more.dropLast, last)

end Reader

end CheckpointMonitor.Toml
