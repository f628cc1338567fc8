/-
CheckpointMonitor/Toml/Diagnostic.lean

Complaints about a text that point into it: the line and the column, the line
itself, and a row of carets under what is meant.
-/
import CheckpointMonitor.Toml.Document

namespace CheckpointMonitor.Toml

/-- A place in a text, as a reader counts: lines and columns from one. -/
structure Position where
  line : Nat
  column : Nat
  /-- The line, without the line feed at its end. -/
  content : List Char

namespace Position

/-- Goes on from a place so many bytes; `begun` is the text from the beginning of its line. -/
def advance (line column : Nat) (begun : List Char) : List Char → Nat → Position
  | c :: rest, left + 1 =>
    if c = '\n' then advance (line + 1) 1 rest rest left
    else advance line (column + 1) begun rest (left + 1 - c.utf8Size)
  | _, _ => ⟨line, column, begun.takeWhile (· ≠ '\n')⟩

/-- The place with so many bytes before it. -/
def ofOffset (text : String) (offset : Nat) : Position :=
  advance 1 1 text.toList text.toList offset

end Position

/-- A complaint about a stretch of a text. -/
structure Diagnostic where
  text : String
  span : Span
  reason : String

namespace Diagnostic

/-- The number of carets: one for each byte meant, but none past the end of the line, and at least
one. -/
def carets (diagnostic : Diagnostic) (position : Position) : Nat :=
  let width := position.content.foldl (fun n c => n + c.utf8Size) 0
  max 1 (min (diagnostic.span.stop - diagnostic.span.start) (width - (position.column - 1)))

/-- The complaint in full. -/
def render (diagnostic : Diagnostic) : String :=
  let position := Position.ofOffset diagnostic.text diagnostic.span.start
  let number := position.line.repr
  let spaces (n : Nat) : String := String.ofList (List.replicate n ' ')
  let carets := String.ofList (List.replicate (diagnostic.carets position) '^')
  "TOML parse error at line " ++ number ++ ", column " ++ position.column.repr ++ "\n" ++
  spaces number.length ++ " |\n" ++
  number ++ " | " ++ String.ofList position.content ++ "\n" ++
  spaces number.length ++ " | " ++ spaces (position.column - 1) ++ carets ++ "\n" ++
  diagnostic.reason ++ "\n"

end Diagnostic

end CheckpointMonitor.Toml
