/-
CheckpointMonitor/Text/Printable.lean

What is left of a text where no terminal shows it: the escape sequences and the
control characters are taken out, tabs and line ends stay.

A sequence begins with the escape character, and what comes next decides what
ends it: a letter or the like, the bell, or only another sequence.  A tab or a
line end within a sequence of the former kind is let through, and the characters
after it too; the next control character goes on with the sequence.
-/

namespace CheckpointMonitor.Text

/-- The escape sequence that is open, if one is. -/
inductive Sequence where
  | closed
  /-- Nothing has followed the escape character. -/
  | escape
  /-- Some of the characters from the space to the slash have followed it. -/
  | intermediate
  /-- An opening bracket has followed it: a control sequence. -/
  | control
  /-- A closing bracket has followed it: a command to the system. -/
  | command
  /-- A P has followed it: a text for the device, the head of it. -/
  | device
  /-- A text that nothing within ends. -/
  | data
  deriving DecidableEq

namespace Sequence

/-- The escape character. -/
def escapeChar : Char := '\x1b'

/-- The sequence that is open after one more character that is not shown. -/
def next (sequence : Sequence) (c : Char) : Sequence :=
  if c = escapeChar then escape
  else if c = '\x18' || c = '\x1a' then closed
  else match sequence with
    | closed => closed
    | escape =>
      if c = '[' then control
      else if c = ']' then command
      else if c = 'P' then device
      else if c = 'X' || c = '^' || c = '_' then data
      else if ' ' ≤ c && c ≤ '/' then intermediate
      else if '0' ≤ c && c ≤ '~' then closed
      else escape
    | intermediate => if '0' ≤ c && c ≤ '~' then closed else intermediate
    | control => if '@' ≤ c && c ≤ '~' then closed else control
    | command => if c = '\x07' then closed else command
    | device => if '@' ≤ c && c ≤ '~' then data else device
    | data => if (String.utf8EncodeChar c).contains 0x9C then closed else data

/-- Whether a tab or a line end within the sequence is let through. -/
def letsThrough : Sequence → Bool
  | closed | escape | intermediate | control => true
  | command | device | data => false

end Sequence

/-- The control characters that stay: the tab, the line feed, the form feed and the carriage
return. -/
def isSpacing (c : Char) : Bool :=
  c = '\t' || c = '\n' || c = '\x0c' || c = '\r'

/-- Whether a character is shown where no sequence is open. -/
def isShown (c : Char) : Bool :=
  isSpacing c || (' ' ≤ c && c ≠ '\x7f')

/-- A text that is being printed. -/
structure Printing where
  /-- What is shown of it, in reverse. -/
  shown : List Char := []
  sequence : Sequence := .closed
  /-- Whether characters are let through: no sequence is open, or it has been interrupted. -/
  through : Bool := true

namespace Printing

/-- Shows a character.  One outside ASCII ends a sequence that has been interrupted. -/
def display (printing : Printing) (c : Char) : Printing :=
  { shown := c :: printing.shown
    sequence := if c.toNat < 0x80 then printing.sequence else .closed
    through := true }

/-- Passes a character that is not shown. -/
def skip (printing : Printing) (c : Char) : Printing :=
  let sequence := printing.sequence.next c
  { printing with sequence, through := sequence = .closed }

/-- Goes on with a character. -/
def next (printing : Printing) (c : Char) : Printing :=
  if printing.through then
    if isShown c then printing.display c else printing.skip c
  else if isSpacing c && printing.sequence.letsThrough then printing.display c
  else printing.skip c

end Printing

/-- What is left of a text without escape sequences and control characters. -/
def printable (text : String) : String :=
  String.ofList (text.toList.foldl Printing.next {}).shown.reverse

end CheckpointMonitor.Text
