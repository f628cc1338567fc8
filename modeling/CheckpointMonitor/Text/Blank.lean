/-
CheckpointMonitor/Text/Blank.lean

The characters that Unicode counts as white space, and a text without those at
its ends.
-/
import CheckpointMonitor.Text.Ranges

namespace CheckpointMonitor.Text

/-- White space, by ranges of code points. -/
def blanks : Ranges :=
  [(0x9, 0xD), (0x20, 0x20), (0x85, 0x85), (0xA0, 0xA0), (0x1680, 0x1680), (0x2000, 0x200A),
    (0x2028, 0x2029), (0x202F, 0x202F), (0x205F, 0x205F), (0x3000, 0x3000)]

/-- Whether a character is white space. -/
def isBlank (c : Char) : Bool :=
  blanks.has c

/-- The text without the blanks before it and after it. -/
def trim (text : List Char) : List Char :=
  ((text.dropWhile isBlank).reverse.dropWhile isBlank).reverse

end CheckpointMonitor.Text
