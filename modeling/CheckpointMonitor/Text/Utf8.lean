/-
CheckpointMonitor/Text/Utf8.lean

UTF-8 in three forms: the bytes of a text, the strict reading of bytes, and a
reading that never fails.

The forgiving reading goes through the bytes once.  What it has begun is held as
the range that the next byte must lie in; for the bytes after E0, ED, F0 and F4
that range is narrower than 80..BF, which rules out overlong forms, surrogates
and values past 10FFFF at the earliest byte.  A byte outside the range closes the
broken sequence with one replacement character and is then read afresh, so an
ASCII byte always stands for itself, whatever comes before it.
-/

namespace CheckpointMonitor.Utf8

/-- The bytes of a text. -/
def encode (text : String) : List UInt8 :=
  text.toList.flatMap String.utf8EncodeChar

/-- The text that the bytes stand for, if they are well-formed throughout. -/
def decode? (bytes : List UInt8) : Option String :=
  String.fromUTF8? ⟨bytes.toArray⟩

/-- What stands in the place of a broken sequence. -/
def replacement : Char := '\uFFFD'

/-- A sequence of several bytes that has begun and is not yet complete. -/
structure Begun where
  /-- The value of the bits read so far. -/
  value : Nat
  /-- The least next byte that goes on with the sequence. -/
  low : UInt8
  /-- The greatest next byte that goes on with the sequence. -/
  high : UInt8
  /-- How many bytes follow after the next one. -/
  more : Nat

/-- The sequence that a byte past the ASCII range begins, if it can begin one. -/
def Begun.ofLead? (byte : UInt8) : Option Begun :=
  if byte < 0xC2 then none
  else if byte < 0xE0 then some ⟨byte.toNat - 0xC0, 0x80, 0xBF, 0⟩
  else if byte < 0xF0 then
    let low := if byte = 0xE0 then 0xA0 else 0x80
    let high := if byte = 0xED then 0x9F else 0xBF
    some ⟨byte.toNat - 0xE0, low, high, 1⟩
  else if byte < 0xF5 then
    let low := if byte = 0xF0 then 0x90 else 0x80
    let high := if byte = 0xF4 then 0x8F else 0xBF
    some ⟨byte.toNat - 0xF0, low, high, 2⟩
  else none

/-- A forgiving reading under way: the text so far and the sequence that is open. -/
structure Decoder where
  text : String := ""
  begun : Option Begun := none

namespace Decoder

/-- Reads a byte at which no sequence is open. -/
def start (text : String) (byte : UInt8) : Decoder :=
  if byte < 0x80 then ⟨text.push (Char.ofNat byte.toNat), none⟩
  else match Begun.ofLead? byte with
    | some begun => ⟨text, some begun⟩
    | none => ⟨text.push replacement, none⟩

/-- Reads a byte. -/
def next (decoder : Decoder) (byte : UInt8) : Decoder :=
  match decoder.begun with
  | none => start decoder.text byte
  | some begun =>
    if begun.low ≤ byte ∧ byte ≤ begun.high then
      let value := begun.value * 64 + (byte.toNat - 0x80)
      match begun.more with
      | 0 => ⟨decoder.text.push (Char.ofNat value), none⟩
      | more + 1 => ⟨decoder.text, some ⟨value, 0x80, 0xBF, more⟩⟩
    else start (decoder.text.push replacement) byte

/-- The text at the end of the bytes; a sequence that is still open is broken. -/
def finish (decoder : Decoder) : String :=
  match decoder.begun with
  | none => decoder.text
  | some _ => decoder.text.push replacement

end Decoder

/-- Reads the bytes as text, with one replacement character for each broken sequence. -/
def decodeLossy (bytes : List UInt8) : String :=
  (bytes.foldl Decoder.next {}).finish

end CheckpointMonitor.Utf8
