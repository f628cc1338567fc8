/-
CheckpointMonitor/Toml/Number.lean

Whole and floating-point numbers.  Digits may be grouped by single underscores
between two of them; a decimal number has no leading zero; a number in another
base has no sign.  Whole numbers are those of 64 bits with a sign; a
floating-point number may round to zero or to negative infinity, but not to
positive infinity.
-/
import CheckpointMonitor.Toml.Quoted

namespace CheckpointMonitor.Toml

/-- The value of a row of digits. -/
def digitsValue (base : Nat) (digits : List Nat) : Nat :=
  digits.foldl (fun value digit => value * base + digit) 0

/-- The greatest whole number of 64 bits with a sign. -/
def greatestInteger : Int := 9223372036854775807

/-- Whether a whole number fits 64 bits with a sign; there is one more below zero than above. -/
def fitsInteger (value : Int) : Bool :=
  -(greatestInteger + 1) ≤ value && value ≤ greatestInteger

namespace Reader

/-- Reads a digit of the base. -/
def digit (base : Nat) : Reader Nat := do
  match (← peek).bind hexDigit? with
  | some value =>
    if value < base then
      skip
      return value
    else expected "digit"
  | none => expected "digit"

/-- Whether a digit of the base stands here. -/
def digitAhead (base : Nat) : Reader Bool := do
  return ((← peek).bind hexDigit?).any (· < base)

/-- Reads digits, with single underscores between them. -/
def digits (base : Nat) : Reader (List Nat) := do
  let first ← digit base
  let more ← many do
    if ← accept "_" then return some (← digit base)
    else if ← digitAhead base then return some (← digit base)
    else return none
  return first :: more

/-- Reads decimal digits without a leading zero; nothing goes on after a zero. -/
def wholeDigits : Reader (List Nat) := do
  if ← accept "0" then return [0] else digits 10

/-- A whole number, which has to fit. -/
def integer (value : Int) : Reader Scalar :=
  if fitsInteger value then return .integer value else fail .outOfRange

/-- A floating-point number, which may not be past the greatest. -/
def float (value : Decimal.Binary64) : Reader Scalar :=
  if value = .infinite false then fail .outOfRange else return .float value

/-- Reads the sign that stands here, if one does; tells whether it is a minus. -/
def sign : Reader Bool := do
  if ← accept "-" then return true
  else
    let _ ← accept "+"
    return false

/-- Reads the digits after a point, if one stands here. -/
def fraction : Reader (Option (List Nat)) := do
  if ← accept "." then return some (← digits 10) else return none

/-- Reads the exponent that stands here, if one does. -/
def exponent : Reader (Option Int) := do
  if ← acceptOneOf ["e", "E"] then
    let negative ← sign
    let value : Int := digitsValue 10 (← digits 10)
    return some (if negative then -value else value)
  else return none

/-- Reads a decimal number after its sign. -/
def decimalNumber (negative : Bool) : Reader Scalar := do
  let whole ← wholeDigits
  let places ← fraction
  let power ← exponent
  if places.isNone && power.isNone then
    let value : Int := digitsValue 10 whole
    integer (if negative then -value else value)
  else
    let places := places.getD []
    float (.ofDecimal negative (digitsValue 10 (whole ++ places)) (power.getD 0 - places.length))

/-- Reads a number that is not a date or a time of day. -/
def number : Reader Scalar := do
  if ← accept "0x" then integer (digitsValue 16 (← digits 16))
  else if ← accept "0o" then integer (digitsValue 8 (← digits 8))
  else if ← accept "0b" then integer (digitsValue 2 (← digits 2))
  else
    let negative ← sign
    if ← accept "inf" then return .float (.infinite negative)
    else if ← accept "nan" then return .float .nan
    else decimalNumber negative

end Reader

end CheckpointMonitor.Toml
