/-
CheckpointMonitor/Toml/Moment.lean

Dates and times of day.  A date may be followed by a time, after a T or a single
blank, and then by a distance from universal time; a time of day may stand alone,
and always has its seconds.  Every date has to be one of the calendar.
-/
import CheckpointMonitor.Toml.Number

namespace CheckpointMonitor.Toml

/-- Whether a year has a 29th of February. -/
def isLeapYear (year : Nat) : Bool :=
  year % 4 = 0 && (year % 100 ≠ 0 || year % 400 = 0)

/-- The number of days of a month, counted from one. -/
def daysIn (year month : Nat) : Nat :=
  match month with
  | 2 => if isLeapYear year then 29 else 28
  | 4 | 6 | 9 | 11 => 30
  | _ => 31

/-- The values of the decimal digits that the text begins with. -/
def leadingDigits (text : List Char) : List Nat :=
  (text.takeWhile Char.isDigit).map fun c => c.toNat - '0'.toNat

/-- Whether a text begins with four digits and a hyphen, as a date does. -/
def beginsDate (text : List Char) : Bool :=
  (leadingDigits text).length = 4 && (text.drop 4).head? = some '-'

/-- Whether a text begins with an hour and a colon, as a time of day does. -/
def beginsTime (text : List Char) : Bool :=
  let hour := leadingDigits text
  hour.length = 2 && digitsValue 10 hour ≤ 23 && (text.drop 2).head? = some ':'

namespace Reader

/-- Reads a number of so many digits that lies between two bounds. -/
def boundedNumber (width low high : Nat) : Reader Nat := do
  let digits := (leadingDigits (← get).rest).take width
  let value := digitsValue 10 digits
  if digits.length < width then expected "digit"
  else if value < low || high < value then fail .outOfRange
  else
    skipMany width
    return value

/-- Reads a date. -/
def date : Reader Unit := do
  let year ← boundedNumber 4 0 9999
  expect "-"
  let month ← boundedNumber 2 1 12
  expect "-"
  let _ ← boundedNumber 2 1 (daysIn year month)

/-- Reads a time of day. -/
def time : Reader Unit := do
  let _ ← boundedNumber 2 0 23
  expect ":"
  let _ ← boundedNumber 2 0 59
  expect ":"
  let _ ← boundedNumber 2 0 60
  if ← accept "." then
    let places ← takeWhile Char.isDigit
    if places.isEmpty then expected "digit"

/-- Reads the distance from universal time that stands here, if one does. -/
def zone : Reader Unit := do
  if ← acceptOneOf ["Z", "z"] then return
  else if ← acceptOneOf ["+", "-"] then
    let _ ← boundedNumber 2 0 23
    expect ":"
    let _ ← boundedNumber 2 0 59

/-- Reads a date with what follows it. -/
def dateAndTime : Reader Unit := do
  date
  match (← get).rest with
  | c :: rest =>
    if (c = 'T' || c = 't' || c = ' ') && beginsTime rest then
      skip
      time
      zone
  | [] => return

/-- Reads the date or the time of day that stands here, if one does. -/
def moment? : Reader (Option Scalar) := do
  let rest := (← get).rest
  if beginsDate rest then
    dateAndTime
    return some .moment
  else if beginsTime rest then
    time
    return some .moment
  else return none

end Reader

end CheckpointMonitor.Toml
