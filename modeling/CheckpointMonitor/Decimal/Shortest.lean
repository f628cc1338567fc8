/-
CheckpointMonitor/Decimal/Shortest.lean

The shortest decimal form of a floating-point number: the fewest digits that read
back as the number, the nearest of those, and of two equally near ones the
greater.  The numbers that read back are the fractions half-way to either
neighbour, the ends included when the mantissa is even; below a power of two the
neighbour is only half as far.

`toText` writes that form positionally, whatever the size, and always with a
point.
-/
import CheckpointMonitor.Decimal.Binary64

namespace CheckpointMonitor.Decimal

/-- The fractions that read back as one floating-point number. -/
structure Interval where
  low : Fraction
  high : Fraction
  /-- Whether the ends belong to it. -/
  closed : Bool

namespace Interval

/-- The interval of a finite number. -/
def around (mantissa : Nat) (exponent : Int) : Interval :=
  let narrow := mantissa = Binary64.fullMantissa ∧ exponent > Binary64.minExponent
  { low := if narrow then .scaled (4 * mantissa - 1) 2 (exponent - 2)
      else .scaled (2 * mantissa - 1) 2 (exponent - 1)
    high := .scaled (2 * mantissa + 1) 2 (exponent - 1)
    closed := mantissa % 2 = 0 }

/-- Whether a fraction reads back as the number. -/
def holds (interval : Interval) (a : Fraction) : Bool :=
  match interval.low.order a, a.order interval.high with
  | .lt, .lt => true
  | .eq, _ | _, .eq => interval.closed
  | _, _ => false

end Interval

/-- A positive decimal number, `digits · 10 ^ exponent`. -/
structure Digits where
  digits : Nat
  exponent : Int

namespace Digits

/-- The value of the decimal number. -/
def value (d : Digits) : Fraction :=
  .scaled d.digits 10 d.exponent

/-- The power of ten of the leading digit of a positive fraction. -/
def magnitude (a : Fraction) : Int :=
  let estimate : Int := a.numerator.repr.length - a.denominator.repr.length
  if a.order (.scaled 1 10 estimate) = .lt then estimate - 1 else estimate

/-- The number of the grid with the given exponent that reads back: of the two next to the
value the nearer one, and the one above if both are as near. -/
def onGrid? (a : Fraction) (interval : Interval) (exponent : Int) : Option Digits :=
  let quotient := a.divide (.scaled 1 10 exponent)
  let below : Digits := ⟨quotient.floor, exponent⟩
  let above : Digits := ⟨quotient.floor + 1, exponent⟩
  let nearAbove := 2 * (quotient.numerator % quotient.denominator) ≥ quotient.denominator
  match interval.holds below.value, interval.holds above.value with
  | true, true => some (if nearAbove then above else below)
  | true, false => some below
  | false, true => some above
  | false, false => none

/-- The same number without zeros at the end of its digits; a number just below a power of ten
may have that power as its nearest neighbour. -/
def reduced (d : Digits) : Digits :=
  let zeros := (d.digits.repr.toList.reverse.takeWhile (· == '0')).length
  ⟨d.digits / Nat.pow 10 zeros, d.exponent + zeros⟩

/-- The shortest form of a positive number; seventeen digits are always enough. -/
def shortest (mantissa : Nat) (exponent : Int) : Digits :=
  let a := Fraction.scaled mantissa 2 exponent
  let interval := Interval.around mantissa exponent
  let leading := magnitude a
  let grids := (List.range 17).map fun (n : Nat) => leading - n
  ((grids.findSome? (onGrid? a interval)).getD ⟨mantissa, exponent⟩).reduced

/-- Writes the number positionally, with a point and at least one digit on either side of it. -/
def positional (d : Digits) : String :=
  let digits := d.digits.repr
  match d.exponent with
  | .ofNat zeros => digits ++ String.ofList (List.replicate zeros '0') ++ ".0"
  | .negSucc places =>
    let places := places + 1
    let padded := List.replicate (places + 1 - digits.length) '0' ++ digits.toList
    let whole := padded.take (padded.length - places)
    String.ofList (whole ++ '.' :: padded.drop (padded.length - places))

end Digits

/-- The text of a floating-point number. -/
def Binary64.toText : Binary64 → String
  | .nan => "NaN"
  | .infinite negative => if negative then "-inf" else "inf"
  | .finite negative mantissa exponent =>
    let sign := if negative then "-" else ""
    if mantissa = 0 then sign ++ "0.0"
    else sign ++ (Digits.shortest mantissa exponent).positional

end CheckpointMonitor.Decimal
