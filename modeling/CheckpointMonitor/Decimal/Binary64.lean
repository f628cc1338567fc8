/-
CheckpointMonitor/Decimal/Binary64.lean

Binary floating-point numbers of 64 bits, held as mantissa and exponent, and the
reading of a decimal number into them.  A finite number stands for
± mantissa · 2 ^ exponent, where the mantissa has at most 53 bits, and has all of
them unless the exponent is the least one.  All arithmetic is exact; the one
rounding goes to the nearest number, a tie to the even mantissa.
-/

namespace CheckpointMonitor.Decimal

/-- A positive fraction, or zero. -/
structure Fraction where
  numerator : Nat
  denominator : Nat

namespace Fraction

/-- The number `n · base ^ exponent`. -/
def scaled (n base : Nat) : Int → Fraction
  | .ofNat exponent => ⟨n * base.pow exponent, 1⟩
  | .negSucc exponent => ⟨n, base.pow (exponent + 1)⟩

/-- The quotient of two fractions. -/
def divide (a b : Fraction) : Fraction :=
  ⟨a.numerator * b.denominator, a.denominator * b.numerator⟩

/-- How two fractions compare. -/
def order (a b : Fraction) : Ordering :=
  compare (a.numerator * b.denominator) (b.numerator * a.denominator)

/-- The greatest whole number that is not above the fraction. -/
def floor (a : Fraction) : Nat :=
  a.numerator / a.denominator

/-- The nearest whole number, the even one of two. -/
def round (a : Fraction) : Nat :=
  let below := a.floor
  match compare (2 * (a.numerator % a.denominator)) a.denominator with
  | .lt => below
  | .gt => below + 1
  | .eq => below + below % 2

end Fraction

/-- A binary floating-point number. -/
inductive Binary64 where
  | finite (negative : Bool) (mantissa : Nat) (exponent : Int)
  | infinite (negative : Bool)
  | nan
  deriving DecidableEq

namespace Binary64

/-- The number of bits of a mantissa. -/
def precision : Nat := 53

/-- The least mantissa that has all its bits. -/
def fullMantissa : Nat := Nat.pow 2 (precision - 1)

/-- The least exponent. -/
def minExponent : Int := -1074

/-- The greatest exponent. -/
def maxExponent : Int := 971

/-- Numbers of this decimal magnitude and above are past the greatest finite number. -/
def overflowMagnitude : Int := 310

/-- Numbers below this decimal magnitude round to zero. -/
def underflowMagnitude : Int := -330

/-- The number nearest to a positive fraction. -/
def ofFraction (negative : Bool) (a : Fraction) : Binary64 :=
  -- the quotient by two to this power has 53 bits or one less
  let estimate : Int := a.numerator.log2 - a.denominator.log2 - (precision - 1)
  let quotient := (a.divide (.scaled 1 2 estimate)).floor
  let exact := if quotient < fullMantissa then estimate - 1 else estimate
  let exponent := max exact minExponent
  let mantissa := (a.divide (.scaled 1 2 exponent)).round
  let (mantissa, exponent) :=
    if mantissa = 2 * fullMantissa then (fullMantissa, exponent + 1) else (mantissa, exponent)
  if exponent > maxExponent then infinite negative else finite negative mantissa exponent

/-- The number nearest to `± digits · 10 ^ exponent`. -/
def ofDecimal (negative : Bool) (digits : Nat) (exponent : Int) : Binary64 :=
  if digits = 0 then finite negative 0 minExponent
  else
    let magnitude := exponent + digits.repr.length
    if magnitude > overflowMagnitude then infinite negative
    else if magnitude < underflowMagnitude then finite negative 0 minExponent
    else ofFraction negative (.scaled digits 10 exponent)

end Binary64

end CheckpointMonitor.Decimal
