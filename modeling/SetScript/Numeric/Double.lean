/-!
# Double precision numbers

Numbers with a fraction are double precision numbers.  They are held as a sign,
a mantissa and a power of two, so that rounding and printing are exact
arithmetic on natural numbers.

`Magnitude.ofRatio?` rounds a ratio to the nearest double, ties to the even
mantissa.
-/

namespace SetScript.Numeric

/-- Where a number goes that lies halfway between two candidates. -/
inductive Tie
  | even
  | up

/-- The ratio of two natural numbers.  The denominator is positive. -/
structure Ratio where
  numerator : Nat
  denominator : Nat

namespace Ratio

/-- A ratio times a power of a positive base. -/
def scale (ratio : Ratio) (base : Nat) (exponent : Int) : Ratio :=
  if 0 ≤ exponent then
    ⟨ratio.numerator * Nat.pow base exponent.toNat, ratio.denominator⟩
  else
    ⟨ratio.numerator, ratio.denominator * Nat.pow base (-exponent).toNat⟩

/-- A power of a positive base. -/
def power (base : Nat) (exponent : Int) : Ratio :=
  scale ⟨1, 1⟩ base exponent

def mul (first second : Ratio) : Ratio :=
  ⟨first.numerator * second.numerator, first.denominator * second.denominator⟩

def div (first second : Ratio) : Ratio :=
  ⟨first.numerator * second.denominator, first.denominator * second.numerator⟩

def lt (first second : Ratio) : Bool :=
  first.numerator * second.denominator < second.numerator * first.denominator

def le (first second : Ratio) : Bool :=
  first.numerator * second.denominator ≤ second.numerator * first.denominator

def floor (ratio : Ratio) : Nat :=
  ratio.numerator / ratio.denominator

/-- The nearest natural number. -/
def round (tie : Tie) (ratio : Ratio) : Nat :=
  let below := ratio.floor
  let twice := 2 * (ratio.numerator % ratio.denominator)
  let staysBelow :=
    match tie with
    | .even => below % 2 == 0
    | .up => false
  if twice < ratio.denominator || (twice == ratio.denominator && staysBelow) then
    below
  else
    below + 1

/-- The largest power of two that does not exceed a positive ratio. -/
def log2 (ratio : Ratio) : Int :=
  let estimate : Int := (ratio.numerator.log2 : Int) - (ratio.denominator.log2 : Int)
  if (power 2 estimate).le ratio then estimate else estimate - 1

end Ratio

/-- The magnitude `mantissa * 2 ^ exponent`. -/
structure Magnitude where
  mantissa : Nat
  exponent : Int

namespace Magnitude

/-- The number of bits of a mantissa. -/
def precision : Nat :=
  53

/-- The least mantissa with all bits in use. -/
def fullMantissa : Nat :=
  Nat.pow 2 (precision - 1)

/-- The exponent of the numbers closest to zero. -/
def minExponent : Int :=
  -1074

/-- The exponent of the largest numbers. -/
def maxExponent : Int :=
  971

def toRatio (magnitude : Magnitude) : Ratio :=
  Ratio.scale ⟨magnitude.mantissa, 1⟩ 2 magnitude.exponent

/-- The double nearest to a ratio, or nothing when the ratio is too large. -/
def ofRatio? (ratio : Ratio) : Option Magnitude :=
  if ratio.numerator = 0 then
    some ⟨0, minExponent⟩
  else
    let exponent := max (ratio.log2 - (precision - 1)) minExponent
    let mantissa := (ratio.scale 2 (-exponent)).round .even
    let rounded : Magnitude :=
      if mantissa < 2 * fullMantissa then ⟨mantissa, exponent⟩
      else ⟨fullMantissa, exponent + 1⟩
    if rounded.exponent ≤ maxExponent then some rounded else none

end Magnitude

/-- A double precision number. -/
inductive Double
  | finite (negative : Bool) (magnitude : Magnitude)
  | infinite (negative : Bool)
  | nan

namespace Double

/-- The double nearest to a signed ratio. -/
def ofRatio (negative : Bool) (ratio : Ratio) : Double :=
  match Magnitude.ofRatio? ratio with
  | some magnitude => finite negative magnitude
  | none => infinite negative

/-- Whether a double is a number and not infinite. -/
def isFinite : Double → Bool
  | finite _ _ => true
  | _ => false

end Double

end SetScript.Numeric
