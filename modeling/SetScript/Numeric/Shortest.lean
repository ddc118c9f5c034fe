import SetScript.Numeric.Double

/-!
# Shortest decimal texts

A double is written with the fewest decimal digits that read back as the same
number; of several such decimals the nearest is taken.  Two decimals can be
equally near; which of them is taken is up to the layout.

The reals that round to a double form an interval, which holds its ends exactly
when the mantissa is even.  If some decimal with a given number of digits lies in
the interval, then so does one of the two decimals of that length next to the
double itself, so only those are tried.
-/

namespace SetScript.Numeric

/-- The number `digits * 10 ^ exponent`. -/
structure Decimal where
  digits : Nat
  exponent : Int

namespace Decimal

def toRatio (decimal : Decimal) : Ratio :=
  Ratio.scale ⟨decimal.digits, 1⟩ 10 decimal.exponent

/-- The digits of a decimal as text. -/
def text (decimal : Decimal) : List Char :=
  Nat.toDigits 10 decimal.digits

/-- Drop up to the given number of trailing zeros from the digits. -/
def trim : Nat → Decimal → Decimal
  | 0, decimal => decimal
  | count + 1, decimal =>
      if decimal.digits % 10 = 0 ∧ decimal.digits ≠ 0 then
        trim count ⟨decimal.digits / 10, decimal.exponent + 1⟩
      else
        decimal

end Decimal

namespace Magnitude

/-- Whether a ratio rounds to the given positive double. -/
def reads (magnitude : Magnitude) (ratio : Ratio) : Bool :=
  let quarter := magnitude.exponent - 2
  let lowStep :=
    if magnitude.mantissa = fullMantissa ∧ minExponent < magnitude.exponent then 1 else 2
  let low := Ratio.scale ⟨4 * magnitude.mantissa - lowStep, 1⟩ 2 quarter
  let high := Ratio.scale ⟨4 * magnitude.mantissa + 2, 1⟩ 2 quarter
  if magnitude.mantissa % 2 = 0 then
    low.le ratio && ratio.le high
  else
    low.lt ratio && ratio.lt high

/-- The number of decimal digits before the point: the least `k` for which the
double is below `10 ^ k`. -/
def decimalPoint (magnitude : Magnitude) : Int :=
  let ratio := magnitude.toRatio
  let estimate := ratio.log2 * 30103 / 100000
  let candidates := [estimate - 1, estimate, estimate + 1]
  (candidates.find? fun k => ratio.lt (Ratio.power 10 k)).getD (estimate + 2)

/-- The nearer of the neighbours of a double among the decimals with a given
number of digits, if one of them reads back. -/
def decimalOfLength? (tie : Tie) (magnitude : Magnitude) (length : Nat) : Option Decimal :=
  let exponent := magnitude.decimalPoint - length
  let scaled := magnitude.toRatio.scale 10 (-exponent)
  let below : Decimal := ⟨scaled.floor, exponent⟩
  let above : Decimal := ⟨scaled.floor + 1, exponent⟩
  let nearest : Decimal := ⟨scaled.round tie, exponent⟩
  [nearest, below, above].find? fun decimal => magnitude.reads decimal.toRatio

/-- The shortest decimal that reads back as a positive double.  Seventeen digits
always suffice. -/
def shortest (tie : Tie) (magnitude : Magnitude) : Decimal :=
  let found := (List.range 17).findSome? fun n => magnitude.decimalOfLength? tie (n + 1)
  (found.getD ⟨magnitude.mantissa, 0⟩).trim 17

end Magnitude

namespace Decimal

/-- Write a decimal without exponent, always with a point. -/
def positional (decimal : Decimal) : List Char :=
  let digits := decimal.text
  let point : Int := digits.length + decimal.exponent
  if 0 ≤ decimal.exponent then
    digits ++ List.replicate decimal.exponent.toNat '0' ++ ['.', '0']
  else if 0 < point then
    digits.take point.toNat ++ ['.'] ++ digits.drop point.toNat
  else
    ['0', '.'] ++ List.replicate (-point).toNat '0' ++ digits

/-- Write a decimal as a number with one digit before the point, and a power of
ten with its sign. -/
def scientific (decimal : Decimal) : List Char :=
  let digits := decimal.text
  let power : Int := digits.length + decimal.exponent - 1
  let fraction := digits.drop 1
  let mantissa := digits.take 1 ++ (if fraction.isEmpty then [] else '.' :: fraction)
  let sign := if power < 0 then '-' else '+'
  mantissa ++ ['e', sign] ++ Nat.toDigits 10 power.natAbs

end Decimal

/-- How doubles are written. -/
structure Layout where
  /-- For which places of the point, counted in digits from the first one, no
  exponent is used. -/
  isPositional : Int → Bool
  /-- Which of two equally near decimals is written. -/
  tie : Tie

namespace Layout

/-- Never an exponent; the greater of two equally near decimals. -/
def plain : Layout :=
  ⟨fun _ => true, .up⟩

/-- An exponent from `1e16` on and below `1e-5`; the even one of two equally near
decimals. -/
def compact : Layout :=
  ⟨fun point => -5 < point && point ≤ 16, .even⟩

end Layout

/-- The text of a double. -/
def Double.render (layout : Layout) : Double → String
  | .nan => "NaN"
  | .infinite negative => if negative then "-inf" else "inf"
  | .finite negative magnitude =>
      let sign := if negative then "-" else ""
      if magnitude.mantissa = 0 then
        sign ++ "0.0"
      else
        let decimal := magnitude.shortest layout.tie
        let point : Int := decimal.text.length + decimal.exponent
        let written :=
          if layout.isPositional point then decimal.positional else decimal.scientific
        sign ++ String.ofList written

end SetScript.Numeric
