import SetScript.Json.Basic
import SetScript.Numeric.Digits
import SetScript.Numeric.Width

/-!
# Numbers in JSON texts

A number without fraction and exponent is an integer when it fits into 64 bits.
Any other number is a double.  As many digits as fit into an unsigned 64-bit
word make up a significand, which is rounded to a double and then multiplied or
divided by a power of ten, rounded likewise.
-/

namespace SetScript.Json

open Numeric

/-- The largest significand. -/
def maxSignificand : Nat :=
  wordCount 64 - 1

/-- Add digits to a significand for as long as it fits, and count them. -/
def takeDigits (significand : Nat) : List Char → Nat × Nat
  | [] => (significand, 0)
  | digit :: rest =>
      let longer := significand * 10 + digitValue digit
      if longer ≤ maxSignificand then
        let taken := takeDigits longer rest
        (taken.1, taken.2 + 1)
      else
        (significand, 0)

/-- The largest power of ten among the doubles. -/
def maxPower : Nat :=
  308

/-- Divide a double by a power of ten, in steps of at most `10 ^ 308`. -/
def shrink (magnitude : Magnitude) (power : Nat) : Magnitude :=
  let divide (by10 : Nat) : Magnitude :=
    ((Magnitude.ofRatio? (.power 10 by10)).bind fun divisor =>
      Magnitude.ofRatio? (magnitude.toRatio.div divisor.toRatio)).getD magnitude
  if power ≤ maxPower then divide power
  else if magnitude.mantissa = 0 then magnitude
  else shrink (divide maxPower) (power - maxPower)
termination_by power
decreasing_by simp only [maxPower] at *; omega

/-- The double of a significand and a power of ten, unless it is too large. -/
def ofParts? (significand : Nat) (exponent : Int) : Option Magnitude :=
  (Magnitude.ofRatio? ⟨significand, 1⟩).bind fun magnitude =>
    if exponent < 0 then
      some (shrink magnitude (-exponent).toNat)
    else if exponent.toNat ≤ maxPower then
      (Magnitude.ofRatio? (.power 10 exponent)).bind fun factor =>
        Magnitude.ofRatio? (magnitude.toRatio.mul factor.toRatio)
    else if magnitude.mantissa = 0 then
      some magnitude
    else
      none

/-- The pieces of a number: its sign, the digits before and after the point, and
the signed digits of its exponent. -/
structure Numeral where
  negative : Bool
  whole : List Char
  fraction : Option (List Char)
  exponent : Option (Bool × List Char)

namespace Numeral

/-- The largest exponent. -/
def maxExponent : Nat :=
  wordCount 31 - 1

/-- The value of a number, unless it is too large. -/
def value? (numeral : Numeral) : Option Json :=
  let whole := takeDigits 0 numeral.whole
  let dropped := numeral.whole.length - whole.2
  if numeral.fraction.isNone && numeral.exponent.isNone && dropped == 0 then
    if !numeral.negative then
      some (.integer whole.1)
    else if whole.1 ≠ 0 ∧ fitsSigned 64 (-whole.1) then
      some (.integer (-whole.1))
    else
      some (.double (.ofRatio true ⟨whole.1, 1⟩))
  else
    let all := takeDigits whole.1 (numeral.fraction.getD [])
    let base : Int := (dropped : Int) - (all.2 : Int)
    let magnitude? :=
      match numeral.exponent with
      | none => ofParts? all.1 base
      | some (negative, digits) =>
          let power := valueInBase 10 digits
          if maxExponent < power then
            if all.1 ≠ 0 ∧ !negative then none else some ⟨0, Magnitude.minExponent⟩
          else
            ofParts? all.1 (if negative then base - power else base + power)
    magnitude?.map fun magnitude => .double (.finite numeral.negative magnitude)

end Numeral

/-- Read a number from the front of a text, with the count of its characters. -/
def numberAt? (text : List Char) : Option (Json × Nat) :=
  let negative := text.head? == some '-'
  let unsigned := if negative then text.drop 1 else text
  let whole := unsigned.takeWhile Char.isDigit
  let afterWhole := unsigned.drop whole.length
  if whole.isEmpty || (whole.head? == some '0' && 1 < whole.length) then none
  else
    let hasPoint := afterWhole.head? == some '.'
    let fraction := if hasPoint then (afterWhole.drop 1).takeWhile Char.isDigit else []
    if hasPoint && fraction.isEmpty then none
    else
      let afterFraction := if hasPoint then afterWhole.drop (1 + fraction.length) else afterWhole
      let hasExponent := afterFraction.head? == some 'e' || afterFraction.head? == some 'E'
      let sign? := (afterFraction.drop 1).head?
      let signed := sign? == some '+' || sign? == some '-'
      let signLength := if signed then 1 else 0
      let digits :=
        if hasExponent then (afterFraction.drop (1 + signLength)).takeWhile Char.isDigit else []
      if hasExponent && digits.isEmpty then none
      else
        let numeral : Numeral :=
          { negative := negative
            whole := whole
            fraction := if hasPoint then some fraction else none
            exponent := if hasExponent then some (sign? == some '-', digits) else none }
        let length :=
          (if negative then 1 else 0) + whole.length +
            (if hasPoint then 1 + fraction.length else 0) +
            (if hasExponent then 1 + signLength + digits.length else 0)
        numeral.value?.map fun value => (value, length)

end SetScript.Json
