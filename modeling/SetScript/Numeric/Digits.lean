/-!
# Digits

The values of digits and of texts of digits, in bases up to sixteen.
-/

namespace SetScript.Numeric

def isHexDigit (c : Char) : Bool :=
  c.isDigit || ('a' ≤ c && c ≤ 'f') || ('A' ≤ c && c ≤ 'F')

def isOctalDigit (c : Char) : Bool :=
  '0' ≤ c && c ≤ '7'

def isBinaryDigit (c : Char) : Bool :=
  c == '0' || c == '1'

/-- The value of a digit in bases up to sixteen. -/
def digitValue (c : Char) : Nat :=
  if c.isDigit then c.toNat - '0'.toNat
  else c.toLower.toNat - 'a'.toNat + 10

/-- The value of a text of digits. -/
def valueInBase (base : Nat) (digits : List Char) : Nat :=
  digits.foldl (fun value digit => value * base + digitValue digit) 0

/-- The value of a text of hexadecimal digits of a given length. -/
def fixedHex? (length : Nat) (digits : List Char) : Option Nat :=
  if digits.length = length ∧ digits.all isHexDigit then some (valueInBase 16 digits) else none

end SetScript.Numeric
