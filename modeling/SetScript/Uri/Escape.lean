import SetScript.Numeric.Digits
import SetScript.Text.CodeRange

/-!
# Escapes

In an identifier a character that has no place where it stands is written as its
bytes, each as a percent sign and two hexadecimal digits.
-/

namespace SetScript.Uri

open Numeric Text

/-- The bytes of a character. -/
def bytesOf (c : Char) : List UInt8 :=
  (String.singleton c).toUTF8.toList

/-- Decode the percent escapes of a text into bytes.  A percent sign without two
digits stands for itself. -/
def unescape : List Char → List UInt8
  | [] => []
  | '%' :: high :: low :: rest =>
      if isHexDigit high && isHexDigit low then
        UInt8.ofNat (valueInBase 16 [high, low]) :: unescape rest
      else
        bytesOf '%' ++ unescape (high :: low :: rest)
  | c :: rest => bytesOf c ++ unescape rest

/-- The text of some bytes, if they are one. -/
def decodeBytes? (bytes : List UInt8) : Option String :=
  String.fromUTF8? ⟨bytes.toArray⟩

/-- The escape of a byte. -/
def escapeByte (byte : UInt8) : List Char :=
  let digit (value : Nat) : Char := (Nat.digitChar value).toUpper
  ['%', digit (byte.toNat / 16), digit (byte.toNat % 16)]

/-- Whether a character can stand in an identifier at all. -/
def isAllowed (c : Char) : Bool :=
  32 ≤ c.toNat && c.toNat < 127

/-- A text with escapes for the characters of a list, and for those that cannot stand
in any identifier. -/
def escape (reserved : List Char) (text : List Char) : List Char :=
  text.flatMap fun c =>
    if isAllowed c && !reserved.contains c then [c] else (bytesOf c).flatMap escapeByte

/-! ## The characters that are escaped -/

def reservedInFragment : List Char :=
  " \"<>`".toList

def reservedInPath : List Char :=
  reservedInFragment ++ "#?\x7b\x7d".toList

def reservedInUser : List Char :=
  reservedInPath ++ "/:;=@[\\]^|".toList

def reservedInQuery : List Char :=
  " \"#<>".toList

end SetScript.Uri
