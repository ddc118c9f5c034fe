import SetScript.Numeric.Digits
import SetScript.Numeric.Width
import SetScript.Text.Divide

/-!
# Numeric addresses

Hosts can be named by numbers.  A host whose last part is a number must be an
address of four bytes: up to four numbers in base ten, eight or sixteen, all but
the last of one byte each, where the last fills the remaining bytes.  A host in
brackets must be an address of eight groups of hexadecimal digits, where two
colons may stand for one or more groups of zeros, and four decimal bytes for the
last two groups.
-/

namespace SetScript.Uri

open Numeric Text

/-! ## Four bytes -/

/-- The value of a part of an address.  A leading `0x` marks base sixteen, and any
other leading zero marks base eight. -/
def addressPart? : List Char → Option Nat
  | [] => none
  | ['0'] => some 0
  | '0' :: mark :: digits =>
      if mark = 'x' ∨ mark = 'X' then
        if digits.all isHexDigit then some (valueInBase 16 digits) else none
      else if (mark :: digits).all isOctalDigit then some (valueInBase 8 (mark :: digits))
      else none
  | digits => if digits.all Char.isDigit then some (valueInBase 10 digits) else none

/-- The parts of a host between its dots, without an empty part at the end. -/
def hostParts (host : List Char) : List (List Char) :=
  let parts := divide (· == '.') host
  if parts.getLast? = some [] then parts.dropLast else parts

/-- Whether the last part of a host is a number. -/
def endsInNumber (host : List Char) : Bool :=
  (hostParts host).getLast?.any fun last =>
    !last.isEmpty && (last.all Char.isDigit || (addressPart? last).isSome)

/-- The bytes of a number, the highest one first. -/
def bytesOfNumber : Nat → Nat → List Nat
  | 0, _ => []
  | count + 1, number => bytesOfNumber count (number / wordCount 8) ++ [number % wordCount 8]

/-- The bytes that some numbers make up: all but the last one are bytes, and the last
one fills the rest. -/
def fillBytes? : Nat → List Nat → Option (List Nat)
  | _, [] => none
  | count, [last] =>
      if 0 < count ∧ last < wordCount (8 * count) then some (bytesOfNumber count last) else none
  | count, number :: rest =>
      if number < wordCount 8 then (fillBytes? (count - 1) rest).map (number :: ·) else none

/-- The address of four bytes that a host is. -/
def byteAddress? (host : List Char) : Option (List Nat) :=
  ((hostParts host).mapM addressPart?).bind fun numbers =>
    if numbers.length ≤ 4 then fillBytes? 4 numbers else none

/-- The text of an address of four bytes. -/
def byteAddressText (bytes : List Nat) : List Char :=
  ['.'].intercalate (bytes.map (Nat.toDigits 10))

/-! ## Eight groups -/

/-- Whether a text is one group of an address. -/
def isGroup (text : List Char) : Bool :=
  !text.isEmpty && text.length ≤ 4 && text.all isHexDigit

/-- Whether a text is a byte in base ten, without leading zero. -/
def isDecimalByte (text : List Char) : Bool :=
  !text.isEmpty && text.all Char.isDigit && (text.length = 1 || text.head? != some '0') &&
    valueInBase 10 text < wordCount 8

/-- The two groups that four bytes in base ten make up. -/
def decimalGroups? (text : List Char) : Option (List Nat) :=
  match divide (· == '.') text with
  | [first, second, third, fourth] =>
      if [first, second, third, fourth].all isDecimalByte then
        let pair (high low : List Char) : Nat :=
          valueInBase 10 high * wordCount 8 + valueInBase 10 low
        some [pair first second, pair third fourth]
      else
        none
  | _ => none

/-- The groups that some parts are.  Where an address may end, the last part can be
four bytes in base ten. -/
def groupsOf? (atEnd : Bool) : List (List Char) → Option (List Nat)
  | [] => some []
  | [last] =>
      if isGroup last then some [valueInBase 16 last]
      else if atEnd then decimalGroups? last
      else none
  | group :: rest =>
      if isGroup group then (groupsOf? atEnd rest).map (valueInBase 16 group :: ·) else none

/-- The groups of a text with colons between them; none in an empty text. -/
def groupsIn? (atEnd : Bool) (text : List Char) : Option (List Nat) :=
  if text.isEmpty then some [] else groupsOf? atEnd (divide (· == ':') text)

/-- Split a text at its first two colons in a row. -/
def splitGap? : List Char → Option (List Char × List Char)
  | [] => none
  | ':' :: ':' :: rest => some ([], rest)
  | c :: rest => (splitGap? rest).map fun (before, after) => (c :: before, after)

/-- The address of eight groups that a text is. -/
def groupAddress? (text : List Char) : Option (List Nat) :=
  match splitGap? text with
  | none => (groupsIn? true text).filter fun groups => groups.length = 8
  | some (before, after) =>
      (groupsIn? false before).bind fun first =>
        (groupsIn? true after).bind fun second =>
          let known := first.length + second.length
          if known ≤ 7 then some (first ++ List.replicate (8 - known) 0 ++ second) else none

/-- The number of zeros in a row, from a place on. -/
def zerosFrom (groups : List Nat) (place : Nat) : Nat :=
  ((groups.drop place).takeWhile (· == 0)).length

/-- The place of the longest row of zeros, the first one of several. -/
def longestGap (groups : List Nat) : Nat :=
  (List.range groups.length).foldl
    (fun best place => if zerosFrom groups best < zerosFrom groups place then place else best) 0

/-- The text of an address of eight groups.  Two colons stand for the longest row of
zeros, unless it is one zero only. -/
def groupAddressText (groups : List Nat) : List Char :=
  let joined (groups : List Nat) : List Char := [':'].intercalate (groups.map (Nat.toDigits 16))
  let place := longestGap groups
  let zeros := zerosFrom groups place
  if zeros < 2 then joined groups
  else joined (groups.take place) ++ [':', ':'] ++ joined (groups.drop (place + zeros))

end SetScript.Uri
