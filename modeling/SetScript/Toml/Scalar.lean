import SetScript.Numeric.Digits
import SetScript.Numeric.Double
import SetScript.Text.Divide

/-!
# Scalars of TOML

A value that is neither quoted nor a container is a word: a truth value, an
integer in one of four bases, a number with a fraction or an exponent, or a date
or time.

A document is checked for the form of its numbers only.  An integer without
digits after the mark of its base, or with other characters after an underscore,
has the form of an integer and still denotes none; so does a number that is too
large.  This shows when the number is asked for, and not before.
-/

namespace SetScript.Toml

open Numeric

/-- A value that holds no other values. -/
inductive Scalar
  | bool (value : Bool)
  /-- An integer, unless its digits denote none. -/
  | integer (value? : Option Int)
  /-- A number with a fraction or an exponent, unless it is too large. -/
  | double (value? : Option Double)
  | string (text : String)
  /-- A date, a time of day, or both. -/
  | moment

/-- The sign of a number and what follows it. -/
def splitSign : List Char → Bool × List Char
  | '-' :: rest => (true, rest)
  | '+' :: rest => (false, rest)
  | text => (false, text)

/-- A text without its underscores. -/
def ungroup (text : List Char) : List Char :=
  text.filter (· != '_')

/-- Whether all underscores of a number go between two digits. -/
def isGrouped (isDigit : Char → Bool) (text : List Char) : Bool :=
  match Text.divide (· == '_') text with
  | [] => true
  | [_] => true
  | first :: others =>
      first.getLast?.any isDigit && others.all (fun group => group.head?.any isDigit) &&
        others.dropLast.all fun group => group.getLast?.any isDigit

/-! ## Integers -/

/-- The value of digits in a base, if there are some and no other characters. -/
def valueOf? (base : Nat) (isDigit : Char → Bool) (digits : List Char) : Option Nat :=
  if digits.isEmpty || !digits.all isDigit then none else some (valueInBase base digits)

/-- An integer in a base other than ten, after the mark of the base. -/
def based? (base : Nat) (isDigit : Char → Bool) (digits : List Char) : Option Scalar :=
  if (ungroup digits).all isDigit && isGrouped isDigit digits then
    some (.integer ((valueOf? base isDigit (ungroup digits)).map Int.ofNat))
  else
    none

/-- Integers in base sixteen, eight and two have no sign. -/
def basedInteger? : List Char → Option Scalar
  | '0' :: 'x' :: digits => based? 16 isHexDigit digits
  | '0' :: 'o' :: digits => based? 8 isOctalDigit digits
  | '0' :: 'b' :: digits => based? 2 isBinaryDigit digits
  | _ => none

/-- The integer in base ten that a text without underscores denotes, if any. -/
def decimalValue? (text : List Char) : Option Int :=
  let (negative, digits) := splitSign text
  (valueOf? 10 Char.isDigit digits).map fun value =>
    if negative then -(value : Int) else value

/-- Whether a text has the form of an integer in base ten: digits without leading
zero, perhaps followed by an underscore and further characters.  Underscores go
between digits of any base. -/
def isDecimalForm (text : List Char) : Bool :=
  let unsigned := (splitSign text).2
  let rest := unsigned.dropWhile Char.isDigit
  if rest.isEmpty then
    unsigned.length = 1 || (!unsigned.isEmpty && unsigned.head? != some '0')
  else
    rest.head? == some '_' && unsigned.head? != some '0' && isGrouped isHexDigit text

def decimalInteger? (text : List Char) : Option Scalar :=
  if isDecimalForm text then some (.integer (decimalValue? (ungroup text))) else none

/-! ## Numbers with a fraction or an exponent -/

/-- Exponents beyond this bound give zero or nothing representable for every
text that is not longer. -/
def exponentBound (digits : Nat) : Int :=
  400 + digits

/-- The number with the given digits times a power of ten, unless it is too
large. -/
def decimalDouble? (negative : Bool) (digits : List Char) (exponent : Int) : Option Double :=
  let significand := valueInBase 10 digits
  let bound := exponentBound digits.length
  let bounded := max (-bound) (min bound exponent)
  match Double.ofRatio negative (Ratio.scale ⟨significand, 1⟩ 10 bounded) with
  | .infinite _ => none
  | double => some double

/-- Digits and underscores at the front of a text. -/
def digitRun (text : List Char) : List Char :=
  text.takeWhile fun c => c.isDigit || c == '_'

/-- Whether a run of digits and underscores has some digit. -/
def hasDigit (run : List Char) : Bool :=
  run.any Char.isDigit

/-- Read a number without sign, given its sign: a whole part without leading
zero, a fraction after a point, and an exponent after its mark. -/
def unsignedDouble? (negative : Bool) (text : List Char) : Option Scalar :=
  let whole := digitRun text
  let afterWhole := text.drop whole.length
  let hasPoint := afterWhole.head? == some '.'
  let fraction := if hasPoint then digitRun (afterWhole.drop 1) else []
  let afterFraction := if hasPoint then afterWhole.drop (1 + fraction.length) else afterWhole
  let hasMark := afterFraction.head? == some 'e' || afterFraction.head? == some 'E'
  let (below, exponent) := if hasMark then splitSign (afterFraction.drop 1) else (false, [])
  let rest := if hasMark then exponent.drop (digitRun exponent).length else afterFraction
  let leadingZero := whole.head? == some '0' && 1 < (ungroup whole).length
  if hasDigit whole && !leadingZero && (!hasPoint || hasDigit fraction) &&
      (!hasMark || hasDigit exponent) && rest.isEmpty
  then
    let power : Int := valueInBase 10 (ungroup exponent)
    let signedPower := if below then -power else power
    let places : Int := (ungroup fraction).length
    some (.double
      (decimalDouble? negative (ungroup whole ++ ungroup fraction) (signedPower - places)))
  else
    none

/-- Whether a text has a mark that integers do not have. -/
def hasDoubleMark (text : List Char) : Bool :=
  text.any fun c => c == '.' || c == 'e' || c == 'E'

/-- A number with a fraction, an exponent or both. -/
def double? (text : List Char) : Option Scalar :=
  if isGrouped Char.isDigit text then
    let (negative, unsigned) := splitSign text
    unsignedDouble? negative unsigned
  else
    none

/-- The numbers that are written as words. -/
def wordDouble? (text : List Char) : Option Double :=
  let (negative, word) := splitSign text
  if word = "inf".toList then some (.infinite negative)
  else if word = "nan".toList then some .nan
  else none

/-! ## Dates and times -/

/-- The value of a text of digits of a given length. -/
def fixedDigits? (length : Nat) (text : List Char) : Option Nat :=
  if text.length = length ∧ text.all Char.isDigit then some (valueInBase 10 text) else none

def isLeapYear (year : Nat) : Bool :=
  (year % 4 == 0 && year % 100 != 0) || year % 400 == 0

def daysInMonth (year month : Nat) : Nat :=
  if month = 2 then (if isLeapYear year then 29 else 28)
  else if month = 4 ∨ month = 6 ∨ month = 9 ∨ month = 11 then 30
  else 31

/-- Whether a text is a date of the calendar. -/
def isDate (text : List Char) : Bool :=
  text.length == 10 && text[4]? == some '-' && text[7]? == some '-' &&
    ((fixedDigits? 4 (text.take 4)).bind fun year =>
      (fixedDigits? 2 ((text.drop 5).take 2)).bind fun month =>
        (fixedDigits? 2 ((text.drop 8).take 2)).map fun day =>
          1 ≤ month && month ≤ 12 && 1 ≤ day && day ≤ daysInMonth year month).getD false

/-- Whether a text is two digits up to a bound. -/
def isTwoDigits (bound : Nat) (text : List Char) : Bool :=
  (fixedDigits? 2 text).any (· ≤ bound)

/-- The time of day at the front of a text, if any, taken away.  Seconds and
their fraction may be missing. -/
def afterTime? (text : List Char) : Option (List Char) :=
  if isTwoDigits 23 (text.take 2) && text[2]? == some ':' && isTwoDigits 59 ((text.drop 3).take 2)
  then
    let afterMinutes := text.drop 5
    if afterMinutes.head? == some ':' then
      if isTwoDigits 60 ((afterMinutes.drop 1).take 2) then
        let afterSeconds := afterMinutes.drop 3
        if afterSeconds.head? == some '.' then
          let fraction := (afterSeconds.drop 1).takeWhile Char.isDigit
          if fraction.isEmpty then none else some (afterSeconds.drop (1 + fraction.length))
        else
          some afterSeconds
      else
        none
    else
      some afterMinutes
  else
    none

/-- Whether a text is an offset from universal time. -/
def isOffset : List Char → Bool
  | ['Z'] => true
  | ['z'] => true
  | sign :: rest =>
      (sign == '+' || sign == '-') && rest.length == 5 && isTwoDigits 23 (rest.take 2) &&
        rest[2]? == some ':' && isTwoDigits 59 (rest.drop 3)
  | [] => false

/-- Whether a text is a date, a time of day, or a date with a time of day and
perhaps an offset. -/
def isMoment (text : List Char) : Bool :=
  if isDate (text.take 10) then
    match text.drop 10 with
    | [] => true
    | mark :: time =>
        (mark == 'T' || mark == 't' || mark == ' ') &&
          (afterTime? time).any fun rest => rest.isEmpty || isOffset rest
  else
    (afterTime? text).any List.isEmpty

/-! ## Words -/

/-- The value that a word stands for. -/
def Scalar.ofWord? (word : List Char) : Option Scalar :=
  if word = "true".toList then some (.bool true)
  else if word = "false".toList then some (.bool false)
  else if isMoment word then some .moment
  else
    ((wordDouble? word).map fun value => .double (some value)).or <|
      (basedInteger? word).or <|
        if hasDoubleMark word then double? word else decimalInteger? word

end SetScript.Toml
