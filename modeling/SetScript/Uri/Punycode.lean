import SetScript.Text.CodeRange

/-!
# Punycode

A label of a domain with characters beyond the first 128 code points can be
spelled in letters, digits and hyphens.  The other characters of the label come
first, up to the last hyphen.  Then follow numbers in a base of thirty-six digits:
each of them says how far to go, first through the places of the label and then to
the next code point, to insert one more character.

The last digit of a number is below a threshold that depends on its place and on a
bias.  The bias follows the size of the numbers.
-/

namespace SetScript.Uri.Punycode

open Text (isAscii)

/-- The number of digits. -/
def base : Nat :=
  36

/-- The digit of a value: letters come before digits. -/
def digitOf (value : Nat) : Char :=
  if value < 26 then Char.ofNat ('a'.toNat + value) else Char.ofNat ('0'.toNat + (value - 26))

/-- The value of a digit. -/
def digitValue? (c : Char) : Option Nat :=
  if 'a' ≤ c ∧ c ≤ 'z' then some (c.toNat - 'a'.toNat)
  else if 'A' ≤ c ∧ c ≤ 'Z' then some (c.toNat - 'A'.toNat)
  else if '0' ≤ c ∧ c ≤ '9' then some (c.toNat - '0'.toNat + 26)
  else none

/-- Bring a distance into the range of the bias, counting steps of the base. -/
def scaleDown (distance steps : Nat) : Nat × Nat :=
  if 455 < distance then scaleDown (distance / 35) (steps + base) else (distance, steps)
termination_by distance
decreasing_by exact Nat.div_lt_self (by omega) (by omega)

/-- The bias after a distance to the insertion that gave the label its length. -/
def nextBias (isFirst : Bool) (distance length : Nat) : Nat :=
  let damped := if isFirst then distance / 700 else distance / 2
  let (scaled, steps) := scaleDown (damped + damped / length) 0
  steps + base * scaled / (scaled + 38)

/-- The threshold for the digit at a position, which counts in steps of the base. -/
def thresholdAt (position bias : Nat) : Nat :=
  max 1 (min 26 (position - bias))

theorem thresholdAt_bounds (position bias : Nat) :
    1 ≤ thresholdAt position bias ∧ thresholdAt position bias ≤ 26 := by
  unfold thresholdAt
  omega

/-! ## Decoding -/

/-- A label that is being decoded. -/
structure Decoder where
  label : List Char
  /-- The last code point that was inserted, and the place after it. -/
  code : Nat := 128
  place : Nat := 0
  bias : Nat := 72
  isFirst : Bool := true
  /-- The number so far, the weight of its next digit, and the position of that
  digit in steps of the base. -/
  number : Nat := 0
  weight : Nat := 1
  position : Nat := base

namespace Decoder

/-- The threshold for the next digit. -/
def threshold (decoder : Decoder) : Nat :=
  thresholdAt decoder.position decoder.bias

/-- Insert the character that a complete number stands for, unless there is no such
character. -/
def insert? (decoder : Decoder) (number : Nat) : Option Decoder :=
  let length := decoder.label.length + 1
  let target := decoder.place + number
  let code := decoder.code + target / length
  let place := target % length
  if code.isValidChar then
    some
      { label := decoder.label.insertIdx place (Char.ofNat code)
        code := code
        place := place + 1
        bias := nextBias decoder.isFirst number length
        isFirst := false }
  else
    none

/-- Take one digit. -/
def take? (decoder : Decoder) (digit : Nat) : Option Decoder :=
  let number := decoder.number + digit * decoder.weight
  if digit < decoder.threshold then
    decoder.insert? number
  else
    some
      { decoder with
        number := number
        weight := decoder.weight * (base - decoder.threshold)
        position := decoder.position + base }

/-- Take digits until they end, which they do after a complete number. -/
def run? (decoder : Decoder) : List Char → Option (List Char)
  | [] => if decoder.position = base then some decoder.label else none
  | c :: rest => (digitValue? c).bind fun digit => (decoder.take? digit).bind (run? · rest)

end Decoder

/-- The label that a text spells. -/
def decode? (text : List Char) : Option (List Char) :=
  let digits := (text.reverse.takeWhile (· != '-')).reverse
  Decoder.run? { label := (text.take (text.length - digits.length)).dropLast } digits

/-! ## Encoding -/

/-- The digits of a number, the first one at a position. -/
def digitsOf (bias position number : Nat) : List Char :=
  let threshold := thresholdAt position bias
  if number < threshold then
    [digitOf number]
  else
    digitOf (threshold + (number - threshold) % (base - threshold)) ::
      digitsOf bias (position + base) ((number - threshold) / (base - threshold))
termination_by number
decreasing_by
  have bounds := thresholdAt_bounds position bias
  calc (number - thresholdAt position bias) / (base - thresholdAt position bias)
      ≤ number - thresholdAt position bias := Nat.div_le_self _ _
    _ < number := by omega

/-- A label that is being encoded, as far as it matters to the next insertion. -/
structure Encoder where
  /-- The number of characters so far. -/
  length : Nat
  code : Nat := 128
  place : Nat := 0
  bias : Nat := 72
  isFirst : Bool := true

/-- The digits for the insertion of some code points at their places, one after
another. -/
def Encoder.run (encoder : Encoder) : List (Nat × Nat) → List Char
  | [] => []
  | (code, place) :: rest =>
      let length := encoder.length + 1
      let number := (code - encoder.code) * length + place - encoder.place
      digitsOf encoder.bias base number ++
        Encoder.run
          { length := length
            code := code
            place := place + 1
            bias := nextBias encoder.isFirst number length
            isFirst := false } rest

/-- The code points to insert into a label and their places, in ascending order.  Of
the characters before a place only those count that are there by then. -/
def insertions (label : List Char) : List (Nat × Nat) :=
  let others := label.zipIdx.filter fun (c, _) => !isAscii c
  (others.mergeSort fun (c, _) (other, _) => c.toNat ≤ other.toNat).map fun (c, index) =>
    (c.toNat, (label.take index).countP (· ≤ c))

/-- The spelling of a label. -/
def encode (label : List Char) : List Char :=
  let plain := label.filter isAscii
  plain ++ (if plain.isEmpty then [] else ['-']) ++
    Encoder.run { length := plain.length } (insertions label)

end SetScript.Uri.Punycode
