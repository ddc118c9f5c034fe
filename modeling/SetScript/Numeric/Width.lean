/-!
# Integers of a fixed width

Which integers fit into a number of bits, unsigned or in two's complement.
-/

namespace SetScript.Numeric

/-- The number of words of a given number of bits. -/
def wordCount (bits : Nat) : Nat :=
  Nat.pow 2 bits

/-- Whether an integer is an unsigned word. -/
def fitsUnsigned (bits : Nat) (value : Int) : Bool :=
  0 ≤ value && value < wordCount bits

/-- Whether an integer is a signed word. -/
def fitsSigned (bits : Nat) (value : Int) : Bool :=
  -(wordCount (bits - 1) : Int) ≤ value && value < wordCount (bits - 1)

end SetScript.Numeric
