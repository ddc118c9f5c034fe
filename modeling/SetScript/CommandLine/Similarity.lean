/-!
# Similar words

The Jaro similarity of two words, between zero and one.  Two equal characters
match when their places differ by less than half the length of the longer word;
each character matches at most once.  The similarity is the mean of the share of
matching characters in either word and of the share of those matches that are in
the same order.
-/

namespace SetScript.Similarity

/-- Find the first unused place of a character within a window, and mark it as
used. -/
def markFirst? (c : Char) (low high : Nat) : Nat → List (Char × Bool) → Option (List (Char × Bool))
  | _, [] => none
  | index, (d, used) :: rest =>
      if low ≤ index ∧ index < high ∧ c = d ∧ !used then
        some ((d, true) :: rest)
      else
        (markFirst? c low high (index + 1) rest).map ((d, used) :: ·)

/-- The characters of a word that match a second word, and the second word with
the matched characters marked. -/
def matching (window : Nat) : Nat → List Char → List (Char × Bool) →
    List Char × List (Char × Bool)
  | _, [], second => ([], second)
  | index, c :: rest, second =>
      match markFirst? c (index - window) (index + window + 1) 0 second with
      | none => matching window (index + 1) rest second
      | some marked =>
          let more := matching window (index + 1) rest marked
          (c :: more.1, more.2)

/-- The similarity of two words. -/
def jaro (first second : String) : Float :=
  let first := first.toList
  let second := second.toList
  if first.isEmpty && second.isEmpty then 1.0
  else
    let window := max first.length second.length / 2 - 1
    let (inFirst, marked) := matching window 0 first (second.map fun c => (c, false))
    let inSecond := (marked.filter Prod.snd).map Prod.fst
    let common := inFirst.length
    if common = 0 then 0.0
    else
      let outOfOrder := (inFirst.zip inSecond).countP fun pair => pair.1 != pair.2
      let share (part whole : Nat) : Float := part.toFloat / whole.toFloat
      (share common first.length + share common second.length +
        share (common - outOfOrder / 2) common) / 3.0

/-- The candidate that is most similar to a word, if any is similar enough; of
several the last. -/
def closest? (word : String) (candidates : List String) : Option String :=
  let scored := (candidates.map fun candidate => (candidate, jaro word candidate)).filter
    fun pair => pair.2 > 0.7
  (scored.foldl
    (fun best pair =>
      match best with
      | none => some pair
      | some other => if pair.2 ≥ other.2 then some pair else some other)
    none).map Prod.fst

end SetScript.Similarity
