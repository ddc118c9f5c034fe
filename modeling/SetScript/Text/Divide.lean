/-!
# Dividing text

A text is divided at some of its characters.  The parts between them may be
empty, and there is always one more part than there are dividing characters.
-/

namespace SetScript.Text

/-- The parts of a text between the characters that divide it. -/
def divide (isDivider : Char → Bool) : List Char → List (List Char)
  | [] => [[]]
  | c :: rest =>
      if isDivider c then
        [] :: divide isDivider rest
      else
        match divide isDivider rest with
        | [] => [[c]]
        | first :: others => (c :: first) :: others

end SetScript.Text
