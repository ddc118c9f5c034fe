import SetScript.Text.Position
import SetScript.Toml.Value

/-!
# Excerpts

A message about a part of a document comes with the line that the part starts on,
and with carets below the part.  The column counts characters; the carets count
bytes, at least one, and go no further than the length of the line.
-/

namespace SetScript.Toml

open Text

/-- A given number of spaces. -/
def spaces (count : Nat) : String :=
  String.ofList (List.replicate count ' ')

/-- A message below the line it is about. -/
def excerpt (text : String) (extent : Extent) (message : String) : String :=
  let content := text.toList
  let before := ((splitAtByte? extent.start content).map Prod.fst).getD content
  let row := before.count '\n'
  let column := (before.reverse.takeWhile (· != '\n')).length
  let line := (line? row content).getD []
  let number := toString (row + 1)
  let margin := spaces (number.length + 1) ++ "|"
  let carets := max 1 (min (extent.stop - extent.start) (utf8Length line - column))
  "TOML parse error at line " ++ number ++ ", column " ++ toString (column + 1) ++ "\n" ++
    margin ++ "\n" ++
    number ++ " | " ++ String.ofList line ++ "\n" ++
    margin ++ spaces (column + 1) ++ String.ofList (List.replicate carets '^') ++ "\n" ++
    message ++ "\n"

end SetScript.Toml
