import SetScript.Json.Basic
import SetScript.Text.Quoted

/-!
# Writing JSON texts

Values are written without blanks.  Quotes, backslashes and control characters
are escaped; all other characters stand for themselves.
-/

namespace SetScript.Json

/-- A number in hexadecimal with at least four digits. -/
def hexUnit (n : Nat) : List Char :=
  let digits := Text.hexadecimal n
  List.replicate (4 - digits.length) '0' ++ digits

/-- The escape of one character inside a string. -/
def escapeChar (c : Char) : List Char :=
  if c = '\x22' then ['\\', '\x22']
  else if c = '\\' then ['\\', '\\']
  else if c = '\x08' then ['\\', 'b']
  else if c = '\x0c' then ['\\', 'f']
  else if c = '\n' then ['\\', 'n']
  else if c = '\r' then ['\\', 'r']
  else if c = '\t' then ['\\', 't']
  else if c.toNat < 32 then ['\\', 'u'] ++ hexUnit c.toNat
  else [c]

/-- A string in quotes. -/
def renderString (text : String) : String :=
  "\"" ++ String.ofList (text.toList.flatMap escapeChar) ++ "\""

mutual

/-- The text of a value. -/
def render : Json → String
  | .null => "null"
  | .bool value => if value then "true" else "false"
  | .integer value => toString value
  | .double value => if value.isFinite then value.render .compact else "null"
  | .string text => renderString text
  | .array items => "[" ++ renderItems items ++ "]"
  | .object fields => "\x7b" ++ renderFields fields ++ "\x7d"

/-- The texts of some items, divided by commas. -/
def renderItems : List Json → String
  | [] => ""
  | [item] => render item
  | item :: rest => render item ++ "," ++ renderItems rest

/-- The texts of some fields, divided by commas. -/
def renderFields : List (String × Json) → String
  | [] => ""
  | [(key, value)] => renderString key ++ ":" ++ render value
  | (key, value) :: rest =>
      renderString key ++ ":" ++ render value ++ "," ++ renderFields rest

end

end SetScript.Json
