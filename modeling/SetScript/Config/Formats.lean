import SetScript.Config.Decode
import SetScript.Json.Basic
import SetScript.Numeric.Width
import SetScript.Toml.Reader
import SetScript.Toml.Excerpt

/-!
# The formats of settings

How JSON values and TOML documents look to the decoder of settings, and what is
said when they are refused.
-/

namespace SetScript

/-- A JSON value as a source of settings.  It has no places. -/
def Json.view : Json → View Json Unit
  | .null => .other "null"
  | .bool value => .bool value
  | .integer value => .other (View.describeInteger value)
  | .double value => .other (View.describeDouble (value.render .compact))
  | .string text => .other (View.describeString text)
  | .array items => .sequence items
  | .object fields => .table (fields.map fun field => (field.1, (), field.2))

/-- Settings in JSON. -/
def Json.format : Format Json Unit :=
  { view := Json.view, place := fun _ => (), refusesLongArrays := true }

namespace Toml

open Numeric

/-- The field under which a date or time is handed to a decoder. -/
def momentField : String :=
  "$__toml_private_datetime"

/-- How an integer looks.  Those of more than 64 bits are named by their width,
and there are none of more than 128 bits. -/
def viewInteger (value : Int) : View Value Extent :=
  if fitsSigned 64 value || fitsUnsigned 64 value then .other (View.describeInteger value)
  else if fitsSigned 128 value then .other (View.describeInteger value ++ " as i128")
  else if fitsUnsigned 128 value then .other (View.describeInteger value ++ " as u128")
  else .void

/-- A value of a document as a source of settings.  Fields are taken in ascending
order of their names. -/
def Value.view : Value → View Value Extent
  | .scalar _ (.bool value) => .bool value
  | .scalar _ (.integer (some value)) => viewInteger value
  | .scalar _ (.integer none) => .void
  | .scalar _ (.double (some value)) => .other (View.describeDouble (value.render .plain))
  | .scalar _ (.double none) => .void
  | .scalar _ (.string text) => .other (View.describeString text)
  | .scalar extent .moment => .table [(momentField, extent, .scalar extent .moment)]
  | .array _ items => .sequence items
  | .tables _ elements => .sequence elements
  | .table _ _ entries =>
      .table ((entries.mergeSort fun first second => first.1.name ≤ second.1.name).map
        fun entry => (entry.1.name, entry.1.extent, entry.2))

/-- Settings in TOML. -/
def format : Format Value Extent :=
  { view := Value.view, place := Value.extent, refusesLongArrays := false }

end Toml

namespace Config

/-- Settings given as a JSON value, or why they are refused. -/
def decodeJson (value : Json) : Except String Config :=
  (Json.format.decodeConfig value).mapError fun problem => problem.cause.message

/-- What is said about a text that is no TOML document. -/
def malformedToml : String :=
  "<toml syntax error>"

/-- Settings given as a TOML text, or why they are refused.  A number that
denotes nothing is as bad as a text that is no document. -/
def decodeToml (text : String) : Except String Config :=
  match Toml.parse? text with
  | none => .error malformedToml
  | some document =>
      (Toml.format.decodeConfig document).mapError fun problem =>
        match problem.cause with
        | .void => malformedToml
        | cause => Toml.excerpt text problem.place cause.message

end Config

end SetScript
