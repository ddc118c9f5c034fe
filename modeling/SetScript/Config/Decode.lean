import SetScript.Config.Basic
import SetScript.Text.Quoted

/-!
# Decoding settings

Settings come from two formats that agree on what they can hold.  A format shows
its values as `View`s; decoding looks at the views only, so both formats obey the
same rules:

* settings are a table of named fields, or an array of the fields in order;
* fields that are missing keep their defaults, and unknown fields are refused;
* the first problem is reported, where fields are taken in the order in which
  the view lists them.
-/

namespace SetScript

/-- What a value of type `V` looks like to the decoder; keys and values stand at
places of type `Place`. -/
inductive View (V Place : Type)
  | bool (value : Bool)
  /-- A value that no setting has, with its description. -/
  | other (description : String)
  /-- A value that has a proper form and still denotes nothing. -/
  | void
  | sequence (items : List V)
  /-- Fields with the places of their keys. -/
  | table (fields : List (String × Place × V))

namespace View

/-- How a value is named in messages. -/
def describe {V Place : Type} : View V Place → String
  | bool value => "boolean `" ++ toString value ++ "`"
  | other description => description
  | void => "nothing"
  | sequence _ => "sequence"
  | table _ => "map"

/-- The description of a string. -/
def describeString (text : String) : String :=
  "string " ++ Text.quote text

/-- The description of an integer. -/
def describeInteger (value : Int) : String :=
  "integer `" ++ toString value ++ "`"

/-- The description of a number with a fraction. -/
def describeDouble (text : String) : String :=
  "floating point `" ++ text ++ "`"

end View

/-- A format of settings. -/
structure Format (V Place : Type) where
  view : V → View V Place
  place : V → Place
  /-- Whether an array with more items than fields is refused. -/
  refusesLongArrays : Bool

/-- Why settings cannot be decoded. -/
inductive DecodeCause
  | unknownField (name : String) (known : List String)
  | wrongType (found expected : String)
  | tooLong (length : Nat)
  /-- The value denotes nothing. -/
  | void
deriving DecidableEq

namespace DecodeCause

/-- The names of known fields in a message. -/
def listFields : List String → String
  | [field] => "`" ++ field ++ "`"
  | [first, second] => "`" ++ first ++ "` or `" ++ second ++ "`"
  | fields => "one of " ++ ", ".intercalate (fields.map fun field => "`" ++ field ++ "`")

def message : DecodeCause → String
  | unknownField name known =>
      "unknown field `" ++ name ++ "`, expected " ++ listFields known
  | wrongType found expected => "invalid type: " ++ found ++ ", expected " ++ expected
  | tooLong length =>
      "invalid length " ++ toString length ++ ", expected fewer elements in array"
  | void => "the value denotes nothing"

end DecodeCause

/-- Why settings cannot be decoded, and where. -/
structure DecodeError (Place : Type) where
  cause : DecodeCause
  place : Place

namespace Format

variable {V Place : Type}

/-- The complaint about a value that is not of the expected type. -/
def mismatch (format : Format V Place) (value : V) (expected : String) : DecodeError Place :=
  match format.view value with
  | .void => ⟨.void, format.place value⟩
  | view => ⟨.wrongType view.describe expected, format.place value⟩

def decodeBool (format : Format V Place) (value : V) : Except (DecodeError Place) Bool :=
  match format.view value with
  | .bool value => .ok value
  | _ => .error (format.mismatch value "a boolean")

/-- A field of settings of type `σ`: its name, and how its value changes the
settings. -/
structure Field (V Place σ : Type) where
  name : String
  decode : σ → V → Except (DecodeError Place) σ

/-- Decode the fields of a table, one after another. -/
def decodeNamed {σ : Type} (known : List (Field V Place σ)) (settings : σ) :
    List (String × Place × V) → Except (DecodeError Place) σ
  | [] => .ok settings
  | (name, place, value) :: rest =>
      match known.find? (·.name == name) with
      | none => .error ⟨.unknownField name (known.map (·.name)), place⟩
      | some field =>
          match field.decode settings value with
          | .error problem => .error problem
          | .ok settings => decodeNamed known settings rest

/-- Decode the items of an array as the fields in order. -/
def decodeOrdered {σ : Type} (settings : σ) :
    List (Field V Place σ) → List V → Except (DecodeError Place) σ
  | field :: known, value :: rest =>
      match field.decode settings value with
      | .error problem => .error problem
      | .ok settings => decodeOrdered settings known rest
  | _, _ => .ok settings

/-- Decode settings with the given fields. -/
def decodeRecord {σ : Type} (format : Format V Place) (name : String)
    (known : List (Field V Place σ)) (defaults : σ) (value : V) : Except (DecodeError Place) σ :=
  match format.view value with
  | .table fields => decodeNamed known defaults fields
  | .sequence items =>
      match decodeOrdered defaults known items with
      | .error problem => .error problem
      | .ok settings =>
          if format.refusesLongArrays && known.length < items.length then
            .error ⟨.tooLong items.length, format.place value⟩
          else
            .ok settings
  | _ => .error (format.mismatch value ("struct " ++ name))

/-- A field that holds a truth value. -/
def switchField {σ : Type} (format : Format V Place) (name : String) (set : σ → Bool → σ) :
    Field V Place σ :=
  ⟨name, fun settings value => (format.decodeBool value).map (set settings)⟩

/-- The fields of the diagnostics settings. -/
def switchesFields (format : Format V Place) : List (Field V Place Switches) :=
  [format.switchField "enabled" fun switches value => { switches with enabled := value },
   format.switchField "unresolved_variables" fun switches value =>
    { switches with unresolvedVariables := value },
   format.switchField "syntax_errors" fun switches value =>
    { switches with syntaxErrors := value }]

def decodeSwitches (format : Format V Place) (value : V) : Except (DecodeError Place) Switches :=
  format.decodeRecord "DiagnosticsConfig" format.switchesFields {} value

/-- The fields of the settings. -/
def configFields (format : Format V Place) : List (Field V Place Config) :=
  [⟨"diagnostics", fun config value =>
    (format.decodeSwitches value).map fun switches => { config with diagnostics := switches }⟩]

/-- Decode the settings. -/
def decodeConfig (format : Format V Place) (value : V) : Except (DecodeError Place) Config :=
  format.decodeRecord "Config" format.configFields {} value

end Format

end SetScript
