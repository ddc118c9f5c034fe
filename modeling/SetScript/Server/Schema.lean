import SetScript.Config.Formats
import SetScript.Uri.Basic

/-!
# Schemas of parameters

What the parameters of a message have to look like, and the complaint about those
that do not.  The first problem is reported: the fields of a record are looked at
in ascending order of their names, and fields that are missing are noticed last,
in the order in which they are declared.
-/

namespace SetScript

/-- What a JSON value has to look like. -/
inductive Schema
  /-- Anything; a field like this may be missing. -/
  | any
  | bool
  | string
  /-- The identifier of a resource. -/
  | uri
  /-- A natural number of 32 bits. -/
  | unsigned
  /-- An integer of 32 bits. -/
  | signed
  /-- A number of single precision. -/
  | single
  /-- One of some words: a string, or an object with the word as its only key and
  null as its value. -/
  | choice (options : List String)
  /-- A given word, or its place in the order of words. -/
  | label (word : String) (place : Nat)
  /-- Null, or what another schema says; a field like this may be missing. -/
  | optional (inner : Schema)
  /-- What another schema says; a field like this may be missing, also at the end
  of an array. -/
  | defaulted (inner : Schema)
  /-- A truth value, or what another schema says. -/
  | switchable (inner : Schema)
  | list (inner : Schema)
  /-- An array of a fixed length. -/
  | tuple (items : List Schema)
  /-- An object with keys of one kind and values of one kind; `expected` names it. -/
  | dictionary (expected : String) (key value : Schema)
  /-- A record, given as an object or as an array of its fields in order. -/
  | record (name : String) (fields : List (String × Schema))
  /-- The fields of several records in one object.  The fields of the record
  itself are looked at before those of its parts. -/
  | merged (name : String) (own : List (String × Schema)) (parts : List Schema)
  /-- The fields of a record and any number of further fields in one object. -/
  | extensible (name : String) (own : List (String × Schema)) (further : Schema)
  /-- What one of several schemas says. -/
  | either (name : String) (options : List Schema)

/-- Why a value is refused. -/
inductive Complaint
  | missingParams
  | missingField (name : String)
  | wrongType (found expected : String)
  | wrongValue (found expected : String)
  | wrongLength (length : Nat) (expected : String)
  | noVariant (name : String)
  | unknownVariant (found : String) (options : List String)
  | badUri (text : String) (problem : Uri.Problem)
  | unexpectedParams (found : String)
deriving DecidableEq

namespace Complaint

def message : Complaint → String
  | missingParams => "Missing params field"
  | missingField name => "missing field `" ++ name ++ "`"
  | wrongType found expected => "invalid type: " ++ found ++ ", expected " ++ expected
  | wrongValue found expected => "invalid value: " ++ found ++ ", expected " ++ expected
  | wrongLength length expected =>
      "invalid length " ++ toString length ++ ", expected " ++ expected
  | noVariant name => "data did not match any variant of untagged enum " ++ name
  | unknownVariant found options =>
      "unknown variant `" ++ found ++ "`, expected " ++ DecodeCause.listFields options
  | badUri text problem => problem.message ++ ": " ++ Text.quote text
  | unexpectedParams found => "Unexpected params: " ++ found

end Complaint

namespace Schema

/-- Whether a field with this schema may be missing. -/
def isOptional : Schema → Bool
  | any => true
  | optional _ => true
  | defaulted _ => true
  | _ => false

/-- Whether a field with this schema may be missing at the end of an array. -/
def hasDefault : Schema → Bool
  | defaulted _ => true
  | _ => false

/-- The complaint about a value of the wrong type. -/
def mismatch (value : Json) (expected : String) : Option Complaint :=
  some (.wrongType value.view.describe expected)

/-- A count of elements in words. -/
def elements (count : Nat) : String :=
  toString count ++ (if count = 1 then " element" else " elements")

/-- The problem of an integer that does not fit. -/
def integerProblem? (fits : Int → Bool) (name : String) (value : Json) : Option Complaint :=
  match value with
  | .integer n =>
      if fits n then none else some (.wrongValue (View.describeInteger n) name)
  | _ => mismatch value name

/-- Named things in ascending order of their names. -/
def inOrder {α : Type} (named : List (String × α)) : List (String × α) :=
  named.mergeSort fun first second => first.1 ≤ second.1

/-- The complaint of the field that comes first by name. -/
def firstByName (problems : List (String × Complaint)) : Option Complaint :=
  (inOrder problems).head?.map Prod.snd

/-- The complaint about the first field that is missing. -/
def missingField? (fields : List (String × Schema)) (members : List (String × Json)) :
    Option Complaint :=
  (fields.find? fun field => !field.2.isOptional && (members.lookup field.1).isNone).map
    fun field => .missingField field.1

/-- The problem of the value that goes with a chosen word. -/
def unitProblem? (buffered : Bool) (value : Json) : Option Complaint :=
  match value with
  | .null => none
  | .object [] => if buffered then none else mismatch value "unit"
  | _ => mismatch value "unit"

/-- The problem of a choice. -/
def choiceProblem? (buffered : Bool) (options : List String) (value : Json) : Option Complaint :=
  let wordProblem? (word : String) : Option Complaint :=
    if options.contains word then none else some (.unknownVariant word options)
  match value with
  | .string word => wordProblem? word
  | .object [(word, inner)] => (wordProblem? word).or (unitProblem? buffered inner)
  | .object _ => some (.wrongValue value.view.describe "map with a single key")
  | _ => mismatch value "string or map"

/-- The problem of a label. -/
def labelProblem? (word : String) (place : Nat) (value : Json) : Option Complaint :=
  match value with
  | .string found => if found = word then none else some (.unknownVariant found [word])
  | .integer n =>
      if n = place then none else some (.wrongValue (View.describeInteger n) word)
  | _ => mismatch value "variant identifier"

/-- The problem of the identifier of a resource. -/
def uriProblem? (value : Json) : Option Complaint :=
  match value with
  | .string text =>
      match Uri.parse text with
      | .ok _ => none
      | .error problem => some (.badUri text problem)
  | _ => mismatch value "a string representing an URL"

mutual

/-- The first problem of a value.  Inside of merged records the values are
buffered, which shows in the complaint about long arrays. -/
def problem? (buffered : Bool) : Schema → Json → Option Complaint
  | any, _ => none
  | bool, value =>
      match value with
      | .bool _ => none
      | _ => mismatch value "a boolean"
  | string, value =>
      match value with
      | .string _ => none
      | _ => mismatch value "a string"
  | uri, value => uriProblem? value
  | unsigned, value => integerProblem? (Numeric.fitsUnsigned 32) "u32" value
  | signed, value => integerProblem? (Numeric.fitsSigned 32) "i32" value
  | single, value =>
      match value with
      | .integer _ | .double _ => none
      | _ => mismatch value "f32"
  | choice options, value => choiceProblem? buffered options value
  | label word place, value => labelProblem? word place value
  | optional inner, value =>
      match value with
      | .null => none
      | value => problem? buffered inner value
  | defaulted inner, value => problem? buffered inner value
  | switchable inner, value =>
      match value with
      | .bool _ => none
      | value => problem? buffered inner value
  | list inner, value =>
      match value with
      | .array items => items.findSome? fun item => problem? buffered inner item
      | _ => mismatch value "a sequence"
  | tuple schemas, value =>
      match value with
      | .array items =>
          tupleProblem? buffered ("a tuple of size " ++ toString schemas.length) schemas items 0
      | _ => mismatch value ("a tuple of size " ++ toString schemas.length)
  | dictionary expected key inner, value =>
      match value with
      | .object members =>
          (inOrder members).findSome? fun member =>
            (problem? buffered key (.string member.1)).or (problem? buffered inner member.2)
      | _ => mismatch value expected
  | record name fields, value =>
      match value with
      | .object members =>
          (firstByName (fieldProblems buffered fields members)).or (missingField? fields members)
      | .array items =>
          itemProblem? buffered
            ("struct " ++ name ++ " with " ++ elements fields.length)
            (if buffered then elements fields.length ++ " in sequence"
              else "fewer elements in array")
            fields items 0
      | _ => mismatch value ("struct " ++ name)
  | merged name own parts, value =>
      match value with
      | .object members =>
          (firstByName (fieldProblems buffered own members)).or <|
            (missingField? own members).or (partProblem? parts (.object members))
      | _ => mismatch value ("struct " ++ name)
  | extensible name own further, value =>
      match value with
      | .object members =>
          (firstByName (fieldProblems buffered own members)).or <|
            (missingField? own members).or <|
              members.findSome? fun member =>
                if own.any (·.1 = member.1) then none else problem? true further member.2
      | _ => mismatch value ("struct " ++ name)
  | either name options, value =>
      if fitsSome options value then none else some (.noVariant name)

/-- The problems of the fields that are present. -/
def fieldProblems (buffered : Bool) :
    List (String × Schema) → List (String × Json) → List (String × Complaint)
  | [], _ => []
  | (name, schema) :: rest, members =>
      let here := (members.lookup name).bind fun value => problem? buffered schema value
      (here.map fun complaint => (name, complaint)).toList ++ fieldProblems buffered rest members

/-- The first problem of the fields of a record given as an array; `short` and
`long` say what is expected of arrays that are too short or too long. -/
def itemProblem? (buffered : Bool) (short long : String) :
    List (String × Schema) → List Json → Nat → Option Complaint
  | [], items, index =>
      if items.isEmpty then none else some (.wrongLength (index + items.length) long)
  | (_, schema) :: rest, items, index =>
      match items with
      | [] =>
          if schema.hasDefault then itemProblem? buffered short long rest [] (index + 1)
          else some (.wrongLength index short)
      | item :: items =>
          (problem? buffered schema item).or
            (itemProblem? buffered short long rest items (index + 1))

/-- The first problem of the items of an array of a fixed length. -/
def tupleProblem? (buffered : Bool) (expected : String) :
    List Schema → List Json → Nat → Option Complaint
  | [], items, index =>
      if items.isEmpty then none else some (.wrongLength (index + items.length) expected)
  | schema :: schemas, items, index =>
      match items with
      | [] => some (.wrongLength index expected)
      | item :: items =>
          (problem? buffered schema item).or
            (tupleProblem? buffered expected schemas items (index + 1))

/-- The first problem of the parts of a merged record. -/
def partProblem? : List Schema → Json → Option Complaint
  | [], _ => none
  | schema :: rest, value => (problem? true schema value).or (partProblem? rest value)

/-- Whether a value is what one of several schemas says. -/
def fitsSome : List Schema → Json → Bool
  | [], _ => false
  | schema :: rest, value => (problem? true schema value).isNone || fitsSome rest value

end

/-- Whether a value is what a schema says. -/
def accepts (schema : Schema) (value : Json) : Bool :=
  (schema.problem? false value).isNone

end Schema

end SetScript
