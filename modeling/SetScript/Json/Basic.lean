import SetScript.Numeric.Shortest

/-!
# JSON values

Objects are lists of fields in ascending order of their keys, each key once;
`Json.object` keeps a given list as it is and `Json.ofFields` puts it in order.
Integers are those that fit into 64 bits, signed or unsigned; all other numbers
are doubles.
-/

namespace SetScript

/-- A JSON value. -/
inductive Json
  | null
  | bool (value : Bool)
  | integer (value : Int)
  | double (value : Numeric.Double)
  | string (value : String)
  | array (items : List Json)
  | object (fields : List (String × Json))

namespace Json

/-- Put a field into a list that is in order, replacing one with the same key. -/
def insertField (key : String) (value : Json) :
    List (String × Json) → List (String × Json)
  | [] => [(key, value)]
  | field :: rest =>
      if key < field.1 then (key, value) :: field :: rest
      else if key = field.1 then (key, value) :: rest
      else field :: insertField key value rest

/-- The object with the given fields; the last field with a key wins. -/
def ofFields (fields : List (String × Json)) : Json :=
  object (fields.foldl (fun sorted field => insertField field.1 field.2 sorted) [])

/-- The value of a field of an object. -/
def field? (key : String) : Json → Option Json
  | object fields => fields.lookup key
  | _ => none

/-- A natural number as a JSON value. -/
def ofNat (n : Nat) : Json :=
  integer (Int.ofNat n)

end Json

end SetScript
