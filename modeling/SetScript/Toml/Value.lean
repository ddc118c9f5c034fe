import SetScript.Toml.Symbol

/-!
# Values of TOML documents

Values and keys remember where they stand.  A table remembers how it came about,
because that decides what may still be added to it:

* an inline table is complete;
* a table with a header of its own takes keys from below that header only, and
  the header may not come again;
* a table that only occurs inside a longer header is open for its own header and
  for dotted keys;
* a table that only occurs inside a dotted key is open for further dotted keys.

An array of tables grows by headers in double brackets; all other arrays are
complete.  Paths go through the last table of an array.
-/

namespace SetScript.Toml

/-- A key and where it stands. -/
structure Key where
  name : String
  extent : Extent

/-- How a table came about. -/
inductive Origin
  /-- It is written between braces. -/
  | inline
  /-- It has a header of its own, or is the document. -/
  | header
  /-- It is named inside a longer header. -/
  | implied
  /-- It is named inside a dotted key. -/
  | dotted
deriving DecidableEq

/-- A value and where it stands. -/
inductive Value
  | scalar (extent : Extent) (scalar : Scalar)
  | array (extent : Extent) (items : List Value)
  | tables (extent : Extent) (elements : List Value)
  | table (extent : Extent) (origin : Origin) (entries : List (Key × Value))

namespace Value

def extent : Value → Extent
  | scalar extent _ => extent
  | array extent _ => extent
  | tables extent _ => extent
  | table extent _ _ => extent

/-- The document before anything is read. -/
def emptyDocument : Value :=
  table ⟨0, 0⟩ .header []

/-- The value of a key. -/
def lookup? (name : String) (entries : List (Key × Value)) : Option Value :=
  (entries.find? fun entry => entry.1.name == name).map Prod.snd

/-- Replace the value of a key, and where the key stands. -/
def replace (key : Key) (value : Value) (entries : List (Key × Value)) : List (Key × Value) :=
  entries.map fun entry => if entry.1.name == key.name then (key, value) else entry

/-- Replace the value of a key only. -/
def replaceValue (name : String) (value : Value) (entries : List (Key × Value)) :
    List (Key × Value) :=
  entries.map fun entry => if entry.1.name == name then (entry.1, value) else entry

/-- Change the table at the end of a path, creating the tables on the way that
are missing.  `origin` says what kind of path it is: a dotted key passes only
through tables that have no header of their own. -/
def modifyAt? (origin : Origin) (change : Value → Option Value) :
    List Key → Value → Option Value
  | [], value => change value
  | key :: path, table extent own entries =>
      match lookup? key.name entries with
      | none =>
          (modifyAt? origin change path (table key.extent origin [])).map fun inner =>
            table extent own (entries ++ [(key, inner)])
      | some (table innerExtent innerOrigin innerEntries) =>
          if innerOrigin = .inline ∨ (origin = .dotted ∧ innerOrigin = .header) then none
          else
            (modifyAt? origin change path (table innerExtent innerOrigin innerEntries)).map
              fun inner => table extent own (replaceValue key.name inner entries)
      | some (tables innerExtent elements) =>
          elements.getLast?.bind fun last =>
            (modifyAt? origin change path last).map fun inner =>
              table extent own
                (replaceValue key.name (tables innerExtent (elements.dropLast ++ [inner])) entries)
      | some _ => none
  | _ :: _, _ => none

/-- Give a key of a table its value.  The key must be new, and a dotted key may
not end in a table with a header of its own. -/
def insert? (target : Value) (path : List Key) (key : Key) (value : Value) : Option Value :=
  let change : Value → Option Value
    | table extent origin entries =>
        if (origin = .header ∧ !path.isEmpty) ∨ (lookup? key.name entries).isSome then none
        else some (table extent origin (entries ++ [(key, value)]))
    | _ => none
  modifyAt? .dotted change path target

/-- Open the table of a header. -/
def openTable? (document : Value) (path : List Key) (key : Key) (header : Extent) :
    Option Value :=
  let change : Value → Option Value
    | table extent origin entries =>
        match lookup? key.name entries with
        | none => some (table extent origin (entries ++ [(key, table header .header [])]))
        | some (table _ .implied inner) =>
            some (table extent origin (replace key (table header .header inner) entries))
        | some _ => none
    | _ => none
  modifyAt? .implied change path document

/-- Open one more table of the array of a header in double brackets. -/
def openElement? (document : Value) (path : List Key) (key : Key) (header : Extent) :
    Option Value :=
  let element := table header .header []
  let change : Value → Option Value
    | table extent origin entries =>
        match lookup? key.name entries with
        | none => some (table extent origin (entries ++ [(key, tables header [element])]))
        | some (tables inner elements) =>
            some (table extent origin
              (replaceValue key.name (tables inner (elements ++ [element])) entries))
        | some _ => none
    | _ => none
  modifyAt? .implied change path document

end Value

end SetScript.Toml
