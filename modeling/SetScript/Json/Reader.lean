import SetScript.Json.Number

/-!
# Reading JSON texts

A text is cut into symbols, and the symbols are read into a value.  Reading
consumes at least one symbol for every value, which is why it ends.
-/

namespace SetScript.Json

/-- A symbol of a JSON text. -/
inductive Symbol
  | openBrace
  | closeBrace
  | openBracket
  | closeBracket
  | colon
  | comma
  | string (text : String)
  | scalar (value : Json)

/-- The escapes by one letter. -/
def letterEscapes : List (Char × Char) :=
  [('\x22', '\x22'), ('\\', '\\'), ('/', '/'), ('b', '\x08'), ('f', '\x0c'),
   ('n', '\n'), ('r', '\r'), ('t', '\t')]

/-- Read an escape after its backslash, with the count of its characters.  Two
escaped units may make up one character. -/
def escapeAt? (text : List Char) : Option (Char × Nat) :=
  match text with
  | 'u' :: rest =>
      (Numeric.fixedHex? 4 (rest.take 4)).bind fun unit =>
        if 0xd800 ≤ unit ∧ unit < 0xdc00 then
          match rest.drop 4 with
          | '\\' :: 'u' :: more =>
              (Numeric.fixedHex? 4 (more.take 4)).bind fun low =>
                if 0xdc00 ≤ low ∧ low < 0xe000 then
                  some (Char.ofNat (0x10000 + (unit - 0xd800) * 0x400 + (low - 0xdc00)), 11)
                else
                  none
          | _ => none
        else if 0xdc00 ≤ unit ∧ unit < 0xe000 then
          none
        else
          some (Char.ofNat unit, 5)
  | c :: _ => (letterEscapes.lookup c).map fun escaped => (escaped, 1)
  | [] => none

/-- Read a string after its opening quote, with the count of its characters. -/
def stringAt? : List Char → Option (List Char × Nat)
  | [] => none
  | c :: rest =>
      if c = '\x22' then
        some ([], 1)
      else if c = '\\' then
        (escapeAt? rest).bind fun (escaped, length) =>
          (stringAt? (rest.drop length)).map fun (more, count) =>
            (escaped :: more, count + length + 1)
      else if c.toNat < 32 then
        none
      else
        (stringAt? rest).map fun (more, count) => (c :: more, count + 1)
termination_by text => text.length
decreasing_by
  · simp only [List.length_drop, List.length_cons]
    omega
  · simp

/-- The words that stand for values. -/
def wordAt? (text : List Char) : Option (Json × Nat) :=
  [("null", Json.null), ("true", .bool true), ("false", .bool false)].findSome?
    fun (word, value) =>
      if word.toList.isPrefixOf text then some (value, word.length) else none

/-- Read the symbol that starts with a character, with the count of the characters
after the first. -/
def symbolAt? (c : Char) (rest : List Char) : Option (Symbol × Nat) :=
  match c with
  | '\x7b' => some (.openBrace, 0)
  | '\x7d' => some (.closeBrace, 0)
  | '[' => some (.openBracket, 0)
  | ']' => some (.closeBracket, 0)
  | ':' => some (.colon, 0)
  | ',' => some (.comma, 0)
  | '\x22' => (stringAt? rest).map fun (text, count) => (.string (String.ofList text), count)
  | _ =>
      ((wordAt? (c :: rest)).or (numberAt? (c :: rest))).map fun (value, count) =>
        (.scalar value, count - 1)

/-- Cut a text into symbols. -/
def symbols? : List Char → Option (List Symbol)
  | [] => some []
  | c :: rest =>
      if c = ' ' || c = '\n' || c = '\r' || c = '\t' then
        symbols? rest
      else
        (symbolAt? c rest).bind fun (symbol, count) =>
          (symbols? (rest.drop count)).map (symbol :: ·)
termination_by text => text.length
decreasing_by
  · simp
  · simp only [List.length_drop, List.length_cons]
    omega

/-- Something read from the front of a list of symbols, and the symbols after it. -/
structure Reading (α : Type) (symbols : List Symbol) where
  value : α
  rest : List Symbol
  rest_lt : rest.length < symbols.length

mutual

/-- Read a value. -/
def readValue? (symbols : List Symbol) : Option (Reading Json symbols) :=
  match symbols with
  | .scalar value :: rest => some ⟨value, rest, by simp⟩
  | .string text :: rest => some ⟨.string text, rest, by simp⟩
  | .openBracket :: .closeBracket :: rest =>
      some ⟨.array [], rest, by simp only [List.length_cons]; omega⟩
  | .openBrace :: .closeBrace :: rest =>
      some ⟨.object [], rest, by simp only [List.length_cons]; omega⟩
  | .openBracket :: rest =>
      (readItems? rest).map fun items =>
        ⟨.array items.value, items.rest, Nat.lt_succ_of_lt items.rest_lt⟩
  | .openBrace :: rest =>
      (readFields? rest).map fun fields =>
        ⟨.ofFields fields.value, fields.rest, Nat.lt_succ_of_lt fields.rest_lt⟩
  | _ => none
termination_by (symbols.length, 0)

/-- Read the items of an array that has some, up to its closing bracket. -/
def readItems? (symbols : List Symbol) : Option (Reading (List Json) symbols) :=
  match readValue? symbols with
  | none => none
  | some ⟨item, .closeBracket :: rest, shorter⟩ =>
      some ⟨[item], rest, Nat.lt_of_succ_lt shorter⟩
  | some ⟨item, .comma :: rest, shorter⟩ =>
      have later : rest.length < symbols.length := Nat.lt_of_succ_lt shorter
      (readItems? rest).map fun items =>
        ⟨item :: items.value, items.rest, Nat.lt_trans items.rest_lt later⟩
  | some _ => none
termination_by (symbols.length, 1)

/-- Read the fields of an object that has some, up to its closing brace. -/
def readFields? (symbols : List Symbol) : Option (Reading (List (String × Json)) symbols) :=
  match symbols with
  | .string key :: .colon :: inner =>
      match readValue? inner with
      | none => none
      | some ⟨value, .closeBrace :: rest, shorter⟩ =>
          some ⟨[(key, value)], rest, by simp only [List.length_cons] at shorter ⊢; omega⟩
      | some ⟨value, .comma :: rest, shorter⟩ =>
          have later : rest.length < inner.length := Nat.lt_of_succ_lt shorter
          (readFields? rest).map fun fields =>
            ⟨(key, value) :: fields.value, fields.rest, by
              have := fields.rest_lt
              simp only [List.length_cons]
              omega⟩
      | some _ => none
  | _ => none
termination_by (symbols.length, 1)

end

/-- Read a text that holds one value and nothing else. -/
def parse? (text : String) : Option Json :=
  (symbols? text.toList).bind fun symbols =>
    match readValue? symbols with
    | some ⟨value, [], _⟩ => some value
    | _ => none

end SetScript.Json
