import SetScript.Toml.Value

/-!
# Reading TOML texts

A document is a sequence of lines.  A line gives a key its value, opens a table
or one more table of an array, or is empty.  Arrays and inline tables may span
lines and may end with a comma; only the parts of a key stay on one line.  A text
that breaks a rule is no document.
-/

namespace SetScript.Toml

/-- The deepest nesting of arrays and inline tables. -/
def maxNesting : Nat :=
  80

/-- Something read from the front of a list of symbols, and the symbols after
it. -/
structure Reading (α : Type) (symbols : List Placed) where
  value : α
  rest : List Placed
  rest_lt : rest.length < symbols.length

/-- The largest number of parts of a key. -/
def maxKeyParts : Nat :=
  80

def isNewline : Placed → Bool
  | ⟨.newline, _, _⟩ => true
  | _ => false

/-- The symbols after some line ends. -/
def skipLines (symbols : List Placed) : List Placed :=
  symbols.dropWhile isNewline

theorem length_skipLines_le (symbols : List Placed) :
    (skipLines symbols).length ≤ symbols.length :=
  (List.dropWhile_sublist _).length_le

/-- One part of a key. -/
def key? (placed : Placed) : Option Key :=
  match placed.symbol with
  | .piece text =>
      if text.all isBareKeyChar then some ⟨String.ofList text, placed.extent⟩ else none
  | .quoted false text => some ⟨text, placed.extent⟩
  | _ => none

/-- Read the parts of a key, which dots divide.  The parts before the last one are
the path. -/
def readKeyParts? : (symbols : List Placed) → Option (Reading (List Key × Key) symbols)
  | [] => none
  | first :: symbols =>
      (key? first).bind fun key =>
        match symbols with
        | ⟨.dot, _, _⟩ :: more =>
            (readKeyParts? more).map fun reading =>
              ⟨(key :: reading.value.1, reading.value.2), reading.rest, by
                have := reading.rest_lt
                simp only [List.length_cons]
                omega⟩
        | after => some ⟨([], key), after, by simp⟩

/-- Read a key that has not too many parts. -/
def readKey? (symbols : List Placed) : Option (Reading (List Key × Key) symbols) :=
  (readKeyParts? symbols).filter fun reading => reading.value.1.length < maxKeyParts

/-- Whether a symbol goes on with the word before it. -/
def continuesWord (placed : Placed) : Bool :=
  placed.gap.isEmpty &&
    match placed.symbol with
    | .piece _ | .dot => true
    | _ => false

/-- The text of the symbols of a word. -/
def wordText (symbols : List Placed) : List Char :=
  symbols.flatMap fun placed =>
    match placed.symbol with
    | .piece text => text
    | .dot => ['.']
    | _ => []

/-- Whether a symbol starts the time of day after a date and a space. -/
def startsTime (placed : Placed) : Bool :=
  placed.gap == [' '] &&
    match placed.symbol with
    | .piece text => text.head?.any Char.isDigit
    | _ => false

/-- Read a word: adjacent pieces and dots, and after a date a space and the time
of day. -/
def readWord? : (symbols : List Placed) → Option (Reading Value symbols)
  | [] => none
  | first :: symbols =>
      let count := (symbols.takeWhile continuesWord).length
      let dateOrWord := wordText (first :: symbols.take count)
      let timeCount :=
        match symbols.drop count with
        | next :: more =>
            if isDate dateOrWord && startsTime next then
              1 + (more.takeWhile continuesWord).length
            else
              0
        | [] => 0
      let time := (symbols.drop count).take timeCount
      let word := if timeCount = 0 then dateOrWord else dateOrWord ++ ' ' :: wordText time
      let last := ((symbols.take (count + timeCount)).getLast?).getD first
      (Scalar.ofWord? word).map fun scalar =>
        let extent : Extent := ⟨first.extent.start, last.extent.stop⟩
        ⟨.scalar extent scalar, symbols.drop (count + timeCount), by
          simp only [List.length_drop, List.length_cons]
          omega⟩

mutual

/-- Read a value inside the given number of containers. -/
def readValue? (depth : Nat) (symbols : List Placed) : Option (Reading Value symbols) :=
  match symbols with
  | [] => none
  | first :: rest =>
      match first.symbol with
      | .quoted _ text => some ⟨.scalar first.extent (.string text), rest, by simp⟩
      | .openBracket =>
          if depth < maxNesting then
            (readItems? (depth + 1) rest).map fun items =>
              ⟨.array ⟨first.extent.start, items.value.2⟩ items.value.1, items.rest, by
                have := items.rest_lt
                simp only [List.length_cons]
                omega⟩
          else
            none
      | .openBrace =>
          if depth < maxNesting then
            (readEntries? (depth + 1) (.table ⟨0, 0⟩ .inline []) rest).bind fun entries =>
              match entries.value with
              | (.table _ origin inner, stop) =>
                  some ⟨.table ⟨first.extent.start, stop⟩ origin inner, entries.rest, by
                    have := entries.rest_lt
                    simp only [List.length_cons]
                    omega⟩
              | _ => none
          else
            none
      | .piece _ =>
          (readWord? (first :: rest)).map fun word => ⟨word.value, word.rest, word.rest_lt⟩
      | _ => none
termination_by 2 * symbols.length

/-- Read the items of an array up to its closing bracket, and where that ends. -/
def readItems? (depth : Nat) (symbols : List Placed) :
    Option (Reading (List Value × Nat) symbols) :=
  have skipped : (skipLines symbols).length ≤ symbols.length := length_skipLines_le symbols
  match inner : skipLines symbols with
  | ⟨.closeBracket, extent, _⟩ :: rest =>
      some ⟨([], extent.stop), rest, by
        simp only [inner, List.length_cons] at skipped
        omega⟩
  | _ =>
      match readValue? depth (skipLines symbols) with
      | none => none
      | some item =>
          have later : (skipLines item.rest).length < symbols.length :=
            Nat.lt_of_le_of_lt (length_skipLines_le _) (Nat.lt_of_lt_of_le item.rest_lt skipped)
          match after : skipLines item.rest with
          | ⟨.comma, _, _⟩ :: more =>
              have shorter : more.length < symbols.length := by
                simp only [after, List.length_cons] at later
                omega
              (readItems? depth more).map fun items =>
                ⟨(item.value :: items.value.1, items.value.2), items.rest,
                  Nat.lt_trans items.rest_lt shorter⟩
          | ⟨.closeBracket, extent, _⟩ :: more =>
              some ⟨([item.value], extent.stop), more, by
                simp only [after, List.length_cons] at later
                omega⟩
          | _ => none
termination_by 2 * symbols.length + 1

/-- Read the entries of an inline table up to its closing brace, and where that
ends. -/
def readEntries? (depth : Nat) (table : Value) (symbols : List Placed) :
    Option (Reading (Value × Nat) symbols) :=
  have skipped : (skipLines symbols).length ≤ symbols.length := length_skipLines_le symbols
  match inner : skipLines symbols with
  | ⟨.closeBrace, extent, _⟩ :: rest =>
      some ⟨(table, extent.stop), rest, by
        simp only [inner, List.length_cons] at skipped
        omega⟩
  | _ =>
      match readKey? (skipLines symbols) with
      | none => none
      | some ⟨(path, key), afterKey, keyShorter⟩ =>
          have keyLines : (skipLines afterKey).length ≤ afterKey.length :=
            length_skipLines_le afterKey
          match mark : skipLines afterKey with
          | ⟨.equals, _, _⟩ :: afterMark =>
              have valueShorter : (skipLines afterMark).length < symbols.length := by
                have := length_skipLines_le afterMark
                simp only [mark, List.length_cons] at keyLines
                omega
              match readValue? depth (skipLines afterMark) with
              | none => none
              | some item =>
                  match table.insert? path key item.value with
                  | none => none
                  | some extended =>
                      have later : (skipLines item.rest).length < symbols.length :=
                        Nat.lt_of_le_of_lt (length_skipLines_le _)
                          (Nat.lt_trans item.rest_lt valueShorter)
                      match after : skipLines item.rest with
                      | ⟨.comma, _, _⟩ :: more =>
                          have shorter : more.length < symbols.length := by
                            simp only [after, List.length_cons] at later
                            omega
                          (readEntries? depth extended more).map fun entries =>
                            ⟨entries.value, entries.rest, Nat.lt_trans entries.rest_lt shorter⟩
                      | ⟨.closeBrace, extent, _⟩ :: more =>
                          some ⟨(extended, extent.stop), more, by
                            simp only [after, List.length_cons] at later
                            omega⟩
                      | _ => none
          | _ => none
termination_by 2 * symbols.length + 1

end

/-- A document that is being read, and the header that the next keys belong to. -/
structure Draft where
  root : Value
  header : List Key

/-- The symbols after the end of a line. -/
def afterLine? : List Placed → Option (List Placed)
  | [] => some []
  | ⟨.newline, _, _⟩ :: rest => some rest
  | _ => none

theorem length_afterLine?_le {symbols rest : List Placed} (found : afterLine? symbols = some rest) :
    rest.length ≤ symbols.length := by
  unfold afterLine? at found
  split at found
  · simp_all
  · cases found
    exact Nat.le_succ _
  · simp at found

/-- Read a header between single or double brackets, after its first bracket. -/
def readHeader? (draft : Draft) (start : Nat) (symbols : List Placed) :
    Option (Reading Draft symbols) :=
  match symbols with
  | ⟨.openBracket, _, []⟩ :: inner =>
      match readKey? inner with
      | some ⟨(path, key), ⟨.closeBracket, _, _⟩ :: ⟨.closeBracket, last, []⟩ :: rest, shorter⟩ =>
          (draft.root.openElement? path key ⟨start, last.stop⟩).map fun root =>
            ⟨⟨root, path ++ [key]⟩, rest, by
              simp only [List.length_cons] at shorter ⊢
              omega⟩
      | _ => none
  | inner =>
      match readKey? inner with
      | some ⟨(path, key), ⟨.closeBracket, extent, _⟩ :: rest, shorter⟩ =>
          (draft.root.openTable? path key ⟨start, extent.stop⟩).map fun root =>
            ⟨⟨root, path ++ [key]⟩, rest, Nat.lt_of_succ_lt shorter⟩
      | _ => none

/-- Read a key and its value. -/
def readEntry? (draft : Draft) (symbols : List Placed) : Option (Reading Draft symbols) :=
  match readKey? symbols with
  | some ⟨(path, key), ⟨.equals, _, _⟩ :: afterKey, keyShorter⟩ =>
      match readValue? 0 afterKey with
      | none => none
      | some item =>
          (draft.root.modifyAt? .implied (·.insert? path key item.value) draft.header).map
            fun root =>
              ⟨⟨root, draft.header⟩, item.rest, by
                have := item.rest_lt
                simp only [List.length_cons] at keyShorter
                omega⟩
  | _ => none

/-- Read the lines of a document. -/
def readLines? (draft : Draft) (symbols : List Placed) : Option Value :=
  match symbols with
  | [] => some draft.root
  | first :: rest =>
      match first.symbol with
      | .newline => readLines? draft rest
      | .openBracket =>
          match readHeader? draft first.extent.start rest with
          | none => none
          | some reading =>
              match found : afterLine? reading.rest with
              | none => none
              | some more =>
                  have : more.length < rest.length :=
                    Nat.lt_of_le_of_lt (length_afterLine?_le found) reading.rest_lt
                  readLines? reading.value more
      | _ =>
          match readEntry? draft (first :: rest) with
          | none => none
          | some reading =>
              match found : afterLine? reading.rest with
              | none => none
              | some more =>
                  have : more.length < (first :: rest).length :=
                    Nat.lt_of_le_of_lt (length_afterLine?_le found) reading.rest_lt
                  readLines? reading.value more
termination_by symbols.length
decreasing_by
  all_goals simp_all
  all_goals omega

/-- The document that a text is, if it is one. -/
def parse? (text : String) : Option Value :=
  (symbols? text.toList).bind (readLines? ⟨.emptyDocument, []⟩)

end SetScript.Toml
