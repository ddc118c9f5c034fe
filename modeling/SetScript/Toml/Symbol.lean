import SetScript.Text.Utf
import SetScript.Toml.Scalar

/-!
# Symbols of TOML texts

A text is cut into symbols with their extents in bytes.  Blanks and comments are
no symbols; a symbol knows the blanks in front of it, because two pieces of one
word must be adjacent.
-/

namespace SetScript.Toml

open Text Numeric

/-- A part of a text from one byte offset to another. -/
structure Extent where
  start : Nat
  stop : Nat
deriving DecidableEq

/-- The symbols of a text. -/
inductive Symbol
  | openBracket
  | closeBracket
  | openBrace
  | closeBrace
  | comma
  | equals
  | dot
  | newline
  /-- Adjacent characters that divide nothing, as in keys and words. -/
  | piece (text : List Char)
  /-- A quoted text; those in three quotes may span lines and are no keys. -/
  | quoted (multiline : Bool) (text : String)

/-- A symbol with its place. -/
structure Placed where
  symbol : Symbol
  extent : Extent
  /-- The blanks and comments right before the symbol. -/
  gap : List Char

/-- Whether a character is a control that may stand nowhere. -/
def isControl (c : Char) : Bool :=
  (c.toNat < 32 && c != '\t') || c.toNat == 127

/-- Whether a character may stand in a key without quotes. -/
def isBareKeyChar (c : Char) : Bool :=
  c.isAlphanum || c == '_' || c == '-'

/-- The characters that end a piece of a key or word. -/
def dividers : List Char :=
  ".=,[]\x7b\x7d \t#\r\n".toList

/-- Whether a character may stand in a piece of a key or word. -/
def isPieceChar (c : Char) : Bool :=
  !dividers.contains c

/-- The length of the line end at the front of a text; zero when there is none. -/
def lineEndLength : List Char → Nat
  | '\n' :: _ => 1
  | '\r' :: '\n' :: _ => 2
  | _ => 0

/-- The character with a code point given by hexadecimal digits. -/
def charOfHex? (length : Nat) (text : List Char) : Option Char :=
  ((fixedHex? length (text.take length)).filter fun code => code.isValidChar).map Char.ofNat

/-- The escapes by one letter. -/
def letterEscapes : List (Char × Char) :=
  [('b', '\x08'), ('t', '\t'), ('n', '\n'), ('f', '\x0c'), ('r', '\r'), ('e', '\x1b'),
   ('\x22', '\x22'), ('\\', '\\')]

/-- Read an escape after its backslash, with the count of its characters. -/
def escapeAt? (text : List Char) : Option (Char × Nat) :=
  match text with
  | [] => none
  | 'x' :: rest => (charOfHex? 2 rest).map fun c => (c, 3)
  | 'u' :: rest => (charOfHex? 4 rest).map fun c => (c, 5)
  | 'U' :: rest => (charOfHex? 8 rest).map fun c => (c, 9)
  | c :: _ => (letterEscapes.lookup c).map fun escaped => (escaped, 1)

/-- The number of blanks and line ends at the front of a text. -/
def blankLength : List Char → Nat
  | [] => 0
  | c :: rest =>
      if c = ' ' ∨ c = '\t' ∨ c = '\n' ∨ (c = '\r' ∧ rest.head? = some '\n') then
        1 + blankLength rest
      else
        0

/-- A backslash before blanks and a line end takes all following blanks and line
ends with it; their number, or zero. -/
def continuationLength (text : List Char) : Nat :=
  let blanks := (text.takeWhile fun c => c == ' ' || c == '\t').length
  if 0 < lineEndLength (text.drop blanks) then blankLength text else 0

/-- Read a quoted text after its opening quotes, with the count of its
characters.  Only double quotes know escapes.  Three closing quotes may follow
up to two quotes that belong to the text. -/
def quotedAt? (quote : Char) (multiline : Bool) : List Char → Option (List Char × Nat)
  | [] => none
  | c :: rest =>
      if c = quote then
        if multiline then
          let more := (rest.takeWhile (· == quote)).length
          if more < 2 then
            (quotedAt? quote multiline (rest.drop more)).map fun (text, count) =>
              (List.replicate (more + 1) quote ++ text, count + more + 1)
          else if more < 5 then
            some (List.replicate (more - 2) quote, more + 1)
          else
            none
        else
          some ([], 1)
      else if c = '\\' ∧ quote = '\x22' then
        let skipped := if multiline then continuationLength rest else 0
        if 0 < skipped then
          (quotedAt? quote multiline (rest.drop skipped)).map fun (text, count) =>
            (text, count + skipped + 1)
        else
          (escapeAt? rest).bind fun (escaped, length) =>
            (quotedAt? quote multiline (rest.drop length)).map fun (text, count) =>
              (escaped :: text, count + length + 1)
      else if isControl c && !(multiline && 0 < lineEndLength (c :: rest)) then
        none
      else
        (quotedAt? quote multiline rest).map fun (text, count) => (c :: text, count + 1)
termination_by text => text.length
decreasing_by
  all_goals simp only [List.length_drop, List.length_cons]
  all_goals omega

/-- Read a quoted text after its first quote. -/
def quotationAt? (quote : Char) (rest : List Char) : Option (Symbol × Nat) :=
  if rest.take 2 = [quote, quote] then
    let inner := rest.drop 2
    let skipped := lineEndLength inner
    (quotedAt? quote true (inner.drop skipped)).map fun (text, count) =>
      (.quoted true (String.ofList text), count + skipped + 2)
  else
    (quotedAt? quote false rest).map fun (text, count) =>
      (.quoted false (String.ofList text), count)

/-- Read the symbol that starts with a character, with the count of the
characters after the first. -/
def symbolAt? (c : Char) (rest : List Char) : Option (Symbol × Nat) :=
  match c with
  | '[' => some (.openBracket, 0)
  | ']' => some (.closeBracket, 0)
  | '\x7b' => some (.openBrace, 0)
  | '\x7d' => some (.closeBrace, 0)
  | ',' => some (.comma, 0)
  | '=' => some (.equals, 0)
  | '.' => some (.dot, 0)
  | '\x22' => quotationAt? c rest
  | '\x27' => quotationAt? c rest
  | _ =>
      let lineEnd := lineEndLength (c :: rest)
      if 0 < lineEnd then
        some (.newline, lineEnd - 1)
      else if isPieceChar c then
        let more := rest.takeWhile isPieceChar
        some (.piece (c :: more), more.length)
      else
        none

/-- Cut a text into symbols, given the byte offset of its first character and
the blanks in front of it.  A comment reaches up to the line end and counts as
blank. -/
def symbolsFrom? (offset : Nat) (gap : List Char) : List Char → Option (List Placed)
  | [] => some []
  | c :: rest =>
      if c = ' ' ∨ c = '\t' then
        symbolsFrom? (offset + 1) (gap ++ [c]) rest
      else if c = '#' then
        let comment := rest.takeWhile fun c => c != '\n' && c != '\r'
        if comment.any isControl then none
        else
          symbolsFrom? (offset + 1 + utf8Length comment) (gap ++ c :: comment)
            (rest.drop comment.length)
      else
        (symbolAt? c rest).bind fun (symbol, count) =>
          let stop := offset + utf8Length (c :: rest.take count)
          (symbolsFrom? stop [] (rest.drop count)).map (⟨symbol, ⟨offset, stop⟩, gap⟩ :: ·)
termination_by text => text.length
decreasing_by
  all_goals simp only [List.length_drop, List.length_cons]
  all_goals omega

/-- The symbols of a text.  A byte order mark at the start is no symbol. -/
def symbols? (text : List Char) : Option (List Placed) :=
  match text with
  | '\ufeff' :: rest => symbolsFrom? ('\ufeff').utf8Size [] rest
  | _ => symbolsFrom? 0 [] text

end SetScript.Toml
