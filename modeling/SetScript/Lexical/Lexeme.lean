import SetScript.Text.Blank
import SetScript.Text.Numeric

/-!
# Lexemes

A script is cut into lexemes: tokens, blanks and comments.  The cut is lossless,
so the texts of the lexemes spell out the script again.

The first character, with one character of lookahead, fixes the kind of a lexeme
(`kindAt`), and the kind fixes how many of the following characters belong to it
(`extent`).  Every function here looks at the text after the first character
only through its leading part, and no lexeme but a blank reaches over a line
feed.
-/

namespace SetScript

open Text

/-- The kinds of tokens. -/
inductive TokenKind
  | openParen
  | closeParen
  | comma
  | semicolon
  | string
  | number
  | identifier
  | unknown
deriving DecidableEq

/-- The kinds of lexemes.  Blanks and comments carry no meaning. -/
inductive LexemeKind
  | token (kind : TokenKind)
  | blank
  | comment
deriving DecidableEq

/-- A piece of a script with its kind. -/
structure Lexeme where
  kind : LexemeKind
  text : List Char
deriving DecidableEq

namespace Lexeme

/-- A comment starts with `#` or with two slashes. -/
def startsComment (c : Char) (rest : List Char) : Bool :=
  c == '#' || (c == '/' && rest.head? == some '/')

/-- A number starts with a digit, or with a minus sign right before a digit. -/
def startsNumber (c : Char) (rest : List Char) : Bool :=
  c.isDigit || (c == '-' && rest.head?.any Char.isDigit)

/-- An identifier starts with an alphabetic character or an underscore. -/
def startsIdentifier (c : Char) : Bool :=
  isAlphabetic c || c == '_'

/-- An identifier goes on with alphanumeric characters and underscores. -/
def continuesIdentifier (c : Char) : Bool :=
  isAlphanumeric c || c == '_'

/-- Single and double quotes delimit string literals. -/
def isQuote (c : Char) : Bool :=
  c == '\x22' || c == '\x27'

/-- The kind of the lexeme that starts with a character. -/
def kindAt (c : Char) (rest : List Char) : LexemeKind :=
  if isBlank c then .blank
  else if startsComment c rest then .comment
  else if c = '(' then .token .openParen
  else if c = ')' then .token .closeParen
  else if c = ',' then .token .comma
  else if c = ';' then .token .semicolon
  else if isQuote c then .token .string
  else if startsNumber c rest then .token .number
  else if startsIdentifier c then .token .identifier
  else .token .unknown

/-- The extent of a comment after its first character: up to the line feed. -/
def commentExtent (rest : List Char) : Nat :=
  (rest.takeWhile (· != '\n')).length

/-- The extent of a string literal after its opening quote.  A backslash takes
the next character with it.  A literal without closing quote stops before the
line feed, so a stray quote does not swallow the lines below it. -/
def stringExtent (quote : Char) : List Char → Nat
  | [] => 0
  | c :: rest =>
      if c = '\n' then 0
      else if c = quote then 1
      else if c = '\\' then
        match rest with
        | [] => 1
        | escaped :: rest =>
            if escaped = '\n' then 1 else 2 + stringExtent quote rest
      else 1 + stringExtent quote rest

/-- The extent of a number after its first character: digits, and a point with
more digits. -/
def numberExtent (rest : List Char) : Nat :=
  let whole := (rest.takeWhile Char.isDigit).length
  match rest.drop whole with
  | '.' :: more =>
      let fraction := (more.takeWhile Char.isDigit).length
      if fraction = 0 then whole else whole + 1 + fraction
  | _ => whole

/-- The extent of an identifier after its first character. -/
def identifierExtent (rest : List Char) : Nat :=
  (rest.takeWhile continuesIdentifier).length

/-- The characters that end a run of unknown characters: those that start
another lexeme, a minus sign before a digit excepted. -/
def endsUnknown (c : Char) (rest : List Char) : Bool :=
  isBlank c || c == '(' || c == ')' || c == ',' || c == ';' || isQuote c ||
    continuesIdentifier c || startsComment c rest

/-- The extent of a run of unknown characters after its first one. -/
def unknownExtent : List Char → Nat
  | [] => 0
  | c :: rest => if endsUnknown c rest then 0 else 1 + unknownExtent rest

/-- The number of characters after the first one that belong to a lexeme. -/
def extent (kind : LexemeKind) (c : Char) (rest : List Char) : Nat :=
  match kind with
  | .comment => commentExtent rest
  | .token .string => stringExtent c rest
  | .token .number => numberExtent rest
  | .token .identifier => identifierExtent rest
  | .token .unknown => unknownExtent rest
  | _ => 0

/-- Cut a script into lexemes. -/
def scan : List Char → List Lexeme
  | [] => []
  | c :: rest =>
      let kind := kindAt c rest
      let length := extent kind c rest
      ⟨kind, c :: rest.take length⟩ :: scan (rest.drop length)
termination_by text => text.length
decreasing_by
  simp only [List.length_drop, List.length_cons]
  omega

@[simp]
theorem scan_nil : scan [] = [] := by
  rw [scan]

theorem scan_cons (c : Char) (rest : List Char) :
    scan (c :: rest) =
      ⟨kindAt c rest, c :: rest.take (extent (kindAt c rest) c rest)⟩ ::
        scan (rest.drop (extent (kindAt c rest) c rest)) := by
  rw [scan]

/-- The lexemes of a script spell it out. -/
theorem flatMap_text_scan (text : List Char) :
    (scan text).flatMap Lexeme.text = text := by
  fun_induction scan text with
  | case1 => rfl
  | case2 c rest kind length ih =>
      simp only [List.flatMap_cons, List.cons_append, ih]
      rw [List.take_append_drop]

end Lexeme

end SetScript
