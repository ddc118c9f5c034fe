import SetScript.Lexical.Lexeme
import SetScript.Text.Span

/-!
# Tokens

Tokens are the lexemes that carry meaning, placed in their document.
-/

namespace SetScript

open Text

/-- A token with its verbatim text and its extent. -/
structure Token where
  kind : TokenKind
  text : String
  span : Span
deriving DecidableEq

namespace Token

/-- Place lexemes one after another from a mark on, keeping the tokens. -/
def place : Mark → List Lexeme → List Token
  | _, [] => []
  | mark, lexeme :: rest =>
      let stop := mark.after lexeme.text
      match lexeme.kind with
      | .token kind => ⟨kind, String.ofList lexeme.text, ⟨mark, stop⟩⟩ :: place stop rest
      | .blank | .comment => place stop rest

/-- The tokens of a document, in order. -/
def scan (source : List Char) : List Token :=
  place .origin (Lexeme.scan source)

end Token

end SetScript
