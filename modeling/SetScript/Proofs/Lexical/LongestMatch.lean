import SetScript.Proofs.Lexical.Rendering

/-!
# Longest matches

Numbers, identifiers and string literals have forms that can be stated without the scanner.  A
number or an identifier is the longest part with its form that leads the text from where the token
starts.  A string literal has no need of a longest match: its first quote that no backslash takes
with it closes it, so at most one leading part has the form, and where none has it, the literal is
the rest of its line.
-/

namespace SetScript

open Text

/-- The longest part with some form that leads a text. -/
structure LongestMatch (form : List Char → Prop) (text part : List Char) : Prop where
  leads : part <+: text
  hasForm : form part
  length_le : ∀ other, other <+: text → form other → other.length ≤ part.length

namespace Lexeme

/-! ## Forms -/

/-- One or more decimal digits. -/
structure IsDigits (text : List Char) : Prop where
  ne_nil : text ≠ []
  isDigit : ∀ c ∈ text, c.isDigit = true

/-- Digits, and perhaps a point with more digits. -/
inductive IsUnsigned : List Char → Prop
  | whole {digits : List Char} (isDigits : IsDigits digits) : IsUnsigned digits
  | point {digits fraction : List Char} (isDigits : IsDigits digits)
      (isFraction : IsDigits fraction) : IsUnsigned (digits ++ '.' :: fraction)

/-- An unsigned number, and perhaps a minus sign in front of it. -/
inductive IsNumber : List Char → Prop
  | unsigned {text : List Char} (isUnsigned : IsUnsigned text) : IsNumber text
  | negative {text : List Char} (isUnsigned : IsUnsigned text) : IsNumber ('-' :: text)

/-- An alphabetic character or an underscore, and then alphanumeric characters and
underscores. -/
inductive IsIdentifier : List Char → Prop
  | mk {c : Char} {rest : List Char} (starts : startsIdentifier c = true)
      (continues : ∀ d ∈ rest, continuesIdentifier d = true) : IsIdentifier (c :: rest)

/-- What may stand between two quotes: backslashes with the characters that they take with
them, and other characters that are neither backslashes nor such quotes. -/
inductive IsBody (quote : Char) : List Char → Prop
  | nil : IsBody quote []
  | escape {escaped : Char} {body : List Char} (inLine : escaped ≠ '\n')
      (others : IsBody quote body) : IsBody quote ('\\' :: escaped :: body)
  | plain {c : Char} {body : List Char} (inLine : c ≠ '\n') (notQuote : c ≠ quote)
      (notEscape : c ≠ '\\') (others : IsBody quote body) : IsBody quote (c :: body)

/-- A body between two quotes. -/
inductive IsLiteral (quote : Char) : List Char → Prop
  | mk {body : List Char} (isBody : IsBody quote body) :
      IsLiteral quote (quote :: (body ++ [quote]))

/-- The string literal at the front of a text: the only part with the form of a literal that
leads the text, or the first line of the text when there is no such part. -/
def QuotedMatch (quote : Char) (text part : List Char) : Prop :=
  (part <+: text ∧ IsLiteral quote part ∧
      ∀ other, other <+: text → IsLiteral quote other → other = part) ∨
    (∀ other, other <+: text → ¬ IsLiteral quote other) ∧ part = text.takeWhile (· != '\n')

/-! ## Numbers and identifiers -/

/-- A run at the front of a text reaches no further than all that goes on alike. -/
theorem length_le_takeWhile {continues : Char → Bool} {run text : List Char} (leads : run <+: text)
    (goesOn : ∀ c ∈ run, continues c = true) :
    run.length ≤ (text.takeWhile continues).length := by
  rcases leads with ⟨rest, rfl⟩
  rw [List.takeWhile_append_of_pos goesOn, List.length_append]
  exact Nat.le_add_right _ _

theorem length_takeWhile_le_numberExtent (text : List Char) :
    (text.takeWhile Char.isDigit).length ≤ numberExtent text := by
  simp only [numberExtent]
  split
  · split
    · exact Nat.le_refl _
    · exact Nat.le_add_right_of_le (Nat.le_add_right _ _)
  · exact Nat.le_refl _

/-- No unsigned number at the front of a text reaches further than the extent says. -/
theorem IsUnsigned.length_le {part text : List Char} (isUnsigned : IsUnsigned part)
    (leads : part <+: text) : part.length ≤ numberExtent text := by
  cases isUnsigned with
  | whole isDigits =>
      exact Nat.le_trans (length_le_takeWhile leads isDigits.isDigit)
        (length_takeWhile_le_numberExtent text)
  | @point digits fraction isDigits isFraction =>
      rcases leads with ⟨rest, rfl⟩
      have noDigit : Char.isDigit '.' = false := by decide
      -- The point stops the first run, so all digits of the fraction are behind it.
      have taken : (digits ++ '.' :: fraction ++ rest).takeWhile Char.isDigit = digits := by
        rw [List.append_assoc, List.cons_append, takeWhile_append_stop noDigit,
          List.takeWhile_eq_self_iff.mpr isDigits.isDigit]
      have reach : fraction.length ≤ ((fraction ++ rest).takeWhile Char.isDigit).length :=
        length_le_takeWhile (List.prefix_append _ _) isFraction.isDigit
      have positive := List.length_pos_iff.mpr isFraction.ne_nil
      rw [numberExtent, taken, List.append_assoc, List.drop_left]
      simp only [List.cons_append]
      rw [if_neg (by omega), List.length_append, List.length_cons]
      omega

theorem numberExtent_cons {digit : Char} (isDigit : digit.isDigit = true) (rest : List Char) :
    numberExtent (digit :: rest) = numberExtent rest + 1 := by
  simp only [numberExtent, List.takeWhile_cons_of_pos isDigit, List.length_cons,
    List.drop_succ_cons]
  split
  · split <;> omega
  · rfl

/-- A text that starts with a digit is led by an unsigned number. -/
theorem isUnsigned_take_numberExtent {digit : Char} (isDigit : digit.isDigit = true)
    (rest : List Char) :
    IsUnsigned ((digit :: rest).take (numberExtent (digit :: rest))) := by
  have head : ((digit :: rest).take (numberExtent (digit :: rest))).head? = some digit := by
    rw [numberExtent_cons isDigit, List.take_succ_cons, List.head?_cons]
  rcases exists_take_numberExtent (digit :: rest) with
    ⟨digits, areDigits, taken | ⟨fraction, isFraction, nonempty, taken⟩⟩
  · rw [taken] at head ⊢
    refine .whole ⟨?_, areDigits⟩
    rintro rfl
    cases head
  · rw [taken] at head ⊢
    refine .point ⟨?_, areDigits⟩ ⟨nonempty, isFraction⟩
    rintro rfl
    cases head
    cases isDigit

/-- The extent of an unsigned number is that of the longest match. -/
theorem longestMatch_isUnsigned {digit : Char} (isDigit : digit.isDigit = true)
    (rest : List Char) :
    LongestMatch IsUnsigned (digit :: rest)
      ((digit :: rest).take (numberExtent (digit :: rest))) where
  leads := List.take_prefix _ _
  hasForm := isUnsigned_take_numberExtent isDigit rest
  length_le other leads isUnsigned := by
    rw [List.length_take_of_le (numberExtent_le _)]
    exact isUnsigned.length_le leads

/-- An unsigned number starts with a digit. -/
theorem IsUnsigned.exists_digit {text : List Char} (isUnsigned : IsUnsigned text) :
    ∃ digit rest, text = digit :: rest ∧ digit.isDigit = true := by
  have first {digits : List Char} (isDigits : IsDigits digits) :
      ∃ digit rest, digits = digit :: rest ∧ digit.isDigit = true := by
    rcases List.exists_cons_of_ne_nil isDigits.ne_nil with ⟨digit, rest, rfl⟩
    exact ⟨digit, rest, rfl, isDigits.isDigit digit List.mem_cons_self⟩
  cases isUnsigned with
  | whole isDigits => exact first isDigits
  | point isDigits isFraction =>
      rcases first isDigits with ⟨digit, rest, rfl, isDigit⟩
      exact ⟨digit, _, rfl, isDigit⟩

/-- A number is the longest match where it starts. -/
theorem longestMatch_isNumber {c : Char} {rest : List Char} (starts : startsNumber c rest = true) :
    LongestMatch IsNumber (c :: rest) (c :: rest.take (numberExtent rest)) := by
  rw [startsNumber, Bool.or_eq_true, Bool.and_eq_true, beq_iff_eq, Option.any_eq_true] at starts
  rcases starts with isDigit | ⟨rfl, digit, head, isDigit⟩
  · have longest := longestMatch_isUnsigned isDigit rest
    rw [numberExtent_cons isDigit, List.take_succ_cons] at longest
    refine ⟨longest.leads, .unsigned longest.hasForm, ?_⟩
    intro other leads isNumber
    cases isNumber with
    | unsigned isUnsigned => exact longest.length_le other leads isUnsigned
    | negative isUnsigned =>
        rcases List.cons_prefix_cons.mp leads with ⟨rfl, -⟩
        cases isDigit
  · rcases List.head?_eq_some_iff.mp head with ⟨rest, rfl⟩
    have longest := longestMatch_isUnsigned isDigit rest
    refine ⟨List.cons_prefix_cons.mpr ⟨rfl, longest.leads⟩, .negative longest.hasForm, ?_⟩
    intro other leads isNumber
    cases isNumber with
    | unsigned isUnsigned =>
        rcases isUnsigned.exists_digit with ⟨first, more, rfl, firstDigit⟩
        rcases List.cons_prefix_cons.mp leads with ⟨rfl, -⟩
        cases firstDigit
    | negative isUnsigned =>
        have inner := (List.cons_prefix_cons.mp leads).2
        exact Nat.succ_le_succ (longest.length_le _ inner isUnsigned)

/-- An identifier is the longest match where it starts. -/
theorem longestMatch_isIdentifier {c : Char} (starts : startsIdentifier c = true)
    (rest : List Char) :
    LongestMatch IsIdentifier (c :: rest) (c :: rest.take (identifierExtent rest)) := by
  have taken := List.prefix_iff_eq_take.mp (List.takeWhile_prefix continuesIdentifier (l := rest))
  rw [identifierExtent, ← taken]
  refine ⟨List.cons_prefix_cons.mpr ⟨rfl, List.takeWhile_prefix _⟩,
    .mk starts fun d => List.mem_takeWhile_imp, ?_⟩
  intro other leads isIdentifier
  cases isIdentifier with
  | mk _ continues =>
      have inner := (List.cons_prefix_cons.mp leads).2
      exact Nat.succ_le_succ (length_le_takeWhile inner continues)

/-! ## String literals -/

/-- The quote behind a body closes the literal. -/
theorem IsBody.stringExtent_append {quote : Char} (isQuote : isQuote quote = true)
    {body : List Char} (isBody : IsBody quote body) (rest : List Char) :
    stringExtent quote (body ++ quote :: rest) = body.length + 1 := by
  have inLine : quote ≠ '\n' := by
    rintro rfl
    cases isQuote
  have notEscape : '\\' ≠ quote := by
    rintro rfl
    cases isQuote
  induction isBody with
  | nil => exact stringExtent_quote inLine rest
  | escape escapedInLine _ ih =>
      rw [List.cons_append, List.cons_append, stringExtent_escape_cons notEscape escapedInLine, ih,
        List.length_cons, List.length_cons, Nat.add_comm]
  | plain cInLine notQuote cNotEscape _ ih =>
      rw [List.cons_append, stringExtent_cons cInLine notQuote cNotEscape, ih, List.length_cons,
        Nat.add_comm]

/-- What follows an opening quote is a body with its quote, or the rest of the line. -/
theorem exists_isBody_or_takeWhile (quote : Char) (rest : List Char) :
    (∃ body, IsBody quote body ∧ rest.take (stringExtent quote rest) = body ++ [quote]) ∨
      rest.take (stringExtent quote rest) = rest.takeWhile (· != '\n') := by
  fun_induction stringExtent quote rest with
  | case1 => exact Or.inr rfl
  | case2 => exact Or.inr (by simp)
  | case3 => exact Or.inl ⟨[], .nil, by simp⟩
  | case4 => exact Or.inr (by simp)
  | case5 => exact Or.inr (by simp)
  | case6 escaped rest inLine _ _ ih =>
      rw [Nat.add_comm, List.take_succ_cons, List.take_succ_cons]
      rcases ih with ⟨body, isBody, taken⟩ | taken
      · exact Or.inl ⟨_, .escape inLine isBody, by rw [taken]; rfl⟩
      · exact Or.inr (by simp [taken, inLine])
  | case7 c rest inLine notQuote notEscape ih =>
      rw [Nat.add_comm, List.take_succ_cons]
      rcases ih with ⟨body, isBody, taken⟩ | taken
      · exact Or.inl ⟨_, .plain inLine notQuote notEscape isBody, by rw [taken]; rfl⟩
      · exact Or.inr (by simp [taken, inLine])

/-- A literal at the front of a text is what the extent says. -/
theorem IsLiteral.eq_take {quote : Char} (isQuote : isQuote quote = true) {rest part : List Char}
    (isLiteral : IsLiteral quote part) (leads : part <+: quote :: rest) :
    part = quote :: rest.take (stringExtent quote rest) := by
  cases isLiteral with
  | @mk body isBody =>
      rcases (List.cons_prefix_cons.mp leads).2 with ⟨more, whole⟩
      have extent := isBody.stringExtent_append isQuote more
      rw [List.append_assoc, List.singleton_append] at whole
      rw [← whole, extent, List.take_length_add_append]
      rfl

/-- A string literal is the only match where it starts, or the rest of the line. -/
theorem quotedMatch_stringExtent {quote : Char} (isQuote : isQuote quote = true)
    (rest : List Char) :
    QuotedMatch quote (quote :: rest) (quote :: rest.take (stringExtent quote rest)) := by
  have inLine : quote ≠ '\n' := by
    rintro rfl
    cases isQuote
  by_cases found : ∃ other, other <+: quote :: rest ∧ IsLiteral quote other
  · rcases found with ⟨literal, leads, isLiteral⟩
    rw [← isLiteral.eq_take isQuote leads]
    refine Or.inl ⟨leads, isLiteral, ?_⟩
    intro other otherLeads otherLiteral
    rw [otherLiteral.eq_take isQuote otherLeads, isLiteral.eq_take isQuote leads]
  · refine Or.inr ⟨fun other leads isLiteral => found ⟨other, leads, isLiteral⟩, ?_⟩
    rcases exists_isBody_or_takeWhile quote rest with ⟨body, isBody, taken⟩ | taken
    · exfalso
      apply found
      refine ⟨_, ?_, .mk isBody⟩
      rw [← taken]
      exact List.cons_prefix_cons.mpr ⟨rfl, List.take_prefix _ _⟩
    · rw [taken, List.takeWhile_cons_of_pos (by simpa using inLine)]

end Lexeme

/-! ## Tokens -/

namespace Token

open Lexeme

/-- What leads the text from where a token starts. -/
structure Matches (token : Token) (text : List Char) : Prop where
  number : token.kind = .number → LongestMatch IsNumber text token.text.toList
  identifier : token.kind = .identifier → LongestMatch IsIdentifier text token.text.toList
  string : token.kind = .string → ∃ quote, isQuote quote = true ∧ text.head? = some quote ∧
    QuotedMatch quote text token.text.toList

/-- A token that stands somewhere is the match there. -/
theorem Stands.matches_append {token : Token} {before after : List Char}
    (stands : token.Stands before after) : token.Matches (token.text.toList ++ after) := by
  rcases stands.leads with ⟨c, rest, lexeme, rfl⟩
  rcases Lexeme.mk.inj lexeme with ⟨kind, text⟩
  have opens := opens_kindAt c rest
  have whole : token.text.toList ++ rest.drop (extent (kindAt c rest) c rest) = c :: rest := by
    rw [text, List.cons_append, List.take_append_drop]
  rw [whole]
  rw [← kind] at opens text
  constructor
  · intro number
    rw [number] at opens text
    rw [text]
    exact longestMatch_isNumber opens
  · intro identifier
    rw [identifier] at opens text
    rw [text]
    exact longestMatch_isIdentifier opens rest
  · intro string
    rw [string] at opens text
    rw [text]
    exact ⟨c, opens, rfl, quotedMatch_stringExtent opens rest⟩

/-- Every token of a document is the match in the text from where the token starts: a number or
an identifier the longest one, a string literal the only one or else the rest of the line. -/
theorem scan_longest_match {source : List Char} {token : Token} (member : token ∈ scan source) :
    ∃ before text, splitAtByte? token.span.start.byte source = some (before, text) ∧
      slice? source token.span.start.byte token.span.stop.byte = some token.text.toList ∧
        token.Matches text := by
  rcases stands_of_mem_scan member with ⟨before, after, rfl, stands⟩
  refine ⟨before, token.text.toList ++ after, ?_, ?_, stands.matches_append⟩
  · rw [stands.byte_start, splitAtByte?_utf8Length]
  · rw [stands.byte_start, stands.byte_stop, slice?_utf8Length]

/-- A point without a digit behind it ends a number, and an escaped quote closes nothing. -/
theorem scan_longest_match_open_quote :
    let source := "-2.5.x 'a\\'".toList
    let number : Token := ⟨.number, "-2.5", ⟨⟨0, ⟨0, 0⟩⟩, ⟨4, ⟨0, 4⟩⟩⟩⟩
    let literal : Token := ⟨.string, "'a\\'", ⟨⟨7, ⟨0, 7⟩⟩, ⟨11, ⟨0, 11⟩⟩⟩⟩
    number ∈ scan source ∧ literal ∈ scan source ∧ number.Matches source ∧
      literal.Matches (source.drop 7) := by
  intro source number literal
  have numberMember : number ∈ scan source := by decide +kernel
  have literalMember : literal ∈ scan source := by decide +kernel
  rcases scan_longest_match numberMember with ⟨_, text, split, -, numberMatches⟩
  rcases scan_longest_match literalMember with ⟨_, rest, literalSplit, -, literalMatches⟩
  cases split
  cases literalSplit
  exact ⟨numberMember, literalMember, numberMatches, literalMatches⟩

end Token

end SetScript
