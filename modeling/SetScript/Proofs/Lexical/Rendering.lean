import SetScript.Proofs.Lexical.Token

/-!
# Tokens on lines of their own

A lexeme is cut off with an eye on the character behind it: two slashes start a comment, a point
goes on with a number only before a digit.  Nothing of what was seen there matters for the lexeme
itself, so every lexeme scanned on its own is that lexeme again.

The rendering of some tokens has one of them in each line.  Lines are scanned apart from each
other, so the rendering of the tokens of a document has tokens of the same kinds and texts.
-/

namespace SetScript

open Text

namespace Lexeme

/-! ## Extents without what follows -/

/-- A run of characters goes on as far when nothing follows it. -/
theorem takeWhile_take_takeWhile (continues : Char → Bool) (text : List Char) :
    (text.take (text.takeWhile continues).length).takeWhile continues =
      text.takeWhile continues := by
  have taken := List.prefix_iff_eq_take.mp (List.takeWhile_prefix continues (l := text))
  rw [← taken, List.takeWhile_idem]

theorem stringExtent_escape_end {quote : Char} (notQuote : '\\' ≠ quote) :
    stringExtent quote ['\\'] = 1 := by
  rw [stringExtent.eq_def]
  simp only [notQuote, Char.reduceEq, if_true, if_false]

theorem stringExtent_take (quote : Char) (text : List Char) :
    stringExtent quote (text.take (stringExtent quote text)) = stringExtent quote text := by
  fun_induction stringExtent quote text with
  | case1 => rfl
  | case2 => rfl
  | case3 rest notNewline => exact stringExtent_quote notNewline []
  -- A backslash with nothing but the end of the line behind it is the last character.
  | case4 _ notQuote => exact stringExtent_escape_end notQuote
  | case5 _ _ notQuote => exact stringExtent_escape_end notQuote
  | case6 escaped rest notNewline _ notQuote ih =>
      rw [Nat.add_comm, List.take_succ_cons, List.take_succ_cons,
        stringExtent_escape_cons notQuote notNewline, ih, Nat.add_comm]
  | case7 c rest notNewline notQuote notEscape ih =>
      rw [Nat.add_comm, List.take_succ_cons, stringExtent_cons notNewline notQuote notEscape, ih,
        Nat.add_comm]

/-- Digits alone are read to their end. -/
theorem numberExtent_of_digits {digits : List Char} (whole : ∀ c ∈ digits, c.isDigit = true) :
    numberExtent digits = digits.length := by
  rw [numberExtent, List.takeWhile_eq_self_iff.mpr whole, List.drop_length]

/-- Digits, a point and more digits are read to their end. -/
theorem numberExtent_of_point {digits fraction : List Char}
    (whole : ∀ c ∈ digits, c.isDigit = true) (part : ∀ c ∈ fraction, c.isDigit = true)
    (nonempty : fraction ≠ []) :
    numberExtent (digits ++ '.' :: fraction) = (digits ++ '.' :: fraction).length := by
  have noDigit : Char.isDigit '.' = false := by decide
  have taken : (digits ++ '.' :: fraction).takeWhile Char.isDigit = digits := by
    rw [takeWhile_append_stop noDigit, List.takeWhile_eq_self_iff.mpr whole]
  rw [numberExtent, taken, List.drop_left]
  simp only [List.takeWhile_eq_self_iff.mpr part]
  rw [if_neg fun empty => nonempty (List.length_eq_zero_iff.mp empty), List.length_append,
    List.length_cons, Nat.add_right_comm, Nat.add_assoc]

/-- A number goes on with digits, or with digits, a point and at least one more digit. -/
theorem exists_take_numberExtent (text : List Char) :
    ∃ digits, (∀ c ∈ digits, c.isDigit = true) ∧
      (text.take (numberExtent text) = digits ∨
        ∃ fraction, (∀ c ∈ fraction, c.isDigit = true) ∧ fraction ≠ [] ∧
          text.take (numberExtent text) = digits ++ '.' :: fraction) := by
  have digitsTaken := List.prefix_iff_eq_take.mp (List.takeWhile_prefix Char.isDigit (l := text))
  refine ⟨text.takeWhile Char.isDigit, fun c => List.mem_takeWhile_imp, ?_⟩
  rw [numberExtent]
  split
  · rename_i more dropped
    have fractionTaken :=
      List.prefix_iff_eq_take.mp (List.takeWhile_prefix Char.isDigit (l := more))
    by_cases empty : (more.takeWhile Char.isDigit).length = 0
    · rw [if_pos empty]
      exact Or.inl digitsTaken.symm
    · rw [if_neg empty]
      refine Or.inr ⟨more.takeWhile Char.isDigit, fun c => List.mem_takeWhile_imp, ?_, ?_⟩
      · exact fun none => empty (by rw [none]; rfl)
      · rw [Nat.add_assoc, List.take_add, ← digitsTaken, dropped, Nat.add_comm 1,
          List.take_succ_cons, ← fractionTaken]
  · exact Or.inl digitsTaken.symm

theorem numberExtent_take (text : List Char) :
    numberExtent (text.take (numberExtent text)) = numberExtent text := by
  have length : (text.take (numberExtent text)).length = numberExtent text :=
    List.length_take_of_le (numberExtent_le text)
  refine Eq.trans ?_ length
  rcases exists_take_numberExtent text with
    ⟨digits, whole, taken | ⟨fraction, part, nonempty, taken⟩⟩
  · rw [taken, numberExtent_of_digits whole]
  · rw [taken, numberExtent_of_point whole part nonempty]

/-- A number that starts with a digit is not empty. -/
theorem numberExtent_pos {digit : Char} (isDigit : digit.isDigit = true) (rest : List Char) :
    0 < numberExtent (digit :: rest) := by
  simp only [numberExtent, List.takeWhile_cons_of_pos isDigit, List.length_cons]
  split
  · split
    · exact Nat.succ_pos _
    · exact Nat.add_pos_left (Nat.succ_pos _) _
  · exact Nat.succ_pos _

theorem head?_eq_some_of_take {text : List Char} {length : Nat} {c : Char}
    (head : (text.take length).head? = some c) : text.head? = some c := by
  cases length with
  | zero => cases head
  | succ length => rwa [List.head?_take, if_neg (Nat.succ_ne_zero length)] at head

/-- Less text behind a character makes no comment out of it. -/
theorem startsComment_of_take {c : Char} {rest : List Char} {length : Nat}
    (starts : startsComment c (rest.take length) = true) : startsComment c rest = true := by
  simp only [startsComment, Bool.or_eq_true, Bool.and_eq_true, beq_iff_eq] at starts ⊢
  exact starts.imp_right (And.imp_right head?_eq_some_of_take)

theorem endsUnknown_of_take {c : Char} {rest : List Char} {length : Nat}
    (ends : endsUnknown c (rest.take length) = true) : endsUnknown c rest = true := by
  rw [endsUnknown, Bool.or_eq_true] at ends ⊢
  exact ends.imp_right startsComment_of_take

theorem unknownExtent_take (text : List Char) :
    unknownExtent (text.take (unknownExtent text)) = unknownExtent text := by
  fun_induction unknownExtent text with
  | case1 => rfl
  | case2 => rfl
  | case3 c rest goesOn ih =>
      rw [Nat.add_comm, List.take_succ_cons, unknownExtent, if_neg, ih, Nat.add_comm]
      exact fun ends => goesOn (endsUnknown_of_take ends)

/-- The extent of a lexeme is the same when nothing follows it. -/
theorem extent_take (kind : LexemeKind) (c : Char) (rest : List Char) :
    extent kind c (rest.take (extent kind c rest)) = extent kind c rest := by
  cases kind with
  | blank => rfl
  | comment => exact congrArg List.length (takeWhile_take_takeWhile _ rest)
  | token kind =>
      cases kind with
      | string => exact stringExtent_take c rest
      | number => exact numberExtent_take rest
      | identifier => exact congrArg List.length (takeWhile_take_takeWhile _ rest)
      | unknown => exact unknownExtent_take rest
      | openParen | closeParen | comma | semicolon => rfl

/-! ## Kinds without what follows -/

/-- Less text behind a character makes no number out of it. -/
theorem startsNumber_of_take {c : Char} {rest : List Char} {length : Nat}
    (starts : startsNumber c (rest.take length) = true) : startsNumber c rest = true := by
  simp only [startsNumber, Bool.or_eq_true, Bool.and_eq_true, Option.any_eq_true] at starts ⊢
  rcases starts with digit | ⟨minus, digit, head, isDigit⟩
  · exact Or.inl digit
  · exact Or.inr ⟨minus, digit, head?_eq_some_of_take head, isDigit⟩

/-- A comment keeps the slash by which it was told. -/
theorem startsComment_take_extent (c : Char) (rest : List Char) :
    startsComment c (rest.take (extent (kindAt c rest) c rest)) = startsComment c rest := by
  rw [Bool.eq_iff_iff]
  constructor
  · exact startsComment_of_take
  · intro starts
    simp only [startsComment, Bool.or_eq_true, Bool.and_eq_true, beq_iff_eq] at starts
    rcases starts with rfl | ⟨rfl, second⟩
    · rfl
    · rcases List.head?_eq_some_iff.mp second with ⟨rest, rfl⟩
      have comment : kindAt '/' ('/' :: rest) = .comment := by
        have notBlank : isBlank '/' = false := by decide
        simp [kindAt, notBlank, startsComment]
      simp [comment, startsComment, extent, commentExtent]

/-- A number keeps the digit by which it was told. -/
theorem startsNumber_take_extent (c : Char) (rest : List Char) :
    startsNumber c (rest.take (extent (kindAt c rest) c rest)) = startsNumber c rest := by
  rw [Bool.eq_iff_iff]
  constructor
  · exact startsNumber_of_take
  · intro starts
    simp only [startsNumber, Bool.or_eq_true, Bool.and_eq_true, Option.any_eq_true,
      beq_iff_eq] at starts
    rcases starts with digit | ⟨rfl, digit, head, isDigit⟩
    · rw [startsNumber, digit, Bool.true_or]
    · rcases List.head?_eq_some_iff.mp head with ⟨rest, rfl⟩
      have number : kindAt '-' (digit :: rest) = .token .number := by
        have notBlank : isBlank '-' = false := by decide
        have notQuote : isQuote '-' = false := by decide
        simp [kindAt, notBlank, notQuote, startsComment, startsNumber, isDigit]
      -- The digit behind the sign belongs to the number, so it is still there.
      have nonempty := Nat.ne_of_gt (numberExtent_pos isDigit rest)
      simp [number, startsNumber, extent, List.head?_take, nonempty, isDigit]

/-- The kind of a lexeme is the same when nothing follows it. -/
theorem kindAt_take (c : Char) (rest : List Char) :
    kindAt c (rest.take (extent (kindAt c rest) c rest)) = kindAt c rest := by
  have comment := startsComment_take_extent c rest
  have number := startsNumber_take_extent c rest
  generalize rest.take (extent (kindAt c rest) c rest) = taken at comment number ⊢
  simp only [kindAt, comment, number]

/-- A lexeme scanned on its own is that lexeme. -/
theorem Leads.scan_text {lexeme : Lexeme} {following : List Char}
    (leads : lexeme.Leads following) : scan lexeme.text = [lexeme] := by
  rcases leads with ⟨c, rest, rfl, -⟩
  simp only [scan_cons, kindAt_take, extent_take, List.take_take, Nat.min_self,
    List.drop_take_self, scan_nil]

end Lexeme

namespace Token

/-! ## Tokens -/

/-- What a token says, wherever it stands. -/
def wording (token : Token) : TokenKind × String :=
  (token.kind, token.text)

theorem map_wording_shift (bytes rows : Nat) (tokens : List Token) :
    (tokens.map (shift bytes rows)).map wording = tokens.map wording := by
  rw [List.map_map]
  rfl

/-- A token scanned on its own says the same. -/
theorem Stands.map_wording_scan {token : Token} {before after : List Char}
    (stands : token.Stands before after) :
    (scan token.text.toList).map wording = [token.wording] := by
  rw [scan, stands.leads.scan_text]
  simp [place, wording]

/-! ## Rendering -/

/-- A document with one token in each line. -/
def render (tokens : List Token) : String :=
  "\n".intercalate (tokens.map Token.text)

theorem toList_render (tokens : List Token) :
    (render tokens).toList = ['\n'].intercalate (tokens.map fun token => token.text.toList) := by
  rw [render, String.toList_intercalate, List.map_map]
  rfl

theorem toList_render_cons_cons (token next : Token) (others : List Token) :
    (render (token :: next :: others)).toList =
      token.text.toList ++ '\n' :: (render (next :: others)).toList := by
  simp [toList_render, List.intercalate_cons_cons]

/-- The rendering of tokens depends on what they say alone. -/
theorem render_congr {first second : List Token}
    (same : first.map wording = second.map wording) : render first = render second := by
  have texts := congrArg (List.map Prod.snd) same
  rw [List.map_map, List.map_map] at texts
  exact congrArg (String.intercalate "\n") texts

/-- The lines of a rendering say what its tokens say on their own. -/
theorem map_wording_scan_render {tokens : List Token}
    (each : ∀ token ∈ tokens, (scan token.text.toList).map wording = [token.wording]) :
    (scan (render tokens).toList).map wording = tokens.map wording := by
  induction tokens with
  | nil => simp [render, scan, place]
  | cons token tokens ih =>
      rw [List.forall_mem_cons] at each
      cases tokens with
      | nil =>
          have single : (render [token]).toList = token.text.toList := by
            simp [toList_render]
          rw [single]
          exact each.1
      | cons next others =>
          rw [toList_render_cons_cons, scan_append_newline, List.map_append, map_wording_shift,
            each.1, ih each.2]
          rfl

/-- The rendering of a document says what the document says. -/
theorem map_wording_scan_render_scan (source : List Char) :
    (scan (render (scan source)).toList).map wording = (scan source).map wording := by
  apply map_wording_scan_render
  intro token member
  rcases stands_of_mem_scan member with ⟨before, after, -, stands⟩
  exact stands.map_wording_scan

end Token

end SetScript
