import SetScript.Lexical.Lexeme
import SetScript.Proofs.Text.Place

/-!
# Lexemes and lines

A lexeme leads the text after it when it is what the scanner cuts off the front of
both together.  Everything known about one lexeme is stated about this relation:
blanks are single blank characters, comments and tokens stay on their line, a
comment reaches up to the end of its line, and so does a string literal that no
quote closes.

A line feed stops every lexeme where the end of the document would.  So scanning is
local to lines: the lexemes of two lines are those of the first followed by those
of the second.
-/

namespace SetScript

open Text

/-- What follows is the end of a line or of the document. -/
def AtLineEnd (following : List Char) : Prop :=
  ∀ c ∈ following.head?, c = '\n'

/-- A comment starts with `#` or with two slashes and stays on its line. -/
structure IsComment (text : List Char) : Prop where
  starts : ['#'] <+: text ∨ ['/', '/'] <+: text
  not_mem_newline : '\n' ∉ text

namespace Lexeme

/-! ## Line feeds -/

theorem isBlank_newline : isBlank '\n' = true := by
  decide

theorem continuesIdentifier_newline : continuesIdentifier '\n' = false := by
  decide

/-- A character that stops a run stops it like the end of the text. -/
theorem takeWhile_append_stop {continues : Char → Bool} {stop : Char}
    (stops : continues stop = false) (text rest : List Char) :
    (text ++ stop :: rest).takeWhile continues = text.takeWhile continues := by
  induction text with
  | nil => simp [stops]
  | cons c text ih =>
      rw [List.cons_append, List.takeWhile_cons, List.takeWhile_cons, ih]

theorem startsComment_append_newline (c : Char) (text rest : List Char) :
    startsComment c (text ++ '\n' :: rest) = startsComment c text := by
  cases text <;> simp [startsComment]

theorem startsNumber_append_newline (c : Char) (text rest : List Char) :
    startsNumber c (text ++ '\n' :: rest) = startsNumber c text := by
  cases text with
  | nil =>
      have noDigit : Char.isDigit '\n' = false := by decide
      simp [startsNumber, noDigit]
  | cons d text => simp [startsNumber]

/-- The kind of a lexeme does not depend on later lines. -/
theorem kindAt_append_newline (c : Char) (text rest : List Char) :
    kindAt c (text ++ '\n' :: rest) = kindAt c text := by
  simp only [kindAt, startsComment_append_newline, startsNumber_append_newline]

theorem stringExtent_newline (quote : Char) (rest : List Char) :
    stringExtent quote ('\n' :: rest) = 0 := by
  rw [stringExtent.eq_def]
  simp

theorem stringExtent_quote {quote : Char} (notNewline : quote ≠ '\n') (rest : List Char) :
    stringExtent quote (quote :: rest) = 1 := by
  rw [stringExtent.eq_def]
  simp [notNewline]

theorem stringExtent_cons {quote c : Char} (notNewline : c ≠ '\n') (notQuote : c ≠ quote)
    (notEscape : c ≠ '\\') (rest : List Char) :
    stringExtent quote (c :: rest) = 1 + stringExtent quote rest := by
  rw [stringExtent.eq_def]
  simp [notNewline, notQuote, notEscape]

theorem stringExtent_escape_newline {quote : Char} (notQuote : '\\' ≠ quote) (rest : List Char) :
    stringExtent quote ('\\' :: '\n' :: rest) = 1 := by
  rw [stringExtent.eq_def]
  simp only [notQuote, Char.reduceEq, if_true, if_false]

theorem stringExtent_escape_cons {quote escaped : Char} (notQuote : '\\' ≠ quote)
    (notNewline : escaped ≠ '\n') (rest : List Char) :
    stringExtent quote ('\\' :: escaped :: rest) = 2 + stringExtent quote rest := by
  rw [stringExtent.eq_def]
  simp only [notQuote, notNewline, Char.reduceEq, if_true, if_false]

theorem stringExtent_append_newline (quote : Char) (text rest : List Char) :
    stringExtent quote (text ++ '\n' :: rest) = stringExtent quote text := by
  fun_induction stringExtent quote text with
  | case1 => exact stringExtent_newline quote rest
  | case2 => exact stringExtent_newline quote _
  | case3 _ notNewline => exact stringExtent_quote notNewline _
  | case4 _ notQuote => exact stringExtent_escape_newline notQuote rest
  | case5 _ _ notQuote => exact stringExtent_escape_newline notQuote _
  | case6 escaped text notNewline _ notQuote ih =>
      rw [List.cons_append, List.cons_append, stringExtent_escape_cons notQuote notNewline, ih]
  | case7 c text notNewline notQuote notEscape ih =>
      rw [List.cons_append, stringExtent_cons notNewline notQuote notEscape, ih]

theorem numberExtent_append_newline (text rest : List Char) :
    numberExtent (text ++ '\n' :: rest) = numberExtent text := by
  have noDigit : Char.isDigit '\n' = false := by decide
  have inside : (text.takeWhile Char.isDigit).length ≤ text.length :=
    (List.takeWhile_sublist _).length_le
  simp only [numberExtent, takeWhile_append_stop noDigit]
  rw [List.drop_append_of_le_length inside]
  cases more : text.drop (text.takeWhile Char.isDigit).length with
  | nil => simp
  | cons c more =>
      by_cases point : c = '.'
      · subst point
        simp only [List.cons_append, takeWhile_append_stop noDigit]
      · simp [point]

theorem endsUnknown_append_newline (c : Char) (text rest : List Char) :
    endsUnknown c (text ++ '\n' :: rest) = endsUnknown c text := by
  simp only [endsUnknown, startsComment_append_newline]

theorem unknownExtent_append_newline (text rest : List Char) :
    unknownExtent (text ++ '\n' :: rest) = unknownExtent text := by
  induction text with
  | nil => simp [unknownExtent, endsUnknown, isBlank_newline]
  | cons c text ih =>
      rw [List.cons_append, unknownExtent, unknownExtent, endsUnknown_append_newline, ih]

/-- The extent of a lexeme does not depend on later lines. -/
theorem extent_append_newline (kind : LexemeKind) (c : Char) (text rest : List Char) :
    extent kind c (text ++ '\n' :: rest) = extent kind c text := by
  cases kind with
  | blank => rfl
  | comment =>
      simp only [extent, commentExtent]
      rw [takeWhile_append_stop (by simp)]
  | token kind =>
      cases kind with
      | string => exact stringExtent_append_newline c text rest
      | number => exact numberExtent_append_newline text rest
      | identifier =>
          simp only [extent, identifierExtent, takeWhile_append_stop continuesIdentifier_newline]
      | unknown => exact unknownExtent_append_newline text rest
      | openParen | closeParen | comma | semicolon => rfl

/-! ## Extents inside the text -/

theorem stringExtent_le (quote : Char) (text : List Char) :
    stringExtent quote text ≤ text.length := by
  fun_induction stringExtent quote text with
  | case1 => exact Nat.le_refl _
  | case2 => exact Nat.zero_le _
  | case3 => exact Nat.succ_le_succ (Nat.zero_le _)
  | case4 => exact Nat.le_refl _
  | case5 => exact Nat.succ_le_succ (Nat.zero_le _)
  | case6 escaped rest _ _ _ ih =>
      rw [List.length_cons, List.length_cons]
      omega
  | case7 c rest _ _ _ ih =>
      rw [List.length_cons]
      omega

theorem numberExtent_le (text : List Char) : numberExtent text ≤ text.length := by
  have whole : (text.takeWhile Char.isDigit).length ≤ text.length :=
    (List.takeWhile_sublist _).length_le
  have dropped := List.length_drop (i := (text.takeWhile Char.isDigit).length) (l := text)
  simp only [numberExtent]
  split
  · rename_i more shape
    have fraction : (more.takeWhile Char.isDigit).length ≤ more.length :=
      (List.takeWhile_sublist _).length_le
    rw [shape, List.length_cons] at dropped
    split <;> omega
  · exact whole

theorem unknownExtent_le (text : List Char) : unknownExtent text ≤ text.length := by
  fun_induction unknownExtent text with
  | case1 => exact Nat.le_refl _
  | case2 => exact Nat.zero_le _
  | case3 c text _ ih =>
      rw [List.length_cons]
      omega

/-- A lexeme ends within the text. -/
theorem extent_le (kind : LexemeKind) (c : Char) (text : List Char) :
    extent kind c text ≤ text.length := by
  cases kind with
  | blank => exact Nat.zero_le _
  | comment => exact (List.takeWhile_sublist _).length_le
  | token kind =>
      cases kind with
      | string => exact stringExtent_le c text
      | number => exact numberExtent_le text
      | identifier => exact (List.takeWhile_sublist _).length_le
      | unknown => exact unknownExtent_le text
      | openParen | closeParen | comma | semicolon => exact Nat.zero_le _

/-- Scanning is local to lines. -/
theorem scan_append_newline (text rest : List Char) :
    scan (text ++ '\n' :: rest) = scan text ++ scan ('\n' :: rest) := by
  fun_induction scan text with
  | case1 => rfl
  | case2 c text kind length ih =>
      have inside : length ≤ text.length := extent_le kind c text
      rw [List.cons_append, scan_cons, kindAt_append_newline, extent_append_newline,
        List.take_append_of_le_length inside, List.drop_append_of_le_length inside, ih,
        List.cons_append]

/-! ## One lexeme and what follows it -/

/-- A lexeme leads a text when the scanner cuts it off the front of both. -/
def Leads (lexeme : Lexeme) (following : List Char) : Prop :=
  ∃ c rest,
    lexeme = ⟨kindAt c rest, c :: rest.take (extent (kindAt c rest) c rest)⟩ ∧
      following = rest.drop (extent (kindAt c rest) c rest)

theorem leads_kindAt (c : Char) (rest : List Char) :
    Leads ⟨kindAt c rest, c :: rest.take (extent (kindAt c rest) c rest)⟩
      (rest.drop (extent (kindAt c rest) c rest)) :=
  ⟨c, rest, rfl, rfl⟩

/-- Only the first character of a lexeme can be a line feed. -/
theorem newline_not_mem_take_extent (kind : LexemeKind) (c : Char) (rest : List Char) :
    '\n' ∉ rest.take (extent kind c rest) := by
  intro member
  obtain ⟨line, others, taken⟩ := List.append_of_mem member
  -- The extent is that of the line, so the line feed lies behind it.
  have whole : rest = line ++ '\n' :: (others ++ rest.drop (extent kind c rest)) := by
    conv_lhs => rw [← List.take_append_drop (extent kind c rest) rest, taken]
    simp
  have sameExtent : extent kind c rest = extent kind c line := by
    conv_lhs => rw [whole]
    exact extent_append_newline kind c line _
  have inside := extent_le kind c line
  have length := List.length_take_le (extent kind c rest) rest
  rw [taken, List.length_append, List.length_cons] at length
  omega

/-- What the first character of a lexeme of some kind is. -/
def Opens (kind : LexemeKind) (c : Char) (rest : List Char) : Prop :=
  match kind with
  | .blank => isBlank c = true
  | .comment => startsComment c rest = true
  | .token .openParen => c = '('
  | .token .closeParen => c = ')'
  | .token .comma => c = ','
  | .token .semicolon => c = ';'
  | .token .string => isQuote c = true
  | .token .number => startsNumber c rest = true
  | .token .identifier => startsIdentifier c = true
  | .token .unknown => True

theorem opens_ite {condition : Prop} [Decidable condition] {c : Char} {rest : List Char}
    {kind other : LexemeKind} (first : condition → Opens kind c rest)
    (second : Opens other c rest) : Opens (if condition then kind else other) c rest := by
  by_cases holds : condition
  · rw [if_pos holds]
    exact first holds
  · rw [if_neg holds]
    exact second

theorem opens_kindAt (c : Char) (rest : List Char) : Opens (kindAt c rest) c rest := by
  unfold kindAt
  refine opens_ite (fun blank => blank) ?_
  refine opens_ite (fun comment => comment) ?_
  refine opens_ite (fun openParen => openParen) ?_
  refine opens_ite (fun closeParen => closeParen) ?_
  refine opens_ite (fun comma => comma) ?_
  refine opens_ite (fun semicolon => semicolon) ?_
  refine opens_ite (fun string => string) ?_
  refine opens_ite (fun number => number) ?_
  refine opens_ite (fun identifier => identifier) ?_
  exact trivial

theorem kindAt_of_isBlank {c : Char} (blank : isBlank c = true) (rest : List Char) :
    kindAt c rest = .blank := by
  simp [kindAt, blank]

/-- A run up to the line feed leaves the end of the line. -/
theorem atLineEnd_drop_commentExtent (rest : List Char) :
    AtLineEnd (rest.drop (commentExtent rest)) := by
  have dropped : rest.drop (commentExtent rest) = rest.dropWhile (· != '\n') := by
    calc
      rest.drop (commentExtent rest) =
          (rest.takeWhile (· != '\n') ++ rest.dropWhile (· != '\n')).drop
            (commentExtent rest) := by rw [List.takeWhile_append_dropWhile]
      _ = rest.dropWhile (· != '\n') := List.drop_left
  intro c member
  have stops := List.head?_dropWhile_not (· != '\n') rest
  rw [dropped] at member
  rw [Option.mem_def.mp member] at stops
  simpa using stops

/-- A string literal ends with its quote or with its line. -/
theorem stringExtent_ends (quote : Char) (rest : List Char) :
    (rest.take (stringExtent quote rest)).getLast? = some quote ∨
      AtLineEnd (rest.drop (stringExtent quote rest)) := by
  fun_induction stringExtent quote rest with
  | case1 => exact Or.inr (by simp [AtLineEnd])
  | case2 => exact Or.inr (by simp [AtLineEnd])
  | case3 => exact Or.inl (by simp)
  | case4 => exact Or.inr (by simp [AtLineEnd])
  | case5 => exact Or.inr (by simp [AtLineEnd])
  | case6 escaped rest _ _ _ ih =>
      rw [Nat.add_comm, List.take_succ_cons, List.take_succ_cons, List.drop_succ_cons,
        List.drop_succ_cons]
      exact ih.imp (fun last => by simp [List.getLast?_cons, last]) id
  | case7 c rest _ _ _ ih =>
      rw [Nat.add_comm, List.take_succ_cons, List.drop_succ_cons]
      exact ih.imp (fun last => by simp [List.getLast?_cons, last]) id

namespace Leads

variable {lexeme : Lexeme} {following : List Char}

theorem text_ne_nil (leads : lexeme.Leads following) : lexeme.text ≠ [] := by
  rcases leads with ⟨c, rest, rfl, -⟩
  exact List.cons_ne_nil _ _

/-- A blank is a single blank character. -/
theorem blank (leads : lexeme.Leads following) (kind : lexeme.kind = .blank) :
    ∃ c, lexeme.text = [c] ∧ isBlank c = true := by
  rcases leads with ⟨c, rest, rfl, -⟩
  have blank : kindAt c rest = .blank := kind
  have opens := opens_kindAt c rest
  rw [blank] at opens ⊢
  exact ⟨c, rfl, opens⟩

/-- Only blanks hold line feeds. -/
theorem newline_not_mem (leads : lexeme.Leads following) (kind : lexeme.kind ≠ .blank) :
    '\n' ∉ lexeme.text := by
  rcases leads with ⟨c, rest, rfl, -⟩
  rw [List.mem_cons, not_or]
  refine ⟨?_, newline_not_mem_take_extent _ _ _⟩
  rintro rfl
  exact kind (kindAt_of_isBlank isBlank_newline rest)

/-- A comment reaches up to the end of its line. -/
theorem comment (leads : lexeme.Leads following) (kind : lexeme.kind = .comment) :
    IsComment lexeme.text ∧ AtLineEnd following := by
  have inLine := leads.newline_not_mem (by rw [kind]; exact LexemeKind.noConfusion)
  rcases leads with ⟨c, rest, rfl, rfl⟩
  have comment : kindAt c rest = .comment := kind
  have opens := opens_kindAt c rest
  rw [comment] at inLine opens ⊢
  refine ⟨⟨?_, inLine⟩, atLineEnd_drop_commentExtent rest⟩
  simp only [Opens, startsComment, Bool.or_eq_true, Bool.and_eq_true, beq_iff_eq] at opens
  rcases opens with rfl | ⟨rfl, second⟩
  · exact Or.inl (List.prefix_append ['#'] _)
  · obtain ⟨rest, rfl⟩ := List.head?_eq_some_iff.mp second
    refine Or.inr ?_
    simp [extent, commentExtent]

/-- A string literal ends with a quote or with its line. -/
theorem string (leads : lexeme.Leads following) (kind : lexeme.kind = .token .string) :
    (∃ quote, lexeme.text.getLast? = some quote ∧ isQuote quote = true) ∨
      AtLineEnd following := by
  rcases leads with ⟨c, rest, rfl, rfl⟩
  have string : kindAt c rest = .token .string := kind
  have opens := opens_kindAt c rest
  rw [string] at opens ⊢
  refine (stringExtent_ends c rest).imp (fun last => ⟨c, ?_, opens⟩) id
  rw [List.getLast?_cons]
  exact congrArg (fun last => some (last.getD c)) last

/-- A closing parenthesis is known by its text. -/
theorem closeParen_iff (leads : lexeme.Leads following) :
    lexeme.kind = .token .closeParen ↔ lexeme.text = [')'] := by
  rcases leads with ⟨c, rest, rfl, -⟩
  constructor
  · intro kind
    have isClose : kindAt c rest = .token .closeParen := kind
    have opens := opens_kindAt c rest
    rw [isClose] at opens ⊢
    cases opens
    rfl
  · intro text
    cases (List.cons.inj text).1
    have notBlank : isBlank ')' = false := by decide
    simp [kindAt, notBlank, startsComment]

end Leads

end Lexeme

end SetScript
