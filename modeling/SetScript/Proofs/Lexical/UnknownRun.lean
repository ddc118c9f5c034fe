import SetScript.Proofs.Lexical.Token

/-!
# Runs of unknown characters

A run of unknown characters ends where another lexeme could start, with one exception: a minus sign
does not end it, even right before a digit.  The digit ends the run then.  So inside of a run the
scanner would find another run of unknown characters at each place, except for a number in front
of a last minus sign that is followed by a digit.
-/

namespace SetScript

open Text

namespace Lexeme

/-- A run goes on in front of each of its characters as it does on its own. -/
theorem unknownExtent_append (first rest : List Char)
    (inside : first.length ≤ unknownExtent (first ++ rest)) :
    unknownExtent (first ++ rest) = first.length + unknownExtent rest := by
  induction first with
  | nil => exact (Nat.zero_add _).symm
  | cons c first ih =>
      rw [List.cons_append, unknownExtent] at inside ⊢
      split at inside
      · cases inside
      · rename_i goesOn
        rw [List.length_cons, Nat.add_comm] at inside
        rw [if_neg goesOn, ih (Nat.le_of_add_le_add_left inside), List.length_cons]
        omega

/-- A digit continues an identifier. -/
theorem continuesIdentifier_of_isDigit {c : Char} (digit : c.isDigit = true) :
    continuesIdentifier c = true := by
  have code : c.toNat < 128 := by
    simp only [Char.isDigit, Bool.and_eq_true, decide_eq_true_eq, ge_iff_le,
      UInt32.le_iff_toNat_le] at digit
    exact Nat.lt_of_le_of_lt digit.2 (by decide)
  have numeric : isNumeric c = true := by
    rw [isNumeric, isAscii, if_pos (decide_eq_true code), digit]
  simp [continuesIdentifier, isAlphanumeric, numeric]

/-- What starts an identifier continues one. -/
theorem continuesIdentifier_of_startsIdentifier {c : Char} (starts : startsIdentifier c = true) :
    continuesIdentifier c = true := by
  rw [startsIdentifier, Bool.or_eq_true] at starts
  rw [continuesIdentifier, isAlphanumeric, Bool.or_eq_true, Bool.or_eq_true]
  exact starts.imp_left Or.inl

/-- A character that does not end a run of unknown characters starts one, unless it is a minus
sign with a digit behind it. -/
theorem kindAt_of_endsUnknown_eq_false {c : Char} {rest : List Char}
    (goesOn : endsUnknown c rest = false) :
    kindAt c rest = if c = '-' ∧ rest.head?.any Char.isDigit = true then .token .number
      else .token .unknown := by
  simp only [endsUnknown, Bool.or_eq_false_iff, beq_eq_false_iff_ne] at goesOn
  obtain ⟨⟨⟨⟨⟨⟨⟨notBlank, notOpen⟩, notClose⟩, notComma⟩, notSemicolon⟩, notQuote⟩, notIn⟩,
    notComment⟩ := goesOn
  have notDigit : c.isDigit = false := by
    rw [← Bool.not_eq_true]
    intro digit
    cases (continuesIdentifier_of_isDigit digit).symm.trans notIn
  have notIdentifier : startsIdentifier c = false := by
    rw [← Bool.not_eq_true]
    intro starts
    cases (continuesIdentifier_of_startsIdentifier starts).symm.trans notIn
  simp [kindAt, startsNumber, notBlank, notComment, notOpen, notClose, notComma, notSemicolon,
    notQuote, notDigit, notIdentifier]

/-- A digit ends a run of unknown characters at once. -/
theorem unknownExtent_eq_zero_of_digit {rest : List Char}
    (digit : rest.head?.any Char.isDigit = true) : unknownExtent rest = 0 := by
  rcases (Option.any_eq_true _ _).mp digit with ⟨c, head, isDigit⟩
  rcases List.head?_eq_some_iff.mp head with ⟨rest, rfl⟩
  rw [unknownExtent, if_pos]
  simp [endsUnknown, continuesIdentifier_of_isDigit isDigit]

/-- What the scanner would find in front of a character inside of a run of unknown characters. -/
theorem Leads.kindAt_inside {first second following : List Char} {c : Char}
    (leads : Leads ⟨.token .unknown, first ++ c :: second⟩ following) (inside : first ≠ []) :
    kindAt c (second ++ following) =
      if c = '-' ∧ second = [] ∧ following.head?.any Char.isDigit = true then .token .number
      else .token .unknown := by
  rcases leads with ⟨head, rest, lexeme, rfl⟩
  rcases Lexeme.mk.inj lexeme with ⟨kind, text⟩
  rw [← kind] at text ⊢
  rcases List.exists_cons_of_ne_nil inside with ⟨_, first, rfl⟩
  rw [List.cons_append, List.cons.injEq] at text
  rcases text with ⟨-, text⟩
  generalize left : rest.drop (extent (.token .unknown) head rest) = following
  have whole : rest = first ++ c :: (second ++ following) := by
    conv_lhs => rw [← List.take_append_drop (extent (.token .unknown) head rest) rest]
    rw [← text, left, List.append_assoc, List.cons_append]
  have reach : unknownExtent rest = first.length + (1 + second.length) := by
    have length := List.length_take_of_le (unknownExtent_le rest)
    change (rest.take (extent (.token .unknown) head rest)).length = _ at length
    rw [← text, List.length_append, List.length_cons] at length
    omega
  -- Behind the part in front of the character, what is left of the run starts with it.
  have remaining : unknownExtent (c :: (second ++ following)) = 1 + second.length := by
    rw [whole] at reach
    have split := unknownExtent_append first (c :: (second ++ following)) (by omega)
    omega
  rw [unknownExtent] at remaining
  split at remaining
  · omega
  · rename_i goesOn
    rw [Bool.not_eq_true] at goesOn
    rw [kindAt_of_endsUnknown_eq_false goesOn]
    congr 1
    rw [eq_iff_iff, and_congr_right_iff]
    rintro rfl
    constructor
    · intro digit
      have none := unknownExtent_eq_zero_of_digit digit
      obtain rfl : second = [] := List.length_eq_zero_iff.mp (by omega)
      exact ⟨rfl, digit⟩
    · rintro ⟨rfl, digit⟩
      exact digit

end Lexeme

namespace Token

/-- A place between the ends of a token cuts the text of the token in two. -/
theorem Stands.exists_cut {token : Token} {earlier after before text : List Char}
    (stands : token.Stands earlier after)
    (whole : before ++ text = earlier ++ (token.text.toList ++ after))
    (started : token.span.start.byte < utf8Length before)
    (ended : utf8Length before < token.span.stop.byte) :
    ∃ first c second, before = earlier ++ first ∧ first ≠ [] ∧
      token.text.toList = first ++ c :: second ∧ text = c :: (second ++ after) := by
  rw [stands.byte_start] at started
  rw [stands.byte_stop] at ended
  have ahead : before <+: earlier ++ (token.text.toList ++ after) := ⟨text, whole⟩
  rcases prefix_of_utf8Length_le (List.prefix_append _ _) ahead (Nat.le_of_lt started) with
    ⟨first, rfl⟩
  rw [← List.append_assoc] at ahead
  rcases prefix_of_utf8Length_le ahead (List.prefix_append _ _) (Nat.le_of_lt ended) with
    ⟨second, split⟩
  rw [List.append_assoc, List.append_cancel_left_eq] at split
  have inside : first ≠ [] := by
    rintro rfl
    simp at started
  cases second with
  | nil =>
      rw [← split, List.append_nil] at ended
      exact absurd ended (Nat.lt_irrefl _)
  | cons c second =>
      refine ⟨first, c, second, rfl, inside, split.symm, ?_⟩
      rw [← split] at whole
      simpa using whole

/-- Inside of a token of unknown characters the scanner would find unknown characters in front of
each character, except for a number in front of a last minus sign that is followed by a digit. -/
theorem kindAt_inside_unknown {source : List Char} {token : Token} (member : token ∈ scan source)
    (unknown : token.kind = .unknown) {offset : Nat} {before text : List Char}
    (started : token.span.start.byte < offset) (ended : offset < token.span.stop.byte)
    (cut : splitAtByte? offset source = some (before, text)) :
    ∃ c rest, text = c :: rest ∧
      Lexeme.kindAt c rest =
        if c = '-' ∧ offset + 1 = token.span.stop.byte ∧ rest.head?.any Char.isDigit = true then
          .token .number
        else
          .token .unknown := by
  rcases stands_of_mem_scan member with ⟨earlier, after, whole, stands⟩
  rcases splitAtByte?_eq_some cut with ⟨parts, rfl⟩
  rcases stands.exists_cut (parts.symm.trans whole) started ended with
    ⟨first, c, second, rfl, inside, split, rfl⟩
  have leads := stands.leads
  rw [unknown, split] at leads
  refine ⟨c, second ++ after, rfl, ?_⟩
  rw [leads.kindAt_inside inside, stands.byte_stop, split]
  congr 1
  rw [eq_iff_iff, and_congr_right_iff]
  rintro rfl
  -- The minus sign takes one byte, so it is the last character if the token ends behind that.
  have minus : '-'.utf8Size = 1 := rfl
  constructor
  · rintro ⟨rfl, digit⟩
    exact ⟨by simp [minus, Nat.add_assoc], digit⟩
  · rintro ⟨last, digit⟩
    by_cases empty : second = []
    · subst empty
      exact ⟨rfl, digit⟩
    · have positive := utf8Length_pos empty
      simp only [utf8Length_append, utf8Length_cons, minus] at last
      omega

/-- Of two minus signs in front of a digit, the scanner would find a number at the second. -/
theorem kindAt_inside_unknown_minus :
    let source := "@--5".toList
    let run : Token := ⟨.unknown, "@--", ⟨⟨0, ⟨0, 0⟩⟩, ⟨3, ⟨0, 3⟩⟩⟩⟩
    run ∈ scan source ∧ splitAtByte? 1 source = some (['@'], ['-', '-', '5']) ∧
      splitAtByte? 2 source = some (['@', '-'], ['-', '5']) ∧
      Lexeme.kindAt '-' ['-', '5'] = .token .unknown ∧
      Lexeme.kindAt '-' ['5'] = .token .number := by
  intro source run
  have member : run ∈ scan source := by decide +kernel
  have first : splitAtByte? 1 source = some (['@'], ['-', '-', '5']) := by decide +kernel
  have second : splitAtByte? 2 source = some (['@', '-'], ['-', '5']) := by decide +kernel
  rcases kindAt_inside_unknown member rfl (by decide) (by decide) first with ⟨c, rest, same, found⟩
  rcases kindAt_inside_unknown member rfl (by decide) (by decide) second with
    ⟨d, more, alike, number⟩
  cases same
  cases alike
  exact ⟨member, first, second, found, number⟩

/-- A run of unknown characters does not stop wherever a token could start. -/
theorem not_forall_kindAt_unknown :
    ¬ ∀ (source : List Char), ∀ token ∈ scan source, token.kind = .unknown →
      ∀ (offset : Nat) (before : List Char) (c : Char) (rest : List Char),
        token.span.start.byte < offset → offset < token.span.stop.byte →
          splitAtByte? offset source = some (before, c :: rest) →
            Lexeme.kindAt c rest = .token .unknown := by
  intro stops
  let run : Token := ⟨.unknown, "@-", ⟨⟨0, ⟨0, 0⟩⟩, ⟨2, ⟨0, 2⟩⟩⟩⟩
  have member : run ∈ scan "@-5".toList := by decide +kernel
  have cut : splitAtByte? 1 "@-5".toList = some (['@'], ['-', '5']) := by decide +kernel
  have found := stops _ run member rfl 1 _ _ _ (by decide) (by decide) cut
  have number : Lexeme.kindAt '-' ['5'] = .token .number := by decide
  cases number.symm.trans found

end Token

end SetScript
