import SetScript.Tree.Forest

/-!
# Grammars of scripts

A grammar says which token lists are scripts.

```text
program    := items
expression := identifier | string | number | '(' items ')' | identifier '(' items ')'
items      := (expression | ',' | ';')*
```

Which items may follow each other in a document, in parentheses and in arguments is left
to the rules, and two of them matter.  By the loose rules expressions and separators stand
in any order; by the strict rules parentheses hold one expression, and commas separate the
arguments.

A list of tokens may have several derivations: `a (b)` is one call or two expressions.
Rules are lawful when it does not matter which of them is found.
-/

namespace SetScript

namespace Grammar

/-- What a document or a list is made of. -/
inductive Item
  | expression
  | comma
  | semicolon
deriving DecidableEq

/-- Which items may follow each other inside of an enclosure. -/
abbrev Rules :=
  Enclosure → List Item → Prop

mutual

/-- The token lists that are expressions, with lists nested at most so deep. -/
inductive Expression (rules : Rules) : Nat → List TokenKind → Prop
  | identifier {room : Nat} : Expression rules room [.identifier]
  | string {room : Nat} : Expression rules room [.string]
  | number {room : Nat} : Expression rules room [.number]
  | parenthesized {room : Nat} {items : List Item} {body : List TokenKind}
      (inside : Items rules room items body) (fits : rules .parentheses items) :
      Expression rules (room + 1) (.openParen :: (body ++ [.closeParen]))
  | call {room : Nat} {items : List Item} {body : List TokenKind}
      (inside : Items rules room items body) (fits : rules .arguments items) :
      Expression rules (room + 1) (.identifier :: .openParen :: (body ++ [.closeParen]))

/-- The token lists that are made of some items, one after another. -/
inductive Items (rules : Rules) : Nat → List Item → List TokenKind → Prop
  | nil {room : Nat} : Items rules room [] []
  | expression {room : Nat} {items : List Item} {first rest : List TokenKind}
      (isExpression : Expression rules room first) (others : Items rules room items rest) :
      Items rules room (.expression :: items) (first ++ rest)
  | comma {room : Nat} {items : List Item} {rest : List TokenKind}
      (others : Items rules room items rest) :
      Items rules room (.comma :: items) (.comma :: rest)
  | semicolon {room : Nat} {items : List Item} {rest : List TokenKind}
      (others : Items rules room items rest) :
      Items rules room (.semicolon :: items) (.semicolon :: rest)

end

/-- The token lists that are scripts. -/
def Program (rules : Rules) (tokens : List TokenKind) : Prop :=
  ∃ items, Items rules Forest.maxDepth items tokens ∧ rules .document items

/-! ## Loose and strict rules -/

/-- Where an item may stand at all. -/
def Item.StandsIn : Item → Enclosure → Prop
  | expression, _ => True
  | comma, enclosure => enclosure = .arguments
  | semicolon, enclosure => enclosure = .document

/-- Items stand in any order: `(expression | ';')*` in a document, `expression*` in
parentheses, and `(expression | ',')*` in arguments. -/
def loose : Rules := fun enclosure items =>
  ∀ item ∈ items, item.StandsIn enclosure

/-- Expressions with commas between them, and maybe one behind the last:
`[expression (',' expression)* [',']]`. -/
inductive CommaSeparated : List Item → Prop
  | nil : CommaSeparated []
  | last : CommaSeparated [.expression]
  | cons {items : List Item} (others : CommaSeparated items) :
      CommaSeparated (.expression :: .comma :: items)

/-- One expression stands in parentheses, and commas separate arguments. -/
def strict : Rules
  | .document => loose .document
  | .parentheses => (· = [.expression])
  | .arguments => CommaSeparated

/-! ## Rules that do not depend on the derivation -/

/-- An identifier and parentheses behind it may be one item or two.  Some items become
others when expressions are taken together in this way. -/
inductive Merges : List Item → List Item → Prop
  | nil : Merges [] []
  | keep {item : Item} {items merged : List Item} (others : Merges items merged) :
      Merges (item :: items) (item :: merged)
  | merge {items merged : List Item} (others : Merges items (.expression :: merged)) :
      Merges (.expression :: items) (.expression :: merged)

/-- Rules that hold of items as a derivation finds them exactly when they hold of items as
they are read. -/
structure Rules.Lawful (rules : Rules) : Prop where
  standsIn {enclosure : Enclosure} {items : List Item} (fits : rules enclosure items) :
    ∀ item ∈ items, item.StandsIn enclosure
  merges {enclosure : Enclosure} {items merged : List Item} (fits : rules enclosure items)
    (merges : Merges items merged) : rules enclosure merged
  /-- What stands in parentheses can be the arguments of a call. -/
  arguments {items : List Item} (fits : rules .parentheses items) : rules .arguments items

theorem Merges.subset {items merged : List Item} (merges : Merges items merged) :
    merged ⊆ items := by
  induction merges with
  | nil => exact List.Subset.refl _
  | keep others ih => exact List.cons_subset_cons _ ih
  | merge others ih => exact List.subset_cons_of_subset _ ih

theorem lawful_loose : loose.Lawful where
  standsIn fits := fits
  merges fits merges := fun item member => fits item (merges.subset member)
  arguments fits := by
    intro item member
    have inParentheses := fits item member
    cases item with
    | expression => exact trivial
    | comma => cases inParentheses
    | semicolon => cases inParentheses

/-- Between commas there is nothing to take together. -/
theorem CommaSeparated.eq_of_merges {items merged : List Item} (separated : CommaSeparated items)
    (merges : Merges items merged) : merged = items := by
  induction separated generalizing merged with
  | nil =>
      cases merges
      rfl
  | last =>
      cases merges with
      | keep others =>
          cases others
          rfl
      | merge others => cases others
  | cons others ih =>
      cases merges with
      | keep afterFirst =>
          cases afterFirst with
          | keep afterComma => rw [ih afterComma]
      | merge afterFirst => cases afterFirst

theorem CommaSeparated.semicolon_not_mem {items : List Item} (separated : CommaSeparated items) :
    .semicolon ∉ items := by
  induction separated with
  | nil | last => simp
  | cons others ih => simpa using ih

theorem lawful_strict : strict.Lawful where
  standsIn {enclosure items} fits := by
    intro item member
    cases enclosure with
    | document => exact fits item member
    | parentheses =>
        have only : items = [.expression] := fits
        rw [only, List.mem_singleton] at member
        rw [member]
        exact trivial
    | arguments =>
        cases item with
        | expression => exact trivial
        | comma => rfl
        | semicolon => exact absurd member (CommaSeparated.semicolon_not_mem fits)
  merges {enclosure items merged} fits merges := by
    cases enclosure with
    | document => exact lawful_loose.merges fits merges
    | parentheses =>
        have only : items = [.expression] := fits
        subst only
        exact CommaSeparated.last.eq_of_merges merges
    | arguments =>
        rw [CommaSeparated.eq_of_merges fits merges]
        exact fits
  arguments {items} fits := by
    have only : items = [.expression] := fits
    rw [only]
    exact CommaSeparated.last

end Grammar

end SetScript
