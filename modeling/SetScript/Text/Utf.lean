/-!
# Measuring text in bytes and in units

Tree coordinates count UTF-8 bytes, editor positions count UTF-16 units.  Text
is a list of characters here, so both are sums over its characters, and a byte
offset names a place in the text exactly when it is the length of a leading
part.
-/

namespace SetScript.Text

/-- The number of bytes that a text takes in UTF-8. -/
def utf8Length : List Char → Nat
  | [] => 0
  | c :: text => c.utf8Size + utf8Length text

/-- The number of units that a character takes in UTF-16. -/
def utf16Width (c : Char) : Nat :=
  if c.toNat < 0x10000 then 1 else 2

/-- The number of units that a text takes in UTF-16. -/
def utf16Length : List Char → Nat
  | [] => 0
  | c :: text => utf16Width c + utf16Length text

@[simp]
theorem utf8Length_nil : utf8Length [] = 0 :=
  rfl

@[simp]
theorem utf8Length_cons (c : Char) (text : List Char) :
    utf8Length (c :: text) = c.utf8Size + utf8Length text :=
  rfl

@[simp]
theorem utf8Length_append (first second : List Char) :
    utf8Length (first ++ second) = utf8Length first + utf8Length second := by
  induction first with
  | nil => simp
  | cons c first ih => simp [ih, Nat.add_assoc]

@[simp]
theorem utf16Length_nil : utf16Length [] = 0 :=
  rfl

@[simp]
theorem utf16Length_cons (c : Char) (text : List Char) :
    utf16Length (c :: text) = utf16Width c + utf16Length text :=
  rfl

@[simp]
theorem utf16Length_append (first second : List Char) :
    utf16Length (first ++ second) = utf16Length first + utf16Length second := by
  induction first with
  | nil => simp
  | cons c first ih => simp [ih, Nat.add_assoc]

/-- Every character takes at least one unit. -/
theorem utf16Width_pos (c : Char) : 0 < utf16Width c := by
  unfold utf16Width
  split <;> omega

/-- Cut a text at a byte offset.  There is no cut inside a character or beyond
the end. -/
def splitAtByte? : Nat → List Char → Option (List Char × List Char)
  | 0, text => some ([], text)
  | _ + 1, [] => none
  | offset + 1, c :: text =>
      if c.utf8Size ≤ offset + 1 then
        (splitAtByte? (offset + 1 - c.utf8Size) text).map fun parts =>
          (c :: parts.1, parts.2)
      else
        none

/-- A cut loses nothing, and its first part has the requested length. -/
theorem splitAtByte?_eq_some {offset : Nat} {text first second : List Char}
    (cut : splitAtByte? offset text = some (first, second)) :
    text = first ++ second ∧ utf8Length first = offset := by
  induction text generalizing offset first second with
  | nil =>
      cases offset with
      | zero => simp_all [splitAtByte?]
      | succ offset => simp [splitAtByte?] at cut
  | cons c text ih =>
      cases offset with
      | zero =>
          simp only [splitAtByte?, Option.some.injEq, Prod.mk.injEq] at cut
          rcases cut with ⟨rfl, rfl⟩
          simp
      | succ offset =>
          simp only [splitAtByte?] at cut
          split at cut
          · rcases Option.map_eq_some_iff.mp cut with ⟨parts, inner, equal⟩
            rcases Prod.mk.inj equal with ⟨rfl, rfl⟩
            rcases ih inner with ⟨whole, measured⟩
            refine ⟨by rw [whole]; rfl, ?_⟩
            rw [utf8Length_cons, measured]
            omega
          · exact absurd cut (by simp)

/-- Cutting after a leading part finds that part again. -/
theorem splitAtByte?_utf8Length (first second : List Char) :
    splitAtByte? (utf8Length first) (first ++ second) = some (first, second) := by
  induction first with
  | nil => simp [splitAtByte?]
  | cons c first ih =>
      have positive : 0 < c.utf8Size := Char.utf8Size_pos c
      obtain ⟨offset, offsetEq⟩ : ∃ offset, c.utf8Size + utf8Length first = offset + 1 :=
        ⟨c.utf8Size + utf8Length first - 1, by omega⟩
      have remaining : offset + 1 - c.utf8Size = utf8Length first := by omega
      rw [utf8Length_cons, offsetEq, List.cons_append, splitAtByte?, if_pos (by omega),
        remaining, ih]
      rfl

/-- The part of a text between two byte offsets, if both are places in it. -/
def slice? (text : List Char) (start stop : Nat) : Option (List Char) :=
  if start ≤ stop then
    (splitAtByte? start text).bind fun outer =>
      (splitAtByte? (stop - start) outer.2).map Prod.fst
  else
    none

end SetScript.Text
