import Mathlib.Data.List.Basic
import SetScript.Uri.Basic

/-!
# The normal form of identifiers

However an identifier is spelled, its text holds printable characters of the first 128 code
points only, no segment of its path is a dot or two dots, and no port is written that is meant
anyway.

Each part of an identifier is shown to be so where it is read: what is escaped, what is spelled,
the digits of numbers, and the segments of a path.
-/

namespace SetScript.Uri

open Text

/-! ## Texts of characters that can stand in an identifier -/

/-- All characters of a text can stand in an identifier. -/
def Allowed (text : List Char) : Prop :=
  ∀ c ∈ text, isAllowed c = true

namespace Allowed

variable {text other : List Char}

theorem nil : Allowed [] :=
  nofun

theorem cons {c : Char} (first : isAllowed c = true) (rest : Allowed text) : Allowed (c :: text) :=
  List.forall_mem_cons.mpr ⟨first, rest⟩

theorem append (first : Allowed text) (second : Allowed other) : Allowed (text ++ other) :=
  List.forall_mem_append.mpr ⟨first, second⟩

theorem of_all (all : text.all isAllowed = true) : Allowed text :=
  List.all_eq_true.mp all

theorem flatMap {α : Type} {items : List α} {write : α → List Char}
    (all : ∀ item ∈ items, Allowed (write item)) : Allowed (items.flatMap write) := by
  intro c member
  rcases List.mem_flatMap.mp member with ⟨item, there, inside⟩
  exact all item there c inside

theorem intercalate {texts : List (List Char)} (divider : Allowed text)
    (all : ∀ part ∈ texts, Allowed part) : Allowed (text.intercalate texts) := by
  induction texts with
  | nil => exact nil
  | cons part rest ih =>
      have later := ih fun part member => all part (List.mem_cons_of_mem _ member)
      have first := all part List.mem_cons_self
      cases rest with
      | nil => simpa [List.intercalate] using first
      | cons next rest =>
          have same : text.intercalate (part :: next :: rest) =
              part ++ (text ++ text.intercalate (next :: rest)) := by
            simp [List.intercalate]
          rw [same]
          exact first.append (divider.append later)

end Allowed

/-! ## Escapes and digits -/

theorem allowed_escapeByte (byte : UInt8) : Allowed (escapeByte byte) := by
  have digits : ∀ value < 16, isAllowed (Nat.digitChar value).toUpper = true := by decide
  have := byte.toNat_lt
  exact .cons rfl (.cons (digits _ (by omega)) (.cons (digits _ (by omega)) .nil))

/-- What is escaped can stand in an identifier. -/
theorem allowed_escape (reserved text : List Char) : Allowed (escape reserved text) := by
  refine .flatMap fun c _ => ?_
  split
  · rename_i kept
    exact .cons (Bool.and_eq_true_iff.mp kept).1 .nil
  · exact .flatMap fun byte _ => allowed_escapeByte byte

theorem mem_toDigitsCore {base : Nat} (positive : 0 < base) {c : Char} (fuel number : Nat)
    (digits : List Char) (member : c ∈ Nat.toDigitsCore base fuel number digits) :
    c ∈ digits ∨ ∃ value < base, c = Nat.digitChar value := by
  induction fuel generalizing number digits with
  | zero => exact .inl member
  | succ fuel ih =>
      have here : c ∈ Nat.digitChar (number % base) :: digits →
          c ∈ digits ∨ ∃ value < base, c = Nat.digitChar value := by
        intro inside
        rcases List.mem_cons.mp inside with rfl | later
        · exact .inr ⟨_, Nat.mod_lt _ positive, rfl⟩
        · exact .inl later
      rw [Nat.toDigitsCore] at member
      split at member
      · exact here member
      · rcases ih _ _ member with inside | digit
        · exact here inside
        · exact .inr digit

theorem allowed_toDigits {base : Nat} (positive : 0 < base) (small : base ≤ 16) (number : Nat) :
    Allowed (Nat.toDigits base number) := by
  have digits : ∀ value < 16, isAllowed (Nat.digitChar value) = true := by decide
  intro c member
  rcases mem_toDigitsCore positive _ _ _ member with nowhere | ⟨value, below, rfl⟩
  · cases nowhere
  · exact digits value (Nat.lt_of_lt_of_le below small)

/-! ## Hosts -/

namespace Punycode

theorem allowed_digitOf {value : Nat} (below : value < base) : isAllowed (digitOf value) = true := by
  have digits : ∀ value < 36, isAllowed (digitOf value) = true := by decide
  exact digits value below

theorem allowed_digitsOf (bias position number : Nat) :
    Allowed (digitsOf bias position number) := by
  induction position, number using digitsOf.induct bias with
  | case1 position number threshold last =>
      have := thresholdAt_bounds position bias
      rw [digitsOf, if_pos last]
      exact .cons (allowed_digitOf (by unfold base; omega)) .nil
  | case2 position number threshold more ih =>
      have := thresholdAt_bounds position bias
      have small := Nat.mod_lt (number - thresholdAt position bias)
        (show 0 < base - thresholdAt position bias by unfold base; omega)
      rw [digitsOf, if_neg more]
      exact .cons (allowed_digitOf (by omega)) ih

theorem allowed_run (encoder : Encoder) (places : List (Nat × Nat)) :
    Allowed (encoder.run places) := by
  induction places generalizing encoder with
  | nil => exact .nil
  | cons entry rest ih => exact (allowed_digitsOf _ _ _).append (ih _)

theorem allowed_encode {label : List Char}
    (plain : ∀ c ∈ label, isAscii c = true → isAllowed c = true) : Allowed (encode label) := by
  refine .append (.append ?_ ?_) (allowed_run _ _)
  · intro c member
    exact plain c (List.mem_of_mem_filter member) (List.mem_filter.mp member).2
  · split
    · exact .nil
    · exact .cons rfl .nil

end Punycode

theorem subset_of_mem_divide {isDivider : Char → Bool} {text part : List Char}
    (member : part ∈ divide isDivider text) : part ⊆ text := by
  induction text generalizing part with
  | nil => simp_all [divide]
  | cons c rest ih =>
      rw [divide] at member
      split at member
      · rcases List.mem_cons.mp member with rfl | later
        · exact List.nil_subset _
        · exact List.subset_cons_of_subset c (ih later)
      · cases parts : divide isDivider rest with
        | nil =>
            rw [parts] at member
            rw [List.mem_singleton.mp member]
            simp
        | cons first others =>
            rw [parts] at ih member
            rcases List.mem_cons.mp member with rfl | later
            · exact List.cons_subset_cons c (ih List.mem_cons_self)
            · exact List.subset_cons_of_subset c (ih (List.mem_cons_of_mem _ later))

/-- A domain in its normal form can stand in an identifier. -/
theorem allowed_of_normalDomain? {text name : List Char} (normal : normalDomain? text = some name) :
    Allowed name := by
  rw [normalDomain?, Option.bind_eq_some_iff] at normal
  rcases normal with ⟨forms, -, normal⟩
  rcases Option.bind_eq_some_iff.mp normal with ⟨labels, -, normal⟩
  simp only at normal
  split at normal
  · cases normal
  · rename_i fine
    cases normal
    have permitted : ∀ c ∈ composed forms.flatten, isForbiddenInDomain c = false := by
      simp only [Bool.or_eq_true, not_or, Bool.not_eq_true, List.any_eq_false] at fine
      exact fine.1.1
    refine .intercalate (.cons rfl .nil) fun part spelled => ?_
    rcases List.mem_map.mp spelled with ⟨label, member, rfl⟩
    have plain : ∀ c ∈ label, isAscii c = true → isAllowed c = true := by
      intro c inside ascii
      have := permitted c (subset_of_mem_divide member inside)
      simp only [isForbiddenInDomain, isAscii, isAllowed, Bool.or_eq_false_iff,
        decide_eq_false_iff_not, decide_eq_true_eq, Bool.and_eq_true] at *
      omega
    rw [spellLabel]
    split
    · rename_i ascii
      exact fun c inside => plain c inside (List.all_eq_true.mp ascii c inside)
    · exact .append (.of_all (by decide)) (Punycode.allowed_encode plain)

namespace HostName

/-- A host can be written if its domain can, for there is nothing to addresses but digits. -/
theorem allowed_text {host : HostName}
    (names : ∀ name, host = .domain name → Allowed name) : Allowed host.text := by
  have decimal : ∀ number, Allowed (Nat.toDigits 10 number) :=
    allowed_toDigits (by decide) (by decide)
  have hexadecimal : ∀ number, Allowed (Nat.toDigits 16 number) :=
    allowed_toDigits (by decide) (by decide)
  have joined : ∀ groups : List Nat, Allowed ([':'].intercalate (groups.map (Nat.toDigits 16))) := by
    intro groups
    refine .intercalate (.cons rfl .nil) fun part member => ?_
    rcases List.mem_map.mp member with ⟨number, -, rfl⟩
    exact hexadecimal number
  cases host with
  | absent => exact .nil
  | domain name => exact names name rfl
  | byteAddress bytes =>
      refine .intercalate (.cons rfl .nil) fun part member => ?_
      rcases List.mem_map.mp member with ⟨number, -, rfl⟩
      exact decimal number
  | groupAddress groups =>
      refine .append (.append (.cons rfl .nil) ?_) (.cons rfl .nil)
      rw [groupAddressText]
      split
      · exact joined _
      · exact .append (.append (joined _) (.cons rfl (.cons rfl .nil))) (joined _)

end HostName

theorem allowed_of_bracketed {text : List Char} {host : HostName}
    (read : bracketed text = .ok host) : Allowed host.text := by
  apply HostName.allowed_text
  rintro name rfl
  rw [bracketed] at read
  split at read
  · split at read <;> cases read
  · cases read

theorem allowed_of_plainHost {text : List Char} {host : HostName}
    (read : plainHost text = .ok host) : Allowed host.text := by
  apply HostName.allowed_text
  rintro name rfl
  rw [plainHost] at read
  split at read
  · rename_i normal found
    rcases Option.bind_eq_some_iff.mp found with ⟨decoded, -, isNormal⟩
    rw [namedHost] at read
    split at read
    · cases read
    split at read
    · cases read
      exact allowed_of_normalDomain? isNormal
    split at read <;> cases read
  · cases read

theorem allowed_of_domainHost {text : List Char} {host : HostName}
    (read : domainHost text = .ok host) : Allowed host.text := by
  rw [domainHost.eq_def] at read
  split at read
  · exact allowed_of_bracketed read
  · exact allowed_of_plainHost read

theorem allowed_of_openHost {text : List Char} {host : HostName}
    (read : openHost text = .ok host) : Allowed host.text := by
  rw [openHost.eq_def] at read
  split at read
  · exact allowed_of_bracketed read
  rw [looseHost] at read
  split at read
  · cases read
    exact .nil
  split at read
  · cases read
  · cases read
    exact allowed_escape _ _

namespace Authority

/-- An authority in its normal form. -/
structure IsNormal (scheme : List Char) (authority : Authority) : Prop where
  user : Allowed authority.user
  host : Allowed authority.host.text
  /-- The usual port is left out. -/
  port : ∀ port, authority.port? = some port → usualPort? scheme ≠ some port

theorem IsNormal.text {scheme : List Char} {authority : Authority}
    (normal : authority.IsNormal scheme) : Allowed authority.text := by
  refine .append (.append (.append normal.user ?_) normal.host) ?_
  · split
    · exact .nil
    · exact .cons rfl .nil
  · split
    · exact .cons rfl (allowed_toDigits (by decide) (by decide) _)
    · exact .nil

theorem allowed_writeUser (user : List Char) : Allowed (writeUser user) := by
  refine .append (allowed_escape _ _) ?_
  split
  · exact .nil
  · exact .cons rfl (allowed_escape _ _)

theorem ne_of_portOf? {scheme digits : List Char} {port : Nat}
    (written : portOf? scheme digits = some port) : usualPort? scheme ≠ some port := by
  rw [portOf?] at written
  split at written
  · cases written
  · simpa using (Option.filter_eq_some_iff.mp written).2

theorem isNormal_of_read {scheme text left : List Char} {isLast : Bool} {authority : Authority}
    (reads : read scheme isLast text = .ok (authority, left)) : authority.IsNormal scheme := by
  simp only [read] at reads
  split at reads
  · cases reads
  split at reads
  · cases reads
  split at reads
  · cases reads
  rename_i host named
  split at reads
  · cases reads
  split at reads
  · cases reads
  cases reads
  refine ⟨allowed_writeUser _, ?_, fun port => ne_of_portOf?⟩
  split at named
  · exact allowed_of_domainHost named
  · exact allowed_of_openHost named

end Authority

/-! ## Paths -/

/-- A segment of a path in its normal form is neither one dot nor two dots. -/
structure IsSettled (segment : List Char) : Prop where
  allowed : Allowed segment
  notHere : isHere segment = false
  notUp : isUp segment = false

theorem isSettled_nil : IsSettled [] :=
  ⟨.nil, rfl, rfl⟩

theorem isSettled_enter (kind : SchemeKind) (above : List (List Char)) {segment : List Char}
    (settled : IsSettled segment) : IsSettled (enter kind above segment) := by
  rw [enter]
  split
  · rename_i drive
    rcases segment with _ | ⟨letter, _ | ⟨mark, _ | _⟩⟩ <;> try cases drive.2.2
    exact ⟨.cons (settled.allowed letter List.mem_cons_self) (.cons rfl .nil), by
      simp [isHere, plainDots], by simp [isUp, plainDots]⟩
  · exact settled

/-- Following a path leaves no dots in it. -/
theorem isSettled_of_mem_follow {kind : SchemeKind} {above segments : List (List Char)}
    (before : ∀ segment ∈ above, IsSettled segment) (allowed : ∀ segment ∈ segments, Allowed segment) :
    ∀ segment ∈ follow kind above segments, IsSettled segment := by
  induction segments generalizing above with
  | nil => simpa [follow] using before
  | cons segment rest ih =>
      have later : ∀ {directory : List (List Char)}, (∀ segment ∈ directory, IsSettled segment) →
          ∀ segment ∈ follow kind directory rest, IsSettled segment :=
        fun entered => ih entered fun part member => allowed part (List.mem_cons_of_mem _ member)
      have settle : ∀ {directory : List (List Char)}, (∀ segment ∈ directory, IsSettled segment) →
          ∀ segment ∈ (if rest.isEmpty then [] :: directory else directory), IsSettled segment := by
        intro directory entered
        split
        · exact List.forall_mem_cons.mpr ⟨isSettled_nil, entered⟩
        · exact entered
      rw [follow]
      split
      · apply later
        apply settle
        split
        · exact before
        · exact fun part member => before part (List.mem_of_mem_drop member)
      · rename_i notUp
        split
        · exact later (settle before)
        · rename_i notHere
          refine later (List.forall_mem_cons.mpr ⟨isSettled_enter kind above ?_, before⟩)
          exact ⟨allowed segment List.mem_cons_self, Bool.not_eq_true _ ▸ notHere,
            Bool.not_eq_true _ ▸ notUp⟩

theorem isSettled_of_mem_segmentsOf {kind : SchemeKind} {path segment : List Char}
    (member : segment ∈ segmentsOf kind path) : IsSettled segment := by
  refine isSettled_of_mem_follow (List.forall_mem_nil _) (fun part mapped => ?_) _ member
  rcases List.mem_map.mp mapped with ⟨written, -, rfl⟩
  exact allowed_escape _ _

theorem isSettled_of_mem_withoutMargin {segments : List (List Char)}
    (settled : ∀ segment ∈ segments, IsSettled segment) :
    ∀ segment ∈ withoutMargin segments, IsSettled segment := by
  rw [withoutMargin]
  split
  · exact List.forall_mem_cons.mpr ⟨isSettled_nil, nofun⟩
  · exact fun segment member => settled segment ((List.dropWhile_sublist _).mem member)

/-! ## Identifiers -/

/-- An identifier in its normal form. -/
structure IsNormal (uri : Uri) : Prop where
  scheme : Allowed uri.scheme
  authority : ∀ authority, uri.authority? = some authority → authority.IsNormal uri.scheme
  segments : ∀ segments, uri.segments? = some segments → ∀ segment ∈ segments, IsSettled segment
  content : Allowed uri.content
  query : ∀ query, uri.query? = some query → Allowed query
  fragment : ∀ fragment, uri.fragment? = some fragment → Allowed fragment

namespace IsNormal

variable {uri : Uri}

theorem path (normal : uri.IsNormal) : Allowed uri.path := by
  rw [Uri.path]
  split
  · rename_i segments there
    exact .flatMap fun segment member =>
      .cons rfl (normal.segments segments there segment member).allowed
  · exact normal.content

/-- The text of an identifier holds no other characters than those that can stand in one. -/
theorem text (normal : uri.IsNormal) : ∀ c ∈ uri.text.toList, isAllowed c = true := by
  have marked : ∀ {mark : Char} {part? : Option (List Char)}, isAllowed mark = true →
      (∀ part, part? = some part → Allowed part) →
        Allowed ((part?.map (mark :: ·)).getD []) := by
    intro mark part? allowed all
    cases part? with
    | none => exact .nil
    | some part => exact .cons allowed (all part rfl)
  rw [Uri.text, String.toList_ofList]
  refine Allowed.append (.append (.append (.append (.append normal.scheme ?_) ?_) normal.path) ?_) ?_
  · exact .cons rfl .nil
  · split
    · rename_i authority there
      exact .append (.cons rfl (.cons rfl .nil)) (normal.authority authority there).text
    · split
      · exact .cons rfl (.cons rfl .nil)
      · exact .nil
  · exact marked rfl normal.query
  · exact marked rfl normal.fragment

/-- The query and the fragment are escaped when they are taken over. -/
theorem withQueryOf {scheme content : List Char} {authority? : Option Authority}
    {segments? : Option (List (List Char))} (allowed : Allowed scheme)
    (authority : ∀ authority, authority? = some authority → authority.IsNormal scheme)
    (segments : ∀ segments, segments? = some segments → ∀ segment ∈ segments, IsSettled segment)
    (plain : Allowed content) (kind : SchemeKind) (text : List Char) :
    (Uri.withQueryOf ⟨scheme, authority?, segments?, content, none, none⟩ kind text).IsNormal := by
  have escaped : ∀ (reserved : List Char) (part? : Option (List Char)) (part : List Char),
      part?.map (escape reserved) = some part → Allowed part := by
    intro reserved part? part there
    rcases Option.map_eq_some_iff.mp there with ⟨written, -, rfl⟩
    exact allowed_escape _ _
  exact ⟨allowed, authority, segments, plain, escaped _ _, escaped _ _⟩

end IsNormal

theorem exists_of_map_eq_ok {α β : Type} {attempt : Except Problem α} {f : α → β} {result : β}
    (mapped : attempt.map f = .ok result) : ∃ value, attempt = .ok value ∧ f value = result := by
  cases attempt with
  | error problem => cases mapped
  | ok value => exact ⟨value, rfl, Except.ok.inj mapped⟩

theorem isNormal_ofAuthority {scheme text : List Char} {uri : Uri} (allowed : Allowed scheme)
    (reads : ofAuthority scheme text = .ok uri) : uri.IsNormal := by
  rcases exists_of_map_eq_ok reads with ⟨⟨authority, left⟩, read, rfl⟩
  refine .withQueryOf allowed ?_ ?_ .nil _ _
  · rintro authority ⟨⟩
    exact Authority.isNormal_of_read read
  · intro segments there segment member
    split at there
    · cases there
      exact isSettled_of_mem_segmentsOf member
    · cases there

theorem isNormal_ofFile {host : HostName} (allowed : Allowed host.text) (path : List Char) :
    (ofFile host path).IsNormal := by
  have scheme : Allowed "file".toList := .of_all (by decide)
  refine .withQueryOf scheme ?_ ?_ .nil _ _
  · rintro authority ⟨⟩
    refine ⟨.nil, ?_, nofun⟩
    simp only
    split
    · exact .nil
    · exact allowed
  · rintro segments ⟨⟩
    exact isSettled_of_mem_withoutMargin fun segment => isSettled_of_mem_segmentsOf

theorem isNormal_fileUri {text : List Char} {uri : Uri} (reads : fileUri text = .ok uri) :
    uri.IsNormal := by
  have bare : ∀ path, (ofFile .absent path).IsNormal := isNormal_ofFile .nil
  rw [fileUri.eq_def] at reads
  split at reads
  · split at reads
    · simp only at reads
      split at reads
      · cases reads
        exact bare _
      split at reads
      · cases reads
        exact bare _
      · rcases exists_of_map_eq_ok reads with ⟨host, named, rfl⟩
        apply isNormal_ofFile
        split
        · exact .nil
        · exact allowed_of_domainHost named
    · cases reads
      exact bare _
  · cases reads
    exact bare _

theorem isNormal_openUri {scheme text : List Char} {uri : Uri} (allowed : Allowed scheme)
    (reads : openUri scheme text = .ok uri) : uri.IsNormal := by
  rw [openUri.eq_def] at reads
  split at reads
  · exact isNormal_ofAuthority allowed reads
  · cases reads
    refine .withQueryOf allowed (fun _ none => ?_) ?_ .nil _ _
    · cases none
    · rintro segments ⟨⟩ segment member
      exact isSettled_of_mem_segmentsOf member
  · cases reads
    refine .withQueryOf allowed (fun _ none => ?_) (fun _ none => ?_) (allowed_escape _ _) _ _
    · cases none
    · cases none

theorem isAllowed_of_between {c low high : Char} (above : low ≤ c) (below : c ≤ high)
    (printable : 32 ≤ low.toNat) (ascii : high.toNat < 127) : isAllowed c = true := by
  have above : low.toNat ≤ c.toNat := above
  have below : c.toNat ≤ high.toNat := below
  simp only [isAllowed, Bool.and_eq_true, decide_eq_true_eq]
  omega

theorem isAllowed_of_isAlphanum {c : Char} (alphanumeric : c.isAlphanum = true) :
    isAllowed c = true := by
  rcases Bool.or_eq_true_iff.mp alphanumeric with letter | digit
  · rcases Bool.or_eq_true_iff.mp letter with upper | lower
    · have bounds : 'A' ≤ c ∧ c ≤ 'Z' := of_decide_eq_true upper
      exact isAllowed_of_between bounds.1 bounds.2 (by decide) (by decide)
    · have bounds := Bool.and_eq_true_iff.mp lower
      have above : 'a' ≤ c := of_decide_eq_true bounds.1
      exact isAllowed_of_between above (of_decide_eq_true bounds.2) (by decide) (by decide)
  · have bounds := Bool.and_eq_true_iff.mp digit
    have above : '0' ≤ c := of_decide_eq_true bounds.1
    exact isAllowed_of_between above (of_decide_eq_true bounds.2) (by decide) (by decide)

theorem isAllowed_toLower {c : Char} (allowed : isAllowed c = true) :
    isAllowed c.toLower = true := by
  have each : ∀ code < 127, isAllowed (Char.ofNat code) → isAllowed (Char.ofNat code).toLower := by
    decide
  have small : c.toNat < 127 := of_decide_eq_true (Bool.and_eq_true_iff.mp allowed).2
  rw [← Char.ofNat_toNat c] at allowed ⊢
  exact each _ small allowed

/-- A scheme consists of letters, digits and a few signs. -/
theorem allowed_of_splitScheme? {text scheme rest : List Char}
    (found : splitScheme? text = some (scheme, rest)) : Allowed (scheme.map Char.toLower) := by
  have written : Allowed scheme := by
    simp only [splitScheme?] at found
    split at found
    · split at found
      · cases found
        intro c member
        have stands := List.all_eq_true.mp List.all_takeWhile c member
        simp only [Bool.or_eq_true, beq_iff_eq] at stands
        rcases stands with ((alphanumeric | rfl) | rfl) | rfl
        · exact isAllowed_of_isAlphanum alphanumeric
        all_goals rfl
      · cases found
    · cases found
  intro c member
  rcases List.mem_map.mp member with ⟨original, there, rfl⟩
  exact isAllowed_toLower (written original there)

/-- What is read is in its normal form. -/
theorem isNormal_of_parse {text : String} {uri : Uri} (reads : parse text = .ok uri) :
    uri.IsNormal := by
  rw [parse] at reads
  split at reads
  · cases reads
  rename_i written rest found
  have allowed := allowed_of_splitScheme? found
  simp only at reads
  split at reads
  · exact isNormal_fileUri reads
  · exact isNormal_ofAuthority allowed reads
  · exact isNormal_openUri allowed reads

example : normalize "file:///tmp/../a b.setl" = "file:///a%20b.setl" := by decide +kernel

end SetScript.Uri
