import Mathlib.Data.List.Basic

/-!
# Stable sorting

Sorting puts a new first entry right before the entries that it does not come after, so
entries at one place keep their order.  It follows that entries can be left out before or
after sorting, and that a list whose early entries come before its late ones is sorted part
by part, in whatever order they stand.
-/

namespace SetScript.Sorting

variable {α : Type} {le : α → α → Bool}

/-- A comparison that orders all entries, where several may share one place. -/
structure Orders (le : α → α → Bool) : Prop where
  trans : ∀ first second third,
    le first second = true → le second third = true → le first third = true
  total : ∀ first second, (le first second || le second first) = true

/-- A list in which no early entry follows a late one consists of the early entries and the
late ones. -/
theorem filter_append_filter_not {early : α → Bool} {entries : List α}
    (ordered : entries.Pairwise fun first second => early second = true → early first = true) :
    entries.filter early ++ entries.filter (!early ·) = entries := by
  induction entries with
  | nil => rfl
  | cons entry entries ih =>
      obtain ⟨first, others⟩ := List.pairwise_cons.mp ordered
      by_cases isEarly : early entry = true
      · rw [List.filter_cons_of_pos isEarly, List.filter_cons_of_neg (by simp [isEarly]),
          List.cons_append, ih others]
      · have late : ∀ other ∈ entries, early other ≠ true :=
          fun other member => mt (first other member) isEarly
        have none : entries.filter early = [] := List.filter_eq_nil_iff.mpr late
        rw [List.filter_cons_of_neg isEarly, List.filter_cons_of_pos (by simp [isEarly]), none,
          List.nil_append, List.filter_eq_self.mpr fun other member => by simp [late other member]]

/-- What comes before an entry in a sorted list, and all others. -/
theorem filter_not_append_filter (orders : Orders le) (entry : α) {sorted : List α}
    (pairwise : sorted.Pairwise fun first second => le first second = true) :
    sorted.filter (!le entry ·) ++ sorted.filter (le entry) = sorted := by
  have split : sorted.filter (!le entry ·) ++ sorted.filter (!!le entry ·) = sorted := by
    apply filter_append_filter_not
    apply pairwise.imp
    intro first second isLe notBefore
    rw [Bool.not_eq_true', ← Bool.not_eq_true] at notBefore ⊢
    exact fun entryLe => notBefore (orders.trans entry first second entryLe isLe)
  simpa only [Bool.not_not] using split

/-- A new first entry comes between the sorted entries before it and all others. -/
theorem mergeSort_cons_eq (orders : Orders le) (entry : α) (entries : List α) :
    (entry :: entries).mergeSort le =
      (entries.mergeSort le).filter (!le entry ·) ++
        entry :: (entries.mergeSort le).filter (le entry) := by
  obtain ⟨before, behind, whole, split, notLe⟩ :=
    List.mergeSort_cons orders.trans orders.total entry entries
  have pairwise := List.pairwise_mergeSort orders.trans orders.total (entry :: entries)
  rw [whole, List.pairwise_append, List.pairwise_cons] at pairwise
  have isLe : ∀ other ∈ behind, le entry other = true := pairwise.2.1.1
  have noneBehind : behind.filter (!le entry ·) = [] :=
    List.filter_eq_nil_iff.mpr fun other member => by simp [isLe other member]
  have noneBefore : before.filter (le entry) = [] :=
    List.filter_eq_nil_iff.mpr fun other member => by simpa using notLe other member
  rw [whole, split, List.filter_append, List.filter_append, List.filter_eq_self.mpr notLe,
    List.filter_eq_self.mpr isLe, noneBehind, noneBefore, List.append_nil, List.nil_append]

/-- Entries can be left out before or after sorting. -/
theorem filter_mergeSort (orders : Orders le) (keep : α → Bool) (entries : List α) :
    (entries.mergeSort le).filter keep = (entries.filter keep).mergeSort le := by
  induction entries with
  | nil => simp
  | cons entry entries ih =>
      rw [mergeSort_cons_eq orders, List.filter_append, List.filter_comm keep (!le entry ·), ih]
      by_cases kept : keep entry = true
      · rw [List.filter_cons_of_pos kept, List.filter_cons_of_pos kept, mergeSort_cons_eq orders,
          List.filter_comm keep (le entry), ih]
      · rw [List.filter_cons_of_neg kept, List.filter_cons_of_neg kept,
          List.filter_comm keep (le entry), ih]
        exact filter_not_append_filter orders entry
          (List.pairwise_mergeSort orders.trans orders.total _)

/-- A list whose early entries come before its late ones is sorted part by part. -/
theorem mergeSort_eq_append (orders : Orders le) {early : α → Bool} {entries : List α}
    (apart : ∀ first ∈ entries, ∀ second ∈ entries, early first = true → early second = false →
      le second first = false) :
    entries.mergeSort le =
      (entries.filter early).mergeSort le ++ (entries.filter (!early ·)).mergeSort le := by
  rw [← filter_mergeSort orders, ← filter_mergeSort orders]
  apply (filter_append_filter_not _).symm
  have sorted := List.pairwise_mergeSort orders.trans orders.total entries
  apply sorted.imp_of_mem
  intro first second isFirst isSecond isLe secondEarly
  by_contra late
  rw [Bool.not_eq_true] at late
  have notLe := apart second (List.mem_mergeSort.mp isSecond) first (List.mem_mergeSort.mp isFirst)
    secondEarly late
  cases isLe.symm.trans notLe

/-- Entries that come in several parts, each part with early entries and then late ones, are
sorted into all early entries and all late ones. -/
theorem mergeSort_flatMap_append (orders : Orders le) {β : Type} {parts : List β}
    {early : α → Bool} {firsts seconds : β → List α}
    (areEarly : ∀ part ∈ parts, ∀ entry ∈ firsts part, early entry = true)
    (areLate : ∀ part ∈ parts, ∀ entry ∈ seconds part, early entry = false)
    (apart : ∀ first second, early first = true → early second = false → le second first = false) :
    (parts.flatMap fun part => firsts part ++ seconds part).mergeSort le =
      (parts.flatMap firsts).mergeSort le ++ (parts.flatMap seconds).mergeSort le := by
  have earlyPart : (parts.flatMap fun part => firsts part ++ seconds part).filter early =
      parts.flatMap firsts := by
    rw [List.filter_flatMap]
    apply List.flatMap_congr
    intro part member
    have none : (seconds part).filter early = [] :=
      List.filter_eq_nil_iff.mpr fun entry isEntry => by simp [areLate part member entry isEntry]
    rw [List.filter_append, List.filter_eq_self.mpr (areEarly part member), none, List.append_nil]
  have latePart : (parts.flatMap fun part => firsts part ++ seconds part).filter (!early ·) =
      parts.flatMap seconds := by
    rw [List.filter_flatMap]
    apply List.flatMap_congr
    intro part member
    have none : (firsts part).filter (!early ·) = [] :=
      List.filter_eq_nil_iff.mpr fun entry isEntry => by simp [areEarly part member entry isEntry]
    have all : (seconds part).filter (!early ·) = seconds part :=
      List.filter_eq_self.mpr fun entry isEntry => by simp [areLate part member entry isEntry]
    rw [List.filter_append, none, all, List.nil_append]
  rw [mergeSort_eq_append orders fun first _ second _ => apart first second, earlyPart, latePart]

end SetScript.Sorting
