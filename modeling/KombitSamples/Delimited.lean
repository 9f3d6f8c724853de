import Mathlib.Data.List.Infix

/-!
# Delimited

The search of a list in one that is made of parts with a separator between
them.

* `isInfix_iff_exists_mem_splitOn` — a list without the separator occurs where
  it occurs in a part;
* `isInfix_delimited_iff` — a name and a value with a separator between them
  occur in such a pair where the one ends and the other begins, or in the value
  alone.
-/

namespace Delimited

variable {α : Type} {sep : α} {l name key : List α}

/-! ## Parts -/

/-- Before a separator, a list without it begins only where it ends. -/
theorem isPrefix_append_cons_iff (h : sep ∉ l) (part rest : List α) :
    l <+: part ++ sep :: rest ↔ l <+: part := by
  constructor
  · intro hprefix
    rcases List.prefix_or_prefix_of_prefix hprefix (List.prefix_append part (sep :: rest)) with
      hle | ⟨more, rfl⟩
    · exact hle
    · rw [List.prefix_append_right_inj] at hprefix
      cases more with
      | nil => rw [List.append_nil]
      | cons a more =>
          obtain ⟨rfl, -⟩ := List.cons_prefix_cons.mp hprefix
          exact absurd (List.mem_append_right part List.mem_cons_self) h
  · intro hprefix
    exact hprefix.trans (List.prefix_append part _)

/-- A list without the separator occurs on one side of it. -/
theorem isInfix_append_cons_iff (h : sep ∉ l) (part rest : List α) :
    l <:+: part ++ sep :: rest ↔ l <:+: part ∨ l <:+: rest := by
  induction part with
  | nil =>
      have hprefix := isPrefix_append_cons_iff h [] rest
      rw [List.nil_append] at hprefix
      rw [List.nil_append, List.infix_cons_iff, hprefix, List.prefix_nil, List.infix_nil]
  | cons a part ih =>
      have hprefix := isPrefix_append_cons_iff h (a :: part) rest
      rw [List.cons_append] at hprefix
      rw [List.cons_append, List.infix_cons_iff, hprefix, ih, List.infix_cons_iff, or_assoc]

theorem intercalate_cons (part next : List α) (parts : List (List α)) :
    [sep].intercalate (part :: next :: parts) =
      part ++ sep :: [sep].intercalate (next :: parts) := by
  rw [List.intercalate_cons_cons, List.append_assoc, List.singleton_append]

/-- Parts occur in what they are put together to. -/
theorem isInfix_intercalate_of_mem {part : List α} {parts : List (List α)} (h : part ∈ parts) :
    part <:+: [sep].intercalate parts := by
  induction parts with
  | nil => cases h
  | cons first parts ih =>
      cases parts with
      | nil =>
          obtain rfl := List.mem_singleton.mp h
          rw [List.intercalate_singleton]
      | cons next parts =>
          rw [intercalate_cons]
          cases h with
          | head => exact (List.prefix_append _ _).isInfix
          | tail _ h =>
              exact (ih h).trans ((List.suffix_cons sep _).trans (List.suffix_append _ _)).isInfix

theorem isInfix_intercalate_iff (h : sep ∉ l) {parts : List (List α)} (hne : parts ≠ []) :
    l <:+: [sep].intercalate parts ↔ ∃ part ∈ parts, l <:+: part := by
  induction parts with
  | nil => exact absurd rfl hne
  | cons part parts ih =>
      cases parts with
      | nil => simp
      | cons next parts =>
          rw [intercalate_cons, isInfix_append_cons_iff h, ih (List.cons_ne_nil _ _)]
          simp only [List.mem_cons, exists_eq_or_imp]

theorem isInfix_iff_exists_mem_splitOn [DecidableEq α] (h : sep ∉ l) (whole : List α) :
    l <:+: whole ↔ ∃ part ∈ whole.splitOn sep, l <:+: part := by
  rw [← isInfix_intercalate_iff h (List.splitOn_ne_nil sep whole), List.intercalate_splitOn]

theorem isInfix_of_mem_splitOn [DecidableEq α] {part whole : List α}
    (h : part ∈ whole.splitOn sep) : part <:+: whole := by
  have hoccurs : part <:+: [sep].intercalate (whole.splitOn sep) := isInfix_intercalate_of_mem h
  rwa [List.intercalate_splitOn] at hoccurs

/-! ## A name and a value -/

/-- A pair begins where another one does when they have one name. -/
theorem isPrefix_delimited_iff (hname : sep ∉ name) (hkey : sep ∉ key) (value rest : List α) :
    name ++ sep :: value <+: key ++ sep :: rest ↔ name = key ∧ value <+: rest := by
  induction name generalizing key with
  | nil =>
      cases key with
      | nil => simp
      | cons b key => simp [Ne.symm (List.ne_of_not_mem_cons hkey).symm]
  | cons a name ih =>
      cases key with
      | nil => simp [(List.ne_of_not_mem_cons hname).symm]
      | cons b key =>
          simp only [List.cons_append, List.cons_prefix_cons, List.cons.injEq, and_assoc,
            ih (List.not_mem_of_not_mem_cons hname) (List.not_mem_of_not_mem_cons hkey)]

theorem isInfix_delimited_iff (hname : sep ∉ name) (hkey : sep ∉ key) (value rest : List α) :
    name ++ sep :: value <:+: key ++ sep :: rest ↔
      (name <:+ key ∧ value <+: rest) ∨ name ++ sep :: value <:+: rest := by
  induction key with
  | nil =>
      have hprefix := isPrefix_delimited_iff hname hkey value rest
      rw [List.nil_append] at hprefix
      rw [List.nil_append, List.infix_cons_iff, hprefix, List.suffix_nil]
  | cons b key ih =>
      have hprefix := isPrefix_delimited_iff hname hkey value rest
      rw [List.cons_append] at hprefix
      rw [List.cons_append, List.infix_cons_iff, hprefix,
        ih (List.not_mem_of_not_mem_cons hkey), List.suffix_cons_iff, or_and_right, or_assoc]

end Delimited
