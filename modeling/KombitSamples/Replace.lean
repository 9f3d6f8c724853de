import Mathlib.Data.List.Count
import Mathlib.Data.List.Infix
import Mathlib.Data.List.Perm.Subperm

/-!
# KombitSamples.Replace

Replace-all on lists: the leftmost, non-overlapping replacement of a
pattern that string libraries offer.

`replaceAll p r l` walks `l` once.  Where `p` starts it emits `r` and skips
the rest of the match; elsewhere it copies one element.  The skip counter
makes the walk structurally recursive, so a replacement evaluates by
`decide`; `replaceAll_cons` is the equation the proofs use instead.

* `replaceAll_append` — a leading match is replaced and the rest is
  replaced on its own;
* `eraseAll_eq_self_iff` — erasing a pattern changes nothing exactly when it
  does not occur;
* `eraseAll_eq_eraseAll_iff` — erasing either of two patterns that each have
  an element of their own gives the same list only when neither occurs;
* `indexOf_ne_none_iff` — a pattern has a first occurrence exactly when it
  occurs.
-/

namespace Replace

variable {α : Type} [DecidableEq α]

/-! ## The walk -/

/-- Replace the occurrences of `p` by `r`; `skip` elements still belong to
the match just replaced. -/
def replaceFrom (p r : List α) : Nat → List α → List α
  | _, [] => []
  | skip + 1, _ :: l => replaceFrom p r skip l
  | 0, a :: l =>
      if p.isPrefixOf (a :: l) then r ++ replaceFrom p r (p.length - 1) l
      else a :: replaceFrom p r 0 l

/-- Replace every occurrence of `p` by `r`, from the left. -/
def replaceAll (p r l : List α) : List α := replaceFrom p r 0 l

/-- Erase every occurrence of `p`, from the left. -/
def eraseAll (p l : List α) : List α := replaceAll p [] l

/-- Skipping is dropping. -/
theorem replaceFrom_eq_drop (p r : List α) (skip : Nat) (l : List α) :
    replaceFrom p r skip l = replaceAll p r (l.drop skip) := by
  induction l generalizing skip with
  | nil => cases skip <;> simp [replaceAll, replaceFrom]
  | cons a l ih =>
      cases skip with
      | zero => rfl
      | succ skip => rw [replaceFrom, ih, List.drop_succ_cons]

@[simp] theorem replaceAll_nil (p r : List α) : replaceAll p r [] = [] := rfl

/-- One step of the walk: a match at the front is replaced as a whole. -/
theorem replaceAll_cons (p r : List α) (hp : p ≠ []) (a : α) (l : List α) :
    replaceAll p r (a :: l) =
      if p <+: a :: l then r ++ replaceAll p r ((a :: l).drop p.length)
      else a :: replaceAll p r l := by
  have hlen : p.length = p.length - 1 + 1 := by
    have := List.length_pos_of_ne_nil hp
    omega
  rw [hlen, List.drop_succ_cons, ← replaceFrom_eq_drop]
  simp only [replaceAll, replaceFrom, List.isPrefixOf_iff_prefix]

/-- A leading match is replaced, and the rest is replaced on its own. -/
theorem replaceAll_append (p r : List α) (hp : p ≠ []) (l : List α) :
    replaceAll p r (p ++ l) = r ++ replaceAll p r l := by
  obtain ⟨a, p', rfl⟩ := List.exists_cons_of_ne_nil hp
  rw [List.cons_append, replaceAll_cons _ _ hp, if_pos]
  · rw [← List.cons_append, List.drop_left]
  · rw [← List.cons_append]
    exact List.prefix_append _ _

/-! ## Lists without the pattern -/

/-- Nothing is replaced in a list the pattern does not occur in. -/
theorem replaceAll_of_not_infix (p r : List α) (hp : p ≠ []) :
    (l : List α) → ¬ p <:+: l → replaceAll p r l = l
  | [], _ => rfl
  | a :: l, h => by
      have hhead : ¬ p <+: a :: l := fun hpre => h hpre.isInfix
      have htail : ¬ p <:+: l := fun hin => h (hin.trans (List.suffix_cons a l).isInfix)
      rw [replaceAll_cons p r hp, if_neg hhead, replaceAll_of_not_infix p r hp l htail]

/-! ## Counting what erasing removes -/

/-- Erasing takes out whole copies of the pattern: the same number `n` of
them for every element, and none exactly when the pattern does not occur. -/
theorem exists_count_eraseAll (p : List α) (hp : p ≠ []) (l : List α) :
    ∃ n, (∀ a, l.count a = (eraseAll p l).count a + n * p.count a) ∧ (n = 0 → ¬ p <:+: l) := by
  induction hn : l.length using Nat.strong_induction_on generalizing l with
  | _ n ih =>
    cases l with
    | nil => exact ⟨0, by simp [eraseAll], fun _ h => hp (List.infix_nil.mp h)⟩
    | cons b l =>
        simp only [eraseAll, replaceAll_cons p [] hp]
        by_cases hpre : p <+: b :: l
        · obtain ⟨rest, hrest⟩ := hpre
          have hlt : rest.length < n := by
            have := List.length_pos_of_ne_nil hp
            rw [← hn, ← hrest, List.length_append]
            omega
          obtain ⟨k, hcount, -⟩ := ih rest.length hlt rest rfl
          refine ⟨k + 1, fun a => ?_, fun h => by omega⟩
          rw [if_pos ⟨rest, hrest⟩, ← hrest, List.drop_left, List.count_append, hcount a]
          simp only [eraseAll, List.nil_append, Nat.add_mul, Nat.one_mul]
          omega
        · have hlt : l.length < n := by rw [← hn]; simp
          obtain ⟨k, hcount, hnone⟩ := ih l.length hlt l rfl
          refine ⟨k, fun a => ?_, fun hk hin => ?_⟩
          · rw [if_neg hpre, List.count_cons, hcount a, List.count_cons]
            simp only [eraseAll]
            omega
          · rcases List.infix_cons_iff.mp hin with h | h
            · exact hpre h
            · exact hnone hk h

/-- Erasing changes nothing exactly when the pattern does not occur. -/
theorem eraseAll_eq_self_iff (p : List α) (hp : p ≠ []) (l : List α) :
    eraseAll p l = l ↔ ¬ p <:+: l := by
  constructor
  · intro h
    obtain ⟨n, hcount, hnone⟩ := exists_count_eraseAll p hp l
    obtain ⟨a, ha⟩ := List.exists_mem_of_ne_nil p hp
    have hpos : 0 < p.count a := List.count_pos_iff.mpr ha
    have hzero : n * p.count a = 0 := by
      have := hcount a
      rw [h] at this
      omega
    exact hnone ((Nat.mul_eq_zero.mp hzero).resolve_right hpos.ne')
  · exact replaceAll_of_not_infix p [] hp l

/-- Erasing never makes a list longer. -/
theorem length_eraseAll_le (p : List α) (hp : p ≠ []) (l : List α) :
    (eraseAll p l).length ≤ l.length := by
  obtain ⟨n, hcount, -⟩ := exists_count_eraseAll p hp l
  have hsub : (eraseAll p l).Subperm l := List.subperm_ext_iff.mpr fun a _ => by
    rw [hcount a]
    omega
  exact hsub.length_le

/-- Two patterns with an element of their own each: erasing the one gives
the same list as erasing the other only when neither occurs. -/
theorem eraseAll_eq_eraseAll_iff {p q : List α} {a b : α} (hap : a ∈ p) (haq : a ∉ q)
    (hbq : b ∈ q) (hbp : b ∉ p) (l : List α) :
    eraseAll p l = eraseAll q l ↔ ¬ p <:+: l ∧ ¬ q <:+: l := by
  have hp : p ≠ [] := List.ne_nil_of_mem hap
  have hq : q ≠ [] := List.ne_nil_of_mem hbq
  constructor
  · intro h
    obtain ⟨n, hn, hpn⟩ := exists_count_eraseAll p hp l
    obtain ⟨m, hm, hqm⟩ := exists_count_eraseAll q hq l
    have hpos_a : 0 < p.count a := List.count_pos_iff.mpr hap
    have hpos_b : 0 < q.count b := List.count_pos_iff.mpr hbq
    -- Only `p` holds an `a`, and only `q` holds a `b`.
    have hzero_n : n * p.count a = 0 := by
      have h1 := hn a
      have h2 := hm a
      rw [List.count_eq_zero.mpr haq, Nat.mul_zero, ← h] at h2
      omega
    have hzero_m : m * q.count b = 0 := by
      have h1 := hn b
      have h2 := hm b
      rw [List.count_eq_zero.mpr hbp, Nat.mul_zero, h] at h1
      omega
    exact ⟨hpn ((Nat.mul_eq_zero.mp hzero_n).resolve_right hpos_a.ne'),
      hqm ((Nat.mul_eq_zero.mp hzero_m).resolve_right hpos_b.ne')⟩
  · intro h'
    obtain ⟨h1, h2⟩ := h'
    rw [(eraseAll_eq_self_iff p hp l).mpr h1, (eraseAll_eq_self_iff q hq l).mpr h2]

/-! ## The first occurrence -/

/-- Where the pattern first starts, if it does. -/
def indexOf (p : List α) : List α → Option Nat
  | [] => if p.isEmpty then some 0 else none
  | a :: l => if p.isPrefixOf (a :: l) then some 0 else (indexOf p l).map (· + 1)

theorem indexOf_ne_none_iff {p l : List α} : indexOf p l ≠ none ↔ p <:+: l := by
  induction l with
  | nil => simp [indexOf]
  | cons a l ih =>
      rw [List.infix_cons_iff, ← ih, indexOf]
      by_cases hpre : p <+: a :: l
      · simp [hpre, List.isPrefixOf_iff_prefix]
      · simp [hpre, List.isPrefixOf_iff_prefix]

/-- A pattern does not start where its first element does not occur. -/
theorem indexOf_append_of_not_mem {b : α} {p pre : List α} (hb : b ∉ pre) (l : List α) :
    indexOf (b :: p) (pre ++ l) = (indexOf (b :: p) l).map (· + pre.length) := by
  induction pre with
  | nil => simp
  | cons a pre ih =>
      rw [List.mem_cons, not_or] at hb
      have hpre : (b :: p).isPrefixOf (a :: (pre ++ l)) = false := by
        rw [List.isPrefixOf_cons_cons, beq_false_of_ne hb.1, Bool.false_and]
      rw [List.cons_append, indexOf, hpre, if_neg Bool.false_ne_true, ih hb.2, Option.map_map]
      congr 1

end Replace
