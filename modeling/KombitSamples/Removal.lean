import KombitSamples.Fallible
import Mathlib.Data.List.Perm.Subperm

/-!
# Removal

Taking a list of elements out of another one, where an element that is not
there is an error.

* `removeEach_eq_ok_iff` — when it succeeds, and what is left;
* `diff_eq_filter` — what is left when every copy is taken out;
* `removeEach_filter` — taking out what was picked from the list itself.
-/

namespace Removal

open Fallible

variable {ε α : Type} [DecidableEq α]

/-- Take out the first copy of `x`; `e` is raised when there is none. -/
def remove (e : ε) (x : α) (l : List α) : Except ε (List α) :=
  if x ∈ l then .ok (l.erase x) else .error e

/-- Take out the elements of a list, one after the other. -/
def removeEach (e : ε) : List α → List α → Except ε (List α)
  | [], l => .ok l
  | x :: xs, l => do
      let l ← remove e x l
      removeEach e xs l

theorem remove_eq_ok_iff {e : ε} {x : α} {l r : List α} :
    remove e x l = .ok r ↔ x ∈ l ∧ r = l.erase x := by
  unfold remove
  split
  · next h => simp [h, eq_comm]
  · next h => simp [h]

@[simp] theorem removeEach_nil (e : ε) (l : List α) : removeEach e [] l = .ok l := rfl

/-- An element and a list fit in `l` together exactly when the element is
there, and the list fits in what is left without it. -/
theorem cons_subperm_iff {x : α} {xs l : List α} :
    (x :: xs).Subperm l ↔ x ∈ l ∧ xs.Subperm (l.erase x) := by
  constructor
  · intro h
    have herase := h.erase x
    rw [List.erase_cons_head] at herase
    exact ⟨h.subset List.mem_cons_self, herase⟩
  · intro h
    obtain ⟨hmem, hsub⟩ := h
    exact ((List.subperm_cons x).mpr hsub).trans (List.perm_cons_erase hmem).symm.subperm

/-- Taking out a list succeeds exactly when it fits in `l`, copies counted. -/
theorem removeEach_eq_ok_iff {e : ε} {xs l r : List α} :
    removeEach e xs l = .ok r ↔ xs.Subperm l ∧ r = l.diff xs := by
  induction xs generalizing l with
  | nil => simp [eq_comm]
  | cons x xs ih =>
      simp only [removeEach, bind_eq_ok, remove_eq_ok_iff, ih, cons_subperm_iff, List.diff_cons]
      constructor
      · intro h
        obtain ⟨_, ⟨hmem, rfl⟩, hsub, hr⟩ := h
        exact ⟨⟨hmem, hsub⟩, hr⟩
      · intro h
        obtain ⟨⟨hmem, hsub⟩, hr⟩ := h
        exact ⟨_, ⟨hmem, rfl⟩, hsub, hr⟩

/-- Where `xs` has every copy of what it shares with `l`, the rest of `l` is
left, in order. -/
theorem diff_eq_filter {xs l : List α} (h : ∀ a ∈ l, a ∈ xs → l.count a ≤ xs.count a) :
    l.diff xs = l.filter (· ∉ xs) := by
  induction l generalizing xs with
  | nil => simp
  | cons a l ih =>
      rw [List.cons_diff]
      by_cases ha : a ∈ xs
      · have hcount : l.count a + 1 ≤ xs.count a := by
          have hself := h a List.mem_cons_self ha
          rwa [List.count_cons_self] at hself
        have hrest : ∀ b ∈ l, b ∈ xs.erase a → l.count b ≤ (xs.erase a).count b := by
          intro b hb hbxs
          by_cases hba : b = a
          · rw [hba, List.count_erase_self]
            omega
          · have hcons := h b (List.mem_cons_of_mem a hb) (List.mem_of_mem_erase hbxs)
            rw [List.count_cons_of_ne (Ne.symm hba)] at hcons
            rwa [List.count_erase_of_ne hba]
        have hmem : ∀ b ∈ l, (b ∉ xs.erase a ↔ b ∉ xs) := by
          intro b hb
          by_cases hba : b = a
          · -- Another copy of `a` is left in `l`, so there is one in `xs`, too.
            have hpos : 0 < l.count a := List.count_pos_iff.mpr (hba ▸ hb)
            have hleft : a ∈ xs.erase a := by
              rw [← List.count_pos_iff, List.count_erase_self]
              omega
            simp [hba, ha, hleft]
          · rw [List.mem_erase_of_ne hba]
        rw [if_pos ha, ih hrest, List.filter_cons_of_neg (by simpa using ha)]
        refine List.filter_congr fun b hb => ?_
        simp only [hmem b hb]
      · have hrest : ∀ b ∈ l, b ∈ xs → l.count b ≤ xs.count b := by
          intro b hb hbxs
          have hba : a ≠ b := fun heq => ha (heq ▸ hbxs)
          have hcons := h b (List.mem_cons_of_mem a hb) hbxs
          rwa [List.count_cons_of_ne hba] at hcons
        rw [if_neg ha, ih hrest, List.filter_cons_of_pos (by simpa using ha)]

theorem diff_filter (p : α → Bool) (l : List α) :
    l.diff (l.filter p) = l.filter fun a => !p a := by
  have hcount : ∀ a ∈ l, a ∈ l.filter p → l.count a ≤ (l.filter p).count a := by
    intro a _ hfilter
    exact Nat.le_of_eq (List.count_filter (List.mem_filter.mp hfilter).2).symm
  rw [diff_eq_filter hcount]
  refine List.filter_congr fun a ha => ?_
  cases hp : p a <;> simp [ha, hp]

/-- What was picked from a list can be taken out of it. -/
theorem removeEach_filter (e : ε) (p : α → Bool) (l : List α) :
    removeEach e (l.filter p) l = .ok (l.filter fun a => !p a) :=
  removeEach_eq_ok_iff.mpr ⟨List.filter_sublist.subperm, (diff_filter p l).symm⟩

/-! ## Elements picked in several passes -/

variable {β : Type}

/-- How often an element is picked by the passes: its copies, once for every
pass that picks it. -/
theorem count_flatMap_filter (p : β → α → Bool) (passes : List β) (l : List α) (a : α) :
    (passes.flatMap fun b => l.filter (p b)).count a = passes.countP (p · a) * l.count a := by
  induction passes with
  | nil => simp
  | cons b passes ih =>
      rw [List.flatMap_cons, List.count_append, ih, List.countP_cons]
      cases hp : p b a with
      | true => rw [List.count_filter hp, if_pos rfl, Nat.add_mul, Nat.one_mul, Nat.add_comm]
      | false =>
          have hnot : a ∉ l.filter (p b) := by simp [hp]
          rw [List.count_eq_zero.mpr hnot]
          simp

/-- What several passes pick can be taken out exactly when no element is
picked by two of them. -/
theorem flatMap_filter_subperm_iff {p : β → α → Bool} {passes : List β} {l : List α} :
    (passes.flatMap fun b => l.filter (p b)).Subperm l ↔ ∀ a ∈ l, passes.countP (p · a) ≤ 1 := by
  have hpos (a : α) (ha : a ∈ l) : 0 < l.count a := List.count_pos_iff.mpr ha
  rw [List.subperm_ext_iff]
  constructor
  · intro h a ha
    by_cases hmem : a ∈ passes.flatMap fun b => l.filter (p b)
    · have hcount := h a hmem
      rw [count_flatMap_filter] at hcount
      exact Nat.le_of_mul_le_mul_right (by simpa using hcount) (hpos a ha)
    · rw [← List.count_eq_zero, count_flatMap_filter, Nat.mul_eq_zero] at hmem
      have hzero := hmem.resolve_right (Nat.pos_iff_ne_zero.mp (hpos a ha))
      omega
  · intro h a ha
    obtain ⟨b, -, hb⟩ := List.mem_flatMap.mp ha
    have hl : a ∈ l := (List.mem_filter.mp hb).1
    rw [count_flatMap_filter]
    exact Nat.le_trans (Nat.mul_le_mul_right _ (h a hl)) (Nat.le_of_eq (Nat.one_mul _))

/-- Then everything that no pass picks is left, in order. -/
theorem diff_flatMap_filter (p : β → α → Bool) (passes : List β) (l : List α) :
    l.diff (passes.flatMap fun b => l.filter (p b)) =
      l.filter fun a => !passes.any (p · a) := by
  have hmem (a : α) (ha : a ∈ l) :
      (a ∈ passes.flatMap fun b => l.filter (p b)) ↔ passes.any (p · a) = true := by
    simp [ha]
  have hcount : ∀ a ∈ l, (a ∈ passes.flatMap fun b => l.filter (p b)) →
      l.count a ≤ (passes.flatMap fun b => l.filter (p b)).count a := by
    intro a ha hpicked
    obtain ⟨b, hb, hp⟩ := List.any_eq_true.mp ((hmem a ha).mp hpicked)
    have hpos : 0 < passes.countP (p · a) := List.countP_pos_iff.mpr ⟨b, hb, hp⟩
    rw [count_flatMap_filter]
    exact Nat.le_mul_of_pos_left _ hpos
  rw [diff_eq_filter hcount]
  refine List.filter_congr fun a ha => ?_
  cases hany : passes.any (p · a) with
  | true => simp [(hmem a ha).mpr hany]
  | false =>
      have hnot : a ∉ passes.flatMap fun b => l.filter (p b) := by
        rw [hmem a ha, hany]
        exact Bool.false_ne_true
      simp [hnot]

/-- Passes of which no two pick one element pick it at most once. -/
theorem countP_le_one_of_pairwise {p : β → Bool} {passes : List β}
    (h : passes.Pairwise fun b b' => ¬ (p b = true ∧ p b' = true)) : passes.countP p ≤ 1 := by
  induction passes with
  | nil => simp
  | cons b passes ih =>
      obtain ⟨hb, hpasses⟩ := List.pairwise_cons.mp h
      cases hp : p b with
      | true =>
          have hzero : passes.countP p = 0 :=
            List.countP_eq_zero.mpr fun b' hb' hp' => hb b' hb' ⟨hp, hp'⟩
          exact Nat.le_of_eq (by rw [List.countP_cons_of_pos hp, hzero])
      | false =>
          rw [List.countP_cons_of_neg (by simp [hp])]
          exact ih hpasses

/-! ## What an erasure leaves -/

section EraseP

variable {p q : β → Bool} {l : List β}

/-- Erasing an element that the filter drops makes no difference. -/
theorem filter_eraseP_of_disjoint (h : ∀ b ∈ l, p b = true → q b = false) :
    (l.eraseP p).filter q = l.filter q := by
  induction l with
  | nil => rfl
  | cons b l ih =>
      obtain ⟨hb, hl⟩ := List.forall_mem_cons.mp h
      cases hp : p b with
      | true =>
          rw [List.eraseP_cons_of_pos hp, List.filter_cons_of_neg]
          simp [hb hp]
      | false =>
          rw [List.eraseP_cons_of_neg (by simp [hp]), List.filter_cons, List.filter_cons, ih hl]

/-- Erasing an element that is not looked for makes no difference. -/
theorem find?_eraseP_of_disjoint (h : ∀ b ∈ l, p b = true → q b = false) :
    (l.eraseP p).find? q = l.find? q := by
  rw [← List.head?_filter, filter_eraseP_of_disjoint h, List.head?_filter]

/-- Erasing the only element that is looked for leaves none. -/
theorem find?_eraseP_of_unique (h : ∀ b ∈ l, p b = true → q b = true) (hunique : l.countP q ≤ 1) :
    (l.eraseP p).find? q = (l.find? q).filter fun b => !p b := by
  induction l with
  | nil => rfl
  | cons b l ih =>
      obtain ⟨hb, hl⟩ := List.forall_mem_cons.mp h
      cases hq : q b with
      | true =>
          rw [List.countP_cons_of_pos hq] at hunique
          have hnone : ∀ b' ∈ l, q b' = false := by
            intro b' hb'
            have hzero : l.countP q = 0 := by omega
            simpa using List.countP_eq_zero.mp hzero b' hb'
          cases hp : p b with
          | true =>
              have hfind : l.find? q = none := by simpa using hnone
              rw [List.eraseP_cons_of_pos hp, List.find?_cons_of_pos hq, hfind,
                Option.filter_some_neg (by simp [hp])]
          | false =>
              rw [List.eraseP_cons_of_neg (by simp [hp]), List.find?_cons_of_pos hq,
                List.find?_cons_of_pos hq, Option.filter_some_pos (by simp [hp])]
      | false =>
          have hp : p b = false := by
            cases hp : p b with
            | true =>
                rw [hb hp] at hq
                cases hq
            | false => rfl
          rw [List.countP_cons_of_neg (by simp [hq])] at hunique
          rw [List.eraseP_cons_of_neg (by simp [hp]), List.find?_cons_of_neg (by simp [hq]),
            List.find?_cons_of_neg (by simp [hq]), ih hl hunique]

end EraseP

end Removal
