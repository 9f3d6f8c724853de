/-!
# Trace

Machines that take one step at a time and emit events, and the rule that
carries what a step preserves over to whole runs.

This module depends only on the Lean 4 core library.
-/

namespace Trace

variable {σ α ω : Type}

/-- A machine: an action takes a state to the next one and emits events. -/
structure Machine (σ α ω : Type) where
  step : σ → α → σ × List ω

namespace Machine

variable (m : Machine σ α ω)

/-- The state after a list of actions, and the events they emitted. -/
def run : σ → List α → σ × List ω
  | s, [] => (s, [])
  | s, a :: actions =>
      ((run (m.step s a).1 actions).1, (m.step s a).2 ++ (run (m.step s a).1 actions).2)

/-- The state after a list of actions. -/
def after (s : σ) (actions : List α) : σ := (m.run s actions).1

/-- The events that a list of actions emits. -/
def events (s : σ) (actions : List α) : List ω := (m.run s actions).2

@[simp] theorem after_nil (s : σ) : m.after s [] = s := rfl

@[simp] theorem events_nil (s : σ) : m.events s [] = [] := rfl

theorem after_cons (s : σ) (a : α) (actions : List α) :
    m.after s (a :: actions) = m.after (m.step s a).1 actions := rfl

theorem events_cons (s : σ) (a : α) (actions : List α) :
    m.events s (a :: actions) = (m.step s a).2 ++ m.events (m.step s a).1 actions := rfl

/-- A run of two lists of actions is a run of the first, and then of the
second. -/
theorem after_append (s : σ) (xs ys : List α) :
    m.after s (xs ++ ys) = m.after (m.after s xs) ys := by
  induction xs generalizing s with
  | nil => rfl
  | cons a xs ih => rw [List.cons_append, after_cons, after_cons, ih]

theorem events_append (s : σ) (xs ys : List α) :
    m.events s (xs ++ ys) = m.events s xs ++ m.events (m.after s xs) ys := by
  induction xs generalizing s with
  | nil => rfl
  | cons a xs ih =>
      rw [List.cons_append, events_cons, events_cons, after_cons, ih, List.append_assoc]

/-- Every step from a state with the invariant keeps it, and emits only
events with the property. -/
structure Keeps (Inv : σ → Prop) (P : ω → Prop) : Prop where
  step_inv : ∀ s a, Inv s → Inv (m.step s a).1
  step_events : ∀ s a, Inv s → ∀ e ∈ (m.step s a).2, P e

variable {m} {Inv : σ → Prop} {P : ω → Prop}

/-- The invariant holds after every run from a state that has it. -/
theorem Keeps.after_inv (h : m.Keeps Inv P) (actions : List α) (s : σ) (hs : Inv s) :
    Inv (m.after s actions) := by
  induction actions generalizing s with
  | nil => exact hs
  | cons a actions ih =>
      rw [after_cons]
      exact ih _ (h.step_inv s a hs)

/-- Every event of such a run has the property. -/
theorem Keeps.of_mem_events (h : m.Keeps Inv P) (actions : List α) (s : σ) (hs : Inv s) :
    ∀ e ∈ m.events s actions, P e := by
  induction actions generalizing s with
  | nil => simp
  | cons a actions ih =>
      intro e he
      rw [events_cons, List.mem_append] at he
      cases he with
      | inl he => exact h.step_events s a hs e he
      | inr he => exact ih _ (h.step_inv s a hs) e he

/-- What holds before anything is done, and is kept by each step, of the actions
that were done, the events they emitted and the state, holds of a whole run. -/
theorem run_inv {R : List α → List ω → σ → Prop}
    (hstep : ∀ done emitted s a, R done emitted s →
      R (done ++ [a]) (emitted ++ (m.step s a).2) (m.step s a).1)
    {s : σ} (hs : R [] [] s) (actions : List α) :
    R actions (m.events s actions) (m.after s actions) := by
  have hrun (done : List α) (emitted : List ω) (s : σ) (h : R done emitted s) :
      R (done ++ actions) (emitted ++ m.events s actions) (m.after s actions) := by
    induction actions generalizing done emitted s with
    | nil => simpa using h
    | cons a actions ih =>
        have hrest := ih _ _ _ (hstep done emitted s a h)
        rwa [List.append_assoc, List.append_assoc, List.singleton_append] at hrest
  exact hrun [] [] s hs

/-- What every action of a kind lowers by one, and no action raises, a run lowers
by one for each action of the kind. -/
theorem after_le_sub_countP (measure : σ → Nat) (kind : α → Bool)
    (hinv : ∀ s a, Inv s → Inv (m.step s a).1)
    (hstep : ∀ s a, Inv s → measure (m.step s a).1 ≤ measure s - [a].countP kind)
    (actions : List α) (s : σ) (hs : Inv s) :
    measure (m.after s actions) ≤ measure s - actions.countP kind := by
  induction actions generalizing s with
  | nil => exact Nat.le_refl _
  | cons a actions ih =>
      have hfirst := hstep s a hs
      have hrest := ih (m.step s a).1 (hinv s a hs)
      have hcount : (a :: actions).countP kind = [a].countP kind + actions.countP kind := by
        rw [← List.countP_append, List.singleton_append]
      rw [after_cons, hcount]
      omega

end Machine

/-! ## Components -/

section AllAt

variable {κ : Type} {P : Nat → κ → Prop} {components : List κ}

/-- Each component of a list has the property, at its place. -/
def AllAt (P : Nat → κ → Prop) (components : List κ) : Prop :=
  ∀ i c, components[i]? = some c → P i c

@[simp] theorem allAt_nil : AllAt P [] := by
  intro i c h
  simp at h

/-- One component is replaced by another; the others have the property. -/
theorem allAt_set {i : Nat} {c : κ}
    (h : ∀ j d, j ≠ i → components[j]? = some d → P j d) (hc : P i c) :
    AllAt P (components.set i c) := by
  intro j d hd
  by_cases hij : i = j
  · subst hij
    have hlt : i < components.length := by
      have hlt := (List.getElem?_eq_some_iff.mp hd).1
      rwa [List.length_set] at hlt
    rw [List.getElem?_set_self hlt] at hd
    rwa [← Option.some.inj hd]
  · rw [List.getElem?_set_ne hij] at hd
    exact h j d (Ne.symm hij) hd

theorem AllAt.set (h : AllAt P components) {i : Nat} {c : κ} (hc : P i c) :
    AllAt P (components.set i c) :=
  allAt_set (fun j d _ hd => h j d hd) hc

/-- A component is added at the end. -/
theorem AllAt.concat (h : AllAt P components) {c : κ} (hc : P components.length c) :
    AllAt P (components ++ [c]) := by
  intro j d hd
  rcases Nat.lt_or_ge j components.length with hlt | hge
  · rw [List.getElem?_append_left hlt] at hd
    exact h j d hd
  · have hj : j = components.length := by
      have hlt := (List.getElem?_eq_some_iff.mp hd).1
      rw [List.length_append, List.length_singleton] at hlt
      omega
    rw [hj, List.getElem?_concat_length] at hd
    rw [hj, ← Option.some.inj hd]
    exact hc

end AllAt

end Trace
