import KombitSamples.Trace
import Mathlib.Data.Set.Insert

/-!
# Authority

What access control by grants is for, in the abstract: an authority makes
grants, and a grant is used only after it was made and at an instant at which
it is good.  Nothing is said of how a grant travels or how it is checked.

* `Justified` — the property of a trace;
* `justified_events` — every trace of an authority has it.
-/

namespace Authority

open Trace

variable {Grant Instant : Type}

inductive Action (Grant Instant : Type) where
  | grant (g : Grant)
  | use (g : Grant) (t : Instant)

inductive Event (Grant Instant : Type) where
  | granted (g : Grant)
  | used (g : Grant) (t : Instant)

open Classical in
/-- The state is the set of grants made so far.  A use that is not permitted
does not happen. -/
noncomputable def machine (good : Grant → Instant → Prop) :
    Machine (Set Grant) (Action Grant Instant) (Event Grant Instant) where
  step grants
    | .grant g => (insert g grants, [.granted g])
    | .use g t => if g ∈ grants ∧ good g t then (grants, [.used g t]) else (grants, [])

/-- Every use comes after its grant, and at a good instant. -/
def Justified (good : Grant → Instant → Prop) (events : List (Event Grant Instant)) : Prop :=
  ∀ before g t rest, events = before ++ .used g t :: rest → .granted g ∈ before ∧ good g t

variable {good : Grant → Instant → Prop}

theorem step_grant (grants : Set Grant) (g : Grant) :
    (machine good).step grants (.grant g) = (insert g grants, [.granted g]) := rfl

/-- A permitted use leaves the grants alone. -/
theorem step_use_of_good {grants : Set Grant} {g : Grant} {t : Instant} (hmem : g ∈ grants)
    (hgood : good g t) : (machine good).step grants (.use g t) = (grants, [.used g t]) :=
  if_pos ⟨hmem, hgood⟩

/-- Any other use does not happen. -/
theorem step_use_of_not_good {grants : Set Grant} {g : Grant} {t : Instant}
    (h : ¬ (g ∈ grants ∧ good g t)) : (machine good).step grants (.use g t) = (grants, []) :=
  if_neg h

/-- A use in a trace has its grant among those in force at the start, or
before it in the trace. -/
theorem justified_events_of_mem (actions : List (Action Grant Instant)) (grants : Set Grant)
    {before rest : List (Event Grant Instant)} {g : Grant} {t : Instant}
    (h : (machine good).events grants actions = before ++ .used g t :: rest) :
    (g ∈ grants ∨ .granted g ∈ before) ∧ good g t := by
  induction actions generalizing grants before with
  | nil => simp at h
  | cons a actions ih =>
      rw [Machine.events_cons] at h
      cases a with
      | grant g' =>
          simp only [step_grant, List.cons_append, List.nil_append] at h
          cases before with
          | nil => simp at h
          | cons e before =>
              rw [List.cons_append, List.cons.injEq] at h
              obtain ⟨hmem, hgood⟩ := ih _ h.2
              refine ⟨?_, hgood⟩
              rw [← h.1, List.mem_cons, Event.granted.injEq]
              rcases hmem with (hmem | hmem) | hmem
              · exact .inr (.inl hmem)
              · exact .inl hmem
              · exact .inr (.inr hmem)
      | use g' t' =>
          by_cases hpermitted : g' ∈ grants ∧ good g' t'
          · simp only [step_use_of_good hpermitted.1 hpermitted.2, List.cons_append,
              List.nil_append] at h
            cases before with
            | nil =>
                rw [List.nil_append, List.cons.injEq, Event.used.injEq] at h
                obtain ⟨⟨rfl, rfl⟩, -⟩ := h
                exact ⟨.inl hpermitted.1, hpermitted.2⟩
            | cons e before =>
                rw [List.cons_append, List.cons.injEq] at h
                obtain ⟨hmem, hgood⟩ := ih _ h.2
                exact ⟨hmem.imp_right (List.mem_cons_of_mem _), hgood⟩
          · rw [step_use_of_not_good hpermitted] at h
            exact ih _ h

/-- **Every use is justified** in a trace of an authority that starts without
grants. -/
theorem justified_events (actions : List (Action Grant Instant)) :
    Justified good ((machine good).events ∅ actions) := by
  intro before g t rest h
  obtain ⟨hmem, hgood⟩ := justified_events_of_mem actions ∅ h
  exact ⟨hmem.resolve_left (Set.notMem_empty g), hgood⟩

end Authority
