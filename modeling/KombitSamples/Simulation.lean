import KombitSamples.Trace

/-!
# Simulation

Forward simulations between machines.  A step of the concrete machine is
matched by any number of steps of the abstract one that emit what is visible of
its events; `Simulates.run` carries this over to runs, so that what holds of
every trace of the abstract machine holds of what is visible of the concrete
one.
-/

namespace Trace.Machine

variable {σ α ω τ β υ : Type}

/-- `R` relates the states of a machine to those of `spec`, which it follows
step by step; `visible` is what an event shows. -/
structure Simulates (m : Machine σ α ω) (spec : Machine τ β υ) (R : σ → τ → Prop)
    (visible : ω → List υ) : Prop where
  step : ∀ s t a, R s t → ∃ matching, R (m.step s a).1 (spec.after t matching) ∧
    spec.events t matching = (m.step s a).2.flatMap visible

variable {m : Machine σ α ω} {spec : Machine τ β υ} {R : σ → τ → Prop} {visible : ω → List υ}

/-- A run is matched by a run. -/
theorem Simulates.run (h : m.Simulates spec R visible) (actions : List α) {s : σ} {t : τ}
    (hst : R s t) :
    ∃ matching, R (m.after s actions) (spec.after t matching) ∧
      spec.events t matching = (m.events s actions).flatMap visible := by
  induction actions generalizing s t with
  | nil => exact ⟨[], hst, rfl⟩
  | cons a actions ih =>
      obtain ⟨first, hfirst, hevents⟩ := h.step s t a hst
      obtain ⟨rest, hrest, hevents'⟩ := ih hfirst
      refine ⟨first ++ rest, ?_, ?_⟩
      · rw [after_cons, after_append]
        exact hrest
      · rw [events_cons, events_append, List.flatMap_append, hevents, hevents']

/-- What holds of all traces of the abstract machine holds of the visible
events of the concrete one. -/
theorem Simulates.of_events (h : m.Simulates spec R visible) {s : σ} {t : τ} (hst : R s t)
    {P : List υ → Prop} (hspec : ∀ matching, P (spec.events t matching)) (actions : List α) :
    P ((m.events s actions).flatMap visible) := by
  obtain ⟨matching, -, hevents⟩ := h.run actions hst
  rw [← hevents]
  exact hspec matching

end Trace.Machine
