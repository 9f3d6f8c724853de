/-!
# KombitSamples.Fallible

Fallible computations as `Except`: inversion of a successful (or failed)
sequence, the null dereference `deref` and the guard `ensure`.

Everything a caller needs to take a `do` block apart is proved here once,
so the later modules never unfold the monad.  This module depends only on
the Lean 4 core library.
-/

namespace Fallible

variable {ε α β : Type}

/-! ## Inversion of a sequence -/

/-- A sequence succeeds exactly when its first step does and the rest
succeeds on the value it hands on. -/
@[simp] theorem bind_eq_ok {x : Except ε α} {f : α → Except ε β} {b : β} :
    (x >>= f) = .ok b ↔ ∃ a, x = .ok a ∧ f a = .ok b := by
  cases x with
  | error e => simp [bind, Except.bind]
  | ok a => simp [bind, Except.bind]

/-- A sequence fails exactly when its first step does, or the rest fails on
the value it hands on. -/
theorem bind_eq_error {x : Except ε α} {f : α → Except ε β} {e : ε} :
    (x >>= f) = .error e ↔ x = .error e ∨ ∃ a, x = .ok a ∧ f a = .error e := by
  cases x with
  | error e' => simp [bind, Except.bind]
  | ok a => simp [bind, Except.bind]

/-- The rest of a sequence never runs after a failed step. -/
@[simp] theorem error_bind (e : ε) (f : α → Except ε β) :
    ((Except.error e : Except ε α) >>= f) = .error e := rfl

@[simp] theorem ok_bind (a : α) (f : α → Except ε β) :
    ((Except.ok a : Except ε α) >>= f) = f a := rfl

@[simp] theorem pure_eq_ok {a b : α} : (pure a : Except ε α) = .ok b ↔ a = b := by
  simp [pure, Except.pure]

/-! ## Returning at all -/

/-- The computation returns a value instead of failing. -/
def Returns (x : Except ε α) : Prop := ∃ a, x = .ok a

instance (x : Except ε α) : Decidable (Returns x) :=
  match x with
  | .ok a => isTrue ⟨a, rfl⟩
  | .error _ => isFalse fun ⟨_, h⟩ => nomatch h

@[simp] theorem returns_ok (a : α) : Returns (.ok a : Except ε α) := ⟨a, rfl⟩

@[simp] theorem not_returns_error (e : ε) : ¬ Returns (.error e : Except ε α) :=
  fun ⟨_, h⟩ => nomatch h

@[simp] theorem returns_pure (a : α) : Returns (pure a : Except ε α) := ⟨a, rfl⟩

/-- A sequence returns exactly when its first step does and the rest
returns on the value it hands on. -/
theorem returns_bind {x : Except ε α} {f : α → Except ε β} :
    Returns (x >>= f) ↔ ∃ a, x = .ok a ∧ Returns (f a) := by
  simp only [Returns, bind_eq_ok]
  constructor
  · intro h
    obtain ⟨b, a, hx, hf⟩ := h
    exact ⟨a, hx, b, hf⟩
  · intro h
    obtain ⟨a, hx, b, hf⟩ := h
    exact ⟨b, a, hx, hf⟩

/-- Where it does not depend on that value whether the rest returns. -/
theorem returns_bind_iff_and {x : Except ε α} {f : α → Except ε β} {p : Prop}
    (h : ∀ a, x = .ok a → (Returns (f a) ↔ p)) : Returns (x >>= f) ↔ Returns x ∧ p := by
  cases x with
  | error e => simp
  | ok a => simpa using h a rfl

/-! ## Null dereferences and guards -/

/-- Read a reference that may be null; `e` is what a null one raises. -/
def deref (e : ε) : Option α → Except ε α
  | some a => .ok a
  | none => .error e

@[simp] theorem deref_some (e : ε) (a : α) : deref e (some a) = .ok a := rfl

@[simp] theorem deref_none (e : ε) : deref e (none : Option α) = .error e := rfl

@[simp] theorem deref_eq_ok {e : ε} {o : Option α} {a : α} : deref e o = .ok a ↔ o = some a := by
  cases o <;> simp

@[simp] theorem returns_deref {e : ε} {o : Option α} : Returns (deref e o) ↔ o ≠ none := by
  cases o <;> simp

/-- Fail with `e` unless the condition holds. -/
def ensure (e : ε) (c : Bool) : Except ε Unit := if c then .ok () else .error e

@[simp] theorem ensure_true (e : ε) : ensure e true = .ok () := rfl

@[simp] theorem ensure_false (e : ε) : ensure e false = .error e := rfl

@[simp] theorem ensure_eq_ok {e : ε} {c : Bool} {u : Unit} : ensure e c = .ok u ↔ c = true := by
  cases c <;> simp

/-- A guard only ever fails with its own error. -/
theorem ensure_eq_error {e e' : ε} {c : Bool} : ensure e c = .error e' ↔ c = false ∧ e = e' := by
  cases c <;> simp

/-! ## What a computation fails with -/

/-- The computation fails with nothing but errors that have the property. -/
def FailsOnly (P : ε → Prop) (x : Except ε α) : Prop := ∀ e, x = .error e → P e

section FailsOnly

variable {P : ε → Prop}

@[simp] theorem failsOnly_ok (a : α) : FailsOnly P (.ok a) := fun _ h => nomatch h

@[simp] theorem failsOnly_error {e : ε} : FailsOnly P (.error e : Except ε α) ↔ P e := by
  simp [FailsOnly]

@[simp] theorem failsOnly_pure (a : α) : FailsOnly P (pure a : Except ε α) := failsOnly_ok a

theorem FailsOnly.mono {Q : ε → Prop} (hPQ : ∀ e, P e → Q e) {x : Except ε α}
    (h : FailsOnly P x) : FailsOnly Q x := fun e he => hPQ e (h e he)

/-- A sequence fails only so when its first step does, and the rest does on
the value it hands on. -/
theorem failsOnly_bind {x : Except ε α} {f : α → Except ε β} :
    FailsOnly P (x >>= f) ↔ FailsOnly P x ∧ ∀ a, x = .ok a → FailsOnly P (f a) := by
  cases x with
  | error e => simp
  | ok a => simp

theorem failsOnly_deref {e : ε} {o : Option α} : FailsOnly P (deref e o) ↔ (o = none → P e) := by
  cases o <;> simp

theorem failsOnly_ensure {e : ε} {c : Bool} : FailsOnly P (ensure e c) ↔ (c = false → P e) := by
  cases c <;> simp

end FailsOnly

end Fallible
