import Mathlib.Logic.Function.Basic

/-!
# Journal

Computations that write down entries as they go and may fail on the way, and the
store that the entries are put into one after the other.

* `entries_bind` — what a sequence has written;
* `put_apply` — a cell of the store holds the last value that was put there;
* `last_map` — what other keys designate does not matter.
-/

namespace Journal

variable {ε κ τ α β γ : Type}

/-! ## The computations -/

/-- What a computation returns or throws, and the entries it has written by then. -/
structure Writing (ε κ τ α : Type) where
  result : Except ε α
  entries : List (κ × τ)

namespace Writing

/-- The rest of a sequence writes after the first step, if that returns. -/
def bind (x : Writing ε κ τ α) (f : α → Writing ε κ τ β) : Writing ε κ τ β :=
  match x.result with
  | .error e => ⟨.error e, x.entries⟩
  | .ok a => ⟨(f a).result, x.entries ++ (f a).entries⟩

instance : Monad (Writing ε κ τ) where
  pure a := ⟨.ok a, []⟩
  bind := bind

/-- A computation that writes nothing. -/
def lift (x : Except ε α) : Writing ε κ τ α := ⟨x, []⟩

/-- An entry, if nothing stands in its way. -/
def write (refuses : κ → Option ε) (key : κ) (value : τ) : Writing ε κ τ Unit :=
  match refuses key with
  | some e => ⟨.error e, []⟩
  | none => ⟨.ok (), [(key, value)]⟩

@[simp] theorem result_pure (a : α) : (pure a : Writing ε κ τ α).result = .ok a := rfl

@[simp] theorem entries_pure (a : α) : (pure a : Writing ε κ τ α).entries = [] := rfl

@[simp] theorem result_lift (x : Except ε α) : (lift x : Writing ε κ τ α).result = x := rfl

@[simp] theorem entries_lift (x : Except ε α) : (lift x : Writing ε κ τ α).entries = [] := rfl

/-- The results of a sequence are those of the sequence of results. -/
@[simp] theorem result_bind (x : Writing ε κ τ α) (f : α → Writing ε κ τ β) :
    (x >>= f).result = x.result >>= fun a => (f a).result := by
  change (bind x f).result = _
  unfold bind
  cases x.result <;> rfl

/-- The entries of a sequence are those of the first step and, if that returns, of
the rest. -/
theorem entries_bind (x : Writing ε κ τ α) (f : α → Writing ε κ τ β) :
    (x >>= f).entries =
      match x.result with
      | .error _ => x.entries
      | .ok a => x.entries ++ (f a).entries := by
  change (bind x f).entries = _
  unfold bind
  cases x.result <;> rfl

/-- An entry lies before the rest of a sequence, unless it is refused. -/
theorem entries_write_bind (refuses : κ → Option ε) (key : κ) (value : τ)
    (f : Unit → Writing ε κ τ β) :
    (write refuses key value >>= f).entries =
      if (refuses key).isNone then (key, value) :: (f ()).entries else [] := by
  rw [entries_bind, write]
  cases refuses key <;> rfl

end Writing

/-! ## The store -/

variable [DecidableEq κ]

/-- The entries are put into the store one after the other. -/
def put (store : κ → Option τ) (entries : List (κ × τ)) : κ → Option τ :=
  entries.foldl (fun store entry => Function.update store entry.1 (some entry.2)) store

/-- The last value of a key. -/
def last (key : κ) (entries : List (κ × τ)) : Option τ :=
  (entries.filterMap fun entry => if entry.1 = key then some entry.2 else none).getLast?

theorem last_append (key : κ) (xs ys : List (κ × τ)) :
    last key (xs ++ ys) = (last key ys).or (last key xs) := by
  rw [last, List.filterMap_append, List.getLast?_append]
  rfl

theorem put_append (store : κ → Option τ) (xs ys : List (κ × τ)) :
    put store (xs ++ ys) = put (put store xs) ys := List.foldl_append

/-- A cell holds the last value that was put there, or what it held before. -/
theorem put_apply (store : κ → Option τ) (entries : List (κ × τ)) (key : κ) :
    put store entries key = (last key entries).or (store key) := by
  induction entries generalizing store with
  | nil => rfl
  | cons entry entries ih =>
      have hrest := ih (Function.update store entry.1 (some entry.2))
      have hlast := last_append key [entry] entries
      rw [List.singleton_append] at hlast
      rw [put, List.foldl_cons, ← put, hrest, hlast, Option.or_assoc]
      by_cases hkey : entry.1 = key
      · simp [last, hkey]
      · simp [last, hkey, Function.update_of_ne (Ne.symm hkey)]

theorem last_eq_none {key : κ} {entries : List (κ × τ)} (h : ∀ entry ∈ entries, entry.1 ≠ key) :
    last key entries = none := by
  rw [last, List.getLast?_eq_none_iff, List.filterMap_eq_nil_iff]
  intro entry hentry
  exact if_neg (h entry hentry)

/-- The last value of a key is found by what the key designates, where no other
key designates the same. -/
theorem last_map {ι σ : Type} [DecidableEq ι] (designates : κ → ι) (text : τ → σ) {key : κ}
    (h : ∀ key', designates key' = designates key → key' = key) (entries : List (κ × τ)) :
    last (designates key) (entries.map fun entry => (designates entry.1, text entry.2)) =
      (last key entries).map text := by
  have hsame : ((fun entry : ι × σ => if entry.1 = designates key then some entry.2 else none) ∘
      fun entry : κ × τ => (designates entry.1, text entry.2)) =
      fun entry => (if entry.1 = key then some entry.2 else none).map text := by
    funext entry
    by_cases hkey : entry.1 = key
    · simp [hkey]
    · have hne : designates entry.1 ≠ designates key := fun heq => hkey (h entry.1 heq)
      simp [hkey, hne]
  rw [last, last, List.filterMap_map, hsame, ← List.getLast?_map, List.map_filterMap]

end Journal
