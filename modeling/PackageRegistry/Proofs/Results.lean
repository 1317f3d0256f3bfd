/-! # Calculating with results

How the results of fallible steps pass through the steps behind them.
-/

namespace PackageRegistry.Results

variable {ε δ α β : Type}

@[simp] theorem ok_bind (a : α) (f : α → Except ε β) : (Except.ok a >>= f) = f a := rfl

@[simp] theorem error_bind (e : ε) (f : α → Except ε β) : (Except.error e >>= f) = .error e := rfl

@[simp] theorem pure_eq_ok (a : α) : (pure a : Except ε α) = .ok a := rfl

@[simp] theorem map_ok (f : α → β) (a : α) : Except.map f (.ok a : Except ε α) = .ok (f a) := rfl

@[simp] theorem map_error (f : α → β) (e : ε) : Except.map f (.error e) = .error e := rfl

@[simp] theorem mapError_ok (f : ε → δ) (a : α) : Except.mapError f (.ok a) = .ok a := rfl

@[simp] theorem mapError_error (f : ε → δ) (e : ε) :
    Except.mapError f (.error e : Except ε α) = .error (f e) := rfl

/-- Two steps succeed when both do. -/
theorem bind_eq_ok_iff {x : Except ε α} {f : α → Except ε β} {b : β} :
    (x >>= f) = .ok b ↔ ∃ a, x = .ok a ∧ f a = .ok b := by
  cases x <;> simp

/-- Two steps fail when the first one does, or else the second. -/
theorem bind_eq_error_iff {x : Except ε α} {f : α → Except ε β} {e : ε} :
    (x >>= f) = .error e ↔ x = .error e ∨ ∃ a, x = .ok a ∧ f a = .error e := by
  cases x <;> simp

theorem map_eq_ok_iff {x : Except ε α} {f : α → β} {b : β} :
    Except.map f x = .ok b ↔ ∃ a, x = .ok a ∧ f a = b := by
  cases x <;> simp

theorem mapError_eq_ok_iff {x : Except ε α} {f : ε → δ} {a : α} :
    Except.mapError f x = .ok a ↔ x = .ok a := by
  cases x <;> simp

theorem mapError_eq_error_iff {x : Except ε α} {f : ε → δ} {d : δ} :
    Except.mapError f x = .error d ↔ ∃ e, x = .error e ∧ f e = d := by
  cases x <;> simp

/-! ## Results that are alike -/

variable {α' β' : Type} {R : α → α' → Prop} {S : β → β' → Prop}

/-- Both fail in the same way, or both succeed with related outcomes. -/
inductive Alike (R : α → α' → Prop) : Except ε α → Except ε α' → Prop where
  | error (e : ε) : Alike R (.error e) (.error e)
  | ok {a : α} {a' : α'} (h : R a a') : Alike R (.ok a) (.ok a')

theorem Alike.refl (x : Except ε α) : Alike Eq x x := by
  cases x with
  | error e => exact .error e
  | ok a => exact .ok rfl

theorem Alike.bind {x : Except ε α} {x' : Except ε α'} {f : α → Except ε β}
    {f' : α' → Except ε β'} (h : Alike R x x') (hf : ∀ a a', R a a' → Alike S (f a) (f' a')) :
    Alike S (x >>= f) (x' >>= f') := by
  cases h with
  | error e => exact .error e
  | ok h => exact hf _ _ h

theorem Alike.mapError {x : Except ε α} {x' : Except ε α'} (h : Alike R x x') (f : ε → δ) :
    Alike R (Except.mapError f x) (Except.mapError f x') := by
  cases h with
  | error e => exact .error (f e)
  | ok h => exact .ok h

theorem Alike.map_eq {x : Except ε α} {x' : Except ε α'} (h : Alike R x x') {f : α → β}
    {f' : α' → β} (hf : ∀ a a', R a a' → f' a' = f a) :
    Except.map f' x' = Except.map f x := by
  cases h with
  | error e => rfl
  | ok h => rw [map_ok, map_ok, hf _ _ h]

end PackageRegistry.Results
