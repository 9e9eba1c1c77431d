/-!
# Running computations that can fail

`start` is what a computation with a state gives, together with the state that it leaves; the state is left
even where the computation fails. `Maintains` says that a property of the state is not lost.
-/

namespace ServiceStubs

variable {ε σ α β : Type}

/-! ## Computations without a state -/

theorem bind_eq_ok_iff {x : Except ε α} {f : α → Except ε β} {b : β} :
    x >>= f = .ok b ↔ ∃ a, x = .ok a ∧ f a = .ok b := by
  cases x with
  | error e => simp [bind, Except.bind]
  | ok a => simp [bind, Except.bind]

theorem map_eq_ok_iff {x : Except ε α} {f : α → β} {b : β} : x.map f = .ok b ↔ ∃ a, x = .ok a ∧ f a = b := by
  cases x with
  | error e => simp [Except.map]
  | ok a => simp [Except.map]

/-- What a result shows, where only part of it can be compared by evaluation. -/
theorem toOption_map_eq_some_iff {x : Except ε α} {f : α → β} {b : β} :
    x.toOption.map f = some b ↔ ∃ a, x = .ok a ∧ f a = b := by
  cases x with
  | error e => simp [Except.toOption]
  | ok a => simp [Except.toOption]

/-! ## Computations with a state -/

/-- What a computation gives from a state on, and the state that it leaves. -/
def start (x : ExceptT ε (StateM σ) α) (s : σ) : Except ε α × σ :=
  x.run.run s

@[simp] theorem start_pure (a : α) (s : σ) :
    start (pure a : ExceptT ε (StateM σ) α) s = (.ok a, s) := rfl

theorem start_bind (x : ExceptT ε (StateM σ) α) (f : α → ExceptT ε (StateM σ) β) (s : σ) :
    start (x >>= f) s =
      match start x s with
      | (.ok a, s') => start (f a) s'
      | (.error e, s') => (.error e, s') := by
  show StateT.run (ExceptT.run (x >>= f)) s = _
  rw [ExceptT.run_bind, StateT.run_bind]
  rcases hx : start x s with ⟨r, s'⟩
  have hrun : StateT.run (ExceptT.run x) s = (r, s') := hx
  rw [hrun]
  cases r with
  | ok a => rfl
  | error e => rfl

theorem start_discard (x : ExceptT ε (StateM σ) α) (s : σ) :
    start (discard x) s =
      match start x s with
      | (.ok _, s') => (.ok PUnit.unit, s')
      | (.error e, s') => (.error e, s') :=
  start_bind x (fun _ => pure PUnit.unit) s

theorem start_tryCatch (x : ExceptT ε (StateM σ) α) (f : ε → ExceptT ε (StateM σ) α) (s : σ) :
    start (tryCatch x f) s =
      match start x s with
      | (.ok a, s') => (.ok a, s')
      | (.error e, s') => start (f e) s' := by
  unfold start
  simp only [tryCatch, tryCatchThe, MonadExceptOf.tryCatch, ExceptT.tryCatch, ExceptT.run_mk, StateT.run_bind]
  rcases hx : StateT.run (ExceptT.run x) s with ⟨r, s'⟩
  have hrun : StateT.run x s = (r, s') := hx
  rw [hrun]
  cases r with
  | ok a => rfl
  | error e => rfl

/-! ## Properties of the state -/

/-- What holds before a computation also holds after it, whether it fails or not. -/
def Maintains (P : σ → Prop) (x : ExceptT ε (StateM σ) α) : Prop :=
  ∀ s, P s → P (start x s).2

variable {P : σ → Prop}

theorem Maintains.pure (a : α) : Maintains P (pure a : ExceptT ε (StateM σ) α) :=
  fun _ h => h

theorem Maintains.throw (e : ε) : Maintains P (throw e : ExceptT ε (StateM σ) α) :=
  fun _ h => h

theorem Maintains.bind {x : ExceptT ε (StateM σ) α} {f : α → ExceptT ε (StateM σ) β} (hx : Maintains P x)
    (hf : ∀ a, Maintains P (f a)) : Maintains P (x >>= f) := by
  intro s h
  have hfirst := hx s h
  rw [start_bind]
  rcases hs : start x s with ⟨r, s'⟩
  rw [hs] at hfirst
  cases r with
  | ok a => exact hf a s' hfirst
  | error e => exact hfirst

theorem Maintains.tryCatch {x : ExceptT ε (StateM σ) α} {f : ε → ExceptT ε (StateM σ) α} (hx : Maintains P x)
    (hf : ∀ e, Maintains P (f e)) : Maintains P (tryCatch x f) := by
  intro s h
  have hfirst := hx s h
  rw [start_tryCatch]
  rcases hs : start x s with ⟨r, s'⟩
  rw [hs] at hfirst
  cases r with
  | ok a => exact hfirst
  | error e => exact hf e s' hfirst

end ServiceStubs
