import Mathlib.Tactic.Common

/-!
# Procedures that keep what they wrote when they raise

An imperative method mutates its receiver as it goes and may raise in the
middle.  Whatever it had already written stays written: an exception unwinds
the stack, not the heap.  `Except` over a state loses exactly that, so this
module fixes the other order.

* `Procedure ε σ α` — a state transformer returning either a value or an
  exception, **together with the state at that point**.
* `run_bind_eq_ok` / `run_bind_eq_error` — the two peeling rules.  A successful
  run of `x >>= f` is a successful run of both halves; a failing one failed in
  the first half, or succeeded there and failed in the second.
* `Frames g p` — whatever `p` does, on success or failure, the projection `g` of
  the state is what it was.
* `Keeps R p` — the same for a preorder: whatever `p` does, the state before and the state
  after are related by `R`.  Such facts compose along `bind`, so that of a long procedure is
  assembled from those of its parts.

Nothing here knows what the state or the exceptions are.
-/

/-- A procedure on a state `σ` that returns an `α` or raises an `ε`.  The state
component is the state at the moment of the return *or* of the exception. -/
def Procedure (ε σ α : Type) : Type := σ → Except ε α × σ

namespace Procedure

variable {ε σ τ α β : Type} {p : Procedure ε σ α} {f : α → Procedure ε σ β} {s s' : σ}

def run (p : Procedure ε σ α) (s : σ) : Except ε α × σ := p s

/-- Raise an exception, leaving the state as it is. -/
def raise (e : ε) : Procedure ε σ α := fun s => (.error e, s)

/-- The current state. -/
def read : Procedure ε σ σ := fun s => (.ok s, s)

/-- Change the state. -/
def modify (f : σ → σ) : Procedure ε σ Unit := fun s => (.ok (), f s)

/-- A computation that may raise but writes nothing. -/
def lift (x : Except ε α) : Procedure ε σ α := fun s => (x, s)

/-- Run `p`, translating what it raises: a `catch` that rethrows. -/
def mapError (f : ε → ε) (p : Procedure ε σ α) : Procedure ε σ α := fun s =>
  match p s with
  | (.ok a, s') => (.ok a, s')
  | (.error e, s') => (.error (f e), s')

/-- Run `p`; what it raises goes to `handler`, from the state at that point. -/
def handle (handler : ε → Procedure ε σ α) (p : Procedure ε σ α) : Procedure ε σ α := fun s =>
  match p s with
  | (.ok a, s') => (.ok a, s')
  | (.error e, s') => handler e s'

/-- Run a procedure on a part of the state. -/
def zoom (get : σ → τ) (set : τ → σ → σ) (p : Procedure ε τ α) : Procedure ε σ α := fun s =>
  ((p (get s)).1, set (p (get s)).2 s)

instance : Monad (Procedure ε σ) where
  pure a := fun s => (.ok a, s)
  bind p f := fun s =>
    match p s with
    | (.ok a, s') => f a s'
    | (.error e, s') => (.error e, s')

@[simp] theorem run_pure (a : α) (s : σ) :
    (pure a : Procedure ε σ α).run s = (.ok a, s) := rfl

@[simp] theorem run_raise (e : ε) (s : σ) :
    (raise e : Procedure ε σ α).run s = (.error e, s) := rfl

@[simp] theorem run_read (s : σ) : (read : Procedure ε σ σ).run s = (.ok s, s) := rfl

@[simp] theorem run_modify (f : σ → σ) (s : σ) :
    (modify f : Procedure ε σ Unit).run s = (.ok (), f s) := rfl

@[simp] theorem run_lift (x : Except ε α) (s : σ) :
    (lift x : Procedure ε σ α).run s = (x, s) := rfl

theorem run_mapError (f : ε → ε) (p : Procedure ε σ α) (s : σ) :
    (mapError f p).run s =
      match p.run s with
      | (.ok a, s') => (.ok a, s')
      | (.error e, s') => (.error (f e), s') := rfl

theorem run_handle (handler : ε → Procedure ε σ α) (p : Procedure ε σ α) (s : σ) :
    (handle handler p).run s =
      match p.run s with
      | (.ok a, s') => (.ok a, s')
      | (.error e, s') => (handler e).run s' := rfl

/-- What returned needs no handler. -/
theorem run_handle_of_ok {handler : ε → Procedure ε σ α} {a : α} (h : p.run s = (.ok a, s')) :
    (handle handler p).run s = (.ok a, s') := by
  rw [run_handle, h]

theorem run_handle_of_error {handler : ε → Procedure ε σ α} {e : ε} (h : p.run s = (.error e, s')) :
    (handle handler p).run s = (handler e).run s' := by
  rw [run_handle, h]

@[simp] theorem run_zoom (get : σ → τ) (set : τ → σ → σ) (p : Procedure ε τ α) (s : σ) :
    (zoom get set p).run s = ((p.run (get s)).1, set (p.run (get s)).2 s) := rfl

@[simp] theorem run_ite (c : Prop) [Decidable c] (p q : Procedure ε σ α) (s : σ) :
    (if c then p else q).run s = if c then p.run s else q.run s := by
  split <;> rfl

theorem run_bind (p : Procedure ε σ α) (f : α → Procedure ε σ β) (s : σ) :
    (p >>= f).run s =
      match p.run s with
      | (.ok a, s') => (f a).run s'
      | (.error e, s') => (.error e, s') := rfl

theorem run_bind_of_ok {a : α} (h : p.run s = (.ok a, s')) : (p >>= f).run s = (f a).run s' := by
  rw [run_bind, h]

/-- The first half raised: so does the whole, in the same state. -/
theorem run_bind_of_error {e : ε} (h : p.run s = (.error e, s')) :
    (p >>= f).run s = (.error e, s') := by
  rw [run_bind, h]

/-- **Peeling a successful run.** -/
theorem run_bind_eq_ok {s s'' : σ} {b : β} :
    (p >>= f).run s = (.ok b, s'') ↔
      ∃ a s', p.run s = (.ok a, s') ∧ (f a).run s' = (.ok b, s'') := by
  rw [run_bind]
  rcases h : p.run s with ⟨_ | a, s'⟩
  · simp
  · simp

/-- **Peeling a failing run.** -/
theorem run_bind_eq_error {s s'' : σ} {e : ε} :
    (p >>= f).run s = (.error e, s'') ↔
      p.run s = (.error e, s'') ∨
        ∃ a s', p.run s = (.ok a, s') ∧ (f a).run s' = (.error e, s'') := by
  rw [run_bind]
  rcases h : p.run s with ⟨_ | a, s'⟩
  · simp
  · simp

@[simp] theorem run_read_bind (f : σ → Procedure ε σ β) (s : σ) :
    (read >>= f).run s = (f s).run s := rfl

@[simp] theorem run_modify_bind (g : σ → σ) (f : Unit → Procedure ε σ β) (s : σ) :
    (modify g >>= f).run s = (f ()).run (g s) := rfl

@[simp] theorem run_pure_bind (a : α) (f : α → Procedure ε σ β) (s : σ) :
    ((pure a : Procedure ε σ α) >>= f).run s = (f a).run s := rfl

@[simp] theorem run_raise_bind (e : ε) (f : α → Procedure ε σ β) (s : σ) :
    ((raise e : Procedure ε σ α) >>= f).run s = (.error e, s) := rfl

@[simp] theorem run_lift_ok_bind (a : α) (f : α → Procedure ε σ β) (s : σ) :
    ((lift (.ok a) : Procedure ε σ α) >>= f).run s = (f a).run s := rfl

@[simp] theorem run_lift_error_bind (e : ε) (f : α → Procedure ε σ β) (s : σ) :
    ((lift (.error e) : Procedure ε σ α) >>= f).run s = (.error e, s) := rfl

/-! ## Frames -/

/-- `p` never changes the projection `g` of the state, whether it returns or
raises. -/
def Frames (g : σ → τ) (p : Procedure ε σ α) : Prop := ∀ s, g (p.run s).2 = g s

variable {g : σ → τ}

theorem Frames.lift (x : Except ε α) : Frames g (Procedure.lift x : Procedure ε σ α) :=
  fun _ => rfl

/-- Reading a frame fact off a run whose outcome is known. -/
theorem Frames.eq_of_run (h : Frames g p) {r : Except ε α} (run : p.run s = (r, s')) :
    g s' = g s := by
  have := h s
  rwa [run] at this

/-! ## Preorders -/

/-- The state before `p` and the state after are related, whether it returns or raises. -/
def Keeps (R : σ → σ → Prop) (p : Procedure ε σ α) : Prop := ∀ s, R s (p.run s).2

variable {R : σ → σ → Prop}

theorem Keeps.pure (hrefl : ∀ s, R s s) (a : α) : Keeps R (Pure.pure a : Procedure ε σ α) := hrefl

theorem Keeps.raise (hrefl : ∀ s, R s s) (e : ε) :
    Keeps R (Procedure.raise e : Procedure ε σ α) := hrefl

theorem Keeps.modify {f : σ → σ} (h : ∀ s, R s (f s)) :
    Keeps R (Procedure.modify f : Procedure ε σ Unit) := h

theorem Keeps.bind (htrans : ∀ s s' s'', R s s' → R s' s'' → R s s'') (hp : Keeps R p)
    (hf : ∀ a, Keeps R (f a)) : Keeps R (p >>= f) := by
  intro s
  have hps := hp s
  rw [run_bind]
  rcases h : p.run s with ⟨_ | a, s'⟩
  · simpa [h] using hps
  · rw [h] at hps
    exact htrans _ _ _ hps (hf a s')

theorem Keeps.ite {c : Prop} [Decidable c] {p q : Procedure ε σ α} (hp : Keeps R p)
    (hq : Keeps R q) : Keeps R (if c then p else q) := by
  split
  · exact hp
  · exact hq

/-- Reading a related state off a run whose outcome is known. -/
theorem Keeps.of_run (h : Keeps R p) {r : Except ε α} (run : p.run s = (r, s')) : R s s' := by
  have := h s
  rwa [run] at this

end Procedure
