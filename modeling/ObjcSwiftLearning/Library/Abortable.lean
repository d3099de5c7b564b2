import Mathlib.Data.Nat.Notation
import Mathlib.Tactic.Common

/-!
# Work that may be given up

A long task looks before each item whether it may go on.  Where it may not it stops there, what
it has done stays done, and after a few tries it is left at that.

* `Abortable` — such a task, made of `forEach`, `andThen` and `retry`.
* `Abortable.Keeps` — what holds before still holds after it, **wherever it has stopped**.
* `Abortable.Achieves` — it comes to its end, and what holds then.
-/

/-- A task on a state and the number of looks taken before: whether it comes to its end, the
state and the number of looks after it. -/
def Abortable (σ : Type) : Type := σ → ℕ → Bool × σ × ℕ

namespace Abortable

variable {α σ : Type}

/-- Each item in turn, with a look before it. -/
def forEach (active : ℕ → Bool) (body : α → σ → σ) : List α → Abortable σ
  | [], state, looks => (true, state, looks)
  | a :: list, state, looks =>
      if active looks then forEach active body list (body a state) (looks + 1)
      else (false, state, looks + 1)

/-- A task, and another one if the first comes to its end. -/
def andThen (first second : Abortable σ) : Abortable σ := fun state looks =>
  match first state looks with
  | (true, state, looks) => second state looks
  | (false, state, looks) => (false, state, looks)

/-- A task is tried until it comes to its end, so many times. -/
def retry (task : Abortable σ) : ℕ → Abortable σ
  | 0, state, looks => (false, state, looks)
  | tries + 1, state, looks =>
      match task state looks with
      | (true, state, looks) => (true, state, looks)
      | (false, state, looks) => retry task tries state looks

/-- What holds of the state before a task holds of it after. -/
def Keeps (P : σ → Prop) (task : Abortable σ) : Prop :=
  ∀ state looks, P state → P (task state looks).2.1

/-- From a state of which `P` holds a task comes to its end, in one of which `Q` does. -/
def Achieves (P : σ → Prop) (task : Abortable σ) (Q : σ → Prop) : Prop :=
  ∀ state looks, P state → (task state looks).1 = true ∧ Q (task state looks).2.1

variable {P Q R : σ → Prop} {active : ℕ → Bool} {body : α → σ → σ} {list : List α}
  {first second task : Abortable σ}

/-! ## What is kept -/

theorem keeps_forEach (hbody : ∀ a ∈ list, ∀ state, P state → P (body a state)) :
    Keeps P (forEach active body list) := by
  induction list with
  | nil => exact fun _ _ h => h
  | cons a list ih =>
      intro state looks h
      rw [forEach]
      split
      · exact ih (fun b hb => hbody b (List.mem_cons_of_mem a hb)) _ _
          (hbody a List.mem_cons_self state h)
      · exact h

theorem Keeps.andThen (hfirst : Keeps P first) (hsecond : Keeps P second) :
    Keeps P (first.andThen second) := by
  intro state looks h
  have hmiddle := hfirst state looks h
  rw [Abortable.andThen]
  split
  · rename_i heq
    rw [heq] at hmiddle
    exact hsecond _ _ hmiddle
  · rename_i heq
    rw [heq] at hmiddle
    exact hmiddle

theorem Keeps.retry (htask : Keeps P task) (tries : ℕ) : Keeps P (task.retry tries) := by
  induction tries with
  | zero => exact fun _ _ h => h
  | succ tries ih =>
      intro state looks h
      have hmiddle := htask state looks h
      rw [Abortable.retry]
      split
      · rename_i heq
        rw [heq] at hmiddle
        exact hmiddle
      · rename_i heq
        rw [heq] at hmiddle
        exact ih _ _ hmiddle

/-! ## What is achieved -/

/-- **Each item is dealt with** where every look says to go on, if what is done with the others
does not undo it. -/
theorem achieves_forEach {Done : α → σ → Prop} (hactive : ∀ looks, active looks = true)
    (hbody : ∀ a ∈ list, ∀ state, P state → P (body a state))
    (hdone : ∀ a state, P state → Done a (body a state))
    (hstays : ∀ a b state, Done a state → Done a (body b state)) :
    Achieves P (forEach active body list) fun state => P state ∧ ∀ a ∈ list, Done a state := by
  induction list with
  | nil => exact fun _ _ h => ⟨rfl, h, fun _ ha => absurd ha List.not_mem_nil⟩
  | cons a list ih =>
      intro state looks h
      have hrest := fun b hb => hbody b (List.mem_cons_of_mem a hb)
      have ha := hbody a List.mem_cons_self state h
      obtain ⟨hend, hP, hlist⟩ := ih hrest (body a state) (looks + 1) ha
      have hkeeps : Keeps (Done a) (forEach active body list) :=
        keeps_forEach fun b _ state => hstays a b state
      rw [forEach, if_pos (hactive looks)]
      exact ⟨hend, hP, List.forall_mem_cons.mpr ⟨hkeeps _ _ (hdone a state h), hlist⟩⟩

theorem Achieves.andThen (hfirst : Achieves P first Q) (hsecond : Achieves Q second R) :
    Achieves P (first.andThen second) R := by
  intro state looks h
  obtain ⟨hend, hQ⟩ := hfirst state looks h
  rw [Abortable.andThen]
  split
  · rename_i heq
    rw [heq] at hQ
    exact hsecond _ _ hQ
  · rename_i heq
    rw [heq] at hend
    cases hend

theorem Achieves.retry (htask : Achieves P task Q) (tries : ℕ) :
    Achieves P (task.retry (tries + 1)) Q := by
  intro state looks h
  obtain ⟨hend, hQ⟩ := htask state looks h
  rw [Abortable.retry]
  split
  · rename_i heq
    rw [heq] at hQ
    exact ⟨rfl, hQ⟩
  · rename_i heq
    rw [heq] at hend
    cases hend

end Abortable
