import Mathlib.Data.List.Basic
import Mathlib.Data.List.Nodup
import Mathlib.Tactic.Common

/-!
# Callbacks that fire once

Several threads may complete the same thing, each with an outcome of its own.  A flag lets
the first through and stops the others.

* `OneShot.Sound` — a flag stands for a call, and nothing has been called twice.
* `OneShot.Sound.complete` — completing keeps it so.
-/

/-- Flags and calls. -/
structure OneShot (α β : Type) where
  /-- Whose flag is set. -/
  hasCompleted : List α
  /-- The calls, oldest first. -/
  calls : List (α × β)

namespace OneShot

variable {α β : Type} {shots : OneShot α β} {a other : α} {b : β}

/-- No flag is set. -/
def unfired : OneShot α β where
  hasCompleted := []
  calls := []

/-- The first to complete sets the flag and calls. -/
def complete [DecidableEq α] (shots : OneShot α β) (a : α) (b : β) : OneShot α β :=
  if a ∈ shots.hasCompleted then shots
  else
    { hasCompleted := a :: shots.hasCompleted
      calls := shots.calls ++ [(a, b)] }

/-- A flag stands for a call, and each is called at most once. -/
structure Sound (shots : OneShot α β) : Prop where
  mem_iff : ∀ a, a ∈ shots.calls.map Prod.fst ↔ a ∈ shots.hasCompleted
  nodup : (shots.calls.map Prod.fst).Nodup

theorem sound_unfired : (unfired : OneShot α β).Sound where
  mem_iff _ := Iff.rfl
  nodup := List.nodup_nil

variable [DecidableEq α]

@[simp] theorem mem_hasCompleted_complete :
    other ∈ (shots.complete a b).hasCompleted ↔ other = a ∨ other ∈ shots.hasCompleted := by
  rw [complete]
  split
  · next hcompleted =>
      constructor
      · exact .inr
      · rintro (rfl | hother)
        · exact hcompleted
        · exact hother
  · exact List.mem_cons

theorem mem_calls_complete {call : α × β} (h : call ∈ (shots.complete a b).calls) :
    call ∈ shots.calls ∨ call = (a, b) := by
  rw [complete] at h
  split at h
  · exact .inl h
  · rcases List.mem_append.mp h with hbefore | hnew
    · exact .inl hbefore
    · exact .inr (List.mem_singleton.mp hnew)

/-- **A flag lets one call through.** -/
theorem Sound.complete (h : shots.Sound) : (shots.complete a b).Sound := by
  rw [OneShot.complete]
  split
  · exact h
  · next hnot =>
      constructor
      · intro other
        rw [List.map_append, List.mem_append, h.mem_iff, List.mem_cons, or_comm]
        simp
      · rw [List.map_append]
        refine List.nodup_append'.mpr ⟨h.nodup, List.nodup_singleton _, ?_⟩
        rintro other hother hnew
        obtain rfl := List.mem_singleton.mp hnew
        exact hnot ((h.mem_iff _).mp hother)

end OneShot
