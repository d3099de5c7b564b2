import Mathlib.Data.Finset.Basic
import Mathlib.Order.Interval.Finset.Nat
import Mathlib.Tactic.Common

/-!
# Numbered items taken once, in any order

A receiver expects items numbered `0, 1, 2, …`, each at most once and in any
order, and remembers the past in two pieces: the next number it has not passed,
and the numbers below it that were skipped and are still owed.  Taking a number
ahead skips what lies between; how far ahead it may lie is bounded.

* `Ledger.take_isSome` — which numbers can be taken.
* `Ledger.spent_take` — **the whole history**: after a number is taken, the
  numbers that can never be taken again are those that could not before, and it.
  Both halves of at-most-once delivery are in this equivalence: what was taken
  stays taken, and nothing else is lost.
-/

/-- Numbers below `next` have been passed; of these `stored` are still owed. -/
@[ext]
structure Ledger where
  next : ℕ
  stored : Finset ℕ
  stored_lt : ∀ i ∈ stored, i < next

namespace Ledger

/-- Passed and not owed: never again. -/
def Spent (ledger : Ledger) (number : ℕ) : Prop :=
  number < ledger.next ∧ number ∉ ledger.stored

/-- Give up a number that is owed. -/
def removeStored (ledger : Ledger) (number : ℕ) : Ledger where
  next := ledger.next
  stored := ledger.stored.erase number
  stored_lt i hi := ledger.stored_lt i (Finset.mem_of_mem_erase hi)

/-- Pass `number`, owing all that lies before it. -/
def advance (ledger : Ledger) (number : ℕ) (h : ledger.next ≤ number) : Ledger where
  next := number + 1
  stored := ledger.stored ∪ Finset.Ico ledger.next number
  stored_lt i hi := by
    rcases Finset.mem_union.mp hi with hi | hi
    · have := ledger.stored_lt i hi
      omega
    · have := (Finset.mem_Ico.mp hi).2
      omega

/-- Take a number, at most `limit` ahead. -/
def take (limit : ℕ) (ledger : Ledger) (number : ℕ) : Option Ledger :=
  if h : ledger.next ≤ number then
    if number - ledger.next ≤ limit then some (ledger.advance number h) else none
  else if number ∈ ledger.stored then some (ledger.removeStored number) else none

variable {limit : ℕ} {ledger ledger' : Ledger} {number other : ℕ}

/-- A number can be taken when it is not spent and not too far ahead. -/
theorem take_isSome :
    (ledger.take limit number).isSome ↔
      ¬ledger.Spent number ∧ number ≤ ledger.next + limit := by
  unfold take Spent
  by_cases h : ledger.next ≤ number
  · rw [dif_pos h]
    split
    · simp only [Option.isSome_some, true_iff]
      omega
    · simp only [Option.isSome_none, Bool.false_eq_true, false_iff]
      omega
  · rw [dif_neg h]
    split
    · rename_i hmem
      simp only [Option.isSome_some, true_iff]
      exact ⟨fun hspent => hspent.2 hmem, by omega⟩
    · rename_i hmem
      simp only [Option.isSome_none, Bool.false_eq_true, false_iff]
      exact fun hfree => hfree.1 ⟨by omega, hmem⟩

/-- **Exactly the number taken becomes spent.** -/
theorem spent_take (h : ledger.take limit number = some ledger') :
    ledger'.Spent other ↔ ledger.Spent other ∨ other = number := by
  unfold take at h
  by_cases hnext : ledger.next ≤ number
  · rw [dif_pos hnext] at h
    split at h
    · obtain rfl : ledger.advance number hnext = ledger' := by simpa using h
      simp only [Spent, advance, Finset.mem_union, Finset.mem_Ico]
      constructor
      · rintro ⟨hlt, hmem⟩
        by_cases hother : other = number
        · exact .inr hother
        · refine .inl ⟨by omega, fun hin => hmem (.inl hin)⟩
      · rintro (⟨hlt, hmem⟩ | rfl)
        · refine ⟨by omega, ?_⟩
          rintro (hin | hin)
          · exact hmem hin
          · omega
        · refine ⟨by omega, ?_⟩
          rintro (hin | hin)
          · have := ledger.stored_lt other hin
            omega
          · omega
    · simp at h
  · rw [dif_neg hnext] at h
    split at h
    · obtain rfl : ledger.removeStored number = ledger' := by simpa using h
      simp only [Spent, removeStored, Finset.mem_erase]
      constructor
      · rintro ⟨hlt, hmem⟩
        by_cases hother : other = number
        · exact .inr hother
        · exact .inl ⟨hlt, fun hin => hmem ⟨hother, hin⟩⟩
      · rintro (⟨hlt, hmem⟩ | rfl)
        · exact ⟨hlt, fun hin => hmem hin.2⟩
        · exact ⟨by omega, fun hin => hin.1 rfl⟩
    · simp at h

end Ledger
