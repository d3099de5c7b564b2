import Mathlib.Data.List.Count
import Mathlib.Tactic.Common

/-!
# Formats

A format is a text with places for arguments.  A place takes the next of them, or one by its
position; a place without an argument stays empty.

* `FormatPiece.render` — what a format shows of its arguments.
* `FormatPiece.places` — how many places the only argument of a format has.
* `FormatPiece.countP_render` — **how often something occurs in what is shown**: as often as in
  the text, and as often as in the argument for each of its places.
-/

inductive FormatPiece (α : Type) where
  | text (a : α)
  | next
  | argument (position : ℕ)

namespace FormatPiece

variable {α : Type}

/-- What a format shows of its arguments; the last list is of those that are still to come. -/
def render (arguments : List (List α)) : List (FormatPiece α) → List (List α) → List α
  | [], _ => []
  | text a :: rest, remaining => a :: render arguments rest remaining
  | next :: rest, remaining =>
      remaining.headD [] ++ render arguments rest remaining.tail
  | argument position :: rest, remaining =>
      arguments.getD position [] ++ render arguments rest remaining

/-- The places of an only argument, which is still to come or not. -/
def places : List (FormatPiece α) → Bool → ℕ
  | [], _ => 0
  | text _ :: rest, fresh => places rest fresh
  | next :: rest, fresh => fresh.toNat + places rest false
  | argument position :: rest, fresh => (position == 0).toNat + places rest fresh

/-- What is still to come of an only argument. -/
def onlyRemaining (a : List α) (fresh : Bool) : List (List α) :=
  bif fresh then [a] else []

/-- A position of an only argument shows it where it is the first, and else nothing. -/
theorem countP_getD_singleton (p : α → Bool) (a : List α) (position : ℕ) :
    ([a].getD position []).countP p = (position == 0).toNat * a.countP p := by
  cases position with
  | zero => exact (Nat.one_mul _).symm
  | succ position => exact (Nat.zero_mul _).symm

theorem countP_headD_onlyRemaining (p : α → Bool) (a : List α) (fresh : Bool) :
    ((onlyRemaining a fresh).headD []).countP p = fresh.toNat * a.countP p := by
  cases fresh with
  | true => exact (Nat.one_mul _).symm
  | false => exact (Nat.zero_mul _).symm

theorem tail_onlyRemaining (a : List α) (fresh : Bool) :
    (onlyRemaining a fresh).tail = onlyRemaining a false := by
  cases fresh with
  | true => rfl
  | false => rfl

/-- **How often something occurs in what a format shows of its only argument.** -/
theorem countP_render (p : α → Bool) (a : List α) (pieces : List (FormatPiece α)) (fresh : Bool) :
    (render [a] pieces (onlyRemaining a fresh)).countP p =
      (render [[]] pieces (onlyRemaining [] fresh)).countP p +
        places pieces fresh * a.countP p := by
  induction pieces generalizing fresh with
  | nil =>
      show 0 = 0 + 0 * a.countP p
      omega
  | cons piece rest ih =>
      cases piece with
      | text letter =>
          rw [render, render, places, List.countP_cons, List.countP_cons, ih]
          exact Nat.add_right_comm _ _ _
      | next =>
          have hrest := ih false
          rw [render, render, places, List.countP_append, List.countP_append,
            countP_headD_onlyRemaining, countP_headD_onlyRemaining, tail_onlyRemaining,
            tail_onlyRemaining, hrest, List.countP_nil, Nat.mul_zero, Nat.zero_add, Nat.add_mul]
          exact Nat.add_left_comm _ _ _
      | argument position =>
          rw [render, render, places, List.countP_append, List.countP_append,
            countP_getD_singleton, countP_getD_singleton, ih, List.countP_nil, Nat.mul_zero,
            Nat.zero_add, Nat.add_mul]
          exact Nat.add_left_comm _ _ _

theorem render_eq_of_places_eq_zero (a b : List α) (pieces : List (FormatPiece α)) (fresh : Bool)
    (h : places pieces fresh = 0) :
    render [a] pieces (onlyRemaining a fresh) = render [b] pieces (onlyRemaining b fresh) := by
  induction pieces generalizing fresh with
  | nil => rfl
  | cons piece rest ih =>
      cases piece with
      | text letter => exact congrArg (letter :: ·) (ih fresh h)
      | next =>
          obtain ⟨hfresh, hrest⟩ := Nat.add_eq_zero_iff.mp h
          cases fresh with
          | true => cases hfresh
          | false => exact ih false hrest
      | argument position =>
          obtain ⟨hposition, hrest⟩ := Nat.add_eq_zero_iff.mp h
          cases position with
          | zero => cases hposition
          | succ position => exact ih fresh hrest

end FormatPiece
