import Mathlib.Data.List.Basic
import Mathlib.Tactic.Common

/-!
# A whole in pieces that arrive interleaved

A resource is fetched in pieces, each a range of it; a piece may begin with some of what came
before it, which is dropped when they are put together.  What happens to the pieces happens
in any order.

* `Piece.Tiles` — pieces that follow one another without a gap, `Piece.Tiles.flatMap_fresh` —
  put together they are the resource.
* `Interleaved.getElem?_run` — after any events **each element has gone through its own**.
-/

/-! ## Pieces -/

/-- A range of a resource, the first elements of which are in the one before. -/
structure Piece where
  start : ℕ
  length : ℕ
  overlap : ℕ
  deriving DecidableEq

namespace Piece

variable {β : Type}

/-- What of a resource is in its range. -/
def of (resource : List β) (piece : Piece) : List β :=
  (resource.drop piece.start).take piece.length

/-- Its part that is in none before. -/
def fresh (resource : List β) (piece : Piece) : List β :=
  (piece.of resource).drop piece.overlap

/-- The pieces make up what is between the two positions: each brings what follows on the one
before. -/
def Tiles : ℕ → ℕ → List Piece → Prop
  | start, stop, [] => start = stop
  | start, stop, piece :: pieces =>
      piece.start + piece.overlap = start ∧ piece.overlap ≤ piece.length ∧
        Tiles (piece.start + piece.length) stop pieces

variable {start stop : ℕ} {pieces : List Piece} {resource : List β}

theorem length_of {piece : Piece} (h : piece.start + piece.length ≤ resource.length) :
    (piece.of resource).length = piece.length := by
  rw [of, List.length_take, List.length_drop]
  omega

theorem Tiles.start_le_stop (h : Tiles start stop pieces) : start ≤ stop := by
  induction pieces generalizing start with
  | nil => exact Nat.le_of_eq h
  | cons piece pieces ih =>
      obtain ⟨hstart, hoverlap, hrest⟩ := h
      have hnext := ih hrest
      omega

theorem fresh_eq {piece : Piece} :
    piece.fresh resource =
      (resource.drop (piece.start + piece.overlap)).take (piece.length - piece.overlap) := by
  rw [fresh, of, List.drop_take, List.drop_drop]

/-- **Put together, the pieces are what is between the positions.** -/
theorem Tiles.flatMap_fresh (h : Tiles start stop pieces) :
    pieces.flatMap (fresh resource) = (resource.drop start).take (stop - start) := by
  induction pieces generalizing start with
  | nil =>
      obtain rfl : start = stop := h
      simp
  | cons piece pieces ih =>
      obtain ⟨rfl, hoverlap, hrest⟩ := h
      have hle := hrest.start_le_stop
      have hsum : stop - (piece.start + piece.overlap) =
          piece.length - piece.overlap + (stop - (piece.start + piece.length)) := by
        omega
      have hnext : piece.start + piece.overlap + (piece.length - piece.overlap) =
          piece.start + piece.length := by
        omega
      rw [List.flatMap_cons, ih hrest, fresh_eq, hsum, List.take_add, List.drop_drop, hnext]

theorem Tiles.flatMap_fresh_whole (h : Tiles 0 resource.length pieces) :
    pieces.flatMap (fresh resource) = resource := by
  rw [h.flatMap_fresh]
  simp

end Piece

/-! ## Events at the elements of a list -/

namespace Interleaved

variable {α ε : Type} (handle : ε → α → α)

/-- Each event, at the element that it is about. -/
def run (list : List α) (events : List (ℕ × ε)) : List α :=
  events.foldl (fun list event => list.modify event.1 (handle event.2)) list

/-- The events about one element. -/
def eventsAt (i : ℕ) (events : List (ℕ × ε)) : List ε :=
  events.filterMap fun event => if event.1 = i then some event.2 else none

variable {handle} {list : List α} {events : List (ℕ × ε)} {i : ℕ}

/-- **Each element has gone through its own events.** -/
theorem getElem?_run :
    (run handle list events)[i]? =
      list[i]?.map fun a => (eventsAt i events).foldl (fun a event => handle event a) a := by
  induction events generalizing list with
  | nil => simp [run, eventsAt]
  | cons event events ih =>
      have hrun : run handle list (event :: events) =
          run handle (list.modify event.1 (handle event.2)) events := rfl
      rw [hrun, ih, List.getElem?_modify, eventsAt, eventsAt, List.filterMap_cons]
      by_cases heq : event.1 = i
      · simp [heq, Function.comp_def]
      · simp [heq]

/-- An element of the end comes from one of the start. -/
theorem exists_of_mem_run {b : α} (h : b ∈ run handle list events) :
    ∃ i a, list[i]? = some a ∧
      b = (eventsAt i events).foldl (fun a event => handle event a) a := by
  obtain ⟨i, hi⟩ := List.mem_iff_getElem?.mp h
  rw [getElem?_run, Option.map_eq_some_iff] at hi
  obtain ⟨a, ha, hb⟩ := hi
  exact ⟨i, a, ha, hb.symm⟩

theorem map_run {γ : Type} {f : α → γ} (h : ∀ event a, f (handle event a) = f a) :
    (run handle list events).map f = list.map f := by
  induction events generalizing list with
  | nil => rfl
  | cons event events ih =>
      have hrun : run handle list (event :: events) =
          run handle (list.modify event.1 (handle event.2)) events := rfl
      rw [hrun, ih]
      apply List.ext_getElem?
      intro i
      rw [List.getElem?_map, List.getElem?_map, List.getElem?_modify]
      cases list[i]? with
      | none => rfl
      | some a =>
          by_cases heq : event.1 = i
          · simp [heq, h]
          · simp [heq]

end Interleaved
