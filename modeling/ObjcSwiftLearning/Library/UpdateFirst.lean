import Mathlib.Data.List.Basic
import Mathlib.Tactic.Common

/-!
# Updating the first match of a list

A list searched from the front, whose hit is then changed in place, behaves like
a finite map as long as the change keeps what the search looks at.  This module
states that: `l.updateFirst p f` applies `f` to the element `l.find? p` returns
and to no other.

* `find?_updateFirst` — the search now returns the changed element.
* `updateFirst_updateFirst` — two changes in a row are one.
-/

namespace List

variable {α β : Type}

/-- Apply `f` to the first element satisfying `p`. -/
def updateFirst (p : α → Bool) (f : α → α) : List α → List α
  | [] => []
  | a :: l => if p a then f a :: l else a :: updateFirst p f l

variable {p : α → Bool} {f g : α → α} {l : List α}

@[simp] theorem updateFirst_nil : updateFirst p f [] = [] := rfl

theorem updateFirst_cons_of_pos {a : α} (h : p a = true) : updateFirst p f (a :: l) = f a :: l := by
  simp [updateFirst, h]

theorem updateFirst_cons_of_neg {a : α} (h : p a = false) :
    updateFirst p f (a :: l) = a :: updateFirst p f l := by
  simp [updateFirst, h]

@[simp] theorem length_updateFirst (l : List α) : (updateFirst p f l).length = l.length := by
  induction l with
  | nil => rfl
  | cons a l ih =>
      cases h : p a
      · simp [updateFirst_cons_of_neg h, ih]
      · simp [updateFirst_cons_of_pos h]

/-- A projection `f` keeps is kept throughout the list. -/
theorem map_updateFirst {key : α → β} (hf : ∀ a, p a = true → key (f a) = key a)
    (l : List α) :
    (updateFirst p f l).map key = l.map key := by
  induction l with
  | nil => rfl
  | cons a l ih =>
      cases h : p a
      · simp [updateFirst_cons_of_neg h, ih]
      · simp [updateFirst_cons_of_pos h, hf a h]

/-- The search returns the changed element. -/
theorem find?_updateFirst (hf : ∀ a, p a = true → p (f a) = true) (l : List α) :
    (updateFirst p f l).find? p = (l.find? p).map f := by
  induction l with
  | nil => rfl
  | cons a l ih =>
      cases h : p a
      · simp [updateFirst_cons_of_neg h, find?_cons_of_neg, h, ih]
      · simp [updateFirst_cons_of_pos h, find?_cons_of_pos, h, hf a h]

/-- Another search does not see the change. -/
theorem find?_updateFirst_of_disjoint {q : α → Bool} (hp : ∀ a, p a = true → q a = false)
    (hf : ∀ a, p a = true → q (f a) = false) (l : List α) :
    (updateFirst p f l).find? q = l.find? q := by
  induction l with
  | nil => rfl
  | cons a l ih =>
      cases h : p a with
      | false => rw [updateFirst_cons_of_neg h, find?_cons, find?_cons, ih]
      | true => simp [updateFirst_cons_of_pos h, find?_cons_of_neg, hp a h, hf a h]

/-- Two changes in a row are one. -/
theorem updateFirst_updateFirst (hf : ∀ a, p a = true → p (f a) = true) (l : List α) :
    updateFirst p g (updateFirst p f l) = updateFirst p (fun a => g (f a)) l := by
  induction l with
  | nil => rfl
  | cons a l ih =>
      cases h : p a
      · simp only [updateFirst_cons_of_neg h, ih]
      · simp only [updateFirst_cons_of_pos h]
        rw [updateFirst_cons_of_pos (hf a h)]

/-- Only what `f` does to the element found matters. -/
theorem updateFirst_congr (h : ∀ a ∈ l.find? p, f a = g a) :
    updateFirst p f l = updateFirst p g l := by
  induction l with
  | nil => rfl
  | cons a l ih =>
      cases hp : p a
      · rw [updateFirst_cons_of_neg hp, updateFirst_cons_of_neg hp]
        rw [ih (by simpa [find?_cons_of_neg, hp] using h)]
      · rw [updateFirst_cons_of_pos hp, updateFirst_cons_of_pos hp]
        rw [h a (by simp [find?_cons_of_pos, hp])]

theorem updateFirst_id (l : List α) : updateFirst p (fun a => a) l = l := by
  induction l with
  | nil => rfl
  | cons a l ih =>
      cases h : p a
      · rw [updateFirst_cons_of_neg h, ih]
      · rw [updateFirst_cons_of_pos h]

/-- An element of the result was there before, or is the changed hit. -/
theorem mem_of_mem_updateFirst {x : α} (h : x ∈ updateFirst p f l) :
    x ∈ l ∨ ∃ a ∈ l.find? p, x = f a := by
  induction l with
  | nil => simp at h
  | cons a l ih =>
      cases hp : p a
      · rw [updateFirst_cons_of_neg hp, mem_cons] at h
        rcases h with rfl | h
        · exact .inl mem_cons_self
        · rcases ih h with hl | ⟨b, hb, rfl⟩
          · exact .inl (mem_cons_of_mem _ hl)
          · exact .inr ⟨b, by simpa [find?_cons_of_neg, hp] using hb, rfl⟩
      · rw [updateFirst_cons_of_pos hp, mem_cons] at h
        rcases h with rfl | h
        · exact .inr ⟨a, by simp [find?_cons_of_pos, hp], rfl⟩
        · exact .inl (mem_cons_of_mem _ h)

end List
