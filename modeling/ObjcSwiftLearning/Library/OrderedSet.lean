import Mathlib.Data.List.Nodup
import Mathlib.Tactic.Common

/-!
# Ordered sets

A list without repetitions: what was added first comes first, and what is there already is not
added again.

* `OrderedSet.mem_union`, `OrderedSet.mem_minus` — the elements of what the operations make.
-/

@[ext] structure OrderedSet (α : Type) where
  elements : List α
  nodup : elements.Nodup

namespace OrderedSet

variable {α : Type}

instance : Membership α (OrderedSet α) where
  mem set a := a ∈ set.elements

instance [DecidableEq α] (a : α) (set : OrderedSet α) : Decidable (a ∈ set) :=
  inferInstanceAs (Decidable (a ∈ set.elements))

/-- The set without elements. -/
def empty : OrderedSet α := ⟨[], List.nodup_nil⟩

def singleton (a : α) : OrderedSet α := ⟨[a], List.nodup_singleton a⟩

variable {set : OrderedSet α} {a b : α} {list : List α}

theorem mem_def : a ∈ set ↔ a ∈ set.elements := Iff.rfl

variable [DecidableEq α]

/-- One element is added, at the end. -/
def add (set : OrderedSet α) (a : α) : OrderedSet α :=
  if h : a ∈ set.elements then set
  else
    ⟨set.elements ++ [a],
      set.nodup.append (List.nodup_singleton a) (List.disjoint_singleton.mpr h)⟩

def union (set : OrderedSet α) (list : List α) : OrderedSet α := list.foldl add set

/-- The elements of a list are taken away. -/
def minus (set : OrderedSet α) (list : List α) : OrderedSet α :=
  ⟨set.elements.filter (· ∉ list), set.nodup.filter _⟩

@[simp] theorem mem_add : a ∈ set.add b ↔ a ∈ set ∨ a = b := by
  rw [mem_def, add]
  split
  · rename_i hb
    constructor
    · exact .inl
    · rintro (ha | rfl)
      · exact ha
      · exact hb
  · simp [mem_def]

@[simp] theorem mem_union : a ∈ set.union list ↔ a ∈ set ∨ a ∈ list := by
  rw [union]
  induction list generalizing set with
  | nil => simp
  | cons b list ih =>
      rw [List.foldl_cons, ih, mem_add, List.mem_cons]
      exact or_assoc

@[simp] theorem mem_minus : a ∈ set.minus list ↔ a ∈ set ∧ a ∉ list := by
  simp [mem_def, minus]

theorem elements_add_of_not_mem (h : b ∉ set) : (set.add b).elements = set.elements ++ [b] := by
  rw [mem_def] at h
  rw [add, dif_neg h]

/-- A list without repetitions is added as it is. -/
theorem elements_union (hnodup : (set.elements ++ list).Nodup) :
    (set.union list).elements = set.elements ++ list := by
  induction list generalizing set with
  | nil => exact (List.append_nil _).symm
  | cons b list ih =>
      have hb : b ∉ set := fun hmem =>
        (List.nodup_append'.mp hnodup).2.2 hmem List.mem_cons_self
      have hadd := elements_add_of_not_mem hb
      rw [List.append_cons, ← hadd] at hnodup
      rw [List.append_cons, ← hadd]
      exact ih hnodup

end OrderedSet
