import Mathlib.Data.Finset.Sort
import Mathlib.Data.List.Basic
import Mathlib.Order.Interval.Finset.Nat

/-!
# Positions in a list

Sets of positions, as they pick elements of a list, or take them out.

* `itemsAt` — the elements at positions; `itemsAt_union_perm`, `itemsAt_Ico` — those at disjoint
  positions, and those in a range.
* `without` — a list less what is at positions; `without_eq_filter`, `without_eq_take`,
  `without_idxOf` — the positions of certain elements, those from one on, and those where elements
  are first found.
-/

namespace Positions

variable {α β : Type}

/-! ## Picking elements -/

def itemsAt (l : List α) (positions : Finset ℕ) : List α := positions.sort.filterMap (l[·]?)

variable {l : List α} {s t : Finset ℕ} {a : α}

theorem mem_itemsAt : a ∈ itemsAt l s ↔ ∃ i ∈ s, l[i]? = some a := by
  rw [itemsAt, List.mem_filterMap]
  simp only [Finset.mem_sort]

theorem itemsAt_empty : itemsAt l ∅ = [] := by
  rw [itemsAt, Finset.sort_empty, List.filterMap_nil]

theorem itemsAt_union_perm (hdisjoint : Disjoint s t) :
    (itemsAt l (s ∪ t)).Perm (itemsAt l s ++ itemsAt l t) := by
  rw [itemsAt, itemsAt, itemsAt, ← List.filterMap_append]
  refine List.Perm.filterMap _ (List.perm_of_nodup_nodup_toFinset_eq (Finset.sort_nodup _ _) ?_ ?_)
  · refine List.Nodup.append (Finset.sort_nodup _ _) (Finset.sort_nodup _ _) ?_
    intro i hs ht
    exact Finset.disjoint_left.mp hdisjoint ((Finset.mem_sort _).mp hs) ((Finset.mem_sort _).mp ht)
  · rw [List.toFinset_append, Finset.sort_toFinset, Finset.sort_toFinset, Finset.sort_toFinset]

theorem filterMap_range' (start count : ℕ) :
    (List.range' start count).filterMap (l[·]?) = (l.drop start).take count := by
  induction count generalizing start with
  | zero => simp
  | succ count ih =>
      rw [List.range'_succ, List.filterMap_cons, ih]
      cases hget : l[start]? with
      | none =>
          have hle := List.getElem?_eq_none_iff.mp hget
          rw [List.drop_eq_nil_of_le hle, List.drop_eq_nil_of_le (Nat.le_succ_of_le hle)]
          simp
      | some a =>
          obtain ⟨hlt, rfl⟩ := List.getElem?_eq_some_iff.mp hget
          rw [List.drop_eq_getElem_cons hlt, List.take_succ_cons]

theorem itemsAt_Ico (start count : ℕ) :
    itemsAt l (Finset.Ico start (start + count)) = (l.drop start).take count := by
  rw [← filterMap_range', itemsAt]
  congr 1
  refine List.Perm.eq_of_pairwise (fun _ _ _ _ => Nat.le_antisymm) (Finset.pairwise_sort _ _) ?_ ?_
  · exact (List.pairwise_lt_range' (s := start) (n := count)).imp Nat.le_of_lt
  · refine List.perm_of_nodup_nodup_toFinset_eq (Finset.sort_nodup _ _) List.nodup_range' ?_
    ext i
    simp [List.mem_range'_1]

/-! ## Taking elements out -/

def withoutFrom (positions : Finset ℕ) : ℕ → List α → List α
  | _, [] => []
  | i, a :: l =>
      if i ∈ positions then withoutFrom positions (i + 1) l
      else a :: withoutFrom positions (i + 1) l

def without (positions : Finset ℕ) (l : List α) : List α := withoutFrom positions 0 l

theorem withoutFrom_congr {i : ℕ} (h : ∀ j, i ≤ j → j < i + l.length → (j ∈ s ↔ j ∈ t)) :
    withoutFrom s i l = withoutFrom t i l := by
  induction l generalizing i with
  | nil => rfl
  | cons a l ih =>
      rw [List.length_cons] at h
      have hrest := ih (i := i + 1) fun j hle hlt => h j (by omega) (by omega)
      rw [withoutFrom, withoutFrom, hrest]
      simp only [h i (Nat.le_refl i) (by omega)]

theorem withoutFrom_eq_filter (p : α → Prop) [DecidablePred p] (f : α → β) {i : ℕ}
    (h : ∀ j a, l[j]? = some a → (i + j ∈ s ↔ p a)) :
    withoutFrom s i (l.map f) = (l.filter (¬ p ·)).map f := by
  induction l generalizing i with
  | nil => rfl
  | cons a l ih =>
      have hrest := ih (i := i + 1) fun j b hget => by
        rw [Nat.add_assoc, Nat.add_comm 1]
        exact h (j + 1) b hget
      have hfirst : i ∈ s ↔ p a := h 0 a rfl
      rw [List.map_cons, withoutFrom, hrest]
      by_cases hp : p a
      · rw [if_pos (hfirst.mpr hp), List.filter_cons_of_neg (by simpa using hp)]
      · rw [if_neg (hfirst.not.mpr hp), List.filter_cons_of_pos (by simpa using hp), List.map_cons]

/-- Taking out the positions of certain elements is keeping the others. -/
theorem without_eq_filter (p : α → Prop) [DecidablePred p] (f : α → β)
    (h : ∀ j a, l[j]? = some a → (j ∈ s ↔ p a)) :
    without s (l.map f) = (l.filter (¬ p ·)).map f :=
  withoutFrom_eq_filter p f fun j a hget => by
    rw [Nat.zero_add]
    exact h j a hget

theorem withoutFrom_eq_take {i k : ℕ} (h : ∀ j < l.length, (i + j ∈ s ↔ k ≤ j)) :
    withoutFrom s i l = l.take k := by
  induction l generalizing i k with
  | nil => simp [withoutFrom]
  | cons a l ih =>
      have hfirst : i ∈ s ↔ k ≤ 0 := h 0 (Nat.succ_pos _)
      have hlater : ∀ j < l.length, (i + 1 + j ∈ s ↔ k ≤ j + 1) := fun j hlt => by
        rw [Nat.add_assoc, Nat.add_comm 1]
        exact h (j + 1) (Nat.succ_lt_succ hlt)
      rw [withoutFrom]
      cases k with
      | zero =>
          rw [if_pos (hfirst.mpr (Nat.le_refl 0)), List.take_zero, ← List.take_zero (l := l)]
          exact ih fun j hlt => by simp [hlater j hlt]
      | succ k =>
          rw [if_neg (hfirst.not.mpr (by omega)), List.take_succ_cons, ih (k := k)]
          exact fun j hlt => by rw [hlater j hlt, Nat.succ_le_succ_iff]

theorem without_eq_take {k : ℕ} (h : ∀ j < l.length, (j ∈ s ↔ k ≤ j)) : without s l = l.take k :=
  withoutFrom_eq_take fun j hlt => by
    rw [Nat.zero_add]
    exact h j hlt

variable [DecidableEq α]

/-- One more position is taken out, where an element is first found. -/
theorem withoutFrom_insert_idxOf {i : ℕ} (h : ∀ j, i + j ∈ s → l[j]? ≠ some a) :
    withoutFrom (insert (i + l.idxOf a) s) i l = (withoutFrom s i l).erase a := by
  induction l generalizing i with
  | nil => rfl
  | cons b l ih =>
      by_cases hba : b = a
      · subst hba
        have hnot : i ∉ s := fun hmem => h 0 hmem rfl
        rw [List.idxOf_cons_self, withoutFrom, withoutFrom, if_pos (by simp), if_neg hnot,
          List.erase_cons_head]
        refine withoutFrom_congr fun j hle _ => ?_
        have : j ≠ i := by omega
        simp [this]
      · have hrest := ih (i := i + 1) fun j hmem => by
          rw [Nat.add_assoc, Nat.add_comm 1] at hmem
          exact h (j + 1) hmem
        have hposition : i + (l.idxOf a + 1) = i + 1 + l.idxOf a := by omega
        have hmem : i ∈ insert (i + 1 + l.idxOf a) s ↔ i ∈ s := by
          have : i ≠ i + 1 + l.idxOf a := by omega
          simp [this]
        rw [List.idxOf_cons_ne l hba, Nat.succ_eq_add_one, hposition, withoutFrom, withoutFrom,
          hrest]
        by_cases hs : i ∈ s
        · rw [if_pos (hmem.mpr hs), if_pos hs]
        · rw [if_neg (hmem.not.mpr hs), if_neg hs, List.erase_cons_tail (by simpa using hba)]

/-- Taking out where distinct elements are first found is taking out these elements. -/
theorem without_idxOf {xs : List α} (hnodup : xs.Nodup) :
    without (xs.map (l.idxOf ·)).toFinset l = l.diff xs := by
  induction xs using List.reverseRecOn with
  | nil =>
      have := withoutFrom_eq_take (l := l) (s := ∅) (i := 0) (k := l.length)
        fun j hlt => by simp [hlt]
      simpa [without] using this
  | append_singleton xs a ih =>
      obtain ⟨hxs, -, hdisjoint⟩ := List.nodup_append'.mp hnodup
      have ha : a ∉ xs := fun hmem => hdisjoint hmem List.mem_cons_self
      rw [List.diff_append, List.diff_cons, List.diff_nil, ← ih hxs, List.map_append,
        List.toFinset_append]
      have hinsert := withoutFrom_insert_idxOf (l := l) (a := a) (i := 0)
        (s := (xs.map (l.idxOf ·)).toFinset) fun j hmem hget => by
          rw [Nat.zero_add, List.mem_toFinset, List.mem_map] at hmem
          obtain ⟨b, hb, rfl⟩ := hmem
          obtain ⟨hlt, heq⟩ := List.getElem?_eq_some_iff.mp hget
          rw [List.getElem_idxOf] at heq
          exact ha (heq ▸ hb)
      rw [without, without, ← hinsert, Nat.zero_add, Finset.union_comm]
      rfl

/-! ## Positions in a list without repetitions -/

theorem idxOf_eq_of_getElem? (hnodup : l.Nodup) {i : ℕ} (hget : l[i]? = some a) :
    l.idxOf a = i := by
  obtain ⟨hlt, rfl⟩ := List.getElem?_eq_some_iff.mp hget
  exact hnodup.idxOf_getElem i hlt

/-- What is done by position can be done by element. -/
theorem mapIdx_map_eq_map (hnodup : l.Nodup) {γ : Type} (f : ℕ → β → γ) (g : α → β) :
    (l.map g).mapIdx f = l.map fun a => f (l.idxOf a) (g a) := by
  refine List.ext_getElem? fun i => ?_
  rw [List.getElem?_mapIdx, List.getElem?_map, List.getElem?_map]
  cases hget : l[i]? with
  | none => rfl
  | some a => simp [idxOf_eq_of_getElem? hnodup hget]

end Positions
