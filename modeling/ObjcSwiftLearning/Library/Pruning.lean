import Mathlib.Data.List.Nodup
import Mathlib.Tactic.Common

/-!
# Pruning that leaves some

A list is gone through from the front, and what has expired is removed as long as more than `keep`
elements are left; of special elements, as long as more than `keep` of these are left as well.  The
two numbers are carried along.

* `removed_sublist`, `expired_of_mem_removed` — what can be removed.
* `length_removed_le`, `countP_removed_le` — **how much is left**, in all and of the special ones.
* `mem_removed_of_before` — **the front goes first**: of two expired elements, both special or both
  not, the later is not removed without the earlier.
-/

namespace Pruning

variable {α : Type} (keep : ℕ) (expired special : α → Bool)

/-- The elements removed, where `count` are left before, `specialCount` of them special. -/
def removed : (count specialCount : ℕ) → List α → List α
  | _, _, [] => []
  | count, specialCount, a :: list =>
      if count ≤ keep then removed count specialCount list
      else if expired a = false then removed count specialCount list
      else if special a then
        if specialCount ≤ keep then removed count specialCount list
        else a :: removed (count - 1) (specialCount - 1) list
      else a :: removed (count - 1) specialCount list

variable {keep expired special} {count specialCount : ℕ} {a b : α} {list : List α}

/-- **What happens to the first element**: it stays, for one of three reasons, or it goes. -/
theorem removed_cons (count specialCount : ℕ) (a : α) (list : List α) :
    (removed keep expired special count specialCount (a :: list) =
        removed keep expired special count specialCount list ∧
      (count ≤ keep ∨ expired a = false ∨ special a = true ∧ specialCount ≤ keep)) ∨
    (removed keep expired special count specialCount (a :: list) =
        a :: removed keep expired special (count - 1)
          (if special a then specialCount - 1 else specialCount) list ∧
      keep < count ∧ expired a = true ∧ (special a = true → keep < specialCount)) := by
  rw [removed]
  split
  · rename_i hcount
    exact .inl ⟨rfl, .inl hcount⟩
  · rename_i hcount
    split
    · rename_i hfresh
      exact .inl ⟨rfl, .inr (.inl hfresh)⟩
    · rename_i hexpired
      rw [Bool.not_eq_false] at hexpired
      split
      · rename_i hspecial
        split
        · rename_i hfew
          exact .inl ⟨rfl, .inr (.inr ⟨hspecial, hfew⟩)⟩
        · exact .inr ⟨rfl, by omega, hexpired, by omega⟩
      · rename_i hspecial
        exact .inr ⟨rfl, by omega, hexpired, fun h => absurd h hspecial⟩

theorem removed_sublist (count specialCount : ℕ) (list : List α) :
    (removed keep expired special count specialCount list).Sublist list := by
  induction list generalizing count specialCount with
  | nil => exact List.Sublist.refl _
  | cons a list ih =>
      rcases removed_cons count specialCount a list with ⟨heq, -⟩ | ⟨heq, -⟩
      · rw [heq]
        exact (ih _ _).cons a
      · rw [heq]
        exact (ih _ _).cons_cons a

theorem expired_of_mem_removed
    (h : a ∈ removed keep expired special count specialCount list) : expired a = true := by
  induction list generalizing count specialCount with
  | nil => cases h
  | cons b list ih =>
      rcases removed_cons count specialCount b list with ⟨heq, -⟩ | ⟨heq, -, hexpired, -⟩
      · rw [heq] at h
        exact ih h
      · rw [heq, List.mem_cons] at h
        rcases h with rfl | h
        · exact hexpired
        · exact ih h

/-- **No more is removed than there is above `keep`.** -/
theorem length_removed_le (count specialCount : ℕ) (list : List α) :
    (removed keep expired special count specialCount list).length ≤ count - keep := by
  induction list generalizing count specialCount with
  | nil => exact Nat.zero_le _
  | cons a list ih =>
      rcases removed_cons count specialCount a list with ⟨heq, -⟩ | ⟨heq, hcount, -⟩
      · rw [heq]
        exact ih _ _
      · have hrest := ih (count - 1) (if special a then specialCount - 1 else specialCount)
        rw [heq, List.length_cons]
        omega

/-- **Nor of the special elements.** -/
theorem countP_removed_le (count specialCount : ℕ) (list : List α) :
    (removed keep expired special count specialCount list).countP special ≤
      specialCount - keep := by
  induction list generalizing count specialCount with
  | nil => exact Nat.zero_le _
  | cons a list ih =>
      rcases removed_cons count specialCount a list with ⟨heq, -⟩ | ⟨heq, -, -, hspecialCount⟩
      · rw [heq]
        exact ih _ _
      · have hrest := ih (count - 1) (if special a then specialCount - 1 else specialCount)
        rw [heq]
        by_cases hspecial : special a = true
        · have hcount := hspecialCount hspecial
          rw [if_pos hspecial] at hrest ⊢
          rw [List.countP_cons_of_pos hspecial]
          omega
        · rw [if_neg hspecial] at hrest ⊢
          rwa [List.countP_cons_of_neg hspecial]

theorem notMem_removed_of_stays (hexpired : expired a = true) (hlike : special a = special b)
    (hstays : count ≤ keep ∨ expired a = false ∨ special a = true ∧ specialCount ≤ keep) :
    b ∉ removed keep expired special count specialCount list := by
  intro hb
  rcases hstays with hcount | hfresh | ⟨hspecial, hfew⟩
  · have hnone : (removed keep expired special count specialCount list).length ≤ 0 :=
      Nat.le_trans (length_removed_le count specialCount list) (by omega)
    have hpositive := List.length_pos_of_mem hb
    omega
  · rw [hexpired] at hfresh
    cases hfresh
  · have hnone : (removed keep expired special count specialCount list).countP special ≤ 0 :=
      Nat.le_trans (countP_removed_le count specialCount list) (by omega)
    have hpositive : 0 < (removed keep expired special count specialCount list).countP special :=
      List.countP_pos_iff.mpr ⟨b, hb, hlike ▸ hspecial⟩
    omega

/-- **The front goes first.** -/
theorem mem_removed_of_before {earlier later : List α} (hnodup : (earlier ++ a :: later).Nodup)
    (hb : b ∈ later) (hexpired : expired a = true) (hlike : special a = special b)
    (hremoved : b ∈ removed keep expired special count specialCount (earlier ++ a :: later)) :
    a ∈ removed keep expired special count specialCount (earlier ++ a :: later) := by
  induction earlier generalizing count specialCount with
  | nil =>
      rw [List.nil_append] at hremoved ⊢
      rcases removed_cons count specialCount a later with ⟨heq, hstays⟩ | ⟨heq, -⟩
      · rw [heq] at hremoved
        exact absurd hremoved (notMem_removed_of_stays hexpired hlike hstays)
      · rw [heq]
        exact List.mem_cons_self
  | cons c earlier ih =>
      rw [List.cons_append] at hnodup hremoved ⊢
      obtain ⟨hc, hrest⟩ := List.nodup_cons.mp hnodup
      rcases removed_cons count specialCount c (earlier ++ a :: later) with
        ⟨heq, -⟩ | ⟨heq, -⟩
      · rw [heq] at hremoved ⊢
        exact ih hrest hremoved
      · rw [heq, List.mem_cons] at hremoved
        rw [heq]
        rcases hremoved with rfl | hremoved
        · exact absurd (List.mem_append_right _ (List.mem_cons_of_mem _ hb)) hc
        · exact List.mem_cons_of_mem _ (ih hrest hremoved)

end Pruning
