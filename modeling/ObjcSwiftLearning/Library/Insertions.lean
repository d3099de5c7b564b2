import Mathlib.Data.List.Nodup

/-!
# Insertions at final positions

Elements of a list are inserted into another one, each at the position that it has in the first,
in the order of that list.

* `idxOf_le` — no position is past the end, whatever the other list is like.
* `foldl_insertAt` — inserted into the rest of the list, they make it up.
-/

namespace Insertions

variable {α : Type}

theorem insertIdx_length_append (before after : List α) (a : α) :
    (before ++ after).insertIdx before.length a = before ++ a :: after := by
  induction before with
  | nil => rfl
  | cons b before ih =>
      rw [List.cons_append, List.length_cons, List.insertIdx_succ_cons, ih, List.cons_append]

variable [DecidableEq α]

/-- One element is inserted, at its position in `target`. -/
def insertAt (target list : List α) (a : α) : List α := list.insertIdx (target.idxOf a) a

variable {target list xs before after : List α} {a : α}

/-- **No position is past the end:** when some elements of a list, those `before` it, have been
inserted in as many others as the list has, there is room for the next. -/
theorem idxOf_le (p : α → Bool) (hnodup : target.Nodup)
    (hsplit : target.filter (fun x => !p x) = before ++ a :: after) :
    target.idxOf a ≤ (target.filter p).length + before.length := by
  obtain ⟨first, rest, rfl, hfirst, hrest⟩ := List.filter_eq_append_iff.mp hsplit
  obtain ⟨skipped, later, rfl, hskipped, -, -⟩ := List.filter_eq_cons_iff.mp hrest
  have hnot : a ∉ first ++ skipped := by
    rw [← List.append_assoc] at hnodup
    exact fun hmem => (List.nodup_append'.mp hnodup).2.2 hmem List.mem_cons_self
  have hlength : (first ++ skipped).length ≤
      ((first ++ skipped).filter p).length + before.length := by
    have hskippedNil : skipped.filter (fun x => !p x) = [] :=
      List.filter_eq_nil_iff.mpr hskipped
    have hbefore : (first ++ skipped).filter (fun x => !p x) = before := by
      rw [List.filter_append, hskippedNil, hfirst, List.append_nil]
    rw [← hbefore]
    exact Nat.le_of_eq (List.length_eq_length_filter_add p)
  have hfilter : ((first ++ skipped ++ a :: later).filter p).length =
      ((first ++ skipped).filter p).length + ((a :: later).filter p).length := by
    rw [List.filter_append, List.length_append]
  rw [← List.append_assoc, List.idxOf_append_of_notMem hnot, List.idxOf_cons_self, Nat.add_zero,
    hfilter]
  omega

theorem foldl_insertAt_append (p : α → Bool) (before rest : List α)
    (hnodup : (before ++ rest).Nodup) :
    (rest.filter fun x => !p x).foldl (insertAt (before ++ rest)) (before ++ rest.filter p) =
      before ++ rest := by
  induction rest generalizing before with
  | nil => rfl
  | cons a rest ih =>
      have hassoc : before ++ a :: rest = (before ++ [a]) ++ rest := by simp
      have hrest := ih (before ++ [a]) (hassoc ▸ hnodup)
      rw [← hassoc] at hrest
      cases hp : p a with
      | true =>
          have hskip : (a :: rest).filter (fun x => !p x) = rest.filter fun x => !p x :=
            List.filter_cons_of_neg (by simp [hp])
          have hkeep : before ++ (a :: rest).filter p = before ++ [a] ++ rest.filter p := by
            rw [List.filter_cons_of_pos hp, List.append_cons]
          rw [hskip, hkeep]
          exact hrest
      | false =>
          have hnot : a ∉ before := fun hmem =>
            (List.nodup_append'.mp hnodup).2.2 hmem List.mem_cons_self
          have hinsert : insertAt (before ++ a :: rest) (before ++ rest.filter p) a =
              (before ++ [a]) ++ rest.filter p := by
            rw [insertAt, List.idxOf_append_of_notMem hnot, List.idxOf_cons_self, Nat.add_zero,
              insertIdx_length_append, List.append_cons]
          have hnext : (a :: rest).filter (fun x => !p x) = a :: rest.filter fun x => !p x :=
            List.filter_cons_of_pos (by simp [hp])
          rw [hnext, List.filter_cons_of_neg (by simp [hp]), List.foldl_cons, hinsert]
          exact hrest

/-- **Inserted into the rest of a list, elements of it make it up.** -/
theorem foldl_insertAt (p : α → Bool) (hnodup : target.Nodup) :
    (target.filter fun x => !p x).foldl (insertAt target) (target.filter p) = target :=
  foldl_insertAt_append p [] target hnodup

end Insertions
