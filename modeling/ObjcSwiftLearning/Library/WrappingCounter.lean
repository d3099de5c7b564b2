import Mathlib.Data.Finset.Card
import Mathlib.Order.Interval.Finset.Nat
import ObjcSwiftLearning.Library.LabelledRun

/-!
# Counters that begin again

A counter issues its values in order.  It is seeded once, and may begin again at `1`, but only
from beyond `top`.

* `wrap_mem_of_issue_twice` — **a value is issued again only after a wrap**.
* `Covered` — the invariant: what has been issued since a value was.
* `card_between` — **between a value and itself** at least `top - 1` others are issued.
-/

namespace WrappingCounter

/-- What a counter does; an unseeded one is at `0`. -/
inductive Label
  | seed (value : ℕ)
  | wrap
  | issue (value : ℕ)

/-- The steps of a counter that may wrap beyond `top`. -/
inductive Step (top : ℕ) : ℕ → Label → ℕ → Prop
  | seed {value : ℕ} (hvalue : 0 < value) : Step top 0 (.seed value) value
  | wrap {next : ℕ} (hnext : top < next) : Step top next .wrap 1
  | issue {next : ℕ} (hnext : 0 < next) : Step top next (.issue next) (next + 1)

/-- The value a step issues. -/
def Label.issued : Label → Option ℕ
  | .issue value => some value
  | _ => none

/-- The values issued, in their order. -/
def issued (labels : List Label) : List ℕ := labels.filterMap Label.issued

variable {top start next value : ℕ} {labels earlier between later : List Label}

theorem issued_concat (labels : List Label) (label : Label) :
    issued (labels ++ [label]) = issued labels ++ label.issued.toList := by
  cases label with
  | seed value | wrap | issue value => simp [issued, Label.issued]

/-! ## A value is issued again only after a wrap -/

/-- Without a wrap the counter only goes up. -/
theorem le_of_run (run : LabelledRun (Step top) start labels next) (hwrap : .wrap ∉ labels) :
    start ≤ next := by
  induction run with
  | refl => exact le_refl _
  | @tail labels label before after run last ih =>
      have hle := ih fun hmem => hwrap (List.mem_append_left _ hmem)
      cases last with
      | seed hvalue => omega
      | wrap hnext => exact absurd (List.mem_append_right _ List.mem_cons_self) hwrap
      | issue hnext => omega

/-- **A value is issued again only after a wrap.** -/
theorem wrap_mem_of_issue_twice
    (run : LabelledRun (Step top) start
      (earlier ++ .issue value :: (between ++ .issue value :: later)) next) :
    .wrap ∈ between := by
  by_contra hwrap
  obtain ⟨first, -, run⟩ := run.exists_of_append
  rw [← List.singleton_append] at run
  obtain ⟨second, hfirst, run⟩ := run.exists_of_append
  obtain ⟨third, hbetween, run⟩ := run.exists_of_append
  rw [← List.singleton_append] at run
  obtain ⟨fourth, hsecond, -⟩ := run.exists_of_append
  have hle := le_of_run hbetween hwrap
  cases hfirst.of_single with
  | issue _ =>
      cases hsecond.of_single with
      | issue _ => omega

/-! ## What is issued between a value and itself -/

/-- With the counter at `next`, what has been issued after `value`: all that is between, if
`value` is of this round, and else all of this round and the rest of the last. -/
structure Covered (top next value : ℕ) (after : List ℕ) : Prop where
  this_round : value < next → ∀ other, value < other → other < next → other ∈ after
  last_round : next ≤ value → (∀ other, 0 < other → other < next → other ∈ after) ∧
    ∀ other, value < other → other ≤ top → other ∈ after

theorem Covered.wrap {after : List ℕ} (h : Covered top next value after) (hnext : top < next) :
    Covered top 1 value after where
  this_round := by
    intro hvalue other hlow hhigh
    omega
  last_round := by
    intro hvalue
    refine ⟨by intro other hlow hhigh; omega, fun other hlow hhigh => ?_⟩
    rcases Nat.lt_or_ge value next with hlt | hge
    · exact h.this_round hlt other hlow (by omega)
    · omega

theorem Covered.issue {after : List ℕ} (h : Covered top next value after) :
    Covered top (next + 1) value (after ++ [next]) where
  this_round := by
    intro hvalue other hlow hhigh
    rcases Nat.lt_or_ge other next with hlt | hge
    · exact List.mem_append_left _ (h.this_round (by omega) other hlow hlt)
    · obtain rfl : other = next := by omega
      exact List.mem_append_right _ List.mem_cons_self
  last_round := by
    intro hvalue
    obtain ⟨hround, hrest⟩ := h.last_round (by omega)
    refine ⟨fun other hlow hhigh => ?_, fun other hlow hhigh => ?_⟩
    · rcases Nat.lt_or_ge other next with hlt | hge
      · exact List.mem_append_left _ (hround other hlow hlt)
      · obtain rfl : other = next := by omega
        exact List.mem_append_right _ List.mem_cons_self
    · exact List.mem_append_left _ (hrest other hlow hhigh)

/-- A value that is next again has the others up to `top` behind it. -/
theorem Covered.card_le {after : List ℕ} (h : Covered top next next after) :
    top - 1 ≤ (after.toFinset.erase next).card := by
  obtain ⟨hround, hrest⟩ := h.last_round (le_refl _)
  have hsub : (Finset.Icc 1 top).erase next ⊆ after.toFinset.erase next := by
    intro other hother
    rw [Finset.mem_erase, Finset.mem_Icc] at hother
    rw [Finset.mem_erase, List.mem_toFinset]
    refine ⟨hother.1, ?_⟩
    rcases Nat.lt_or_ge other next with hlt | hge
    · exact hround other (by omega) hlt
    · exact hrest other (by omega) hother.2.2
  calc
    top - 1 = (Finset.Icc 1 top).card - 1 := by rw [Nat.card_Icc, Nat.add_sub_cancel]
    _ ≤ ((Finset.Icc 1 top).erase next).card := Finset.pred_card_le_card_erase
    _ ≤ (after.toFinset.erase next).card := Finset.card_le_card hsub

/-- What is so of every value issued, with the counter at `next`. -/
structure Accounted (top next : ℕ) (history : List ℕ) : Prop where
  unseeded : next = 0 → history = []
  covered : ∀ earlier value after, history = earlier ++ value :: after →
    Covered top next value after
  repeated : ∀ earlier value between later,
    history = earlier ++ value :: (between ++ value :: later) →
      top - 1 ≤ (between.toFinset.erase value).card

theorem Accounted.step {label : Label} {history : List ℕ} {next' : ℕ}
    (h : Accounted top next history) (hstep : Step top next label next') :
    Accounted top next' (history ++ label.issued.toList) := by
  cases hstep with
  | seed hvalue =>
      have hnone := h.unseeded rfl
      subst hnone
      simp only [Label.issued, Option.toList_none, List.append_nil]
      exact ⟨fun _ => rfl, by simp, by simp⟩
  | wrap hnext =>
      simp only [Label.issued, Option.toList_none, List.append_nil]
      exact ⟨by simp, fun earlier value after hsplit => (h.covered _ _ _ hsplit).wrap hnext,
        h.repeated⟩
  | issue hnext =>
      simp only [Label.issued, Option.toList_some]
      refine ⟨by simp, fun earlier value after hsplit => ?_,
        fun earlier value between later hsplit => ?_⟩
      · obtain rfl | ⟨init, last, rfl⟩ := List.eq_nil_or_concat after
        · obtain ⟨-, hvalue⟩ := List.append_inj' hsplit rfl
          obtain rfl := List.singleton_inj.mp hvalue
          -- Just issued: nothing of this round is after it.
          exact ⟨fun _ other hlow hhigh => by omega, fun hle => by omega⟩
        · rw [List.concat_eq_append, ← List.cons_append, ← List.append_assoc] at hsplit
          obtain ⟨hhistory, hlast⟩ := List.append_inj' hsplit rfl
          obtain rfl := List.singleton_inj.mp hlast
          rw [List.concat_eq_append]
          exact (h.covered _ _ _ hhistory).issue
      · obtain rfl | ⟨init, last, rfl⟩ := List.eq_nil_or_concat later
        · rw [← List.cons_append, ← List.append_assoc] at hsplit
          obtain ⟨hhistory, hvalue⟩ := List.append_inj' hsplit rfl
          obtain rfl := List.singleton_inj.mp hvalue
          exact (h.covered _ _ _ hhistory).card_le
        · have hsplit' : history ++ [next] =
              (earlier ++ value :: (between ++ value :: init)) ++ [last] := by
            simpa using hsplit
          obtain ⟨hhistory, -⟩ := List.append_inj' hsplit' rfl
          exact h.repeated _ _ _ _ hhistory

/-- **Between a value and itself at least `top - 1` others are issued.** -/
theorem card_between {earlier between later : List ℕ}
    (run : LabelledRun (Step top) start labels next)
    (hsplit : issued labels = earlier ++ value :: (between ++ value :: later)) :
    top - 1 ≤ (between.toFinset.erase value).card := by
  have haccounted : Accounted top next (issued labels) := by
    refine run.invariant (I := fun labels next => Accounted top next (issued labels))
      ⟨fun _ => rfl, by simp [issued], by simp [issued]⟩ ?_
    intro labels next label next' hlabels last
    rw [issued_concat]
    exact hlabels.step last
  exact haccounted.repeated _ _ _ _ hsplit

end WrappingCounter
