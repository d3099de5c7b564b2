import Mathlib.Data.List.Basic
import Mathlib.Data.List.DropRight
import Mathlib.Order.WellFounded
import Mathlib.Tactic.Common

/-!
# Runs of a labelled step relation

A system is a relation `step s label s'`; a run from `start` is the list of the
labels of its steps, oldest first, and the state it reaches.

* `LabelledRun.invariant` — the rule every safety result goes through: what holds
  at the start and is kept by each step holds at the end.  The invariant may
  speak of the labels so far.
* `LabelledRun.trans`, `LabelledRun.mono` — runs in a row, and runs of a part of
  the steps.
* `LabelledRun.map` — a run as a part of the system goes through it.
* `LabelledRun.exists_crossing` — what fails at the start and holds at the end is made
  true by some step.
* `EveryStep` — what can be said of every step of the runs with given labels;
  `LabelledRun.restrict` makes a run of such steps.
* `LabelledRun.Along` — what can be computed of the labels in turn, where the label determines
  the next state.
* `LabelledRun.since` — the labels since the last one of a kind.
* `LabelledRun.eventually_of_rank` — in a run without end, a rank that is never raised, and
  lowered again and again until a goal is reached, lets it be reached.
-/

/-- The labels of a run from `start`, and the state it reaches. -/
inductive LabelledRun {σ ℓ : Type} (step : σ → ℓ → σ → Prop) (start : σ) : List ℓ → σ → Prop
  | refl : LabelledRun step start [] start
  | tail {labels : List ℓ} {label : ℓ} {s s' : σ} (run : LabelledRun step start labels s)
      (last : step s label s') : LabelledRun step start (labels ++ [label]) s'

namespace LabelledRun

variable {σ ℓ : Type} {step step' : σ → ℓ → σ → Prop} {start s s' : σ} {labels labels' : List ℓ}
  {label : ℓ}

/-- **The invariant rule.** -/
theorem invariant {I : List ℓ → σ → Prop} (h : LabelledRun step start labels s)
    (init : I [] start)
    (keeps : ∀ labels s label s', I labels s → step s label s' → I (labels ++ [label]) s') :
    I labels s := by
  induction h with
  | refl => exact init
  | tail run last ih => exact keeps _ _ _ _ ih last

theorem trans (h : LabelledRun step start labels s) (h' : LabelledRun step s labels' s') :
    LabelledRun step start (labels ++ labels') s' := by
  induction h' with
  | refl => rwa [List.append_nil]
  | tail run last ih =>
      rw [← List.append_assoc]
      exact .tail ih last

theorem mono (hstep : ∀ s label s', step s label s' → step' s label s')
    (h : LabelledRun step start labels s) : LabelledRun step' start labels s := by
  induction h with
  | refl => exact .refl
  | tail run last ih => exact .tail ih (hstep _ _ _ last)

/-- **A run as a part goes through it.**  In a step the part may do nothing, or some things. -/
theorem map {τ m : Type} {stepPart : τ → m → τ → Prop} (part : σ → τ) (seen : ℓ → List m)
    (hstep : ∀ s label s', step s label s' →
      LabelledRun stepPart (part s) (seen label) (part s'))
    (h : LabelledRun step start labels s) :
    LabelledRun stepPart (part start) (labels.flatMap seen) (part s) := by
  induction h with
  | refl => exact .refl
  | tail run last ih =>
      rw [List.flatMap_append, List.flatMap_singleton]
      exact ih.trans (hstep _ _ _ last)

/-- **What becomes true is made true by a step.** -/
theorem exists_crossing {p : σ → Prop} (h : LabelledRun step start labels s) (hstart : ¬p start)
    (hend : p s) :
    ∃ earlier label later before after, labels = earlier ++ label :: later ∧
      LabelledRun step start earlier before ∧ step before label after ∧
        LabelledRun step after later s ∧ ¬p before ∧ p after := by
  induction h with
  | refl => exact absurd hend hstart
  | @tail labels label before s run last ih =>
      by_cases hbefore : p before
      · obtain ⟨earlier, crossing, later, s₁, s₂, rfl, hearlier, hstep, hlater, hp⟩ := ih hbefore
        refine ⟨earlier, crossing, later ++ [label], s₁, s₂, ?_, hearlier, hstep,
          .tail hlater last, hp⟩
        rw [List.append_assoc, List.cons_append]
      · exact ⟨labels, label, [], before, s, rfl, run, last, .refl, hbefore, hend⟩

/-- Every step that runs from `start` with these labels take is as `p` says. -/
def EveryStep (step : σ → ℓ → σ → Prop) (start : σ) (labels : List ℓ) (p : σ → ℓ → σ → Prop) :
    Prop :=
  ∀ earlier label later before after, labels = earlier ++ label :: later →
    LabelledRun step start earlier before → step before label after → p before label after

theorem EveryStep.mono {p q : σ → ℓ → σ → Prop}
    (hpq : ∀ s label s', step s label s' → p s label s' → q s label s')
    (h : EveryStep step start labels p) : EveryStep step start labels q :=
  fun earlier label later before after hlabels run last =>
    hpq before label after last (h earlier label later before after hlabels run last)

theorem EveryStep.of_append {p : σ → ℓ → σ → Prop}
    (h : EveryStep step start (labels ++ labels') p) : EveryStep step start labels p := by
  rintro earlier label later before after rfl
  exact h earlier label (later ++ labels') before after (by simp)

theorem EveryStep.nil {p : σ → ℓ → σ → Prop} : EveryStep step start [] p := by
  intro earlier label later before after hlabels
  simp at hlabels

theorem EveryStep.concat {p : σ → ℓ → σ → Prop} (h : EveryStep step start labels p)
    (hlast : ∀ before after, LabelledRun step start labels before → step before label after →
      p before label after) : EveryStep step start (labels ++ [label]) p := by
  intro earlier label' later before after hlabels run last
  obtain rfl | ⟨later, label'', rfl⟩ := List.eq_nil_or_concat later
  · obtain ⟨rfl, hlabel⟩ := List.append_inj' hlabels rfl
    obtain rfl := List.singleton_inj.mp hlabel
    exact hlast before after run last
  · rw [List.concat_eq_append, ← List.cons_append, ← List.append_assoc] at hlabels
    obtain ⟨rfl, -⟩ := List.append_inj' hlabels rfl
    exact h earlier label' later before after rfl run last

/-- **A run whose steps are all as `p` says** is a run of those steps. -/
theorem restrict {p : σ → ℓ → σ → Prop} (h : LabelledRun step start labels s)
    (every : EveryStep step start labels p) :
    LabelledRun (fun s label s' => step s label s' ∧ p s label s') start labels s := by
  induction h with
  | refl => exact .refl
  | @tail labels label before after run last ih =>
      exact .tail (ih every.of_append) ⟨last, every labels label [] before after rfl run last⟩

theorem eq_of_nil (h : LabelledRun step start [] s) : s = start := by
  generalize hlabels : [] = labels at h
  cases h with
  | refl => rfl
  | tail run last => simp at hlabels

theorem of_append_singleton {label : ℓ} (h : LabelledRun step start (labels ++ [label]) s) :
    ∃ before, LabelledRun step start labels before ∧ step before label s := by
  generalize hlabels : labels ++ [label] = labels' at h
  cases h with
  | refl => simp at hlabels
  | tail run last =>
      obtain ⟨rfl, hlabel⟩ := List.append_inj' hlabels rfl
      obtain rfl := List.singleton_inj.mp hlabel
      exact ⟨_, run, last⟩

theorem exists_of_append (h : LabelledRun step start (labels ++ labels') s) :
    ∃ middle, LabelledRun step start labels middle ∧ LabelledRun step middle labels' s := by
  induction labels' using List.reverseRecOn generalizing s with
  | nil => exact ⟨s, by rwa [List.append_nil] at h, .refl⟩
  | append_singleton labels' label ih =>
      rw [← List.append_assoc] at h
      obtain ⟨before, run, last⟩ := h.of_append_singleton
      obtain ⟨middle, first, second⟩ := ih run
      exact ⟨middle, first, .tail second last⟩

theorem of_single (h : LabelledRun step start [label] s) : step start label s := by
  obtain ⟨before, run, last⟩ := @of_append_singleton _ _ _ _ _ [] _ h
  rwa [run.eq_of_nil] at last

/-! ### Labels that determine the next state -/

/-- What `p` says of each label in its turn, if `next` is where it leads. -/
def Along (next : σ → ℓ → σ) (p : σ → ℓ → Prop) : σ → List ℓ → Prop
  | _, [] => True
  | s, label :: labels => p s label ∧ Along next p (next s label) labels

instance decidableAlong (next : σ → ℓ → σ) (p : σ → ℓ → Prop) [∀ s label, Decidable (p s label)] :
    (s : σ) → (labels : List ℓ) → Decidable (Along next p s labels)
  | _, [] => .isTrue trivial
  | s, label :: labels =>
      have := decidableAlong next p (next s label) labels
      inferInstanceAs (Decidable (p s label ∧ Along next p (next s label) labels))

variable {next : σ → ℓ → σ} {p : σ → ℓ → Prop}

/-- Labels that are possible in turn are a run. -/
theorem of_along (hstep : ∀ s label, p s label → step s label (next s label))
    (h : Along next p start labels) : LabelledRun step start labels (labels.foldl next start) := by
  induction labels generalizing start with
  | nil => exact .refl
  | cons label labels ih =>
      have first : LabelledRun step start ([] ++ [label]) (next start label) :=
        .tail .refl (hstep start label h.1)
      exact first.trans (ih h.2)

theorem eq_foldl (hnext : ∀ s label s', step s label s' → s' = next s label)
    (h : LabelledRun step start labels s) : s = labels.foldl next start := by
  induction h with
  | refl => rfl
  | tail run last ih =>
      rw [hnext _ _ _ last, ih, List.foldl_append]
      rfl

theorem everyStep_of_along (hnext : ∀ s label s', step s label s' → s' = next s label)
    (h : Along next p start labels) : EveryStep step start labels fun s label _ => p s label := by
  intro earlier label later before after hlabels run _
  have hlater : Along next p (earlier.foldl next start) (label :: later) := by
    clear run
    induction earlier generalizing start labels with
    | nil => rwa [hlabels] at h
    | cons first earlier ih =>
        rw [hlabels] at h
        exact ih h.2 rfl
  rw [run.eq_foldl hnext]
  exact hlater.1

/-! ### Since the last label of a kind -/

/-- The labels since the last one that satisfies `p`. -/
def since (p : ℓ → Bool) (labels : List ℓ) : List ℓ := labels.rtakeWhile fun label => !p label

theorem since_concat_of_pos {p : ℓ → Bool} (h : p label = true) :
    since p (labels ++ [label]) = [] :=
  List.rtakeWhile_concat_neg _ _ _ (by simp [h])

theorem since_concat_of_neg {p : ℓ → Bool} (h : p label = false) :
    since p (labels ++ [label]) = since p labels ++ [label] :=
  List.rtakeWhile_concat_pos _ _ _ (by simp [h])

/-! ### Runs without end -/

/-- **A rank that is never raised, and is lowered again and again until a goal is reached, lets it
be reached.** -/
theorem eventually_of_rank {ρ : Type} [PartialOrder ρ] [WellFoundedLT ρ] {rank : ℕ → ρ}
    {goal : ℕ → Prop} (hkeeps : ∀ n, ¬goal n → rank (n + 1) ≤ rank n)
    (hlowers : ∀ n, ¬goal n → ∃ k, n ≤ k ∧ (goal k ∨ rank (k + 1) < rank k)) (n : ℕ) :
    ∃ k, n ≤ k ∧ goal k := by
  generalize hrank : rank n = bound
  induction bound using WellFoundedLT.induction generalizing n with
  | ind bound ih =>
      by_contra hnever
      have hnot : ∀ k, n ≤ k → ¬goal k := fun k hk hgoal => hnever ⟨k, hk, hgoal⟩
      have hle : ∀ k, n ≤ k → rank k ≤ rank n := by
        intro k hk
        induction k, hk using Nat.le_induction with
        | base => exact le_refl _
        | succ k hk ihk => exact (hkeeps k (hnot k hk)).trans ihk
      obtain ⟨k, hk, hgoal | hlower⟩ := hlowers n (hnot n (Nat.le_refl n))
      · exact hnot k hk hgoal
      · obtain ⟨j, hj, hgoal⟩ :=
          ih (rank (k + 1)) (hrank ▸ hlower.trans_le (hle k hk)) (k + 1) rfl
        exact hnot j (by omega) hgoal

theorem rest (_ : LabelledRun step start labels s) : LabelledRun step s [] s := .refl

theorem single (h : step start label s) : LabelledRun step start [label] s :=
  .tail .refl h

end LabelledRun
