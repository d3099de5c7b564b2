import Mathlib.Data.List.Basic
import Mathlib.Data.Nat.Notation
import Mathlib.Tactic.Common

/-!
# Patterns with backtracking

The regular expressions of a backtracking engine, on a text of any characters. Words are compared
after the folding of case, which may take one character to several.

* `strip`, `hasWord` — a word at the start of a text, and anywhere in it.
* `Pattern.outcomes` — what may be left of a text, in the order in which an engine tries.
* `Pattern.mem_outcomes_star` — a star over single characters takes a run of them.
* `Replacement.replaceAll` — every match of a text replaced, from the left.
-/

namespace Patterns

variable {α : Type} [DecidableEq α]

/-! ## Words -/

/-- What follows a word, given as it is folded, at the start of a text. -/
def strip (fold : α → List α) : List α → List α → Option (List α)
  | [], word => if word = [] then some [] else none
  | c :: text, word =>
      if word = [] then some (c :: text)
      else if fold c <+: word then strip fold text (word.drop (fold c).length)
      else none

/-- Whether a word occurs in a text. -/
def hasWord (fold : α → List α) (word : List α) : List α → Bool
  | [] => (strip fold [] word).isSome
  | c :: text => (strip fold (c :: text) word).isSome || hasWord fold word text

variable {fold : α → List α} {word text rest : List α} {stop : α}

/-- A text from a character that folding leaves alone and that the word does not have does not
start with the word. -/
theorem strip_cons_of_notMem (hfold : fold stop = [stop]) (hstop : stop ∉ word)
    (hword : word ≠ []) : strip fold (stop :: rest) word = none := by
  rw [strip, if_neg hword, if_neg]
  intro hstart
  rw [hfold] at hstart
  exact hstop (hstart.subset List.mem_cons_self)

theorem strip_append (hfold : fold stop = [stop]) (hstop : stop ∉ word) :
    strip fold (text ++ stop :: rest) word =
      (strip fold text word).map (· ++ stop :: rest) := by
  induction text generalizing word with
  | nil =>
      by_cases hword : word = []
      · subst hword
        rfl
      · rw [List.nil_append, strip_cons_of_notMem hfold hstop hword, strip, if_neg hword,
          Option.map_none]
  | cons c text ih =>
      rw [List.cons_append, strip, strip]
      split
      · rfl
      · split
        · exact ih fun hmem => hstop (List.mem_of_mem_drop hmem)
        · rfl

theorem eq_append_of_strip (hstrip : strip fold text word = some rest) :
    ∃ taken, text = taken ++ rest ∧ taken.flatMap fold = word := by
  induction text generalizing word with
  | nil =>
      rw [strip] at hstrip
      split at hstrip
      · next hword =>
          cases hstrip
          exact ⟨[], rfl, hword.symm⟩
      · cases hstrip
  | cons c text ih =>
      rw [strip] at hstrip
      split at hstrip
      · next hword =>
          cases hstrip
          exact ⟨[], rfl, hword.symm⟩
      · split at hstrip
        · next hstart =>
            obtain ⟨taken, rfl, htaken⟩ := ih hstrip
            obtain ⟨after, rfl⟩ := hstart
            rw [List.drop_left] at htaken
            refine ⟨c :: taken, rfl, ?_⟩
            rw [List.flatMap_cons, htaken]
        · cases hstrip

theorem hasWord_nil (hword : word ≠ []) : hasWord fold word [] = false := by
  rw [hasWord, strip, if_neg hword]
  rfl

theorem hasWord_append (hfold : fold stop = [stop]) (hstop : stop ∉ word) (hword : word ≠ []) :
    hasWord fold word (text ++ stop :: rest) =
      (hasWord fold word text || hasWord fold word rest) := by
  induction text with
  | nil =>
      rw [List.nil_append, hasWord_nil hword, hasWord, strip_cons_of_notMem hfold hstop hword]
      rfl
  | cons c text ih =>
      have hfirst : strip fold (c :: text ++ stop :: rest) word =
          (strip fold (c :: text) word).map (· ++ stop :: rest) := strip_append hfold hstop
      rw [List.cons_append] at hfirst
      rw [List.cons_append, hasWord, hasWord, ih, hfirst, Option.isSome_map, Bool.or_assoc]

theorem hasWord_eq_true_iff :
    hasWord fold word text = true ↔
      ∃ before after, text = before ++ after ∧ (strip fold after word).isSome := by
  induction text with
  | nil =>
      rw [hasWord]
      constructor
      · exact fun hsome => ⟨[], [], rfl, hsome⟩
      · rintro ⟨before, after, hnil, hsome⟩
        rwa [(List.append_eq_nil_iff.mp hnil.symm).2] at hsome
  | cons c text ih =>
      rw [hasWord, Bool.or_eq_true, ih]
      constructor
      · rintro (hsome | ⟨before, after, rfl, hsome⟩)
        · exact ⟨[], _, rfl, hsome⟩
        · exact ⟨c :: before, after, rfl, hsome⟩
      · rintro ⟨before, after, htext, hsome⟩
        cases before with
        | nil => exact .inl (by rwa [htext])
        | cons d before =>
            obtain ⟨-, rfl⟩ := List.cons.inj htext
            exact .inr ⟨before, after, rfl, hsome⟩

/-! ## Patterns -/

/-- A regular expression. -/
inductive Pattern (α : Type) where
  /-- One of some characters. -/
  | char (accepts : α → Bool)
  | word (letters : List α)
  | append (first second : Pattern α)
  | option (pattern : Pattern α)
  | star (pattern : Pattern α)
  /-- `(?!…)`: nothing is taken, and the text does not go on like this. -/
  | notAhead (pattern : Pattern α)

namespace Pattern

/-- What is left of a text after more and more steps, each of which takes something; the most
steps come first. -/
def repeated (step : List α → List (List α)) : ℕ → List α → List (List α)
  | 0, text => [text]
  | fuel + 1, text =>
      ((step text).filter fun rest => rest.length < text.length).flatMap (repeated step fuel) ++
        [text]

/-- What may be left of a text, in the order in which an engine tries. -/
def outcomes (fold : α → List α) : Pattern α → List α → List (List α)
  | char accepts, text =>
      match text with
      | [] => []
      | c :: rest => if accepts c then [rest] else []
  | .word letters, text => (strip fold text letters).toList
  | append first second, text => (first.outcomes fold text).flatMap (second.outcomes fold)
  | option pattern, text => pattern.outcomes fold text ++ [text]
  | star pattern, text => repeated (pattern.outcomes fold) text.length text
  | notAhead pattern, text => if pattern.outcomes fold text = [] then [text] else []

theorem mem_outcomes_char {accepts : α → Bool} :
    rest ∈ (char accepts).outcomes fold text ↔ ∃ c, text = c :: rest ∧ accepts c = true := by
  cases text with
  | nil => simp [outcomes]
  | cons c text =>
      rw [outcomes]
      split
      · next haccepts =>
          rw [List.mem_singleton]
          constructor
          · rintro rfl
            exact ⟨c, rfl, haccepts⟩
          · rintro ⟨d, htext, -⟩
            exact (List.cons.inj htext).2.symm
      · next haccepts =>
          refine iff_of_false List.not_mem_nil ?_
          rintro ⟨d, htext, hd⟩
          rw [(List.cons.inj htext).1] at haccepts
          exact haccepts hd

theorem mem_outcomes_word {letters : List α} :
    rest ∈ (Pattern.word letters).outcomes fold text ↔ strip fold text letters = some rest := by
  rw [outcomes, Option.mem_toList]

theorem mem_outcomes_append {first second : Pattern α} :
    rest ∈ (append first second).outcomes fold text ↔
      ∃ middle ∈ first.outcomes fold text, rest ∈ second.outcomes fold middle := by
  rw [outcomes, List.mem_flatMap]

theorem mem_outcomes_option {pattern : Pattern α} :
    rest ∈ (option pattern).outcomes fold text ↔
      rest ∈ pattern.outcomes fold text ∨ rest = text := by
  rw [outcomes, List.mem_append, List.mem_singleton]

theorem mem_outcomes_notAhead {letters : List α} :
    rest ∈ (notAhead (.word letters)).outcomes fold text ↔
      rest = text ∧ strip fold text letters = none := by
  rw [outcomes, outcomes]
  cases strip fold text letters with
  | none => simp
  | some after => simp

/-- A run of characters, before a rest, of which each may be taken. -/
def Takes (may : List α → Prop) : List α → List α → Prop
  | [], _ => True
  | c :: run, rest => may (c :: (run ++ rest)) ∧ Takes may run rest

/-- A star over single characters takes a run of them. -/
theorem mem_outcomes_star {pattern : Pattern α} {may : List α → Prop}
    (hstep : ∀ text rest, rest ∈ pattern.outcomes fold text ↔ (∃ c, text = c :: rest) ∧ may text) :
    rest ∈ (star pattern).outcomes fold text ↔
      ∃ run, text = run ++ rest ∧ Takes may run rest := by
  rw [outcomes]
  induction hlength : text.length generalizing text with
  | zero =>
      obtain rfl := List.eq_nil_of_length_eq_zero hlength
      rw [repeated, List.mem_singleton]
      constructor
      · rintro rfl
        exact ⟨[], rfl, trivial⟩
      · rintro ⟨run, hrun, -⟩
        exact (List.append_eq_nil_iff.mp hrun.symm).2
  | succ length ih =>
      rw [repeated, List.mem_append, List.mem_flatMap, List.mem_singleton]
      constructor
      · rintro (⟨middle, hmiddle, hrest⟩ | rfl)
        · obtain ⟨⟨c, rfl⟩, hmay⟩ := (hstep _ _).mp (List.mem_of_mem_filter hmiddle)
          obtain ⟨run, rfl, htakes⟩ := (ih (Nat.succ.inj hlength)).mp hrest
          exact ⟨c :: run, rfl, hmay, htakes⟩
        · exact ⟨[], rfl, trivial⟩
      · rintro ⟨run, rfl, htakes⟩
        cases run with
        | nil => exact .inr rfl
        | cons c run =>
            refine .inl ⟨run ++ rest, ?_, (ih (Nat.succ.inj hlength)).mpr ⟨run, rfl, htakes.2⟩⟩
            rw [List.mem_filter]
            exact ⟨(hstep _ _).mpr ⟨⟨c, rfl⟩, htakes.1⟩, decide_eq_true (Nat.lt_succ_self _)⟩

end Pattern

/-! ## Replacing -/

/-- A pattern in two parts, of which the first is the first group, and what replaces a match, given
the group. -/
structure Replacement (α : Type) where
  group : Pattern α
  after : Pattern α
  template : List α → List α

namespace Replacement

variable (R : Replacement α) (fold : α → List α)

/-- What is left after the group, and after the match, at the start of a text. -/
def firstMatch (text : List α) : Option (List α × List α) :=
  ((R.group.outcomes fold text).flatMap fun middle =>
    (R.after.outcomes fold middle).map fun rest => (middle, rest)).head?

def replaceAll (text : List α) : List α :=
  match text with
  | [] => (R.firstMatch fold []).elim [] fun _ => R.template []
  | c :: tail =>
      match R.firstMatch fold (c :: tail) with
      | none => c :: replaceAll tail
      | some (middle, rest) =>
          R.template ((c :: tail).take ((c :: tail).length - middle.length)) ++
            if rest.length < (c :: tail).length then replaceAll rest else c :: replaceAll tail
termination_by text.length
decreasing_by
  · exact Nat.lt_succ_self _
  · assumption
  · exact Nat.lt_succ_self _

/-- Every match in the first characters of a text replaced; what lies beyond is not looked at. -/
def replaceRange (range : ℕ) (text : List α) : List α :=
  R.replaceAll fold (text.take range) ++ text.drop range

end Replacement

end Patterns
