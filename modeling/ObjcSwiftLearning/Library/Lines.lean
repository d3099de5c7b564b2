import ObjcSwiftLearning.Library.Patterns

/-!
# Patterns within the lines of a text

A text of lines that end in CR LF or LF, and patterns that end with a line's end.

* `LineEnds.text`, `text_injective` — the text of some lines, and its lines.
* `LineEnds.withinRange` — which lines lie within the start of a text.
* `LinePattern.replaceAll_line` — **a replacement goes line by line**,
  `LinePattern.replaceRange_text` — also within the start of a text.
-/

namespace Patterns

variable {α : Type}

structure LineEnds (α : Type) where
  cr : α
  lf : α
  cr_ne_lf : cr ≠ lf

inductive LineEnding where
  | crlf
  | lf
  deriving DecidableEq

namespace LineEnds

variable (E : LineEnds α)

def ending : LineEnding → List α
  | .crlf => [E.cr, E.lf]
  | .lf => [E.lf]

/-- Characters that do not end a line. -/
structure IsLine (line : List α) : Prop where
  cr_notMem : E.cr ∉ line
  lf_notMem : E.lf ∉ line

/-- A line, without its end. -/
abbrev Line : Type := { line : List α // E.IsLine line }

def units (line : E.Line × LineEnding) : List α := line.1.val ++ E.ending line.2

/-- The characters of some lines. -/
def text (lines : List (E.Line × LineEnding)) : List α := lines.flatMap E.units

variable {E}

theorem isLine_nil : E.IsLine [] := ⟨List.not_mem_nil, List.not_mem_nil⟩

theorem IsLine.tail {c : α} {line : List α} (hline : E.IsLine (c :: line)) : E.IsLine line where
  cr_notMem hmem := hline.cr_notMem (List.mem_cons_of_mem _ hmem)
  lf_notMem hmem := hline.lf_notMem (List.mem_cons_of_mem _ hmem)

theorem IsLine.append {first second : List α} (hfirst : E.IsLine first)
    (hsecond : E.IsLine second) : E.IsLine (first ++ second) where
  cr_notMem hmem := (List.mem_append.mp hmem).elim hfirst.cr_notMem hsecond.cr_notMem
  lf_notMem hmem := (List.mem_append.mp hmem).elim hfirst.lf_notMem hsecond.lf_notMem

theorem text_cons (line : E.Line × LineEnding) (lines : List (E.Line × LineEnding)) :
    E.text (line :: lines) = line.1.val ++ (E.ending line.2 ++ E.text lines) :=
  List.append_assoc _ _ _

theorem lf_mem_ending (ending : LineEnding) : E.lf ∈ E.ending ending := by
  cases ending with
  | crlf => exact List.mem_cons_of_mem _ List.mem_cons_self
  | lf => exact List.mem_cons_self

theorem ending_append_inj {ending ending' : LineEnding} {rest rest' : List α}
    (hsame : E.ending ending ++ rest = E.ending ending' ++ rest') :
    ending = ending' ∧ rest = rest' := by
  cases ending with
  | crlf =>
      cases ending' with
      | crlf => exact ⟨rfl, (List.cons.inj (List.cons.inj hsame).2).2⟩
      | lf => exact absurd (List.cons.inj hsame).1 E.cr_ne_lf
  | lf =>
      cases ending' with
      | crlf => exact absurd (List.cons.inj hsame).1.symm E.cr_ne_lf
      | lf => exact ⟨rfl, (List.cons.inj hsame).2⟩

theorem not_ending_append {c : α} {line : List α} (hline : E.IsLine (c :: line))
    (ending : LineEnding) (rest rest' : List α) : E.ending ending ++ rest ≠ c :: rest' := by
  intro hsame
  cases ending with
  | crlf => exact hline.cr_notMem ((List.cons.inj hsame).1 ▸ List.mem_cons_self)
  | lf => exact hline.lf_notMem ((List.cons.inj hsame).1 ▸ List.mem_cons_self)

/-- The first line of a text, its end, and what follows. -/
theorem line_append_inj {line line' : List α} (hline : E.IsLine line) (hline' : E.IsLine line')
    {ending ending' : LineEnding} {rest rest' : List α}
    (hsame : line ++ (E.ending ending ++ rest) = line' ++ (E.ending ending' ++ rest')) :
    line = line' ∧ ending = ending' ∧ rest = rest' := by
  induction line generalizing line' with
  | nil =>
      cases line' with
      | nil => exact ⟨rfl, ending_append_inj hsame⟩
      | cons c line' => exact absurd hsame (not_ending_append hline' _ _ _)
  | cons c line ih =>
      cases line' with
      | nil => exact absurd hsame.symm (not_ending_append hline _ _ _)
      | cons d line' =>
          obtain ⟨rfl, htail⟩ := List.cons.inj hsame
          obtain ⟨rfl, hrest⟩ := ih hline.tail hline'.tail htail
          exact ⟨rfl, hrest⟩

/-- **A text has the lines that it is of.** -/
theorem text_injective {lines lines' : List (E.Line × LineEnding)}
    (hsame : E.text lines = E.text lines') : lines = lines' := by
  induction lines generalizing lines' with
  | nil =>
      cases lines' with
      | nil => rfl
      | cons line' lines' =>
          rw [text_cons] at hsame
          have hmem : E.lf ∈ E.text [] :=
            hsame ▸ List.mem_append_right _ (List.mem_append_left _ (lf_mem_ending _))
          exact absurd hmem List.not_mem_nil
  | cons line lines ih =>
      cases lines' with
      | nil =>
          rw [text_cons] at hsame
          have hmem : E.lf ∈ E.text [] :=
            hsame ▸ List.mem_append_right _ (List.mem_append_left _ (lf_mem_ending _))
          exact absurd hmem List.not_mem_nil
      | cons line' lines' =>
          rw [text_cons, text_cons] at hsame
          obtain ⟨hline, hending, hrest⟩ := line_append_inj line.1.property line'.1.property hsame
          rw [ih hrest, Prod.ext (Subtype.ext hline) hending]

def withinRange : ℕ → List (E.Line × LineEnding) → List ((E.Line × LineEnding) × Bool)
  | _, [] => []
  | range, line :: lines =>
      (line, (E.units line).length ≤ range) :: withinRange (range - (E.units line).length) lines

theorem units_eq_append_lf (line : E.Line × LineEnding) :
    ∃ start, E.units line = start ++ [E.lf] ∧ E.lf ∉ start := by
  obtain ⟨⟨line, hline⟩, ending⟩ := line
  cases ending with
  | crlf =>
      refine ⟨line ++ [E.cr], (List.append_assoc line [E.cr] [E.lf]).symm, fun hmem => ?_⟩
      rcases List.mem_append.mp hmem with hmem | hmem
      · exact hline.lf_notMem hmem
      · exact E.cr_ne_lf (List.mem_singleton.mp hmem).symm
  | lf => exact ⟨line, rfl, hline.lf_notMem⟩

/-- The end of a line, `\r?\n`. -/
def newline [DecidableEq α] (E : LineEnds α) : Pattern α :=
  .append (.option (.char (· = E.cr))) (.char (· = E.lf))

theorem mem_outcomes_newline [DecidableEq α] {fold : α → List α} {text rest : List α} :
    rest ∈ E.newline.outcomes fold text ↔ ∃ ending, text = E.ending ending ++ rest := by
  rw [newline, Pattern.mem_outcomes_append]
  simp only [Pattern.mem_outcomes_option, Pattern.mem_outcomes_char, decide_eq_true_eq]
  constructor
  · rintro ⟨middle, ⟨_, rfl, rfl⟩ | rfl, _, rfl, rfl⟩
    · exact ⟨.crlf, rfl⟩
    · exact ⟨.lf, rfl⟩
  · rintro ⟨ending, rfl⟩
    cases ending with
    | crlf => exact ⟨_, .inl ⟨E.cr, rfl, rfl⟩, E.lf, rfl, rfl⟩
    | lf => exact ⟨_, .inr rfl, E.lf, rfl, rfl⟩

end LineEnds

structure LinePattern (E : LineEnds α) [DecidableEq α] (fold : α → List α) where
  group : Pattern α
  template : List α → List α
  /-- Whether it takes all that is left of a line. -/
  starts : List α → Bool
  starts_nil : starts [] = false
  mem_outcomes : ∀ {line}, E.IsLine line → ∀ ending rest,
    E.ending ending ++ rest ∈ group.outcomes fold (line ++ (E.ending ending ++ rest)) ↔
      starts line = true
  taken : ∀ {text rest}, rest ∈ group.outcomes fold text → ∃ run, text = run ++ rest ∧ E.IsLine run

namespace LinePattern

variable [DecidableEq α] {E : LineEnds α} {fold : α → List α} (L : LinePattern E fold)

/-- It is followed by the line's end. -/
def replacement : Replacement α where
  group := L.group
  after := E.newline
  template := L.template

def replaceLine : List α → LineEnding → List α
  | [], ending => E.ending ending
  | c :: line, ending =>
      if L.starts (c :: line) then L.template (c :: line) else c :: replaceLine line ending

/-- Whether it takes the end of a line. -/
def hasMatch : List α → Bool
  | [] => false
  | c :: line => L.starts (c :: line) || hasMatch line

variable {L} {text : List α}

theorem replaceLine_of_not_hasMatch {line : List α} (hnone : L.hasMatch line = false)
    (ending : LineEnding) : L.replaceLine line ending = line ++ E.ending ending := by
  induction line with
  | nil => rfl
  | cons c line ih =>
      obtain ⟨hstarts, hrest⟩ := Bool.or_eq_false_iff.mp hnone
      rw [replaceLine, if_neg (Bool.eq_false_iff.mp hstarts), ih hrest, List.cons_append]

theorem replaceLine_append {line added : List α} (htemplate : L.template = (· ++ added))
    (hmatch : L.hasMatch line = true) (ending : LineEnding) :
    L.replaceLine line ending = line ++ added := by
  induction line with
  | nil => cases hmatch
  | cons c line ih =>
      rw [replaceLine]
      split
      · rw [htemplate]
      · next hstarts =>
          have hrest := (Bool.or_eq_true _ _).mp hmatch
          rw [ih (hrest.resolve_left hstarts), List.cons_append]

/-- A match ends with a line. -/
theorem of_mem_matches {result : List α × List α}
    (hmem : result ∈ (L.group.outcomes fold text).flatMap fun middle =>
      (E.newline.outcomes fold middle).map fun rest => (middle, rest)) :
    result.1 ∈ L.group.outcomes fold text ∧
      ∃ run ending, E.IsLine run ∧ text = run ++ (E.ending ending ++ result.2) ∧
        result.1 = E.ending ending ++ result.2 := by
  obtain ⟨middle, hmiddle, hmem⟩ := List.mem_flatMap.mp hmem
  obtain ⟨rest, hrest, rfl⟩ := List.mem_map.mp hmem
  obtain ⟨run, rfl, hrun⟩ := L.taken hmiddle
  obtain ⟨ending, rfl⟩ := LineEnds.mem_outcomes_newline.mp hrest
  exact ⟨hmiddle, run, ending, hrun, rfl, rfl⟩

theorem firstMatch_line {line : List α} (hline : E.IsLine line) (ending : LineEnding)
    (rest : List α) :
    L.replacement.firstMatch fold (line ++ (E.ending ending ++ rest)) =
      if L.starts line then some (E.ending ending ++ rest, rest) else none := by
  have hone : ∀ result ∈ (L.group.outcomes fold (line ++ (E.ending ending ++ rest))).flatMap
      (fun middle => (E.newline.outcomes fold middle).map fun rest => (middle, rest)),
      result = (E.ending ending ++ rest, rest) ∧ L.starts line = true := by
    intro result hresult
    obtain ⟨hmem, run, ending', hrun, htext, hmiddle⟩ := of_mem_matches hresult
    obtain ⟨rfl, rfl, rfl⟩ := LineEnds.line_append_inj hline hrun htext
    rw [hmiddle] at hmem
    exact ⟨Prod.ext hmiddle rfl, (L.mem_outcomes hline ending _).mp hmem⟩
  unfold Replacement.firstMatch replacement
  split
  · next hstarts =>
      have hmem := (L.mem_outcomes hline ending rest).mpr hstarts
      have hmatch : (E.ending ending ++ rest, rest) ∈
          (L.group.outcomes fold (line ++ (E.ending ending ++ rest))).flatMap
            (fun middle => (E.newline.outcomes fold middle).map fun rest => (middle, rest)) :=
        List.mem_flatMap.mpr ⟨_, hmem, List.mem_map.mpr
          ⟨rest, LineEnds.mem_outcomes_newline.mpr ⟨ending, rfl⟩, rfl⟩⟩
      obtain ⟨first, others, hmatches⟩ := List.exists_cons_of_ne_nil (List.ne_nil_of_mem hmatch)
      rw [hmatches, List.head?_cons]
      exact congrArg some (hone first (hmatches ▸ List.mem_cons_self)).1
  · next hstarts =>
      rw [List.head?_eq_none_iff, List.eq_nil_iff_forall_not_mem]
      intro result hresult
      exact hstarts (hone result hresult).2

theorem firstMatch_of_notMem (hlf : E.lf ∉ text) : L.replacement.firstMatch fold text = none := by
  unfold Replacement.firstMatch replacement
  rw [List.head?_eq_none_iff, List.eq_nil_iff_forall_not_mem]
  intro result hresult
  obtain ⟨-, run, ending, -, rfl, -⟩ := of_mem_matches hresult
  exact hlf (List.mem_append_right _ (List.mem_append_left _ (LineEnds.lf_mem_ending ending)))

theorem replaceAll_of_notMem (hlf : E.lf ∉ text) : L.replacement.replaceAll fold text = text := by
  induction text with
  | nil =>
      rw [Replacement.replaceAll, firstMatch_of_notMem hlf]
      rfl
  | cons c text ih =>
      rw [Replacement.replaceAll, firstMatch_of_notMem hlf]
      exact congrArg (c :: ·) (ih fun hmem => hlf (List.mem_cons_of_mem _ hmem))

theorem replaceAll_cons {c : α} (hnone : L.replacement.firstMatch fold (c :: text) = none) :
    L.replacement.replaceAll fold (c :: text) = c :: L.replacement.replaceAll fold text := by
  rw [Replacement.replaceAll, hnone]

theorem replaceAll_ending (ending : LineEnding) (rest : List α) :
    L.replacement.replaceAll fold (E.ending ending ++ rest) =
      E.ending ending ++ L.replacement.replaceAll fold rest := by
  have hnone : ∀ ending rest,
      L.replacement.firstMatch fold (E.ending ending ++ rest) = none := by
    intro ending rest
    have hfirst := firstMatch_line (L := L) LineEnds.isLine_nil ending rest
    rw [L.starts_nil] at hfirst
    exact hfirst
  cases ending with
  | crlf =>
      exact (replaceAll_cons (hnone .crlf rest)).trans
        (congrArg (E.cr :: ·) (replaceAll_cons (hnone .lf rest)))
  | lf => exact replaceAll_cons (hnone .lf rest)

/-- **A replacement goes line by line.** -/
theorem replaceAll_line {line : List α} (hline : E.IsLine line) (ending : LineEnding)
    (rest : List α) :
    L.replacement.replaceAll fold (line ++ (E.ending ending ++ rest)) =
      L.replaceLine line ending ++ L.replacement.replaceAll fold rest := by
  induction line with
  | nil => exact replaceAll_ending ending rest
  | cons c line ih =>
      have hfirst := firstMatch_line (L := L) hline ending rest
      rw [replaceLine]
      split
      · next hstarts =>
          rw [if_pos hstarts] at hfirst
          have hshorter : rest.length < (c :: line ++ (E.ending ending ++ rest)).length := by
            simp only [List.length_append, List.length_cons]
            omega
          have htaken : (c :: line ++ (E.ending ending ++ rest)).take
              ((c :: line ++ (E.ending ending ++ rest)).length -
                (E.ending ending ++ rest).length) = c :: line := by
            rw [List.length_append, Nat.add_sub_cancel, List.take_left]
          rw [List.cons_append] at hfirst hshorter htaken ⊢
          rw [Replacement.replaceAll, hfirst]
          simp only [if_pos hshorter, htaken]
          rfl
      · next hstarts =>
          rw [if_neg hstarts] at hfirst
          rw [List.cons_append] at hfirst ⊢
          rw [replaceAll_cons hfirst, ih hline.tail, List.cons_append]

theorem replaceRange_zero (text : List α) : L.replacement.replaceRange fold 0 text = text := by
  rw [Replacement.replaceRange, List.take_zero, replaceAll_of_notMem List.not_mem_nil]
  rfl

/-- **A replacement in the start of a text** goes through the lines that end within it. -/
theorem replaceRange_text (range : ℕ) (lines : List (E.Line × LineEnding)) :
    L.replacement.replaceRange fold range (E.text lines) =
      (LineEnds.withinRange range lines).flatMap fun marked =>
        if marked.2 then L.replaceLine marked.1.1.val marked.1.2 else E.units marked.1 := by
  induction lines generalizing range with
  | nil =>
      have hnil : E.text [] = [] := rfl
      rw [hnil, Replacement.replaceRange, List.take_nil, List.drop_nil,
        replaceAll_of_notMem List.not_mem_nil]
      rfl
  | cons line lines ih =>
      have htext : E.text (line :: lines) = E.units line ++ E.text lines := rfl
      rw [LineEnds.withinRange, List.flatMap_cons, ← ih, htext]
      by_cases hrange : (E.units line).length ≤ range
      · have hline := replaceAll_line (L := L) line.1.property line.2
          ((E.text lines).take (range - (E.units line).length))
        rw [← List.append_assoc] at hline
        rw [if_pos (decide_eq_true hrange), Replacement.replaceRange, Replacement.replaceRange,
          List.take_append, List.drop_append, List.take_of_length_le hrange,
          List.drop_of_length_le hrange, List.nil_append, ← List.append_assoc]
        exact congrArg (· ++ _) hline
      · obtain ⟨start, hstart, hlf⟩ := LineEnds.units_eq_append_lf line
        have hle : range ≤ start.length := by
          rw [hstart, List.length_append, List.length_singleton] at hrange
          omega
        have htake : (E.units line ++ E.text lines).take range = start.take range := by
          rw [hstart, List.append_assoc, List.take_append_of_le_length hle]
        rw [if_neg (by simpa using hrange), Nat.sub_eq_zero_of_le (Nat.le_of_not_le hrange),
          replaceRange_zero, Replacement.replaceRange, htake,
          replaceAll_of_notMem fun hmem => hlf (List.mem_of_mem_take hmem), ← htake,
          List.take_append_drop]

end LinePattern

end Patterns
