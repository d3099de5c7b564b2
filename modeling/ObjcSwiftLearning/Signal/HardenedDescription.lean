import ObjcSwiftLearning.Signal.SessionDescription

/-!
# What hardening a description does

Hardening goes line by line, as far as the two ranges reach.

* `hardenedLines` — what hardening is for.
* `afterCbr`, `audioLevelUnits` — the lines after the first replacement, and what the second leaves
  of a line.
* `Reaches` — the ranges reach the lines that are to change.
* `hardens_of_reaches`, `reaches_of_hardens` — what is reached is hardened, and what is hardened
  was reached.
* `harden_iff` — **every line is hardened** if and only if the ranges reach the lines that are to
  change, and the patterns match these lines and no others.
-/

namespace ObjcSwiftLearning.Signal

open Patterns

/-! ## What becomes of a line -/

abbrev SDPLine : Type := sdpEnds.Line

/-- It names the extension, in any letter case. -/
def hasAudioLevel (line : SDPLine) : Bool := hasWord caseFold audioLevelWord line.val

/-- It starts with `a=fmtp:111` and a space, and has no `cbr=`. -/
def LacksCbr (line : SDPLine) : Prop := fmtpWord <+: line.val ∧ ¬cbrWord <:+: line.val

instance (line : SDPLine) : Decidable (LacksCbr line) :=
  inferInstanceAs (Decidable (_ ∧ _))

def withCbr (line : SDPLine) : SDPLine :=
  ⟨line.val ++ cbrParameter, line.property.append (isLine_of_plain (plain_iff.mpr (by decide)))⟩

def hardenedLine (line : SDPLine) : SDPLine := if LacksCbr line then withCbr line else line

def hardenedLines (lines : List SDPLine) : List SDPLine :=
  (lines.filter fun line => !hasAudioLevel line).map hardenedLine

theorem withCbr_ne (line : SDPLine) : withCbr line ≠ line := by
  intro hsame
  have hnil : cbrParameter = [] := List.append_right_eq_self.mp (congrArg Subtype.val hsame)
  exact absurd hnil (by decide)

/-- What is added does not name the extension. -/
@[simp] theorem hasAudioLevel_withCbr (line : SDPLine) :
    hasAudioLevel (withCbr line) = hasAudioLevel line := by
  have happend : hasWord caseFold audioLevelWord (line.val ++ cbrParameter) =
      (hasWord caseFold audioLevelWord line.val ||
        hasWord caseFold audioLevelWord (utf16 "cbr=1")) :=
    hasWord_append rfl (by decide) (by decide)
  rw [hasAudioLevel, withCbr, happend, hasAudioLevel]
  have hnone : hasWord caseFold audioLevelWord (utf16 "cbr=1") = false := by decide
  rw [hnone, Bool.or_false]

theorem replaceLine_cbr (line : SDPLine) (ending : LineEnding) :
    cbrPattern.replaceLine line.val ending =
      if cbrPattern.hasMatch line.val then sdpEnds.units (withCbr line, .crlf)
      else sdpEnds.units (line, ending) := by
  split
  · next hmatch =>
      have htemplate : cbrPattern.template = (· ++ (cbrParameter ++ sdpEnds.ending .crlf)) := rfl
      rw [LinePattern.replaceLine_append htemplate hmatch, ← List.append_assoc]
      rfl
  · next hnone =>
      exact LinePattern.replaceLine_of_not_hasMatch (Bool.not_eq_true _ ▸ hnone) ending

theorem hasWord_of_audioLevelStarts {line : List UInt16} (hstarts : audioLevelStarts line = true) :
    hasWord caseFold audioLevelWord line = true := by
  cases line with
  | nil => cases hstarts
  | cons c line =>
      have hrest : hasWord caseFold audioLevelWord line = true :=
        (Bool.and_eq_true_iff.mp hstarts).2
      rw [hasWord, hrest, Bool.or_true]

/-- What is left of a line by the second replacement: nothing of a line that is taken from its
start on; else it has another line terminator. -/
structure CutShort (line before : List UInt16) : Prop where
  isLine : sdpEnds.IsLine before
  hasWord : hasWord caseFold audioLevelWord line = true
  starts : before = [] → audioLevelStarts line = true
  terminator : before ≠ [] → ∃ c ∈ before, isLineTerminator c = true

/-- **The second replacement** leaves a line or cuts it. -/
theorem replaceLine_audioLevel {line : List UInt16} (hline : sdpEnds.IsLine line)
    (ending : LineEnding) :
    audioLevelPattern.replaceLine line ending = line ++ sdpEnds.ending ending ∨
      CutShort line (audioLevelPattern.replaceLine line ending) := by
  induction line with
  | nil => exact .inl rfl
  | cons c line ih =>
      rw [LinePattern.replaceLine]
      split
      · next hstarts =>
          exact .inr ⟨LineEnds.isLine_nil, hasWord_of_audioLevelStarts hstarts,
            fun _ => hstarts, fun hne => absurd rfl hne⟩
      · next hstarts =>
          refine (ih hline.tail).imp (congrArg (c :: ·)) fun hcut => ?_
          have hword : hasWord caseFold audioLevelWord (c :: line) = true := by
            rw [Patterns.hasWord, hcut.hasWord, Bool.or_true]
          have hc : sdpEnds.IsLine [c] :=
            ⟨fun hmem => hline.cr_notMem (List.mem_singleton.mp hmem ▸ List.mem_cons_self),
              fun hmem => hline.lf_notMem (List.mem_singleton.mp hmem ▸ List.mem_cons_self)⟩
          refine ⟨hc.append hcut.isLine, hword, fun hnil => absurd hnil (List.cons_ne_nil _ _),
            fun _ => ?_⟩
          by_cases hnil : audioLevelPattern.replaceLine line ending = []
          · -- the rest is taken from its start on, and with a plain character before it
            -- the line would be
            refine ⟨c, List.mem_cons_self, ?_⟩
            by_contra hplain
            rw [Bool.not_eq_true] at hplain
            have hrest := Bool.and_eq_true_iff.mp (hcut.starts hnil)
            refine hstarts (Bool.and_eq_true_iff.mpr ⟨?_, hcut.hasWord⟩)
            rw [List.all_cons, hplain, hrest.1]
            rfl
          · obtain ⟨d, hd, hterminator⟩ := hcut.terminator hnil
            exact ⟨d, List.mem_cons_of_mem _ hd, hterminator⟩

/-! ## What becomes of a description -/

abbrev EndedLine : Type := SDPLine × LineEnding

/-- A line after the first replacement, if it is within the range or not. -/
def cbrLine (marked : EndedLine × Bool) : EndedLine :=
  if marked.2 && cbrPattern.hasMatch marked.1.1.val then (withCbr marked.1.1, .crlf) else marked.1

def afterCbr (count : List UInt16 → ℕ) (lines : List EndedLine) : List EndedLine :=
  (LineEnds.withinRange (count (sdpEnds.text lines)) lines).map cbrLine

/-- The units of a line after the second replacement, if it is within the range or not. -/
def audioLevelUnits (marked : EndedLine × Bool) : List UInt16 :=
  if marked.2 then audioLevelPattern.replaceLine marked.1.1.val marked.1.2
  else sdpEnds.units marked.1

variable {count : List UInt16 → ℕ} {lines : List EndedLine} {marks : List (EndedLine × Bool)}

theorem replaceRange_cbr (lines : List EndedLine) :
    cbrRegex.replaceRange caseFold (count (sdpEnds.text lines)) (sdpEnds.text lines) =
      sdpEnds.text (afterCbr count lines) := by
  refine (LinePattern.replaceRange_text (L := cbrPattern) _ lines).trans ?_
  refine Eq.trans ?_ (List.flatMap_map cbrLine sdpEnds.units _).symm
  refine List.flatMap_congr fun marked _ => ?_
  rw [cbrLine, replaceLine_cbr]
  cases marked.2 with
  | false => rfl
  | true =>
      rw [if_pos rfl, Bool.true_and]
      split
      · rfl
      · rfl

theorem sdp_harden (count : List UInt16 → ℕ) (type : RTCSdpType) (lines : List EndedLine) :
    (harden count ⟨type, sdpEnds.text lines⟩).sdp =
      (LineEnds.withinRange (count (sdpEnds.text (afterCbr count lines)))
        (afterCbr count lines)).flatMap audioLevelUnits := by
  unfold harden
  dsimp only
  rw [replaceRange_cbr]
  exact LinePattern.replaceRange_text (L := audioLevelPattern) _ _

/-- The lines, marked or not. -/
theorem map_fst_withinRange (range : ℕ) (lines : List EndedLine) :
    (LineEnds.withinRange range lines).map Prod.fst = lines := by
  induction lines generalizing range with
  | nil => rfl
  | cons line lines ih => rw [LineEnds.withinRange, List.map_cons, ih]

@[simp] theorem hasAudioLevel_cbrLine (marked : EndedLine × Bool) :
    hasAudioLevel (cbrLine marked).1 = hasAudioLevel marked.1.1 := by
  unfold cbrLine
  split
  · exact hasAudioLevel_withCbr _
  · rfl

theorem fst_cbrLine_eq_iff (marked : EndedLine × Bool) :
    (cbrLine marked).1 = hardenedLine marked.1.1 ↔
      (marked.2 = true ∧ cbrPattern.hasMatch marked.1.1.val = true ↔ LacksCbr marked.1.1) := by
  have hne := withCbr_ne marked.1.1
  unfold cbrLine hardenedLine
  rw [← Bool.and_eq_true]
  split
  · next hmatch =>
      split
      · next hlacks => exact iff_of_true rfl (iff_of_true hmatch hlacks)
      · next hlacks => exact iff_of_false hne fun hiff => hlacks (hiff.mp hmatch)
  · next hmatch =>
      split
      · next hlacks => exact iff_of_false hne.symm fun hiff => hmatch (hiff.mpr hlacks)
      · next hlacks => exact iff_of_true rfl (iff_of_false hmatch hlacks)

theorem audioLevelUnits_cases (marked : EndedLine × Bool) :
    audioLevelUnits marked = sdpEnds.units marked.1 ∨
      marked.2 = true ∧ CutShort marked.1.1.val (audioLevelUnits marked) := by
  unfold audioLevelUnits
  cases marked.2 with
  | false => exact .inl rfl
  | true =>
      exact (replaceLine_audioLevel marked.1.1.property marked.1.2).imp_right fun hcut =>
        ⟨rfl, hcut⟩

theorem audioLevelUnits_of_not {marked : EndedLine × Bool}
    (hnot : hasAudioLevel marked.1.1 = false) :
    audioLevelUnits marked = sdpEnds.units marked.1 := by
  refine (audioLevelUnits_cases marked).resolve_right ?_
  rintro ⟨-, hcut⟩
  exact Bool.false_ne_true (hnot.symm.trans hcut.hasWord)

theorem audioLevelUnits_of_starts {marked : EndedLine × Bool} (hwithin : marked.2 = true)
    (hstarts : audioLevelStarts marked.1.1.val = true) : audioLevelUnits marked = [] := by
  rw [audioLevelUnits, if_pos hwithin]
  cases hline : marked.1.1.val with
  | nil =>
      rw [hline] at hstarts
      cases hstarts
  | cons c line =>
      rw [hline] at hstarts
      rw [LinePattern.replaceLine]
      exact if_pos hstarts

/-- If every line that names the extension is within the range and taken from its start on, the
others are left. -/
theorem flatMap_audioLevelUnits (hstripped : ∀ marked ∈ marks, hasAudioLevel marked.1.1 = true →
      marked.2 = true ∧ audioLevelStarts marked.1.1.val = true) :
    marks.flatMap audioLevelUnits =
      sdpEnds.text ((marks.map Prod.fst).filter fun line => !hasAudioLevel line.1) := by
  induction marks with
  | nil => rfl
  | cons marked marks ih =>
      obtain ⟨hfirst, hrest⟩ := List.forall_mem_cons.mp hstripped
      rw [List.flatMap_cons, ih hrest, List.map_cons, List.filter_cons]
      cases haudio : hasAudioLevel marked.1.1 with
      | true =>
          obtain ⟨hwithin, hstarts⟩ := hfirst haudio
          rw [audioLevelUnits_of_starts hwithin hstarts]
          rfl
      | false =>
          rw [audioLevelUnits_of_not haudio]
          rfl

/-! ## When every line is hardened -/

def keptLines (count : List UInt16 → ℕ) (lines : List EndedLine) : List EndedLine :=
  (afterCbr count lines).filter fun line => !hasAudioLevel line.1

/-- The ranges reach the lines that are to change, and the patterns match these and no others. -/
structure Reaches (count : List UInt16 → ℕ) (lines : List EndedLine) : Prop where
  /-- A line that names the extension is within the second range, has no other line terminator, and
  does not start with the name. -/
  stripped : ∀ marked ∈ LineEnds.withinRange (count (sdpEnds.text (afterCbr count lines)))
      (afterCbr count lines),
    hasAudioLevel marked.1.1 = true →
      marked.2 = true ∧ audioLevelStarts marked.1.1.val = true
  /-- Any other line is within the first range and has a match exactly if it lacks a bit rate. -/
  extended : ∀ marked ∈ LineEnds.withinRange (count (sdpEnds.text lines)) lines,
    hasAudioLevel marked.1.1 = false →
      (marked.2 = true ∧ cbrPattern.hasMatch marked.1.1.val = true ↔ LacksCbr marked.1.1)
  settled : ∀ marked ∈ LineEnds.withinRange (count (sdpEnds.text (keptLines count lines)))
      (keptLines count lines),
    ¬(marked.2 = true ∧ cbrPattern.hasMatch marked.1.1.val = true)

def describe (type : RTCSdpType) (lines : List SDPLine) (ending : LineEnding) :
    RTCSessionDescription where
  type
  sdp := sdpEnds.text (lines.map fun line => (line, ending))

/-- Hardening gives the lines as they are to be, and then changes nothing. -/
def Hardens (count : List UInt16 → ℕ) (rtcSessionDescription : RTCSessionDescription)
    (lines : List SDPLine) : Prop :=
  (∃ hardened : List EndedLine,
    harden count rtcSessionDescription = ⟨rtcSessionDescription.type, sdpEnds.text hardened⟩ ∧
    hardened.map Prod.fst = hardenedLines lines) ∧
  harden count (harden count rtcSessionDescription) = harden count rtcSessionDescription

theorem harden_eq_of_stripped
    (hstripped : ∀ marked ∈ LineEnds.withinRange (count (sdpEnds.text (afterCbr count lines)))
        (afterCbr count lines),
      hasAudioLevel marked.1.1 = true →
        marked.2 = true ∧ audioLevelStarts marked.1.1.val = true) (type : RTCSdpType) :
    harden count ⟨type, sdpEnds.text lines⟩ = ⟨type, sdpEnds.text (keptLines count lines)⟩ := by
  have hsdp := sdp_harden count type lines
  rw [flatMap_audioLevelUnits hstripped, map_fst_withinRange] at hsdp
  exact congrArg (RTCSessionDescription.mk type) hsdp

theorem not_hasAudioLevel_afterCbr (count : List UInt16 → ℕ)
    (hnone : ∀ line ∈ lines, hasAudioLevel line.1 = false) :
    ∀ line ∈ afterCbr count lines, hasAudioLevel line.1 = false := by
  intro line hline
  obtain ⟨marked, hmarked, rfl⟩ := List.mem_map.mp hline
  rw [hasAudioLevel_cbrLine]
  refine hnone _ ?_
  rw [← map_fst_withinRange (count (sdpEnds.text lines)) lines]
  exact List.mem_map_of_mem hmarked

/-- Without a line that names the extension only the first replacement matters. -/
theorem harden_eq_afterCbr (hnone : ∀ line ∈ lines, hasAudioLevel line.1 = false)
    (type : RTCSdpType) :
    harden count ⟨type, sdpEnds.text lines⟩ = ⟨type, sdpEnds.text (afterCbr count lines)⟩ := by
  have hafter := not_hasAudioLevel_afterCbr count hnone
  have hkept : keptLines count lines = afterCbr count lines := by
    refine List.filter_eq_self.mpr fun line hline => ?_
    rw [hafter line hline]
    rfl
  rw [harden_eq_of_stripped, hkept]
  intro marked hmarked haudio
  have hmem := List.mem_map_of_mem (f := Prod.fst) hmarked
  rw [map_fst_withinRange] at hmem
  rw [hafter _ hmem] at haudio
  cases haudio

theorem cbrLine_eq_iff (marked : EndedLine × Bool) :
    cbrLine marked = marked.1 ↔
      ¬(marked.2 = true ∧ cbrPattern.hasMatch marked.1.1.val = true) := by
  unfold cbrLine
  rw [← Bool.and_eq_true]
  split
  · next hmatch =>
      exact iff_of_false (fun hsame => withCbr_ne _ (congrArg Prod.fst hsame))
        fun hnot => hnot hmatch
  · next hmatch => exact iff_of_true rfl hmatch

/-- The first replacement changes nothing if no line is within the range and has a match. -/
theorem afterCbr_eq_iff (lines : List EndedLine) :
    afterCbr count lines = lines ↔
      ∀ marked ∈ LineEnds.withinRange (count (sdpEnds.text lines)) lines,
        ¬(marked.2 = true ∧ cbrPattern.hasMatch marked.1.1.val = true) := by
  conv_lhs => rhs; rw [← map_fst_withinRange (count (sdpEnds.text lines)) lines]
  rw [afterCbr, List.map_inj_left]
  exact forall₂_congr fun marked _ => cbrLine_eq_iff marked

theorem map_fst_filter_cbrLine (hextended : ∀ marked ∈ marks, hasAudioLevel marked.1.1 = false →
      (cbrLine marked).1 = hardenedLine marked.1.1) :
    ((marks.map cbrLine).filter fun line => !hasAudioLevel line.1).map Prod.fst =
      hardenedLines (marks.map fun marked => marked.1.1) := by
  induction marks with
  | nil => rfl
  | cons marked marks ih =>
      obtain ⟨hfirst, hrest⟩ := List.forall_mem_cons.mp hextended
      have hrest := ih hrest
      rw [hardenedLines] at hrest ⊢
      rw [List.map_cons, List.filter_cons, List.map_cons, List.filter_cons, hasAudioLevel_cbrLine]
      cases haudio : hasAudioLevel marked.1.1 with
      | true => exact hrest
      | false =>
          rw [Bool.not_false, if_pos rfl, if_pos rfl, List.map_cons, List.map_cons, hfirst haudio,
            hrest]

theorem map_fst_keptLines
    (hextended : ∀ marked ∈ LineEnds.withinRange (count (sdpEnds.text lines)) lines,
      hasAudioLevel marked.1.1 = false →
        (marked.2 = true ∧ cbrPattern.hasMatch marked.1.1.val = true ↔ LacksCbr marked.1.1)) :
    (keptLines count lines).map Prod.fst = hardenedLines (lines.map Prod.fst) := by
  have hlines := congrArg (List.map Prod.fst)
    (map_fst_withinRange (count (sdpEnds.text lines)) lines)
  rw [List.map_map] at hlines
  rw [← hlines]
  exact map_fst_filter_cbrLine fun marked hmarked haudio =>
    (fst_cbrLine_eq_iff marked).mpr (hextended marked hmarked haudio)

theorem not_hasAudioLevel_keptLines (lines : List EndedLine) :
    ∀ line ∈ keptLines count lines, hasAudioLevel line.1 = false := by
  intro line hline
  exact (Bool.not_eq_true' _).mp (List.mem_filter.mp hline).2

theorem harden_keptLines (lines : List EndedLine) (type : RTCSdpType) :
    harden count ⟨type, sdpEnds.text (keptLines count lines)⟩ =
      ⟨type, sdpEnds.text (afterCbr count (keptLines count lines))⟩ :=
  harden_eq_afterCbr (not_hasAudioLevel_keptLines lines) type

/-- **What the ranges reach is hardened.** -/
theorem hardens_of_reaches (hreaches : Reaches count lines) (type : RTCSdpType) :
    Hardens count ⟨type, sdpEnds.text lines⟩ (lines.map Prod.fst) := by
  have hharden := harden_eq_of_stripped hreaches.stripped type
  refine ⟨⟨_, hharden, map_fst_keptLines hreaches.extended⟩, ?_⟩
  rw [hharden, harden_keptLines, (afterCbr_eq_iff _).mpr hreaches.settled]

/-! ## The ranges must reach the lines -/

theorem count_lf_units (line : EndedLine) : (sdpEnds.units line).count sdpEnds.lf = 1 := by
  obtain ⟨start, hstart, hlf⟩ := LineEnds.units_eq_append_lf line
  rw [hstart, List.count_append, List.count_eq_zero_of_not_mem hlf]
  rfl

theorem count_lf_text (lines : List EndedLine) :
    (sdpEnds.text lines).count sdpEnds.lf = lines.length := by
  induction lines with
  | nil => rfl
  | cons line lines ih =>
      have htext : sdpEnds.text (line :: lines) = sdpEnds.units line ++ sdpEnds.text lines := rfl
      rw [htext, List.count_append, count_lf_units, ih, List.length_cons, Nat.add_comm]

theorem cutShort_of_count :
    (marks.filter fun marked => !hasAudioLevel marked.1.1).length ≤
        (marks.flatMap audioLevelUnits).count sdpEnds.lf ∧
      ((marks.flatMap audioLevelUnits).count sdpEnds.lf =
          (marks.filter fun marked => !hasAudioLevel marked.1.1).length →
        ∀ marked ∈ marks, hasAudioLevel marked.1.1 = true →
          marked.2 = true ∧ CutShort marked.1.1.val (audioLevelUnits marked)) := by
  induction marks with
  | nil => exact ⟨Nat.le_refl _, fun _ marked hmarked => absurd hmarked List.not_mem_nil⟩
  | cons marked marks ih =>
      obtain ⟨hle, hcut⟩ := ih
      rw [List.flatMap_cons, List.count_append, List.filter_cons, List.forall_mem_cons]
      cases haudio : hasAudioLevel marked.1.1 with
      | false =>
          rw [audioLevelUnits_of_not haudio, count_lf_units, Bool.not_false, if_pos rfl,
            List.length_cons]
          refine ⟨by omega, fun hcount => ⟨fun h => Bool.noConfusion h, hcut (by omega)⟩⟩
      | true =>
          rw [Bool.not_true, if_neg Bool.false_ne_true]
          refine ⟨by omega, fun hcount => ⟨fun _ => ?_, hcut (by omega)⟩⟩
          rcases audioLevelUnits_cases marked with hunits | hshort
          · rw [hunits, count_lf_units] at hcount
            omega
          · exact hshort

/-- How many line terminators that do not end a line a text has. -/
def terminators (text : List UInt16) : ℕ := text.countP isLineTerminator

theorem terminators_withCbr (line : SDPLine) :
    terminators (withCbr line).val = terminators line.val := by
  have hnone : terminators cbrParameter = 0 := by decide
  rw [withCbr, terminators, List.countP_append]
  exact congrArg (_ + ·) hnone

theorem terminators_cbrLine (marked : EndedLine × Bool) :
    terminators (cbrLine marked).1.val = terminators (hardenedLine marked.1.1).val := by
  have hsame := terminators_withCbr marked.1.1
  unfold cbrLine hardenedLine
  split
  · split
    · rfl
    · exact hsame
  · split
    · exact hsame.symm
    · rfl

theorem eq_nil_of_terminators {text : List UInt16} (hnone : terminators text = 0)
    (hterminator : text ≠ [] → ∃ c ∈ text, isLineTerminator c = true) : text = [] := by
  by_contra hne
  obtain ⟨c, hc, hc'⟩ := hterminator hne
  exact List.countP_eq_zero.mp hnone c hc hc'

theorem terminator_append {first second : List UInt16}
    (hfirst : first ≠ [] → ∃ c ∈ first, isLineTerminator c = true)
    (hsecond : second ≠ [] → ∃ c ∈ second, isLineTerminator c = true)
    (hne : first ++ second ≠ []) : ∃ c ∈ first ++ second, isLineTerminator c = true := by
  by_cases hnil : first = []
  · subst hnil
    exact hsecond hne
  · obtain ⟨c, hc, hterminator⟩ := hfirst hnil
    exact ⟨c, List.mem_append_left _ hc, hterminator⟩

/-- **Line by line**: if a text has the lines as they are to be, then each line that names the
extension was taken from its start on, and every other is what it is to be. `before` is what is
left of lines that were cut short, before the first of the lines; the induction shows that it is
nothing. -/
theorem lines_of_text {range : ℕ} {before : List UInt16} {hardened : List EndedLine}
    (hbefore : sdpEnds.IsLine before)
    (hterminator : before ≠ [] → ∃ c ∈ before, isLineTerminator c = true)
    (hcut : ∀ marked ∈ LineEnds.withinRange range (marks.map cbrLine),
      hasAudioLevel marked.1.1 = true →
        marked.2 = true ∧ CutShort marked.1.1.val (audioLevelUnits marked))
    (htext : before ++ (LineEnds.withinRange range (marks.map cbrLine)).flatMap audioLevelUnits =
      sdpEnds.text hardened)
    (hlines : hardened.map Prod.fst = hardenedLines (marks.map fun marked => marked.1.1)) :
    before = [] ∧
      (∀ marked ∈ LineEnds.withinRange range (marks.map cbrLine),
        hasAudioLevel marked.1.1 = true →
          marked.2 = true ∧ audioLevelStarts marked.1.1.val = true) ∧
      ∀ marked ∈ marks, hasAudioLevel marked.1.1 = false →
        (cbrLine marked).1 = hardenedLine marked.1.1 := by
  induction marks generalizing range before hardened with
  | nil =>
      obtain rfl := List.map_eq_nil_iff.mp hlines
      refine ⟨(List.append_eq_nil_iff.mp htext).1, ?_, ?_⟩
      · exact fun marked hmarked => absurd hmarked List.not_mem_nil
      · exact fun marked hmarked => absurd hmarked List.not_mem_nil
  | cons marked marks ih =>
      rw [List.map_cons, LineEnds.withinRange, List.forall_mem_cons] at hcut ⊢
      rw [List.map_cons, LineEnds.withinRange, List.flatMap_cons] at htext
      rw [List.forall_mem_cons]
      obtain ⟨hfirst, hcut⟩ := hcut
      rw [hasAudioLevel_cbrLine] at hfirst ⊢
      cases haudio : hasAudioLevel marked.1.1 with
      | true =>
          obtain ⟨hwithin, hshort⟩ := hfirst haudio
          rw [← List.append_assoc] at htext
          have hlines : hardened.map Prod.fst = hardenedLines (marks.map fun m => m.1.1) := by
            rw [hlines, hardenedLines, List.map_cons, List.filter_cons, haudio]
            rfl
          -- What is left of the line stands before the next one, and nothing must be.
          obtain ⟨hnil, hstarts, hothers⟩ := ih (hbefore.append hshort.isLine)
            (terminator_append hterminator hshort.terminator) hcut htext hlines
          obtain ⟨hnil, hshortnil⟩ := List.append_eq_nil_iff.mp hnil
          exact ⟨hnil, ⟨fun _ => ⟨hwithin, hshort.starts hshortnil⟩, hstarts⟩,
            fun h => Bool.noConfusion h, hothers⟩
      | false =>
          rw [hardenedLines, List.map_cons, List.filter_cons, haudio, Bool.not_false, if_pos rfl,
            List.map_cons] at hlines
          obtain ⟨line, hardened, rfl, hline, hlines⟩ := List.map_eq_cons_iff.mp hlines
          rw [audioLevelUnits_of_not ((hasAudioLevel_cbrLine marked).trans haudio),
            LineEnds.units, ← List.append_assoc, ← List.append_assoc, List.append_assoc,
            LineEnds.text_cons] at htext
          obtain ⟨hsame, -, htext⟩ := LineEnds.line_append_inj
            (hbefore.append (cbrLine marked).1.property) line.1.property htext
          obtain ⟨-, hstarts, hothers⟩ := ih LineEnds.isLine_nil
            (fun hne => absurd rfl hne) hcut htext hlines
          -- What stood before would have a terminator more than the line is to have.
          have hnil : before = [] := by
            refine eq_nil_of_terminators ?_ hterminator
            have hcount := congrArg terminators hsame
            rw [hline, ← terminators_cbrLine, terminators, List.countP_append] at hcount
            exact Nat.add_eq_right.mp hcount
          rw [hnil, List.nil_append, hline] at hsame
          exact ⟨hnil, ⟨fun h => Bool.noConfusion h, hstarts⟩,
            fun _ => Subtype.ext hsame, hothers⟩

theorem length_filter_withinRange (range : ℕ) (lines : List EndedLine) :
    ((LineEnds.withinRange range (afterCbr count lines)).filter
        fun marked => !hasAudioLevel marked.1.1).length =
      (hardenedLines (lines.map Prod.fst)).length := by
  have hbefore := map_fst_withinRange (count (sdpEnds.text lines)) lines
  have hafter := map_fst_withinRange range (afterCbr count lines)
  rw [hardenedLines, List.length_map, ← List.countP_eq_length_filter,
    ← List.countP_eq_length_filter]
  conv_rhs => rw [← hbefore, List.map_map, List.countP_map]
  have hmap := List.countP_map (p := fun line : EndedLine => !hasAudioLevel line.1)
    (f := Prod.fst) (l := LineEnds.withinRange range (afterCbr count lines))
  rw [hafter, afterCbr, List.countP_map] at hmap
  refine hmap.symm.trans (List.countP_congr fun marked _ => ?_)
  simp only [Function.comp_apply, hasAudioLevel_cbrLine]

/-- **What is hardened was reached.** -/
theorem reaches_of_hardens (type : RTCSdpType)
    (hhardens : Hardens count ⟨type, sdpEnds.text lines⟩ (lines.map Prod.fst)) :
    Reaches count lines := by
  obtain ⟨⟨hardened, hharden, hlines⟩, hagain⟩ := hhardens
  have htext := (sdp_harden count type lines).symm.trans
    (congrArg RTCSessionDescription.sdp hharden)
  have hcount := congrArg (List.count sdpEnds.lf) htext
  rw [count_lf_text, ← List.length_map (f := Prod.fst), hlines,
    ← length_filter_withinRange (count (sdpEnds.text (afterCbr count lines)))] at hcount
  have hmarks := congrArg (List.map Prod.fst)
    (map_fst_withinRange (count (sdpEnds.text lines)) lines)
  rw [List.map_map] at hmarks
  rw [← hmarks] at hlines
  obtain ⟨-, hstripped, hothers⟩ := lines_of_text
    LineEnds.isLine_nil (fun hne => absurd rfl hne)
    (cutShort_of_count.2 hcount) htext hlines
  refine ⟨hstripped, fun marked hmarked haudio =>
    (fst_cbrLine_eq_iff marked).mp (hothers marked hmarked haudio), ?_⟩
  rw [harden_eq_of_stripped hstripped, harden_keptLines] at hagain
  exact (afterCbr_eq_iff _).mp
    (LineEnds.text_injective (congrArg RTCSessionDescription.sdp hagain))

/-- **Every line is hardened**, and hardening again changes nothing, if and only if the ranges
reach the lines that are to change and the patterns match these and no others. -/
theorem harden_iff (count : List UInt16 → ℕ) (type : RTCSdpType) (lines : List SDPLine)
    (ending : LineEnding) :
    Hardens count (describe type lines ending) lines ↔
      Reaches count (lines.map fun line => (line, ending)) := by
  have hlines : (lines.map fun line => (line, ending)).map Prod.fst = lines := by
    rw [List.map_map]
    exact List.map_id lines
  constructor
  · intro hhardens
    refine reaches_of_hardens type ?_
    rw [hlines]
    exact hhardens
  · intro hreaches
    have hhardens := hardens_of_reaches hreaches type
    rwa [hlines] at hhardens

/-! ## A description -/

/-- How many characters an ASCII text has: CR LF is one. -/
def asciiCount : List UInt16 → ℕ
  | [] => 0
  | c :: text => (if c = 0x0D ∧ text.head? = some 0x0A then 0 else 1) + asciiCount text

def versionLine : SDPLine := ⟨utf16 "v=0", isLine_of_plain (plain_iff.mpr (by decide))⟩

/-- The parameters of the payload type. -/
def fmtpLine : SDPLine :=
  ⟨utf16 "a=fmtp:111 minptime=10", isLine_of_plain (plain_iff.mpr (by decide))⟩

theorem lacksCbr_fmtpLine : LacksCbr fmtpLine := by
  refine ⟨by decide, fun hword => ?_⟩
  have hmem : 0x63 ∈ fmtpLine.val := hword.subset (by decide)
  exact absurd hmem (by decide)

/-- **The last line of a CR LF text is not reached.** -/
theorem last_line_not_reached :
    ¬Hardens asciiCount (describe .offer [versionLine, fmtpLine] .crlf)
      [versionLine, fmtpLine] := by
  intro hhardens
  have hreaches : Reaches asciiCount [(versionLine, .crlf), (fmtpLine, .crlf)] :=
    reaches_of_hardens .offer hhardens
  have hlast := hreaches.extended _ (List.mem_cons_of_mem _ List.mem_cons_self) (by decide)
  have hwithin := (hlast.mpr lacksCbr_fmtpLine).1
  exact absurd hwithin (by decide)

end ObjcSwiftLearning.Signal
