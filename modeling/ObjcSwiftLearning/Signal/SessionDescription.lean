import ObjcSwiftLearning.Library.Lines

/-!
# Hardened session descriptions

Before a session description is used its audio is set to a constant bit rate and the extension that
tells the audio level is taken out: two regular expressions, replaced in the first `count` UTF-16
units, where `count` is the number of characters.

* `HardenedRTCSessionDescription.harden` — with the two patterns.
* `cbrPattern`, `audioLevelPattern` — what they match within a line.
* `mem_outcomes_audioLevel` — a match with the name after at least one character.
-/

namespace ObjcSwiftLearning.Signal

open Patterns

/-! ## Characters -/

def utf16 (word : String) : List UInt16 := word.toList.map fun c => UInt16.ofNat c.toNat

/-- What `.` does not match. -/
def isLineTerminator (c : UInt16) : Bool :=
  c ∈ ([0x0A, 0x0B, 0x0C, 0x0D, 0x85, 0x2028, 0x2029] : List UInt16)

/-- The folding of case, of the characters that fold to letters of the patterns: capitals, and the
long and the sharp S. -/
def caseFold (c : UInt16) : List UInt16 :=
  if 0x41 ≤ c ∧ c ≤ 0x5A then [c + 0x20]
  else if c = 0x17F then [0x73]
  else if c = 0xDF ∨ c = 0x1E9E then [0x73, 0x73]
  else [c]

/-- CR and LF. -/
def sdpEnds : LineEnds UInt16 where
  cr := 0x0D
  lf := 0x0A
  cr_ne_lf := by decide

/-! ## `HardenedRTCSessionDescription` -/

inductive RTCSdpType where
  | offer
  | prAnswer
  | answer
  deriving DecidableEq

structure RTCSessionDescription where
  type : RTCSdpType
  sdp : List UInt16
  deriving DecidableEq

/-- `a=fmtp:111` and a space. -/
def fmtpWord : List UInt16 := utf16 "a=fmtp:111 "

def cbrWord : List UInt16 := utf16 "cbr="

def cbrParameter : List UInt16 := utf16 ";cbr=1"

/-- The name of the extension. -/
def audioLevelWord : List UInt16 := utf16 "urn:ietf:params:rtp-hdrext:ssrc-audio-level"

def dot : Pattern UInt16 := .char fun c => !isLineTerminator c

/-- `(a=fmtp:111 ((?!cbr=).)*)\r?\n`, replaced by `$1;cbr=1\r\n`. -/
def cbrRegex : Replacement UInt16 where
  group := .append (.word fmtpWord) (.star (.append (.notAhead (.word cbrWord)) dot))
  after := sdpEnds.newline
  template group := group ++ (cbrParameter ++ [0x0D, 0x0A])

/-- `.+urn:ietf:params:rtp-hdrext:ssrc-audio-level.*\r?\n`, replaced by nothing. -/
def audioLevelRegex : Replacement UInt16 where
  group := .append (.append dot (.star dot)) (.append (.word audioLevelWord) (.star dot))
  after := sdpEnds.newline
  template _ := []

def harden (count : List UInt16 → ℕ) (rtcSessionDescription : RTCSessionDescription) :
    RTCSessionDescription :=
  let description := rtcSessionDescription.sdp
  let description := cbrRegex.replaceRange caseFold (count description) description
  let description := audioLevelRegex.replaceRange caseFold (count description) description
  { type := rtcSessionDescription.type, sdp := description }

/-! ## What the patterns match -/

/-- Characters that `.` matches. -/
def Plain (text : List UInt16) : Prop := ∀ c ∈ text, isLineTerminator c = false

theorem isLine_of_plain {text : List UInt16} (hplain : Plain text) : sdpEnds.IsLine text where
  cr_notMem hmem := Bool.noConfusion (hplain _ hmem)
  lf_notMem hmem := Bool.noConfusion (hplain _ hmem)

theorem Plain.append {first second : List UInt16} (hfirst : Plain first)
    (hsecond : Plain second) : Plain (first ++ second) := by
  intro c hc
  exact (List.mem_append.mp hc).elim (hfirst c) (hsecond c)

theorem caseFold_of_isLineTerminator {c : UInt16} (hc : isLineTerminator c = true) :
    caseFold c = [c] := by
  rw [isLineTerminator, decide_eq_true_eq] at hc
  simp only [List.mem_cons, List.not_mem_nil, or_false] at hc
  rcases hc with rfl | rfl | rfl | rfl | rfl | rfl | rfl
  · rfl
  · rfl
  · rfl
  · rfl
  · rfl
  · rfl
  · rfl

/-- A word without a line terminator does not take one. -/
theorem plain_of_strip {word text rest : List UInt16} (hword : Plain word)
    (hstrip : strip caseFold text word = some rest) :
    ∃ taken, text = taken ++ rest ∧ Plain taken := by
  obtain ⟨taken, htext, rfl⟩ := eq_append_of_strip hstrip
  refine ⟨taken, htext, fun c hc => ?_⟩
  by_contra hterminator
  rw [Bool.not_eq_false] at hterminator
  have hfold := caseFold_of_isLineTerminator hterminator
  have hplain := hword c (List.mem_flatMap.mpr ⟨c, hc, hfold ▸ List.mem_cons_self⟩)
  rw [hterminator] at hplain
  cases hplain

theorem strip_append_ending {word : List UInt16} (hword : Plain word) (text : List UInt16)
    (ending : LineEnding) (rest : List UInt16) :
    strip caseFold (text ++ (sdpEnds.ending ending ++ rest)) word =
      (strip caseFold text word).map (· ++ (sdpEnds.ending ending ++ rest)) := by
  cases ending with
  | crlf | lf => exact strip_append rfl fun hmem => Bool.noConfusion (hword _ hmem)

theorem plain_iff {text : List UInt16} :
    Plain text ↔ text.all (fun c => !isLineTerminator c) = true := by
  rw [List.all_eq_true]
  simp only [Bool.not_eq_true', Plain]

theorem plain_fmtpWord : Plain fmtpWord := plain_iff.mpr (by decide)

theorem plain_cbrWord : Plain cbrWord := plain_iff.mpr (by decide)

theorem plain_audioLevelWord : Plain audioLevelWord := plain_iff.mpr (by decide)

theorem mem_outcomes_dot (text rest : List UInt16) :
    rest ∈ dot.outcomes caseFold text ↔
      (∃ c, text = c :: rest) ∧ ∃ c ∈ text.head?, isLineTerminator c = false := by
  rw [dot, Pattern.mem_outcomes_char]
  constructor
  · rintro ⟨c, rfl, hc⟩
    exact ⟨⟨c, rfl⟩, c, rfl, (Bool.not_eq_true' _).mp hc⟩
  · rintro ⟨⟨c, rfl⟩, d, hd, hplain⟩
    obtain rfl := Option.some.inj hd
    exact ⟨c, rfl, (Bool.not_eq_true' _).mpr hplain⟩

/-- A run of characters of which each starts a text that begins with a plain character. -/
theorem plain_of_takes {may : List UInt16 → Prop}
    (hmay : ∀ text, may text → ∃ c ∈ text.head?, isLineTerminator c = false)
    {run rest : List UInt16} (htakes : Pattern.Takes may run rest) : Plain run := by
  induction run with
  | nil => exact fun c hc => absurd hc List.not_mem_nil
  | cons c run ih =>
      obtain ⟨d, hd, hplain⟩ := hmay _ htakes.1
      exact List.forall_mem_cons.mpr ⟨Option.some.inj hd ▸ hplain, ih htakes.2⟩

/-- `.*` takes a run of characters. -/
theorem mem_outcomes_dots {text rest : List UInt16} :
    rest ∈ (Pattern.star dot).outcomes caseFold text ↔ ∃ run, text = run ++ rest ∧ Plain run := by
  rw [Pattern.mem_outcomes_star mem_outcomes_dot]
  refine exists_congr fun run => and_congr_right fun _ => ⟨plain_of_takes fun _ h => h, ?_⟩
  clear * -
  intro hplain
  induction run with
  | nil => exact trivial
  | cons c run ih =>
      obtain ⟨hc, hrun⟩ := List.forall_mem_cons.mp hplain
      exact ⟨⟨c, rfl, hc⟩, ih hrun⟩

/-- A step of `((?!cbr=).)*` takes a character at which no `cbr=` starts. -/
theorem mem_outcomes_notAhead_dot (text rest : List UInt16) :
    rest ∈ (Pattern.append (.notAhead (.word cbrWord)) dot).outcomes caseFold text ↔
      (∃ c, text = c :: rest) ∧
        (∃ c ∈ text.head?, isLineTerminator c = false) ∧ strip caseFold text cbrWord = none := by
  rw [Pattern.mem_outcomes_append]
  constructor
  · rintro ⟨middle, hmiddle, hrest⟩
    obtain ⟨rfl, hnone⟩ := Pattern.mem_outcomes_notAhead.mp hmiddle
    obtain ⟨hcons, hplain⟩ := (mem_outcomes_dot _ _).mp hrest
    exact ⟨hcons, hplain, hnone⟩
  · rintro ⟨hcons, hplain, hnone⟩
    exact ⟨text, Pattern.mem_outcomes_notAhead.mpr ⟨rfl, hnone⟩,
      (mem_outcomes_dot _ _).mpr ⟨hcons, hplain⟩⟩

/-- The run of `((?!cbr=).)*` before the end of a line has no `cbr=`. -/
theorem takes_notAhead_iff (run : List UInt16) (ending : LineEnding) (rest : List UInt16) :
    Pattern.Takes (fun text => (∃ c ∈ text.head?, isLineTerminator c = false) ∧
        strip caseFold text cbrWord = none) run (sdpEnds.ending ending ++ rest) ↔
      Plain run ∧ hasWord caseFold cbrWord run = false := by
  induction run with
  | nil =>
      exact iff_of_true trivial ⟨fun c hc => absurd hc List.not_mem_nil, rfl⟩
  | cons c run ih =>
      have hstrip := strip_append_ending plain_cbrWord (c :: run) ending rest
      rw [List.cons_append] at hstrip
      rw [Pattern.Takes, ih, hstrip, Option.map_eq_none_iff, hasWord, Bool.or_eq_false_iff, Plain,
        Plain, List.forall_mem_cons, Option.isSome_eq_false_iff, Option.isNone_iff_eq_none]
      constructor
      · rintro ⟨⟨⟨d, hd, hplain⟩, hnone⟩, hrun, hword⟩
        exact ⟨⟨Option.some.inj hd ▸ hplain, hrun⟩, hnone, hword⟩
      · rintro ⟨⟨hplain, hrun⟩, hnone, hword⟩
        exact ⟨⟨⟨c, rfl, hplain⟩, hnone⟩, hrun, hword⟩

/-- `a=fmtp:111 `, and then no `cbr=` up to the end of the line. -/
def cbrStarts (line : List UInt16) : Bool :=
  match strip caseFold line fmtpWord with
  | none => false
  | some rest =>
      rest.all (fun c => !isLineTerminator c) && !hasWord caseFold cbrWord rest

/-- What `cbrRegex` matches within a line. -/
def cbrPattern : LinePattern sdpEnds caseFold where
  group := cbrRegex.group
  template := cbrRegex.template
  starts := cbrStarts
  starts_nil := rfl
  mem_outcomes {line} hline ending rest := by
    unfold cbrRegex cbrStarts
    rw [Pattern.mem_outcomes_append]
    simp only [Pattern.mem_outcomes_word, Pattern.mem_outcomes_star mem_outcomes_notAhead_dot,
      strip_append_ending plain_fmtpWord]
    cases strip caseFold line fmtpWord with
    | none =>
        refine iff_of_false ?_ Bool.false_ne_true
        rintro ⟨_, ⟨⟩, -⟩
    | some after =>
        rw [Bool.and_eq_true, ← plain_iff, Bool.not_eq_true',
          ← takes_notAhead_iff after ending rest]
        constructor
        · rintro ⟨_, hafter, run, hrun, htakes⟩
          rw [← Option.some.inj hafter] at hrun
          rwa [List.append_cancel_right hrun]
        · exact fun htakes => ⟨_, rfl, after, rfl, htakes⟩
  taken {text rest} hmem := by
    unfold cbrRegex at hmem
    obtain ⟨middle, hmiddle, hrest⟩ := Pattern.mem_outcomes_append.mp hmem
    obtain ⟨taken, rfl, htaken⟩ :=
      plain_of_strip plain_fmtpWord (Pattern.mem_outcomes_word.mp hmiddle)
    obtain ⟨run, rfl, htakes⟩ :=
      (Pattern.mem_outcomes_star mem_outcomes_notAhead_dot).mp hrest
    have hrun := plain_of_takes (fun _ hmay => hmay.1) htakes
    exact ⟨taken ++ run, (List.append_assoc _ _ _).symm, isLine_of_plain (htaken.append hrun)⟩

/-- A line of characters that `.` matches, with the name after the first of them. -/
def audioLevelStarts (line : List UInt16) : Bool :=
  line.all (fun c => !isLineTerminator c) && hasWord caseFold audioLevelWord line.tail

/-- What is left after `.+urn:ietf:params:rtp-hdrext:ssrc-audio-level.*`. -/
theorem mem_outcomes_audioLevel {text rest : List UInt16} :
    rest ∈ audioLevelRegex.group.outcomes caseFold text ↔
      ∃ c before named after, text = c :: (before ++ named) ∧ Plain (c :: before) ∧
        strip caseFold named audioLevelWord = some (after ++ rest) ∧ Plain after := by
  unfold audioLevelRegex
  simp only [Pattern.mem_outcomes_append, Pattern.mem_outcomes_word, mem_outcomes_dots,
    mem_outcomes_dot]
  constructor
  · rintro ⟨named, ⟨_, ⟨⟨c, rfl⟩, d, hd, hc⟩, before, rfl, hbefore⟩, _, hstrip, after, rfl, hafter⟩
    obtain rfl := Option.some.inj hd
    exact ⟨c, before, named, after, rfl, List.forall_mem_cons.mpr ⟨hc, hbefore⟩, hstrip, hafter⟩
  · rintro ⟨c, before, named, after, rfl, hplain, hstrip, hafter⟩
    obtain ⟨hc, hbefore⟩ := List.forall_mem_cons.mp hplain
    exact ⟨named, ⟨_, ⟨⟨c, rfl⟩, c, rfl, hc⟩, before, rfl, hbefore⟩, _, hstrip, after, rfl, hafter⟩

/-- What `audioLevelRegex` matches within a line. -/
def audioLevelPattern : LinePattern sdpEnds caseFold where
  group := audioLevelRegex.group
  template := audioLevelRegex.template
  starts := audioLevelStarts
  starts_nil := rfl
  mem_outcomes {line} hline ending rest := by
    rw [mem_outcomes_audioLevel, audioLevelStarts, Bool.and_eq_true, ← plain_iff,
      hasWord_eq_true_iff]
    constructor
    · rintro ⟨c, before, named, after, htext, hplain, hstrip, hafter⟩
      obtain ⟨taken, rfl, htaken⟩ := plain_of_strip plain_audioLevelWord hstrip
      have hline : line = c :: (before ++ (taken ++ after)) := by
        refine List.append_cancel_right (htext.trans ?_)
        simp only [List.cons_append, List.append_assoc]
      rw [← List.append_assoc taken after, strip_append_ending plain_audioLevelWord] at hstrip
      obtain ⟨left, hleft, -⟩ := Option.map_eq_some_iff.mp hstrip
      rw [hline]
      refine ⟨?_, before, taken ++ after, rfl, ?_⟩
      · exact hplain.append (htaken.append hafter)
      · rw [hleft]
        rfl
    · rintro ⟨hplain, before, named, htail, hnamed⟩
      obtain ⟨after, hafter⟩ := Option.isSome_iff_exists.mp hnamed
      cases line with
      | nil =>
          obtain ⟨rfl, rfl⟩ := List.append_eq_nil_iff.mp htail.symm
          cases hnamed
      | cons c line =>
          obtain rfl : line = before ++ named := htail
          obtain ⟨taken, rfl, -⟩ := plain_of_strip plain_audioLevelWord hafter
          obtain ⟨hc, hline⟩ := List.forall_mem_cons.mp hplain
          refine ⟨c, before, taken ++ after ++ (sdpEnds.ending ending ++ rest), after, ?_,
            List.forall_mem_cons.mpr ⟨hc, fun d hd => hline d (List.mem_append_left _ hd)⟩, ?_,
            fun d hd => hline d (List.mem_append_right _ (List.mem_append_right _ hd))⟩
          · simp only [List.cons_append, List.append_assoc]
          · rw [strip_append_ending plain_audioLevelWord, hafter, Option.map_some]
  taken {text rest} hmem := by
    obtain ⟨c, before, named, after, rfl, hplain, hstrip, hafter⟩ :=
      mem_outcomes_audioLevel.mp hmem
    obtain ⟨taken, rfl, htaken⟩ := plain_of_strip plain_audioLevelWord hstrip
    refine ⟨c :: before ++ (taken ++ after), ?_,
      isLine_of_plain (hplain.append (htaken.append hafter))⟩
    simp only [List.cons_append, List.append_assoc]

end ObjcSwiftLearning.Signal
