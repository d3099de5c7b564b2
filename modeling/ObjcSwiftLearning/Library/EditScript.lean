import Mathlib.Data.List.Basic
import Mathlib.Data.List.Count
import Mathlib.Tactic.Common

/-!
# Weighted edit scripts without substitutions

A target is made of a source by deleting and inserting letters, each at its weight; where both
end in one letter, it is kept.  A cursor in the source is carried into the target along the
script, from the ends of both.  So texts are lists of letters, last letter first, and what lies
before a cursor is a suffix of such a list.

* `score`, `move` — the score of a script, and its last move.
* `arrive`, `leave` — where the cursor is in the target when the script reaches a place of the
  source, before and after the insertions there.
* `arrive_isSuffix_leave` — **cursors do not cross**.
* `length_arrive_self`, `length_leave_self` — from a text to itself the cursor stays where it is.
* `Aligned.arrive`, `Aligned.leave` — **heavy letters stay aligned** where the others, together,
  are no more than one of them weighs.
-/

namespace EditScript

/-- A step of a script: delete, keep or insert a letter. -/
inductive Move
  | deletion
  | keeping
  | insertion
  deriving DecidableEq

/-! ## Heavy letters -/

section Letters

variable {α : Type} {p : α → Bool} {a b : α} {source target : List α}

/-- Letters that satisfy `p` weigh `heavy`, the others one. -/
def weigh (p : α → Bool) (heavy : ℕ) (a : α) : ℕ := if p a then heavy else 1

/-- The letters that are not heavy. -/
def light (p : α → Bool) (text : List α) : ℕ := text.countP fun a => !p a

/-- The heavy letters of the two texts are the same, in order. -/
def Aligned (p : α → Bool) (source target : List α) : Prop := source.filter p = target.filter p

theorem light_cons_of_pos (h : p a = true) : light p (a :: source) = light p source := by
  simp [light, h]

theorem light_cons_of_neg (h : p a = false) : light p (a :: source) = light p source + 1 := by
  simp [light, h]

theorem light_isSuffix (h : target <:+ source) : light p target ≤ light p source :=
  h.sublist.countP_le

theorem Aligned.left_of_neg (h : Aligned p (a :: source) target) (ha : p a = false) :
    Aligned p source target := by
  rwa [Aligned, List.filter_cons_of_neg (by simp [ha])] at h

theorem Aligned.right_of_neg (h : Aligned p source (b :: target)) (hb : p b = false) :
    Aligned p source target := by
  rwa [Aligned, List.filter_cons_of_neg (a := b) (by simp [hb])] at h

theorem Aligned.tails (h : Aligned p (a :: source) (a :: target)) : Aligned p source target := by
  cases ha : p a with
  | false => exact (h.left_of_neg ha).right_of_neg ha
  | true =>
      rw [Aligned, List.filter_cons_of_pos ha, List.filter_cons_of_pos ha] at h
      exact (List.cons_inj_right a).mp h

theorem Aligned.eq_of_pos (h : Aligned p (a :: source) (b :: target)) (ha : p a = true)
    (hb : p b = true) : a = b := by
  rw [Aligned, List.filter_cons_of_pos ha, List.filter_cons_of_pos hb] at h
  exact (List.cons.inj h).1

/-- Where aligned texts end differently, one of the ends is light. -/
theorem Aligned.light_of_ne (h : Aligned p (a :: source) (b :: target)) (hne : a ≠ b) :
    p a = false ∨ p b = false := by
  cases ha : p a with
  | false => exact .inl rfl
  | true =>
      cases hb : p b with
      | false => exact .inr rfl
      | true => exact absurd (h.eq_of_pos ha hb) hne

theorem length_eq_light_of_filter (h : source.filter p = []) : light p source = source.length := by
  refine List.countP_eq_length.mpr fun b hb => ?_
  simpa using List.filter_eq_nil_iff.mp h b hb

end Letters

/-! ## Scripts -/

variable {α : Type} [DecidableEq α] (weight : α → ℕ)

/-- The score of a script.  What remains when one text is used up does not count by weight. -/
def score : List α → List α → ℕ
  | [], target => target.length
  | _ :: source, [] => source.length + 1
  | a :: source, b :: target =>
      if a = b then score source target
      else if score source (b :: target) + weight a < score (a :: source) target + weight b then
        score source (b :: target) + weight a
      else score (a :: source) target + weight b
  termination_by source target => source.length + target.length

/-- The last move of a script; a tie goes to the insertion. -/
def move : List α → List α → Move
  | [], [] => .keeping
  | [], _ :: _ => .insertion
  | _ :: _, [] => .deletion
  | a :: source, b :: target =>
      if a = b then .keeping
      else if score weight source (b :: target) + weight a <
          score weight (a :: source) target + weight b then .deletion
      else .insertion

/-- The insertions at the end of a script undone. -/
def zip (source : List α) : List α → List α
  | [] => []
  | b :: target => if move weight source (b :: target) = .insertion then zip source target
      else b :: target

/-- The end of a script undone up to the letter before in the source. -/
def next (source target : List α) : List α :=
  if move weight source (zip weight source target) = .keeping then
    (zip weight source target).tail
  else zip weight source target

/-- Where the cursor comes to in the target at `offset` in the source. -/
def arrive (offset : ℕ) : List α → List α → List α
  | [], target => target
  | a :: source, target =>
      if source.length + 1 ≤ offset then target
      else arrive offset source (next weight (a :: source) target)

/-- Where it is once the insertions there are undone. -/
def leave (offset : ℕ) (source target : List α) : List α :=
  zip weight (source.drop (source.length - offset)) (arrive weight offset source target)

variable {weight} {offset offset' : ℕ} {a b : α} {source target : List α}

/-- Where the ends differ, one of them is deleted or inserted. -/
theorem score_cons_of_ne (hne : a ≠ b) :
    score weight (a :: source) (b :: target) =
      min (score weight source (b :: target) + weight a)
        (score weight (a :: source) target + weight b) := by
  rw [score, if_neg hne]
  split
  · omega
  · omega

theorem move_cons_of_ne_of_lt (hne : a ≠ b) (hlt : score weight source (b :: target) + weight a <
    score weight (a :: source) target + weight b) :
    move weight (a :: source) (b :: target) = .deletion := by
  rw [move, if_neg hne, if_pos hlt]

theorem move_cons_of_ne_of_le (hne : a ≠ b) (hle : score weight (a :: source) target + weight b ≤
    score weight source (b :: target) + weight a) :
    move weight (a :: source) (b :: target) = .insertion := by
  rw [move, if_neg hne, if_neg (by omega)]

/-- Only a letter at both ends is kept. -/
theorem eq_of_move_eq_keeping (h : move weight (a :: source) (b :: target) = .keeping) :
    a = b := by
  by_contra hne
  rw [move, if_neg hne] at h
  split at h
  · cases h
  · cases h

/-! ## Where the cursor can be -/

theorem zip_isSuffix (source target : List α) : zip weight source target <:+ target := by
  induction target with
  | nil => exact List.suffix_rfl
  | cons b target ih =>
      rw [zip]
      split
      · exact ih.trans (List.suffix_cons b target)
      · exact List.suffix_rfl

theorem move_zip_ne_insertion (source target : List α) :
    move weight source (zip weight source target) ≠ .insertion := by
  induction target with
  | nil =>
      cases source with
      | nil => simp [zip, move]
      | cons a source => simp [zip, move]
  | cons b target ih =>
      rw [zip]
      split
      · exact ih
      · assumption

theorem next_isSuffix_zip (source target : List α) :
    next weight source target <:+ zip weight source target := by
  rw [next]
  split
  · exact List.tail_suffix _
  · exact List.suffix_rfl

theorem next_isSuffix (source target : List α) : next weight source target <:+ target :=
  (next_isSuffix_zip source target).trans (zip_isSuffix source target)

theorem arrive_isSuffix (source target : List α) :
    arrive weight offset source target <:+ target := by
  induction source generalizing target with
  | nil => exact List.suffix_rfl
  | cons a source ih =>
      rw [arrive]
      split
      · exact List.suffix_rfl
      · exact (ih _).trans (next_isSuffix _ _)

/-- Insertions are undone after the cursor has come. -/
theorem leave_isSuffix_arrive (source target : List α) :
    leave weight offset source target <:+ arrive weight offset source target :=
  zip_isSuffix _ _

theorem leave_cons_of_le (hle : source.length + 1 ≤ offset) :
    leave weight offset (a :: source) target = zip weight (a :: source) target := by
  rw [leave, arrive, if_pos hle, List.length_cons, Nat.sub_eq_zero_of_le hle, List.drop_zero]

theorem leave_cons_of_gt (hlt : offset < source.length + 1) :
    leave weight offset (a :: source) target =
      leave weight offset source (next weight (a :: source) target) := by
  rw [leave, arrive, if_neg (by omega), List.length_cons, Nat.succ_sub (by omega),
    List.drop_succ_cons, leave]

/-- **Cursors do not cross.**  The cursor comes to an earlier place from where it left the later
one. -/
theorem arrive_isSuffix_leave (hlt : offset < offset') (hle : offset' ≤ source.length)
    (target : List α) :
    arrive weight offset source target <:+ leave weight offset' source target := by
  induction source generalizing target with
  | nil => simp only [List.length_nil] at hle; omega
  | cons a source ih =>
      rw [List.length_cons] at hle
      rw [arrive, if_neg (by omega)]
      rcases Nat.lt_or_ge source.length offset' with hlast | hbefore
      · rw [leave_cons_of_le hlast]
        exact (arrive_isSuffix _ _).trans (next_isSuffix_zip _ _)
      · rw [leave_cons_of_gt (by omega)]
        exact ih hbefore _

/-! ## From a text to itself -/

theorem zip_self (source : List α) : zip weight source source = source := by
  cases source with
  | nil => rfl
  | cons a source => simp [zip, move]

theorem next_self (a : α) (source : List α) :
    next weight (a :: source) (a :: source) = source := by
  rw [next, zip_self]
  simp [move]

/-- **From a text to itself the cursor stays where it is.** -/
theorem length_arrive_self (hle : offset ≤ source.length) :
    (arrive weight offset source source).length = offset := by
  induction source with
  | nil =>
      rw [List.length_nil] at hle
      rw [arrive, List.length_nil]
      omega
  | cons a source ih =>
      rw [List.length_cons] at hle
      rw [arrive]
      split
      · rw [List.length_cons]
        omega
      · rw [next_self]
        exact ih (by omega)

theorem length_leave_self (hle : offset ≤ source.length) :
    (leave weight offset source source).length = offset := by
  induction source with
  | nil =>
      rw [List.length_nil] at hle
      obtain rfl : offset = 0 := by omega
      rfl
  | cons a source ih =>
      rcases Nat.lt_or_ge source.length offset with hlast | hbefore
      · rw [leave_cons_of_le hlast, zip_self, List.length_cons]
        rw [List.length_cons] at hle
        omega
      · rw [leave_cons_of_gt (by omega), next_self]
        exact ih hbefore

/-! ## Scores of aligned texts -/

section Heavy

variable {p : α → Bool} {heavy : ℕ}

/-- **Aligned texts have a script that leaves the heavy letters alone**, and the score is no more
than what it costs. -/
theorem Aligned.score_le (h : Aligned p source target) :
    score (weigh p heavy) source target ≤ light p source + light p target := by
  have differ : ∀ {a b : α} {source target : List α}, a ≠ b →
      Aligned p (a :: source) (b :: target) →
      (Aligned p source (b :: target) → score (weigh p heavy) source (b :: target) ≤
        light p source + light p (b :: target)) →
      (Aligned p (a :: source) target → score (weigh p heavy) (a :: source) target ≤
        light p (a :: source) + light p target) →
      score (weigh p heavy) (a :: source) (b :: target) ≤
        light p (a :: source) + light p (b :: target) := by
    intro a b source target hne h ihDeletion ihInsertion
    rw [score_cons_of_ne hne]
    -- Undo the light one of the two ends: it weighs one, and the texts stay aligned.
    rcases h.light_of_ne hne with ha | hb
    · have hrest := ihDeletion (h.left_of_neg ha)
      have hweight : weigh p heavy a = 1 := by simp [weigh, ha]
      rw [light_cons_of_neg ha]
      omega
    · have hrest := ihInsertion (h.right_of_neg hb)
      have hweight : weigh p heavy b = 1 := by simp [weigh, hb]
      rw [light_cons_of_neg hb]
      omega
  induction source, target using score.induct (weigh p heavy) with
  | case1 target =>
      have hall := length_eq_light_of_filter h.symm
      rw [score]
      omega
  | case2 a source =>
      have hall := length_eq_light_of_filter h
      rw [List.length_cons] at hall
      rw [score]
      omega
  | case3 source a target ih =>
      have htails := ih h.tails
      rw [score, if_pos rfl]
      cases ha : p a with
      | false =>
          rw [light_cons_of_neg ha, light_cons_of_neg ha]
          omega
      | true => rwa [light_cons_of_pos ha, light_cons_of_pos ha]
  | case4 a source b target hne hlt ihDeletion ihInsertion =>
      exact differ hne h ihDeletion ihInsertion
  | case5 a source b target hne hlt ihDeletion ihInsertion =>
      exact differ hne h ihDeletion ihInsertion

/-- Different texts are not for free. -/
theorem eq_of_score_eq_zero (hheavy : 0 < heavy)
    (h : score (weigh p heavy) source target = 0) : source = target := by
  have hweight : ∀ a, 0 < weigh p heavy a := by
    intro a
    rw [weigh]
    split
    · exact hheavy
    · exact Nat.one_pos
  induction source, target using score.induct (weigh p heavy) with
  | case1 target =>
      rw [score] at h
      exact (List.length_eq_zero_iff.mp h).symm
  | case2 a source =>
      rw [score] at h
      omega
  | case3 source a target ih =>
      rw [score, if_pos rfl] at h
      rw [ih h]
  | case4 a source b target hne hlt ihDeletion ihInsertion
  | case5 a source b target hne hlt ihDeletion ihInsertion =>
      rw [score_cons_of_ne hne] at h
      have := hweight a
      have := hweight b
      omega

/-- **A heavy letter is not inserted**, where the texts are aligned and the light letters together
weigh no more than one heavy one. -/
theorem Aligned.light_of_insertion (h : Aligned p source (b :: target))
    (hlight : light p source + light p (b :: target) ≤ heavy)
    (hmove : move (weigh p heavy) source (b :: target) = .insertion) : p b = false := by
  by_contra hb
  rw [Bool.not_eq_false] at hb
  cases source with
  | nil => simp [Aligned, hb] at h
  | cons a source =>
      have hne : a ≠ b := by
        rintro rfl
        simp [move] at hmove
      have ha : p a = false := (h.light_of_ne hne).resolve_right (by simp [hb])
      have hweights : weigh p heavy a = 1 ∧ weigh p heavy b = heavy := by simp [weigh, ha, hb]
      rw [light_cons_of_neg ha] at hlight
      have hdeletion : score (weigh p heavy) source (b :: target) ≤ _ :=
        (h.left_of_neg ha).score_le
      -- Without the heavy letter the texts differ, so its insertion costs more than it weighs.
      have hpositive : score (weigh p heavy) (a :: source) target ≠ 0 := by
        intro hzero
        obtain rfl := eq_of_score_eq_zero (by omega) hzero
        rw [Aligned, List.filter_cons_of_pos hb] at h
        exact List.cons_ne_self _ _ h.symm
      rw [move_cons_of_ne_of_lt hne (by omega)] at hmove
      cases hmove

/-- **Nor is one deleted.** -/
theorem Aligned.light_of_deletion (h : Aligned p (a :: source) target)
    (hlight : light p (a :: source) + light p target ≤ heavy)
    (hmove : move (weigh p heavy) (a :: source) target = .deletion) : p a = false := by
  by_contra ha
  rw [Bool.not_eq_false] at ha
  cases target with
  | nil => simp [Aligned, ha] at h
  | cons b target =>
      have hne : a ≠ b := by
        rintro rfl
        simp [move] at hmove
      have hb : p b = false := (h.light_of_ne hne).resolve_left (by simp [ha])
      have hweights : weigh p heavy a = heavy ∧ weigh p heavy b = 1 := by simp [weigh, ha, hb]
      rw [light_cons_of_neg hb] at hlight
      have hinsertion : score (weigh p heavy) (a :: source) target ≤ _ :=
        (h.right_of_neg hb).score_le
      rw [move_cons_of_ne_of_le hne (by omega)] at hmove
      cases hmove

/-! ## Heavy letters stay aligned -/

theorem Aligned.zip (h : Aligned p source target)
    (hlight : light p source + light p target ≤ heavy) :
    Aligned p source (zip (weigh p heavy) source target) := by
  induction target with
  | nil => exact h
  | cons b target ih =>
      rw [EditScript.zip]
      split
      · rename_i hmove
        have hb := h.light_of_insertion hlight hmove
        rw [light_cons_of_neg hb] at hlight
        exact ih (h.right_of_neg hb) (by omega)
      · exact h

theorem Aligned.next (h : Aligned p (a :: source) target)
    (hlight : light p (a :: source) + light p target ≤ heavy) :
    Aligned p source (next (weigh p heavy) (a :: source) target) := by
  have hzip := h.zip hlight
  have hsuffix : EditScript.zip (weigh p heavy) (a :: source) target <:+ target :=
    zip_isSuffix _ _
  have hbound := light_isSuffix (p := p) hsuffix
  have hne : move (weigh p heavy) (a :: source)
      (EditScript.zip (weigh p heavy) (a :: source) target) ≠ .insertion :=
    move_zip_ne_insertion _ _
  rw [EditScript.next]
  generalize EditScript.zip (weigh p heavy) (a :: source) target = zipped at hzip hbound hne ⊢
  cases hmove : move (weigh p heavy) (a :: source) zipped with
  | deletion =>
      rw [if_neg (by simp)]
      exact hzip.left_of_neg (hzip.light_of_deletion (by omega) hmove)
  | keeping =>
      rw [if_pos rfl]
      cases zipped with
      | nil => simp [move] at hmove
      | cons b zipped =>
          obtain rfl := eq_of_move_eq_keeping hmove
          exact hzip.tails
  | insertion => exact absurd hmove hne

theorem light_next_le (a : α) (source target : List α) :
    light p source + light p (next (weigh p heavy) (a :: source) target) ≤
      light p (a :: source) + light p target :=
  Nat.add_le_add (light_isSuffix (List.suffix_cons a source))
    (light_isSuffix (next_isSuffix _ _))

/-- **Heavy letters stay aligned**: as many are before the cursor in the target as in the source. -/
theorem Aligned.arrive (h : Aligned p source target)
    (hlight : light p source + light p target ≤ heavy) (offset : ℕ) :
    Aligned p (source.drop (source.length - offset))
      (arrive (weigh p heavy) offset source target) := by
  induction source generalizing target with
  | nil => simpa [EditScript.arrive] using h
  | cons a source ih =>
      rw [EditScript.arrive]
      split
      · rename_i hle
        rwa [List.length_cons, Nat.sub_eq_zero_of_le hle, List.drop_zero]
      · rename_i hlt
        rw [List.length_cons, Nat.succ_sub (by omega), List.drop_succ_cons]
        exact ih (h.next hlight) (Nat.le_trans (light_next_le a source target) hlight)

theorem Aligned.leave (h : Aligned p source target)
    (hlight : light p source + light p target ≤ heavy) (offset : ℕ) :
    Aligned p (source.drop (source.length - offset))
      (leave (weigh p heavy) offset source target) := by
  have hsource := light_isSuffix (p := p) (List.drop_suffix (source.length - offset) source)
  have hsuffix : EditScript.arrive (weigh p heavy) offset source target <:+ target :=
    arrive_isSuffix _ _
  have htarget := light_isSuffix (p := p) hsuffix
  exact (h.arrive hlight offset).zip (by omega)

end Heavy

end EditScript
