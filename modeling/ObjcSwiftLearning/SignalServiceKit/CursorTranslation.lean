import Mathlib.Data.List.Infix
import Mathlib.Data.List.Sublists
import ObjcSwiftLearning.Library.EditScript

/-!
# Carrying a cursor into reformatted text

`+[PhoneNumberUtil translateCursorPosition:from:to:stickingRightward:]` fills a table of edit
scores from `source` to `target`, with the best last move of each entry, and goes back through the
moves until it is at `offset` in `source`.

* `moves_eq` — the table holds the moves of `EditScript`, for every two prefixes.
* `translateCursorPosition_eq` — **the position is the cursor of the script**, before or after the
  insertions at it.  No index leaves the table.
* `translateCursorPosition_spec` — what follows for the positions, and for the digits before them.
-/

namespace ObjcSwiftLearning.SignalServiceKit

open EditScript (Move)

namespace PhoneNumberUtil

/-! ## The table -/

def digitValue : ℕ := 10

def characterValue (digits : UInt16 → Bool) (c : UInt16) : ℕ := if digits c then digitValue else 1

/-- An entry of `scores` and the entry of `moves`, where `-1` is a deletion, `0` a match and `+1`
an insertion. -/
structure Entry where
  score : ℕ
  move : Move

/-- `scores[0]` and `moves[0]`. -/
def firstRow (target : List UInt16) : List Entry :=
  (List.range (target.length + 1)).map fun j => ⟨j, if j = 0 then .keeping else .insertion⟩

/-- The entries of a row to the right of `left`; `above` is the row above, from the entry above
`left` on. -/
def fillRow (digits : UInt16 → Bool) (c1 : UInt16) :
    (left : Entry) → (above : List Entry) → (target : List UInt16) → List Entry
  | left, diagonal :: up :: above, c2 :: target =>
      let entry : Entry :=
        if c1 = c2 then ⟨diagonal.score, .keeping⟩
        else
          let del := up.score + characterValue digits c1
          let ins := left.score + characterValue digits c2
          if del < ins then ⟨del, .deletion⟩ else ⟨ins, .insertion⟩
      entry :: fillRow digits c1 entry (up :: above) target
  | _, _, _ => []

/-- The rows of the table from `above`, the row before `i`, on. -/
def fillRows (digits : UInt16 → Bool) (target : List UInt16) :
    (i : ℕ) → (above : List Entry) → (source : List UInt16) → List (List Entry)
  | _, above, [] => [above]
  | i, above, c1 :: source =>
      let left : Entry := ⟨i, .deletion⟩
      above :: fillRows digits target (i + 1) (left :: fillRow digits c1 left above target) source

/-- `moves`, when both loops are through. -/
def moves (digits : UInt16 → Bool) (source target : List UInt16) : List (List Move) :=
  (fillRows digits target 1 (firstRow target) source).map fun row => row.map (·.move)

/-! ## Backtracking -/

/-- `while (moves[i][j] == +1) j -= 1`.  Below zero the index is outside the table. -/
def zipUpward (row : List Move) : (j : ℕ) → Option ℕ
  | 0 => do
      let move ← row[0]?
      if move = .insertion then none else some 0
  | j + 1 => do
      let move ← row[j + 1]?
      if move = .insertion then zipUpward row j else some (j + 1)

def stepBack (row : List Move) : (j : ℕ) → Option ℕ
  | 0 => do
      let move ← row[0]?
      if move = .keeping then none else some 0
  | j + 1 => do
      let move ← row[j + 1]?
      if move = .keeping then some j else some (j + 1)

/-- The loop that goes back through the moves.  Below zero the index is outside the table. -/
def backtrack (moves : List (List Move)) (offset : ℕ) (preferHigh : Bool) :
    (i j : ℕ) → Option ℕ
  | 0, j =>
      if 0 = offset ∧ preferHigh then some j
      else do
        let row ← moves[0]?
        let j ← zipUpward row j
        if 0 = offset then some j else none
  | i + 1, j =>
      if i + 1 = offset ∧ preferHigh then some j
      else do
        let row ← moves[i + 1]?
        let j ← zipUpward row j
        if i + 1 = offset then some j
        else do
          let j ← stepBack row j
          backtrack moves offset preferHigh i j

/-- `translateCursorPosition:from:to:stickingRightward:`, with the members of
`decimalDigitCharacterSet`; `none` if an index is outside the table. -/
def translateCursorPosition (digits : UInt16 → Bool) (offset : ℕ) (source target : List UInt16)
    (preferHigh : Bool) : Option ℕ :=
  backtrack (moves digits source target) offset preferHigh source.length target.length

variable {digits : UInt16 → Bool} {offset : ℕ} {preferHigh : Bool} {source target : List UInt16}
  {part : List UInt16}

/-! ## The table holds the moves of the script -/

/-- The entry for two prefixes, each read from its end. -/
def entryOf (digits : UInt16 → Bool) (source target : List UInt16) : Entry where
  score := EditScript.score (characterValue digits) source target
  move := EditScript.move (characterValue digits) source target

/-- The row for a prefix of the source, from the entry for `before` on. -/
def rowOf (digits : UInt16 → Bool) (source before target : List UInt16) : List Entry :=
  target.inits.map fun more => entryOf digits source (more.reverse ++ before)

theorem rowOf_cons (source before : List UInt16) (c2 : UInt16) (target : List UInt16) :
    rowOf digits source before (c2 :: target) =
      entryOf digits source before :: rowOf digits source (c2 :: before) target := by
  simp [rowOf, Function.comp_def]

theorem rowOf_eq_cons (source before target : List UInt16) :
    ∃ rest, rowOf digits source before target = entryOf digits source before :: rest := by
  cases target with
  | nil => exact ⟨[], by simp [rowOf]⟩
  | cons c2 target => exact ⟨_, rowOf_cons source before c2 target⟩

/-- **Filling a row.** -/
theorem cons_fillRow (c1 : UInt16) (source before target : List UInt16) :
    entryOf digits (c1 :: source) before ::
        fillRow digits c1 (entryOf digits (c1 :: source) before)
          (rowOf digits source before target) target =
      rowOf digits (c1 :: source) before target := by
  induction target generalizing before with
  | nil => simp [rowOf, fillRow]
  | cons c2 target ih =>
      obtain ⟨rest, hrest⟩ := @rowOf_eq_cons digits source (c2 :: before) target
      have hentry : (if c1 = c2 then (⟨(entryOf digits source before).score, .keeping⟩ : Entry)
          else if (entryOf digits source (c2 :: before)).score + characterValue digits c1 <
            (entryOf digits (c1 :: source) before).score + characterValue digits c2 then
          ⟨(entryOf digits source (c2 :: before)).score + characterValue digits c1, .deletion⟩
          else ⟨(entryOf digits (c1 :: source) before).score + characterValue digits c2,
            .insertion⟩) = entryOf digits (c1 :: source) (c2 :: before) := by
        unfold entryOf
        rw [EditScript.score, EditScript.move]
        split
        · rfl
        · split
          · rfl
          · rfl
      rw [rowOf_cons, rowOf_cons, hrest, fillRow, hentry, ← hrest, ih]

theorem firstRow_eq (digits : UInt16 → Bool) (target : List UInt16) :
    firstRow target = rowOf digits [] [] target := by
  refine List.ext_getElem (by simp [firstRow, rowOf]) fun j hj hj' => ?_
  have hlength : (target.take j).reverse.length = j := by
    rw [firstRow, List.length_map, List.length_range] at hj
    rw [List.length_reverse, List.length_take]
    omega
  simp only [firstRow, rowOf, List.getElem_map, List.getElem_range, List.getElem_inits,
    List.append_nil]
  cases htake : (target.take j).reverse with
  | nil =>
      rw [htake, List.length_nil] at hlength
      subst hlength
      simp [entryOf, EditScript.score, EditScript.move]
  | cons c2 before =>
      rw [htake, List.length_cons] at hlength
      subst hlength
      simp [entryOf, EditScript.score, EditScript.move]

/-- **Filling the table.** -/
theorem fillRows_eq (before source : List UInt16) :
    fillRows digits target (before.length + 1) (rowOf digits before [] target) source =
      source.inits.map fun more => rowOf digits (more.reverse ++ before) [] target := by
  induction source generalizing before with
  | nil => simp [fillRows]
  | cons c1 source ih =>
      have hborder : (⟨before.length + 1, .deletion⟩ : Entry) =
          entryOf digits (c1 :: before) [] := by
        rw [entryOf, EditScript.score, EditScript.move]
      have hrest := ih (c1 :: before)
      rw [List.length_cons] at hrest
      rw [fillRows, hborder, cons_fillRow, hrest]
      simp [Function.comp_def]

/-- The moves for a prefix of the source. -/
def rowMoves (digits : UInt16 → Bool) (target source : List UInt16) : List Move :=
  target.inits.map fun more => EditScript.move (characterValue digits) source more.reverse

/-- **The table holds the moves of the script**, for every two prefixes. -/
theorem moves_eq (digits : UInt16 → Bool) (source target : List UInt16) :
    moves digits source target = source.inits.map fun more =>
      rowMoves digits target more.reverse := by
  have hrows : fillRows digits target 1 (rowOf digits [] [] target) source =
      source.inits.map fun more => rowOf digits (more.reverse ++ []) [] target :=
    fillRows_eq [] source
  rw [moves, firstRow_eq digits, hrows]
  simp [rowMoves, rowOf, entryOf, Function.comp_def]

theorem getElem?_inits_of_isSuffix {text part : List UInt16} (h : part <:+ text.reverse) :
    text.inits[part.length]? = some part.reverse := by
  have hlength : part.length ≤ text.length := by simpa using h.length_le
  rw [List.getElem?_eq_getElem (by simpa [Nat.lt_succ_iff] using hlength), List.getElem_inits]
  have hprefix : part.reverse <+: text := by simpa using List.reverse_prefix.mpr h
  rw [← List.length_reverse, ← List.prefix_iff_eq_take.mp hprefix]

theorem getElem?_moves (h : part <:+ source.reverse) :
    (moves digits source target)[part.length]? = some (rowMoves digits target part) := by
  rw [moves_eq, List.getElem?_map, getElem?_inits_of_isSuffix h]
  simp

theorem getElem?_rowMoves (h : part <:+ target.reverse) :
    (rowMoves digits target source)[part.length]? =
      some (EditScript.move (characterValue digits) source part) := by
  rw [rowMoves, List.getElem?_map, getElem?_inits_of_isSuffix h]
  simp

/-! ## The loop follows the script -/

/-- Going up passes the insertions. -/
theorem zipUpward_eq (part : List UInt16) (h : part <:+ target.reverse) :
    zipUpward (rowMoves digits target source) part.length =
      some (EditScript.zip (characterValue digits) source part).length := by
  induction part with
  | nil =>
      have hmove : (rowMoves digits target source)[0]? =
          some (EditScript.move (characterValue digits) source []) := getElem?_rowMoves h
      rw [List.length_nil, zipUpward, hmove]
      cases source with
      | nil => simp [EditScript.zip, EditScript.move]
      | cons c1 source => simp [EditScript.zip, EditScript.move]
  | cons c2 part ih =>
      have hmove : (rowMoves digits target source)[part.length + 1]? =
          some (EditScript.move (characterValue digits) source (c2 :: part)) := getElem?_rowMoves h
      rw [List.length_cons, zipUpward, hmove, EditScript.zip]
      by_cases hinsertion : EditScript.move (characterValue digits) source (c2 :: part) =
          .insertion
      · simp [hinsertion, ih ((List.suffix_cons c2 part).trans h)]
      · simp [hinsertion]

theorem stepBack_eq (c1 : UInt16) (before part : List UInt16) (h : part <:+ target.reverse) :
    stepBack (rowMoves digits target (c1 :: before))
        (EditScript.zip (characterValue digits) (c1 :: before) part).length =
      some (EditScript.next (characterValue digits) (c1 :: before) part).length := by
  have hsuffix : EditScript.zip (characterValue digits) (c1 :: before) part <:+ target.reverse :=
    (EditScript.zip_isSuffix _ _).trans h
  rw [EditScript.next]
  generalize EditScript.zip (characterValue digits) (c1 :: before) part = zipped at hsuffix ⊢
  have hmove : (rowMoves digits target (c1 :: before))[zipped.length]? =
      some (EditScript.move (characterValue digits) (c1 :: before) zipped) :=
    getElem?_rowMoves hsuffix
  cases zipped with
  | nil =>
      rw [List.length_nil] at hmove ⊢
      rw [stepBack, hmove]
      simp [EditScript.move]
  | cons c2 zipped =>
      rw [List.length_cons] at hmove ⊢
      rw [stepBack, hmove]
      by_cases hkeeping : EditScript.move (characterValue digits) (c1 :: before)
          (c2 :: zipped) = .keeping
      · simp [hkeeping]
      · simp [hkeeping]

/-- The position in the target: before or after the insertions at the cursor. -/
def cursor (digits : UInt16 → Bool) (offset : ℕ) (preferHigh : Bool)
    (source target : List UInt16) : List UInt16 :=
  if preferHigh then EditScript.arrive (characterValue digits) offset source target
  else EditScript.leave (characterValue digits) offset source target

theorem cursor_cons_of_ne (c1 : UInt16) (before part : List UInt16)
    (hlt : offset < before.length + 1) :
    cursor digits offset preferHigh (c1 :: before) part =
      cursor digits offset preferHigh before
        (EditScript.next (characterValue digits) (c1 :: before) part) := by
  cases preferHigh with
  | false => exact EditScript.leave_cons_of_gt hlt
  | true =>
      show EditScript.arrive _ offset (c1 :: before) part = _
      rw [EditScript.arrive, if_neg (by omega)]
      rfl

/-- **The loop ends at the cursor of the script**, and no index leaves the table. -/
theorem backtrack_eq (before part : List UInt16) (hbefore : before <:+ source.reverse)
    (hpart : part <:+ target.reverse) (hoffset : offset ≤ before.length) :
    backtrack (moves digits source target) offset preferHigh before.length part.length =
      some (cursor digits offset preferHigh before part).length := by
  induction before generalizing part with
  | nil =>
      obtain rfl : offset = 0 := by simpa using hoffset
      have hrow : (moves digits source target)[0]? = some (rowMoves digits target []) :=
        getElem?_moves hbefore
      rw [List.length_nil, backtrack, hrow]
      cases preferHigh with
      | false => simp [zipUpward_eq part hpart, cursor, EditScript.leave, EditScript.arrive]
      | true => simp [cursor, EditScript.arrive]
  | cons c1 before ih =>
      have hrow : (moves digits source target)[before.length + 1]? =
          some (rowMoves digits target (c1 :: before)) := getElem?_moves hbefore
      rw [List.length_cons] at hoffset ⊢
      rw [backtrack, hrow]
      by_cases heq : before.length + 1 = offset
      · -- The row of the offset: the early exit, or the late one.
        rw [cursor, EditScript.leave_cons_of_le heq.le, EditScript.arrive, if_pos heq.le]
        cases preferHigh with
        | false => simp [heq, zipUpward_eq part hpart]
        | true => simp [heq]
      · have hnext : EditScript.next (characterValue digits) (c1 :: before) part <:+
            target.reverse := (EditScript.next_isSuffix _ _).trans hpart
        have hrest := ih _ ((List.suffix_cons c1 before).trans hbefore) hnext (by omega)
        rw [cursor_cons_of_ne c1 before part (by omega), ← hrest]
        simp [heq, zipUpward_eq part hpart, stepBack_eq c1 before part hpart]

/-- **The position is the cursor of the script.** -/
theorem translateCursorPosition_eq (hoffset : offset ≤ source.length) :
    translateCursorPosition digits offset source target preferHigh =
      some (cursor digits offset preferHigh source.reverse target.reverse).length := by
  rw [translateCursorPosition, ← List.length_reverse, ← @List.length_reverse _ target]
  exact backtrack_eq _ _ List.suffix_rfl List.suffix_rfl (by rwa [List.length_reverse])

/-! ## The position -/

theorem cursor_isSuffix (source target : List UInt16) :
    cursor digits offset preferHigh source target <:+ target := by
  cases preferHigh with
  | false => exact (EditScript.leave_isSuffix_arrive _ _).trans (EditScript.arrive_isSuffix _ _)
  | true => exact EditScript.arrive_isSuffix _ _

theorem length_cursor_le {offset' : ℕ} (hle : offset ≤ offset') (hoffset : offset' ≤ source.length)
    (target : List UInt16) :
    (cursor digits offset preferHigh source target).length ≤
      (cursor digits offset' preferHigh source target).length := by
  rcases hle.eq_or_lt with rfl | hlt
  · exact le_refl _
  · -- Between the two the cursor passes from the earlier `arrive` to the later `leave`.
    have hpass : EditScript.arrive (characterValue digits) offset source target <:+
        EditScript.leave (characterValue digits) offset' source target :=
      EditScript.arrive_isSuffix_leave hlt hoffset target
    cases preferHigh with
    | false => exact ((EditScript.leave_isSuffix_arrive _ _).trans hpass).length_le
    | true => exact (hpass.trans (EditScript.leave_isSuffix_arrive _ _)).length_le

theorem length_cursor_self (hoffset : offset ≤ source.length) :
    (cursor digits offset preferHigh source source).length = offset := by
  cases preferHigh with
  | false => exact EditScript.length_leave_self hoffset
  | true => exact EditScript.length_arrive_self hoffset

/-- **The digits before the cursor** are the same in both texts. -/
theorem cursor_aligned (h : EditScript.Aligned digits source target)
    (hlight : EditScript.light digits source + EditScript.light digits target ≤ digitValue) :
    EditScript.Aligned digits (source.drop (source.length - offset))
      (cursor digits offset preferHigh source target) := by
  cases preferHigh with
  | false => exact h.leave hlight offset
  | true => exact h.arrive hlight offset

def digitsBefore (digits : UInt16 → Bool) (text : List UInt16) (position : ℕ) : ℕ :=
  (text.take position).countP digits

theorem digitsBefore_eq_of_aligned (hoffset : offset ≤ source.length)
    (hpart : part <:+ target.reverse)
    (h : EditScript.Aligned digits (source.reverse.drop (source.length - offset)) part) :
    digitsBefore digits target part.length = digitsBefore digits source offset := by
  have hprefix : part.reverse <+: target := by simpa using List.reverse_prefix.mpr hpart
  have htarget : target.take part.length = part.reverse := by
    rw [← List.length_reverse]
    exact (List.prefix_iff_eq_take.mp hprefix).symm
  have hsource : source.reverse.drop (source.length - offset) = (source.take offset).reverse := by
    rw [List.drop_reverse, Nat.sub_sub_self hoffset]
  calc
    digitsBefore digits target part.length = (part.filter digits).length := by
      rw [digitsBefore, htarget, List.countP_reverse, List.countP_eq_length_filter]
    _ = ((source.take offset).reverse.filter digits).length := by rw [← h, hsource]
    _ = digitsBefore digits source offset := by
      rw [← List.countP_eq_length_filter, List.countP_reverse, digitsBefore]

/-- **Cursor translation.**  Positions are in the target and keep the order of their offsets, the
one to the right of the insertions not before the one to the left; in the same text the position is
the offset.  Where the texts have the same digits, in order, and at most ten other characters
together, as many digits are before the position as before the offset. -/
theorem translateCursorPosition_spec (digits : UInt16 → Bool) (source target : List UInt16) :
    (∀ offset preferHigh, offset ≤ source.length → ∃ position ≤ target.length,
      translateCursorPosition digits offset source target preferHigh = some position) ∧
    (∀ offset offset' preferHigh position position', offset ≤ offset' →
      offset' ≤ source.length →
      translateCursorPosition digits offset source target preferHigh = some position →
      translateCursorPosition digits offset' source target preferHigh = some position' →
      position ≤ position') ∧
    (∀ offset left right, offset ≤ source.length →
      translateCursorPosition digits offset source target false = some left →
      translateCursorPosition digits offset source target true = some right → left ≤ right) ∧
    (∀ offset preferHigh, offset ≤ source.length →
      translateCursorPosition digits offset source source preferHigh = some offset) ∧
    (source.filter digits = target.filter digits →
      (source.filter fun c => !digits c).length + (target.filter fun c => !digits c).length ≤ 10 →
      ∀ offset preferHigh position, offset ≤ source.length →
        translateCursorPosition digits offset source target preferHigh = some position →
        digitsBefore digits target position = digitsBefore digits source offset) := by
  refine ⟨?_, ?_, ?_, ?_, ?_⟩
  · intro offset preferHigh hoffset
    refine ⟨_, ?_, translateCursorPosition_eq hoffset⟩
    simpa using (cursor_isSuffix source.reverse target.reverse).length_le
  · intro offset offset' preferHigh position position' hle hoffset hposition hposition'
    rw [translateCursorPosition_eq (hle.trans hoffset), Option.some_inj] at hposition
    rw [translateCursorPosition_eq hoffset, Option.some_inj] at hposition'
    rw [← hposition, ← hposition']
    exact length_cursor_le hle (by rwa [List.length_reverse]) _
  · intro offset left right hoffset hleft hright
    rw [translateCursorPosition_eq hoffset, Option.some_inj] at hleft hright
    rw [← hleft, ← hright]
    exact (EditScript.leave_isSuffix_arrive _ _).length_le
  · intro offset preferHigh hoffset
    rw [translateCursorPosition_eq hoffset, length_cursor_self (by rwa [List.length_reverse])]
  · intro hdigits hothers offset preferHigh position hoffset hposition
    rw [translateCursorPosition_eq hoffset, Option.some_inj] at hposition
    have haligned : EditScript.Aligned digits source.reverse target.reverse := by
      rw [EditScript.Aligned, List.filter_reverse, List.filter_reverse, hdigits]
    have hlight : EditScript.light digits source.reverse + EditScript.light digits target.reverse ≤
        digitValue := by
      simpa [EditScript.light, List.countP_eq_length_filter, digitValue] using hothers
    have hcursor : EditScript.Aligned digits
        (source.reverse.drop (source.reverse.length - offset))
        (cursor digits offset preferHigh source.reverse target.reverse) :=
      cursor_aligned haligned hlight
    rw [List.length_reverse] at hcursor
    rw [← hposition]
    exact digitsBefore_eq_of_aligned hoffset (cursor_isSuffix _ _) hcursor

def asciiDigits (c : UInt16) : Bool := 48 ≤ c && c ≤ 57

/-- `5512` becomes `(55) 12`: a cursor after the second digit comes before the bracket or after
the space. -/
theorem translateCursorPosition_spec_sample :
    (translateCursorPosition asciiDigits 2 [53, 53, 49, 50] [40, 53, 53, 41, 32, 49, 50] false =
        some 3 ∧
      translateCursorPosition asciiDigits 2 [53, 53, 49, 50] [40, 53, 53, 41, 32, 49, 50] true =
        some 5) ∧
    digitsBefore asciiDigits [40, 53, 53, 41, 32, 49, 50] 3 = 2 ∧
    digitsBefore asciiDigits [40, 53, 53, 41, 32, 49, 50] 5 = 2 := by
  have hleft : translateCursorPosition asciiDigits 2 [53, 53, 49, 50]
      [40, 53, 53, 41, 32, 49, 50] false = some 3 := by decide
  have hright : translateCursorPosition asciiDigits 2 [53, 53, 49, 50]
      [40, 53, 53, 41, 32, 49, 50] true = some 5 := by decide
  obtain ⟨-, -, -, -, hdigits⟩ := translateCursorPosition_spec asciiDigits [53, 53, 49, 50]
    [40, 53, 53, 41, 32, 49, 50]
  exact ⟨⟨hleft, hright⟩, hdigits (by decide) (by decide) 2 false 3 (by decide) hleft,
    hdigits (by decide) (by decide) 2 true 5 (by decide) hright⟩

end PhoneNumberUtil

end ObjcSwiftLearning.SignalServiceKit
