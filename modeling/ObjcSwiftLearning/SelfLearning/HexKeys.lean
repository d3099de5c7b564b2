import Mathlib.Algebra.Group.Nat.Defs
import Mathlib.Data.Fin.Basic
import Mathlib.Data.Int.Notation
import Mathlib.Data.List.Forall2
import ObjcSwiftLearning.Library.PairReader

/-!
# Hexadecimal keys

`dataFromHexString:` reads the bytes of a key out of a string: the string is made lowercase, its
characters are narrowed to eight bits, and what is then no digit is passed over.

* `dataFromHexString` — the loop, with its index of 32 bits and its bound of 64.
* `DecodesHex` — a string is read without leaving it, and the bytes are those that it spells.
* `decodesHex_iff` — when it is.
-/

namespace ObjcSwiftLearning.SelfLearning

/-! ## Characters -/

/-- `NSString`: UTF-16 units, as many as an `NSUInteger` can count. -/
structure UnitString where
  units : List UInt16
  length_lt : units.length < 2 ^ 64

def hexDigitValue (code : ℤ) : Option (Fin 16) :=
  if 48 ≤ code ∧ code ≤ 57 then some (Fin.ofNat 16 (code - 48).toNat)
  else if 65 ≤ code ∧ code ≤ 70 then some (Fin.ofNat 16 (code - 55).toNat)
  else if 97 ≤ code ∧ code ≤ 102 then some (Fin.ofNat 16 (code - 87).toNat)
  else none

/-- The byte of two digits. -/
def hexByte (high low : Fin 16) : UInt8 := UInt8.ofNat (16 * high + low)

/-- A character after `char c = …`, which keeps eight bits with a sign. -/
def narrow (unit : UInt16) : ℤ :=
  let low := unit.toNat % 256
  if low < 128 then low else low - 256

/-- The characters that the loop passes over. -/
def isSkipped (c : ℤ) : Bool := c < 48 || (c > 57 && c < 97) || c > 102

/-- `strtol` in base 16 of two characters, as far as they are digits. -/
def strtol (c c' : ℤ) : UInt8 :=
  match hexDigitValue c, hexDigitValue c' with
  | none, _ => 0
  | some high, none => UInt8.ofNat high
  | some high, some low => hexByte high low

/-! ## The loop -/

/-- How a call may end. -/
inductive HexOutcome where
  | data (data : List UInt8)
  /-- `characterAtIndex:` was asked for what is outside of the string. -/
  | rangeException
  /-- The index was increased beyond its 32 bits, which leaves undefined what happens. -/
  | overflow
  /-- The loop has not ended. -/
  | running

/-- The largest `int`. -/
def intMax : ℕ := 2 ^ 31 - 1

/-- `length - 1`, unsigned. -/
def lastIndex (length : ℕ) : ℕ := (length + (2 ^ 64 - 1)) % 2 ^ 64

/-- `while (i < length-1)`, with so many rounds at most. -/
def dataLoop (units : List UInt16) : ℕ → ℕ → List UInt8 → HexOutcome
  | 0, _, _ => .running
  | rounds + 1, i, data =>
      if i < lastIndex units.length then
        if i = intMax then .overflow
        else
          match units[i]? with
          | none => .rangeException
          | some unit =>
              if isSkipped (narrow unit) then dataLoop units rounds (i + 1) data
              -- The second character of a pair is taken as it is.
              else if i + 1 = intMax then .overflow
              else
                match units[i + 1]? with
                | none => .rangeException
                | some next =>
                    dataLoop units rounds (i + 2) (data ++ [strtol (narrow unit) (narrow next)])
      else .data data

def lowercaseDigitValue (unit : UInt16) : Option (Fin 16) :=
  if 65 ≤ unit.toNat ∧ unit.toNat ≤ 70 then none else hexDigitValue unit.toNat

/-- What may come of a unit: of a hexadecimal digit the lowercase one, and of no other such a
digit. -/
structure LowersTo (unit : UInt16) (piece : List UInt16) : Prop where
  nonempty : piece ≠ []
  digit : ∀ digit, hexDigitValue unit.toNat = some digit →
    ∃ unit', piece = [unit'] ∧ lowercaseDigitValue unit' = some digit
  other : hexDigitValue unit.toNat = none →
    ∀ unit' ∈ piece, hexDigitValue unit'.toNat = none

/-- `lowercaseString`, and what is relied on of it. -/
structure Lowercasing where
  lowercaseString : UnitString → UnitString
  lowersTo : ∀ string : UnitString, ∃ pieces : List (List UInt16),
    (lowercaseString string).units = pieces.flatten ∧
      List.Forall₂ LowersTo string.units pieces

/-- `dataFromHexString:`, of so many rounds at most. -/
def dataFromHexString (lowercasing : Lowercasing) (rounds : ℕ) (string : UnitString) :
    HexOutcome :=
  dataLoop (lowercasing.lowercaseString string).units rounds 0 []

/-! ## Digits -/

theorem hexDigitValue_cases {code : ℤ} {digit : Fin 16} (h : hexDigitValue code = some digit) :
    48 ≤ code ∧ code ≤ 57 ∨ 65 ≤ code ∧ code ≤ 70 ∨ 97 ≤ code ∧ code ≤ 102 := by
  unfold hexDigitValue at h
  split at h
  · exact .inl ‹_›
  split at h
  · exact .inr (.inl ‹_›)
  split at h
  · exact .inr (.inr ‹_›)
  · cases h

theorem narrow_of_hexDigitValue {unit : UInt16} {digit : Fin 16}
    (h : hexDigitValue unit.toNat = some digit) : narrow unit = unit.toNat := by
  have hrange := hexDigitValue_cases h
  have hmod : unit.toNat % 256 = unit.toNat := Nat.mod_eq_of_lt (by omega)
  rw [narrow, hmod]
  exact if_pos (by omega)

theorem isSome_of_not_isSkipped {c : ℤ} (h : isSkipped c = false) :
    ∃ digit, hexDigitValue c = some digit := by
  simp only [isSkipped, Bool.or_eq_false_iff, Bool.and_eq_false_iff, decide_eq_false_iff_not,
    not_lt] at h
  unfold hexDigitValue
  split
  · exact ⟨_, rfl⟩
  split
  · exact ⟨_, rfl⟩
  · rw [if_pos (by omega)]
    exact ⟨_, rfl⟩

theorem hexByte_toNat (high low : Fin 16) : (hexByte high low).toNat = 16 * high + low := by
  rw [hexByte, UInt8.toNat_ofNat']
  exact Nat.mod_eq_of_lt (by omega)

theorem hexByte_inj {high low high' low' : Fin 16} (h : hexByte high low = hexByte high' low') :
    high = high' ∧ low = low' := by
  have heq := congrArg UInt8.toNat h
  rw [hexByte_toNat, hexByte_toNat] at heq
  exact ⟨Fin.ext (by omega), Fin.ext (by omega)⟩

def keyDigits : PairReader UInt16 (Fin 16) UInt8 where
  spelled unit := hexDigitValue unit.toNat
  first unit := hexDigitValue unit.toNat
  join high unit :=
    match hexDigitValue unit.toNat with
    | none => UInt8.ofNat high
    | some low => hexByte high low
  byte := hexByte
  first_eq _ _ h := h
  join_eq _ _ _ h := by rw [h]
  byte_inj _ _ _ _ := hexByte_inj

/-- As the loop reads them, in a string that is lowercase. -/
def loopDigits : PairReader UInt16 (Fin 16) UInt8 where
  spelled := lowercaseDigitValue
  first unit := if isSkipped (narrow unit) then none else hexDigitValue (narrow unit)
  join high unit :=
    match hexDigitValue (narrow unit) with
    | none => UInt8.ofNat high
    | some low => hexByte high low
  byte := hexByte
  first_eq unit digit h := by
    unfold lowercaseDigitValue at h
    split at h
    · cases h
    · have hrange := hexDigitValue_cases h
      rw [narrow_of_hexDigitValue h, if_neg, h]
      simp only [isSkipped, Bool.or_eq_true, Bool.and_eq_true, decide_eq_true_eq]
      omega
  join_eq high unit digit h := by
    unfold lowercaseDigitValue at h
    split at h
    · cases h
    · rw [narrow_of_hexDigitValue h, h]
  byte_inj _ _ _ _ := hexByte_inj

theorem loopDigits_first_of_isSkipped {unit : UInt16} (h : isSkipped (narrow unit) = true) :
    loopDigits.first unit = none := if_pos h

theorem loopDigits_first_of_not_isSkipped {unit : UInt16}
    (h : isSkipped (narrow unit) = false) :
    ∃ digit, loopDigits.first unit = some digit ∧
      ∀ next, strtol (narrow unit) (narrow next) = loopDigits.join digit next := by
  obtain ⟨digit, hdigit⟩ := isSome_of_not_isSkipped h
  refine ⟨digit, (if_neg (by simp [h])).trans hdigit, fun next => ?_⟩
  rw [strtol, hdigit]
  change _ = (match hexDigitValue (narrow next) with
    | none => UInt8.ofNat digit
    | some low => hexByte digit low)
  cases hexDigitValue (narrow next) with
  | none => rfl
  | some low => rfl

/-! ## What the loop does -/

section

variable {units : List UInt16} {rest : List UInt16} {unit next : UInt16} {data : List UInt8}

theorem lastIndex_of_pos {length : ℕ} (hpos : 0 < length) (hlt : length < 2 ^ 64) :
    lastIndex length = length - 1 := by
  unfold lastIndex
  omega

theorem getElem?_of_drop_eq_cons {i : ℕ} {unit : UInt16} (h : units.drop i = unit :: rest) :
    units[i]? = some unit ∧ units.drop (i + 1) = rest := by
  constructor
  · have hfirst := @List.getElem?_drop _ units i 0
    rw [h] at hfirst
    exact hfirst.symm
  · rw [← List.tail_drop, h, List.tail_cons]

theorem exists_of_lt_length {i : ℕ} (hi : i < units.length) : ∃ unit, units[i]? = some unit := by
  cases hunit : units[i]? with
  | none => exact absurd (List.getElem?_eq_none_iff.mp hunit) (Nat.not_le.mpr hi)
  | some unit => exact ⟨unit, rfl⟩

/-- What the loop makes of the rest of the string. -/
def restOutcome (length : ℕ) (data : List UInt8) (rest : List UInt16) : HexOutcome :=
  if length = 2 ^ 31 ∧ loopDigits.lastIsRead rest = true then .overflow
  else .data (data ++ loopDigits.readPairs rest)

theorem restOutcome_of_none {length : ℕ} {unit : UInt16} (h : loopDigits.first unit = none) :
    restOutcome length data (unit :: rest) = restOutcome length data rest := by
  rw [restOutcome, PairReader.lastIsRead_of_none h, PairReader.readPairs_of_none h, restOutcome]

theorem restOutcome_of_some {length : ℕ} {digit : Fin 16} (h : loopDigits.first unit = some digit)
    (hmore : length = 2 ^ 31 → rest ≠ []) :
    restOutcome length data (unit :: next :: rest) =
      restOutcome length (data ++ [loopDigits.join digit next]) rest := by
  have hlast : (length = 2 ^ 31 ∧ (rest.isEmpty || loopDigits.lastIsRead rest) = true) ↔
      length = 2 ^ 31 ∧ loopDigits.lastIsRead rest = true := by
    refine and_congr_right fun hmany => ?_
    rw [List.isEmpty_eq_false_iff.mpr (hmore hmany), Bool.false_or]
  rw [restOutcome, PairReader.lastIsRead_of_some h, PairReader.readPairs_of_some h, restOutcome,
    List.append_assoc, List.singleton_append]
  simp only [hlast]

/-- The index overflows behind the last pair of a string that is as long as can be. -/
theorem restOutcome_of_last {digit : Fin 16} (h : loopDigits.first unit = some digit) :
    restOutcome (2 ^ 31) data [unit, next] = .overflow := by
  rw [restOutcome, PairReader.lastIsRead_of_some h]
  exact if_pos ⟨rfl, rfl⟩

theorem dataLoop_of_isSkipped {rounds i : ℕ} {unit : UInt16} (data : List UInt8)
    (hi : i < lastIndex units.length) (hmax : i ≠ intMax) (hunit : units[i]? = some unit)
    (hskip : isSkipped (narrow unit) = true) :
    dataLoop units (rounds + 1) i data = dataLoop units rounds (i + 1) data := by
  rw [dataLoop, if_pos hi, if_neg hmax, hunit]
  exact if_pos hskip

theorem dataLoop_of_digit {rounds i : ℕ} (data : List UInt8) (hi : i < lastIndex units.length)
    (hmax : i ≠ intMax) (hunit : units[i]? = some unit) (hnext : units[i + 1]? = some next)
    (hskip : isSkipped (narrow unit) = false) :
    dataLoop units (rounds + 1) i data =
      if i + 1 = intMax then .overflow
      else dataLoop units rounds (i + 2) (data ++ [strtol (narrow unit) (narrow next)]) := by
  rw [dataLoop, if_pos hi, if_neg hmax, hunit, hnext]
  exact if_neg (by simp [hskip])

/-- **The loop reads pairs**, of strings that an `int` can index; it ends when it has had more
rounds than there are characters. -/
theorem dataLoop_eq (hpos : 0 < units.length) (hle : units.length ≤ 2 ^ 31) (rounds : ℕ) {i : ℕ}
    (hi : i ≤ units.length) (data : List UInt8) :
    dataLoop units rounds i data = restOutcome units.length data (units.drop i) ∨
      rounds + i ≤ units.length ∧ dataLoop units rounds i data = .running := by
  induction rounds generalizing i data with
  | zero => exact .inr ⟨by omega, rfl⟩
  | succ rounds ih =>
      have hlast := lastIndex_of_pos hpos (by omega)
      have hlength := List.length_drop (i := i) (l := units)
      -- The loop is at the end, at the last character, which it does not look at, or before it.
      cases hdrop : units.drop i with
      | nil =>
          left
          rw [hdrop, List.length_nil] at hlength
          rw [dataLoop, if_neg (by omega), restOutcome, if_neg (by simp [PairReader.lastIsRead])]
          simp [PairReader.readPairs]
      | cons unit rest =>
          obtain ⟨hunit, hdrop'⟩ := getElem?_of_drop_eq_cons hdrop
          cases rest with
          | nil =>
              left
              rw [hdrop, List.length_singleton] at hlength
              rw [dataLoop, if_neg (by omega), restOutcome,
                if_neg (by simp [PairReader.lastIsRead])]
              simp [PairReader.readPairs]
          | cons next rest =>
              obtain ⟨hnext, hrest⟩ := getElem?_of_drop_eq_cons hdrop'
              rw [hdrop, List.length_cons, List.length_cons] at hlength
              have hindex : i < lastIndex units.length := by omega
              have hmax : i ≠ intMax := by unfold intMax; omega
              cases hskip : isSkipped (narrow unit) with
              | true =>
                  rw [dataLoop_of_isSkipped data hindex hmax hunit hskip,
                    restOutcome_of_none (loopDigits_first_of_isSkipped hskip), ← hdrop']
                  refine (ih (by omega) data).imp_right (And.imp_left fun h => ?_)
                  omega
              | false =>
                  obtain ⟨digit, hfirst, hjoin⟩ := loopDigits_first_of_not_isSkipped hskip
                  rw [dataLoop_of_digit data hindex hmax hunit hnext hskip, hjoin]
                  split
                  · rename_i hover
                    unfold intMax at hover
                    have hempty : rest = [] := List.length_eq_zero_iff.mp (by omega)
                    have hmany : units.length = 2 ^ 31 := by omega
                    rw [hempty, hmany, restOutcome_of_last hfirst]
                    exact .inl rfl
                  · rename_i hover
                    unfold intMax at hover
                    have hmore : units.length = 2 ^ 31 → rest ≠ [] := by
                      rintro hmany rfl
                      rw [List.length_nil] at hlength
                      omega
                    rw [restOutcome_of_some hfirst hmore, ← hrest]
                    refine (ih (by omega) _).imp_right (And.imp_left fun h => ?_)
                    omega

/-- The index of a longer string overflows before the end is reached. -/
theorem dataLoop_ne_data (hlong : 2 ^ 31 < units.length) (hlt : units.length < 2 ^ 64)
    (rounds : ℕ) {i : ℕ} (hi : i ≤ intMax) (data result : List UInt8) :
    dataLoop units rounds i data ≠ .data result := by
  induction rounds generalizing i data with
  | zero => exact HexOutcome.noConfusion
  | succ rounds ih =>
      have hlast := lastIndex_of_pos (by omega) hlt
      unfold intMax at hi ih
      have hindex : i < lastIndex units.length := by omega
      by_cases hmax : i = intMax
      · rw [dataLoop, if_pos hindex, if_pos hmax]
        exact HexOutcome.noConfusion
      · obtain ⟨unit, hunit⟩ := @exists_of_lt_length units i (by omega)
        obtain ⟨next, hnext⟩ := @exists_of_lt_length units (i + 1) (by omega)
        unfold intMax at hmax
        cases hskip : isSkipped (narrow unit) with
        | true =>
            rw [dataLoop_of_isSkipped data hindex hmax hunit hskip]
            exact ih (by omega) data
        | false =>
            rw [dataLoop_of_digit data hindex hmax hunit hnext hskip]
            split
            · exact HexOutcome.noConfusion
            · rename_i hover
              unfold intMax at hover
              exact ih (by omega) _

/-- Of an empty string the first character is asked for. -/
theorem dataLoop_nil_ne_data (rounds : ℕ) (result : List UInt8) :
    dataLoop [] rounds 0 [] ≠ .data result := by
  cases rounds with
  | zero => exact HexOutcome.noConfusion
  | succ rounds =>
      have hfirst : dataLoop [] (rounds + 1) 0 [] = .rangeException := by
        rw [dataLoop, if_pos (by decide), if_neg (by decide)]
        rfl
      rw [hfirst]
      exact HexOutcome.noConfusion

/-- An `int` can index a string: its last two characters are not read if it is as long as can be. -/
def Indexable (units : List UInt16) : Prop :=
  units.length < 2 ^ 31 ∨
    units.length = 2 ^ 31 ∧ loopDigits.digitsBeforeLast units % 2 = 0

/-- **When the loop ends, and with what.** -/
theorem exists_dataLoop_eq_data_iff (hlt : units.length < 2 ^ 64) (data : List UInt8) :
    (∃ rounds, dataLoop units rounds 0 [] = .data data) ↔
      0 < units.length ∧ Indexable units ∧ data = loopDigits.readPairs units := by
  constructor
  · rintro ⟨rounds, hdata⟩
    have hpos : 0 < units.length := by
      refine List.length_pos_iff.mpr fun hempty => ?_
      exact dataLoop_nil_ne_data rounds data (hempty ▸ hdata)
    have hle : units.length ≤ 2 ^ 31 := by
      by_contra hlong
      exact dataLoop_ne_data (Nat.not_le.mp hlong) hlt rounds (Nat.zero_le _) [] data hdata
    rcases dataLoop_eq hpos hle rounds (Nat.zero_le _) [] with heq | ⟨-, hrunning⟩
    · rw [hdata, restOutcome, List.drop_zero] at heq
      split at heq
      · cases heq
      · rename_i hover
        rw [PairReader.lastIsRead_iff] at hover
        refine ⟨hpos, ?_, HexOutcome.data.inj heq⟩
        unfold Indexable
        omega
    · rw [hdata] at hrunning
      cases hrunning
  · rintro ⟨hpos, hindex, rfl⟩
    refine ⟨units.length + 1, ?_⟩
    have hover : ¬ (units.length = 2 ^ 31 ∧ loopDigits.lastIsRead units = true) := by
      rw [PairReader.lastIsRead_iff]
      unfold Indexable at hindex
      omega
    have hle : units.length ≤ 2 ^ 31 := by
      unfold Indexable at hindex
      omega
    rcases dataLoop_eq hpos hle (units.length + 1) (Nat.zero_le _) [] with heq | ⟨hrounds, -⟩
    · rw [heq, restOutcome, List.drop_zero, if_neg hover, List.nil_append]
    · omega

end

/-! ## Lowercase strings -/

theorem spells_flatten {units : List UInt16} {bytes : List UInt8} {pieces : List (List UInt16)}
    (h : keyDigits.Spells units bytes) (hpieces : List.Forall₂ LowersTo units pieces) :
    loopDigits.Spells pieces.flatten bytes := by
  induction h generalizing pieces with
  | nil =>
      cases hpieces
      exact .nil
  | skip hnone _ ih =>
      cases hpieces with
      | cons hpiece hpieces =>
          refine (ih hpieces).append_of_forall fun unit' hunit' => ?_
          change lowercaseDigitValue unit' = none
          rw [lowercaseDigitValue, hpiece.other hnone unit' hunit', ite_self]
  | pair hhigh hlow _ ih =>
      cases hpieces with
      | cons hpiece hpieces =>
          cases hpieces with
          | cons hpiece' hpieces =>
              obtain ⟨unit, rfl, hunit⟩ := hpiece.digit _ hhigh
              obtain ⟨unit', rfl, hunit'⟩ := hpiece'.digit _ hlow
              exact .pair hunit hunit' (ih hpieces)

theorem spells_lowercaseString (lowercasing : Lowercasing) {string : UnitString}
    {bytes : List UInt8} (h : keyDigits.Spells string.units bytes) :
    loopDigits.Spells (lowercasing.lowercaseString string).units bytes := by
  obtain ⟨pieces, hunits, hpieces⟩ := lowercasing.lowersTo string
  rw [hunits]
  exact spells_flatten h hpieces

/-! ## What is decoded -/

/-- A string is decoded without leaving it, to the bytes that it spells. -/
def DecodesHex (lowercasing : Lowercasing) (string : UnitString) : Prop :=
  ∃ rounds data, dataFromHexString lowercasing rounds string = .data data ∧
    ∀ bytes, keyDigits.Spells string.units bytes → data = bytes

/-- **The bytes of a key are decoded** if and only if the string, made lowercase, is not empty, its
characters can be counted by the index, and, where it spells bytes at all, what is wrongly taken
for a digit makes no difference. -/
theorem decodesHex_iff (lowercasing : Lowercasing) (string : UnitString) :
    DecodesHex lowercasing string ↔
      0 < (lowercasing.lowercaseString string).units.length ∧
        Indexable (lowercasing.lowercaseString string).units ∧
        ((∃ bytes, keyDigits.Spells string.units bytes) →
          loopDigits.Harmless (lowercasing.lowercaseString string).units) := by
  have hends := exists_dataLoop_eq_data_iff (lowercasing.lowercaseString string).length_lt
  constructor
  · rintro ⟨rounds, data, hdata, hbytes⟩
    obtain ⟨hpos, hindex, rfl⟩ := (hends data).mp ⟨rounds, hdata⟩
    refine ⟨hpos, hindex, ?_⟩
    rintro ⟨bytes, hspells⟩
    exact (PairReader.readPairs_eq_iff (spells_lowercaseString lowercasing hspells)).mp
      (hbytes bytes hspells)
  · rintro ⟨hpos, hindex, hharmless⟩
    obtain ⟨rounds, hdata⟩ := (hends _).mpr ⟨hpos, hindex, rfl⟩
    refine ⟨rounds, _, hdata, fun bytes hspells => ?_⟩
    exact (PairReader.readPairs_eq_iff (spells_lowercaseString lowercasing hspells)).mpr
      (hharmless ⟨bytes, hspells⟩)

/-! ## Round trip -/

def hexCharacter (digit : Fin 16) : UInt16 :=
  UInt16.ofNat (if digit < 10 then 48 + digit else 87 + digit)

def hexSpelling (data : List UInt8) : List UInt16 :=
  data.flatMap fun byte =>
    [hexCharacter (Fin.ofNat 16 (byte.toNat / 16)), hexCharacter (Fin.ofNat 16 byte.toNat)]

theorem hexDigitValue_hexCharacter :
    ∀ digit : Fin 16, hexDigitValue (hexCharacter digit).toNat = some digit := by
  decide

theorem hexByte_halves (byte : UInt8) :
    hexByte (Fin.ofNat 16 (byte.toNat / 16)) (Fin.ofNat 16 byte.toNat) = byte := by
  refine UInt8.toNat_inj.mp ?_
  have hlt := byte.toNat_lt
  rw [hexByte_toNat, Fin.val_ofNat, Fin.val_ofNat]
  omega

theorem spells_hexSpelling (data : List UInt8) : keyDigits.Spells (hexSpelling data) data := by
  induction data with
  | nil => exact .nil
  | cons byte data ih =>
      have hpair := @PairReader.Spells.pair _ _ _ keyDigits _ _ _ _ _ _
        (hexDigitValue_hexCharacter (Fin.ofNat 16 (byte.toNat / 16)))
        (hexDigitValue_hexCharacter (Fin.ofNat 16 byte.toNat)) ih
      have hbyte : keyDigits.byte (Fin.ofNat 16 (byte.toNat / 16)) (Fin.ofNat 16 byte.toNat) =
          byte := hexByte_halves byte
      rw [hbyte] at hpair
      exact hpair

theorem forall_hexSpelling (data : List UInt8) :
    ∀ unit ∈ hexSpelling data, ∃ digit, hexDigitValue unit.toNat = some digit := by
  intro unit hunit
  obtain ⟨byte, -, hmem⟩ := List.mem_flatMap.mp hunit
  rcases List.mem_pair.mp hmem with rfl | rfl
  · exact ⟨_, hexDigitValue_hexCharacter _⟩
  · exact ⟨_, hexDigitValue_hexCharacter _⟩

theorem forall_flatten {units : List UInt16} {pieces : List (List UInt16)}
    (hunits : ∀ unit ∈ units, ∃ digit, hexDigitValue unit.toNat = some digit)
    (hpieces : List.Forall₂ LowersTo units pieces) :
    ∀ unit ∈ pieces.flatten, loopDigits.spelled unit ≠ none := by
  induction hpieces with
  | nil => exact fun _ hunit => absurd hunit List.not_mem_nil
  | cons hpiece _ ih =>
      obtain ⟨⟨digit, hdigit⟩, hrest⟩ := List.forall_mem_cons.mp hunits
      obtain ⟨unit', rfl, hunit'⟩ := hpiece.digit digit hdigit
      rw [List.flatten_cons, List.singleton_append]
      refine List.forall_mem_cons.mpr ⟨fun hnone => ?_, ih hrest⟩
      rw [show loopDigits.spelled unit' = some digit from hunit'] at hnone
      cases hnone

/-- **Data is decoded from its spelling,** if there is any and an `int` can index it. -/
theorem dataFromHexString_hexSpelling (lowercasing : Lowercasing) {string : UnitString}
    {data : List UInt8} (hstring : string.units = hexSpelling data) (hdata : data ≠ [])
    (hshort : (lowercasing.lowercaseString string).units.length < 2 ^ 31) :
    ∃ rounds, dataFromHexString lowercasing rounds string = .data data := by
  have hspells : keyDigits.Spells string.units data := hstring ▸ spells_hexSpelling data
  have hlower := spells_lowercaseString lowercasing hspells
  have hharmless : loopDigits.Harmless (lowercasing.lowercaseString string).units := by
    obtain ⟨pieces, hunits, hpieces⟩ := lowercasing.lowersTo string
    rw [hunits]
    refine PairReader.harmless_of_forall_ne (forall_flatten ?_ hpieces)
    exact hstring ▸ forall_hexSpelling data
  have hpos : 0 < (lowercasing.lowercaseString string).units.length := by
    refine List.length_pos_iff.mpr fun hempty => hdata ?_
    rw [hempty] at hlower
    cases hlower
    rfl
  exact (exists_dataLoop_eq_data_iff (lowercasing.lowercaseString string).length_lt data).mpr
    ⟨hpos, .inl hshort, ((PairReader.readPairs_eq_iff hlower).mpr hharmless).symm⟩

/-! ## Strings that are not decoded -/

def asciiLowercaseUnit (unit : UInt16) : UInt16 :=
  if 65 ≤ unit.toNat ∧ unit.toNat ≤ 90 then unit + 32 else unit

theorem toNat_asciiLowercaseUnit (unit : UInt16) :
    (asciiLowercaseUnit unit).toNat =
      if 65 ≤ unit.toNat ∧ unit.toNat ≤ 90 then unit.toNat + 32 else unit.toNat := by
  unfold asciiLowercaseUnit
  split
  · rw [UInt16.toNat_add]
    exact Nat.mod_eq_of_lt (by simp; omega)
  · rfl

theorem lowersTo_asciiLowercaseUnit (unit : UInt16) :
    LowersTo unit [asciiLowercaseUnit unit] where
  nonempty := List.cons_ne_nil _ _
  digit digit h := by
    refine ⟨_, rfl, ?_⟩
    have hrange := hexDigitValue_cases h
    rw [lowercaseDigitValue, toNat_asciiLowercaseUnit]
    by_cases hupper : 65 ≤ unit.toNat ∧ unit.toNat ≤ 90
    · rw [if_pos hupper, if_neg (by omega), ← h]
      unfold hexDigitValue
      rw [if_neg (by omega), if_neg (by omega), if_pos (by omega), if_neg (by omega),
        if_pos (by omega)]
      congr 2
      omega
    · rw [if_neg hupper, if_neg (by omega), h]
  other h unit' hunit' := by
    rw [List.mem_singleton.mp hunit', toNat_asciiLowercaseUnit]
    unfold hexDigitValue at h ⊢
    split at h
    · cases h
    split at h
    · cases h
    split at h
    · cases h
    · split
      · rw [if_neg (by omega), if_neg (by omega), if_neg (by omega)]
      · rfl

/-- `lowercaseString`, of strings in which no other letters are. -/
def asciiLowercasing : Lowercasing where
  lowercaseString string :=
    ⟨string.units.map asciiLowercaseUnit, (List.length_map _).trans_lt string.length_lt⟩
  lowersTo string := by
    refine ⟨string.units.map fun unit => [asciiLowercaseUnit unit], ?_, ?_⟩
    · exact List.map_eq_flatMap
    · rw [List.forall₂_map_right_iff, List.forall₂_same]
      exact fun unit _ => lowersTo_asciiLowercaseUnit unit

theorem dataFromHexString_hexSpelling_sample :
    ∃ rounds, dataFromHexString asciiLowercasing rounds ⟨hexSpelling [0, 171, 255], by decide⟩ =
      .data [0, 171, 255] :=
  dataFromHexString_hexSpelling asciiLowercasing rfl (by decide) (by decide)

/-- The first character of an empty string is asked for. -/
theorem not_decodesHex_empty : ¬ DecodesHex asciiLowercasing ⟨[], by decide⟩ := by
  rintro ⟨rounds, data, hdata, -⟩
  exact dataLoop_nil_ne_data rounds data hdata

end ObjcSwiftLearning.SelfLearning
