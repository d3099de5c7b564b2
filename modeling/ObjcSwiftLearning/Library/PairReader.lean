import Mathlib.Data.List.Basic
import Mathlib.Data.List.TakeWhile
import Mathlib.Data.Nat.Notation
import Mathlib.Tactic.Common

/-!
# Reading pairs of digits

A text is read from its start: what is no digit is passed over, and a digit is joined with
whatever comes next, to a byte.  The reader may take for a digit what is none.

* `PairReader.Spells` — the bytes that a text spells, by pairs of digits with anything else in
  between.
* `PairReader.readPairs_eq_iff` — **when the reader reads these**.
* `PairReader.lastIsRead_iff` — when the last element is read.
-/

/-- How elements `α` are read as digits `δ`, and these as bytes `β`. -/
structure PairReader (α δ β : Type) where
  /-- The digit that an element is. -/
  spelled : α → Option δ
  /-- The digit for which it is taken at the start of a pair. -/
  first : α → Option δ
  /-- What a digit and the next element are read as. -/
  join : δ → α → β
  byte : δ → δ → β
  first_eq : ∀ a d, spelled a = some d → first a = some d
  join_eq : ∀ d a e, spelled a = some e → join d a = byte d e
  byte_inj : ∀ d e d' e', byte d e = byte d' e' → d = d' ∧ e = e'

namespace PairReader

variable {α δ β : Type} (reader : PairReader α δ β)

/-- The bytes that are read.  An element that is alone at the end is not looked at. -/
def readPairs : List α → List β
  | [] => []
  | [_] => []
  | a :: b :: list =>
      match reader.first a with
      | none => readPairs (b :: list)
      | some d => reader.join d b :: readPairs list

/-- A text spells bytes: pairs of adjacent digits, with other elements around them. -/
inductive Spells : List α → List β → Prop
  | nil : Spells [] []
  | skip {a : α} {list : List α} {bytes : List β} :
      reader.spelled a = none → Spells list bytes → Spells (a :: list) bytes
  | pair {a b : α} {d e : δ} {list : List α} {bytes : List β} :
      reader.spelled a = some d → reader.spelled b = some e → Spells list bytes →
        Spells (a :: b :: list) (reader.byte d e :: bytes)

/-- What is wrongly taken for a digit is followed by that digit only. -/
def Harmless (list : List α) : Prop :=
  ∀ before a after, list = before ++ a :: after → reader.spelled a = none →
    ∀ d, reader.first a = some d → ∀ b ∈ after, reader.spelled b = some d

variable {reader} {a b : α} {d : δ} {list : List α} {bytes : List β}

theorem readPairs_of_none (h : reader.first a = none) :
    reader.readPairs (a :: list) = reader.readPairs list := by
  cases list with
  | nil => rfl
  | cons b list => rw [readPairs, h]

theorem readPairs_of_some (h : reader.first a = some d) :
    reader.readPairs (a :: b :: list) = reader.join d b :: reader.readPairs list := by
  rw [readPairs, h]

/-- Each byte takes two digits at most, and one is left over at most. -/
theorem countP_le (reader : PairReader α δ β) (list : List α) :
    list.countP (fun a => (reader.first a).isSome) ≤ 2 * (reader.readPairs list).length + 1 := by
  induction list using readPairs.induct reader with
  | case1 => simp
  | case2 a => exact List.countP_le_length
  | case3 a b list hnone ih =>
      rw [readPairs_of_none hnone, List.countP_cons_of_neg (by simp [hnone])]
      exact ih
  | case4 a b list d hsome ih =>
      have hb : [b].countP (fun a => (reader.first a).isSome) ≤ 1 := List.countP_le_length
      have hsplit :=
        @List.countP_append _ (fun a => (reader.first a).isSome) [b] list
      rw [List.singleton_append] at hsplit
      rw [readPairs_of_some hsome, List.countP_cons_of_pos (by simp [hsome]), List.length_cons]
      omega

section

variable (h : reader.Spells list bytes)
include h

theorem Spells.two_mul_length_le :
    2 * bytes.length ≤ list.countP (fun a => (reader.first a).isSome) := by
  induction h with
  | nil => exact Nat.zero_le _
  | skip _ _ ih =>
      rw [List.countP_cons]
      omega
  | pair ha hb _ ih =>
      have ha' := reader.first_eq _ _ ha
      have hb' := reader.first_eq _ _ hb
      rw [List.countP_cons_of_pos (by simp [ha']), List.countP_cons_of_pos (by simp [hb']),
        List.length_cons]
      omega

theorem Spells.length_le : bytes.length ≤ (reader.readPairs list).length := by
  have hdigits := h.two_mul_length_le
  have hread := reader.countP_le list
  omega

theorem Spells.readPairs_cons_of_forall (ha : reader.first a = some d)
    (hall : ∀ b ∈ list, reader.spelled b = some d) : reader.readPairs (a :: list) = bytes := by
  induction h generalizing a with
  | nil => rfl
  | skip hnone _ _ =>
      have hsome := hall _ List.mem_cons_self
      rw [hnone] at hsome
      cases hsome
  | @pair b c d' e list bytes hb hc _ ih =>
      have hd : d' = d := Option.some.inj (hb.symm.trans (hall b List.mem_cons_self))
      have he : e = d :=
        Option.some.inj (hc.symm.trans (hall c (List.mem_cons_of_mem b List.mem_cons_self)))
      have hrest : ∀ x ∈ list, reader.spelled x = some d := fun x hx =>
        hall x (List.mem_cons_of_mem b (List.mem_cons_of_mem c hx))
      have hc' : reader.first c = some d := reader.first_eq c d (he ▸ hc)
      rw [readPairs_of_some ha, ih hc' hrest, reader.join_eq d b d' hb, hd, he]

theorem Spells.forall_of_readPairs_cons (ha : reader.first a = some d)
    (heq : reader.readPairs (a :: list) = bytes) : ∀ b ∈ list, reader.spelled b = some d := by
  induction h generalizing a d with
  | nil => exact fun _ hb => absurd hb List.not_mem_nil
  | skip hnone hlist _ =>
      -- A digit that is joined with something else makes a byte too many.
      rw [readPairs_of_some ha] at heq
      have hlength := congrArg List.length heq
      rw [List.length_cons] at hlength
      have hle := hlist.length_le
      omega
  | @pair b c d' e list bytes hb hc _ ih =>
      rw [readPairs_of_some ha, reader.join_eq d b d' hb, List.cons.injEq] at heq
      obtain ⟨hbyte, hrest⟩ := heq
      obtain ⟨rfl, rfl⟩ := reader.byte_inj _ _ _ _ hbyte
      have hall := ih (reader.first_eq c _ hc) hrest
      exact List.forall_mem_cons.mpr ⟨hb, List.forall_mem_cons.mpr ⟨hc, hall⟩⟩

theorem Spells.append_of_forall {before : List α}
    (hbefore : ∀ a ∈ before, reader.spelled a = none) : reader.Spells (before ++ list) bytes := by
  induction before with
  | nil => exact h
  | cons a before ih =>
      obtain ⟨ha, hrest⟩ := List.forall_mem_cons.mp hbefore
      exact .skip ha (ih hrest)

end

theorem Harmless.of_cons (h : reader.Harmless (a :: list)) : reader.Harmless list :=
  fun before b after hsplit => h (a :: before) b after (by rw [hsplit, List.cons_append])

theorem harmless_cons (h : reader.Harmless list)
    (ha : reader.spelled a = none → ∀ d, reader.first a = some d →
      ∀ b ∈ list, reader.spelled b = some d) :
    reader.Harmless (a :: list) := by
  intro before b after hsplit
  cases before with
  | nil =>
      obtain ⟨rfl, rfl⟩ := List.cons.inj hsplit
      exact ha
  | cons c before =>
      obtain ⟨rfl, hlist⟩ := List.cons.inj hsplit
      exact h before b after hlist

/-- Where there are only digits there is nothing that could be taken for one. -/
theorem harmless_of_forall_ne (h : ∀ a ∈ list, reader.spelled a ≠ none) :
    reader.Harmless list := by
  intro before a after hsplit hnone
  exact absurd hnone (h a (hsplit ▸ List.mem_append_right before List.mem_cons_self))

/-- **What a text spells is read,** if and only if nothing in it is taken for a digit that is
none, or only at a place where this makes no difference. -/
theorem readPairs_eq_iff (h : reader.Spells list bytes) :
    reader.readPairs list = bytes ↔ reader.Harmless list := by
  induction h with
  | nil =>
      refine iff_of_true rfl fun before a after hsplit => ?_
      simp at hsplit
  | @skip a list bytes hnone hlist ih =>
      cases hfirst : reader.first a with
      | none =>
          rw [readPairs_of_none hfirst, ih]
          refine ⟨fun h => harmless_cons h fun _ d hd => ?_, Harmless.of_cons⟩
          rw [hfirst] at hd
          cases hd
      | some d =>
          constructor
          · intro heq
            have hall := hlist.forall_of_readPairs_cons hfirst heq
            refine harmless_cons (fun before b after hsplit hb => ?_) fun _ e he => ?_
            · have hmem : b ∈ list := hsplit ▸ List.mem_append_right before List.mem_cons_self
              rw [hall b hmem] at hb
              cases hb
            · rw [hfirst] at he
              exact Option.some.inj he ▸ hall
          · intro hharmless
            exact hlist.readPairs_cons_of_forall hfirst
              (hharmless [] a list rfl hnone d hfirst)
  | @pair a b d e list bytes ha hb hlist ih =>
      rw [readPairs_of_some (reader.first_eq a d ha), reader.join_eq d b e hb, List.cons.injEq,
        and_iff_right rfl, ih]
      constructor
      · intro h
        refine harmless_cons (harmless_cons h fun hnone => ?_) fun hnone => ?_
        · rw [hb] at hnone
          cases hnone
        · rw [ha] at hnone
          cases hnone
      · exact fun h => h.of_cons.of_cons

/-! ## The last element -/

variable (reader) in
/-- Whether the last element is read, with a digit before it. -/
def lastIsRead : List α → Bool
  | [] => false
  | [_] => false
  | a :: b :: list =>
      match reader.first a with
      | none => lastIsRead (b :: list)
      | some _ => list.isEmpty || lastIsRead list

variable (reader) in
def digitsBeforeLast (list : List α) : ℕ :=
  (list.dropLast.reverse.takeWhile fun a => (reader.first a).isSome).length

theorem lastIsRead_of_none (h : reader.first a = none) :
    reader.lastIsRead (a :: list) = reader.lastIsRead list := by
  cases list with
  | nil => rfl
  | cons b list => rw [lastIsRead, h]

theorem lastIsRead_of_some (h : reader.first a = some d) :
    reader.lastIsRead (a :: b :: list) = (list.isEmpty || reader.lastIsRead list) := by
  rw [lastIsRead, h]

theorem digitsBeforeLast_of_none (h : reader.first a = none) :
    reader.digitsBeforeLast (a :: list) = reader.digitsBeforeLast list := by
  cases list with
  | nil => rfl
  | cons b list =>
      rw [digitsBeforeLast, List.dropLast_cons_cons, List.reverse_cons, List.takeWhile_append,
        List.takeWhile_cons_of_neg (by simp [h]), digitsBeforeLast]
      split
      · rename_i hall
        rw [List.append_nil, hall]
      · rfl

/-- Two more elements before the others change nothing, or they are two more digits. -/
theorem digitsBeforeLast_of_some {c : α} (h : reader.first a = some d) :
    reader.digitsBeforeLast (a :: b :: c :: list) = reader.digitsBeforeLast (c :: list) ∨
      reader.digitsBeforeLast (a :: b :: c :: list) =
        reader.digitsBeforeLast (c :: list) + 2 := by
  have ha : (reader.first a).isSome = true := by simp [h]
  have hlist : (a :: b :: c :: list).dropLast.reverse =
      (c :: list).dropLast.reverse ++ [b, a] := by
    simp
  rw [digitsBeforeLast, hlist, List.takeWhile_append, digitsBeforeLast]
  split
  · rename_i hall
    by_cases hb : (reader.first b).isSome = true
    · have hboth : [b, a].takeWhile (fun a => (reader.first a).isSome) = [b, a] := by
        simp [ha, hb]
      right
      rw [hboth, hall, List.length_append]
      rfl
    · have hnone : [b, a].takeWhile (fun a => (reader.first a).isSome) = [] := by simp [hb]
      left
      rw [hnone, List.append_nil, hall]
  · exact .inl rfl

/-- **The last element is read** if and only if the digits directly before it are odd in number. -/
theorem lastIsRead_iff (reader : PairReader α δ β) (list : List α) :
    reader.lastIsRead list = true ↔ reader.digitsBeforeLast list % 2 = 1 := by
  induction list using readPairs.induct reader with
  | case1 => simp [lastIsRead, digitsBeforeLast]
  | case2 a => simp [lastIsRead, digitsBeforeLast]
  | case3 a b list hnone ih =>
      rw [lastIsRead_of_none hnone, digitsBeforeLast_of_none hnone]
      exact ih
  | case4 a b list d hsome ih =>
      rw [lastIsRead_of_some hsome]
      cases list with
      | nil => simp [digitsBeforeLast, hsome]
      | cons c list =>
          rw [List.isEmpty_cons, Bool.false_or, ih]
          rcases @digitsBeforeLast_of_some _ _ _ reader a b d list c hsome with h | h
          · rw [h]
          · rw [h, Nat.add_mod_right]

end PairReader
