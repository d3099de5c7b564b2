import Mathlib.Data.Nat.Digits.Defs
import Mathlib.Tactic.Common

/-!
# Decimal numbers

The number that a text of digits denotes, and when two texts denote the same.

* `Decimal.value` — the number of a text.
* `Decimal.stripped_eq_of_value_eq` — texts of one number differ by leading zeros only.
-/

namespace Decimal

def IsDigit (c : Char) : Prop := 48 ≤ c.toNat ∧ c.toNat ≤ 57

instance (c : Char) : Decidable (IsDigit c) :=
  inferInstanceAs (Decidable (48 ≤ c.toNat ∧ c.toNat ≤ 57))

def digitValue (c : Char) : ℕ := c.toNat - 48

/-- The number that digits denote, behind those that denote `high`. -/
def valueFrom (high : ℕ) (text : List Char) : ℕ :=
  text.foldl (fun number c => 10 * number + digitValue c) high

/-- The number that digits denote. -/
def value (text : List Char) : ℕ := valueFrom 0 text

variable {text other : List Char}

theorem valueFrom_cons (high : ℕ) (c : Char) (text : List Char) :
    valueFrom high (c :: text) = valueFrom (10 * high + digitValue c) text := by
  rw [valueFrom, List.foldl_cons, valueFrom]

theorem le_valueFrom (high : ℕ) (text : List Char) : high ≤ valueFrom high text := by
  induction text generalizing high with
  | nil => exact Nat.le_refl high
  | cons c text ih =>
      have hnext := ih (10 * high + digitValue c)
      rw [valueFrom_cons]
      omega

theorem value_eq_ofDigits (text : List Char) :
    value text = Nat.ofDigits 10 (text.reverse.map digitValue) := by
  rw [value, valueFrom, ← List.foldr_reverse]
  induction text.reverse with
  | nil => rfl
  | cons c list ih => rw [List.foldr_cons, ih, List.map_cons, Nat.ofDigits_cons, Nat.add_comm]

/-- Leading zeros do not count. -/
theorem value_dropWhile (text : List Char) : value (text.dropWhile (· == '0')) = value text := by
  induction text with
  | nil => rfl
  | cons c text ih =>
      by_cases hc : c = '0'
      · subst hc
        rw [List.dropWhile_cons_of_pos (by rfl), ih]
        rfl
      · rw [List.dropWhile_cons_of_neg (by simpa using hc)]

theorem ofNat_digitValue {c : Char} (hc : IsDigit c) : Char.ofNat (48 + digitValue c) = c := by
  rw [digitValue, Nat.add_sub_cancel' hc.1, Char.ofNat_toNat]

theorem eq_zero_of_digitValue {c : Char} (hc : IsDigit c) (hzero : digitValue c = 0) : c = '0' := by
  rw [← ofNat_digitValue hc, hzero]

theorem digits_value (hdigits : ∀ c ∈ text, IsDigit c) :
    Nat.digits 10 (value text) = ((text.dropWhile (· == '0')).reverse.map digitValue) := by
  rw [← value_dropWhile, value_eq_ofDigits]
  have hsubset : ∀ c ∈ text.dropWhile (· == '0'), IsDigit c := fun c hc =>
    hdigits c ((List.dropWhile_sublist _).subset hc)
  refine Nat.digits_ofDigits 10 (by decide) _ ?_ ?_
  · intro n hn
    obtain ⟨c, hc, rfl⟩ := List.mem_map.mp hn
    have hdigit := hsubset c (List.mem_reverse.mp hc)
    have hle := hdigit.2
    rw [digitValue]
    omega
  · have hnot := List.head?_dropWhile_not (· == '0') text
    generalize text.dropWhile (· == '0') = stripped at hsubset hnot
    intro hne hzero
    cases stripped with
    | nil => exact hne rfl
    | cons c rest =>
        have hc := hsubset c List.mem_cons_self
        simp only [List.reverse_cons, List.map_append, List.map_cons, List.map_nil,
          List.getLast_concat] at hzero
        rw [eq_zero_of_digitValue hc hzero] at hnot
        cases hnot

/-- **Texts of one number** differ by leading zeros only. -/
theorem stripped_eq_of_value_eq (htext : ∀ c ∈ text, IsDigit c) (hother : ∀ c ∈ other, IsDigit c)
    (hvalue : value text = value other) :
    text.dropWhile (· == '0') = other.dropWhile (· == '0') := by
  have hback : ∀ {text : List Char}, (∀ c ∈ text, IsDigit c) →
      ((Nat.digits 10 (value text)).map fun digit => Char.ofNat (48 + digit)).reverse =
        text.dropWhile (· == '0') := by
    intro text hdigits
    have hsame : ∀ c ∈ (text.dropWhile (· == '0')).reverse,
        ((fun digit => Char.ofNat (48 + digit)) ∘ digitValue) c = c := fun c hc =>
      ofNat_digitValue (hdigits c ((List.dropWhile_sublist _).subset (List.mem_reverse.mp hc)))
    rw [digits_value hdigits, List.map_map, List.map_congr_left hsame, List.map_id',
      List.reverse_reverse]
  rw [← hback htext, ← hback hother, hvalue]

end Decimal
