import Mathlib.Algebra.Group.Nat.Defs
import Mathlib.Data.Nat.Notation
import Mathlib.Tactic.Common

/-!
# Numbers in base 128

A number as bytes of seven bits, the lowest first, of which all but the last have their highest
bit set.

* `Base128.write`, `Base128.read` — the bytes of a number, and the number at the start of bytes.
* `Base128.read_write` — what is written is read, whatever follows.
* `Base128.eq_of_write_isPrefix` — **it is a prefix code.**
-/

namespace Base128

def write (number : ℕ) : List UInt8 :=
  if number < 128 then [UInt8.ofNat number]
  else UInt8.ofNat (number % 128 + 128) :: write (number / 128)
termination_by number
decreasing_by omega

/-- The number at the start of some bytes, and what follows it. -/
def read : List UInt8 → Option (ℕ × List UInt8)
  | [] => none
  | byte :: rest =>
      if byte.toNat < 128 then some (byte.toNat, rest)
      else (read rest).map fun high => (byte.toNat - 128 + 128 * high.1, high.2)

theorem toNat_ofNat {number : ℕ} (hlt : number < 256) : (UInt8.ofNat number).toNat = number := by
  rw [UInt8.toNat_ofNat']
  exact Nat.mod_eq_of_lt hlt

theorem write_of_lt {number : ℕ} (hlt : number < 128) : write number = [UInt8.ofNat number] := by
  rw [write, if_pos hlt]

theorem write_of_le {number : ℕ} (hle : 128 ≤ number) :
    write number = UInt8.ofNat (number % 128 + 128) :: write (number / 128) := by
  rw [write, if_neg (Nat.not_lt.mpr hle)]

/-- **What is written is read**, whatever follows. -/
theorem read_write (number : ℕ) (rest : List UInt8) :
    read (write number ++ rest) = some (number, rest) := by
  induction number using Nat.strongRecOn with
  | ind number ih =>
      by_cases hlt : number < 128
      · have hbyte : (UInt8.ofNat number).toNat = number := toNat_ofNat (by omega)
        rw [write_of_lt hlt, List.singleton_append, read, hbyte, if_pos hlt]
      · have hbyte : (UInt8.ofNat (number % 128 + 128)).toNat = number % 128 + 128 :=
          toNat_ofNat (by omega)
        have hnumber : number % 128 + 128 - 128 + 128 * (number / 128) = number := by omega
        rw [write_of_le (Nat.not_lt.mp hlt), List.cons_append, read, hbyte, if_neg (by omega),
          ih (number / 128) (by omega), Option.map_some, hnumber]

theorem length_of_read {bytes : List UInt8} {result : ℕ × List UInt8}
    (hread : read bytes = some result) : result.2.length < bytes.length := by
  induction bytes generalizing result with
  | nil => cases hread
  | cons byte rest ih =>
      rw [read] at hread
      split at hread
      · cases hread
        exact Nat.lt_succ_self _
      · obtain ⟨high, hhigh, rfl⟩ := Option.map_eq_some_iff.mp hread
        have hrest : high.2.length < rest.length := ih hhigh
        exact Nat.lt_trans hrest (Nat.lt_succ_self _)

theorem write_append_inj {number other : ℕ} {rest rest' : List UInt8}
    (hsame : write number ++ rest = write other ++ rest') : number = other ∧ rest = rest' := by
  have hread := read_write number rest
  rw [hsame, read_write other rest'] at hread
  obtain ⟨hother, hrest⟩ := Prod.mk.inj (Option.some.inj hread)
  exact ⟨hother.symm, hrest.symm⟩

/-- **A prefix code**: no number's bytes begin with another's. -/
theorem eq_of_write_isPrefix {number other : ℕ} (hstart : write number <+: write other) :
    number = other := by
  obtain ⟨rest, hrest⟩ := hstart
  rw [← List.append_nil (write other)] at hrest
  exact (write_append_inj hrest).1

end Base128
