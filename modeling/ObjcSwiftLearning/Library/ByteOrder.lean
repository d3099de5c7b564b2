import Mathlib.Algebra.Group.Nat.Defs
import Mathlib.Data.Nat.Notation
import Mathlib.Tactic.Common

/-!
# The order of the bytes of a number

A number of a fixed width is stored with its lowest byte first, or with its highest.

* `ByteOrder.value`, `ByteOrder.bytes` — the number of some bytes, lowest first, and the bytes
  of a number.
* `ByteOrder.value_bytes`, `ByteOrder.bytes_value` — one is read back from the other.
* `ByteOrder.bytes_inj` — numbers that fit have different bytes.
-/

namespace ByteOrder

/-- The number that some bytes are, the lowest byte first. -/
def value : List UInt8 → ℕ
  | [] => 0
  | byte :: bytes => byte.toNat + 256 * value bytes

/-- The lowest `width` bytes of a number, the lowest first. -/
def bytes : ℕ → ℕ → List UInt8
  | 0, _ => []
  | width + 1, number => UInt8.ofNat number :: bytes width (number / 256)

@[simp] theorem length_bytes (width number : ℕ) : (bytes width number).length = width := by
  induction width generalizing number with
  | zero => rfl
  | succ width ih => rw [bytes, List.length_cons, ih]

theorem value_lt (list : List UInt8) : value list < 256 ^ list.length := by
  induction list with
  | nil => decide
  | cons byte list ih =>
      have hbyte := byte.toNat_lt
      rw [value, List.length_cons, Nat.pow_succ]
      omega

/-- **What is written is read back**, if it fits. -/
theorem value_bytes (width number : ℕ) : value (bytes width number) = number % 256 ^ width := by
  induction width generalizing number with
  | zero => rw [bytes, value, Nat.pow_zero, Nat.mod_one]
  | succ width ih =>
      have hlow : (UInt8.ofNat number).toNat = number % 256 := UInt8.toNat_ofNat'
      rw [bytes, value, ih, hlow, Nat.pow_succ, Nat.mul_comm (256 ^ width) 256, Nat.mod_mul]

/-- **What is read is written back.** -/
theorem bytes_value (list : List UInt8) : bytes list.length (value list) = list := by
  induction list with
  | nil => rfl
  | cons byte list ih =>
      have hbyte := byte.toNat_lt
      have hhigh : (byte.toNat + 256 * value list) / 256 = value list := by omega
      have hlow : UInt8.ofNat (byte.toNat + 256 * value list) = byte := by
        refine UInt8.toNat_inj.mp ?_
        rw [UInt8.toNat_ofNat']
        omega
      rw [value, List.length_cons, bytes, hhigh, hlow, ih]

theorem value_eq_zero {list : List UInt8} : value list = 0 ↔ ∀ byte ∈ list, byte = 0 := by
  induction list with
  | nil => simp [value]
  | cons byte list ih =>
      have hbyte : byte.toNat = 0 ↔ byte = 0 := UInt8.toNat_inj (b := 0)
      rw [value, List.forall_mem_cons, ← ih, ← hbyte]
      omega

theorem bytes_inj {width number other : ℕ} (hnumber : number < 256 ^ width)
    (hother : other < 256 ^ width) (hsame : bytes width number = bytes width other) :
    number = other := by
  have hvalue := congrArg value hsame
  rwa [value_bytes, value_bytes, Nat.mod_eq_of_lt hnumber, Nat.mod_eq_of_lt hother] at hvalue

end ByteOrder
