import ObjcSwiftLearning.AxolotlKit.Foundation

/-!
# Reading bytes

A `ByteParser` goes through its data with a cursor.  A read that would go beyond the end
sets `hasError`, which nothing takes back; a number is then `0` and the cursor moves on all
the same.

* `ByteParser.ByteReader` — what a caller may do, with numbers or with words.
* `ByteParser.KeepsError` — a computation that leaves an error where there is one.
-/

namespace ObjcSwiftLearning.SignalServiceKit

open AxolotlKit

structure ByteParser where
  littleEndian : Bool
  data : NSData
  cursor : ℕ
  hasError : Bool

namespace ByteParser

/-- A method that goes on with the parser, or returns `nil`. -/
abbrev Parse (α : Type) := StateT ByteParser Option α

def initWithData (data : NSData) (littleEndian : Bool) : ByteParser where
  littleEndian := littleEndian
  data := data
  cursor := 0
  hasError := false

/-! ## Numbers -/

/-- The number that some bytes are. -/
def integerOfBytes (littleEndian : Bool) (bytes : NSData) : ℕ :=
  (if littleEndian then bytes.reverse else bytes).foldl
    (fun value byte => value * 256 + byte.toNat) 0

/-- `shortAtIndex:`, `intAtIndex:` and `longAtIndex:`, which differ in the size. -/
def integerAtIndex (parser : ByteParser) (valueSize index : ℕ) : ℕ × ByteParser :=
  if parser.data.length < index + valueSize then (0, { parser with hasError := true })
  else (integerOfBytes parser.littleEndian ((parser.data.drop index).take valueSize), parser)

def nextInteger (valueSize : ℕ) : Parse ℕ := fun parser =>
  let (value, parser) := parser.integerAtIndex valueSize parser.cursor
  some (value, { parser with cursor := parser.cursor + valueSize })

def nextShort : Parse UInt16 := do return .ofNat (← nextInteger 2)

def nextInt : Parse UInt32 := do return .ofNat (← nextInteger 4)

def nextLong : Parse UInt64 := do return .ofNat (← nextInteger 8)

/-! ## Bytes -/

def readBytes (length : ℕ) : Parse (Option NSData) := fun parser =>
  if parser.data.length < parser.cursor + length then
    some (none, { parser with hasError := true })
  else
    some (some ((parser.data.drop parser.cursor).take length),
      { parser with cursor := parser.cursor + length })

def readZero (length : ℕ) : Parse Bool := do
  match ← readBytes length with
  | none => return false
  | some subdata => return subdata.all (· == 0)

/-! ## What a caller may do -/

/-- What a caller of a byte parser may do, whatever the parser counts with. -/
class ByteReader (m : Type → Type) where
  nextShort : m UInt16
  nextInt : m UInt32
  nextLong : m UInt64
  readBytes (length : ℕ) : m (Option NSData)
  readZero (length : ℕ) : m Bool
  hasError : m Bool
  /-- `return nil;` in the caller. -/
  nil {α : Type} : m α

instance : ByteReader (StateT ByteParser Option) where
  nextShort := nextShort
  nextInt := nextInt
  nextLong := nextLong
  readBytes := readBytes
  readZero := readZero
  hasError := do return (← get).hasError
  nil := failure

/-- `nil` ends the method. -/
def orNil {m : Type → Type} [Monad m] [ByteReader m] {α : Type} : Option α → m α
  | some a => pure a
  | none => ByteReader.nil

/-- A test whose failure ends the method. -/
def require {m : Type → Type} [Monad m] [ByteReader m] (c : Prop) [Decidable c] : m Unit :=
  if c then pure () else ByteReader.nil

/-! ## What a computation does to errors -/

/-- A computation that leaves an error where there is one. -/
def KeepsError {α : Type} (m : Parse α) : Prop :=
  ∀ parser a parser', m.run parser = some (a, parser') → parser.hasError = true →
    parser'.hasError = true

theorem keepsError_nextInteger (valueSize : ℕ) : KeepsError (nextInteger valueSize) := by
  intro parser a parser' hrun herror
  by_cases hshort : parser.data.length < parser.cursor + valueSize
  · simp only [nextInteger, integerAtIndex, StateT.run, if_pos hshort, Option.some.injEq,
      Prod.mk.injEq] at hrun
    rw [← hrun.2]
  · simp only [nextInteger, integerAtIndex, StateT.run, if_neg hshort, Option.some.injEq,
      Prod.mk.injEq] at hrun
    rw [← hrun.2]
    exact herror

theorem keepsError_readBytes (length : ℕ) : KeepsError (readBytes length) := by
  intro parser a parser' hrun herror
  by_cases hshort : parser.data.length < parser.cursor + length
  · simp only [readBytes, StateT.run, if_pos hshort, Option.some.injEq, Prod.mk.injEq] at hrun
    rw [← hrun.2]
  · simp only [readBytes, StateT.run, if_neg hshort, Option.some.injEq, Prod.mk.injEq] at hrun
    rw [← hrun.2]
    exact herror

theorem KeepsError.bind {α β : Type} {m : Parse α} {f : α → Parse β} (hm : KeepsError m)
    (hf : ∀ a, KeepsError (f a)) : KeepsError (m >>= f) := by
  intro parser b parser₂ hrun herror
  rw [StateT.run_bind, Option.bind_eq_bind, Option.bind_eq_some_iff] at hrun
  obtain ⟨⟨a, parser₁⟩, hfirst, hsecond⟩ := hrun
  exact hf a parser₁ b parser₂ hsecond (hm parser a parser₁ hfirst herror)

theorem KeepsError.map {α β : Type} {m : Parse α} {g : α → β} (hm : KeepsError m) :
    KeepsError (do return g (← m)) := by
  refine hm.bind fun a parser b parser' hrun herror => ?_
  obtain ⟨-, rfl⟩ := Prod.mk.inj (Option.some.inj hrun)
  exact herror

theorem keepsError_nextInt : KeepsError nextInt := (keepsError_nextInteger 4).map

end ByteParser

end ObjcSwiftLearning.SignalServiceKit
