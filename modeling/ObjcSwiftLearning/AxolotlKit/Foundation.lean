import Mathlib.Data.List.Basic
import ObjcSwiftLearning.Library.Procedure

/-!
# Bytes, keys and exceptions

The vocabulary of the kit's Objective-C code.

* `NSData` — a byte string.  Its length is bounded by the address space, so the
  `length >= SIZE_MAX` guards of the source never fire and are not modelled.
* `Bytes n` — a byte string that carries its length.  Every key the kit creates
  has passed an `OWSAssert` on its length, so the assertion is the type.
* `Failure` — how a method ends without a result: an `NSException` travels up
  to the next `@catch`; a failed `OWSAssert` terminates the process and cannot
  be caught.
* `prependKeyType` / `throwsRemoveKeyType` — the type byte that distinguishes a
  key on the wire (33 bytes) from a key in a computation (32 bytes).
-/

namespace ObjcSwiftLearning.AxolotlKit

abbrev NSData := List UInt8

abbrev Bytes (n : ℕ) := {data : NSData // data.length = n}

/-- A 32-byte key: `ECCKeyLength`, and the length of an HMAC-SHA256 digest. -/
abbrev Key := Bytes 32

def utf8 (s : String) : NSData := s.toUTF8.data.toList

/-! ## Failures -/

/-- The exception names of `AxolotlExceptions.h`, with the one Foundation name
the kit also raises. -/
inductive ExceptionName where
  | untrustedIdentityKeyException
  | invalidKeyIdException
  | invalidKeyException
  | noSessionException
  | invalidMessageException
  | cipherException
  | duplicateMessageException
  | legacyMessageException
  | invalidVersionException
  | invalidArgumentException
  deriving DecidableEq, Repr

/-- `NSException`: a name to dispatch on and a reason to log. -/
structure NSException where
  name : ExceptionName
  reason : String
  deriving DecidableEq, Repr

/-- A method that does not return has raised, or has terminated the process on
a failed `OWSAssert`. -/
inductive Failure where
  | raised (exception : NSException)
  | terminated (assertion : String)
  deriving DecidableEq, Repr

/-- `@throw [NSException exceptionWithName:reason:userInfo:]`. -/
def exception (name : ExceptionName) (reason : String) : Failure :=
  .raised ⟨name, reason⟩

/-- `@catch (NSException *exception)`: a handler sees exceptions only. -/
def Failure.catchWith (handler : NSException → Failure) : Failure → Failure
  | .raised e => handler e
  | .terminated assertion => .terminated assertion

/-- A method that returns or raises: the process goes on. -/
def Survives {α : Type} (result : Except Failure α) : Prop :=
  ∀ assertion, result ≠ .error (.terminated assertion)

/-- A method that returns, or raises an exception and nothing else. -/
def OnlyRaises {α : Type} (result : Except Failure α) : Prop :=
  ∀ failure, result = .error failure → ∃ e, failure = .raised e

def assertNonNil {α : Type} (assertion : String) : Option α → Except Failure α
  | some a => .ok a
  | none => .error (.terminated assertion)

/-! Sequencing computations that may fail. -/

@[simp] theorem ok_bind {α β : Type} (a : α) (f : α → Except Failure β) :
    (Except.ok a >>= f) = f a := rfl

@[simp] theorem error_bind {α β : Type} (e : Failure) (f : α → Except Failure β) :
    (Except.error e >>= f) = Except.error e := rfl

@[simp] theorem pure_eq_ok {α : Type} (a : α) : (pure a : Except Failure α) = .ok a := rfl

/-- A sequence returns exactly when both of its parts do. -/
theorem bind_eq_ok {ε α β : Type} {x : Except ε α} {f : α → Except ε β} {b : β} :
    (x >>= f) = .ok b ↔ ∃ a, x = .ok a ∧ f a = .ok b := by
  cases x with
  | error failure =>
      refine iff_of_false (fun h => by cases h) ?_
      rintro ⟨a, ha, -⟩
      cases ha
  | ok a =>
      refine ⟨fun h => ⟨a, rfl, h⟩, ?_⟩
      rintro ⟨other, ha, h⟩
      obtain rfl := Except.ok.inj ha
      exact h

/-- A sequence fails in its first part, or after it. -/
theorem bind_eq_error {α β : Type} {x : Except Failure α} {f : α → Except Failure β}
    {failure : Failure} :
    (x >>= f) = .error failure ↔
      x = .error failure ∨ ∃ a, x = .ok a ∧ f a = .error failure := by
  cases x with
  | ok a => simp
  | error failure => simp

section OnlyRaises

variable {α β : Type}

@[simp] theorem onlyRaises_ok (a : α) : OnlyRaises (.ok a) := by
  intro failure h
  cases h

@[simp] theorem onlyRaises_exception (name : ExceptionName) (reason : String) :
    OnlyRaises (α := α) (.error (exception name reason)) := by
  rintro failure ⟨⟩
  exact ⟨_, rfl⟩

theorem OnlyRaises.bind {x : Except Failure α} {f : α → Except Failure β} (hx : OnlyRaises x)
    (hf : ∀ a, x = .ok a → OnlyRaises (f a)) : OnlyRaises (x >>= f) := by
  intro failure h
  obtain h | ⟨a, ha, h⟩ := bind_eq_error.mp h
  · exact hx failure h
  · exact hf a ha failure h

end OnlyRaises

/-! ## Messages to `nil`

`-isEqualToData:` sent to `nil` answers `NO`, and no data equals `nil`. -/

/-- `[receiver isEqualToData:other]`. -/
def isEqualToData : Option NSData → Option NSData → Bool
  | some a, some b => a == b
  | _, _ => false

theorem isEqualToData_eq_true {a b : Option NSData} :
    isEqualToData a b = true ↔ ∃ d, a = some d ∧ b = some d := by
  cases a with
  | none => simp [isEqualToData]
  | some a =>
      cases b with
      | none => simp [isEqualToData]
      | some b =>
          constructor
          · intro h
            have hab : a = b := by simpa [isEqualToData] using h
            exact ⟨a, rfl, by rw [hab]⟩
          · rintro ⟨d, ⟨⟩, ⟨⟩⟩
            simp [isEqualToData]

@[simp] theorem isEqualToData_some (a b : NSData) :
    isEqualToData (some a) (some b) = (a == b) := rfl

/-! ## The key type byte -/

def djbType : UInt8 := 0x05

def prependKeyType (key : NSData) : NSData :=
  if key.length = 32 then djbType :: key else key

def throwsRemoveKeyType (key : NSData) : Except Failure NSData :=
  if key.length = 33 then
    if key.take 1 = [djbType] then .ok (key.drop 1)
    else .error (exception .invalidKeyException "Key type is incorrect")
  else .ok key

theorem throwsRemoveKeyType_error {key : NSData} {failure : Failure}
    (h : throwsRemoveKeyType key = .error failure) :
    failure = exception .invalidKeyException "Key type is incorrect" := by
  unfold throwsRemoveKeyType at h
  split at h
  · split at h
    · simp at h
    · exact (Except.error.inj h).symm
  · simp at h

theorem onlyRaises_throwsRemoveKeyType (key : NSData) : OnlyRaises (throwsRemoveKeyType key) := by
  intro failure h
  exact ⟨_, throwsRemoveKeyType_error h⟩

theorem prependKeyType_of_key (key : Key) : prependKeyType key.val = djbType :: key.val := by
  simp [prependKeyType, key.property]

@[simp] theorem length_prependKeyType_key (key : Key) :
    (prependKeyType key.val).length = 33 := by
  simp [prependKeyType_of_key, key.property]

/-- The type byte is added at most once. -/
@[simp] theorem prependKeyType_prependKeyType (key : NSData) :
    prependKeyType (prependKeyType key) = prependKeyType key := by
  unfold prependKeyType
  split
  · simp_all
  · simp_all

@[simp] theorem throwsRemoveKeyType_prependKeyType (key : Key) :
    throwsRemoveKeyType (prependKeyType key.val) = .ok key.val := by
  simp [throwsRemoveKeyType, prependKeyType_of_key, key.property]

@[simp] theorem throwsRemoveKeyType_key (key : Key) :
    throwsRemoveKeyType key.val = .ok key.val := by
  simp [throwsRemoveKeyType, key.property]

end ObjcSwiftLearning.AxolotlKit
