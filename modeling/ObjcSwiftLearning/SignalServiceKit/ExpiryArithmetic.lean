import Mathlib.Algebra.Group.Nat.Defs
import ObjcSwiftLearning.SignalServiceKit.DisappearingMessages

/-!
# When a message expires

`TSMessage` keeps `expiresAt` beside the two fields it is computed from: the initialiser and
both setters compute it anew.  The duration counts seconds in 32 bits and the times count
milliseconds in 64; the duration is multiplied in 32 bits, before it is widened.

* `ExpiringMessage.InSync` — the field kept is the one `TSMessage.expiresAt` computes.
* `ExpiringMessage.isExact_iff` — that is the sum of the integers exactly when neither the
  product nor the sum wraps.
* `ExpiringMessage.exact_throughout_iff` — which messages are exact from their creation on.
-/

namespace ObjcSwiftLearning.SignalServiceKit

def validDurationsSeconds : List UInt32 :=
  [5, 10, 30, 60, 5 * 60, 30 * 60, 60 * 60, 6 * 60 * 60, 12 * 60 * 60, 24 * 60 * 60,
    7 * 24 * 60 * 60]

def maxDurationSeconds : UInt32 := validDurationsSeconds.foldl max 0

example : maxDurationSeconds = 604800 := by decide

structure ExpiringMessage extends TSMessage where
  storedExpiresAt : UInt64

/-- A call of one of the two setters; the second reads the clock. -/
inductive ExpirySetter where
  | setExpiresInSeconds (expiresInSeconds : UInt32)
  | setExpireStartedAt (expireStartedAt now : UInt64)

namespace ExpiringMessage

/-- `updateExpiresAt`, of a message whose other fields have been set. -/
def updateExpiresAt (message : TSMessage) : ExpiringMessage :=
  { message with
    storedExpiresAt :=
      if 0 < message.expiresInSeconds ∧ 0 < message.expireStartedAt then
        message.expireStartedAt + (message.expiresInSeconds * 1000).toUInt64
      else 0 }

def initMessage (kind : TSMessageKind) (timestampForSorting : UInt64) (expiresInSeconds : UInt32)
    (expireStartedAt : UInt64) : ExpiringMessage :=
  updateExpiresAt { kind, timestampForSorting, expiresInSeconds, expireStartedAt }

variable (message : ExpiringMessage)

def setExpiresInSeconds (expiresInSeconds : UInt32) : ExpiringMessage :=
  updateExpiresAt { message.toTSMessage with
    expiresInSeconds := min expiresInSeconds maxDurationSeconds }

def setStartedAt (expireStartedAt now : UInt64) : ExpiringMessage :=
  if message.expireStartedAt ≠ 0 ∧ message.expireStartedAt < expireStartedAt then message
  else updateExpiresAt { message.toTSMessage with expireStartedAt := min now expireStartedAt }

def apply : ExpirySetter → ExpiringMessage
  | .setExpiresInSeconds expiresInSeconds => message.setExpiresInSeconds expiresInSeconds
  | .setExpireStartedAt expireStartedAt now => message.setStartedAt expireStartedAt now

def applyAll (setters : List ExpirySetter) : ExpiringMessage := setters.foldl apply message

/-! ## The field that is kept -/

/-- The field kept is the one computed. -/
def InSync : Prop := message.storedExpiresAt = message.toTSMessage.expiresAt

theorem inSync_updateExpiresAt (message : TSMessage) : (updateExpiresAt message).InSync := rfl

variable {message}

theorem InSync.apply (h : message.InSync) (setter : ExpirySetter) :
    (message.apply setter).InSync := by
  cases setter with
  | setExpiresInSeconds expiresInSeconds => exact inSync_updateExpiresAt _
  | setExpireStartedAt expireStartedAt now =>
      simp only [ExpiringMessage.apply, setStartedAt]
      split
      · exact h
      · exact inSync_updateExpiresAt _

/-! ## The sum of the integers -/

/-- With both fields set, the field is their sum over the integers, and not before the
start; otherwise it is zero. -/
def IsExact (message : ExpiringMessage) : Prop :=
  if message.expiresInSeconds ≠ 0 ∧ message.expireStartedAt ≠ 0 then
    message.storedExpiresAt.toNat =
        message.expireStartedAt.toNat + 1000 * message.expiresInSeconds.toNat ∧
      message.expireStartedAt ≤ message.storedExpiresAt
  else message.storedExpiresAt = 0

/-- Neither the product nor the sum of a duration and a start wraps, if they are summed. -/
def Fits (expiresInSeconds : UInt32) (expireStartedAt : UInt64) : Prop :=
  expiresInSeconds = 0 ∨ expireStartedAt = 0 ∨
    (1000 * expiresInSeconds.toNat < 2 ^ 32 ∧
      expireStartedAt.toNat + 1000 * expiresInSeconds.toNat < 2 ^ 64)

/-- The sum that is computed, over the integers. -/
theorem toNat_add_mul (expiresInSeconds : UInt32) (expireStartedAt : UInt64) :
    (expireStartedAt + (expiresInSeconds * 1000).toUInt64).toNat =
      (expireStartedAt.toNat + 1000 * expiresInSeconds.toNat % 2 ^ 32) % 2 ^ 64 := by
  rw [UInt64.toNat_add, UInt32.toNat_toUInt64, UInt32.toNat_mul, Nat.mul_comm]
  rfl

/-- **The sum is exact when it fits.** -/
theorem isExact_iff (h : message.InSync) :
    message.IsExact ↔ Fits message.expiresInSeconds message.expireStartedAt := by
  have hstored : message.storedExpiresAt = message.toTSMessage.expiresAt := h
  have hstart := message.expireStartedAt.toNat_lt
  have hduration := message.expiresInSeconds.toNat_lt
  rw [IsExact, Fits, hstored, TSMessage.expiresAt]
  by_cases hset : message.expiresInSeconds ≠ 0 ∧ message.expireStartedAt ≠ 0
  · have hpos : 0 < message.expiresInSeconds ∧ 0 < message.expireStartedAt :=
      ⟨UInt32.pos_iff_ne_zero.mpr hset.1, UInt64.pos_iff_ne_zero.mpr hset.2⟩
    rw [if_pos hset, if_pos hpos, UInt64.le_iff_toNat_le, toNat_add_mul]
    constructor
    · rintro ⟨hsum, -⟩
      -- A wrapped product is too small, and so is a wrapped sum.
      have hwrapped := Nat.mod_lt (1000 * message.expiresInSeconds.toNat)
        (by decide : 0 < 2 ^ 32)
      have hle := Nat.mod_le (message.expireStartedAt.toNat +
        1000 * message.expiresInSeconds.toNat % 2 ^ 32) (2 ^ 64)
      have hlt := Nat.mod_lt (message.expireStartedAt.toNat +
        1000 * message.expiresInSeconds.toNat % 2 ^ 32) (by decide : 0 < 2 ^ 64)
      rw [hsum] at hle hlt
      refine .inr (.inr ⟨?_, hlt⟩)
      by_contra hwraps
      omega
    · rintro (hzero | hzero | ⟨hproduct, hsum⟩)
      · exact absurd hzero hset.1
      · exact absurd hzero hset.2
      · rw [Nat.mod_eq_of_lt hproduct, Nat.mod_eq_of_lt hsum]
        exact ⟨rfl, Nat.le_add_right _ _⟩
  · have hzero : message.expiresInSeconds = 0 ∨ message.expireStartedAt = 0 := by
      by_contra hne
      exact hset (not_or.mp hne)
    rw [if_neg hset]
    rcases hzero with hzero | hzero <;> simp [hzero]

/-! ## Exact from the creation on -/

theorem product_min_maxDurationSeconds_lt (expiresInSeconds : UInt32) :
    1000 * (min expiresInSeconds maxDurationSeconds).toNat < 2 ^ 32 := by
  have hle : min expiresInSeconds maxDurationSeconds ≤ maxDurationSeconds := by
    rw [show min expiresInSeconds maxDurationSeconds =
      if expiresInSeconds ≤ maxDurationSeconds then expiresInSeconds else maxDurationSeconds from rfl]
    split
    · assumption
    · exact UInt32.le_refl _
  have hmax : maxDurationSeconds.toNat = 604800 := by decide
  rw [UInt32.le_iff_toNat_le, hmax] at hle
  omega

/-- The setter, called on this message, leaves a sum that does not wrap: a duration is a
week at most, and only its sum with the start matters; a start is ignored, or taken
together with the duration there is. -/
def SetterFits (message : ExpiringMessage) : ExpirySetter → Prop
  | .setExpiresInSeconds expiresInSeconds =>
      min expiresInSeconds maxDurationSeconds = 0 ∨ message.expireStartedAt = 0 ∨
        message.expireStartedAt.toNat + 1000 * (min expiresInSeconds maxDurationSeconds).toNat <
          2 ^ 64
  | .setExpireStartedAt expireStartedAt now =>
      (message.expireStartedAt ≠ 0 ∧ message.expireStartedAt < expireStartedAt) ∨
        Fits message.expiresInSeconds (min now expireStartedAt)

/-- Exactness after a setter. -/
theorem isExact_apply_iff (h : message.InSync) (hexact : message.IsExact)
    (setter : ExpirySetter) : (message.apply setter).IsExact ↔ message.SetterFits setter := by
  rw [isExact_iff (h.apply setter)]
  cases setter with
  | setExpiresInSeconds expiresInSeconds =>
      have hproduct := product_min_maxDurationSeconds_lt expiresInSeconds
      simp only [apply, setExpiresInSeconds, updateExpiresAt, Fits, SetterFits, hproduct, true_and]
  | setExpireStartedAt expireStartedAt now =>
      simp only [apply, setStartedAt, SetterFits]
      by_cases hlater : message.expireStartedAt ≠ 0 ∧ message.expireStartedAt < expireStartedAt
      · rw [if_pos hlater]
        exact iff_of_true ((isExact_iff h).mp hexact) (.inl hlater)
      · rw [if_neg hlater]
        simp only [hlater, false_or, updateExpiresAt]

def SettersFit (message : ExpiringMessage) : List ExpirySetter → Prop
  | [] => True
  | setter :: setters => message.SetterFits setter ∧ (message.apply setter).SettersFit setters

/-- **From an exact message on**: exact after every call, exactly when every call fits. -/
theorem IsExact.throughout_iff (h : message.InSync) (hexact : message.IsExact)
    (setters : List ExpirySetter) :
    (∀ called, called <+: setters → (message.applyAll called).IsExact) ↔
      message.SettersFit setters := by
  induction setters generalizing message with
  | nil =>
      refine iff_of_true (fun called hcalled => ?_) trivial
      rw [List.prefix_nil.mp hcalled]
      exact hexact
  | cons setter setters ih =>
      rw [SettersFit, ← isExact_apply_iff h hexact]
      constructor
      · intro hall
        have hfirst : (message.apply setter).IsExact :=
          hall [setter] (List.prefix_cons_inj setter |>.mpr List.nil_prefix)
        refine ⟨hfirst, (ih (h.apply setter) hfirst).mp fun called hcalled => ?_⟩
        exact hall (setter :: called) ((List.prefix_cons_inj setter).mpr hcalled)
      · rintro ⟨hfirst, hrest⟩ called hcalled
        cases called with
        | nil => exact hexact
        | cons called₀ called =>
            obtain ⟨rfl, htail⟩ := List.cons_prefix_cons.mp hcalled
            exact (ih (h.apply called₀) hfirst).mpr hrest called htail

/-- **When expiry is exact**: a message and whatever its setters make of it expire at the sum
of the integers, at each point of its life, exactly when the duration and the start it is
created with fit, and each call of a setter fits. -/
theorem exact_throughout_iff (kind : TSMessageKind) (timestampForSorting : UInt64)
    (expiresInSeconds : UInt32) (expireStartedAt : UInt64) (setters : List ExpirySetter) :
    (∀ called, called <+: setters →
      ((initMessage kind timestampForSorting expiresInSeconds expireStartedAt).applyAll
        called).IsExact) ↔
      Fits expiresInSeconds expireStartedAt ∧
        (initMessage kind timestampForSorting expiresInSeconds expireStartedAt).SettersFit
          setters := by
  have hsync : (initMessage kind timestampForSorting expiresInSeconds expireStartedAt).InSync :=
    inSync_updateExpiresAt _
  constructor
  · intro hall
    have hexact : (initMessage kind timestampForSorting expiresInSeconds
      expireStartedAt).IsExact := hall [] List.nil_prefix
    exact ⟨(isExact_iff hsync).mp hexact, (hexact.throughout_iff hsync setters).mp hall⟩
  · rintro ⟨hfits, hsetters⟩
    exact (IsExact.throughout_iff hsync ((isExact_iff hsync).mpr hfits) setters).mpr hsetters

/-- **A long timer ends early**: fifty days and a start at one millisecond expire 705
milliseconds after the epoch. -/
theorem long_timer_not_exact :
    ¬(initMessage .other 0 4294968 1).IsExact ∧
      (initMessage .other 0 4294968 1).storedExpiresAt = 705 := by
  have hsync : (initMessage .other 0 4294968 1).InSync := inSync_updateExpiresAt _
  constructor
  · rw [isExact_iff hsync]
    unfold Fits
    decide
  · decide

end ExpiringMessage

end ObjcSwiftLearning.SignalServiceKit
