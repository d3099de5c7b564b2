import Mathlib.Data.List.TakeWhile
import ObjcSwiftLearning.SignalServiceKit.MessageDecrypter

/-!
# The padding of messages

`NSData+messagePadding`: before a body is encrypted, a mark and zero bytes bring it to one byte
less than a multiple of 160, so that the cipher adds one byte.

* `messagePadding_spec` — padding is removed again, its length tells the part count alone, and
  what is no padding is left as it is.
-/

namespace ObjcSwiftLearning.SignalServiceKit

open AxolotlKit

def paddedMessageLength (messageLength : ℕ) : ℕ :=
  let messageLengthWithTerminator := messageLength + 1
  let messagePartCount := messageLengthWithTerminator / 160
  (if messageLengthWithTerminator % 160 ≠ 0 then messagePartCount + 1 else messagePartCount) * 160

/-- `replaceBytesInRange:withBytes:`, with as many bytes as the range has. -/
def replaceBytesInRange (data : NSData) (location : ℕ) (bytes : NSData) : NSData :=
  data.take location ++ bytes ++ data.drop (location + bytes.length)

/-- `-[NSData paddedMessageBody]`. -/
def paddedMessageBody (data : NSData) : NSData :=
  let paddedMessage := List.replicate (paddedMessageLength (data.length + 1) - 1) 0x00
  replaceBytesInRange (replaceBytesInRange paddedMessage 0 data) data.length [0x80]

/-- A body with its mark and some zero bytes. -/
def IsPadded (body data : NSData) : Prop := ∃ zeros, data = body ++ 0x80 :: List.replicate zeros 0x00

variable (data : NSData) {body : NSData}

theorem paddedMessageLength_eq (messageLength : ℕ) :
    paddedMessageLength messageLength = 160 * (messageLength / 160 + 1) := by
  show (if (messageLength + 1) % 160 ≠ 0 then (messageLength + 1) / 160 + 1
    else (messageLength + 1) / 160) * 160 = _
  split <;> omega

theorem paddedMessageBody_eq : paddedMessageBody data =
    data ++ 0x80 ::
      List.replicate (160 * ((data.length + 1) / 160 + 1) - 1 - data.length - 1) 0x00 := by
  unfold paddedMessageBody replaceBytesInRange
  rw [paddedMessageLength_eq]
  simp

theorem length_paddedMessageBody :
    (paddedMessageBody data).length = 160 * ((data.length + 1) / 160 + 1) - 1 := by
  rw [paddedMessageBody_eq, List.length_append, List.length_cons, List.length_replicate]
  omega

variable {data}

theorem dropWhile_reverse_eq_iff {rest : NSData} :
    data.reverse.dropWhile (· == 0x00) = 0x80 :: rest ↔ IsPadded rest.reverse data := by
  constructor
  · intro hdrop
    have hsplit := data.reverse.takeWhile_append_dropWhile (p := (· == 0x00))
    have hzeros : data.reverse.takeWhile (· == 0x00) = List.replicate _ 0x00 :=
      List.eq_replicate_of_mem fun byte hmem => by simpa using List.mem_takeWhile_imp hmem
    rw [hdrop, hzeros, eq_comm, List.reverse_eq_iff, List.reverse_append, List.reverse_cons,
      List.reverse_replicate, List.append_assoc] at hsplit
    exact ⟨_, hsplit⟩
  · rintro ⟨zeros, rfl⟩
    simp

theorem removePadding_eq_iff : removePadding data = body ↔
    IsPadded body data ∨ data = body ∧ ∀ other, ¬ IsPadded other data := by
  constructor
  · intro hremoved
    unfold removePadding at hremoved
    split at hremoved
    · rename_i rest hdrop
      rw [← hremoved]
      exact .inl (dropWhile_reverse_eq_iff.mp hdrop)
    · rename_i hother
      refine .inr ⟨hremoved, fun other hpadded => hother other.reverse ?_⟩
      rwa [dropWhile_reverse_eq_iff, List.reverse_reverse]
  · rintro (hpadded | ⟨rfl, hother⟩)
    · rw [← body.reverse_reverse, ← dropWhile_reverse_eq_iff] at hpadded
      rw [removePadding, hpadded]
      exact body.reverse_reverse
    · unfold removePadding
      split
      · rename_i rest hdrop
        exact absurd (dropWhile_reverse_eq_iff.mp hdrop) (hother _)
      · rfl

/-- **Message padding**: the padding of a body is removed again, in full and nothing else; the
cipher adds one byte to it, and its length says how many parts the body has, but not how long it
is; and removing leaves what is not padded. -/
theorem messagePadding_spec (data other : NSData) :
    removePadding (paddedMessageBody data) = data ∧
      (paddedMessageBody data).length % 160 = 159 ∧
      ((paddedMessageBody data).length = (paddedMessageBody other).length ↔
        (data.length + 1) / 160 = (other.length + 1) / 160) ∧
      (removePadding data = other ↔
        IsPadded other data ∨ data = other ∧ ∀ body, ¬ IsPadded body data) := by
  refine ⟨removePadding_eq_iff.mpr (.inl ⟨_, paddedMessageBody_eq data⟩), ?_, ?_,
    removePadding_eq_iff⟩
  · rw [length_paddedMessageBody]
    omega
  · rw [length_paddedMessageBody, length_paddedMessageBody]
    omega

end ObjcSwiftLearning.SignalServiceKit
