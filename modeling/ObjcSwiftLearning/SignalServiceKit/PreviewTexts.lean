import Mathlib.Algebra.GroupWithZero.Nat
import ObjcSwiftLearning.Library.Formats
import ObjcSwiftLearning.SignalServiceKit.ContactShare
import ObjcSwiftLearning.SignalServiceKit.MessageDecrypter

/-!
# Texts of messages for notifications

What a notification shows of a message is made up of localized texts, names and what the message
contains, and is filtered before it is shown.

* `stringWithFormat` — the places of a format, as far as the localized formats have them.
* `PreviewEnvironment.filterStringForDisplay` — the filter.
* `PreviewEnvironment.messagePreviewText`, `PreviewEnvironment.errorPreviewText` — what the two
  kinds of messages show.
* `PreviewEnvironment.digitCount_filterStringForDisplay` — **the filter keeps as many digits as
  there are**, so that names that differ in them still differ.
-/

namespace ObjcSwiftLearning.SignalServiceKit

/-! ## Formats -/

/-- The pieces of a format: `%@`, `%%`, and `%1$@` and the like. -/
def formatPieces : List Char → List (FormatPiece Char)
  | [] => []
  | '%' :: '@' :: rest => .next :: formatPieces rest
  | '%' :: '%' :: rest => .text '%' :: formatPieces rest
  | '%' :: digit :: '$' :: '@' :: rest =>
      .argument (digit.toNat - '1'.toNat) :: formatPieces rest
  | c :: rest => .text c :: formatPieces rest

def stringWithFormat (format : String) (arguments : List String) : String :=
  .ofList (FormatPiece.render (arguments.map String.toList) (formatPieces format.toList)
    (arguments.map String.toList))

/-- The number of places that a format has for its only argument. -/
def formatPlaces (format : String) : ℕ :=
  FormatPiece.places (formatPieces format.toList) true

/-! ## What the texts are taken from -/

/-- What texts are made with: the localized texts, the direction of writing, and what Foundation
does with a text. -/
structure PreviewEnvironment where
  /-- `NSLocalizedString`. -/
  localizedString : String → String
  isRTL : Bool
  shouldFilterIndic : Bool
  /-- Location and length. -/
  rangeOfComposedCharacterSequenceAtIndex : String → ℕ → ℕ × ℕ
  /-- `stringByFoldingWithOptions:`, insensitive to diacritics. -/
  stringByFolding : String → String

structure TSErrorMessage where
  errorType : TSErrorMessageType
  recipientId : Option String

/-- `TSAttachment`, with the text that is read from the file of a stream. -/
structure PreviewedAttachment where
  contentType : String
  streamText : Option String
  description : String

structure MessageContent where
  body : Option String
  attachmentIds : List String
  /-- `fetchObjectWithUniqueID:transaction:`. -/
  attachment : String → Option PreviewedAttachment
  contactShareName : Option String

namespace PreviewEnvironment

variable (environment : PreviewEnvironment)

/-! ## The filter -/

def indicVowelRanges : List (ℕ × ℕ) :=
  [(0x904, 0x914), (0x93A, 0x93B), (0x93E, 0x94C), (0x94E, 0x94F), (0x955, 0x957),
    (0x960, 0x963), (0x972, 0x977), (0x985, 0x994), (0x9BE, 0x9C8), (0x9CB, 0x9CC),
    (0x9E0, 0x9E3), (0xC05, 0xC14), (0xC3E, 0xC4C), (0xC60, 0xC63)]

def isIndicVowel (c : Char) : Bool :=
  indicVowelRanges.any fun range => range.1 ≤ c.toNat && c.toNat ≤ range.2

/-- A joiner before an Indic vowel is replaced, and the vowel is dropped. -/
def filteredForIndic : List Char → List Char
  | [] => []
  | [c] => [c]
  | c :: next :: rest =>
      if c.toNat = 0x200C ∧ isIndicVowel next then Char.ofNat 0xFFFD :: filteredForIndic rest
      else c :: filteredForIndic (next :: rest)

def filterForIndicScripts (text : String) : String :=
  if environment.shouldFilterIndic then .ofList (filteredForIndic text.toList) else text

def utf16Length (text : String) : ℕ :=
  (text.toList.map fun c => if 0xFFFF < c.toNat then 2 else 1).sum

/-- The loop of `hasExcessiveDiacriticals`, for so many clusters. -/
def hasExcessiveDiacriticalsFrom (text : String) : ℕ → ℕ → Bool
  | 0, _ => false
  | fuel + 1, index =>
      if index < utf16Length text then
        if 8 < (environment.rangeOfComposedCharacterSequenceAtIndex text index).2 then true
        else if (environment.rangeOfComposedCharacterSequenceAtIndex text index).1 ≠ index ∨
            (environment.rangeOfComposedCharacterSequenceAtIndex text index).2 < 1 then true
        else
          hasExcessiveDiacriticalsFrom text fuel
            (index + (environment.rangeOfComposedCharacterSequenceAtIndex text index).2)
      else false

/-- `hasExcessiveDiacriticals`; the index grows by each cluster. -/
def hasExcessiveDiacriticals (text : String) : Bool :=
  environment.hasExcessiveDiacriticalsFrom text (utf16Length text) 0

def filterForExcessiveDiacriticals (text : String) : String :=
  if environment.hasExcessiveDiacriticals text then environment.stringByFolding text else text

def filterStringForDisplay (text : String) : String :=
  environment.filterForExcessiveDiacriticals (environment.filterForIndicScripts (stripped text))

def filterNotificationText (text : Option String) : Option String :=
  text.map fun text => .ofList ((environment.filterStringForDisplay text).toList.flatMap
    fun c => if c = '%' then ['%', '%'] else [c])

/-! ## What messages show -/

/-- `displayNameForPhoneIdentifier:`, with what `nameFromSystemContactsForRecipientId:` finds. -/
def displayName (recipientId : String) (nameFromSystemContacts : Option String) : String :=
  if (nameFromSystemContacts.getD "").length < 1 then recipientId
  else nameFromSystemContacts.getD ""

/-- `previewTextWithTransaction:` of `TSErrorMessage`. -/
def errorPreviewText (nameFromSystemContacts : String → Option String)
    (message : TSErrorMessage) : String :=
  match message.errorType with
  | .noSession => environment.localizedString "ERROR_MESSAGE_NO_SESSION"
  | .invalidMessage => environment.localizedString "ERROR_MESSAGE_INVALID_MESSAGE"
  | .invalidVersion => environment.localizedString "ERROR_MESSAGE_INVALID_VERSION"
  | .duplicateMessage => environment.localizedString "ERROR_MESSAGE_DUPLICATE_MESSAGE"
  | .invalidKeyException => environment.localizedString "ERROR_MESSAGE_INVALID_KEY_EXCEPTION"
  | .wrongTrustedIdentityKey =>
      environment.localizedString "ERROR_MESSAGE_WRONG_TRUSTED_IDENTITY_KEY"
  | .nonBlockingIdentityChange =>
      -- The only one of these texts that names somebody.
      match message.recipientId with
      | some recipientId =>
          stringWithFormat
            (environment.localizedString "ERROR_MESSAGE_NON_BLOCKING_IDENTITY_CHANGE_FORMAT")
            [displayName recipientId (nameFromSystemContacts recipientId)]
      | none => environment.localizedString "ERROR_MESSAGE_NON_BLOCKING_IDENTITY_CHANGE"
  | .unknownContactBlockOffer => environment.localizedString "UNKNOWN_CONTACT_BLOCK_OFFER"
  | .groupCreationFailed => environment.localizedString "GROUP_CREATION_FAILED"
  | .missingKeyId => environment.localizedString "ERROR_MESSAGE_UNKNOWN_ERROR"

/-- What a message without an oversize text shows: an attachment, with its caption, a text or a
contact. -/
def captionedText (attachmentDescription bodyDescription : String)
    (contactShareName : Option String) : String :=
  if 0 < attachmentDescription.length ∧ 0 < bodyDescription.length then
    if environment.isRTL then bodyDescription ++ ": " ++ attachmentDescription
    else attachmentDescription ++ ": " ++ bodyDescription
  else if 0 < bodyDescription.length then bodyDescription
  else if 0 < attachmentDescription.length then attachmentDescription
  else
    match contactShareName with
    | some name => if environment.isRTL then name ++ " 👤" else "👤 " ++ name
    | none => ""

/-- `previewTextWithTransaction:` of `TSMessage`. -/
def messagePreviewText (content : MessageContent) : String :=
  match content.attachmentIds with
  | [] => environment.captionedText "" (content.body.getD "") content.contactShareName
  | attachmentId :: _ =>
      match content.attachment attachmentId with
      | none =>
          environment.captionedText (environment.localizedString "UNKNOWN_ATTACHMENT_LABEL")
            (content.body.getD "") content.contactShareName
      | some attachment =>
          if attachment.contentType = "text/x-signal-plain" then
            (attachment.streamText.map environment.filterStringForDisplay).getD ""
          else
            environment.captionedText attachment.description (content.body.getD "")
              content.contactShareName

/-! ## The digits of a text -/

def digitCount (text : String) : ℕ := text.toList.countP Char.isDigit

/-- What has no digits is dropped in front without a digit less. -/
theorem countP_dropWhile {p q : Char → Bool} (h : ∀ c, p c = true → q c = false)
    (text : List Char) : (text.dropWhile p).countP q = text.countP q := by
  induction text with
  | nil => rfl
  | cons c rest ih =>
      rw [List.dropWhile_cons]
      split
      · rename_i hc
        rw [ih, List.countP_cons_of_neg (Bool.eq_false_iff.mp (h c hc))]
      · rfl

theorem isDigit_of_outside {c : Char} (h : c.toNat < 48 ∨ 57 < c.toNat) : c.isDigit = false := by
  cases hdigit : c.isDigit with
  | false => rfl
  | true =>
      have hbounds : 48 ≤ c.toNat ∧ c.toNat ≤ 57 := by
        simpa [Char.isDigit, UInt32.le_iff_toNat_le] using hdigit
      omega

theorem isDigit_of_whitespaceAndNewline (c : Char) (h : whitespaceAndNewline c = true) :
    c.isDigit = false := by
  apply isDigit_of_outside
  simp [whitespaceAndNewline, UInt32.le_iff_toNat_le, ← UInt32.toNat_inj] at h
  omega

theorem isDigit_of_isIndicVowel {c : Char} (h : isIndicVowel c = true) : c.isDigit = false := by
  obtain ⟨range, hrange, hin⟩ := List.any_eq_true.mp h
  have hfirst : ∀ range ∈ indicVowelRanges, 57 < range.1 := by decide
  have hle := of_decide_eq_true (Bool.and_eq_true_iff.mp hin).1
  exact isDigit_of_outside (Or.inr ((hfirst range hrange).trans_le hle))

theorem digitCount_stripped (text : String) : digitCount (stripped text) = digitCount text := by
  rw [digitCount, stripped, stringByTrimmingCharacters, String.toList_ofList, List.rdropWhile,
    List.countP_reverse, countP_dropWhile isDigit_of_whitespaceAndNewline, List.countP_reverse,
    countP_dropWhile isDigit_of_whitespaceAndNewline, digitCount]

/-- Neither joiners nor vowels are digits. -/
theorem countP_filteredForIndic (text : List Char) :
    (filteredForIndic text).countP Char.isDigit = text.countP Char.isDigit := by
  induction text using filteredForIndic.induct with
  | case1 => rfl
  | case2 c => rfl
  | case3 c next rest h ih =>
      have hjoiner : c.isDigit = false := isDigit_of_outside (Or.inr (by omega))
      have hnext := isDigit_of_isIndicVowel h.2
      have hreplacement : ¬(Char.ofNat 0xFFFD).isDigit = true := by decide
      rw [filteredForIndic, if_pos h, List.countP_cons_of_neg hreplacement, ih,
        List.countP_cons_of_neg (Bool.eq_false_iff.mp hjoiner),
        List.countP_cons_of_neg (Bool.eq_false_iff.mp hnext)]
  | case4 c next rest h ih =>
      rw [filteredForIndic, if_neg h, List.countP_cons, ih, ← List.countP_cons]

theorem digitCount_filterForIndicScripts (text : String) :
    digitCount (environment.filterForIndicScripts text) = digitCount text := by
  unfold filterForIndicScripts
  split
  · rw [digitCount, String.toList_ofList, countP_filteredForIndic, digitCount]
  · rfl

variable {environment}

/-- **The filter keeps as many digits as there are.** -/
theorem digitCount_filterStringForDisplay
    (hfolding : ∀ text, digitCount (environment.stringByFolding text) = digitCount text)
    (text : String) :
    digitCount (environment.filterStringForDisplay text) = digitCount text := by
  have hrest := digitCount_filterForIndicScripts environment (stripped text)
  unfold filterStringForDisplay filterForExcessiveDiacriticals
  split
  · rw [hfolding, hrest, digitCount_stripped]
  · rw [hrest, digitCount_stripped]

theorem digitCount_stringWithFormat (format argument : String) :
    digitCount (stringWithFormat format [argument]) =
      digitCount (stringWithFormat format [""]) + formatPlaces format * digitCount argument := by
  unfold digitCount stringWithFormat
  rw [String.toList_ofList, String.toList_ofList]
  exact FormatPiece.countP_render Char.isDigit argument.toList _ true

theorem stringWithFormat_eq_of_places_eq_zero {format : String} (h : formatPlaces format = 0)
    (argument argument' : String) :
    stringWithFormat format [argument] = stringWithFormat format [argument'] :=
  congrArg String.ofList (FormatPiece.render_eq_of_places_eq_zero _ _ _ true h)

end PreviewEnvironment

end ObjcSwiftLearning.SignalServiceKit
