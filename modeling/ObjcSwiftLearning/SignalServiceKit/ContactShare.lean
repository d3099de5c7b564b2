import Mathlib.Data.List.DropRight
import ObjcSwiftLearning.AxolotlKit.Foundation

/-!
# Contact shares

A contact is sent as a protobuf and read back by the other side.  Both directions are written by
hand, field by field.

* `OWSContact.protoForContact`, `OWSContact.contactForDataMessage` — the two directions.
* `OWSContact.shared` — what the two sides should agree on: the fields without surrounding
  whitespace, where a blank optional text counts as absent.
* `OWSContact.survivesSharing_iff` — for which contacts they do.
-/

namespace ObjcSwiftLearning.SignalServiceKit

open AxolotlKit

/-! ## Texts -/

def stringByTrimmingCharacters (characterSet : Char → Bool) (text : String) : String :=
  .ofList ((text.toList.dropWhile characterSet).rdropWhile characterSet)

/-- Trimming leaves nothing to trim at the front: what is left begins as it did before the end
was trimmed. -/
theorem dropWhile_rdropWhile_dropWhile (p : Char → Bool) (text : List Char) :
    ((text.dropWhile p).rdropWhile p).dropWhile p = (text.dropWhile p).rdropWhile p := by
  cases hleft : (text.dropWhile p).rdropWhile p with
  | nil => rfl
  | cons c rest =>
      obtain ⟨cut, hcut⟩ := List.rdropWhile_prefix p (l := text.dropWhile p)
      rw [hleft, List.cons_append] at hcut
      have hkept := List.dropWhile_idempotent p text
      rw [← hcut, List.dropWhile_cons] at hkept
      rw [List.dropWhile_cons]
      split at hkept
      · exact absurd (congrArg List.length hkept)
          (Nat.ne_of_lt (Nat.lt_succ_of_le (List.dropWhile_suffix p).length_le))
      · rename_i hc
        rw [if_neg hc]

theorem stringByTrimmingCharacters_idem (characterSet : Char → Bool) (text : String) :
    stringByTrimmingCharacters characterSet (stringByTrimmingCharacters characterSet text) =
      stringByTrimmingCharacters characterSet text := by
  rw [stringByTrimmingCharacters, stringByTrimmingCharacters, String.toList_ofList,
    dropWhile_rdropWhile_dropWhile, List.rdropWhile_idempotent]

/-- `whitespaceAndNewlineCharacterSet`: the general category Z, the tab, U+000A to U+000D and
U+0085. -/
def whitespaceAndNewline (c : Char) : Bool :=
  c.val ∈ [0x20, 0xA0, 0x1680, 0x2028, 0x2029, 0x202F, 0x205F, 0x3000, 0x85] ||
    (0x9 ≤ c.val && c.val ≤ 0xD) || (0x2000 ≤ c.val && c.val ≤ 0x200A)

/-- `ows_stripped`. -/
def stripped (text : String) : String := stringByTrimmingCharacters whitespaceAndNewline text

@[simp] theorem stripped_stripped (text : String) : stripped (stripped text) = stripped text :=
  stringByTrimmingCharacters_idem whitespaceAndNewline text

/-- The stripped text, if it is not empty.  Each optional field is written through this test. -/
def nonblank (text : Option String) : Option String :=
  (text.map stripped).filter fun text => 0 < text.length

/-- A field is read back as it was written. -/
@[simp] theorem nonblank_map_stripped_nonblank (text : Option String) :
    nonblank ((nonblank text).map stripped) = nonblank text := by
  cases text with
  | none => rfl
  | some text =>
      by_cases h : 0 < (stripped text).length <;> simp [nonblank, Option.filter, h]

/-! ## Contacts -/

/-- `OWSContactPhoneType`, `OWSContactEmailType`. -/
inductive OWSContactValueType where
  | home
  | mobile
  | work
  | custom
  deriving DecidableEq

inductive OWSContactAddressType where
  | home
  | work
  | custom
  deriving DecidableEq

/-- `OWSContactPhoneNumber` and `OWSContactEmail`: a value with its type and label. -/
structure OWSContactValue where
  type : OWSContactValueType
  label : Option String
  value : String
  deriving DecidableEq

abbrev OWSContactPhoneNumber := OWSContactValue

abbrev OWSContactEmail := OWSContactValue

structure OWSContactAddress where
  addressType : OWSContactAddressType
  label : Option String
  street : Option String
  pobox : Option String
  neighborhood : Option String
  city : Option String
  region : Option String
  postcode : Option String
  country : Option String
  deriving DecidableEq

structure OWSContactName where
  givenName : Option String
  familyName : Option String
  nameSuffix : Option String
  namePrefix : Option String
  middleName : Option String
  organizationName : Option String
  storedDisplayName : Option String

structure OWSContact where
  name : OWSContactName
  phoneNumbers : List OWSContactPhoneNumber
  emails : List OWSContactEmail
  addresses : List OWSContactAddress
  avatarAttachmentId : Option String
  isProfileAvatar : Bool

/-- `CNContact`, as far as a name is formatted from it. -/
structure CNContact where
  givenName : Option String
  middleName : Option String
  familyName : Option String
  namePrefix : Option String
  nameSuffix : Option String
  organizationName : Option String

/-- What the system provides: `CNContactFormatter`, and the localized texts. -/
structure ContactSystem where
  stringFromContact : CNContact → Option String
  contactWithoutName : String

/-- `length < 1`, which also holds of `nil`. -/
def IsMissing (text : Option String) : Prop := (text.getD "").length < 1

instance (text : Option String) : Decidable (IsMissing text) :=
  inferInstanceAs (Decidable ((text.getD "").length < 1))

namespace OWSContactName

def systemContactForName (name : OWSContactName) : CNContact where
  givenName := name.givenName.map stripped
  middleName := name.middleName.map stripped
  familyName := name.familyName.map stripped
  namePrefix := name.namePrefix.map stripped
  nameSuffix := name.nameSuffix.map stripped
  organizationName := name.organizationName.map stripped

variable (S : ContactSystem)

/-- `ensureDisplayName`: the value of `_displayName` after it. -/
def ensureDisplayName (name : OWSContactName) : Option String :=
  let formatted :=
    if IsMissing name.storedDisplayName then S.stringFromContact name.systemContactForName
    else name.storedDisplayName
  if IsMissing formatted then name.organizationName else formatted

def displayName (name : OWSContactName) : String :=
  let ensured := name.ensureDisplayName S
  if IsMissing ensured then S.contactWithoutName else ensured.getD ""

theorem ensureDisplayName_of_stored {name : OWSContactName} {text : String}
    (hstored : name.storedDisplayName = some text) (htext : 0 < text.length) :
    name.ensureDisplayName S = some text := by
  have hset : ¬IsMissing (some text) := Nat.not_lt.mpr htext
  rw [ensureDisplayName, hstored, if_neg hset, if_neg hset]

theorem displayName_of_stored {name : OWSContactName} {text : String}
    (hstored : name.storedDisplayName = some text) (htext : 0 < text.length) :
    name.displayName S = text := by
  rw [displayName, ensureDisplayName_of_stored S hstored htext]
  exact if_neg (Nat.not_lt.mpr htext)

end OWSContactName

/-- `ows_isValid` of a phone number or an email. -/
def OWSContactValue.owsIsValid (value : OWSContactValue) : Bool := 1 ≤ (stripped value.value).length

def OWSContactAddress.owsIsValid (address : OWSContactAddress) : Bool :=
  !decide (IsMissing (address.street.map stripped) ∧ IsMissing (address.pobox.map stripped) ∧
    IsMissing (address.neighborhood.map stripped) ∧ IsMissing (address.city.map stripped) ∧
    IsMissing (address.region.map stripped) ∧ IsMissing (address.postcode.map stripped) ∧
    IsMissing (address.country.map stripped))

def OWSContact.owsIsValid (S : ContactSystem) (contact : OWSContact) : Bool :=
  1 ≤ (stripped (contact.name.displayName S)).length &&
    contact.phoneNumbers.all (·.owsIsValid) && contact.emails.all (·.owsIsValid) &&
    contact.addresses.all (·.owsIsValid) &&
    (!contact.phoneNumbers.isEmpty || !contact.emails.isEmpty || !contact.addresses.isEmpty)

/-! ## Attachments -/

/-- `TSAttachmentStream`, as far as it is written. -/
structure TSAttachmentStream where
  serverId : UInt64
  contentType : String
  sourceFilename : Option String
  caption : Option String
  byteCount : UInt32
  encryptionKey : Option NSData
  digest : Option NSData
  isVoiceMessage : Bool

/-- `TSAttachmentPointer`, as far as it is read. -/
structure TSAttachmentPointer where
  uniqueId : String
  serverId : UInt64
  encryptionKey : NSData
  digest : Option NSData
  byteCount : UInt32
  contentType : String
  sourceFilename : Option String
  caption : Option String
  isVoiceMessage : Bool

inductive TSAttachment where
  | stream (stream : TSAttachmentStream)
  | pointer (pointer : TSAttachmentPointer)

structure AttachmentPointerProto where
  id : UInt64
  contentType : Option String
  key : Option NSData
  size : Option UInt32
  digest : Option NSData
  fileName : Option String
  flags : Option UInt32
  caption : Option String

/-- `SSKProtoAttachmentPointerFlagsVoiceMessage`. -/
def flagsVoiceMessage : UInt32 := 1

/-- The `flags` of an attachment. -/
def TSAttachmentStream.flags (stream : TSAttachmentStream) : UInt32 :=
  if stream.isVoiceMessage then flagsVoiceMessage else 0

/-- `buildProto`.  The builder takes a missing key or digest as empty data. -/
def TSAttachmentStream.buildProto (stream : TSAttachmentStream) : AttachmentPointerProto where
  id := stream.serverId
  contentType := some stream.contentType
  key := some (stream.encryptionKey.getD [])
  size := some stream.byteCount
  digest := some (stream.digest.getD [])
  fileName := stream.sourceFilename.filter fun text => 0 < text.length
  flags := some stream.flags
  caption := stream.caption.filter fun text => 0 < text.length

def buildProtoForAttachmentId (attachments : String → Option TSAttachment) (attachmentId : String) :
    Option AttachmentPointerProto :=
  match attachments attachmentId with
  | some (.stream stream) => some stream.buildProto
  | _ => none

/-- `attachmentPointerFromProto:`, where the pointer gets a new id. -/
def attachmentPointerFromProto (uniqueId : String) (attachmentProto : AttachmentPointerProto) :
    Option TSAttachmentPointer :=
  if attachmentProto.id < 1 then none
  else if (attachmentProto.key.getD []).length < 1 then none
  else if (attachmentProto.contentType.getD "").length < 1 then none
  else some {
    uniqueId
    serverId := attachmentProto.id
    encryptionKey := attachmentProto.key.getD []
    digest := attachmentProto.digest
    byteCount := attachmentProto.size.getD 0
    contentType := attachmentProto.contentType.getD ""
    sourceFilename := attachmentProto.fileName
    caption := attachmentProto.caption
    isVoiceMessage := 0 < attachmentProto.flags.getD 0 &&& flagsVoiceMessage }

/-- The attachment was uploaded: it has the id, the key and the content type that its receiver
insists on. -/
def TSAttachmentStream.IsUploaded (stream : TSAttachmentStream) : Prop :=
  1 ≤ stream.serverId ∧ 1 ≤ (stream.encryptionKey.getD []).length ∧ 1 ≤ stream.contentType.length

/-- **The attachments that arrive.** -/
theorem attachmentPointerFromProto_buildProto_isSome (uniqueId : String)
    (stream : TSAttachmentStream) :
    (attachmentPointerFromProto uniqueId stream.buildProto).isSome ↔ stream.IsUploaded := by
  rw [attachmentPointerFromProto, TSAttachmentStream.buildProto, TSAttachmentStream.IsUploaded,
    ← UInt64.not_lt, ← Nat.not_lt, ← Nat.not_lt]
  simp only [Option.getD_some]
  split_ifs with hid hkey hcontentType
  · exact iff_of_false (by simp) fun h => h.1 hid
  · exact iff_of_false (by simp) fun h => h.2.1 hkey
  · exact iff_of_false (by simp) fun h => h.2.2 hcontentType
  · exact iff_of_true rfl ⟨hid, hkey, hcontentType⟩

/-! ## The two directions -/

/-- `SSKProtoDataMessageContactPhoneType`, `SSKProtoDataMessageContactEmailType`. -/
inductive ContactValueTypeProto where
  | home
  | mobile
  | work
  | custom

/-- `SSKProtoDataMessageContactPostalAddressType`. -/
inductive ContactAddressTypeProto where
  | home
  | work
  | custom

/-- `SSKProtoDataMessageContactPhone` and `SSKProtoDataMessageContactEmail`. -/
structure ContactValueProto where
  value : Option String
  type : Option ContactValueTypeProto
  label : Option String

/-- `SSKProtoDataMessageContactPostalAddress`. -/
structure ContactPostalAddressProto where
  type : Option ContactAddressTypeProto
  label : Option String
  street : Option String
  pobox : Option String
  neighborhood : Option String
  city : Option String
  region : Option String
  postcode : Option String
  country : Option String

/-- `SSKProtoDataMessageContactName`, where the prefix and suffix are those of the name. -/
structure ContactNameProto where
  givenName : Option String
  familyName : Option String
  namePrefix : Option String
  nameSuffix : Option String
  middleName : Option String
  displayName : Option String

/-- `SSKProtoDataMessageContactAvatar`. -/
structure ContactAvatarProto where
  avatar : Option AttachmentPointerProto
  isProfile : Option Bool

/-- `SSKProtoDataMessageContact`. -/
structure ContactProto where
  name : Option ContactNameProto
  number : List ContactValueProto
  email : List ContactValueProto
  address : List ContactPostalAddressProto
  avatar : Option ContactAvatarProto
  organization : Option String

/-- The `switch` over the type of a phone number or email that is sent. -/
def OWSContactValueType.proto : OWSContactValueType → ContactValueTypeProto
  | home => .home
  | mobile => .mobile
  | work => .work
  | custom => .custom

/-- The `switch` over the type of a phone number or email that is received. -/
def OWSContactValueType.ofProto : Option ContactValueTypeProto → OWSContactValueType
  | some .home => home
  | some .mobile => mobile
  | some .work => work
  | some .custom | none => custom

/-- The `switch` over the type of an address that is received. -/
def OWSContactAddressType.ofProto : Option ContactAddressTypeProto → OWSContactAddressType
  | some .home => home
  | some .work => work
  | some .custom | none => custom

/-- The loop body for phone numbers, and for emails. -/
def OWSContactValue.proto (value : OWSContactValue) : ContactValueProto where
  value := some value.value
  type := some value.type.proto
  label := nonblank value.label

/-- The loop body for addresses, which sets no type. -/
def OWSContactAddress.proto (address : OWSContactAddress) : ContactPostalAddressProto where
  type := none
  label := nonblank address.label
  street := nonblank address.street
  pobox := nonblank address.pobox
  neighborhood := nonblank address.neighborhood
  city := nonblank address.city
  region := nonblank address.region
  postcode := nonblank address.postcode
  country := nonblank address.country

/-- `phoneNumberForProto:` and `emailForProto:`. -/
def OWSContactValue.forProto (proto : ContactValueProto) : Option OWSContactValue :=
  proto.value.map fun value =>
    { type := .ofProto proto.type
      label := proto.label.map stripped
      value := stripped value }

def OWSContactAddress.forProto (proto : ContactPostalAddressProto) : Option OWSContactAddress :=
  some {
    addressType := .ofProto proto.type
    label := proto.label.map stripped
    street := proto.street.map stripped
    pobox := proto.pobox.map stripped
    neighborhood := proto.neighborhood.map stripped
    city := proto.city.map stripped
    region := proto.region.map stripped
    postcode := proto.postcode.map stripped
    country := proto.country.map stripped }

namespace OWSContact

variable (S : ContactSystem)

/-- What `protoForContact:` builds.  No message here has a required field that may be missing, so
no builder fails and the error they share is never set. -/
def builtProto (attachments : String → Option TSAttachment) (contact : OWSContact) :
    ContactProto where
  name := some {
    givenName := nonblank contact.name.givenName
    familyName := nonblank contact.name.familyName
    middleName := nonblank contact.name.middleName
    namePrefix := nonblank contact.name.namePrefix
    nameSuffix := nonblank contact.name.nameSuffix
    displayName := some (contact.name.displayName S) }
  organization := nonblank contact.name.organizationName
  number := contact.phoneNumbers.map (·.proto)
  email := contact.emails.map (·.proto)
  address := contact.addresses.map (·.proto)
  avatar := do
    let attachmentProto ← buildProtoForAttachmentId attachments (← contact.avatarAttachmentId)
    return { avatar := some attachmentProto, isProfile := none }

def protoForContact (attachments : String → Option TSAttachment) (contact : OWSContact) :
    Option ContactProto :=
  let contactProto := contact.builtProto S attachments
  if contactProto.number.length < 1 ∧ contactProto.email.length < 1 ∧
      contactProto.address.length < 1 then none
  else some contactProto

/-- The name that is read, before its display name is ensured. -/
def nameForProto (contactProto : ContactProto) : OWSContactName where
  givenName := contactProto.name.bind fun name => name.givenName.map stripped
  familyName := contactProto.name.bind fun name => name.familyName.map stripped
  namePrefix := contactProto.name.bind fun name => name.namePrefix.map stripped
  nameSuffix := contactProto.name.bind fun name => name.nameSuffix.map stripped
  middleName := contactProto.name.bind fun name => name.middleName.map stripped
  storedDisplayName := contactProto.name.bind fun name => name.displayName.map stripped
  organizationName := contactProto.organization.map stripped

/-- The avatar that is read: the attachment to save, and whether it is a profile avatar. -/
def avatarForProto (uniqueId : String) (contactProto : ContactProto) :
    Option (TSAttachmentPointer × Bool) := do
  let avatarInfo ← contactProto.avatar
  let avatarAttachment ← avatarInfo.avatar
  let attachmentPointer ← attachmentPointerFromProto uniqueId avatarAttachment
  return (attachmentPointer, avatarInfo.isProfile.getD false)

def contactForProto (uniqueId : String) (contactProto : ContactProto) : OWSContact where
  name := { nameForProto contactProto with
    storedDisplayName := (nameForProto contactProto).ensureDisplayName S }
  phoneNumbers := contactProto.number.filterMap OWSContactValue.forProto
  emails := contactProto.email.filterMap OWSContactValue.forProto
  addresses := contactProto.address.filterMap OWSContactAddress.forProto
  avatarAttachmentId := (avatarForProto uniqueId contactProto).map fun avatar => avatar.1.uniqueId
  isProfileAvatar := (avatarForProto uniqueId contactProto).elim false fun avatar => avatar.2

/-- `contactForDataMessage:transaction:`: the contact, and the attachment that is saved. -/
def contactForDataMessage (uniqueId : String) (contacts : List ContactProto) :
    Option (OWSContact × Option TSAttachmentPointer) :=
  contacts.head?.map fun contactProto =>
    (contactForProto S uniqueId contactProto,
      (avatarForProto uniqueId contactProto).map fun avatar => avatar.1)

end OWSContact

/-! ## What the two sides should agree on -/

/-- A phone number or email without surrounding whitespace and blank labels. -/
def OWSContactValue.normalized (value : OWSContactValue) : OWSContactValue :=
  { value with label := nonblank value.label, value := stripped value.value }

/-- An address without surrounding whitespace and blank fields. -/
def OWSContactAddress.normalized (address : OWSContactAddress) : OWSContactAddress where
  addressType := address.addressType
  label := nonblank address.label
  street := nonblank address.street
  pobox := nonblank address.pobox
  neighborhood := nonblank address.neighborhood
  city := nonblank address.city
  region := nonblank address.region
  postcode := nonblank address.postcode
  country := nonblank address.country

/-- A contact, up to surrounding whitespace and blank optional texts. -/
structure SharedContact where
  givenName : Option String
  familyName : Option String
  middleName : Option String
  namePrefix : Option String
  nameSuffix : Option String
  organizationName : Option String
  displayName : String
  phoneNumbers : List OWSContactPhoneNumber
  emails : List OWSContactEmail
  addresses : List OWSContactAddress
  avatar : Option Bool

namespace OWSContact

/-- The contact as one phone knows it. -/
def shared (S : ContactSystem) (contact : OWSContact) : SharedContact where
  givenName := nonblank contact.name.givenName
  familyName := nonblank contact.name.familyName
  middleName := nonblank contact.name.middleName
  namePrefix := nonblank contact.name.namePrefix
  nameSuffix := nonblank contact.name.nameSuffix
  organizationName := nonblank contact.name.organizationName
  displayName := stripped (contact.name.displayName S)
  phoneNumbers := contact.phoneNumbers.map (·.normalized)
  emails := contact.emails.map (·.normalized)
  addresses := contact.addresses.map (·.normalized)
  avatar := contact.avatarAttachmentId.map fun _ => contact.isProfileAvatar

/-- The proto is built, and the receiver reads from it a contact that the two agree on. -/
def SurvivesSharing (S S' : ContactSystem) (attachments : String → Option TSAttachment)
    (uniqueId : String) (contact : OWSContact) : Prop :=
  ∃ contactProto received attachment,
    contact.protoForContact S attachments = some contactProto ∧
    contactForDataMessage S' uniqueId [contactProto] = some (received, attachment) ∧
    received.shared S' = contact.shared S

end OWSContact

/-! ## Entries -/

/-- The phone number or email that arrives. -/
def OWSContactValue.received (value : OWSContactValue) : OWSContactValue :=
  { value with label := (nonblank value.label).map stripped, value := stripped value.value }

theorem OWSContactValue.forProto_proto (value : OWSContactValue) :
    forProto value.proto = some value.received := by
  obtain ⟨type, label, text⟩ := value
  cases type with
  | home => rfl
  | mobile => rfl
  | work => rfl
  | custom => rfl

theorem OWSContactValue.normalized_received (value : OWSContactValue) :
    value.received.normalized = value.normalized := by
  simp [normalized, received]

/-- The address that arrives is of no type in particular. -/
def OWSContactAddress.untyped (address : OWSContactAddress) : OWSContactAddress :=
  { address with addressType := .custom }

def OWSContactAddress.received (address : OWSContactAddress) : OWSContactAddress where
  addressType := .custom
  label := (nonblank address.label).map stripped
  street := (nonblank address.street).map stripped
  pobox := (nonblank address.pobox).map stripped
  neighborhood := (nonblank address.neighborhood).map stripped
  city := (nonblank address.city).map stripped
  region := (nonblank address.region).map stripped
  postcode := (nonblank address.postcode).map stripped
  country := (nonblank address.country).map stripped

theorem OWSContactAddress.forProto_proto (address : OWSContactAddress) :
    forProto address.proto = some address.received := rfl

theorem OWSContactAddress.normalized_received (address : OWSContactAddress) :
    address.received.normalized = address.untyped.normalized := by
  simp [normalized, received, untyped]

/-- An address arrives as it is exactly when it is of the custom type. -/
theorem OWSContactAddress.normalized_untyped_iff (address : OWSContactAddress) :
    address.untyped.normalized = address.normalized ↔ address.addressType = .custom := by
  simp [normalized, untyped, eq_comm]

theorem filterMap_map_eq_map {α β γ : Type} {write : α → β} {read : β → Option γ}
    {received : α → γ} (h : ∀ entry, read (write entry) = some (received entry))
    (entries : List α) : (entries.map write).filterMap read = entries.map received := by
  rw [List.filterMap_map, ← List.filterMap_eq_map]
  congr 1
  funext entry
  exact h entry

/-! ## Contacts that survive -/

namespace OWSContact

variable {S S' : ContactSystem} {attachments : String → Option TSAttachment} {uniqueId : String}
  {contact : OWSContact}

/-- Something is left to send. -/
theorem protoForContact_of_valid (hvalid : contact.owsIsValid S = true) :
    contact.protoForContact S attachments = some (contact.builtProto S attachments) := by
  rw [protoForContact, if_neg]
  rintro ⟨hnumber, hemail, haddress⟩
  simp only [builtProto, List.length_map, Nat.lt_one_iff, List.length_eq_zero_iff] at *
  simp [owsIsValid, hnumber, hemail, haddress] at hvalid

/-- **The display name that arrives.** -/
theorem displayName_received (hvalid : contact.owsIsValid S = true) :
    (contactForProto S' uniqueId (contact.builtProto S attachments)).name.displayName S' =
      stripped (contact.name.displayName S) := by
  have hname : 0 < (stripped (contact.name.displayName S)).length := by
    simp only [owsIsValid, Bool.and_eq_true, decide_eq_true_eq] at hvalid
    exact hvalid.1.1.1.1
  have hread : (nameForProto (contact.builtProto S attachments)).ensureDisplayName S' =
      some (stripped (contact.name.displayName S)) :=
    OWSContactName.ensureDisplayName_of_stored S' rfl hname
  refine OWSContactName.displayName_of_stored S' ?_ hname
  simp only [contactForProto, hread]

theorem avatar_received {contactProto : ContactProto} :
    (contactForProto S' uniqueId contactProto).avatarAttachmentId.map
        (fun _ => (contactForProto S' uniqueId contactProto).isProfileAvatar) =
      (avatarForProto uniqueId contactProto).map fun avatar => avatar.2 := by
  rw [contactForProto]
  cases avatarForProto uniqueId contactProto with
  | none => rfl
  | some avatar => rfl

/-- **What arrives**: everything but the types of the addresses, and of the avatar what its proto
tells. -/
theorem shared_received (hvalid : contact.owsIsValid S = true) :
    (contactForProto S' uniqueId (contact.builtProto S attachments)).shared S' =
      { contact.shared S with
        addresses := contact.addresses.map fun address => address.untyped.normalized
        avatar := (avatarForProto uniqueId (contact.builtProto S attachments)).map
          fun avatar => avatar.2 } := by
  rw [shared, displayName_received hvalid, avatar_received, stripped_stripped]
  generalize (avatarForProto uniqueId (contact.builtProto S attachments)).map (·.2) = avatar
  simp only [contactForProto, nameForProto, builtProto, shared, Option.bind_some,
    filterMap_map_eq_map OWSContactValue.forProto_proto,
    filterMap_map_eq_map OWSContactAddress.forProto_proto, List.map_map, Function.comp_def,
    nonblank_map_stripped_nonblank, OWSContactValue.normalized_received,
    OWSContactAddress.normalized_received]

theorem avatarForProto_builtProto {id : String} {stream : TSAttachmentStream}
    (hid : contact.avatarAttachmentId = some id) (hstream : attachments id = some (.stream stream)) :
    avatarForProto uniqueId (contact.builtProto S attachments) =
      (attachmentPointerFromProto uniqueId stream.buildProto).map fun pointer =>
        (pointer, false) := by
  have hproto : buildProtoForAttachmentId attachments id = some stream.buildProto := by
    rw [buildProtoForAttachmentId, hstream]
  simp only [avatarForProto, builtProto, hid, hproto, Option.pure_def, Option.bind_eq_bind,
    Option.bind_some]
  cases attachmentPointerFromProto uniqueId stream.buildProto with
  | none => rfl
  | some pointer => rfl

/-- **The avatar arrives** exactly when it was uploaded and is not a profile avatar. -/
theorem avatar_received_iff
    (havatar : ∀ id, contact.avatarAttachmentId = some id →
      ∃ stream, attachments id = some (.stream stream)) :
    (avatarForProto uniqueId (contact.builtProto S attachments)).map (·.2) =
        (contact.shared S).avatar ↔
      ∀ id stream, contact.avatarAttachmentId = some id →
        attachments id = some (.stream stream) →
        stream.IsUploaded ∧ contact.isProfileAvatar = false := by
  cases hid : contact.avatarAttachmentId with
  | none =>
      refine iff_of_true ?_ fun _ _ hsome => by cases hsome
      simp [avatarForProto, builtProto, shared, hid]
  | some id =>
      obtain ⟨stream, hstream⟩ := havatar id hid
      have harrives := attachmentPointerFromProto_buildProto_isSome uniqueId stream
      have hflag : (contact.shared S).avatar = some contact.isProfileAvatar := by
        rw [shared, hid]
        rfl
      rw [avatarForProto_builtProto hid hstream, hflag]
      constructor
      · intro hsame id' stream' hid' hstream'
        obtain rfl := Option.some.inj hid'
        obtain rfl := TSAttachment.stream.inj (Option.some.inj (hstream.symm.trans hstream'))
        cases hpointer : attachmentPointerFromProto uniqueId stream.buildProto with
        | none => simp [hpointer] at hsame
        | some pointer =>
            rw [hpointer] at hsame harrives
            exact ⟨harrives.mp rfl, (Option.some.inj hsame).symm⟩
      · intro hall
        obtain ⟨huploaded, hprofile⟩ := hall id stream rfl hstream
        obtain ⟨pointer, hpointer⟩ := Option.isSome_iff_exists.mp (harrives.mpr huploaded)
        rw [hpointer, hprofile]
        rfl

/-- What the receiver has is what the sender has, as far as the avatar and the addresses go. -/
theorem survivesSharing_iff_shared (hvalid : contact.owsIsValid S = true) :
    SurvivesSharing S S' attachments uniqueId contact ↔
      (contactForProto S' uniqueId (contact.builtProto S attachments)).shared S' =
        contact.shared S := by
  constructor
  · rintro ⟨contactProto, received, attachment, hbuilt, hread, hshared⟩
    obtain rfl := Option.some.inj ((protoForContact_of_valid hvalid).symm.trans hbuilt)
    obtain ⟨rfl, -⟩ := Prod.mk.inj (Option.some.inj hread)
    exact hshared
  · intro hshared
    exact ⟨_, _, _, protoForContact_of_valid hvalid, rfl, hshared⟩

/-- **Which contacts survive.**  A valid contact, whose avatar if any can be serialized, is
received as it was sent exactly when all its addresses are of the custom type and the avatar was
uploaded and is not a profile avatar: `protoForContact:` sets neither the type of an address nor
`isProfile`. -/
theorem survivesSharing_iff (hvalid : contact.owsIsValid S = true)
    (havatar : ∀ id, contact.avatarAttachmentId = some id →
      ∃ stream, attachments id = some (.stream stream)) :
    SurvivesSharing S S' attachments uniqueId contact ↔
      (∀ address ∈ contact.addresses, address.addressType = .custom) ∧
        ∀ id stream, contact.avatarAttachmentId = some id →
          attachments id = some (.stream stream) →
          stream.IsUploaded ∧ contact.isProfileAvatar = false := by
  rw [survivesSharing_iff_shared hvalid, shared_received hvalid, ← avatar_received_iff havatar]
  have haddresses : contact.addresses.map (fun address => address.untyped.normalized) =
      (contact.shared S).addresses ↔
        ∀ address ∈ contact.addresses, address.addressType = .custom := by
    rw [shared, List.map_inj_left]
    simp only [OWSContactAddress.normalized_untyped_iff]
  rw [← haddresses]
  constructor
  · intro hshared
    exact ⟨congrArg SharedContact.addresses hshared, congrArg SharedContact.avatar hshared⟩
  · rintro ⟨hsame, hflag⟩
    rw [hsame, hflag]

/-! ### A contact -/

section Sample

/-- A system that formats no names. -/
def sampleSystem : ContactSystem where
  stringFromContact _ := none
  contactWithoutName := "?"

def sampleAvatar : TSAttachmentStream where
  serverId := 7
  contentType := "image/png"
  sourceFilename := none
  caption := none
  byteCount := 3
  encryptionKey := some [1]
  digest := none
  isVoiceMessage := false

def sampleContact (addressType : OWSContactAddressType) (avatarAttachmentId : Option String) :
    OWSContact where
  name := ⟨none, none, none, none, none, none, some "B"⟩
  phoneNumbers := [⟨.mobile, none, "+1"⟩]
  emails := [⟨.work, some "desk", "b@c"⟩]
  addresses := [⟨addressType, none, none, none, none, some "Berlin", none, none, none⟩]
  avatarAttachmentId
  isProfileAvatar := false

/-- A contact survives whose address has no type in particular and whose avatar was uploaded. -/
theorem survivesSharing_iff_sample :
    SurvivesSharing sampleSystem sampleSystem (fun _ => some (.stream sampleAvatar)) "1"
      (sampleContact .custom (some "avatar")) := by
  refine (survivesSharing_iff (by decide) fun _ _ => ⟨_, rfl⟩).mpr ⟨?_, ?_⟩
  · intro address haddress
    obtain rfl := List.mem_singleton.mp haddress
    rfl
  · rintro id stream - ⟨⟩
    exact ⟨⟨by decide, by decide, by decide⟩, rfl⟩

theorem home_address_not_shared :
    (sampleContact .home none).owsIsValid sampleSystem = true ∧
      (sampleContact .home none).avatarAttachmentId = none ∧
      ¬SurvivesSharing sampleSystem sampleSystem (fun _ => none) "1" (sampleContact .home none) := by
  refine ⟨by decide, rfl, ?_⟩
  rw [survivesSharing_iff_shared (by decide), shared_received (by decide)]
  intro hshared
  have haddress := (List.cons.inj (congrArg SharedContact.addresses hshared)).1
  rw [OWSContactAddress.normalized_untyped_iff] at haddress
  cases haddress

end Sample

end OWSContact

end ObjcSwiftLearning.SignalServiceKit
