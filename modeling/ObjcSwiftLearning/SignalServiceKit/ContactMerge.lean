import ObjcSwiftLearning.SignalServiceKit.SystemContacts

/-!
# Merging contacts

A contact that was received is merged into one of the address book: what the one lacks is taken
from the other, and phone numbers and emails that it has already are not to be added again.

* `mergeCNContact` — the merge.  Phone numbers are compared as texts, and as parsed numbers in an
  `NSSet`, which finds an object only among those of equal hash.
* `not_containsObject_of_new` — **an object without a hash of its own is not found** in a set that
  was made before it.
* `IsFaithfulMerge` — the merge neither loses nor duplicates.
* `isFaithfulMerge_iff` — **when the merge is faithful.**
-/

namespace ObjcSwiftLearning.SignalServiceKit

open AxolotlKit

/-! ## Sets of objects -/

/-- An object with its value, and the address that it is at. -/
structure NSObject (α : Type) where
  address : ℕ
  value : α

/-- `hash`, of an object whose class does not override it. -/
def NSObject.hash {α : Type} (object : NSObject α) : ℕ := object.address

/-- Objects allocated one after the other, each at a new address. -/
def allocated {α : Type} (values : List α) : List (NSObject α) :=
  values.zipIdx.map fun entry => { address := entry.2, value := entry.1 }

/-- `containsObject:` of an `NSSet`: an object is found only among those of equal hash. -/
def containsObject {α : Type} (isEqual : α → α → Bool) (set : List (NSObject α))
    (object : NSObject α) : Bool :=
  set.any fun member => member.hash == object.hash && isEqual object.value member.value

/-- **A new object is not found,** whatever it is equal to. -/
theorem not_containsObject_of_new {α : Type} {isEqual : α → α → Bool} {values : List α}
    {object : NSObject α} (hnew : values.length ≤ object.address) :
    containsObject isEqual (allocated values) object = false := by
  rw [containsObject, List.any_eq_false]
  intro member hmember
  obtain ⟨⟨value, address⟩, hentry, rfl⟩ := List.mem_map.mp hmember
  have hlt : address < values.length := List.snd_lt_of_mem_zipIdx hentry
  have hne : address ≠ object.address := Nat.ne_of_lt (Nat.lt_of_lt_of_le hlt hnew)
  simp [NSObject.hash, hne]

/-! ## The merge -/

variable (E : ContactEnvironment)

/-- The parts of a name, which are merged all or nothing. -/
def nameParts : List (CNContact → Option String) :=
  [CNContact.namePrefix, CNContact.givenName, CNContact.middleName, CNContact.familyName,
    CNContact.nameSuffix]

/-- The name is taken from the new contact, all or nothing, where the old one has none. -/
def mergeParts (mergedCNContact newCNContact : CNContact) : CNContact :=
  if IsMissing (formattedFullName E.toContactSystem mergedCNContact) then
    { mergedCNContact with
      namePrefix := newCNContact.namePrefix.map stripped
      givenName := newCNContact.givenName.map stripped
      middleName := newCNContact.middleName.map stripped
      familyName := newCNContact.familyName.map stripped
      nameSuffix := newCNContact.nameSuffix.map stripped }
  else mergedCNContact

def mergeOrganization (mergedCNContact newCNContact : CNContact) : CNContact :=
  if IsMissing (mergedCNContact.organizationName.map stripped) then
    { mergedCNContact with organizationName := newCNContact.organizationName.map stripped }
  else mergedCNContact

/-- A number is skipped whose text the old contact has, or whose parsed form is found.  The parsed
number is an object allocated at `address`. -/
def skipsPhoneNumber (existingUnparsedPhoneNumberSet : List String)
    (existingParsedPhoneNumberSet : List (NSObject PhoneNumber)) (address : ℕ)
    (unparsedPhoneNumber : String) : Bool :=
  unparsedPhoneNumber ∈ existingUnparsedPhoneNumberSet ||
    match E.phoneNumberUtil.tryParsePhoneNumberFromUserSpecifiedText unparsedPhoneNumber with
    | some parsedPhoneNumber =>
        containsObject PhoneNumber.isEqual existingParsedPhoneNumberSet
          { address, value := parsedPhoneNumber }
    | none => false

/-- The phone numbers that the loop adds, where the next object is allocated at `address`. -/
def addedPhoneNumbers (existingUnparsedPhoneNumberSet : List String)
    (existingParsedPhoneNumberSet : List (NSObject PhoneNumber)) :
    ℕ → List (CNLabeledValue String) → List (CNLabeledValue String)
  | _, [] => []
  | address, labeledPhoneNumber :: rest =>
      let added := addedPhoneNumbers existingUnparsedPhoneNumberSet existingParsedPhoneNumberSet
        (address + 1) rest
      if skipsPhoneNumber E existingUnparsedPhoneNumberSet existingParsedPhoneNumberSet address
          labeledPhoneNumber.value then added
      else labeledPhoneNumber :: added

def addedEmails (existingEmailSet : List String) (emailAddresses : List (CNLabeledValue String)) :
    List (CNLabeledValue String) :=
  emailAddresses.filter fun labeledEmail => stripped labeledEmail.value ∉ existingEmailSet

def mergeCNContact (oldCNContact newCNContact : CNMutableContact) : CNMutableContact :=
  let oldContact := Contact.initWithSystemContact E oldCNContact
  { oldCNContact with
    toCNContact :=
      mergeOrganization (mergeParts E oldCNContact.toCNContact newCNContact.toCNContact)
        newCNContact.toCNContact
    phoneNumbers := oldCNContact.phoneNumbers ++
      addedPhoneNumbers E oldContact.userTextPhoneNumbers (allocated oldContact.parsedPhoneNumbers)
        oldContact.parsedPhoneNumbers.length newCNContact.phoneNumbers
    emailAddresses := oldCNContact.emailAddresses ++
      addedEmails oldContact.emails newCNContact.emailAddresses
    postalAddresses :=
      if oldCNContact.postalAddresses.length = 0 then newCNContact.postalAddresses
      else oldCNContact.postalAddresses
    imageData := oldCNContact.imageData.or newCNContact.imageData }

/-! ## What it adds -/

section Added

variable {E}

/-- The sets that the merge of an old contact asks. -/
theorem addedPhoneNumbers_eq {existing : List String} {parsed : List PhoneNumber} {address : ℕ}
    (haddress : parsed.length ≤ address) (phoneNumbers : List (CNLabeledValue String)) :
    addedPhoneNumbers E existing (allocated parsed) address phoneNumbers =
      phoneNumbers.filter (·.value ∉ existing) := by
  induction phoneNumbers generalizing address with
  | nil => rfl
  | cons labeledPhoneNumber rest ih =>
      have hskips : skipsPhoneNumber E existing (allocated parsed) address
          labeledPhoneNumber.value = decide (labeledPhoneNumber.value ∈ existing) := by
        rw [skipsPhoneNumber]
        split
        · rw [not_containsObject_of_new haddress, Bool.or_false]
        · rw [Bool.or_false]
      rw [addedPhoneNumbers, hskips, ih (Nat.le_succ_of_le haddress)]
      by_cases hmem : labeledPhoneNumber.value ∈ existing <;> simp [hmem]

/-- **Numbers are compared as texts only:** what is parsed is never found. -/
theorem phoneNumbers_mergeCNContact (oldCNContact newCNContact : CNMutableContact) :
    (mergeCNContact E oldCNContact newCNContact).phoneNumbers =
      oldCNContact.phoneNumbers ++
        newCNContact.phoneNumbers.filter (·.value ∉ oldCNContact.phoneNumbers.map (·.value)) :=
  congrArg (oldCNContact.phoneNumbers ++ ·) (addedPhoneNumbers_eq le_rfl _)

theorem emailAddresses_mergeCNContact (oldCNContact newCNContact : CNMutableContact) :
    (mergeCNContact E oldCNContact newCNContact).emailAddresses =
      oldCNContact.emailAddresses ++
        newCNContact.emailAddresses.filter
          (stripped ·.value ∉ oldCNContact.emailAddresses.map (·.value)) :=
  rfl

/-- What the formatter of the system is documented to do: a full name combines the parts that there
are, and where there are none, there is at most the organization. -/
structure FormatsFullName (S : ContactSystem) : Prop where
  has_name : ∀ contact, ∀ part ∈ nameParts, ¬IsMissing ((part contact).map stripped) →
    ¬IsMissing (formattedFullName S contact)
  no_name : ∀ contact, (∀ part ∈ nameParts, IsMissing ((part contact).map stripped)) →
    IsMissing (contact.organizationName.map stripped) → IsMissing (formattedFullName S contact)

theorem part_mergeOrganization {mergedCNContact newCNContact : CNContact}
    {part : CNContact → Option String} (hpart : part ∈ nameParts) :
    part (mergeOrganization mergedCNContact newCNContact) = part mergedCNContact := by
  rw [mergeOrganization]
  split
  · simp only [nameParts, List.mem_cons, List.not_mem_nil, or_false] at hpart
    rcases hpart with rfl | rfl | rfl | rfl | rfl <;> rfl
  · rfl

theorem organizationName_mergeParts {mergedCNContact newCNContact : CNContact} :
    (mergeParts E mergedCNContact newCNContact).organizationName =
      mergedCNContact.organizationName := by
  rw [mergeParts]
  split <;> rfl

theorem mergeOrganization_mergeOrganization (mergedCNContact newCNContact : CNContact) :
    mergeOrganization (mergeOrganization mergedCNContact newCNContact) newCNContact =
      mergeOrganization mergedCNContact newCNContact := by
  by_cases horganization : IsMissing (mergedCNContact.organizationName.map stripped)
  · have hinner : mergeOrganization mergedCNContact newCNContact =
        { mergedCNContact with
          organizationName := newCNContact.organizationName.map stripped } :=
      if_pos horganization
    rw [hinner, mergeOrganization]
    split <;> rfl
  · have hinner : mergeOrganization mergedCNContact newCNContact = mergedCNContact :=
      if_neg horganization
    rw [hinner, hinner]

/-- A name that has been merged is what it is after another merge: where it can still not be
formatted, it consists of the parts that it is given again. -/
theorem mergeParts_merged (formatter : FormatsFullName E.toContactSystem)
    (oldCNContact newCNContact : CNContact) :
    mergeParts E (mergeOrganization (mergeParts E oldCNContact newCNContact) newCNContact)
        newCNContact =
      mergeOrganization (mergeParts E oldCNContact newCNContact) newCNContact := by
  by_cases hold : IsMissing (formattedFullName E.toContactSystem oldCNContact)
  · have hparts : mergeParts E oldCNContact newCNContact =
        { oldCNContact with
          namePrefix := newCNContact.namePrefix.map stripped
          givenName := newCNContact.givenName.map stripped
          middleName := newCNContact.middleName.map stripped
          familyName := newCNContact.familyName.map stripped
          nameSuffix := newCNContact.nameSuffix.map stripped } :=
      if_pos hold
    rw [hparts, mergeParts]
    split
    · rw [mergeOrganization]
      split <;> rfl
    · rfl
  · have hparts : mergeParts E oldCNContact newCNContact = oldCNContact := if_neg hold
    rw [hparts]
    refine if_neg fun hmerged => ?_
    by_cases horganization : IsMissing (oldCNContact.organizationName.map stripped)
    · refine hold (formatter.no_name oldCNContact (fun part hpart => ?_) horganization)
      by_contra hname
      rw [← @part_mergeOrganization _ newCNContact _ hpart] at hname
      exact formatter.has_name _ part hpart hname hmerged
    · rw [mergeOrganization, if_neg horganization] at hmerged
      exact hold hmerged

end Added

/-! ## Faithful merges -/

/-- Two texts stand for the same number: they differ in surrounding whitespace, or have the same
E.164 form. -/
def SameNumber (text other : String) : Prop :=
  stripped text = stripped other ∨
    ∃ parsed parsed',
      E.phoneNumberUtil.tryParsePhoneNumberFromUserSpecifiedText text = some parsed ∧
        E.phoneNumberUtil.tryParsePhoneNumberFromUserSpecifiedText other = some parsed' ∧
          parsed.e164 = parsed'.e164

/-- The E.164 forms of the numbers of a contact. -/
def parsedForms (cnContact : CNMutableContact) : List String :=
  (Contact.initWithSystemContact E cnContact).parsedPhoneNumbers.map (·.e164)

def IsNumberOf (cnContact : CNMutableContact) (text : String) : Prop :=
  text ∈ cnContact.phoneNumbers.map (·.value) ∨
    ∃ parsed, E.phoneNumberUtil.tryParsePhoneNumberFromUserSpecifiedText text = some parsed ∧
      parsed.e164 ∈ parsedForms E cnContact

/-- **The merge neither loses nor duplicates.**  A blank text counts as none. -/
structure IsFaithfulMerge (oldCNContact newCNContact mergedCNContact : CNMutableContact) :
    Prop where
  keepsPhoneNumbers : oldCNContact.phoneNumbers <+: mergedCNContact.phoneNumbers
  keepsEmails : oldCNContact.emailAddresses <+: mergedCNContact.emailAddresses
  keepsAddresses : oldCNContact.postalAddresses <+: mergedCNContact.postalAddresses
  keepsName : ∀ part ∈ nameParts, ¬IsMissing ((part oldCNContact.toCNContact).map stripped) →
    part mergedCNContact.toCNContact = part oldCNContact.toCNContact
  keepsOrganization : ¬IsMissing (oldCNContact.organizationName.map stripped) →
    mergedCNContact.organizationName = oldCNContact.organizationName
  keepsAvatar : ∀ avatar, oldCNContact.avatarData = some avatar →
    mergedCNContact.avatarData = some avatar
  hasPhoneNumbers : ∀ number ∈ newCNContact.phoneNumbers, ∃ other ∈ mergedCNContact.phoneNumbers,
    SameNumber E number.value other.value
  hasEmails : ∀ email ∈ newCNContact.emailAddresses, ∃ other ∈ mergedCNContact.emailAddresses,
    stripped email.value = stripped other.value
  addsNoNumber : ∀ number ∈ mergedCNContact.phoneNumbers.drop oldCNContact.phoneNumbers.length,
    ¬IsNumberOf E oldCNContact number.value
  addsNoEmail : ∀ email ∈ mergedCNContact.emailAddresses.drop oldCNContact.emailAddresses.length,
    ∀ other ∈ oldCNContact.emailAddresses, stripped email.value ≠ stripped other.value
  again : mergeCNContact E mergedCNContact newCNContact = mergedCNContact

structure IsRecognised (oldCNContact newCNContact : CNMutableContact) : Prop where
  /-- A number of the new contact that is not a text of the old one has no parsed form of it. -/
  phoneNumbers : ∀ number ∈ newCNContact.phoneNumbers,
    number.value ∉ oldCNContact.phoneNumbers.map (·.value) →
      ¬IsNumberOf E oldCNContact number.value
  /-- An email that both have up to whitespace is an email of the old one without it. -/
  oldEmails : ∀ email ∈ newCNContact.emailAddresses, ∀ other ∈ oldCNContact.emailAddresses,
    stripped email.value = stripped other.value →
      stripped email.value ∈ oldCNContact.emailAddresses.map (·.value)
  /-- An email of the new contact is an email of one of them without surrounding whitespace. -/
  newEmails : ∀ email ∈ newCNContact.emailAddresses,
    stripped email.value ∈
      (oldCNContact.emailAddresses ++ newCNContact.emailAddresses).map (·.value)

variable {E} {oldCNContact newCNContact : CNMutableContact}

/-- Each text of the new contact is in the merged one. -/
theorem value_mem_phoneNumbers {number : CNLabeledValue String}
    (hnumber : number ∈ newCNContact.phoneNumbers) :
    number.value ∈ (mergeCNContact E oldCNContact newCNContact).phoneNumbers.map (·.value) := by
  rw [phoneNumbers_mergeCNContact, List.map_append, List.mem_append]
  by_cases hold : number.value ∈ oldCNContact.phoneNumbers.map (·.value)
  · exact .inl hold
  · exact .inr (List.mem_map.mpr ⟨number, List.mem_filter.mpr ⟨hnumber, by simpa using hold⟩, rfl⟩)

theorem stripped_mem_emails_iff {email : CNLabeledValue String} :
    stripped email.value ∈
        (mergeCNContact E oldCNContact newCNContact).emailAddresses.map (·.value) ↔
      stripped email.value ∈
        (oldCNContact.emailAddresses ++ newCNContact.emailAddresses).map (·.value) := by
  rw [emailAddresses_mergeCNContact, List.map_append, List.map_append, List.mem_append,
    List.mem_append]
  refine or_congr_right' fun hold => ?_
  constructor
  · intro hmem
    obtain ⟨other, hother, hvalue⟩ := List.mem_map.mp hmem
    exact List.mem_map.mpr ⟨other, (List.mem_filter.mp hother).1, hvalue⟩
  · intro hmem
    obtain ⟨other, hother, hvalue⟩ := List.mem_map.mp hmem
    have hadded : stripped other.value ∉ oldCNContact.emailAddresses.map (·.value) := by
      rwa [hvalue, stripped_stripped]
    exact List.mem_map.mpr ⟨other, List.mem_filter.mpr ⟨hother, by simpa using hadded⟩, hvalue⟩

theorem phoneNumbers_again :
    (mergeCNContact E (mergeCNContact E oldCNContact newCNContact) newCNContact).phoneNumbers =
      (mergeCNContact E oldCNContact newCNContact).phoneNumbers := by
  rw [phoneNumbers_mergeCNContact (mergeCNContact E oldCNContact newCNContact)]
  refine List.append_right_eq_self.mpr (List.filter_eq_nil_iff.mpr fun number hnumber => ?_)
  simpa using value_mem_phoneNumbers hnumber

/-- Another merge adds no email that is found in the merged contact. -/
theorem emails_again_iff :
    (mergeCNContact E (mergeCNContact E oldCNContact newCNContact) newCNContact).emailAddresses =
        (mergeCNContact E oldCNContact newCNContact).emailAddresses ↔
      ∀ email ∈ newCNContact.emailAddresses, stripped email.value ∈
        (oldCNContact.emailAddresses ++ newCNContact.emailAddresses).map (·.value) := by
  rw [emailAddresses_mergeCNContact (mergeCNContact E oldCNContact newCNContact),
    List.append_right_eq_self, List.filter_eq_nil_iff]
  refine forall₂_congr fun email _ => ?_
  rw [← @stripped_mem_emails_iff E oldCNContact newCNContact email]
  simp

theorem mergeCNContact_eq_self_iff {mergedCNContact : CNMutableContact}
    (hname : mergeOrganization (mergeParts E mergedCNContact.toCNContact newCNContact.toCNContact)
      newCNContact.toCNContact = mergedCNContact.toCNContact)
    (hnumbers : (mergeCNContact E mergedCNContact newCNContact).phoneNumbers =
      mergedCNContact.phoneNumbers)
    (haddresses : (mergeCNContact E mergedCNContact newCNContact).postalAddresses =
      mergedCNContact.postalAddresses)
    (havatar : (mergeCNContact E mergedCNContact newCNContact).imageData =
      mergedCNContact.imageData) :
    mergeCNContact E mergedCNContact newCNContact = mergedCNContact ↔
      (mergeCNContact E mergedCNContact newCNContact).emailAddresses =
        mergedCNContact.emailAddresses := by
  constructor
  · exact congrArg CNMutableContact.emailAddresses
  · intro hemails
    obtain ⟨name, identifier, numbers, emails, addresses, thumbnail, image⟩ := mergedCNContact
    simp only [mergeCNContact, CNMutableContact.mk.injEq, true_and]
    exact ⟨hname, hnumbers, hemails, haddresses, havatar⟩

/-- Another merge changes the emails only. -/
theorem again_iff (formatter : FormatsFullName E.toContactSystem) :
    mergeCNContact E (mergeCNContact E oldCNContact newCNContact) newCNContact =
        mergeCNContact E oldCNContact newCNContact ↔
      ∀ email ∈ newCNContact.emailAddresses, stripped email.value ∈
        (oldCNContact.emailAddresses ++ newCNContact.emailAddresses).map (·.value) := by
  rw [← @emails_again_iff E oldCNContact newCNContact]
  refine mergeCNContact_eq_self_iff ?_ phoneNumbers_again ?_ ?_
  · have hparts := mergeParts_merged formatter oldCNContact.toCNContact newCNContact.toCNContact
    exact (congrArg (mergeOrganization · newCNContact.toCNContact) hparts).trans
      (mergeOrganization_mergeOrganization _ _)
  · by_cases hnone : oldCNContact.postalAddresses.length = 0 <;> simp [mergeCNContact, hnone]
  · simp only [mergeCNContact]
    cases oldCNContact.imageData with
    | none => cases newCNContact.imageData <;> rfl
    | some image => rfl

theorem postalAddresses_isPrefix : oldCNContact.postalAddresses <+:
    (mergeCNContact E oldCNContact newCNContact).postalAddresses := by
  simp only [mergeCNContact]
  split
  · rename_i hnone
    rw [List.length_eq_zero_iff.mp hnone]
    exact List.nil_prefix
  · exact List.prefix_rfl

theorem avatarData_mergeCNContact {avatar : NSData}
    (havatar : oldCNContact.avatarData = some avatar) :
    (mergeCNContact E oldCNContact newCNContact).avatarData = some avatar := by
  rw [CNMutableContact.avatarData] at havatar ⊢
  have hmerged : (mergeCNContact E oldCNContact newCNContact).thumbnailImageData.or
      (mergeCNContact E oldCNContact newCNContact).imageData =
        (oldCNContact.thumbnailImageData.or oldCNContact.imageData).or newCNContact.imageData :=
    Option.or_assoc.symm
  rw [hmerged, havatar]
  rfl

theorem exists_email {email : CNLabeledValue String}
    (hemail : email ∈ newCNContact.emailAddresses) :
    ∃ other ∈ (mergeCNContact E oldCNContact newCNContact).emailAddresses,
      stripped email.value = stripped other.value := by
  rw [emailAddresses_mergeCNContact]
  by_cases hold : stripped email.value ∈ oldCNContact.emailAddresses.map (·.value)
  · obtain ⟨other, hother, hvalue⟩ := List.mem_map.mp hold
    exact ⟨other, List.mem_append_left _ hother, by rw [hvalue, stripped_stripped]⟩
  · exact ⟨email, List.mem_append_right _ (List.mem_filter.mpr ⟨hemail, by simpa using hold⟩), rfl⟩

/-- **Merges are faithful exactly when the comparisons recognise what the contacts have in common.**
Whatever is merged, nothing is lost. -/
theorem isFaithfulMerge_iff (formatter : FormatsFullName E.toContactSystem)
    (oldCNContact newCNContact : CNMutableContact) :
    IsFaithfulMerge E oldCNContact newCNContact (mergeCNContact E oldCNContact newCNContact) ↔
      IsRecognised E oldCNContact newCNContact := by
  have hnumbers := @phoneNumbers_mergeCNContact E oldCNContact newCNContact
  have hemails := @emailAddresses_mergeCNContact E oldCNContact newCNContact
  have haddedNumbers : (mergeCNContact E oldCNContact newCNContact).phoneNumbers.drop
      oldCNContact.phoneNumbers.length =
        newCNContact.phoneNumbers.filter
          (·.value ∉ oldCNContact.phoneNumbers.map (·.value)) := by
    rw [hnumbers, List.drop_left]
  have haddedEmails : (mergeCNContact E oldCNContact newCNContact).emailAddresses.drop
      oldCNContact.emailAddresses.length =
        newCNContact.emailAddresses.filter
          (stripped ·.value ∉ oldCNContact.emailAddresses.map (·.value)) := by
    rw [hemails, List.drop_left]
  constructor
  · intro faithful
    refine ⟨?_, ?_, (again_iff formatter).mp faithful.again⟩
    · intro number hnumber hnew
      refine faithful.addsNoNumber number ?_
      rw [haddedNumbers]
      exact List.mem_filter.mpr ⟨hnumber, by simpa using hnew⟩
    · intro email hemail other hother hsame
      by_contra hnew
      refine faithful.addsNoEmail email ?_ other hother hsame
      rw [haddedEmails]
      exact List.mem_filter.mpr ⟨hemail, by simpa using hnew⟩
  · intro recognised
    -- Nothing is lost, whatever is merged; only what is added is a matter of recognition.
    refine ⟨?_, ?_, ?_, ?_, ?_, ?_, ?_, ?_, ?_, ?_, (again_iff formatter).mpr recognised.newEmails⟩
    · rw [hnumbers]
      exact List.prefix_append _ _
    · rw [hemails]
      exact List.prefix_append _ _
    · exact postalAddresses_isPrefix
    · intro part hpart hname
      exact (part_mergeOrganization hpart).trans
        (by rw [mergeParts, if_neg (formatter.has_name _ part hpart hname)])
    · intro horganization
      rw [← @organizationName_mergeParts E oldCNContact.toCNContact newCNContact.toCNContact]
        at horganization ⊢
      exact congrArg CNContact.organizationName (if_neg horganization)
    · intro avatar havatar
      exact avatarData_mergeCNContact havatar
    · intro number hnumber
      obtain ⟨other, hother, hvalue⟩ := List.mem_map.mp (value_mem_phoneNumbers hnumber)
      exact ⟨other, hother, .inl (by rw [hvalue])⟩
    · intro email hemail
      exact exists_email hemail
    · intro number hnumber
      rw [haddedNumbers] at hnumber
      obtain ⟨hmem, hnew⟩ := List.mem_filter.mp hnumber
      exact recognised.phoneNumbers number hmem (by simpa using hnew)
    · intro email hemail other hother hsame
      rw [haddedEmails] at hemail
      obtain ⟨hmem, hnew⟩ := List.mem_filter.mp hemail
      have hfound := recognised.oldEmails email hmem other hother hsame
      exact absurd hfound (by simpa using hnew)

/-! ## A number in two formats -/

/-- Formats a name of one part, as the system does. -/
def sampleFormatter : ContactSystem where
  stringFromContact contact := nameParts.findSome? fun part => nonblank (part contact)
  contactWithoutName := ""

theorem nonblank_eq_none_iff {text : Option String} :
    nonblank text = none ↔ IsMissing (text.map stripped) := by
  cases text with
  | none => simp [nonblank, IsMissing]
  | some text => simp [nonblank, IsMissing, Option.filter]

theorem sampleFormatter_formatsFullName : FormatsFullName sampleFormatter where
  has_name contact part hpart hname := by
    cases hfound : nameParts.findSome? fun part => nonblank (part contact) with
    | none =>
        have hall := List.findSome?_eq_none_iff.mp hfound part hpart
        exact absurd (nonblank_eq_none_iff.mp hall) hname
    | some first =>
        obtain ⟨firstPart, -, hfirst⟩ := List.exists_of_findSome?_eq_some hfound
        have hstripped := nonblank_map_stripped_nonblank (firstPart contact)
        rw [hfirst] at hstripped
        have hformatted : formattedFullName sampleFormatter contact = some (stripped first) :=
          congrArg (Option.map stripped) hfound
        rw [hformatted]
        intro hmissing
        have hnone : nonblank (some (stripped first)) = none :=
          nonblank_eq_none_iff.mpr (by rwa [Option.map_some, stripped_stripped])
        rw [Option.map_some, hnone] at hstripped
        cases hstripped
  no_name contact hparts _ := by
    have hnone : (nameParts.findSome? fun part => nonblank (part contact)) = none :=
      List.findSome?_eq_none_iff.mpr fun part hpart => nonblank_eq_none_iff.mpr (hparts part hpart)
    have hformatted : formattedFullName sampleFormatter contact = none :=
      congrArg (Option.map stripped) hnone
    rw [hformatted]
    exact Nat.zero_lt_one

/-- What is parsed of a number with its calling code, and without it. -/
def sampleUtil : PhoneNumberUtil where
  parse text _ :=
    if text = "+14155550100" ∨ text = "4155550100" then
      some
        { countryCode := 1
          nationalNumber := 4155550100
          extension := none
          italianLeadingZero := false
          numberOfLeadingZeros := 1 }
    else none
  format _ := some "+14155550100"
  defaultCountryCode := "US"
  nationalPrefixTransformRule _ := none
  probableCountryCodeForCallingCode _ := none

/-- The device of a user in the United States. -/
def sampleEnvironment : ContactEnvironment where
  toContactSystem := sampleFormatter
  phoneNumberUtil := sampleUtil
  localNumber := none
  localizedString key := key
  avatarHash _ := 0

def sampleContact (phoneNumber : String) : CNMutableContact where
  givenName := some "Ann"
  middleName := none
  familyName := none
  namePrefix := none
  nameSuffix := none
  organizationName := none
  identifier := phoneNumber
  phoneNumbers := [{ label := some .home, value := phoneNumber }]
  emailAddresses := []
  postalAddresses := []
  thumbnailImageData := none
  imageData := none

/-- The condition, of a number in two formats. -/
theorem faithful_sample :
    IsFaithfulMerge sampleEnvironment (sampleContact "+14155550100")
        (sampleContact "(415) 555-0100")
        (mergeCNContact sampleEnvironment (sampleContact "+14155550100")
          (sampleContact "(415) 555-0100")) ↔
      IsRecognised sampleEnvironment (sampleContact "+14155550100")
        (sampleContact "(415) 555-0100") :=
  isFaithfulMerge_iff sampleFormatter_formatsFullName _ _

/-- **A number in another format is added,** although it is the same number. -/
theorem number_twice :
    ¬IsFaithfulMerge sampleEnvironment (sampleContact "+14155550100")
      (sampleContact "(415) 555-0100")
      (mergeCNContact sampleEnvironment (sampleContact "+14155550100")
        (sampleContact "(415) 555-0100")) := by
  intro faithful
  refine faithful.addsNoNumber { label := some .home, value := "(415) 555-0100" } (by decide)
    (.inr ⟨_, rfl, by decide⟩)

end ObjcSwiftLearning.SignalServiceKit
