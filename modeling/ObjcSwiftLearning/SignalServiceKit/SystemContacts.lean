import ObjcSwiftLearning.SignalServiceKit.ContactShare
import Mathlib.Data.Finmap
import Mathlib.Data.Int.Notation
import Mathlib.Data.List.Infix
import Mathlib.Data.List.Sort

/-!
# Contacts of the system

A `Contact` is made from what the address book has: its phone numbers are texts of its user, and
each is parsed as a number in several ways.

* `tryParsePhoneNumbersFromsUserSpecifiedText` — the numbers that a text may stand for.
* `Contact.initWithSystemContact` — a contact from its record.
-/

namespace ObjcSwiftLearning.SignalServiceKit

open AxolotlKit

/-! ## Phone numbers -/

/-- `NBPhoneNumber`: the fields that `isEqual:` compares. -/
structure NBPhoneNumber where
  countryCode : ℤ
  nationalNumber : ℤ
  extension : Option String
  italianLeadingZero : Bool
  numberOfLeadingZeros : ℤ
  deriving DecidableEq

structure PhoneNumber where
  phoneNumber : NBPhoneNumber
  e164 : String
  deriving DecidableEq

/-- `isEqual:`, which does not look at `e164`. -/
def PhoneNumber.isEqual (number other : PhoneNumber) : Bool :=
  number.phoneNumber = other.phoneNumber

/-- `compare:` puts the one before the other, or takes them for the same. -/
def PhoneNumber.Precedes (number other : PhoneNumber) : Prop := number.e164 ≤ other.e164

instance : DecidableRel PhoneNumber.Precedes :=
  fun number other => inferInstanceAs (Decidable (number.e164 ≤ other.e164))

structure PhoneNumberUtil where
  /-- `parse:defaultRegion:error:`. -/
  parse : String → String → Option NBPhoneNumber
  format : NBPhoneNumber → Option String
  defaultCountryCode : String
  nationalPrefixTransformRule : String → Option String
  probableCountryCodeForCallingCode : String → Option String

/-- `whitespaceCharacterSet`: the general category Zs, and the tab. -/
def whitespaceCharacterSet (c : Char) : Bool :=
  c.val ∈ [0x9, 0x20, 0xA0, 0x1680, 0x202F, 0x205F, 0x3000] || (0x2000 ≤ c.val && c.val ≤ 0x200A)

def removeFormattingCharacters (inputString : String) : String :=
  .ofList (inputString.toList.filter fun c => c == '+' || ('0' ≤ c && c ≤ '9'))

/-- `stringByReplacingOccurrencesOfString:@"$1"`. -/
def replacingFirstGroup (text : List Char) : List Char → List Char
  | '$' :: '1' :: rest => text ++ replacingFirstGroup text rest
  | c :: rest => c :: replacingFirstGroup text rest
  | [] => []

/-- The text with the national prefix that a rule gives, where it can be used. -/
def normalizedText (rule : Option String) (text : String) : Option String :=
  rule.bind fun rule =>
    if ['$', '1'] <:+: rule.toList then
      let normalized := replacingFirstGroup text.toList rule.toList
      if '$' ∈ normalized then none else some (.ofList normalized)
    else none

namespace PhoneNumberUtil

variable (U : PhoneNumberUtil)

def phoneNumberFromText (text regionCode : String) : Option PhoneNumber :=
  (U.parse text regionCode).bind fun number =>
    (U.format number).map fun e164 => { phoneNumber := number, e164 }

def phoneNumberFromE164 (text : String) : Option PhoneNumber := U.phoneNumberFromText text "ZZ"

def phoneNumberFromUserSpecifiedText (text : String) : Option PhoneNumber :=
  U.phoneNumberFromText text U.defaultCountryCode

def tryParsePhoneNumberFromUserSpecifiedText (text : String) : Option PhoneNumber :=
  if text = "" then none
  else U.phoneNumberFromUserSpecifiedText (removeFormattingCharacters text)

def callingCodePrefix (clientPhoneNumber : Option String) : Option String :=
  (clientPhoneNumber.filter fun number => 0 < number.length).bind fun number =>
    (U.phoneNumberFromE164 number).map fun parsed => "+" ++ toString parsed.phoneNumber.countryCode

/-- The country of the client's number, where it is not that of the device. -/
def localCountryCode (clientPhoneNumber : Option String) : Option String :=
  ((U.callingCodePrefix clientPhoneNumber).bind U.probableCountryCodeForCallingCode).filter
    (· ≠ U.defaultCountryCode)

def nationalPrefixTransformRuleForDefaultRegion : Option String :=
  U.nationalPrefixTransformRule U.defaultCountryCode

def nationalPrefixTransformRuleForClientPhoneNumber (clientPhoneNumber : Option String) :
    Option String :=
  (U.localCountryCode clientPhoneNumber).bind U.nationalPrefixTransformRule

/-- `tryParsingWithCountryCode`: the numbers found so far, and the one of this reading if it is
new. -/
def tryParsingWithCountryCode (result : List PhoneNumber) (text countryCode : String) :
    List PhoneNumber :=
  match U.phoneNumberFromText text countryCode with
  | some phoneNumber =>
      if phoneNumber.e164 ∈ result.map (·.e164) then result else result ++ [phoneNumber]
  | none => result

def tryParsingWithCallingCode (clientPhoneNumber : Option String) (sanitizedString : String)
    (result : List PhoneNumber) : List PhoneNumber :=
  match U.callingCodePrefix clientPhoneNumber with
  | some callingCodePrefix =>
      let withPrefix := callingCodePrefix ++ sanitizedString
      let result := U.tryParsingWithCountryCode result withPrefix U.defaultCountryCode
      match U.localCountryCode clientPhoneNumber with
      | some countryCode => U.tryParsingWithCountryCode result withPrefix countryCode
      | none => result
  | none => result

def tryParsePhoneNumbersFromNormalizedText (text : String) (clientPhoneNumber : Option String) :
    Option (List PhoneNumber) :=
  let text := stringByTrimmingCharacters whitespaceCharacterSet text
  if text = "" then none
  else
    let sanitizedString := removeFormattingCharacters text
    let result := U.tryParsingWithCountryCode [] sanitizedString U.defaultCountryCode
    if sanitizedString.toList.head? = some '+' then some result
    else
      let result := U.tryParsingWithCountryCode result ("+" ++ sanitizedString) U.defaultCountryCode
      some (U.tryParsingWithCallingCode clientPhoneNumber sanitizedString result)

def numbersWithNationalPrefix (rule : Option String) (text : String)
    (clientPhoneNumber : Option String) : List PhoneNumber :=
  ((normalizedText rule text).bind fun normalized =>
    U.tryParsePhoneNumbersFromNormalizedText normalized clientPhoneNumber).getD []

def tryParsePhoneNumbersFromsUserSpecifiedText (text : String) (clientPhoneNumber : Option String) :
    Option (List PhoneNumber) :=
  (U.tryParsePhoneNumbersFromNormalizedText text clientPhoneNumber).map fun result =>
    result ++
      U.numbersWithNationalPrefix U.nationalPrefixTransformRuleForDefaultRegion text
        clientPhoneNumber ++
      U.numbersWithNationalPrefix
        (U.nationalPrefixTransformRuleForClientPhoneNumber clientPhoneNumber) text clientPhoneNumber

end PhoneNumberUtil

/-! ## Contacts -/

/-- The labels of the system, and those of a user. -/
inductive CNLabel where
  | home
  | work
  | phoneNumberiPhone
  | phoneNumberMobile
  | phoneNumberMain
  | phoneNumberHomeFax
  | phoneNumberWorkFax
  | phoneNumberOtherFax
  | phoneNumberPager
  | other
  | custom (label : String)
  deriving DecidableEq

structure CNLabeledValue (α : Type) where
  label : Option CNLabel
  value : α
  deriving DecidableEq

/-- `CNMutableContact`: a record of the address book, with the fields that are read or merged. -/
structure CNMutableContact extends CNContact where
  identifier : String
  /-- The texts, as `CNPhoneNumber.stringValue` has them. -/
  phoneNumbers : List (CNLabeledValue String)
  emailAddresses : List (CNLabeledValue String)
  postalAddresses : List (CNLabeledValue OWSContactAddress)
  thumbnailImageData : Option NSData
  imageData : Option NSData

/-- What a contact is made with, besides its record. -/
structure ContactEnvironment extends ContactSystem where
  phoneNumberUtil : PhoneNumberUtil
  /-- `[TSAccountManager localNumber]`. -/
  localNumber : Option String
  /-- `NSLocalizedString`. -/
  localizedString : String → String
  /-- The digest of an avatar, truncated to an `NSUInteger`. -/
  avatarHash : NSData → UInt64

structure Contact where
  cnContactId : String
  firstName : Option String
  lastName : Option String
  fullName : Option String
  userTextPhoneNumbers : List String
  parsedPhoneNumbers : List PhoneNumber
  phoneNumberNameMap : Finmap fun _ : String => String
  emails : List String
  imageHash : UInt64
  deriving DecidableEq

def phoneNumberName (localizedString : String → String) : CNLabel → Option String
  | .home => some (localizedString "PHONE_NUMBER_TYPE_HOME")
  | .work => some (localizedString "PHONE_NUMBER_TYPE_WORK")
  | .phoneNumberiPhone => some (localizedString "PHONE_NUMBER_TYPE_IPHONE")
  | .phoneNumberMobile => some (localizedString "PHONE_NUMBER_TYPE_MOBILE")
  | .phoneNumberMain => some (localizedString "PHONE_NUMBER_TYPE_MAIN")
  | .phoneNumberHomeFax => some (localizedString "PHONE_NUMBER_TYPE_HOME_FAX")
  | .phoneNumberWorkFax => some (localizedString "PHONE_NUMBER_TYPE_WORK_FAX")
  | .phoneNumberOtherFax => some (localizedString "PHONE_NUMBER_TYPE_OTHER_FAX")
  | .phoneNumberPager => some (localizedString "PHONE_NUMBER_TYPE_PAGER")
  | .other => some (localizedString "PHONE_NUMBER_TYPE_OTHER")
  -- Labels of other platforms, which begin with "_$", are not shown.
  | .custom label => if 0 < label.length ∧ ¬['_', '$'] <+: label.toList then some label else none

def formattedFullName (S : ContactSystem) (contact : CNContact) : Option String :=
  (S.stringFromContact contact).map stripped

/-- `avatarDataForCNContact:`. -/
def CNMutableContact.avatarData (contact : CNMutableContact) : Option NSData :=
  contact.thumbnailImageData.or contact.imageData

namespace Contact

variable (E : ContactEnvironment)

def textNameMap (phoneNumbers : List (CNLabeledValue String)) : Finmap fun _ : String => String :=
  phoneNumbers.foldl (fun names field =>
    match field.label.bind (phoneNumberName E.localizedString) with
    | some name => names.insert field.value name
    | none => names) ∅

/-- The numbers that the texts of a user stand for, text by text.  The source also puts them into a
map by their E.164 form, which it does not read. -/
def parsedNumbers (userTextPhoneNumbers : List String) : List (String × PhoneNumber) :=
  userTextPhoneNumbers.flatMap fun text =>
    ((E.phoneNumberUtil.tryParsePhoneNumbersFromsUserSpecifiedText text E.localNumber).getD []).map
      (text, ·)

def parsedPhoneNumbersFromUserTextPhoneNumbers (userTextPhoneNumbers : List String) :
    List PhoneNumber :=
  ((parsedNumbers E userTextPhoneNumbers).map (·.2)).insertionSort PhoneNumber.Precedes

def parsedNumberNameMap (userTextPhoneNumbers : List String)
    (names : Finmap fun _ : String => String) : Finmap fun _ : String => String :=
  (parsedNumbers E userTextPhoneNumbers).foldl (fun found parsed =>
    match names.lookup parsed.1 with
    | some name => found.insert parsed.2.e164 name
    | none => found) ∅

def initWithSystemContact (cnContact : CNMutableContact) : Contact :=
  let phoneNumbers := cnContact.phoneNumbers.map (·.value)
  { cnContactId := cnContact.identifier
    firstName := cnContact.givenName.map stripped
    lastName := cnContact.familyName.map stripped
    fullName := formattedFullName E.toContactSystem cnContact.toCNContact
    userTextPhoneNumbers := phoneNumbers
    parsedPhoneNumbers := parsedPhoneNumbersFromUserTextPhoneNumbers E phoneNumbers
    phoneNumberNameMap :=
      parsedNumberNameMap E phoneNumbers (textNameMap E cnContact.phoneNumbers)
    emails := cnContact.emailAddresses.map (·.value)
    imageHash := (cnContact.avatarData.map E.avatarHash).getD 0 }

def uniqueId (contact : Contact) : String := contact.cnContactId

end Contact

end ObjcSwiftLearning.SignalServiceKit
