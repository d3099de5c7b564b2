import Mathlib.Algebra.Order.Ring.Unbundled.Rat
import ObjcSwiftLearning.AxolotlKit.AdditivePrimitives
import ObjcSwiftLearning.SignalServiceKit.QuoteFormat

/-!
# Remote attestation of the contact discovery enclave

`parseAttestationResponseJson` derives keys from what a server sends and accepts them when a
quote shows that the server is the expected enclave.  The quote comes twice: once with the
keys, and once inside the body that the attestation service has signed.  The fields are
checked on the first copy, the signature is over the second, and 432 bytes of the two are
compared.

The certificate, the signature check, the cipher and Foundation's decoders are parameters,
collected in `AttestationServices`; nothing is assumed of them.

* `Attested` — what an accepted response promises about the **signed** copy.
* `parseAttestationResponseJson_attested` — every accepted response keeps the promise.
-/

namespace ObjcSwiftLearning.SignalServiceKit

open AxolotlKit ByteParser

/-! ## What Foundation hands over -/

/-- An object of `JSONObjectWithData:`.  A boolean is an `NSNumber` too. -/
inductive JSON where
  | null
  | boolean (value : Bool)
  | number (value : ℚ)
  | string (value : String)
  | array (elements : List JSON)
  | dictionary (entries : List (String × JSON))

/-- `NSDictionary` as JSON has it. -/
abbrev JSONDictionary := List (String × JSON)

/-- `NSDate`, in seconds. -/
abbrev NSDate := ℚ

def isAfterDate (date other : NSDate) : Bool := other < date

/-- `NSCalendar`, as far as days go: the time zone's offset from UTC, in seconds, which may
change in the course of a year. -/
structure NSCalendar where
  secondsFromGMTForDate : NSDate → ℚ

def NSCalendar.dateByAddingDay (calendar : NSCalendar) (date : NSDate) : NSDate :=
  date + 86400 +
    (calendar.secondsFromGMTForDate date - calendar.secondsFromGMTForDate (date + 86400))

/-- `NSHTTPCookie`: a name and a value. -/
abbrev NSHTTPCookie := String × String

inductive NSURLResponse where
  | http (allHeaderFields : List (String × String))
  | other

/-- What the service calls and does not implement. -/
structure AttestationServices (CDSSigningCertificate : Type) where
  cookiesWithResponseHeaderFields : List (String × String) → List NSHTTPCookie
  initWithBase64EncodedString : String → Option NSData
  stringByRemovingPercentEncoding : String → Option String
  /-- `JSONObjectWithData:options:error:`; `none` is an error. -/
  jsonObjectWithData : NSData → Option JSON
  decryptAESGCM : (initializationVector ciphertext authTag : NSData) → Key → Option NSData
  parseCertificateFromPem : String → Option CDSSigningCertificate
  verifySignatureOfBody : CDSSigningCertificate → String → (signature : NSData) → Bool
  /-- `dateFromString:` with the format of the attestation service, in UTC. -/
  dateFromString : String → Option NSDate
  currentCalendar : NSCalendar

/-! ## Comparing and printing bytes -/

/-- `ows_constantTimeIsEqualToData:`: every byte is looked at. -/
def constantTimeIsEqualToData (data other : NSData) : Bool :=
  data.length == other.length &&
    (data.zip other).foldl (fun isEqual bytes => isEqual ||| (bytes.1 ^^^ bytes.2)) 0 == 0

/-- The bits that differ anywhere are collected. -/
theorem foldl_or_xor_eq_zero (pairs : List (UInt8 × UInt8)) (isEqual : UInt8) :
    pairs.foldl (fun isEqual bytes => isEqual ||| (bytes.1 ^^^ bytes.2)) isEqual = 0 ↔
      isEqual = 0 ∧ ∀ bytes ∈ pairs, bytes.1 = bytes.2 := by
  induction pairs generalizing isEqual with
  | nil => simp
  | cons bytes pairs ih =>
      rw [List.foldl_cons, ih, UInt8.or_eq_zero_iff, UInt8.xor_eq_zero_iff,
        List.forall_mem_cons, and_assoc]

theorem constantTimeIsEqualToData_iff {data other : NSData} :
    constantTimeIsEqualToData data other = true ↔ data = other := by
  rw [constantTimeIsEqualToData, Bool.and_eq_true, beq_iff_eq, beq_iff_eq,
    foldl_or_xor_eq_zero]
  constructor
  · rintro ⟨hlength, -, hsame⟩
    refine List.ext_getElem hlength fun i hi hi' => ?_
    exact hsame (data[i], other[i]) (List.mem_iff_getElem.mpr
      ⟨i, by rw [List.length_zip]; omega, List.getElem_zip⟩)
  · rintro rfl
    refine ⟨rfl, rfl, fun bytes hbytes => ?_⟩
    rw [List.zip_eq_zipWith, List.zipWith_self, List.mem_map] at hbytes
    obtain ⟨byte, -, rfl⟩ := hbytes
    rfl

/-- `hexadecimalString`: `%02x` for each byte. -/
def hexadecimalString (data : NSData) : String :=
  .ofList (data.flatMap fun byte =>
    [Nat.digitChar (byte.toNat / 16), Nat.digitChar (byte.toNat % 16)])

theorem utf8_injective {s t : String} (h : utf8 s = utf8 t) : s = t := by
  have hdata : s.toUTF8 = t.toUTF8 := ByteArray.ext (Array.toList_inj.mp h)
  exact String.toByteArray_inj.mp hdata

/-! ## Reading a dictionary -/

section Dictionary

variable {CDSSigningCertificate : Type} (services : AttestationServices CDSSigningCertificate)

def JSONDictionary.stringForKey (dictionary : JSONDictionary) (key : String) : Option String :=
  match dictionary.lookup key with
  | some (.string value) => some value
  | _ => none

def JSONDictionary.numberForKey (dictionary : JSONDictionary) (key : String) : Option ℚ :=
  match dictionary.lookup key with
  | some (.number value) => some value
  | some (.boolean value) => some (if value then 1 else 0)
  | _ => none

def JSONDictionary.base64DataForKey (dictionary : JSONDictionary) (key : String) :
    Option NSData := do
  services.initWithBase64EncodedString (← dictionary.stringForKey key)

def JSONDictionary.base64DataForKeyOfLength (dictionary : JSONDictionary) (key : String)
    (expectedLength : ℕ) : Option NSData := do
  let valueData ← dictionary.base64DataForKey services key
  if valueData.length ≠ expectedLength then none else some valueData

end Dictionary

/-! ## The keys -/

structure RemoteAttestationKeys where
  keyPair : ECKeyPair
  serverEphemeralPublic : NSData
  serverStaticPublic : NSData
  clientKey : Key
  serverKey : Key

/-- `deriveKeys`, which a `@catch` protects from the lengths of the public keys. -/
def deriveKeys (P : Primitives) (keyPair : ECKeyPair)
    (serverEphemeralPublic serverStaticPublic : NSData) : Option RemoteAttestationKeys :=
  match P.throwsGenerateSharedSecret serverEphemeralPublic keyPair,
      P.throwsGenerateSharedSecret serverStaticPublic keyPair with
  | .ok ephemeralToEphemeral, .ok ephemeralToStatic =>
      let masterSecret := ephemeralToEphemeral.val ++ ephemeralToStatic.val
      let publicKeys := keyPair.publicKey.val ++ serverEphemeralPublic ++ serverStaticPublic
      let derivedMaterial := P.deriveKey masterSecret [] publicKeys 2
      some
        { keyPair := keyPair
          serverEphemeralPublic := serverEphemeralPublic
          serverStaticPublic := serverStaticPublic
          clientKey := subdata derivedMaterial 0 32 (by omega)
          serverKey := subdata derivedMaterial 32 32 (by omega) }
  | _, _ => none

/-- `keysForKeyPair:serverEphemeralPublic:serverStaticPublic:`. -/
def keysForKeyPair (P : Primitives) (keyPair : ECKeyPair)
    (serverEphemeralPublic serverStaticPublic : NSData) : Option RemoteAttestationKeys :=
  if serverEphemeralPublic.length < 1 then none
  else if serverStaticPublic.length < 1 then none
  else deriveKeys P keyPair serverEphemeralPublic serverStaticPublic

theorem serverStaticPublic_of_keysForKeyPair {P : Primitives} {keyPair : ECKeyPair}
    {serverEphemeralPublic serverStaticPublic : NSData} {keys : RemoteAttestationKeys}
    (h : keysForKeyPair P keyPair serverEphemeralPublic serverStaticPublic = some keys) :
    keys.serverStaticPublic = serverStaticPublic := by
  unfold keysForKeyPair deriveKeys at h
  split at h
  · cases h
  · split at h
    · cases h
    · split at h
      · cases h
        rfl
      · cases h

/-! ## The signed body -/

structure SignatureBodyEntity where
  isvEnclaveQuoteBody : NSData
  isvEnclaveQuoteStatus : String
  timestamp : String
  version : ℚ

section Verification

variable {CDSSigningCertificate : Type} (services : AttestationServices CDSSigningCertificate)

def parseSignatureBodyEntity (signatureBody : String) : Option SignatureBodyEntity := do
  match services.jsonObjectWithData (utf8 signatureBody) with
  | some (.dictionary jsonDict) =>
      let timestamp ← JSONDictionary.stringForKey jsonDict "timestamp"
      guard (timestamp ≠ "")
      let isvEnclaveQuoteBody ←
        JSONDictionary.base64DataForKey services jsonDict "isvEnclaveQuoteBody"
      guard (¬isvEnclaveQuoteBody.length < 1)
      let isvEnclaveQuoteStatus ←
        JSONDictionary.stringForKey jsonDict "isvEnclaveQuoteStatus"
      guard (isvEnclaveQuoteStatus ≠ "")
      let version ← JSONDictionary.numberForKey jsonDict "version"
      return { isvEnclaveQuoteBody, isvEnclaveQuoteStatus, timestamp, version }
  | _ => none

def quoteBodyComparisonLength : ℕ := 432

/-- `kSignatureBodyVersion`, which is not the version of a quote. -/
def signatureBodyVersion : ℚ := 3

/-- `verifyIasSignatureWithCertificates:signatureBody:signature:quoteData:`; `none` is
`NO`. -/
def verifyIasSignature (now : NSDate) (certificates signatureBody : String)
    (signature quoteData : NSData) : Option Unit := do
  let certificate ← services.parseCertificateFromPem certificates
  guard (services.verifySignatureOfBody certificate signatureBody signature)
  let signatureBodyEntity ← parseSignatureBodyEntity services signatureBody
  guard (¬signatureBodyEntity.isvEnclaveQuoteBody.length < quoteBodyComparisonLength)
  guard (signatureBodyEntity.version = signatureBodyVersion)
  guard (¬quoteData.length < quoteBodyComparisonLength)
  guard (constantTimeIsEqualToData
    (signatureBodyEntity.isvEnclaveQuoteBody.take quoteBodyComparisonLength)
    (quoteData.take quoteBodyComparisonLength))
  guard ("OK" = signatureBodyEntity.isvEnclaveQuoteStatus)
  let timestampDate ← services.dateFromString signatureBodyEntity.timestamp
  let timestampDatePlus1Day := services.currentCalendar.dateByAddingDay timestampDate
  guard (¬isAfterDate now timestampDatePlus1Day)

def verifyServerQuote (quote : CDSQuote) (keys : RemoteAttestationKeys) (enclaveId : String) :
    Option Unit := do
  guard (¬quote.reportData.length < keys.serverStaticPublic.length)
  let theirServerPublicStatic := quote.reportData.take keys.serverStaticPublic.length
  guard (theirServerPublicStatic.length = keys.serverStaticPublic.length)
  guard (constantTimeIsEqualToData keys.serverStaticPublic theirServerPublicStatic)
  let ourEnclaveIdHexData := utf8 enclaveId
  let theirEnclaveIdHexData := utf8 (hexadecimalString quote.mrenclave)
  guard (constantTimeIsEqualToData ourEnclaveIdHexData theirEnclaveIdHexData)
  guard (¬quote.isDebugQuote)

def decryptRequestId (encryptedRequestId encryptedRequestIv encryptedRequestTag : NSData)
    (keys : RemoteAttestationKeys) : Option NSData :=
  services.decryptAESGCM encryptedRequestIv encryptedRequestId encryptedRequestTag
    keys.serverKey

/-! ## The response -/

structure RemoteAttestationAuth where
  username : String
  password : String

structure RemoteAttestation where
  keys : RemoteAttestationKeys
  cookies : List NSHTTPCookie
  requestId : NSData
  enclaveId : String
  auth : RemoteAttestationAuth

/-- `parseAttestationResponseJson` from the cookies and the dictionary on. -/
def parseAttestationResponseDict (P : Primitives) (now : NSDate)
    (responseDict : JSONDictionary) (cookies : List NSHTTPCookie) (keyPair : ECKeyPair)
    (enclaveId : String) (auth : RemoteAttestationAuth) : Option RemoteAttestation := do
  let serverEphemeralPublic ←
    responseDict.base64DataForKeyOfLength services "serverEphemeralPublic" 32
  let serverStaticPublic ←
    responseDict.base64DataForKeyOfLength services "serverStaticPublic" 32
  let encryptedRequestId ← responseDict.base64DataForKey services "ciphertext"
  let encryptedRequestIv ← responseDict.base64DataForKeyOfLength services "iv" 12
  let encryptedRequestTag ← responseDict.base64DataForKeyOfLength services "tag" 16
  let quoteData ← responseDict.base64DataForKey services "quote"
  let signatureBody ← responseDict.stringForKey "signatureBody"
  let signature ← responseDict.base64DataForKey services "signature"
  let encodedCertificates ← responseDict.stringForKey "certificates"
  let certificates ← services.stringByRemovingPercentEncoding encodedCertificates
  let keys ← keysForKeyPair P keyPair serverEphemeralPublic serverStaticPublic
  let quote ← CDSQuote.parseQuoteFromData quoteData
  let requestId ←
    decryptRequestId services encryptedRequestId encryptedRequestIv encryptedRequestTag keys
  verifyServerQuote quote keys enclaveId
  verifyIasSignature services now certificates signatureBody signature quoteData
  return { keys, cookies, requestId, enclaveId, auth }

/-- `parseAttestationResponseJson:response:keyPair:enclaveId:auth:`. -/
def parseAttestationResponseJson (P : Primitives) (now : NSDate) (responseJson : JSON)
    (response : NSURLResponse) (keyPair : ECKeyPair) (enclaveId : String)
    (auth : RemoteAttestationAuth) : Option RemoteAttestation :=
  match response with
  | .other => none
  | .http allHeaderFields =>
      let cookies := services.cookiesWithResponseHeaderFields allHeaderFields
      if cookies.length < 1 then none
      else
        match responseJson with
        | .dictionary responseDict =>
            parseAttestationResponseDict services P now responseDict cookies keyPair enclaveId
              auth
        | _ => none

/-! ## What an accepted response promises -/

/-- What `verifyServerQuote` makes sure of, for the copy of the quote it is given. -/
structure BelongsTo (body : CDSQuoteBody) (enclaveId : String) (serverStaticPublic : NSData) :
    Prop where
  mrenclave : hexadecimalString body.mrenclave = enclaveId
  /-- It cannot be debugged. -/
  debug : body.isDebugQuote = false
  reportData : serverStaticPublic <+: body.reportData

/-- What `verifyIasSignature` makes sure of. -/
structure SignedBy (now : NSDate) (certificates signatureBody : String)
    (signature quoteData : NSData) (entity : SignatureBodyEntity) : Prop where
  /-- The signature over the signed body is the certificate's. -/
  signature : ∃ certificate, services.parseCertificateFromPem certificates = some certificate ∧
    services.verifySignatureOfBody certificate signatureBody signature = true
  signedEntity : parseSignatureBodyEntity services signatureBody = some entity
  /-- The signed copy of the quote agrees with the other copy where they are compared. -/
  sameQuote : entity.isvEnclaveQuoteBody.take quoteBodyComparisonLength =
    quoteData.take quoteBodyComparisonLength
  status : entity.isvEnclaveQuoteStatus = "OK"
  version : entity.version = 3
  /-- The signed timestamp is at most one day old. -/
  timestamp : ∃ timestampDate, services.dateFromString entity.timestamp = some timestampDate ∧
    now ≤ services.currentCalendar.dateByAddingDay timestampDate

theorem belongsTo_of_verifyServerQuote {quote : CDSQuote} {keys : RemoteAttestationKeys}
    {enclaveId : String} (h : verifyServerQuote quote keys enclaveId = some ()) :
    BelongsTo quote.toCDSQuoteBody enclaveId keys.serverStaticPublic := by
  simp only [verifyServerQuote, Option.bind_eq_bind, Option.bind_eq_some_iff,
    Option.guard_eq_some', constantTimeIsEqualToData_iff] at h
  obtain ⟨-, -, -, -, -, hstatic, -, henclave, hdebug⟩ := h
  refine ⟨(utf8_injective henclave).symm, by simpa using hdebug, ?_⟩
  rw [hstatic]
  exact List.take_prefix _ _

theorem signedBy_of_verifyIasSignature {now : NSDate} {certificates signatureBody : String}
    {signature quoteData : NSData}
    (h : verifyIasSignature services now certificates signatureBody signature quoteData =
      some ()) :
    ∃ entity, SignedBy services now certificates signatureBody signature quoteData entity := by
  simp only [verifyIasSignature, Option.bind_eq_bind, Option.bind_eq_some_iff,
    Option.guard_eq_some', constantTimeIsEqualToData_iff] at h
  obtain ⟨certificate, hcertificate, -, hverified, entity, hentity, -, -, -, hversion, -, -,
    -, hsame, -, hstatus, timestampDate, hdate, hfresh⟩ := h
  refine ⟨entity, ⟨certificate, hcertificate, hverified⟩, hentity, hsame, hstatus.symm,
    hversion, timestampDate, hdate, ?_⟩
  simpa [isAfterDate] using hfresh

/-- What an accepted response consists of, as far as the quote is concerned. -/
structure AttestationEvidence where
  serverEphemeralPublic : NSData
  serverStaticPublic : NSData
  quoteData : NSData
  signatureBody : String
  signature : NSData
  certificates : String
  entity : SignatureBodyEntity
  /-- The fields of the **signed** quote. -/
  signedQuote : CDSQuoteBody

/-- **Bound to the enclave**: the signature over what the response has as signed body is
verified, and the quote in there belongs to the enclave and to the static key from which the
keys were derived. -/
structure Attested (P : Primitives) (now : NSDate) (responseDict : JSONDictionary)
    (keyPair : ECKeyPair) (enclaveId : String) (keys : RemoteAttestationKeys)
    (evidence : AttestationEvidence) : Prop where
  serverEphemeralPublic :
    responseDict.base64DataForKeyOfLength services "serverEphemeralPublic" 32 =
      some evidence.serverEphemeralPublic
  serverStaticPublic :
    responseDict.base64DataForKeyOfLength services "serverStaticPublic" 32 =
      some evidence.serverStaticPublic
  quoteData : responseDict.base64DataForKey services "quote" = some evidence.quoteData
  signatureBody : responseDict.stringForKey "signatureBody" = some evidence.signatureBody
  signature : responseDict.base64DataForKey services "signature" = some evidence.signature
  certificates : (responseDict.stringForKey "certificates").bind
    services.stringByRemovingPercentEncoding = some evidence.certificates
  keys : keysForKeyPair P keyPair evidence.serverEphemeralPublic evidence.serverStaticPublic =
    some keys
  signed : SignedBy services now evidence.certificates evidence.signatureBody
    evidence.signature evidence.quoteData evidence.entity
  signedQuote : ∃ parser', StateT.run parseQuoteBody
      (initWithData evidence.entity.isvEnclaveQuoteBody true) =
        some (evidence.signedQuote, parser') ∧
    parser'.hasError = false
  flags : evidence.signedQuote.IsInitialised64Bit
  belongs : BelongsTo evidence.signedQuote enclaveId evidence.serverStaticPublic

/-- A response whose dictionary is accepted. -/
theorem attested_of_parseAttestationResponseDict {P : Primitives} {now : NSDate}
    {responseDict : JSONDictionary} {cookies : List NSHTTPCookie} {keyPair : ECKeyPair}
    {enclaveId : String} {auth : RemoteAttestationAuth} {attestation : RemoteAttestation}
    (h : parseAttestationResponseDict services P now responseDict cookies keyPair enclaveId
      auth = some attestation) :
    ∃ evidence,
      Attested services P now responseDict keyPair enclaveId attestation.keys evidence := by
  obtain ⟨serverEphemeralPublic, hephemeral, h⟩ := Option.bind_eq_some_iff.mp h
  obtain ⟨serverStaticPublic, hstatic, h⟩ := Option.bind_eq_some_iff.mp h
  obtain ⟨encryptedRequestId, -, h⟩ := Option.bind_eq_some_iff.mp h
  obtain ⟨encryptedRequestIv, -, h⟩ := Option.bind_eq_some_iff.mp h
  obtain ⟨encryptedRequestTag, -, h⟩ := Option.bind_eq_some_iff.mp h
  obtain ⟨quoteData, hquoteData, h⟩ := Option.bind_eq_some_iff.mp h
  obtain ⟨signatureBody, hsignatureBody, h⟩ := Option.bind_eq_some_iff.mp h
  obtain ⟨signature, hsignature, h⟩ := Option.bind_eq_some_iff.mp h
  obtain ⟨encodedCertificates, hencoded, h⟩ := Option.bind_eq_some_iff.mp h
  obtain ⟨certificates, hcertificates, h⟩ := Option.bind_eq_some_iff.mp h
  obtain ⟨keys, hkeys, h⟩ := Option.bind_eq_some_iff.mp h
  obtain ⟨quote, hquote, h⟩ := Option.bind_eq_some_iff.mp h
  obtain ⟨requestId, -, h⟩ := Option.bind_eq_some_iff.mp h
  obtain ⟨_, hserver, h⟩ := Option.bind_eq_some_iff.mp h
  obtain ⟨_, hias, h⟩ := Option.bind_eq_some_iff.mp h
  cases h
  obtain ⟨entity, hsigned⟩ := signedBy_of_verifyIasSignature services hias
  -- The signed copy has the fields of the copy that was checked.
  obtain ⟨hflags, hrun⟩ := CDSQuote.parseQuoteBody_of_take_eq hquote hsigned.sameQuote
  have hbelongs := belongsTo_of_verifyServerQuote hserver
  rw [serverStaticPublic_of_keysForKeyPair hkeys] at hbelongs
  exact
    ⟨{ serverEphemeralPublic, serverStaticPublic, quoteData, signatureBody, signature,
       certificates, entity, signedQuote := quote.toCDSQuoteBody },
     { serverEphemeralPublic := hephemeral
       serverStaticPublic := hstatic
       quoteData := hquoteData
       signatureBody := hsignatureBody
       signature := hsignature
       certificates := by rw [hencoded, Option.bind_some, hcertificates]
       keys := hkeys
       signed := hsigned
       signedQuote := ⟨_, hrun, rfl⟩
       flags := hflags
       belongs := hbelongs }⟩

/-- **Attestation binds the keys to the enclave**, whatever the server responds. -/
theorem parseAttestationResponseJson_attested (P : Primitives) (now : NSDate)
    (responseJson : JSON) (response : NSURLResponse) (keyPair : ECKeyPair)
    (enclaveId : String) (auth : RemoteAttestationAuth) (attestation : RemoteAttestation)
    (h : parseAttestationResponseJson services P now responseJson response keyPair enclaveId
      auth = some attestation) :
    ∃ responseDict, responseJson = .dictionary responseDict ∧ ∃ evidence,
      Attested services P now responseDict keyPair enclaveId attestation.keys evidence := by
  cases response with
  | other => cases h
  | http allHeaderFields =>
      simp only [parseAttestationResponseJson] at h
      split at h
      · cases h
      · cases responseJson with
        | dictionary responseDict =>
            exact ⟨responseDict, rfl, attested_of_parseAttestationResponseDict services h⟩
        | _ => cases h

end Verification

/-! ## A response that is accepted -/

/-- A quote of an enclave whose measurement and static key are zero. -/
def sampleQuoteData : NSData :=
  1 :: List.replicate 95 0 ++ 5 :: List.replicate 339 0

def sampleQuoteBodyBase64 : String :=
  "AQAA" ++ String.join (List.replicate 31 "AAAA") ++ "BQAA" ++
    String.join (List.replicate 111 "AAAA")

/-- What the attestation service signs. -/
def sampleSignatureBody : String :=
  "\x7b\"timestamp\":\"2019-01-01T00:00:00.000000\",\"version\":3," ++
    "\"isvEnclaveQuoteStatus\":\"OK\",\"isvEnclaveQuoteBody\":\"" ++
    sampleQuoteBodyBase64 ++ "\"\x7d"

/-- A public key of zeros. -/
def sampleKeyBase64 : String := String.join (List.replicate 10 "AAAA") ++ "AAA="

/-- The response of a server that runs the enclave. -/
def sampleResponse : JSONDictionary :=
  [("serverEphemeralPublic", .string sampleKeyBase64),
    ("serverStaticPublic", .string sampleKeyBase64),
    ("ciphertext", .string "AQ=="),
    ("iv", .string "AAAAAAAAAAAAAAAA"),
    ("tag", .string "AAAAAAAAAAAAAAAAAAAAAA=="),
    ("quote", .string (sampleQuoteBodyBase64 ++ "AAAAAA==")),
    ("signatureBody", .string sampleSignatureBody),
    ("signature", .string "Ag=="),
    ("certificates", .string "PEM")]

/-- Services that know the one certificate, the one signature and what the sample is made of.
The timestamp is the first second of 2019, and the calendar that of UTC. -/
def sampleServices : AttestationServices String where
  cookiesWithResponseHeaderFields := id
  initWithBase64EncodedString string :=
    if string = "AQ==" then some [1]
    else if string = "Ag==" then some [2]
    else if string = "AAAAAAAAAAAAAAAA" then some (List.replicate 12 0)
    else if string = "AAAAAAAAAAAAAAAAAAAAAA==" then some (List.replicate 16 0)
    else if string = sampleKeyBase64 then some (List.replicate 32 0)
    else if string = sampleQuoteBodyBase64 then some (sampleQuoteData.take 432)
    else if string = sampleQuoteBodyBase64 ++ "AAAAAA==" then some sampleQuoteData
    else none
  stringByRemovingPercentEncoding := some
  jsonObjectWithData data :=
    if data = utf8 sampleSignatureBody then
      some (.dictionary
        [("timestamp", .string "2019-01-01T00:00:00.000000"),
          ("version", .number 3),
          ("isvEnclaveQuoteStatus", .string "OK"),
          ("isvEnclaveQuoteBody", .string sampleQuoteBodyBase64)])
    else none
  decryptAESGCM _ ciphertext _ _ := some ciphertext
  parseCertificateFromPem := some
  verifySignatureOfBody certificate body signature :=
    certificate == "PEM" && body == sampleSignatureBody && signature == [2]
  dateFromString string :=
    if string = "2019-01-01T00:00:00.000000" then some 1546300800 else none
  currentCalendar := { secondsFromGMTForDate := fun _ => 0 }

/-- An hour after it was signed, the response is accepted. -/
def sampleAttestation : Option RemoteAttestation :=
  parseAttestationResponseJson sampleServices additivePrimitives 1546304400
    (.dictionary sampleResponse) (.http [("id", "1")]) (additivePrimitives.generatedKeyPair 0)
    (String.join (List.replicate 64 "0")) ⟨"username", "password"⟩

theorem isSome_sampleAttestation : sampleAttestation.isSome = true := by
  decide +kernel

/-- The accepted response is bound to the enclave of zeros. -/
theorem sampleAttestation_attested :
    ∃ attestation, sampleAttestation = some attestation ∧
      ∃ responseDict, JSON.dictionary sampleResponse = .dictionary responseDict ∧ ∃ evidence,
        Attested sampleServices additivePrimitives 1546304400 responseDict
          (additivePrimitives.generatedKeyPair 0) (String.join (List.replicate 64 "0"))
          attestation.keys evidence := by
  obtain ⟨attestation, h⟩ := Option.isSome_iff_exists.mp isSome_sampleAttestation
  exact ⟨attestation, h, parseAttestationResponseJson_attested _ _ _ _ _ _ _ _ _ h⟩

end ObjcSwiftLearning.SignalServiceKit
