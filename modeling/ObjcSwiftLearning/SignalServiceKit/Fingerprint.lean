import Mathlib.Data.String.Basic
import ObjcSwiftLearning.AxolotlKit.AdditivePrimitives

/-!
# Safety numbers

Two people compare a number, or scan a code, to see that each has the identity key of the
other.  `OWSFingerprint` computes both from the stable ids and keys it is built with.

* `OWSFingerprint.text` — the number: two halves of thirty digits, the smaller first.
* `OWSFingerprint.logicalFingerprintsData` — the code: the fingerprint of each side, in the
  roles the two have for the one who shows it.
* `OWSFingerprint.matchesLogicalFingerprintsData` — what the other makes of it.

`safety_numbers_agree` is about all three.  SHA-512 and the protobuf coder are parameters; of
the hash nothing is assumed beyond its length.
-/

namespace ObjcSwiftLearning.SignalServiceKit

open AxolotlKit

/-! ## The code -/

structure LogicalFingerprintProto where
  identityData : Option NSData

structure LogicalFingerprintsProto where
  version : Option UInt32
  localFingerprint : Option LogicalFingerprintProto
  remoteFingerprint : Option LogicalFingerprintProto

/-- The functions that are not in the repository. -/
structure FingerprintPrimitives where
  sha512 : NSData → Bytes 64
  serialize : LogicalFingerprintsProto → NSData
  /-- `none` when the bytes are not a protobuf of the message. -/
  parse : NSData → Option LogicalFingerprintsProto

/-- `FingerprintProtoLogicalFingerprints`: the message with its required fields. -/
structure LogicalFingerprints where
  version : UInt32
  localIdentityData : NSData
  remoteIdentityData : NSData

def LogicalFingerprints.parseProto (proto : LogicalFingerprintsProto) :
    Option LogicalFingerprints := do
  let version ← proto.version
  let localFingerprint ← proto.localFingerprint
  let localIdentityData ← localFingerprint.identityData
  let remoteFingerprint ← proto.remoteFingerprint
  let remoteIdentityData ← remoteFingerprint.identityData
  return { version, localIdentityData, remoteIdentityData }

def LogicalFingerprints.parseData (P : FingerprintPrimitives) (data : NSData) :
    Option LogicalFingerprints :=
  (P.parse data).bind parseProto

/-- `buildSerializedData`. -/
def LogicalFingerprints.serializedData (P : FingerprintPrimitives)
    (fingerprints : LogicalFingerprints) : NSData :=
  P.serialize {
    version := some fingerprints.version
    localFingerprint := some ⟨some fingerprints.localIdentityData⟩
    remoteFingerprint := some ⟨some fingerprints.remoteIdentityData⟩ }

/-- A code that was built is read as it was. -/
theorem LogicalFingerprints.parseData_serializedData {P : FingerprintPrimitives}
    (roundTrip : ∀ proto, P.parse (P.serialize proto) = some proto)
    (fingerprints : LogicalFingerprints) :
    parseData P (fingerprints.serializedData P) = some fingerprints := by
  rw [parseData, serializedData, roundTrip]
  rfl

/-! ## The hash -/

/-- `OWSFingerprintHashingVersion`. -/
def hashingVersion : UInt32 := 0

def scannableFormatVersion : UInt32 := 1

/-- `dataFromShort:`.  The cast binds before the shift, which is one of `int`s: the first byte
is zero. -/
def dataFromShort (aShort : UInt32) : NSData :=
  [((aShort &&& 0xFF00).toUInt8.toUInt32 >>> 8).toUInt8, (aShort &&& 0x00FF).toUInt8]

/-- What is hashed, or the hash: long enough for its first 32 bytes to be shown. -/
abbrev FingerprintData := {data : NSData // 32 ≤ data.length}

/-- The loop of `dataForStableId:publicKey:`.  Data of 4 GB raises an exception. -/
def hashLoop (P : FingerprintPrimitives) (publicKey : NSData) :
    ℕ → FingerprintData → Except String FingerprintData
  | 0, hash => .ok hash
  | iterations + 1, hash =>
      if 2 ^ 32 - 1 ≤ (hash.val ++ publicKey).length then .error "Oversize hash."
      else
        let digest := P.sha512 (hash.val ++ publicKey)
        hashLoop P publicKey iterations ⟨digest.val, by rw [digest.property]; decide⟩

/-- `dataForStableId:publicKey:`, where the key is still to be given its type byte. -/
def dataForStableId (P : FingerprintPrimitives) (hashIterations : ℕ) (stableId : String)
    (identityKey : Key) : Except String FingerprintData :=
  let publicKey := prependKeyType identityKey.val
  hashLoop P publicKey hashIterations
    ⟨dataFromShort hashingVersion ++ publicKey ++ utf8 stableId, by
      simp only [List.length_append, publicKey, length_prependKeyType_key]
      omega⟩

/-! ## The number -/

def uint64From5Bytes (bytes : NSData) : ℕ :=
  (bytes.getD 0 0).toNat <<< 32 ||| (bytes.getD 1 0).toNat <<< 24 |||
    (bytes.getD 2 0).toNat <<< 16 ||| (bytes.getD 3 0).toNat <<< 8 ||| (bytes.getD 4 0).toNat

/-- `%05d` of a number that is not negative. -/
def formatFiveDigits (n : ℕ) : String := .ofList ((Nat.toDigits 10 n).leftpad 5 '0')

def encodedChunk (data : FingerprintData) (offset : ℕ) : String :=
  formatFiveDigits (uint64From5Bytes ((data.val.drop offset).take 5) % 100000)

def stringForFingerprintData (data : FingerprintData) : String :=
  encodedChunk data 0 ++ encodedChunk data 5 ++ encodedChunk data 10 ++ encodedChunk data 15 ++
    encodedChunk data 20 ++ encodedChunk data 25

def scannableData (data : FingerprintData) : NSData := data.val.take 32

def IsDigits (n : ℕ) (text : String) : Prop :=
  text.length = n ∧ ∀ c ∈ text.toList, c.isDigit = true

theorem IsDigits.append {m n : ℕ} {text text' : String} (h : IsDigits m text)
    (h' : IsDigits n text') : IsDigits (m + n) (text ++ text') := by
  refine ⟨by rw [String.length_append, h.1, h'.1], fun c hc => ?_⟩
  rw [String.toList_append, List.mem_append] at hc
  rcases hc with hc | hc
  · exact h.2 c hc
  · exact h'.2 c hc

/-- Five digits are enough below a hundred thousand. -/
theorem isDigits_formatFiveDigits {n : ℕ} (h : n < 100000) : IsDigits 5 (formatFiveDigits n) := by
  have hlength : (Nat.toDigits 10 n).length ≤ 5 :=
    (Nat.length_toDigits_le_iff (by decide) (by decide)).mpr h
  refine ⟨?_, fun c hc => ?_⟩
  · rw [formatFiveDigits, String.length_ofList, List.leftpad, List.length_append,
      List.length_replicate]
    omega
  · rw [formatFiveDigits, String.toList_ofList, List.leftpad, List.mem_append] at hc
    rcases hc with hzero | hdigit
    · rw [List.eq_of_mem_replicate hzero]
      decide
    · exact Nat.isDigit_of_mem_toDigits (by decide) (by decide) hdigit

/-- **Half of the number.** -/
theorem isDigits_stringForFingerprintData (data : FingerprintData) :
    IsDigits 30 (stringForFingerprintData data) := by
  have hchunk : ∀ offset, IsDigits 5 (encodedChunk data offset) := fun offset =>
    isDigits_formatFiveDigits (Nat.mod_lt _ (by decide))
  exact (((((hchunk 0).append (hchunk 5)).append (hchunk 10)).append (hchunk 15)).append
    (hchunk 20)).append (hchunk 25)

/-! ## `OWSFingerprint` -/

/-- The errors of a verification, all of the code `OWSErrorCodePrivacyVerificationFailure`. -/
inductive VerificationError where
  | invalidQRCode
  | oldRemoteVersion
  | oldLocalVersion
  | haveWrongKeyForThem (theirName : String)
  | theyHaveWrongKeyForMe (theirName : String)
  deriving DecidableEq

structure OWSFingerprint where
  theirName : String
  myFingerprintData : FingerprintData
  theirFingerprintData : FingerprintData

namespace OWSFingerprint

/-- `initWithMyStableId:myIdentityKey:theirStableId:theirIdentityKey:theirName:hashIterations:`. -/
def initWithMyStableId (P : FingerprintPrimitives) (myStableId : String) (myIdentityKey : Key)
    (theirStableId : String) (theirIdentityKey : Key) (theirName : String)
    (hashIterations : ℕ) : Except String OWSFingerprint :=
  match dataForStableId P hashIterations myStableId myIdentityKey,
    dataForStableId P hashIterations theirStableId theirIdentityKey with
  | .ok myFingerprintData, .ok theirFingerprintData =>
      .ok { theirName, myFingerprintData, theirFingerprintData }
  | .error reason, _ => .error reason
  | .ok _, .error reason => .error reason

variable (P : FingerprintPrimitives) (fingerprint : OWSFingerprint)

def text : String :=
  let myDisplayString := stringForFingerprintData fingerprint.myFingerprintData
  let theirDisplayString := stringForFingerprintData fingerprint.theirFingerprintData
  if theirDisplayString < myDisplayString then theirDisplayString ++ myDisplayString
  else myDisplayString ++ theirDisplayString

/-- The `fingerprintData` of `image`. -/
def logicalFingerprintsData : NSData :=
  LogicalFingerprints.serializedData P {
    version := scannableFormatVersion
    localIdentityData := scannableData fingerprint.myFingerprintData
    remoteIdentityData := scannableData fingerprint.theirFingerprintData }

def matchesLogicalFingerprintsData (data : NSData) : Bool × Option VerificationError :=
  match LogicalFingerprints.parseData P data with
  | none => (false, some .invalidQRCode)
  | some logicalFingerprints =>
      if logicalFingerprints.version < scannableFormatVersion then
        (false, some .oldRemoteVersion)
      else if scannableFormatVersion < logicalFingerprints.version then
        (false, some .oldLocalVersion)
      -- Their local is our remote.
      else if logicalFingerprints.localIdentityData ≠
          scannableData fingerprint.theirFingerprintData then
        (false, some (.haveWrongKeyForThem fingerprint.theirName))
      else if logicalFingerprints.remoteIdentityData ≠
          scannableData fingerprint.myFingerprintData then
        (false, some (.theyHaveWrongKeyForMe fingerprint.theirName))
      else (true, none)

/-- The code is accepted, and no error is set. -/
def Accepts (data : NSData) : Prop :=
  fingerprint.matchesLogicalFingerprintsData P data = (true, none)

/-- The code is rejected with an error. -/
def Rejects (data : NSData) : Prop :=
  ∃ error, fingerprint.matchesLogicalFingerprintsData P data = (false, some error)

/-! ### What the two see -/

/-- The fingerprint as the other side has it, who calls us by some name. -/
def swapped (theirName : String) : OWSFingerprint where
  theirName := theirName
  myFingerprintData := fingerprint.theirFingerprintData
  theirFingerprintData := fingerprint.myFingerprintData

variable {P fingerprint}

/-- The other side builds the swapped fingerprint. -/
theorem initWithMyStableId_swapped {myStableId theirStableId theirName : String}
    {myIdentityKey theirIdentityKey : Key} {hashIterations : ℕ} (myName : String)
    (h : initWithMyStableId P myStableId myIdentityKey theirStableId theirIdentityKey theirName
      hashIterations = .ok fingerprint) :
    initWithMyStableId P theirStableId theirIdentityKey myStableId myIdentityKey myName
      hashIterations = .ok (fingerprint.swapped myName) := by
  rw [initWithMyStableId] at h ⊢
  cases hmine : dataForStableId P hashIterations myStableId myIdentityKey with
  | error reason =>
      rw [hmine] at h
      cases h
  | ok myFingerprintData =>
      cases htheirs : dataForStableId P hashIterations theirStableId theirIdentityKey with
      | error reason =>
          rw [hmine, htheirs] at h
          cases h
      | ok theirFingerprintData =>
          rw [hmine, htheirs] at h
          obtain rfl := Except.ok.inj h
          rfl

theorem smaller_first_comm (mine theirs : String) :
    (if mine < theirs then mine ++ theirs else theirs ++ mine) =
      if theirs < mine then theirs ++ mine else mine ++ theirs := by
  rcases lt_trichotomy mine theirs with hlt | rfl | hgt
  · rw [if_pos hlt, if_neg (not_lt_of_gt hlt)]
  · rfl
  · rw [if_neg (not_lt_of_gt hgt), if_pos hgt]

/-- **The number does not depend on the side.** -/
theorem text_swapped (myName : String) : (fingerprint.swapped myName).text = fingerprint.text := by
  simp only [text, swapped]
  exact smaller_first_comm (stringForFingerprintData fingerprint.myFingerprintData)
    (stringForFingerprintData fingerprint.theirFingerprintData)

theorem isDigits_text : IsDigits 60 fingerprint.text := by
  have hmine := isDigits_stringForFingerprintData fingerprint.myFingerprintData
  have htheirs := isDigits_stringForFingerprintData fingerprint.theirFingerprintData
  simp only [text]
  split
  · exact htheirs.append hmine
  · exact hmine.append htheirs

/-- **What is accepted**: the current version, with our roles the other way round. -/
theorem accepts_iff {data : NSData} {logicalFingerprints : LogicalFingerprints}
    (h : LogicalFingerprints.parseData P data = some logicalFingerprints) :
    fingerprint.Accepts P data ↔
      logicalFingerprints.version = scannableFormatVersion ∧
        logicalFingerprints.remoteIdentityData = scannableData fingerprint.myFingerprintData ∧
        logicalFingerprints.localIdentityData = scannableData fingerprint.theirFingerprintData := by
  rw [Accepts, matchesLogicalFingerprintsData, h]
  simp only
  split
  · rename_i hold
    exact iff_of_false (by simp) fun hsame => absurd hold (by rw [hsame.1]; decide)
  · rename_i hnotOld
    split
    · rename_i hnewer
      exact iff_of_false (by simp) fun hsame => absurd hnewer (by rw [hsame.1]; decide)
    · rename_i hnotNewer
      have hversion : logicalFingerprints.version = scannableFormatVersion :=
        UInt32.le_antisymm (UInt32.not_lt.mp hnotNewer) (UInt32.not_lt.mp hnotOld)
      split
      · rename_i hthem
        exact iff_of_false (by simp) fun hsame => hthem hsame.2.2
      · rename_i hthem
        split
        · rename_i hme
          exact iff_of_false (by simp) fun hsame => hme hsame.2.1
        · rename_i hme
          exact iff_of_true rfl ⟨hversion, not_not.mp hme, not_not.mp hthem⟩

theorem accepts_or_rejects (data : NSData) :
    fingerprint.Accepts P data ∨ fingerprint.Rejects P data := by
  rw [Accepts, Rejects, matchesLogicalFingerprintsData]
  cases LogicalFingerprints.parseData P data with
  | none => exact .inr ⟨_, rfl⟩
  | some logicalFingerprints =>
      simp only
      split_ifs
      · exact .inr ⟨_, rfl⟩
      · exact .inr ⟨_, rfl⟩
      · exact .inr ⟨_, rfl⟩
      · exact .inr ⟨_, rfl⟩
      · exact .inl rfl

/-- **Safety numbers agree.**  With any hash function:

* the two sides of a pair of ids and keys build the same number of sixty digits;
* the code of one is accepted by the other exactly when their fingerprints are the same, in
  exchanged roles, and any other code exactly when it has the current version and these; what is
  not accepted is rejected with an error. -/
theorem safety_numbers_agree
    (roundTrip : ∀ proto, P.parse (P.serialize proto) = some proto) :
    (∀ idA keyA nameA idB keyB nameB hashIterations fingerprintA,
      initWithMyStableId P idA keyA idB keyB nameB hashIterations = .ok fingerprintA →
      ∃ fingerprintB, initWithMyStableId P idB keyB idA keyA nameA hashIterations =
          .ok fingerprintB ∧
        fingerprintB.text = fingerprintA.text ∧ IsDigits 60 fingerprintA.text) ∧
      (∀ fingerprintA fingerprintB : OWSFingerprint,
        (fingerprintA.Accepts P (fingerprintB.logicalFingerprintsData P) ↔
          scannableData fingerprintA.myFingerprintData =
              scannableData fingerprintB.theirFingerprintData ∧
            scannableData fingerprintA.theirFingerprintData =
              scannableData fingerprintB.myFingerprintData) ∧
        (¬fingerprintA.Accepts P (fingerprintB.logicalFingerprintsData P) →
          fingerprintA.Rejects P (fingerprintB.logicalFingerprintsData P))) ∧
      ∀ (fingerprintA : OWSFingerprint) (data : NSData) (logicalFingerprints : LogicalFingerprints),
        LogicalFingerprints.parseData P data = some logicalFingerprints →
        (fingerprintA.Accepts P data ↔
          logicalFingerprints.version = scannableFormatVersion ∧
            logicalFingerprints.remoteIdentityData =
              scannableData fingerprintA.myFingerprintData ∧
            logicalFingerprints.localIdentityData =
              scannableData fingerprintA.theirFingerprintData) ∧
        (¬fingerprintA.Accepts P data → fingerprintA.Rejects P data) := by
  refine ⟨?_, fun fingerprintA fingerprintB => ⟨?_, ?_⟩, fun fingerprintA data read hread => ?_⟩
  · intro idA keyA nameA idB keyB nameB hashIterations fingerprintA hbuilt
    exact ⟨fingerprintA.swapped nameA, initWithMyStableId_swapped nameA hbuilt,
      text_swapped nameA, isDigits_text⟩
  · have hread := LogicalFingerprints.parseData_serializedData roundTrip
      { version := scannableFormatVersion
        localIdentityData := scannableData fingerprintB.myFingerprintData
        remoteIdentityData := scannableData fingerprintB.theirFingerprintData }
    rw [logicalFingerprintsData, accepts_iff hread]
    constructor
    · rintro ⟨-, hmine, htheirs⟩
      exact ⟨hmine.symm, htheirs.symm⟩
    · rintro ⟨hmine, htheirs⟩
      exact ⟨rfl, hmine.symm, htheirs.symm⟩
  · exact (accepts_or_rejects _).resolve_left
  · exact ⟨accepts_iff hread, (accepts_or_rejects _).resolve_left⟩

/-! ### A coder and a hash -/

section Sample

open AdditivePrimitives

/-- `LogicalFingerprints` as fields. -/
def serializeLogicalFingerprints (proto : LogicalFingerprintsProto) : NSData :=
  encodeFields [proto.version.map encodeUInt32,
    proto.localFingerprint.map fun fingerprint => encodeField fingerprint.identityData,
    proto.remoteFingerprint.map fun fingerprint => encodeField fingerprint.identityData]

/-- A field as `LogicalFingerprint`. -/
def parseLogicalFingerprint (data : NSData) : LogicalFingerprintProto :=
  ⟨(decodeField data).bind fun decoded => decoded.1⟩

/-- Fields as `LogicalFingerprints`. -/
def parseLogicalFingerprints (data : NSData) : Option LogicalFingerprintsProto :=
  match decodeFields 3 data with
  | some [version, localFingerprint, remoteFingerprint] =>
      some { version := version.map decodeUInt32
             localFingerprint := localFingerprint.map parseLogicalFingerprint
             remoteFingerprint := remoteFingerprint.map parseLogicalFingerprint }
  | _ => none

theorem parseLogicalFingerprint_encodeField (fingerprint : Option LogicalFingerprintProto) :
    (fingerprint.map fun fingerprint => encodeField fingerprint.identityData).map
      parseLogicalFingerprint = fingerprint := by
  cases fingerprint with
  | none => rfl
  | some fingerprint =>
      have hdecoded := decodeField_encodeField fingerprint.identityData []
      rw [List.append_nil] at hdecoded
      simp [parseLogicalFingerprint, hdecoded]

theorem parse_serializeLogicalFingerprints (proto : LogicalFingerprintsProto) :
    parseLogicalFingerprints (serializeLogicalFingerprints proto) = some proto := by
  have hfields := decodeFields_encodeFields [proto.version.map encodeUInt32,
    proto.localFingerprint.map fun fingerprint => encodeField fingerprint.identityData,
    proto.remoteFingerprint.map fun fingerprint => encodeField fingerprint.identityData]
  simp only [List.length_cons, List.length_nil] at hfields
  simp only [parseLogicalFingerprints, serializeLogicalFingerprints, hfields,
    map_decodeUInt32_map_encodeUInt32, parseLogicalFingerprint_encodeField]

/-- The hash is the end of the data. -/
def additiveFingerprintPrimitives : FingerprintPrimitives where
  sha512 data := ⟨(data.reverse ++ List.replicate 64 0).take 64, by simp⟩
  serialize := serializeLogicalFingerprints
  parse := parseLogicalFingerprints

/-- Two phones, after two iterations: the same number, and the scan succeeds. -/
theorem safety_numbers_agree_sample : ∃ fingerprintA fingerprintB : OWSFingerprint,
    initWithMyStableId additiveFingerprintPrimitives "+13213214321" (sampleKey 1) "+14324324321"
      (sampleKey 2) "Bob" 2 = .ok fingerprintA ∧
    initWithMyStableId additiveFingerprintPrimitives "+14324324321" (sampleKey 2) "+13213214321"
      (sampleKey 1) "Alice" 2 = .ok fingerprintB ∧
    fingerprintB.text = fingerprintA.text ∧
    fingerprintA.Accepts additiveFingerprintPrimitives
      (fingerprintB.logicalFingerprintsData additiveFingerprintPrimitives) := by
  obtain ⟨hnumbers, hcodes, -⟩ := @safety_numbers_agree additiveFingerprintPrimitives
    parse_serializeLogicalFingerprints
  obtain ⟨fingerprintA, hA⟩ : ∃ fingerprint, initWithMyStableId additiveFingerprintPrimitives
      "+13213214321" (sampleKey 1) "+14324324321" (sampleKey 2) "Bob" 2 = .ok fingerprint :=
    ⟨_, rfl⟩
  obtain ⟨fingerprintB, hB, htext, -⟩ := hnumbers _ _ "Alice" _ _ _ _ _ hA
  refine ⟨fingerprintA, fingerprintB, hA, hB, htext, (hcodes fingerprintA fingerprintB).1.mpr ?_⟩
  obtain rfl := Except.ok.inj (hB.symm.trans (initWithMyStableId_swapped "Alice" hA))
  exact ⟨rfl, rfl⟩

end Sample

end OWSFingerprint

end ObjcSwiftLearning.SignalServiceKit
