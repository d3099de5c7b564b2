import ObjcSwiftLearning.AxolotlKit.Primitives

/-!
# Cipher messages and their wire format

`WhisperMessage` and `PreKeyWhisperMessage`, each with the initialiser that
builds and serialises it and the one that parses received bytes.

A serialised `WhisperMessage` is `version byte · protobuf · MAC`; a serialised
`PreKeyWhisperMessage` is `version byte · protobuf`, and one of its fields is a
serialised `WhisperMessage`.  A C `int` is an `Int32`: the protobuf fields are
unsigned, and an id crosses the wire by its bits.

* `WhisperMessage.throwsInitWithData_serialized` — a message built for the
  current version parses to itself, with the type byte of its ratchet key
  stripped.
* `PreKeyWhisperMessage.throwsInitWithData_serialized` — the same for the outer
  message; the absent prekey id comes back as `-1`.
-/

namespace ObjcSwiftLearning.AxolotlKit

def minimumSupportedVersion : Int32 := 3

def currentVersion : Int32 := 3

def macLength : ℕ := 8

def versionLength : ℕ := 1

namespace SerializationUtilities

def highBitsToInt (byte : UInt8) : Int32 := .ofNat ((byte &&& 0xFF) >>> 4).toNat

def intsToByte (highValue lowValue : Int32) : UInt8 :=
  ((highValue <<< 4 ||| lowValue) &&& 0xFF).toUInt32.toUInt8

/-- `throws_macWithVersion:identityKey:receiverIdentityKey:macKey:serialized:`.
The version takes no part in it. -/
def mac (P : Primitives) (senderIdentityKey receiverIdentityKey macKey serialized : NSData) :
    NSData :=
  (P.hmac macKey (senderIdentityKey ++ receiverIdentityKey ++ serialized)).val.take
    macLength

@[simp] theorem length_mac (P : Primitives)
    (senderIdentityKey receiverIdentityKey macKey serialized : NSData) :
    (mac P senderIdentityKey receiverIdentityKey macKey serialized).length = macLength := by
  simp [mac, macLength, (P.hmac _ _).property]

@[simp] theorem highBitsToInt_intsToByte_currentVersion :
    highBitsToInt (intsToByte currentVersion currentVersion) = currentVersion := by
  decide

end SerializationUtilities

open SerializationUtilities

/-! ## `WhisperMessage` -/

structure WhisperMessage where
  version : Int32
  senderRatchetKey : NSData
  previousCounter : Int32
  counter : Int32
  cipherText : NSData
  serialized : NSData
  deriving DecidableEq

namespace WhisperMessage

variable (P : Primitives)

/-- The protobuf `SPKProtoTSProtoWhisperMessageBuilder` builds. -/
def toProto (senderRatchetKey : NSData) (counter previousCounter : Int32)
    (cipherText : NSData) : TSProtoWhisperMessage where
  ratchetKey := some senderRatchetKey
  counter := some counter.toUInt32
  previousCounter := some previousCounter.toUInt32
  ciphertext := some cipherText

/-- `init_throws_withVersion:macKey:senderRatchetKey:counter:previousCounter:…`.
All required protobuf fields are set, so the builder cannot fail. -/
def initWithVersion (version : Int32) (macKey senderRatchetKey : NSData)
    (counter previousCounter : Int32) (cipherText : NSData)
    (senderIdentityKey receiverIdentityKey : NSData) : WhisperMessage :=
  let messageData := P.serializeWhisperMessage
    (toProto senderRatchetKey counter previousCounter cipherText)
  let serialized := intsToByte version currentVersion :: messageData
  { version, senderRatchetKey, previousCounter, counter, cipherText
    serialized := serialized ++ mac P (prependKeyType senderIdentityKey)
      (prependKeyType receiverIdentityKey) macKey serialized }

/-- `parseProto:` with its required fields. -/
def parseProto (proto : TSProtoWhisperMessage) :
    Except Failure (NSData × UInt32 × NSData) :=
  match proto.ratchetKey, proto.counter, proto.ciphertext with
  | some ratchetKey, some counter, some ciphertext => .ok (ratchetKey, counter, ciphertext)
  | _, _, _ => .error (exception .invalidMessageException "Could not parse proto.")

def throwsInitWithData (serialized : NSData) : Except Failure WhisperMessage :=
  if serialized.length ≤ versionLength + macLength then
    .error (exception .invalidMessageException "Message size is too short to have content")
  else
    let version := highBitsToInt (serialized.headD 0)
    let messageAndMac := serialized.drop versionLength
    let messageData := messageAndMac.take (messageAndMac.length - macLength)
    if version < minimumSupportedVersion then
      .error (exception .legacyMessageException
        "Message was sent with an unsupported version of the TextSecure protocol.")
    else if currentVersion < version then
      .error (exception .invalidMessageException "Unknown Version")
    else
      match P.parseWhisperMessage messageData with
      | none => .error (exception .invalidMessageException "Could not parse proto.")
      | some proto => do
          let (ratchetKey, counter, ciphertext) ← parseProto proto
          let senderRatchetKey ← throwsRemoveKeyType ratchetKey
          return {
            version, senderRatchetKey
            previousCounter := .ofUInt32 (proto.previousCounter.getD 0)
            counter := .ofUInt32 counter
            cipherText := ciphertext
            serialized }

/-- The MAC check inside `throws_verifyMacWithVersion:…`: the last eight bytes
are the MAC of everything before them. -/
def hasValidMac (message : WhisperMessage)
    (senderIdentityKey receiverIdentityKey macKey : NSData) : Bool :=
  let messageLength := message.serialized.length - macLength
  message.serialized.drop messageLength ==
    mac P (prependKeyType senderIdentityKey) (prependKeyType receiverIdentityKey) macKey
      (message.serialized.take messageLength)

/-- `throws_verifyMacWithVersion:senderIdentityKey:receiverIdentityKey:macKey:`. -/
def throwsVerifyMac (message : WhisperMessage)
    (senderIdentityKey receiverIdentityKey macKey : NSData) : Except Failure Unit :=
  if message.serialized.length < macLength then
    .error (exception .invalidMessageException "Data too short")
  else if message.hasValidMac P senderIdentityKey receiverIdentityKey macKey then
    .ok ()
  else
    .error (exception .invalidMessageException "Bad Mac!")

variable {P}

/-- The message as its receiver parses it. -/
def received (message : WhisperMessage) : WhisperMessage :=
  { message with senderRatchetKey := message.senderRatchetKey.drop 1 }

/-- A protobuf with a ratchet key takes at least one byte. -/
theorem length_serializeWhisperMessage_pos (coder : P.CodesMessages) (senderRatchetKey : NSData)
    (counter previousCounter : Int32) (cipherText : NSData) :
    0 < (P.serializeWhisperMessage
      (toProto senderRatchetKey counter previousCounter cipherText)).length := by
  rw [List.length_pos_iff]
  intro hnil
  have hround := coder.parse_serializeWhisperMessage
    (toProto senderRatchetKey counter previousCounter cipherText)
  rw [hnil, coder.parseWhisperMessage_nil] at hround
  simp [toProto] at hround

/-- **`WhisperMessage` round trip.** -/
theorem throwsInitWithData_serialized (coder : P.CodesMessages) (macKey : NSData)
    (senderRatchetKey : Key) (counter previousCounter : Int32)
    (cipherText senderIdentityKey receiverIdentityKey : NSData) :
    throwsInitWithData P (initWithVersion P currentVersion macKey
        (prependKeyType senderRatchetKey.val) counter previousCounter cipherText
        senderIdentityKey receiverIdentityKey).serialized =
      .ok (initWithVersion P currentVersion macKey (prependKeyType senderRatchetKey.val)
        counter previousCounter cipherText senderIdentityKey
        receiverIdentityKey).received := by
  have hpos := length_serializeWhisperMessage_pos coder (prependKeyType senderRatchetKey.val)
    counter previousCounter cipherText
  have hround := coder.parse_serializeWhisperMessage
    (toProto (prependKeyType senderRatchetKey.val) counter previousCounter cipherText)
  generalize hdata : P.serializeWhisperMessage
    (toProto (prependKeyType senderRatchetKey.val) counter previousCounter cipherText) =
      messageData at hpos hround
  have hkey : (prependKeyType senderRatchetKey.val).drop 1 = senderRatchetKey.val := by
    simp [prependKeyType_of_key]
  simp only [throwsInitWithData, initWithVersion, received, hdata, versionLength,
    List.length_append, List.length_cons, length_mac, macLength, List.headD_cons,
    List.cons_append, highBitsToInt_intsToByte_currentVersion, List.drop_succ_cons,
    List.drop_zero]
  rw [if_neg (by omega), if_neg (by decide), if_neg (by decide)]
  simp only [Nat.add_sub_cancel, List.take_left', hround, toProto, parseProto, bind,
    Except.bind, throwsRemoveKeyType_prependKeyType, hkey]
  rfl

/-- The MAC of a built message verifies under identity keys that agree with those
it was built with up to the type byte, in the roles they had. -/
theorem throwsVerifyMac_initWithVersion_of_eq (version : Int32) (macKey senderRatchetKey : NSData)
    (counter previousCounter : Int32) (cipherText : NSData)
    {senderIdentityKey receiverIdentityKey senderIdentityKey' receiverIdentityKey' : NSData}
    (hsender : prependKeyType senderIdentityKey = prependKeyType senderIdentityKey')
    (hreceiver : prependKeyType receiverIdentityKey = prependKeyType receiverIdentityKey') :
    (initWithVersion P version macKey senderRatchetKey counter previousCounter cipherText
      senderIdentityKey receiverIdentityKey).throwsVerifyMac
        P senderIdentityKey' receiverIdentityKey' macKey = .ok () := by
  simp [throwsVerifyMac, hasValidMac, initWithVersion, macLength, hsender, hreceiver]

theorem throwsVerifyMac_initWithVersion (version : Int32) (macKey senderRatchetKey : NSData)
    (counter previousCounter : Int32)
    (cipherText senderIdentityKey receiverIdentityKey : NSData) :
    (initWithVersion P version macKey senderRatchetKey counter previousCounter cipherText
      (prependKeyType senderIdentityKey) (prependKeyType receiverIdentityKey)).throwsVerifyMac
        P senderIdentityKey receiverIdentityKey macKey = .ok () :=
  throwsVerifyMac_initWithVersion_of_eq _ _ _ _ _ _ (prependKeyType_prependKeyType _)
    (prependKeyType_prependKeyType _)

@[simp] theorem throwsVerifyMac_received (message : WhisperMessage)
    (senderIdentityKey receiverIdentityKey macKey : NSData) :
    message.received.throwsVerifyMac P senderIdentityKey receiverIdentityKey macKey =
      message.throwsVerifyMac P senderIdentityKey receiverIdentityKey macKey := rfl

end WhisperMessage

/-! ## `PreKeyWhisperMessage` -/

/-- `PreKeyWhisperMessage`; `prekeyID` is `-1` when no one-time prekey is named. -/
structure PreKeyWhisperMessage where
  version : Int32
  registrationId : Int32
  prekeyID : Int32
  signedPrekeyId : Int32
  baseKey : NSData
  identityKey : NSData
  message : WhisperMessage
  serialized : NSData
  deriving DecidableEq

namespace PreKeyWhisperMessage

variable (P : Primitives)

/-- The protobuf `SPKProtoTSProtoPreKeyWhisperMessageBuilder` builds: the prekey
id is set unless it is `-1`. -/
def toProto (registrationId prekeyId signedPrekeyId : Int32) (baseKey identityKey : NSData)
    (message : NSData) : TSProtoPreKeyWhisperMessage where
  registrationId := some registrationId.toUInt32
  preKeyId := if prekeyId ≠ -1 then some prekeyId.toUInt32 else none
  signedPreKeyId := some signedPrekeyId.toUInt32
  baseKey := some baseKey
  identityKey := some identityKey
  message := some message

/-- `init_throws_withWhisperMessage:registrationId:prekeyId:signedPrekeyId:baseKey:identityKey:`. -/
def initWithWhisperMessage (whisperMessage : WhisperMessage)
    (registrationId prekeyId signedPrekeyId : Int32) (baseKey identityKey : NSData) :
    PreKeyWhisperMessage where
  version := whisperMessage.version
  registrationId := registrationId
  prekeyID := prekeyId
  signedPrekeyId := signedPrekeyId
  baseKey := baseKey
  identityKey := identityKey
  message := whisperMessage
  serialized := intsToByte whisperMessage.version currentVersion ::
    P.serializePreKeyWhisperMessage (toProto registrationId prekeyId signedPrekeyId baseKey
      identityKey whisperMessage.serialized)

/-- `parseProto:` with its required fields. -/
def parseProto (proto : TSProtoPreKeyWhisperMessage) :
    Except Failure (UInt32 × NSData × NSData × NSData) :=
  match proto.signedPreKeyId, proto.baseKey, proto.identityKey, proto.message with
  | some signedPreKeyId, some baseKey, some identityKey, some message =>
      .ok (signedPreKeyId, baseKey, identityKey, message)
  | _, _, _, _ => .error (exception .invalidMessageException "Could not parse proto.")

def throwsInitWithData (serialized : NSData) : Except Failure PreKeyWhisperMessage :=
  if serialized.length < 1 then
    .error (exception .invalidMessageException "Empty data")
  else
    let version := highBitsToInt (serialized.headD 0)
    -- The conjunction is the source's; no version satisfies it.
    if currentVersion < version ∧ version < minimumSupportedVersion then
      .error (exception .invalidVersionException "Unknown version")
    else
      match P.parsePreKeyWhisperMessage (serialized.drop 1) with
      | none => .error (exception .invalidMessageException "Could not parse proto.")
      | some proto => do
          let (signedPrekeyId, baseKey, identityKey, message) ← parseProto proto
          let message ← WhisperMessage.throwsInitWithData P message
          return {
            version
            registrationId := .ofUInt32 (proto.registrationId.getD 0)
            prekeyID := match proto.preKeyId with
              | some preKeyId => .ofUInt32 preKeyId
              | none => -1
            signedPrekeyId := .ofUInt32 signedPrekeyId
            baseKey, identityKey, message, serialized }

variable {P}

/-- The message as its receiver parses it. -/
def received (message : PreKeyWhisperMessage) : PreKeyWhisperMessage :=
  { message with message := message.message.received }

/-- **`PreKeyWhisperMessage` round trip**, for every id: only `-1` is coded by
absence, and absence is read back as `-1`. -/
theorem throwsInitWithData_serialized (coder : P.CodesMessages) {whisperMessage : WhisperMessage}
    (registrationId prekeyId signedPrekeyId : Int32) (baseKey identityKey : NSData)
    (hversion : whisperMessage.version = currentVersion)
    (hinner : WhisperMessage.throwsInitWithData P whisperMessage.serialized =
      .ok whisperMessage.received) :
    throwsInitWithData P (initWithWhisperMessage P whisperMessage registrationId prekeyId
        signedPrekeyId baseKey identityKey).serialized =
      .ok (initWithWhisperMessage P whisperMessage registrationId prekeyId signedPrekeyId
        baseKey identityKey).received := by
  have hround := coder.parse_serializePreKeyWhisperMessage
    (toProto registrationId prekeyId signedPrekeyId baseKey identityKey
      whisperMessage.serialized)
  simp only [throwsInitWithData, initWithWhisperMessage, received, List.length_cons,
    List.headD_cons, List.drop_succ_cons, List.drop_zero, hversion,
    highBitsToInt_intsToByte_currentVersion]
  rw [if_neg (by omega), if_neg (by decide)]
  simp only [hround]
  simp only [toProto, parseProto, bind, Except.bind, hinner]
  by_cases hid : prekeyId = -1
  · simp [hid]
  · simp [hid]

end PreKeyWhisperMessage

/-! ## `CipherMessage` -/

/-- The two classes `throws_decrypt` and `throws_encryptMessage` deal in. -/
inductive CipherMessage where
  | whisper (message : WhisperMessage)
  | prekey (message : PreKeyWhisperMessage)
  deriving DecidableEq

def CipherMessage.whisperMessage : CipherMessage → WhisperMessage
  | .whisper message => message
  | .prekey message => message.message

end ObjcSwiftLearning.AxolotlKit
