import ObjcSwiftLearning.AxolotlKit.SendingChains
import ObjcSwiftLearning.Library.KeyedArchive

/-!
# Archived sessions

`encodeWithCoder:` and `initWithCoder:` of the session classes, read by a coder that
returns nothing for `decodeObjectOfClass:` when the stored object is not of the class
named.

Chain keys, message keys, root keys, sending chains and pending prekeys come back as they
were written.  The readers of two fields name the wrong class:

* `ReceivingChain` reads its chain key as `NSData`, gets nothing, and fails its assertion;
* `SessionState` reads its root key as `NSData`, and has none afterwards.

`survivesArchive_iff` says what is left: a record comes back exactly when no state in it
has a root key or a receiver chain.
-/

namespace ObjcSwiftLearning.AxolotlKit

/-! ## The coder -/

/-- The classes the session classes write and name. -/
inductive ArchiveClass where
  | nsData
  | nsNumber
  | nsArray
  | nsMutableArray
  | ecKeyPair
  | chainKey
  | rootKey
  | messageKeys
  | sendingChain
  | receivingChain
  | pendingPreKey
  | sessionState
  | sessionRecord
  deriving DecidableEq

def ArchiveClass.isKindOf (cls expected : ArchiveClass) : Bool :=
  cls == expected || (cls == .nsMutableArray && expected == .nsArray)

/-- What is archived without keys of its own. -/
inductive ArchiveLeaf where
  | bytes (data : NSData)
  | int (value : ℤ)
  deriving DecidableEq

abbrev CoderFields := KeyedFields ArchiveClass ArchiveLeaf

abbrev SessionCoding := Coding Failure ArchiveClass ArchiveLeaf

namespace CoderFields

def encodeInt (value : ℤ) (key : String) : CoderFields := [(key, .leaf .nsNumber (.int value))]

/-- `decodeIntForKey:`; an absent key reads as zero. -/
def decodeInt (key : String) (fields : CoderFields) : ℤ :=
  match fields.lookup key with
  | some (.leaf _ (.int value)) => value
  | _ => 0

def encodeBytes (data : NSData) (key : String) : CoderFields :=
  [(key, .leaf .nsData (.bytes data))]

/-- `decodeBytesForKey:returnedLength:`; an absent key reads as no bytes. -/
def decodeBytes (key : String) (fields : CoderFields) : NSData :=
  match fields.lookup key with
  | some (.leaf _ (.bytes data)) => data
  | _ => []

@[simp] theorem lookup_encodeInt (value : ℤ) (key other : String) :
    (encodeInt value key).lookup other =
      if other == key then some (.leaf .nsNumber (.int value)) else none :=
  KeyedFields.lookup_singleton

@[simp] theorem lookup_encodeBytes (data : NSData) (key other : String) :
    (encodeBytes data key).lookup other =
      if other == key then some (.leaf .nsData (.bytes data)) else none :=
  KeyedFields.lookup_singleton

end CoderFields

open CoderFields

def nsDataCoding : SessionCoding NSData where
  cls := .nsData
  encode data := .leaf .nsData (.bytes data)
  decode
    | .leaf _ (.bytes data) => .ok (some data)
    | _ => .ok none
  cls_encode _ := rfl

/-- `NSNumber` of an `int`. -/
def nsNumberCoding : SessionCoding Int32 where
  cls := .nsNumber
  encode value := .leaf .nsNumber (.int value.toInt)
  decode
    | .leaf _ (.int value) => .ok (some (.ofInt value))
    | _ => .ok none
  cls_encode _ := rfl

abbrev decodeObjectOfClass {α : Type} (coding : SessionCoding α) (expected : ArchiveClass)
    (key : String) (fields : CoderFields) : Except Failure (Option α) :=
  coding.decodeObject ArchiveClass.isKindOf expected key fields

theorem nsDataCoding_faithful : nsDataCoding.Faithful := fun _ => rfl

theorem nsNumberCoding_faithful : nsNumberCoding.Faithful := by
  intro value
  simp [nsNumberCoding]

/-- A key of 32 bytes, or nothing. -/
def keyOf (data : NSData) : Option Key :=
  if h : data.length = 32 then some ⟨data, h⟩ else none

@[simp] theorem keyOf_val (key : Key) : keyOf key.val = some key := by
  simp [keyOf, key.property]

/-! ## `ECKeyPair` -/

namespace ECKeyPair

def encodeWithCoder (keyPair : ECKeyPair) : CoderFields :=
  encodeBytes keyPair.publicKey.val "TSECKeyPairPublicKey" ++
    encodeBytes keyPair.privateKey.val "TSECKeyPairPrivateKey"

/-- `initWithCoder:`; nil when a length is wrong. -/
def initWithCoder (fields : CoderFields) : Except Failure (Option ECKeyPair) :=
  match keyOf (decodeBytes "TSECKeyPairPublicKey" fields),
    keyOf (decodeBytes "TSECKeyPairPrivateKey" fields) with
  | some publicKey, some privateKey => .ok (some { publicKey, privateKey })
  | _, _ => .ok none

def coding : SessionCoding ECKeyPair := .object .ecKeyPair encodeWithCoder initWithCoder

theorem coding_faithful : coding.Faithful := by
  intro keyPair
  simp [coding, Coding.object, initWithCoder, encodeWithCoder, decodeBytes, List.lookup_append]

end ECKeyPair

/-! ## `ChainKey` -/

namespace ChainKey

def encodeWithCoder (chainKey : ChainKey) : CoderFields :=
  nsDataCoding.encodeObject "kCoderKey" (some chainKey.key.val) ++
    encodeInt chainKey.index "kCoderIndex"

/-- `initWithData:index:`.  A C `int` lies below `2 ^ 31`. -/
def initWithData (chainKey : Option NSData) (index : ℤ) : Except Failure ChainKey :=
  match chainKey.bind keyOf with
  | none => .error (.terminated "chainKey.length == 32")
  | some key =>
      if h : 0 ≤ index ∧ index.toNat < 2 ^ 31 then
        .ok { key, index := index.toNat, index_lt := h.2 }
      else
        .error (.terminated "index >= 0")

def initWithCoder (fields : CoderFields) : Except Failure (Option ChainKey) := do
  let key ← decodeObjectOfClass nsDataCoding .nsData "kCoderKey" fields
  let chainKey ← initWithData key (decodeInt "kCoderIndex" fields)
  return some chainKey

def coding : SessionCoding ChainKey := .object .chainKey encodeWithCoder initWithCoder

theorem coding_faithful : coding.Faithful := by
  intro chainKey
  have hindex := chainKey.index_lt
  have hkey : decodeObjectOfClass nsDataCoding .nsData "kCoderKey" chainKey.encodeWithCoder =
      .ok (some chainKey.key.val) :=
    nsDataCoding_faithful.decodeObject (by simp [encodeWithCoder, List.lookup_append]) rfl
  have hint : decodeInt "kCoderIndex" chainKey.encodeWithCoder = chainKey.index := by
    simp [encodeWithCoder, decodeInt, List.lookup_append]
  simp only [coding, Coding.object, initWithCoder, hkey, ok_bind, hint, initWithData,
    Option.bind_some, keyOf_val]
  rw [dif_pos (by omega)]
  rfl

end ChainKey

/-! ## `RootKey` -/

namespace RootKey

def encodeWithCoder (rootKey : RootKey) : CoderFields :=
  nsDataCoding.encodeObject "kCoderData" (some rootKey.keyData.val)

def initWithCoder (fields : CoderFields) : Except Failure (Option RootKey) := do
  let keyData ← decodeObjectOfClass nsDataCoding .nsData "kCoderData" fields
  return (keyData.bind keyOf).map fun keyData => { keyData }

def coding : SessionCoding RootKey := .object .rootKey encodeWithCoder initWithCoder

end RootKey

/-! ## `MessageKeys` -/

namespace MessageKeys

def encodeWithCoder (keys : MessageKeys) : CoderFields :=
  nsDataCoding.encodeObject "kCoderMessageKeysCipherKey" (some keys.cipherKey.val) ++
    nsDataCoding.encodeObject "kCoderMessageKeysMacKey" (some keys.macKey.val) ++
    nsDataCoding.encodeObject "kCoderMessageKeysIVKey" (some keys.iv.val) ++
    encodeInt keys.index "kCoderMessageKeysIndex"

def initWithCipherKey (cipherKey macKey iv : Option NSData) (index : ℤ) :
    Except Failure (Option MessageKeys) := do
  let cipherKey ← assertNonNil "cipherKey" cipherKey
  let macKey ← assertNonNil "macKey" macKey
  let iv ← assertNonNil "data" iv
  return match keyOf cipherKey, keyOf macKey with
    | some cipherKey, some macKey =>
        if h : iv.length = 16 then some { cipherKey, macKey, iv := ⟨iv, h⟩, index := index.toNat }
        else none
    | _, _ => none

def initWithCoder (fields : CoderFields) : Except Failure (Option MessageKeys) := do
  let cipherKey ← decodeObjectOfClass nsDataCoding .nsData "kCoderMessageKeysCipherKey" fields
  let macKey ← decodeObjectOfClass nsDataCoding .nsData "kCoderMessageKeysMacKey" fields
  let iv ← decodeObjectOfClass nsDataCoding .nsData "kCoderMessageKeysIVKey" fields
  initWithCipherKey cipherKey macKey iv (decodeInt "kCoderMessageKeysIndex" fields)

def coding : SessionCoding MessageKeys := .object .messageKeys encodeWithCoder initWithCoder

theorem coding_faithful : coding.Faithful := by
  intro keys
  have hcipherKey : decodeObjectOfClass nsDataCoding .nsData "kCoderMessageKeysCipherKey"
      keys.encodeWithCoder = .ok (some keys.cipherKey.val) :=
    nsDataCoding_faithful.decodeObject (by simp [encodeWithCoder, List.lookup_append]) rfl
  have hmacKey : decodeObjectOfClass nsDataCoding .nsData "kCoderMessageKeysMacKey"
      keys.encodeWithCoder = .ok (some keys.macKey.val) :=
    nsDataCoding_faithful.decodeObject (by simp [encodeWithCoder, List.lookup_append]) rfl
  have hiv : decodeObjectOfClass nsDataCoding .nsData "kCoderMessageKeysIVKey"
      keys.encodeWithCoder = .ok (some keys.iv.val) :=
    nsDataCoding_faithful.decodeObject (by simp [encodeWithCoder, List.lookup_append]) rfl
  have hindex : decodeInt "kCoderMessageKeysIndex" keys.encodeWithCoder = keys.index := by
    simp [encodeWithCoder, decodeInt, List.lookup_append]
  simp [coding, Coding.object, initWithCoder, hcipherKey, hmacKey, hiv, hindex,
    initWithCipherKey, assertNonNil, keys.iv.property]

end MessageKeys

/-! ## `SendingChain` -/

namespace SendingChain

def encodeWithCoder (chain : SendingChain) : CoderFields :=
  ChainKey.coding.encodeObject "kCoderChainKey" (some chain.chainKey) ++
    ECKeyPair.coding.encodeObject "kCoderSenderRatchet" (some chain.senderRatchetKeyPair)

/-- `initWithChainKey:senderRatchetKeyPair:`. -/
def initWithChainKey (chainKey : Option ChainKey) (keyPair : Option ECKeyPair) :
    Except Failure SendingChain := do
  let chainKey ← assertNonNil "chainKey.key.length == 32" chainKey
  let senderRatchetKeyPair ← assertNonNil "keyPair" keyPair
  return { senderRatchetKeyPair, chainKey }

def initWithCoder (fields : CoderFields) : Except Failure (Option SendingChain) := do
  let chainKey ← decodeObjectOfClass ChainKey.coding .chainKey "kCoderChainKey" fields
  let keyPair ← decodeObjectOfClass ECKeyPair.coding .ecKeyPair "kCoderSenderRatchet" fields
  let chain ← initWithChainKey chainKey keyPair
  return some chain

def coding : SessionCoding SendingChain := .object .sendingChain encodeWithCoder initWithCoder

theorem coding_faithful : coding.Faithful := by
  intro chain
  have hchainKey : decodeObjectOfClass ChainKey.coding .chainKey "kCoderChainKey"
      chain.encodeWithCoder = .ok (some chain.chainKey) :=
    ChainKey.coding_faithful.decodeObject (by simp [encodeWithCoder, List.lookup_append]) rfl
  have hkeyPair : decodeObjectOfClass ECKeyPair.coding .ecKeyPair "kCoderSenderRatchet"
      chain.encodeWithCoder = .ok (some chain.senderRatchetKeyPair) :=
    ECKeyPair.coding_faithful.decodeObject (by simp [encodeWithCoder, List.lookup_append]) rfl
  simp [coding, Coding.object, initWithCoder, hchainKey, hkeyPair, initWithChainKey, assertNonNil]

end SendingChain

/-! ## `ReceivingChain` -/

namespace ReceivingChain

def encodeWithCoder (chain : ReceivingChain) : CoderFields :=
  ChainKey.coding.encodeObject "kCoderChainKey" (some chain.chainKey) ++
    nsDataCoding.encodeObject "kCoderSenderRatchet" (some chain.senderRatchetKey) ++
    (MessageKeys.coding.array .nsMutableArray).encodeObject "kCoderMessageKeys"
      (some chain.messageKeysList)

def initAsserting (chainKey : Option ChainKey) (senderRatchet : Option NSData) :
    Except Failure ReceivingChain := do
  let chainKey ← assertNonNil "chainKey" chainKey
  let senderRatchet ← assertNonNil "senderRatchet" senderRatchet
  return initWithChainKey chainKey senderRatchet

def initWithCoder (fields : CoderFields) : Except Failure (Option ReceivingChain) := do
  -- The class named is the source's; a chain key is not an `NSData`.
  let chainKey ← decodeObjectOfClass ChainKey.coding .nsData "kCoderChainKey" fields
  let senderRatchet ← decodeObjectOfClass nsDataCoding .nsData "kCoderSenderRatchet" fields
  let chain ← initAsserting chainKey senderRatchet
  let messageKeysList ← decodeObjectOfClass (MessageKeys.coding.array .nsMutableArray)
    .nsMutableArray "kCoderMessageKeys" fields
  return some { chain with messageKeysList := messageKeysList.getD [] }

def coding : SessionCoding ReceivingChain :=
  .object .receivingChain encodeWithCoder initWithCoder

/-- Nothing is missing from the archive: under their own classes, all three fields are
there. -/
theorem decodeObjectOfClass_encodeWithCoder (chain : ReceivingChain) :
    decodeObjectOfClass ChainKey.coding .chainKey "kCoderChainKey" chain.encodeWithCoder =
        .ok (some chain.chainKey) ∧
      decodeObjectOfClass nsDataCoding .nsData "kCoderSenderRatchet" chain.encodeWithCoder =
        .ok (some chain.senderRatchetKey) ∧
      decodeObjectOfClass (MessageKeys.coding.array .nsMutableArray) .nsMutableArray
        "kCoderMessageKeys" chain.encodeWithCoder = .ok (some chain.messageKeysList) := by
  refine ⟨ChainKey.coding_faithful.decodeObject ?_ rfl,
    nsDataCoding_faithful.decodeObject ?_ rfl,
    (Coding.faithful_array MessageKeys.coding_faithful _).decodeObject ?_ rfl⟩
  all_goals simp [encodeWithCoder, List.lookup_append]

/-- **No receiving chain is read back.** -/
theorem decode_encode (chain : ReceivingChain) :
    coding.decode (coding.encode chain) = .error (.terminated "chainKey") := by
  have hchainKey : decodeObjectOfClass ChainKey.coding .nsData "kCoderChainKey"
      chain.encodeWithCoder = .ok none :=
    Coding.decodeObject_of_mismatch (a := chain.chainKey)
      (by simp [encodeWithCoder, List.lookup_append]) rfl
  have hsenderRatchet := chain.decodeObjectOfClass_encodeWithCoder.2.1
  simp [coding, Coding.object, initWithCoder, hchainKey, hsenderRatchet, initAsserting,
    assertNonNil]

end ReceivingChain

/-! ## `PendingPreKey` -/

namespace PendingPreKey

def encodeWithCoder (pendingPreKey : PendingPreKey) : CoderFields :=
  nsDataCoding.encodeObject "kCoderBaseKey" (some pendingPreKey.baseKey) ++
    encodeInt pendingPreKey.preKeyId.toInt "kCoderPreKeyId" ++
    encodeInt pendingPreKey.signedPreKeyId.toInt "kCoderSignedPreKeyId"

def initWithBaseKey (baseKey : Option NSData) (preKeyId signedPreKeyId : Int32) :
    Except Failure PendingPreKey := do
  let baseKey ← assertNonNil "baseKey" baseKey
  return { preKeyId, signedPreKeyId, baseKey }

def initWithCoder (fields : CoderFields) : Except Failure (Option PendingPreKey) := do
  let baseKey ← decodeObjectOfClass nsDataCoding .nsData "kCoderBaseKey" fields
  let pendingPreKey ← initWithBaseKey baseKey (.ofInt (decodeInt "kCoderPreKeyId" fields))
    (.ofInt (decodeInt "kCoderSignedPreKeyId" fields))
  return some pendingPreKey

def coding : SessionCoding PendingPreKey := .object .pendingPreKey encodeWithCoder initWithCoder

theorem coding_faithful : coding.Faithful := by
  intro pendingPreKey
  have hbaseKey : decodeObjectOfClass nsDataCoding .nsData "kCoderBaseKey"
      pendingPreKey.encodeWithCoder = .ok (some pendingPreKey.baseKey) :=
    nsDataCoding_faithful.decodeObject (by simp [encodeWithCoder, List.lookup_append]) rfl
  have hpreKeyId : decodeInt "kCoderPreKeyId" pendingPreKey.encodeWithCoder =
      pendingPreKey.preKeyId.toInt := by
    simp [encodeWithCoder, decodeInt, List.lookup_append]
  have hsignedPreKeyId : decodeInt "kCoderSignedPreKeyId" pendingPreKey.encodeWithCoder =
      pendingPreKey.signedPreKeyId.toInt := by
    simp [encodeWithCoder, decodeInt, List.lookup_append]
  simp [coding, Coding.object, initWithCoder, hbaseKey, hpreKeyId, hsignedPreKeyId,
    initWithBaseKey, assertNonNil]

end PendingPreKey

/-! ## `SessionState` -/

namespace SessionState

def encodeWithCoder (s : SessionState) : CoderFields :=
  encodeInt s.version.toInt "kCoderVersion" ++
    nsDataCoding.encodeObject "kCoderAliceBaseKey" s.aliceBaseKey ++
    nsDataCoding.encodeObject "kCoderRemoteIDKey" s.remoteIdentityKey ++
    nsDataCoding.encodeObject "kCoderLocalIDKey" s.localIdentityKey ++
    encodeInt s.previousCounter.toInt "kCoderPreviousCounter" ++
    RootKey.coding.encodeObject "kCoderRoot" s.rootKey ++
    nsNumberCoding.encodeObject "kCoderRemoteRegID" (some s.remoteRegistrationId) ++
    nsNumberCoding.encodeObject "kCoderLocalRegID" (some s.localRegistrationId) ++
    SendingChain.coding.encodeObject "kCoderSendingChain" s.sendingChain ++
    (ReceivingChain.coding.array .nsMutableArray).encodeObject "kCoderReceiverChains"
      (some s.receivingChains) ++
    PendingPreKey.coding.encodeObject "kCoderPendingPrekey" s.pendingPreKey

def initWithCoder (fields : CoderFields) : Except Failure (Option SessionState) := do
  let aliceBaseKey ← decodeObjectOfClass nsDataCoding .nsData "kCoderAliceBaseKey" fields
  let remoteIdentityKey ← decodeObjectOfClass nsDataCoding .nsData "kCoderRemoteIDKey" fields
  let localIdentityKey ← decodeObjectOfClass nsDataCoding .nsData "kCoderLocalIDKey" fields
  -- The class named is the source's; a root key is not an `NSData`.
  let rootKey ← decodeObjectOfClass RootKey.coding .nsData "kCoderRoot" fields
  let remoteRegistrationId ←
    decodeObjectOfClass nsNumberCoding .nsNumber "kCoderRemoteRegID" fields
  let localRegistrationId ←
    decodeObjectOfClass nsNumberCoding .nsNumber "kCoderLocalRegID" fields
  let sendingChain ←
    decodeObjectOfClass SendingChain.coding .sendingChain "kCoderSendingChain" fields
  let receivingChains ← decodeObjectOfClass (ReceivingChain.coding.array .nsMutableArray)
    .nsArray "kCoderReceiverChains" fields
  let pendingPreKey ←
    decodeObjectOfClass PendingPreKey.coding .pendingPreKey "kCoderPendingPrekey" fields
  return some {
    version := .ofInt (decodeInt "kCoderVersion" fields)
    aliceBaseKey, remoteIdentityKey, localIdentityKey
    previousCounter := .ofInt (decodeInt "kCoderPreviousCounter" fields)
    rootKey
    remoteRegistrationId := remoteRegistrationId.getD 0
    localRegistrationId := localRegistrationId.getD 0
    sendingChain
    receivingChains := receivingChains.getD []
    pendingPreKey }

def coding : SessionCoding SessionState := .object .sessionState encodeWithCoder initWithCoder

theorem decode_receivingChains (s : SessionState) :
    decodeObjectOfClass (ReceivingChain.coding.array .nsMutableArray) .nsArray
        "kCoderReceiverChains" s.encodeWithCoder =
      if s.receivingChains = [] then .ok (some []) else .error (.terminated "chainKey") := by
  have hlookup : s.encodeWithCoder.lookup "kCoderReceiverChains" =
      some ((ReceivingChain.coding.array .nsMutableArray).encode s.receivingChains) := by
    simp [encodeWithCoder, List.lookup_append]
  rw [decodeObjectOfClass, Coding.decodeObject_encode hlookup rfl]
  cases hchains : s.receivingChains with
  | nil => rfl
  | cons chain chains =>
      simp only [Coding.array, List.map_cons, reduceCtorEq, if_false,
        Coding.decodeElements, chain.decode_encode, Except.map]

/-- **What becomes of a session state**: its root key is lost, and with a receiver chain
its reader does not return. -/
theorem decode_encode (s : SessionState) :
    coding.decode (coding.encode s) =
      if s.receivingChains = [] then .ok (some { s with rootKey := none })
      else .error (.terminated "chainKey") := by
  have haliceBaseKey : decodeObjectOfClass nsDataCoding .nsData "kCoderAliceBaseKey"
      s.encodeWithCoder = .ok s.aliceBaseKey :=
    nsDataCoding_faithful.decodeObject (by simp [encodeWithCoder, List.lookup_append]) rfl
  have hremoteIdentityKey : decodeObjectOfClass nsDataCoding .nsData "kCoderRemoteIDKey"
      s.encodeWithCoder = .ok s.remoteIdentityKey :=
    nsDataCoding_faithful.decodeObject (by simp [encodeWithCoder, List.lookup_append]) rfl
  have hlocalIdentityKey : decodeObjectOfClass nsDataCoding .nsData "kCoderLocalIDKey"
      s.encodeWithCoder = .ok s.localIdentityKey :=
    nsDataCoding_faithful.decodeObject (by simp [encodeWithCoder, List.lookup_append]) rfl
  -- The root key is asked for as data, which it is not archived as.
  have hrootKey : decodeObjectOfClass RootKey.coding .nsData "kCoderRoot" s.encodeWithCoder =
      .ok none := by
    have hlookup : s.encodeWithCoder.lookup "kCoderRoot" = s.rootKey.map RootKey.coding.encode := by
      simp [encodeWithCoder, List.lookup_append]
    cases hkey : s.rootKey with
    | none => exact Coding.decodeObject_of_absent (by rw [hlookup, hkey]; rfl)
    | some rootKey =>
        exact Coding.decodeObject_of_mismatch (a := rootKey) (by rw [hlookup, hkey]; rfl) rfl
  have hremoteRegistrationId : decodeObjectOfClass nsNumberCoding .nsNumber "kCoderRemoteRegID"
      s.encodeWithCoder = .ok (some s.remoteRegistrationId) :=
    nsNumberCoding_faithful.decodeObject (by simp [encodeWithCoder, List.lookup_append]) rfl
  have hlocalRegistrationId : decodeObjectOfClass nsNumberCoding .nsNumber "kCoderLocalRegID"
      s.encodeWithCoder = .ok (some s.localRegistrationId) :=
    nsNumberCoding_faithful.decodeObject (by simp [encodeWithCoder, List.lookup_append]) rfl
  have hsendingChain : decodeObjectOfClass SendingChain.coding .sendingChain "kCoderSendingChain"
      s.encodeWithCoder = .ok s.sendingChain :=
    SendingChain.coding_faithful.decodeObject (by simp [encodeWithCoder, List.lookup_append]) rfl
  have hpendingPreKey : decodeObjectOfClass PendingPreKey.coding .pendingPreKey
      "kCoderPendingPrekey" s.encodeWithCoder = .ok s.pendingPreKey :=
    PendingPreKey.coding_faithful.decodeObject (by simp [encodeWithCoder, List.lookup_append]) rfl
  have hversion : decodeInt "kCoderVersion" s.encodeWithCoder = s.version.toInt := by
    simp [encodeWithCoder, decodeInt, List.lookup_append]
  have hpreviousCounter : decodeInt "kCoderPreviousCounter" s.encodeWithCoder =
      s.previousCounter.toInt := by
    simp [encodeWithCoder, decodeInt, List.lookup_append]
  simp only [coding, Coding.object, initWithCoder, haliceBaseKey, hremoteIdentityKey,
    hlocalIdentityKey, hrootKey, hremoteRegistrationId, hlocalRegistrationId, hsendingChain,
    hpendingPreKey, hversion, hpreviousCounter, decode_receivingChains, ok_bind]
  -- The chains are decoded last, and the first of them ends the reader.
  by_cases hchains : s.receivingChains = []
  · simp [hchains]
  · simp [hchains]

/-- A state that comes back as it was. -/
def IsArchivable (s : SessionState) : Prop := s.rootKey = none ∧ s.receivingChains = []

theorem decode_encode_eq_iff (s : SessionState) :
    coding.decode (coding.encode s) = .ok (some s) ↔ s.IsArchivable := by
  rw [decode_encode]
  by_cases hchains : s.receivingChains = []
  · rw [if_pos hchains]
    constructor
    · intro h
      have hstate : { s with rootKey := none } = s := Option.some.inj (Except.ok.inj h)
      exact ⟨(congrArg SessionState.rootKey hstate).symm, hchains⟩
    · rintro ⟨hrootKey, -⟩
      rw [← hrootKey]
  · rw [if_neg hchains]
    constructor
    · intro h
      cases h
    · intro h
      exact absurd h.2 hchains

end SessionState

/-! ## `SessionRecord` -/

namespace SessionRecord

def encodeWithCoder (record : SessionRecord) : CoderFields :=
  (SessionState.coding.array .nsMutableArray).encodeObject "previousSessionStateKeys"
      (some record.previousStates) ++
    SessionState.coding.encodeObject "currentSessionStateKey" (some record.sessionState)

/-- `initWithCoder:`; a record whose current state is nil is not one. -/
def initWithCoder (fields : CoderFields) : Except Failure (Option SessionRecord) := do
  let previousStates ← decodeObjectOfClass (SessionState.coding.array .nsMutableArray)
    .nsMutableArray "previousSessionStateKeys" fields
  let sessionState ←
    decodeObjectOfClass SessionState.coding .sessionState "currentSessionStateKey" fields
  return sessionState.map fun sessionState =>
    { fresh := false, sessionState, previousStates := previousStates.getD [] }

/-- The record read back is the one written, and not fresh. -/
def SurvivesArchive (record : SessionRecord) : Prop :=
  initWithCoder record.encodeWithCoder = .ok (some record.markAsUnFresh)

/-- A record survives exactly when each of its states comes back. -/
theorem survivesArchive_iff_forall_decode (record : SessionRecord) :
    record.SurvivesArchive ↔ ∀ s ∈ record.states,
      SessionState.coding.decode (SessionState.coding.encode s) = .ok (some s) := by
  have hprevious : decodeObjectOfClass (SessionState.coding.array .nsMutableArray)
      .nsMutableArray "previousSessionStateKeys" record.encodeWithCoder =
        (SessionState.coding.decodeElements
          (record.previousStates.map SessionState.coding.encode)).map some :=
    Coding.decodeObject_encode (a := record.previousStates)
      (by simp [encodeWithCoder, List.lookup_append]) rfl
  have hcurrent : decodeObjectOfClass SessionState.coding .sessionState "currentSessionStateKey"
      record.encodeWithCoder =
        SessionState.coding.decode (SessionState.coding.encode record.sessionState) :=
    Coding.decodeObject_encode (by simp [encodeWithCoder, List.lookup_append]) rfl
  rw [SurvivesArchive, initWithCoder, hprevious, hcurrent, states, List.forall_mem_cons,
    ← Coding.decodeElements_encode_iff]
  constructor
  · intro h
    obtain ⟨previousStates, hprevious, h⟩ := bind_eq_ok.mp h
    obtain ⟨sessionState, hsessionState, h⟩ := bind_eq_ok.mp h
    cases hdecoded : SessionState.coding.decodeElements
        (record.previousStates.map SessionState.coding.encode) with
    | error failure =>
        rw [hdecoded] at hprevious
        cases hprevious
    | ok decoded =>
        rw [hdecoded] at hprevious
        obtain rfl := Except.ok.inj hprevious
        cases sessionState with
        | none => cases Except.ok.inj h
        | some sessionState =>
            have hrecord := Option.some.inj (Except.ok.inj h)
            have hstate : sessionState = record.sessionState :=
              congrArg SessionRecord.sessionState hrecord
            have hstates : decoded = record.previousStates :=
              congrArg SessionRecord.previousStates hrecord
            rw [hsessionState, hstate, hstates]
            exact ⟨rfl, rfl⟩
  · rintro ⟨hstate, hstates⟩
    rw [hstate, hstates]
    rfl

/-- **Which records survive their archive**: those none of whose states, current or
archived, has a root key or a receiver chain. -/
theorem survivesArchive_iff (record : SessionRecord) :
    record.SurvivesArchive ↔
      ∀ s ∈ record.states, s.rootKey = none ∧ s.receivingChains = [] := by
  rw [survivesArchive_iff_forall_decode]
  exact forall₂_congr fun s _ => SessionState.decode_encode_eq_iff s

/-- **A session does not survive its archive**: the contact processes a bundle of ours,
and its record cannot be read back. -/
theorem not_survivesArchive_of_bundle :
    ∃ events world', LabelledRun (sampleContactParty.Step additivePrimitives) sampleContactWorld
      events world' ∧ sampleContactParty.Initial sampleContactWorld ∧
      ¬(sampleContactParty.record world').SurvivesArchive := by
  rcases hrun : (sampleContactParty.builder.throwsProcessPrekeyBundle additivePrimitives
    (sampleBundle 5 none)).run sampleContactWorld with ⟨failure | ⟨⟩, world'⟩
  · have hok : ((sampleContactParty.builder.throwsProcessPrekeyBundle additivePrimitives
        (sampleBundle 5 none)).run sampleContactWorld).1.isOk = true := by decide +kernel
    simp [hrun, Except.isOk, Except.toBool] at hok
  · have hrootKey : (sampleContactParty.record ((sampleContactParty.builder.throwsProcessPrekeyBundle
        additivePrimitives (sampleBundle 5 none)).run
          sampleContactWorld).2).sessionState.rootKey.isSome = true := by decide +kernel
    rw [hrun] at hrootKey
    refine ⟨_, world', .single (.processPrekeyBundle rfl hrun), rfl, fun hsurvives => ?_⟩
    have hstate := (survivesArchive_iff_forall_decode _).mp hsurvives
      (sampleContactParty.record world').sessionState List.mem_cons_self
    rw [((SessionState.decode_encode_eq_iff _).mp hstate).1] at hrootKey
    cases hrootKey

end SessionRecord

end ObjcSwiftLearning.AxolotlKit
