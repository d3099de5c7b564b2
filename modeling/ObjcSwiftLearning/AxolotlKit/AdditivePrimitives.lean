import ObjcSwiftLearning.AxolotlKit.SessionCipher

/-!
# A model of the assumptions

Results about the kit assume that its primitives are `Lawful` and its key
generator fresh.  `additivePrimitives` shows that the assumptions hold together,
and is small enough to run: a public key is the secret plus the base point,
agreement adds the two, the MAC is a rolling checksum, encryption does nothing,
and messages are coded field by field.

* `additivePrimitives_lawful` — the algebraic laws.
* `additivePrimitives_freshKeys` — the first 256 generated keys are distinct.
* `sampleSession`, `sampleMessage`, `sampleStores` — a session, the next message
  it expects and a database, for runs on concrete inputs.
-/

namespace ObjcSwiftLearning.AxolotlKit

namespace AdditivePrimitives

/-! ## Keys -/

def keyOfBytes (bytes : NSData) : Key :=
  ⟨(bytes ++ List.replicate 32 0).take 32, by simp⟩

def curve25519 (secret point : Key) : Key :=
  ⟨secret.val.zipWith (· + ·) point.val, by simp [secret.property, point.property]⟩

theorem zipWith_add_left_comm (xs ys zs : NSData) :
    xs.zipWith (· + ·) (ys.zipWith (· + ·) zs) = ys.zipWith (· + ·) (xs.zipWith (· + ·) zs) := by
  induction xs generalizing ys zs with
  | nil => simp
  | cons x xs ih =>
      cases ys with
      | nil => simp
      | cons y ys =>
          cases zs with
          | nil => simp
          | cons z zs =>
              simp only [List.zipWith_cons_cons, ih ys zs, List.cons.injEq, and_true]
              rw [← UInt8.add_assoc, UInt8.add_comm x y, UInt8.add_assoc]

def checksum (bytes : NSData) : ℕ :=
  bytes.foldl (fun sum byte => (sum * 31 + byte.toNat) % 65521) 7

def hmac (key data : NSData) : Key :=
  let sum := checksum (key ++ data)
  keyOfBytes [.ofNat sum, .ofNat (sum / 256)]

/-- The secrets count up. -/
def randomSecret (n : ℕ) : Key := keyOfBytes [.ofNat n, 77]

/-! ## The coder -/

/-- A byte string: each byte behind a mark, and an end mark. -/
def encodeData : NSData → NSData
  | [] => [0]
  | byte :: bytes => 1 :: byte :: encodeData bytes

/-- The byte string in front, and what follows it. -/
def decodeData : NSData → Option (NSData × NSData)
  | 0 :: rest => some ([], rest)
  | 1 :: byte :: rest => (decodeData rest).map fun decoded => (byte :: decoded.1, decoded.2)
  | _ => none

theorem decodeData_encodeData (data rest : NSData) :
    decodeData (encodeData data ++ rest) = some (data, rest) := by
  induction data with
  | nil => rfl
  | cons byte bytes ih => simp [encodeData, decodeData, ih]

/-- An optional field: absent, or behind a mark. -/
def encodeField : Option NSData → NSData
  | none => [0]
  | some data => 1 :: encodeData data

/-- The field in front, and what follows it. -/
def decodeField : NSData → Option (Option NSData × NSData)
  | 0 :: rest => some (none, rest)
  | 1 :: rest => (decodeData rest).map fun decoded => (some decoded.1, decoded.2)
  | _ => none

theorem decodeField_encodeField (field : Option NSData) (rest : NSData) :
    decodeField (encodeField field ++ rest) = some (field, rest) := by
  cases field with
  | none => rfl
  | some data => simp [encodeField, decodeField, decodeData_encodeData]

def encodeFields : List (Option NSData) → NSData
  | [] => []
  | field :: fields => encodeField field ++ encodeFields fields

/-- The first `n` fields. -/
def decodeFields : ℕ → NSData → Option (List (Option NSData))
  | 0, _ => some []
  | n + 1, data => do
      let (field, rest) ← decodeField data
      let fields ← decodeFields n rest
      return field :: fields

theorem decodeFields_encodeFields (fields : List (Option NSData)) :
    decodeFields fields.length (encodeFields fields) = some fields := by
  induction fields with
  | nil => rfl
  | cons field fields ih =>
      simp [encodeFields, decodeFields, decodeField_encodeField, ih]

/-- Four bytes, low byte first. -/
def encodeUInt32 (n : UInt32) : NSData :=
  [.ofNat n.toNat, .ofNat (n.toNat / 256), .ofNat (n.toNat / 65536), .ofNat (n.toNat / 16777216)]

/-- The number of four bytes. -/
def decodeUInt32 (bytes : NSData) : UInt32 :=
  .ofNat (bytes.foldr (fun byte n => byte.toNat + 256 * n) 0)

@[simp] theorem decodeUInt32_encodeUInt32 (n : UInt32) : decodeUInt32 (encodeUInt32 n) = n := by
  have hn := n.toNat_lt
  apply UInt32.toNat_inj.mp
  simp only [decodeUInt32, encodeUInt32, List.foldr, UInt8.toNat_ofNat', UInt32.toNat_ofNat']
  omega

def serializeWhisperMessage (proto : TSProtoWhisperMessage) : NSData :=
  encodeFields [proto.ratchetKey, proto.counter.map encodeUInt32,
    proto.previousCounter.map encodeUInt32, proto.ciphertext]

def parseWhisperMessage (data : NSData) : Option TSProtoWhisperMessage :=
  match data with
  | [] => some ⟨none, none, none, none⟩
  | _ =>
      match decodeFields 4 data with
      | some [ratchetKey, counter, previousCounter, ciphertext] =>
          some { ratchetKey, ciphertext
                 counter := counter.map decodeUInt32
                 previousCounter := previousCounter.map decodeUInt32 }
      | _ => none

def serializePreKeyWhisperMessage (proto : TSProtoPreKeyWhisperMessage) : NSData :=
  encodeFields [proto.registrationId.map encodeUInt32, proto.preKeyId.map encodeUInt32,
    proto.signedPreKeyId.map encodeUInt32, proto.baseKey, proto.identityKey, proto.message]

def parsePreKeyWhisperMessage (data : NSData) : Option TSProtoPreKeyWhisperMessage :=
  match decodeFields 6 data with
  | some [registrationId, preKeyId, signedPreKeyId, baseKey, identityKey, message] =>
      some { baseKey, identityKey, message
             registrationId := registrationId.map decodeUInt32
             preKeyId := preKeyId.map decodeUInt32
             signedPreKeyId := signedPreKeyId.map decodeUInt32 }
  | _ => none

theorem map_decodeUInt32_map_encodeUInt32 (n : Option UInt32) :
    (n.map encodeUInt32).map decodeUInt32 = n := by
  cases n <;> simp

theorem parse_serializeWhisperMessage (proto : TSProtoWhisperMessage) :
    parseWhisperMessage (serializeWhisperMessage proto) = some proto := by
  have hfields := decodeFields_encodeFields [proto.ratchetKey, proto.counter.map encodeUInt32,
    proto.previousCounter.map encodeUInt32, proto.ciphertext]
  have hnil : serializeWhisperMessage proto ≠ [] := by
    cases hkey : proto.ratchetKey <;> simp [serializeWhisperMessage, encodeFields, encodeField, hkey]
  unfold parseWhisperMessage
  split
  · contradiction
  · simp only [List.length_cons, List.length_nil] at hfields
    simp only [serializeWhisperMessage, hfields, map_decodeUInt32_map_encodeUInt32]

theorem parse_serializePreKeyWhisperMessage (proto : TSProtoPreKeyWhisperMessage) :
    parsePreKeyWhisperMessage (serializePreKeyWhisperMessage proto) = some proto := by
  have hfields := decodeFields_encodeFields [proto.registrationId.map encodeUInt32,
    proto.preKeyId.map encodeUInt32, proto.signedPreKeyId.map encodeUInt32, proto.baseKey,
    proto.identityKey, proto.message]
  simp only [List.length_cons, List.length_nil] at hfields
  simp only [parsePreKeyWhisperMessage, serializePreKeyWhisperMessage, hfields,
    map_decodeUInt32_map_encodeUInt32]

end AdditivePrimitives

open AdditivePrimitives

/-! ## The model -/

def additivePrimitives : Primitives where
  curve25519 := curve25519
  hmac := hmac
  encryptCBC _ _ data := data
  decryptCBC _ _ data := some data
  verify _ _ _ := true
  randomSecret := randomSecret
  serializeWhisperMessage := serializeWhisperMessage
  parseWhisperMessage := parseWhisperMessage
  serializePreKeyWhisperMessage := serializePreKeyWhisperMessage
  parsePreKeyWhisperMessage := parsePreKeyWhisperMessage

/-- **The laws hold.** -/
theorem additivePrimitives_lawful : additivePrimitives.Lawful where
  curve25519_comm a b := Subtype.ext (by
    change a.val.zipWith (· + ·) (b.val.zipWith (· + ·) Primitives.basepoint.val) =
      b.val.zipWith (· + ·) (a.val.zipWith (· + ·) Primitives.basepoint.val)
    exact zipWith_add_left_comm _ _ _)
  decryptCBC_encryptCBC _ _ _ := rfl
  parse_serializeWhisperMessage := parse_serializeWhisperMessage
  parseWhisperMessage_nil := rfl
  parse_serializePreKeyWhisperMessage := parse_serializePreKeyWhisperMessage

/-- **Generated keys are distinct**, as long as the counter fits its byte. -/
theorem additivePrimitives_freshKeys {n : ℕ} (h : n ≤ 256) : additivePrimitives.FreshKeys n := by
  intro i hi j hj hkeys
  have hbyte : ∀ k, ((additivePrimitives.generatedKeyPair k).publicKey.val).head? =
      some (.ofNat k + 9) := by
    intro k
    rfl
  have hheads := congrArg (fun key : Key => key.val.head?) hkeys
  simp only [hbyte, Option.some.injEq, UInt8.add_left_inj] at hheads
  have hnat := congrArg UInt8.toNat hheads
  simp only [UInt8.toNat_ofNat'] at hnat
  omega

/-! ## A small world -/

/-- The key whose first byte is `n`. -/
def sampleKey (n : UInt8) : Key := keyOfBytes [n]

/-- The key pair of the secret whose first byte is `n`. -/
def sampleKeyPair (n : UInt8) : ECKeyPair where
  publicKey := additivePrimitives.publicKey (sampleKey n)
  privateKey := sampleKey n

/-- A session of ours with a peer, opened on the base key `baseKey`, in which the
peer sends on the chain of `ratchetKey`. -/
def sampleSession (baseKey ratchetKey : UInt8) : SessionState where
  version := 3
  aliceBaseKey := some (sampleKey baseKey).val
  remoteIdentityKey := some (sampleKey 10).val
  localIdentityKey := some (sampleKey 11).val
  rootKey := some ⟨sampleKey baseKey⟩
  sendingChain := some ⟨sampleKeyPair baseKey, .initial (sampleKey 12)⟩
  receivingChains := [.initWithChainKey (.initial (sampleKey ratchetKey))
    (sampleKey ratchetKey).val]

/-- The first message on the chain of `ratchetKey`, as it is received. -/
def sampleMessage (ratchetKey : UInt8) : WhisperMessage :=
  (WhisperMessage.initWithVersion additivePrimitives 3
    ((ChainKey.initial (sampleKey ratchetKey)).throwsMessageKeys additivePrimitives).macKey.val
    (prependKeyType (sampleKey ratchetKey).val) 0 0 [1, 2, 3]
    (prependKeyType (sampleKey 10).val) (prependKeyType (sampleKey 11).val)).received

def sampleRecord (sessionState : SessionState) (previousStates : List SessionState) :
    SessionRecord where
  fresh := false
  sessionState := sessionState
  previousStates := previousStates

open SignalServiceKit in
/-- A database with one record, for the contact `"+1"` and its device `1`, and
with the prekeys `1` (signed) and `5` (one-time). -/
def sampleStores (sessionRecord : Option SessionRecord) (identityKey : Option NSData) :
    Stores where
  sessions contactIdentifier device :=
    if contactIdentifier = "+1" ∧ device = 1 then sessionRecord else none
  identities contactIdentifier :=
    if contactIdentifier = "+1" then
      identityKey.map fun identityKey => {
        identityKey := some identityKey, isFirstKnownKey := true, createdAt := 0
        verificationState := .default }
    else none
  trustedKeys contactIdentifier := if contactIdentifier = "+1" then identityKey else none
  queuedVerificationStateSyncMessages _ := none
  preKeys preKeyId := if preKeyId = 5 then some (sampleKeyPair 15) else none
  signedPreKeys signedPreKeyId := if signedPreKeyId = 1 then some (sampleKeyPair 14) else none
  identityKeyPair := some (sampleKeyPair 11)
  localNumber := some "+2"
  localRegistrationId := 7

/-- Our cipher for that contact and device. -/
def sampleCipher : SessionCipher := .initWithAxolotlStore .primaryStorage "+1" 1

/-- The bundle of our account, with or without the one-time prekey. -/
def sampleBundle (preKeyId : Int32) (preKeyPublic : Option Key) : PreKeyBundle where
  registrationId := 7
  deviceId := 1
  preKeyId := preKeyId
  preKeyPublic := preKeyPublic.map fun key => prependKeyType key.val
  signedPreKeyPublic := prependKeyType (sampleKeyPair 14).publicKey.val
  signedPreKeyId := 1
  signedPreKeySignature := List.replicate 64 0
  identityKey := prependKeyType (sampleKeyPair 11).publicKey.val
  length_preKeyPublic := by
    cases preKeyPublic with
    | none => simp
    | some key => simp
  length_signedPreKeyPublic := length_prependKeyType_key _
  length_identityKey := length_prependKeyType_key _

open SignalServiceKit in
/-- The database of the contact `"+1"`, whose identity is `sampleKeyPair 10`. -/
def sampleContactWorld : World where
  stores := { sampleStores none none with
    identityKeyPair := some (sampleKeyPair 10)
    localNumber := some "+1" }
  clock := 0
  generated := 40

/-- A message without content. -/
def emptyFirstMessage : PreKeyWhisperMessage where
  version := 0
  registrationId := 0
  prekeyID := -1
  signedPrekeyId := 0
  baseKey := []
  identityKey := []
  message := { version := 0, senderRatchetKey := [], previousCounter := 0, counter := 0
               cipherText := [], serialized := [] }
  serialized := []

open Procedure SignalServiceKit in
/-- The first message of the contact to us, as we receive it. -/
def sampleFirstMessageIn (world : World) (preKeyBundle : PreKeyBundle) : PreKeyWhisperMessage :=
  let builder := SessionBuilder.initWithSessionStore .primaryStorage "+2" 1
  let cipher := SessionCipher.initWithAxolotlStore .primaryStorage "+2" 1
  match (do
      builder.throwsProcessPrekeyBundle additivePrimitives preKeyBundle
      cipher.throwsEncryptMessage additivePrimitives [1, 2, 3]).run world with
  | (.ok (.prekey message), _) => message.received
  | _ => emptyFirstMessage

def sampleFirstMessage (preKeyBundle : PreKeyBundle) : PreKeyWhisperMessage :=
  sampleFirstMessageIn sampleContactWorld preKeyBundle

end ObjcSwiftLearning.AxolotlKit
