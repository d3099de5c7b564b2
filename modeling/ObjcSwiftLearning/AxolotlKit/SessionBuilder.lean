import ObjcSwiftLearning.AxolotlKit.CipherMessage
import ObjcSwiftLearning.AxolotlKit.RatchetingSession
import ObjcSwiftLearning.SignalServiceKit.Stores

/-!
# Building sessions

`PreKeyBundle` and `SessionBuilder`: a session is opened by Alice from a bundle
(`throwsProcessPrekeyBundle`) or by Bob from the first message
(`throwsProcessPrekeyWhisperMessage`).

The record a builder is handed is a copy.  An exception drops it, so a builder
method returns the record it leaves and writes to the `World` only what the
source writes to a store.

* `throwsProcessPrekeyBundle_cases` — Alice's side reads first; it fails with
  nothing written, or writes the identity and the new session together.
* `run_throwsProcessPrekeyWhisperMessage` — Bob's side checks first and writes
  one thing: the identity the message names.
* `throwsProcessPrekeyV3_eq_ok` — the two ways Bob's side succeeds.
-/

namespace ObjcSwiftLearning.AxolotlKit

open SignalServiceKit Procedure

/-! ## Store operations as procedures -/

def generateKeyPair (P : Primitives) : Procedure Failure World ECKeyPair := do
  let world ← read
  modify fun world => { world with generated := world.generated + 1 }
  return P.generatedKeyPair world.generated

/-- `[identityKeyStore saveRemoteIdentity:recipientId:protocolContext:]`. -/
def saveRemoteIdentity (identityKey : Option NSData) (recipientId : String) :
    Procedure Failure World Bool := do
  let world ← read
  let saved := world.stores.saveRemoteIdentity recipientId world.clock identityKey
  modify fun world => { world with stores := saved.2 }
  return saved.1

def storeSession (recipientId : String) (deviceId : Int32) (session : SessionRecord) :
    Procedure Failure World Unit :=
  modify fun world => { world with stores := world.stores.storeSession recipientId deviceId session }

section StoreLemmas

variable {P : Primitives} {α : Type} (world : World)

@[simp] theorem run_generateKeyPair_bind (f : ECKeyPair → Procedure Failure World α) :
    (generateKeyPair P >>= f).run world =
      (f (P.generatedKeyPair world.generated)).run
        { world with generated := world.generated + 1 } := rfl

@[simp] theorem run_saveRemoteIdentity_bind (identityKey : Option NSData) (recipientId : String)
    (f : Bool → Procedure Failure World α) :
    (saveRemoteIdentity identityKey recipientId >>= f).run world =
      (f (world.stores.saveRemoteIdentity recipientId world.clock identityKey).1).run
        { world with
          stores := (world.stores.saveRemoteIdentity recipientId world.clock identityKey).2 } :=
  rfl

@[simp] theorem run_storeSession_bind (recipientId : String) (deviceId : Int32)
    (session : SessionRecord) (f : Unit → Procedure Failure World α) :
    (storeSession recipientId deviceId session >>= f).run world =
      (f ()).run { world with
        stores := world.stores.storeSession recipientId deviceId session } := rfl

end StoreLemmas

/-- The objects that implement `PreKeyStore`. -/
inductive PreKeyStore where
  | primaryStorage
  deriving DecidableEq

namespace PreKeyStore

def throwsLoadPreKey : PreKeyStore → Stores → Int32 → Except Failure ECKeyPair
  | .primaryStorage, stores, preKeyId => stores.throwsLoadPreKey preKeyId

def removePreKey : PreKeyStore → Int32 → Procedure Failure World Unit
  | .primaryStorage, preKeyId =>
      modify fun world => { world with stores := world.stores.removePreKey preKeyId }

end PreKeyStore

/-! ## `PreKeyBundle` -/

structure PreKeyBundle where
  registrationId : Int32
  deviceId : Int32
  preKeyId : Int32
  preKeyPublic : Option NSData
  signedPreKeyPublic : NSData
  signedPreKeyId : Int32
  signedPreKeySignature : NSData
  identityKey : NSData
  length_preKeyPublic : ∀ key ∈ preKeyPublic, key.length = 33
  length_signedPreKeyPublic : signedPreKeyPublic.length = 33
  length_identityKey : identityKey.length = 33

/-- `ECCSignatureLength`. -/
def signatureLength : ℕ := 64

def throwsVerifySignature (P : Primitives) (signature publicKey data : NSData) :
    Except Failure Bool :=
  if data.length < 1 then
    .error (exception .invalidArgumentException "Data needs to be at least one byte")
  else if h : publicKey.length = 32 then
    if signature.length ≠ signatureLength then
      .error (exception .invalidArgumentException
        ("Signature has unexpected length: " ++ toString signature.length))
    else .ok (P.verify signature ⟨publicKey, h⟩ data)
  else
    .error (exception .invalidArgumentException
      ("Public Key has unexpected length: " ++ toString publicKey.length))

/-! ## `SessionBuilder` -/

/-- `SessionBuilder`; the stores it is wired to are one database. -/
structure SessionBuilder where
  recipientId : String
  deviceId : Int32
  prekeyStore : PreKeyStore

def kPreKeyOfLastResortId : Int32 := 0xFFFFFF

namespace SessionBuilder

def initWithSessionStore (preKeyStore : PreKeyStore) (recipientId : String) (deviceId : Int32) :
    SessionBuilder where
  recipientId := recipientId
  deviceId := deviceId
  prekeyStore := preKeyStore

variable (P : Primitives) (builder : SessionBuilder)

/-- `preKeyBundle.preKeyPublic.throws_removeKeyType`; `nil` stays `nil`. -/
def throwsRemoveOptionalKeyType : Option NSData → Except Failure (Option NSData)
  | none => .ok none
  | some key => (throwsRemoveKeyType key).map some

/-- `throws_processPrekeyBundle:protocolContext:`. -/
def throwsProcessPrekeyBundle (preKeyBundle : PreKeyBundle) : Procedure Failure World Unit := do
  let theirIdentityKey ← lift (throwsRemoveKeyType preKeyBundle.identityKey)
  let theirSignedPreKey ← lift (throwsRemoveKeyType preKeyBundle.signedPreKeyPublic)
  let world ← read
  if world.stores.isTrustedIdentityKey builder.recipientId world.clock (some theirIdentityKey)
      .outgoing then
    -- The signature covers the key with its type byte.
    let verified ← lift (throwsVerifySignature P preKeyBundle.signedPreKeySignature
      theirIdentityKey preKeyBundle.signedPreKeyPublic)
    if verified then
      let sessionRecord := world.stores.loadSession builder.recipientId preKeyBundle.deviceId
      let ourBaseKey ← generateKeyPair P
      let theirOneTimePreKey ← lift (throwsRemoveOptionalKeyType preKeyBundle.preKeyPublic)
      let ourIdentityKeyPair ←
        lift (assertNonNil "myIdentityKey" world.stores.identityKeyPair)
      let params : AliceAxolotlParameters := {
        ourIdentityKeyPair, theirIdentityKey, ourBaseKey, theirSignedPreKey
        theirOneTimePrekey := theirOneTimePreKey
        theirRatchetKey := theirSignedPreKey }
      let sessionRecord := sessionRecord.archiveUnlessFresh
      let sendingRatchetKey ← generateKeyPair P
      let session ← lift (RatchetingSession.throwsInitializeSessionAlice P
        sessionRecord.sessionState currentVersion params sendingRatchetKey)
      let session := session.setUnacknowledgedPreKeyMessage preKeyBundle.preKeyId
        preKeyBundle.signedPreKeyId ourBaseKey.publicKey.val
      let session := { session with
        localRegistrationId := world.stores.localRegistrationId
        remoteRegistrationId := preKeyBundle.registrationId
        aliceBaseKey := some ourBaseKey.publicKey.val }
      let sessionRecord := { sessionRecord with sessionState := session }
      let previousIdentityExisted ←
        saveRemoteIdentity (some theirIdentityKey) builder.recipientId
      let sessionRecord :=
        if previousIdentityExisted then sessionRecord.removePreviousSessionStates
        else sessionRecord
      storeSession builder.recipientId builder.deviceId sessionRecord
    else raise (exception .invalidKeyException "KeyIsNotValidlySigned")
  else raise (exception .untrustedIdentityKeyException "Identity key is not valid")

/-- The prekey id `throws_processPrekeyV3:` answers for a new session. -/
def usedPreKeyId (prekeyID : Int32) : Int32 :=
  if 0 ≤ prekeyID ∧ prekeyID ≠ kPreKeyOfLastResortId then prekeyID else -1

def throwsLoadOneTimePreKey (stores : Stores) (prekeyID : Int32) :
    Except Failure (Option ECKeyPair) :=
  if 0 ≤ prekeyID then (builder.prekeyStore.throwsLoadPreKey stores prekeyID).map some
  else .ok none

/-- `throws_processPrekeyV3:withSession:protocolContext:`: the id it answers and
the record it leaves.  It reads the stores and writes to none. -/
def throwsProcessPrekeyV3 (stores : Stores) (message : PreKeyWhisperMessage)
    (sessionRecord : SessionRecord) : Except Failure (Int32 × SessionRecord) := do
  let baseKey ← throwsRemoveKeyType message.baseKey
  if sessionRecord.hasSessionState message.version baseKey then
    return (-1, sessionRecord)
  else
    let ourSignedPrekey ← stores.throwsLoadSignedPrekey message.signedPrekeyId
    let ourOneTimePrekey ← builder.throwsLoadOneTimePreKey stores message.prekeyID
    let theirIdentityKey ← throwsRemoveKeyType message.identityKey
    let ourIdentityKeyPair ← assertNonNil "ourIdentityKeyPair" stores.identityKeyPair
    let params : BobAxolotlParameters := {
      ourIdentityKeyPair, theirIdentityKey, ourSignedPrekey
      ourRatchetKey := ourSignedPrekey
      ourOneTimePrekey
      theirBaseKey := baseKey }
    let sessionRecord := sessionRecord.archiveUnlessFresh
    let session ← RatchetingSession.throwsInitializeSessionBob P sessionRecord.sessionState
      message.version params
    let session := { session with
      localRegistrationId := stores.localRegistrationId
      remoteRegistrationId := message.registrationId
      aliceBaseKey := some baseKey }
    return (usedPreKeyId message.prekeyID, { sessionRecord with sessionState := session })

/-- `throws_processPrekeyWhisperMessage:withSession:protocolContext:`. -/
def throwsProcessPrekeyWhisperMessage (message : PreKeyWhisperMessage)
    (sessionRecord : SessionRecord) : Procedure Failure World (Int32 × SessionRecord) := do
  let theirIdentityKey ← lift (throwsRemoveKeyType message.identityKey)
  let world ← read
  if world.stores.isTrustedIdentityKey builder.recipientId world.clock (some theirIdentityKey)
      .incoming then
    if message.version = 3 then
      let result ← lift (builder.throwsProcessPrekeyV3 P world.stores message sessionRecord)
      let _ ← saveRemoteIdentity (some theirIdentityKey) builder.recipientId
      return result
    else raise (exception .invalidVersionException "Trying to initialize with unknown version")
  else
    raise (exception .untrustedIdentityKeyException
      "There is a previously known identity key.")

/-! ## What the builder does -/

variable {P builder}

/-- The parameters `throws_processPrekeyBundle:` computes for a bundle it
accepts. -/
structure BundleParameters (P : Primitives) (recipientId : String) (world : World)
    (preKeyBundle : PreKeyBundle) (params : AliceAxolotlParameters) : Prop where
  identityKey : throwsRemoveKeyType preKeyBundle.identityKey = .ok params.theirIdentityKey
  signedPreKey :
    throwsRemoveKeyType preKeyBundle.signedPreKeyPublic = .ok params.theirSignedPreKey
  oneTimePreKey :
    throwsRemoveOptionalKeyType preKeyBundle.preKeyPublic = .ok params.theirOneTimePrekey
  ratchetKey : params.theirRatchetKey = params.theirSignedPreKey
  trusted : world.stores.isTrustedIdentityKey recipientId world.clock
    (some params.theirIdentityKey) .outgoing = true
  verified : throwsVerifySignature P preKeyBundle.signedPreKeySignature params.theirIdentityKey
    preKeyBundle.signedPreKeyPublic = .ok true
  ourIdentityKeyPair : world.stores.identityKeyPair = some params.ourIdentityKeyPair
  ourBaseKey : params.ourBaseKey = P.generatedKeyPair world.generated

def bundleSession (world : World) (preKeyBundle : PreKeyBundle)
    (params : AliceAxolotlParameters) (session : SessionState) : SessionState :=
  { session.setUnacknowledgedPreKeyMessage preKeyBundle.preKeyId preKeyBundle.signedPreKeyId
      params.ourBaseKey.publicKey.val with
    localRegistrationId := world.stores.localRegistrationId
    remoteRegistrationId := preKeyBundle.registrationId
    aliceBaseKey := some params.ourBaseKey.publicKey.val }

def bundleRecord (recipientId : String) (world : World) (preKeyBundle : PreKeyBundle)
    (params : AliceAxolotlParameters) (session : SessionState) : SessionRecord :=
  let sessionRecord :=
    { (world.stores.loadSession recipientId preKeyBundle.deviceId).archiveUnlessFresh with
      sessionState := bundleSession world preKeyBundle params session }
  if (world.stores.saveRemoteIdentity recipientId world.clock
      (some params.theirIdentityKey)).1 then
    sessionRecord.removePreviousSessionStates
  else sessionRecord

/-- **What processing a bundle can do.**  It fails and writes nothing, or it
saves the bundle's identity and the new session. -/
theorem throwsProcessPrekeyBundle_cases (builder : SessionBuilder) (preKeyBundle : PreKeyBundle)
    (world : World) :
    (∃ e generated, world.generated ≤ generated ∧
      (builder.throwsProcessPrekeyBundle P preKeyBundle).run world =
        (.error e, { world with generated := generated })) ∨
    (∃ params session,
      BundleParameters P builder.recipientId world preKeyBundle params ∧
      RatchetingSession.throwsInitializeSessionAlice P
        (world.stores.loadSession builder.recipientId
          preKeyBundle.deviceId).archiveUnlessFresh.sessionState
        currentVersion params (P.generatedKeyPair (world.generated + 1)) = .ok session ∧
      (builder.throwsProcessPrekeyBundle P preKeyBundle).run world =
        (.ok (), { world with
          generated := world.generated + 2
          stores := (world.stores.saveRemoteIdentity builder.recipientId world.clock
            (some params.theirIdentityKey)).2.storeSession builder.recipientId builder.deviceId
              (bundleRecord builder.recipientId world preKeyBundle params session) })) := by
  unfold throwsProcessPrekeyBundle
  cases hidentity : throwsRemoveKeyType preKeyBundle.identityKey with
  | error e => exact .inl ⟨e, _, le_rfl, by simp⟩
  | ok theirIdentityKey =>
  cases hsigned : throwsRemoveKeyType preKeyBundle.signedPreKeyPublic with
  | error e => exact .inl ⟨e, _, le_rfl, by simp⟩
  | ok theirSignedPreKey =>
  simp only [run_lift_ok_bind, run_read_bind]
  by_cases htrusted : world.stores.isTrustedIdentityKey builder.recipientId world.clock
      (some theirIdentityKey) .outgoing = true
  case neg => exact .inl ⟨_, _, le_rfl, by simp only [htrusted]; rfl⟩
  simp only [htrusted, if_true]
  cases hverified : throwsVerifySignature P preKeyBundle.signedPreKeySignature theirIdentityKey
      preKeyBundle.signedPreKeyPublic with
  | error e => exact .inl ⟨e, _, le_rfl, by simp⟩
  | ok verified =>
  cases verified with
  | false => exact .inl ⟨_, _, le_rfl, by simp only [run_lift_ok_bind]; rfl⟩
  | true =>
  -- From here on a base key has been generated, also where it fails.
  simp only [run_lift_ok_bind, if_true, run_generateKeyPair_bind]
  cases honeTime : throwsRemoveOptionalKeyType preKeyBundle.preKeyPublic with
  | error e => exact .inl ⟨e, world.generated + 1, by omega, rfl⟩
  | ok theirOneTimePreKey =>
  cases hpair : world.stores.identityKeyPair with
  | none => exact .inl ⟨_, world.generated + 1, by omega, rfl⟩
  | some ourIdentityKeyPair =>
  simp only [run_lift_ok_bind, assertNonNil, run_generateKeyPair_bind]
  let params : AliceAxolotlParameters := {
    ourIdentityKeyPair, theirIdentityKey, theirSignedPreKey
    ourBaseKey := P.generatedKeyPair world.generated
    theirOneTimePrekey := theirOneTimePreKey
    theirRatchetKey := theirSignedPreKey }
  cases hsession : RatchetingSession.throwsInitializeSessionAlice P
      (world.stores.loadSession builder.recipientId
        preKeyBundle.deviceId).archiveUnlessFresh.sessionState
      currentVersion params (P.generatedKeyPair (world.generated + 1)) with
  | error e =>
      exact .inl ⟨e, world.generated + 1 + 1, by omega, rfl⟩
  | ok session =>
      have hparams : BundleParameters P builder.recipientId world preKeyBundle params :=
        ⟨hidentity, hsigned, honeTime, rfl, htrusted, hverified, hpair, rfl⟩
      exact .inr ⟨params, session, hparams, hsession, rfl⟩

theorem run_throwsProcessPrekeyBundle_of_parameters (builder : SessionBuilder)
    {preKeyBundle : PreKeyBundle} {world : World}
    {params : AliceAxolotlParameters} {session : SessionState}
    (hparams : BundleParameters P builder.recipientId world preKeyBundle params)
    (hsession : RatchetingSession.throwsInitializeSessionAlice P
      (world.stores.loadSession builder.recipientId
        preKeyBundle.deviceId).archiveUnlessFresh.sessionState
      currentVersion params (P.generatedKeyPair (world.generated + 1)) = .ok session) :
    (builder.throwsProcessPrekeyBundle P preKeyBundle).run world =
      (.ok (), { world with
        generated := world.generated + 2
        stores := (world.stores.saveRemoteIdentity builder.recipientId world.clock
          (some params.theirIdentityKey)).2.storeSession builder.recipientId builder.deviceId
            (bundleRecord builder.recipientId world preKeyBundle params session) }) := by
  obtain ⟨ourIdentityKeyPair, theirIdentityKey, ourBaseKey, theirSignedPreKey,
    theirOneTimePrekey, theirRatchetKey⟩ := params
  obtain ⟨hidentity, hsigned, honeTime, hratchet, htrusted, hverified, hpair, hbase⟩ := hparams
  simp only at hidentity hsigned honeTime hratchet htrusted hverified hpair hbase
  subst hratchet hbase
  simp only [throwsProcessPrekeyBundle, hidentity, hsigned, honeTime, htrusted, hverified, hpair,
    run_lift_ok_bind, run_read_bind, if_true, run_generateKeyPair_bind, assertNonNil, hsession]
  rfl

/-- The parameters `throws_processPrekeyV3:` computes for a new session. -/
structure PrekeyParameters (builder : SessionBuilder) (stores : Stores)
    (message : PreKeyWhisperMessage) (params : BobAxolotlParameters) : Prop where
  baseKey : throwsRemoveKeyType message.baseKey = .ok params.theirBaseKey
  identityKey : throwsRemoveKeyType message.identityKey = .ok params.theirIdentityKey
  signedPrekey : stores.throwsLoadSignedPrekey message.signedPrekeyId = .ok params.ourSignedPrekey
  oneTimePrekey :
    builder.throwsLoadOneTimePreKey stores message.prekeyID = .ok params.ourOneTimePrekey
  ratchetKey : params.ourRatchetKey = params.ourSignedPrekey
  ourIdentityKeyPair : stores.identityKeyPair = some params.ourIdentityKeyPair

def prekeyRecord (stores : Stores) (message : PreKeyWhisperMessage)
    (sessionRecord : SessionRecord) (params : BobAxolotlParameters) (session : SessionState) :
    SessionRecord :=
  { sessionRecord.archiveUnlessFresh with
    sessionState := { session with
      localRegistrationId := stores.localRegistrationId
      remoteRegistrationId := message.registrationId
      aliceBaseKey := some params.theirBaseKey } }

/-- **What `throws_processPrekeyV3:` returns**: the record it was handed, when
the base key is known; a new session, when it is not. -/
theorem throwsProcessPrekeyV3_eq_ok {stores : Stores} {message : PreKeyWhisperMessage}
    {sessionRecord : SessionRecord} {result : Int32 × SessionRecord} :
    builder.throwsProcessPrekeyV3 P stores message sessionRecord = .ok result ↔
      ∃ baseKey, throwsRemoveKeyType message.baseKey = .ok baseKey ∧
        ((sessionRecord.hasSessionState message.version baseKey = true ∧
            result = (-1, sessionRecord)) ∨
          (sessionRecord.hasSessionState message.version baseKey = false ∧
            ∃ params session, PrekeyParameters builder stores message params ∧
              RatchetingSession.throwsInitializeSessionBob P
                sessionRecord.archiveUnlessFresh.sessionState message.version params =
                  .ok session ∧
              result = (usedPreKeyId message.prekeyID,
                prekeyRecord stores message sessionRecord params session))) := by
  unfold throwsProcessPrekeyV3
  cases hbase : throwsRemoveKeyType message.baseKey with
  | error e => simp
  | ok baseKey =>
  simp only [ok_bind, pure_eq_ok, Except.ok.injEq, exists_eq_left']
  cases hknown : sessionRecord.hasSessionState message.version baseKey with
  | true => simp [eq_comm]
  | false =>
  -- The base key is new, and the checks are made one after the other.
  simp only [Bool.false_eq_true, if_false, false_and, true_and, false_or]
  constructor
  · intro h
    cases hsigned : stores.throwsLoadSignedPrekey message.signedPrekeyId with
    | error e => simp [hsigned] at h
    | ok ourSignedPrekey =>
    cases honeTime : builder.throwsLoadOneTimePreKey stores message.prekeyID with
    | error e => simp [hsigned, honeTime] at h
    | ok ourOneTimePrekey =>
    cases hidentity : throwsRemoveKeyType message.identityKey with
    | error e => simp [hsigned, honeTime, hidentity] at h
    | ok theirIdentityKey =>
    cases hpair : stores.identityKeyPair with
    | none => simp [hsigned, honeTime, hidentity, hpair, assertNonNil] at h
    | some ourIdentityKeyPair =>
    simp only [hsigned, honeTime, hidentity, hpair, assertNonNil, ok_bind] at h
    let params : BobAxolotlParameters := {
      ourIdentityKeyPair, theirIdentityKey, ourSignedPrekey
      ourRatchetKey := ourSignedPrekey
      ourOneTimePrekey
      theirBaseKey := baseKey }
    cases hsession : RatchetingSession.throwsInitializeSessionBob P
        sessionRecord.archiveUnlessFresh.sessionState message.version params with
    | error e =>
        rw [hsession] at h
        simp at h
    | ok session =>
        rw [hsession] at h
        exact ⟨params, session, ⟨hbase, hidentity, hsigned, honeTime, rfl, hpair⟩, hsession,
          (Except.ok.inj h).symm⟩
  · rintro ⟨⟨ourIdentityKeyPair, theirIdentityKey, ourSignedPrekey, ourRatchetKey,
      ourOneTimePrekey, theirBaseKey⟩, session, hparams, hsession, rfl⟩
    obtain ⟨hbase', hidentity, hsigned, honeTime, hratchet, hpair⟩ := hparams
    simp only at hbase' hidentity hsigned honeTime hratchet hpair
    obtain rfl : baseKey = theirBaseKey := by
      rw [hbase] at hbase'
      exact Except.ok.inj hbase'
    subst hratchet
    simp only [hsigned, honeTime, hidentity, hpair, assertNonNil, ok_bind, hsession]
    rfl

/-- Everything `throws_processPrekeyWhisperMessage:` does before it writes: the
identity it will save, and what it will answer. -/
def checkPrekeyWhisperMessage (P : Primitives) (builder : SessionBuilder) (world : World)
    (message : PreKeyWhisperMessage) (sessionRecord : SessionRecord) :
    Except Failure (NSData × Int32 × SessionRecord) := do
  let theirIdentityKey ← throwsRemoveKeyType message.identityKey
  if world.stores.isTrustedIdentityKey builder.recipientId world.clock (some theirIdentityKey)
      .incoming then
    if message.version = 3 then
      let result ← builder.throwsProcessPrekeyV3 P world.stores message sessionRecord
      return (theirIdentityKey, result)
    else .error (exception .invalidVersionException "Trying to initialize with unknown version")
  else
    .error (exception .untrustedIdentityKeyException
      "There is a previously known identity key.")

/-- **Bob's side checks, then writes the identity.** -/
theorem run_throwsProcessPrekeyWhisperMessage (builder : SessionBuilder) (world : World)
    (message : PreKeyWhisperMessage) (sessionRecord : SessionRecord) :
    (builder.throwsProcessPrekeyWhisperMessage P message sessionRecord).run world =
      match builder.checkPrekeyWhisperMessage P world message sessionRecord with
      | .error e => (.error e, world)
      | .ok (theirIdentityKey, result) =>
          (.ok result, { world with
            stores := (world.stores.saveRemoteIdentity builder.recipientId world.clock
              (some theirIdentityKey)).2 }) := by
  unfold throwsProcessPrekeyWhisperMessage checkPrekeyWhisperMessage
  cases hidentity : throwsRemoveKeyType message.identityKey with
  | error e => rfl
  | ok theirIdentityKey =>
  simp only [run_lift_ok_bind, run_read_bind, run_ite, ok_bind]
  split
  · split
    · cases hresult : builder.throwsProcessPrekeyV3 P world.stores message sessionRecord with
      | error e => rfl
      | ok result => rfl
    · rfl
  · rfl

theorem checkPrekeyWhisperMessage_eq_ok {world : World} {message : PreKeyWhisperMessage}
    {sessionRecord : SessionRecord} {theirIdentityKey : NSData}
    {result : Int32 × SessionRecord} :
    builder.checkPrekeyWhisperMessage P world message sessionRecord =
        .ok (theirIdentityKey, result) ↔
      throwsRemoveKeyType message.identityKey = .ok theirIdentityKey ∧
        world.stores.isTrustedIdentityKey builder.recipientId world.clock
          (some theirIdentityKey) .incoming = true ∧
        message.version = 3 ∧
        builder.throwsProcessPrekeyV3 P world.stores message sessionRecord = .ok result := by
  unfold checkPrekeyWhisperMessage
  cases hidentity : throwsRemoveKeyType message.identityKey with
  | error e => simp
  | ok identityKey =>
  simp only [ok_bind, Except.ok.injEq]
  constructor
  · intro h
    split at h
    · rename_i htrusted
      split at h
      · rename_i hversion
        cases hresult : builder.throwsProcessPrekeyV3 P world.stores message sessionRecord with
        | error e => simp [hresult] at h
        | ok r =>
            simp only [hresult, ok_bind, pure_eq_ok, Except.ok.injEq, Prod.mk.injEq] at h
            obtain ⟨rfl, rfl⟩ := h
            exact ⟨rfl, htrusted, hversion, rfl⟩
      · simp at h
    · simp at h
  · rintro ⟨rfl, htrusted, hversion, hresult⟩
    simp [htrusted, hversion, hresult]

end SessionBuilder

end ObjcSwiftLearning.AxolotlKit
