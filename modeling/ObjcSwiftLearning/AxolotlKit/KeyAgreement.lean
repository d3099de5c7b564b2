import ObjcSwiftLearning.AxolotlKit.AdditivePrimitives
import ObjcSwiftLearning.AxolotlKit.Exchange

/-!
# From a prekey bundle to the first message

Alice processes a bundle of Bob's keys and sends; Bob decrypts what arrives.
Alice computes the fourth Diffie–Hellman result when the bundle has a one-time
prekey, Bob when the id on the wire is not negative.  The two agree exactly when
the bundle's presence and id do, which is how the bundles of the service are
made: the id is `-1` when there is no prekey.

* `FirstContact` — a bundle Bob has published, a world of Alice that accepts it
  and a world of Bob's.
* `FirstContact.run_alice` — Alice's message.
* `FirstContact.bobParameters` — what Bob computes from it.
* `firstMessageArrives` — **the first message arrives**, and both parties have
  hashed the same results.
-/

namespace ObjcSwiftLearning.AxolotlKit

open SignalServiceKit Procedure RatchetingSession SessionState

variable {P : Primitives}

/-! ## The situation -/

/-- The keys of a bundle belong to pairs Bob stores under the ids it names. -/
structure PreKeyBundle.PublishedFrom (bundle : PreKeyBundle) (stores : Stores)
    (handshake : Handshake) : Prop where
  identityKeyPair : stores.identityKeyPair = some handshake.bobIdentity
  identityKey : bundle.identityKey = prependKeyType handshake.bobIdentity.publicKey.val
  signedPreKeys : stores.signedPreKeys bundle.signedPreKeyId = some handshake.bobSignedPrekey
  signedPreKeyPublic :
    bundle.signedPreKeyPublic = prependKeyType handshake.bobSignedPrekey.publicKey.val
  preKeys : ∀ keyPair ∈ handshake.bobOneTimePrekey,
    stores.preKeys bundle.preKeyId = some keyPair
  preKeyPublic : bundle.preKeyPublic =
    handshake.bobOneTimePrekey.map fun keyPair => prependKeyType keyPair.publicKey.val

/-- Alice, who knows Bob as `bobId`, is about to process a bundle of his; Bob
knows Alice's device as `aliceId`, `aliceDevice`. -/
structure FirstContact (P : Primitives) (handshake : Handshake) (bundle : PreKeyBundle)
    (aliceWorld bobWorld : World) (bobId aliceId : String) (aliceDevice : Int32) : Prop where
  matching : handshake.Matches P
  published : bundle.PublishedFrom bobWorld.stores handshake
  bobRatchet : handshake.bobRatchet = handshake.bobSignedPrekey
  aliceIdentity : aliceWorld.stores.identityKeyPair = some handshake.aliceIdentity
  aliceBase : handshake.aliceBase = P.generatedKeyPair aliceWorld.generated
  trusted : aliceWorld.stores.isTrustedIdentityKey bobId aliceWorld.clock
    (some handshake.bobIdentity.publicKey.val) .outgoing = true
  verified : throwsVerifySignature P bundle.signedPreKeySignature
    handshake.bobIdentity.publicKey.val bundle.signedPreKeyPublic = .ok true
  bobTrusts : bobWorld.stores.isTrustedIdentityKey aliceId bobWorld.clock
    (some handshake.aliceIdentity.publicKey.val) .incoming = true
  /-- `storeSession` marks what it stores. -/
  notFresh : ∀ sessionRecord, bobWorld.stores.sessions aliceId aliceDevice = some sessionRecord →
    sessionRecord.fresh = false
  newBaseKey : (bobWorld.stores.loadSession aliceId aliceDevice).sessionState.aliceBaseKey ≠
    some handshake.aliceBase.publicKey.val

/-- A loaded record starts a new session from an empty state. -/
theorem archiveUnlessFresh_loadSession {stores : Stores} {recipientId : String} {deviceId : Int32}
    (h : ∀ sessionRecord, stores.sessions recipientId deviceId = some sessionRecord →
      sessionRecord.fresh = false) :
    (stores.loadSession recipientId deviceId).archiveUnlessFresh.sessionState = .new := by
  unfold Stores.loadSession
  cases hrecord : stores.sessions recipientId deviceId with
  | none => rfl
  | some sessionRecord =>
      simp [SessionRecord.archiveUnlessFresh, h _ hrecord,
        SessionRecord.archiveCurrentState, SessionRecord.promoteState]

namespace FirstContact

variable {handshake : Handshake} {bundle : PreKeyBundle} {aliceWorld bobWorld : World}
  {bobId aliceId : String} {aliceDevice bobDevice : Int32}

/-! ## Alice's side -/

def sendingChain (P : Primitives) (handshake : Handshake) (aliceWorld : World) : SendingChain where
  senderRatchetKeyPair := P.generatedKeyPair (aliceWorld.generated + 1)
  chainKey := (handshake.sendingChain P (P.generatedKeyPair (aliceWorld.generated + 1))).chainKey

/-- The state Alice's message is sent from. -/
structure Opened (P : Primitives) (handshake : Handshake) (bundle : PreKeyBundle)
    (aliceWorld : World) (s : SessionState) : Prop where
  version : s.version = currentVersion
  localIdentityKey : s.localIdentityKey = some handshake.aliceIdentity.publicKey.val
  remoteIdentityKey : s.remoteIdentityKey = some handshake.bobIdentity.publicKey.val
  sendingChain : s.sendingChain = some (FirstContact.sendingChain P handshake aliceWorld)
  pendingPreKey : s.pendingPreKey =
    some ⟨bundle.preKeyId, bundle.signedPreKeyId, handshake.aliceBase.publicKey.val⟩

def whisperMessage (P : Primitives) (handshake : Handshake) (aliceWorld : World)
    (s : SessionState) (plaintext : NSData) : WhisperMessage :=
  SessionCipher.buildWhisperMessage P s (sendingChain P handshake aliceWorld)
    handshake.aliceIdentity.publicKey.val handshake.bobIdentity.publicKey.val plaintext

/-- Alice's first message, sent from the state `s`. -/
def firstMessage (P : Primitives) (handshake : Handshake) (bundle : PreKeyBundle)
    (aliceWorld : World) (s : SessionState) (plaintext : NSData) : PreKeyWhisperMessage :=
  .initWithWhisperMessage P (whisperMessage P handshake aliceWorld s plaintext)
    s.localRegistrationId bundle.preKeyId bundle.signedPreKeyId
    (prependKeyType handshake.aliceBase.publicKey.val)
    (prependKeyType handshake.aliceIdentity.publicKey.val)

/-- What Alice computes from the bundle. -/
theorem bundleParameters
    (contact : FirstContact P handshake bundle aliceWorld bobWorld bobId aliceId aliceDevice) :
    SessionBuilder.BundleParameters P bobId aliceWorld bundle handshake.aliceParameters where
  identityKey := by
    rw [contact.published.identityKey]
    exact throwsRemoveKeyType_prependKeyType _
  signedPreKey := by
    rw [contact.published.signedPreKeyPublic]
    exact throwsRemoveKeyType_prependKeyType _
  oneTimePreKey := by
    rw [contact.published.preKeyPublic]
    cases hprekey : handshake.bobOneTimePrekey with
    | none => simp [SessionBuilder.throwsRemoveOptionalKeyType, Handshake.aliceParameters, hprekey]
    | some keyPair =>
        simp [SessionBuilder.throwsRemoveOptionalKeyType, Handshake.aliceParameters, hprekey,
          Except.map]
  ratchetKey := by simp only [Handshake.aliceParameters, contact.bobRatchet]
  trusted := contact.trusted
  verified := contact.verified
  ourIdentityKeyPair := contact.aliceIdentity
  ourBaseKey := contact.aliceBase

/-- **Alice's side**: the bundle is accepted, and her message leaves. -/
theorem run_alice
    (contact : FirstContact P handshake bundle aliceWorld bobWorld bobId aliceId aliceDevice)
    (preKeyStore : PreKeyStore) (bobDevice : Int32) (plaintext : NSData) :
    ∃ s aliceWorld', Opened P handshake bundle aliceWorld s ∧
      (do
        (SessionBuilder.initWithSessionStore preKeyStore bobId bobDevice).throwsProcessPrekeyBundle
          P bundle
        (SessionCipher.initWithSessionStore preKeyStore bobId bobDevice).throwsEncryptMessage P
          plaintext).run aliceWorld =
        (.ok (.prekey (firstMessage P handshake bundle aliceWorld s plaintext)), aliceWorld') := by
  obtain ⟨session, hsession, hversion, hlocal, hremote, hsending⟩ : ∃ session,
      throwsInitializeSessionAlice P
        (aliceWorld.stores.loadSession bobId bundle.deviceId).archiveUnlessFresh.sessionState
        currentVersion handshake.aliceParameters
        (P.generatedKeyPair (aliceWorld.generated + 1)) = .ok session ∧
      session.version = currentVersion ∧
      session.localIdentityKey = some handshake.aliceIdentity.publicKey.val ∧
      session.remoteIdentityKey = some handshake.bobIdentity.publicKey.val ∧
      session.sendingChain = some (sendingChain P handshake aliceWorld) :=
    ⟨_, handshake.throwsInitializeSessionAlice_eq _ _ _, rfl, rfl, rfl, rfl⟩
  let sessionRecord :=
    SessionBuilder.bundleRecord bobId aliceWorld bundle handshake.aliceParameters session
  have hopened : Opened P handshake bundle aliceWorld sessionRecord.sessionState := by
    have hstate : sessionRecord.sessionState =
        SessionBuilder.bundleSession aliceWorld bundle handshake.aliceParameters session := by
      simp only [sessionRecord, SessionBuilder.bundleRecord]
      split <;> rfl
    rw [hstate]
    exact ⟨hversion, hlocal, hremote, hsending, rfl⟩
  have hnext := ChainKey.nextChainKey_eq_advance P (sendingChain P handshake aliceWorld).chainKey
    (by simp [sendingChain, Handshake.sendingChain])
  let stored : World := { aliceWorld with
    generated := aliceWorld.generated + 2
    stores := (aliceWorld.stores.saveRemoteIdentity bobId aliceWorld.clock
      (some handshake.bobIdentity.publicKey.val)).2.storeSession bobId bobDevice sessionRecord }
  -- The record just stored is the one loaded for sending.
  have hloaded : stored.stores.loadSession bobId bobDevice = sessionRecord.markAsUnFresh :=
    Stores.loadSession_storeSession _
  have htrusted : stored.stores.isTrustedIdentityKey bobId stored.clock
      (some handshake.bobIdentity.publicKey.val) .outgoing = true :=
    Stores.isTrustedIdentityKey_saveRemoteIdentity contact.trusted
  obtain ⟨aliceWorld', hrun⟩ :=
    (SessionCipher.initWithSessionStore preKeyStore bobId
      bobDevice).run_throwsEncryptMessage_of_sendingChain plaintext hloaded
      hopened.localIdentityKey hopened.remoteIdentityKey htrusted hopened.sendingChain hnext
  refine ⟨sessionRecord.sessionState, aliceWorld', hopened, ?_⟩
  rw [run_bind_of_ok (SessionBuilder.run_throwsProcessPrekeyBundle_of_parameters
    (.initWithSessionStore preKeyStore bobId bobDevice) contact.bundleParameters hsession)]
  have hwrapped : SessionCipher.wrapWhisperMessage P sessionRecord.markAsUnFresh.sessionState
      handshake.aliceIdentity.publicKey.val
      (whisperMessage P handshake aliceWorld sessionRecord.sessionState plaintext) =
        .prekey (firstMessage P handshake bundle aliceWorld sessionRecord.sessionState
          plaintext) := by
    have hpending : sessionRecord.markAsUnFresh.sessionState.pendingPreKey =
        some ⟨bundle.preKeyId, bundle.signedPreKeyId, handshake.aliceBase.publicKey.val⟩ :=
      hopened.pendingPreKey
    rw [SessionCipher.wrapWhisperMessage, hpending]
    rfl
  rw [← hwrapped]
  exact hrun

/-- **The wire carries the first message.** -/
theorem firstMessage_roundTrip (lawful : P.Lawful) {s : SessionState}
    (opened : Opened P handshake bundle aliceWorld s) (plaintext : NSData) :
    PreKeyWhisperMessage.throwsInitWithData P
        (firstMessage P handshake bundle aliceWorld s plaintext).serialized =
      .ok (firstMessage P handshake bundle aliceWorld s plaintext).received :=
  PreKeyWhisperMessage.throwsInitWithData_serialized lawful.toCodesMessages _ _ _ _ _ opened.version
    (SessionCipher.buildWhisperMessage_roundTrip _ _ _ _ _ lawful opened.version)

/-! ## Bob's side -/

variable {s : SessionState} (plaintext : NSData)

/-- What Bob computes from Alice's message, when the bundle's id says whether it
has a one-time prekey. -/
theorem bobParameters
    (contact : FirstContact P handshake bundle aliceWorld bobWorld bobId aliceId aliceDevice)
    (hids : bundle.preKeyPublic.isSome = true ↔ 0 ≤ bundle.preKeyId)
    (preKeyStore : PreKeyStore) :
    SessionBuilder.PrekeyParameters (.initWithSessionStore preKeyStore aliceId aliceDevice)
      bobWorld.stores (firstMessage P handshake bundle aliceWorld s plaintext).received
      handshake.bobParameters where
  baseKey := throwsRemoveKeyType_prependKeyType _
  identityKey := throwsRemoveKeyType_prependKeyType _
  signedPrekey := by
    have hsigned := contact.published.signedPreKeys
    simp [firstMessage, PreKeyWhisperMessage.initWithWhisperMessage,
      PreKeyWhisperMessage.received, Stores.throwsLoadSignedPrekey, hsigned,
      Handshake.bobParameters]
  oneTimePrekey := by
    have hid : (firstMessage P handshake bundle aliceWorld s plaintext).received.prekeyID =
        bundle.preKeyId := rfl
    have hpublic := contact.published.preKeyPublic
    rw [hid, SessionBuilder.throwsLoadOneTimePreKey]
    cases hprekey : handshake.bobOneTimePrekey with
    | none =>
        have habsent : ¬0 ≤ bundle.preKeyId := by
          rw [← hids, hpublic, hprekey]
          simp
        simp [habsent, Handshake.bobParameters, hprekey]
    | some keyPair =>
        have hpresent : 0 ≤ bundle.preKeyId := by
          rw [← hids, hpublic, hprekey]
          rfl
        have hstored := contact.published.preKeys keyPair hprekey
        cases preKeyStore
        simp [hpresent, PreKeyStore.throwsLoadPreKey, Stores.throwsLoadPreKey, hstored, Except.map,
          Handshake.bobParameters, hprekey]
  ratchetKey := contact.bobRatchet
  ourIdentityKeyPair := contact.published.identityKeyPair

def bobSession (P : Primitives) (handshake : Handshake) (bobWorld : World)
    (message : PreKeyWhisperMessage) : SessionState :=
  { SessionState.new.setSenderChain handshake.bobRatchet
      (.initial (handshake.result P).chainKey) with
    version := message.version
    remoteIdentityKey := some handshake.aliceIdentity.publicKey.val
    localIdentityKey := some handshake.bobIdentity.publicKey.val
    rootKey := some (handshake.result P).rootKey
    localRegistrationId := bobWorld.stores.localRegistrationId
    remoteRegistrationId := message.registrationId
    aliceBaseKey := some handshake.aliceBase.publicKey.val }

theorem checkPrekeyWhisperMessage_eq (lawful : P.Lawful)
    (contact : FirstContact P handshake bundle aliceWorld bobWorld bobId aliceId aliceDevice)
    (hids : bundle.preKeyPublic.isSome = true ↔ 0 ≤ bundle.preKeyId)
    (opened : Opened P handshake bundle aliceWorld s) (preKeyStore : PreKeyStore) :
    ∃ unsignedPreKeyId sessionRecord,
      (SessionBuilder.initWithSessionStore preKeyStore aliceId
          aliceDevice).checkPrekeyWhisperMessage P bobWorld
          (firstMessage P handshake bundle aliceWorld s plaintext).received
          (bobWorld.stores.loadSession aliceId aliceDevice) =
        .ok (handshake.aliceIdentity.publicKey.val, unsignedPreKeyId, sessionRecord) ∧
      sessionRecord.sessionState = bobSession P handshake bobWorld
        (firstMessage P handshake bundle aliceWorld s plaintext).received := by
  let message := (firstMessage P handshake bundle aliceWorld s plaintext).received
  have hunknown : (bobWorld.stores.loadSession aliceId aliceDevice).hasSessionState
      message.version handshake.aliceBase.publicKey.val = false := by
    have hbase : isEqualToData (some handshake.aliceBase.publicKey.val)
        (bobWorld.stores.loadSession aliceId aliceDevice).sessionState.aliceBaseKey = false := by
      by_contra hequal
      obtain ⟨d, hd, hcurrent⟩ := isEqualToData_eq_true.mp (Bool.not_eq_false _ ▸ hequal)
      exact contact.newBaseKey (hcurrent.trans hd.symm)
    simp [SessionRecord.hasSessionState, hbase]
  have hsession := handshake.throwsInitializeSessionBob_eq lawful contact.matching
    (bobWorld.stores.loadSession aliceId aliceDevice).archiveUnlessFresh.sessionState
    message.version
  have hprocess := SessionBuilder.throwsProcessPrekeyV3_eq_ok.mpr
    ⟨_, throwsRemoveKeyType_prependKeyType _, .inr ⟨hunknown, handshake.bobParameters, _,
      contact.bobParameters plaintext hids preKeyStore, hsession, rfl⟩⟩
  have hversion : message.version = 3 := opened.version
  refine ⟨_, _, SessionBuilder.checkPrekeyWhisperMessage_eq_ok.mpr
    ⟨throwsRemoveKeyType_prependKeyType _, contact.bobTrusts, hversion, hprocess⟩, ?_⟩
  simp only [SessionBuilder.prekeyRecord, archiveUnlessFresh_loadSession contact.notFresh]
  rfl

/-- **Bob's session opens Alice's message.** -/
theorem run_bobSession (lawful : P.Lawful)
    (contact : FirstContact P handshake bundle aliceWorld bobWorld bobId aliceId aliceDevice)
    (generated : ℕ) :
    ∃ s' generated', (throwsDecryptWithSessionState P
        (whisperMessage P handshake aliceWorld s plaintext).received).run
        ⟨bobSession P handshake bobWorld
          (firstMessage P handshake bundle aliceWorld s plaintext).received, generated⟩ =
      (.ok plaintext, ⟨s', generated'⟩) := by
  let ratchet := P.generatedKeyPair (aliceWorld.generated + 1)
  let bob := bobSession P handshake bobWorld
    (firstMessage P handshake bundle aliceWorld s plaintext).received
  have admits : bob.Admits (whisperMessage P handshake aliceWorld s plaintext).received
      ratchet.publicKey :=
    ⟨rfl, rfl, SessionCipher.throwsRemoveKeyType_received _ _ _ _ _⟩
  have located := @LocatedChain.created P bob generated ratchet.publicKey _ _ rfl rfl rfl
  -- The chain Bob creates is the one Alice sends on.
  have hchain : (receivingRKCK P (handshake.result P).rootKey handshake.bobRatchet
      ratchet.publicKey).chainKey = (sendingChain P handshake aliceWorld).chainKey := by
    have hagree := lawful.agree contact.matching.bobRatchet
      (P.generatedKeyPair_matches (aliceWorld.generated + 1))
    simp only [receivingRKCK, sendingChain, Handshake.sendingChain, ratchet, hagree]
  rw [hchain] at located
  have hcounter := SessionCipher.counter_buildWhisperMessage (P := P) s
    (sendingChain P handshake aliceWorld) handshake.aliceIdentity.publicKey.val
    handshake.bobIdentity.publicKey.val plaintext
  have htake := (@ReceivingChain.takeMessageKeys_eq_ok P
    (.initWithChainKey (sendingChain P handshake aliceWorld).chainKey ratchet.publicKey.val)
    _ _ _).mpr (.inr ⟨0, by simp [ReceivingChain.initWithChainKey, sendingChain,
      Handshake.sendingChain], hcounter, by decide, rfl, rfl⟩)
  have hopen := @openWith_buildWhisperMessage P lawful s bob
    (sendingChain P handshake aliceWorld) _ _ rfl rfl plaintext
  exact ⟨_, _, run_throwsDecryptWithSessionState_of_take admits located htake hopen⟩

end FirstContact

open FirstContact

/-! ## The first message -/

/-- Alice processes the bundle and sends; what arrives is parsed, and Bob
decrypts it to the plaintext.  The parameters of both sides lead to the same
Diffie–Hellman results. -/
def FirstMessageArrives (P : Primitives) (bundle : PreKeyBundle) (aliceWorld bobWorld : World)
    (bobId aliceId : String) (bobDevice aliceDevice : Int32) (preKeyStore : PreKeyStore)
    (plaintext : NSData) : Prop :=
  ∃ message aliceWorld' bobWorld' aliceParameters bobParameters secrets,
    (do
      (SessionBuilder.initWithSessionStore preKeyStore bobId bobDevice).throwsProcessPrekeyBundle
        P bundle
      (SessionCipher.initWithSessionStore preKeyStore bobId bobDevice).throwsEncryptMessage P
        plaintext).run aliceWorld = (.ok (.prekey message), aliceWorld') ∧
    PreKeyWhisperMessage.throwsInitWithData P message.serialized = .ok message.received ∧
    ((SessionCipher.initWithSessionStore preKeyStore aliceId aliceDevice).throwsDecrypt P
      (.prekey message.received)).run bobWorld = (.ok plaintext, bobWorld') ∧
    SessionBuilder.BundleParameters P bobId aliceWorld bundle aliceParameters ∧
    SessionBuilder.PrekeyParameters (.initWithSessionStore preKeyStore aliceId aliceDevice)
      bobWorld.stores message.received bobParameters ∧
    sharedSecrets P aliceParameters.agreements = .ok secrets ∧
    sharedSecrets P bobParameters.agreements = .ok secrets

/-- **Key agreement from bundle to first message**, for a bundle whose prekey is
present exactly when its id is not negative. -/
theorem firstMessageArrives (lawful : P.Lawful) (handshake : Handshake) (bundle : PreKeyBundle)
    (aliceWorld bobWorld : World) (bobId aliceId : String) (bobDevice aliceDevice : Int32)
    (preKeyStore : PreKeyStore) (plaintext : NSData)
    (contact : FirstContact P handshake bundle aliceWorld bobWorld bobId aliceId aliceDevice)
    (hids : bundle.preKeyPublic.isSome = true ↔ 0 ≤ bundle.preKeyId) :
    FirstMessageArrives P bundle aliceWorld bobWorld bobId aliceId bobDevice aliceDevice
      preKeyStore plaintext := by
  obtain ⟨s, aliceWorld', opened, halice⟩ := contact.run_alice preKeyStore bobDevice plaintext
  obtain ⟨unsignedPreKeyId, sessionRecord, hcheck, hsession⟩ :=
    contact.checkPrekeyWhisperMessage_eq plaintext lawful hids opened preKeyStore
  obtain ⟨s', generated', htrial⟩ := contact.run_bobSession plaintext lawful
    bobWorld.generated
  rw [← hsession] at htrial
  obtain ⟨bobWorld', hbob⟩ :=
    SessionCipher.run_throwsDecryptPreKeyWhisperMessage_of_current
      (.initWithSessionStore preKeyStore aliceId aliceDevice) hcheck htrial
  exact ⟨firstMessage P handshake bundle aliceWorld s plaintext, aliceWorld', bobWorld',
    handshake.aliceParameters, handshake.bobParameters, handshake.secrets P, halice,
    firstMessage_roundTrip lawful opened plaintext, hbob, contact.bundleParameters,
    contact.bobParameters plaintext hids preKeyStore, handshake.sharedSecrets_alice,
    handshake.sharedSecrets_bob lawful contact.matching⟩

/-! ## Two bundles -/

/-- The keys of our contact and ours, with or without a one-time prekey. -/
def sampleHandshake (bobOneTimePrekey : Option ECKeyPair) : Handshake where
  aliceIdentity := sampleKeyPair 10
  aliceBase := additivePrimitives.generatedKeyPair 40
  bobIdentity := sampleKeyPair 11
  bobSignedPrekey := sampleKeyPair 14
  bobRatchet := sampleKeyPair 14
  bobOneTimePrekey := bobOneTimePrekey

/-- The contact is about to write to us. -/
theorem sampleContact (preKeyId : Int32) (bobOneTimePrekey : Option ECKeyPair)
    (hmatches : ∀ keyPair ∈ bobOneTimePrekey, keyPair.Matches additivePrimitives)
    (hstored : ∀ keyPair ∈ bobOneTimePrekey,
      (sampleStores none none).preKeys preKeyId = some keyPair) :
    FirstContact additivePrimitives (sampleHandshake bobOneTimePrekey)
      (sampleBundle preKeyId (bobOneTimePrekey.map (·.publicKey))) sampleContactWorld
      ⟨sampleStores none none, 0, 0⟩ "+2" "+1" 1 where
  matching := ⟨rfl, rfl, rfl, rfl, rfl, hmatches⟩
  published := ⟨rfl, rfl, rfl, rfl, hstored, by cases bobOneTimePrekey <;> rfl⟩
  bobRatchet := rfl
  aliceIdentity := rfl
  aliceBase := rfl
  trusted := rfl
  verified := rfl
  bobTrusts := rfl
  notFresh := by
    intro sessionRecord hrecord
    simp [sampleStores] at hrecord
  newBaseKey := by simp [Stores.loadSession, sampleStores, SessionRecord.new, SessionState.new]

/-- A bundle with the one-time prekey `5`. -/
theorem firstMessageArrives_sample :
    FirstMessageArrives additivePrimitives (sampleBundle 5 (some (sampleKeyPair 15).publicKey))
      sampleContactWorld ⟨sampleStores none none, 0, 0⟩ "+2" "+1" 1 1 .primaryStorage
      [1, 2, 3] := by
  have contact := sampleContact 5 (some (sampleKeyPair 15))
    (fun keyPair hmem => by rw [← Option.mem_some_iff.mp hmem]; rfl)
    (fun keyPair hmem => by rw [← Option.mem_some_iff.mp hmem]; rfl)
  exact firstMessageArrives additivePrimitives_lawful _ _ _ _ _ _ 1 1 .primaryStorage [1, 2, 3]
    contact (by decide)

/-- A bundle that names a prekey `6` and has none: Bob looks for it. -/
theorem not_firstMessageArrives_of_id_without_key :
    ¬∀ (P : Primitives) (handshake : Handshake) (bundle : PreKeyBundle)
      (aliceWorld bobWorld : World) (bobId aliceId : String) (bobDevice aliceDevice : Int32)
      (preKeyStore : PreKeyStore) (plaintext : NSData), P.Lawful →
      FirstContact P handshake bundle aliceWorld bobWorld bobId aliceId aliceDevice →
      FirstMessageArrives P bundle aliceWorld bobWorld bobId aliceId bobDevice aliceDevice
        preKeyStore plaintext := by
  intro harrives
  obtain ⟨message, aliceWorld', bobWorld', -, -, -, halice, -, hbob, -⟩ :=
    harrives _ _ _ _ _ _ _ 1 1 .primaryStorage [1, 2, 3] additivePrimitives_lawful
      (sampleContact 6 none (by simp) (by simp))
  have hmessage : sampleFirstMessage (sampleBundle 6 none) = message.received := by
    simp only [Option.map_none] at halice
    simp only [sampleFirstMessage, sampleFirstMessageIn, SessionCipher.initWithAxolotlStore,
      halice]
  have hfails : ((sampleCipher.throwsDecrypt additivePrimitives
      (.prekey (sampleFirstMessage (sampleBundle 6 none)))).run
        ⟨sampleStores none none, 0, 0⟩).1.isOk = false := by decide +kernel
  rw [hmessage] at hfails
  change ((sampleCipher.throwsDecrypt additivePrimitives (.prekey message.received)).run
    ⟨sampleStores none none, 0, 0⟩) = _ at hbob
  rw [hbob] at hfails
  simp [Except.isOk, Except.toBool] at hfails

end ObjcSwiftLearning.AxolotlKit
