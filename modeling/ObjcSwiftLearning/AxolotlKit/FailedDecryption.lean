import ObjcSwiftLearning.AxolotlKit.AdditivePrimitives

/-!
# Does a failed decryption leave the stores alone?

A `WhisperMessage` that is not decrypted writes nothing.  For a
`PreKeyWhisperMessage`, `SessionBuilder` saves the identity the message names
before the message has been tried, so a message that fails later has been written
down all the same; if the identity is new to the contact, its sessions have been
archived, too.

* `BuilderAccepts` — the checks made before that write, on the message and the
  stores.
* `stores_eq_iff_of_throws` — **exactly when a failing message leaves the stores
  alone**: it is a plain message, or the builder refuses it, or the identity it
  names is the one recorded.
-/

namespace ObjcSwiftLearning.AxolotlKit

open SignalServiceKit Procedure

variable {P : Primitives}

/-! ## When Bob's session can be initialised -/

namespace RatchetingSession

theorem sharedSecrets_isOk (agreements : List (NSData × ECKeyPair)) :
    (sharedSecrets P agreements).isOk = true ↔
      ∀ agreement ∈ agreements, agreement.1.length = 32 := by
  induction agreements with
  | nil => simp [sharedSecrets, Except.isOk, Except.toBool]
  | cons agreement agreements ih =>
      obtain ⟨publicKey, keyPair⟩ := agreement
      rw [List.forall_mem_cons, ← ih, sharedSecrets, Primitives.throwsGenerateSharedSecret]
      by_cases hlength : publicKey.length = 32
      · rw [dif_pos hlength, ok_bind]
        cases sharedSecrets P agreements <;> simp [hlength, Except.isOk, Except.toBool]
      · rw [dif_neg hlength]
        simp [hlength, Except.isOk, Except.toBool]

theorem throwsInitializeSessionBob_isOk (session : SessionState) (sessionVersion : Int32)
    (parameters : BobAxolotlParameters) :
    (throwsInitializeSessionBob P session sessionVersion parameters).isOk = true ↔
      parameters.theirIdentityKey.length = 32 ∧ parameters.theirBaseKey.length = 32 := by
  have hsecrets := sharedSecrets_isOk (P := P) parameters.agreements
  have hagreements : (∀ agreement ∈ parameters.agreements, agreement.1.length = 32) ↔
      parameters.theirIdentityKey.length = 32 ∧ parameters.theirBaseKey.length = 32 := by
    cases honeTime : parameters.ourOneTimePrekey <;>
      simp [BobAxolotlParameters.agreements, honeTime]
  rw [← hagreements, ← hsecrets]
  simp only [throwsInitializeSessionBob, throwsDHEKeyAgreement]
  cases sharedSecrets P parameters.agreements <;> rfl

end RatchetingSession

/-! ## The builder's checks -/

/-- The checks `SessionBuilder` makes on a message before it saves the identity
`theirIdentityKey` the message names. -/
structure BuilderAccepts (recipientId : String) (world : World) (message : PreKeyWhisperMessage)
    (sessionRecord : SessionRecord) (theirIdentityKey baseKey : NSData) : Prop where
  stripsIdentityKey : throwsRemoveKeyType message.identityKey = .ok theirIdentityKey
  trusted : world.stores.isTrustedIdentityKey recipientId world.clock (some theirIdentityKey)
    .incoming = true
  version : message.version = 3
  stripsBaseKey : throwsRemoveKeyType message.baseKey = .ok baseKey
  /-- For a base key the record does not know, the prekeys must be there and the
  keys of the message have the right length. -/
  newSession : sessionRecord.hasSessionState message.version baseKey = false →
    (world.stores.signedPreKeys message.signedPrekeyId).isSome = true ∧
    (0 ≤ message.prekeyID → (world.stores.preKeys message.prekeyID).isSome = true) ∧
    world.stores.identityKeyPair.isSome = true ∧
    theirIdentityKey.length = 32 ∧ baseKey.length = 32

theorem throwsLoadOneTimePreKey_eq_ok (builder : SessionBuilder) {stores : Stores}
    {prekeyID : Int32} :
    (∃ ourOneTimePrekey, builder.throwsLoadOneTimePreKey stores prekeyID =
        .ok ourOneTimePrekey) ↔
      (0 ≤ prekeyID → (stores.preKeys prekeyID).isSome = true) := by
  unfold SessionBuilder.throwsLoadOneTimePreKey
  by_cases hid : 0 ≤ prekeyID
  · cases builder.prekeyStore with
    | primaryStorage =>
        cases hkey : stores.preKeys prekeyID <;>
          simp [hid, PreKeyStore.throwsLoadPreKey, Stores.throwsLoadPreKey, hkey, Except.map]
  · simp [hid]

theorem throwsLoadSignedPrekey_eq_ok {stores : Stores} {signedPreKeyId : Int32} :
    (∃ ourSignedPrekey, stores.throwsLoadSignedPrekey signedPreKeyId = .ok ourSignedPrekey) ↔
      (stores.signedPreKeys signedPreKeyId).isSome = true := by
  unfold Stores.throwsLoadSignedPrekey
  cases stores.signedPreKeys signedPreKeyId <;> simp

/-- **The checks are those the code makes.** -/
theorem builderAccepts_iff (builder : SessionBuilder) {world : World}
    {message : PreKeyWhisperMessage} {sessionRecord : SessionRecord} {theirIdentityKey : NSData} :
    (∃ result, builder.checkPrekeyWhisperMessage P world message sessionRecord =
        .ok (theirIdentityKey, result)) ↔
      ∃ baseKey, BuilderAccepts builder.recipientId world message sessionRecord theirIdentityKey
        baseKey := by
  constructor
  · rintro ⟨result, hcheck⟩
    obtain ⟨hidentity, htrusted, hversion, hprocess⟩ :=
      SessionBuilder.checkPrekeyWhisperMessage_eq_ok.mp hcheck
    obtain ⟨baseKey, hbase, hresult⟩ := SessionBuilder.throwsProcessPrekeyV3_eq_ok.mp hprocess
    refine ⟨baseKey, hidentity, htrusted, hversion, hbase, fun hunknown => ?_⟩
    rcases hresult with ⟨hknown, -⟩ | ⟨-, params, session, hparams, hsession, -⟩
    · rw [hunknown] at hknown
      simp at hknown
    · have hlengths := (RatchetingSession.throwsInitializeSessionBob_isOk (P := P)
        sessionRecord.archiveUnlessFresh.sessionState message.version params).mp (by
          rw [hsession]
          rfl)
      obtain rfl : theirIdentityKey = params.theirIdentityKey :=
        Except.ok.inj (hidentity.symm.trans hparams.identityKey)
      obtain rfl : baseKey = params.theirBaseKey :=
        Except.ok.inj (hbase.symm.trans hparams.baseKey)
      refine ⟨throwsLoadSignedPrekey_eq_ok.mp ⟨_, hparams.signedPrekey⟩,
        (throwsLoadOneTimePreKey_eq_ok _).mp ⟨_, hparams.oneTimePrekey⟩, ?_, hlengths⟩
      rw [hparams.ourIdentityKeyPair]
      rfl
  · rintro ⟨baseKey, accepts⟩
    suffices hprocess : ∃ result,
        builder.throwsProcessPrekeyV3 P world.stores message sessionRecord = .ok result by
      obtain ⟨result, hprocess⟩ := hprocess
      exact ⟨result, SessionBuilder.checkPrekeyWhisperMessage_eq_ok.mpr
        ⟨accepts.stripsIdentityKey, accepts.trusted, accepts.version, hprocess⟩⟩
    -- A known base key needs no parameters; a new one has those that the checks have found.
    cases hknown : sessionRecord.hasSessionState message.version baseKey with
    | true =>
        exact ⟨_, SessionBuilder.throwsProcessPrekeyV3_eq_ok.mpr
          ⟨baseKey, accepts.stripsBaseKey, .inl ⟨hknown, rfl⟩⟩⟩
    | false =>
        obtain ⟨hsigned, honeTime, hpair, hlengths⟩ := accepts.newSession hknown
        obtain ⟨ourSignedPrekey, hsigned⟩ := throwsLoadSignedPrekey_eq_ok.mpr hsigned
        obtain ⟨ourOneTimePrekey, honeTime⟩ :=
          (throwsLoadOneTimePreKey_eq_ok builder).mpr honeTime
        obtain ⟨ourIdentityKeyPair, hpair⟩ := Option.isSome_iff_exists.mp hpair
        let params : BobAxolotlParameters := {
          ourIdentityKeyPair, theirIdentityKey, ourSignedPrekey
          ourRatchetKey := ourSignedPrekey
          ourOneTimePrekey
          theirBaseKey := baseKey }
        have hsession := (RatchetingSession.throwsInitializeSessionBob_isOk (P := P)
          sessionRecord.archiveUnlessFresh.sessionState message.version params).mpr hlengths
        cases hinit : RatchetingSession.throwsInitializeSessionBob P
            sessionRecord.archiveUnlessFresh.sessionState message.version params with
        | error e =>
            rw [hinit] at hsession
            simp [Except.isOk, Except.toBool] at hsession
        | ok session =>
            exact ⟨_, SessionBuilder.throwsProcessPrekeyV3_eq_ok.mpr
              ⟨baseKey, accepts.stripsBaseKey, .inr ⟨hknown, params, session,
                ⟨accepts.stripsBaseKey, accepts.stripsIdentityKey, hsigned, honeTime, rfl, hpair⟩,
                hinit, rfl⟩⟩⟩

/-! ## The stores after a failure -/

/-- When a failing message leaves the stores alone. -/
def FailsCleanly (recipientId : String) (deviceId : Int32) (world : World) :
    CipherMessage → Prop
  | .whisper _ => True
  | .prekey message => ∀ theirIdentityKey baseKey,
      BuilderAccepts recipientId world message (world.stores.loadSession recipientId deviceId)
        theirIdentityKey baseKey →
      world.stores.RecordsIdentity recipientId theirIdentityKey

/-- **Failed decryption, exactly.** -/
theorem stores_eq_iff_of_throws (preKeyStore : PreKeyStore) (recipientId : String)
    (deviceId : Int32) (cipherMessage : CipherMessage) (world world' : World) (e : NSException)
    (h : ((SessionCipher.initWithSessionStore preKeyStore recipientId deviceId).throwsDecrypt P
      cipherMessage).run world = (.error (.raised e), world')) :
    world'.stores = world.stores ↔ FailsCleanly recipientId deviceId world cipherMessage := by
  cases cipherMessage with
  | whisper whisperMessage =>
      have hworld := SessionCipher.throwsDecryptWhisperMessage_error h
      simp only [FailsCleanly, iff_true]
      rw [hworld]
  | prekey message =>
      rcases SessionCipher.throwsDecryptPreKeyWhisperMessage_error h with
        ⟨hcheck, rfl⟩ | ⟨theirIdentityKey, result, hcheck, hworld⟩
      · simp only [FailsCleanly, true_iff]
        intro theirIdentityKey baseKey accepts
        obtain ⟨result, hok⟩ := (builderAccepts_iff (P := P)
          (.initWithSessionStore preKeyStore recipientId deviceId)).mpr
            ⟨baseKey, accepts⟩
        have hsame := hcheck.symm.trans hok
        simp at hsame
      · obtain ⟨baseKey, accepts⟩ := (builderAccepts_iff _).mp ⟨result, hcheck⟩
        have hstores : world'.stores =
            (world.stores.saveRemoteIdentity recipientId world.clock
              (some theirIdentityKey)).2 := by
          rw [hworld]
          rfl
        rw [hstores, Stores.saveRemoteIdentity_eq_self]
        constructor
        · intro hrecorded key baseKey' accepts'
          obtain rfl : theirIdentityKey = key :=
            Except.ok.inj (accepts.stripsIdentityKey.symm.trans accepts'.stripsIdentityKey)
          exact hrecorded
        · intro hclean
          exact hclean theirIdentityKey baseKey accepts

/-- A plain message for a session we do not have. -/
theorem stores_eq_of_throws_sample :
    ((sampleCipher.throwsDecrypt additivePrimitives (.whisper (sampleMessage 31))).run
      ⟨sampleStores (some (sampleRecord (sampleSession 20 21) [])) none, 0, 0⟩).2.stores =
      sampleStores (some (sampleRecord (sampleSession 20 21) [])) none := by
  have hraised : ((sampleCipher.throwsDecrypt additivePrimitives
      (.whisper (sampleMessage 31))).run
        ⟨sampleStores (some (sampleRecord (sampleSession 20 21) [])) none, 0, 0⟩).1 =
      .error (exception .invalidMessageException "No valid sessions") := by decide +kernel
  rcases hrun : (sampleCipher.throwsDecrypt additivePrimitives
      (.whisper (sampleMessage 31))).run
        ⟨sampleStores (some (sampleRecord (sampleSession 20 21) [])) none, 0, 0⟩ with
    ⟨result, world'⟩
  rw [hrun] at hraised
  obtain rfl := hraised
  exact (stores_eq_iff_of_throws .primaryStorage "+1" 1 _ _ _ _ hrun).mpr trivial

theorem not_stores_eq_of_bad_mac :
    ¬∀ (P : Primitives) (preKeyStore : PreKeyStore) (recipientId : String) (deviceId : Int32)
      (cipherMessage : CipherMessage) (world world' : World) (e : NSException),
      ((SessionCipher.initWithSessionStore preKeyStore recipientId deviceId).throwsDecrypt P
        cipherMessage).run world = (.error (.raised e), world') →
      world'.stores = world.stores := by
  intro hclean
  let message := sampleFirstMessage (sampleBundle (-1) none)
  let forged := { message with
    message := { message.message with serialized := List.replicate 8 0 } }
  have hraised : ((sampleCipher.throwsDecrypt additivePrimitives (.prekey forged)).run
      ⟨sampleStores none none, 0, 0⟩).1 =
        .error (exception .noSessionException "No session for: +1, 1") := by decide +kernel
  have hidentity : (((sampleCipher.throwsDecrypt additivePrimitives (.prekey forged)).run
      ⟨sampleStores none none, 0, 0⟩).2.stores.identities "+1").isSome = true := by
    decide +kernel
  rcases hrun : (sampleCipher.throwsDecrypt additivePrimitives (.prekey forged)).run
      ⟨sampleStores none none, 0, 0⟩ with ⟨result, world'⟩
  rw [hrun] at hraised hidentity
  obtain rfl := hraised
  have hstores := hclean _ .primaryStorage "+1" 1 _ _ _ _ hrun
  rw [hstores] at hidentity
  simp [sampleStores] at hidentity

end ObjcSwiftLearning.AxolotlKit
