import ObjcSwiftLearning.AxolotlKit.AdditivePrimitives

/-!
# Are one-time prekeys used once?

A prekey named by the message that opens a session is to be removed once the
message has been decrypted, and no other message removes one: `PreKeysAfter`.

`SessionBuilder` answers the id and `throws_decryptPreKeyWhisperMessage:` passes
it to its `prekeyStore`, a property neither initialiser of `SessionCipher`
assigns.  So nothing is ever removed (`preKeys_throwsDecryptPreKeyWhisperMessage`),
and `preKeysAfter_iff` says what that leaves of the specification.
-/

namespace ObjcSwiftLearning.AxolotlKit

open SignalServiceKit Procedure

variable {P : Primitives}

/-! ## The specification -/

/-- The message names a one-time prekey: not none, and not the last resort. -/
def PreKeyWhisperMessage.NamesOneTimePreKey (message : PreKeyWhisperMessage) : Prop :=
  0 ≤ message.prekeyID ∧ message.prekeyID ≠ kPreKeyOfLastResortId

/-- The base key of the message is not known to the record. -/
def PreKeyWhisperMessage.OpensNewSession (message : PreKeyWhisperMessage)
    (sessionRecord : SessionRecord) : Prop :=
  ∃ baseKey, throwsRemoveKeyType message.baseKey = .ok baseKey ∧
    sessionRecord.hasSessionState message.version baseKey = false

/-- The prekeys as they should be after a message: without the one used, if the
message was decrypted, opened a session and named one; as before, if not. -/
def PreKeysAfter (message : PreKeyWhisperMessage) (sessionRecord : SessionRecord)
    (decrypted : Prop) (preKeys preKeys' : Int32 → Option ECKeyPair) : Prop :=
  (decrypted ∧ message.OpensNewSession sessionRecord ∧ message.NamesOneTimePreKey →
    preKeys' message.prekeyID = none ∧
      ∀ preKeyId ≠ message.prekeyID, preKeys' preKeyId = preKeys preKeyId) ∧
  (¬(decrypted ∧ message.OpensNewSession sessionRecord ∧ message.NamesOneTimePreKey) →
    preKeys' = preKeys)

/-! ## What the code does -/

theorem removeUsedPreKey_of_none {cipher : SessionCipher} (h : cipher.prekeyStore = none)
    (unsignedPreKeyId : Int32) (world : World) :
    (cipher.removeUsedPreKey unsignedPreKeyId).run world = (.ok (), world) := by
  simp [SessionCipher.removeUsedPreKey, h]

/-- **No prekey is removed**, whatever the message and the outcome. -/
theorem preKeys_throwsDecryptPreKeyWhisperMessage (cipher : SessionCipher)
    (hstore : cipher.prekeyStore = none) (message : PreKeyWhisperMessage) (world : World) :
    ((cipher.throwsDecryptPreKeyWhisperMessage P message).run world).2.stores.preKeys =
      world.stores.preKeys := by
  rcases hrun : (cipher.throwsDecryptPreKeyWhisperMessage P message).run world with
    ⟨e | plaintext, world'⟩
  · rcases SessionCipher.throwsDecryptPreKeyWhisperMessage_error hrun with
      ⟨-, rfl⟩ | ⟨theirIdentityKey, result, -, hworld⟩
    · rfl
    · rw [hworld]
      exact (Stores.saveRemoteIdentity_frame _ _ _ _).preKeys
  · obtain ⟨theirIdentityKey, unsignedPreKeyId, sessionRecord, sessionRecord', world₁, -, -,
      hworld, hremove⟩ := SessionCipher.throwsDecryptPreKeyWhisperMessage_eq_ok hrun
    rw [removeUsedPreKey_of_none hstore, Prod.mk.injEq] at hremove
    rw [← hremove.2, hworld]
    exact (Stores.saveRemoteIdentity_frame _ _ _ _).preKeys

theorem preKeys_isSome_of_throwsProcessPrekeyV3 {builder : SessionBuilder} {stores : Stores}
    {message : PreKeyWhisperMessage} {sessionRecord : SessionRecord}
    {result : Int32 × SessionRecord}
    (h : builder.throwsProcessPrekeyV3 P stores message sessionRecord = .ok result)
    (hnew : message.OpensNewSession sessionRecord) (hnames : message.NamesOneTimePreKey) :
    (stores.preKeys message.prekeyID).isSome = true := by
  obtain ⟨baseKey, hbase, hresult⟩ := SessionBuilder.throwsProcessPrekeyV3_eq_ok.mp h
  obtain ⟨baseKey', hbase', hunknown⟩ := hnew
  obtain rfl : baseKey = baseKey' := by
    rw [hbase] at hbase'
    exact Except.ok.inj hbase'
  rcases hresult with ⟨hknown, -⟩ | ⟨-, params, session, hparams, -, -⟩
  · rw [hunknown] at hknown
    simp at hknown
  · have hload := hparams.oneTimePrekey
    rw [SessionBuilder.throwsLoadOneTimePreKey, if_pos hnames.1] at hload
    cases hstore : builder.prekeyStore with
    | primaryStorage =>
        cases hkey : stores.preKeys message.prekeyID with
        | some keyPair => rfl
        | none =>
            simp [PreKeyStore.throwsLoadPreKey, Stores.throwsLoadPreKey, hkey,
              Except.map] at hload

/-- **Prekey use, exactly.**  A message that fails to decrypt removes no prekey.
One that is decrypted leaves the prekeys as it should when it does not open a new
session on a one-time prekey, and never when it does. -/
theorem preKeysAfter_iff (preKeyStore : PreKeyStore) (recipientId : String) (deviceId : Int32)
    (message : PreKeyWhisperMessage) (world : World) (cipher : SessionCipher)
    (hcipher : cipher = .initWithSessionStore preKeyStore recipientId deviceId ∨
      cipher = .initWithAxolotlStore preKeyStore recipientId deviceId) :
    (∀ e world', (cipher.throwsDecryptPreKeyWhisperMessage P message).run world =
        (.error e, world') →
      PreKeysAfter message (world.stores.loadSession recipientId deviceId) False
        world.stores.preKeys world'.stores.preKeys) ∧
    (∀ plaintext world', (cipher.throwsDecryptPreKeyWhisperMessage P message).run world =
        (.ok plaintext, world') →
      (PreKeysAfter message (world.stores.loadSession recipientId deviceId) True
          world.stores.preKeys world'.stores.preKeys ↔
        ¬(message.OpensNewSession (world.stores.loadSession recipientId deviceId) ∧
          message.NamesOneTimePreKey))) := by
  have hwired : cipher = .initWithSessionStore preKeyStore recipientId deviceId := by
    rcases hcipher with rfl | rfl
    · rfl
    · rfl
  subst hwired
  have hkept := preKeys_throwsDecryptPreKeyWhisperMessage (P := P)
    (.initWithSessionStore preKeyStore recipientId deviceId) rfl message world
  refine ⟨fun e world' hrun => ?_, fun plaintext world' hrun => ?_⟩
  · rw [hrun] at hkept
    exact ⟨fun h => absurd h.1 id, fun _ => hkept⟩
  · rw [hrun] at hkept
    constructor
    · -- The prekey used is still there.
      rintro ⟨hremoved, -⟩ ⟨hnew, hnames⟩
      obtain ⟨theirIdentityKey, unsignedPreKeyId, sessionRecord, sessionRecord', world₁,
        hcheck, -⟩ := SessionCipher.throwsDecryptPreKeyWhisperMessage_eq_ok hrun
      have hprocess := (SessionBuilder.checkPrekeyWhisperMessage_eq_ok.mp hcheck).2.2.2
      have hstored := preKeys_isSome_of_throwsProcessPrekeyV3 hprocess hnew hnames
      have hgone := (hremoved ⟨trivial, hnew, hnames⟩).1
      rw [hkept] at hgone
      simp [hgone] at hstored
    · intro hnot
      exact ⟨fun h => absurd h.2 hnot, fun _ => hkept⟩

/-- A message on our signed prekey alone names none, and leaves all where they
are. -/
theorem preKeysAfter_sample :
    PreKeysAfter (sampleFirstMessage (sampleBundle (-1) none))
      ((sampleStores none none).loadSession "+1" 1) True (sampleStores none none).preKeys
      ((sampleCipher.throwsDecryptPreKeyWhisperMessage additivePrimitives
        (sampleFirstMessage (sampleBundle (-1) none))).run
          ⟨sampleStores none none, 0, 0⟩).2.stores.preKeys := by
  have hok : ((sampleCipher.throwsDecryptPreKeyWhisperMessage additivePrimitives
      (sampleFirstMessage (sampleBundle (-1) none))).run
        ⟨sampleStores none none, 0, 0⟩).1.isOk = true := by decide +kernel
  rcases hrun : (sampleCipher.throwsDecryptPreKeyWhisperMessage additivePrimitives
      (sampleFirstMessage (sampleBundle (-1) none))).run ⟨sampleStores none none, 0, 0⟩ with
    ⟨e | plaintext, world'⟩
  · rw [hrun] at hok
    simp [Except.isOk, Except.toBool] at hok
  · refine ((preKeysAfter_iff .primaryStorage "+1" 1 _ _ sampleCipher (.inr rfl)).2
      plaintext world' hrun).mpr fun h => ?_
    have hnegative : ¬(0 : Int32) ≤ (sampleFirstMessage (sampleBundle (-1) none)).prekeyID := by
      decide +kernel
    exact hnegative h.2.1

/-- The first message on prekey `5` is decrypted, and the prekey is still there. -/
theorem preKey_kept_after_first_message :
    ¬∀ (P : Primitives) (preKeyStore : PreKeyStore) (recipientId : String) (deviceId : Int32)
      (message : PreKeyWhisperMessage) (world world' : World) (plaintext : NSData),
      (world.stores.preKeys message.prekeyID).isSome = true →
      ((SessionCipher.initWithSessionStore preKeyStore recipientId
        deviceId).throwsDecryptPreKeyWhisperMessage P message).run world =
          (.ok plaintext, world') →
      PreKeysAfter message (world.stores.loadSession recipientId deviceId) True
        world.stores.preKeys world'.stores.preKeys := by
  intro hused
  let message := sampleFirstMessage (sampleBundle 5 (some (sampleKeyPair 15).publicKey))
  have hok : ((sampleCipher.throwsDecryptPreKeyWhisperMessage additivePrimitives message).run
      ⟨sampleStores none none, 0, 0⟩).1.isOk = true := by decide +kernel
  have hid : message.prekeyID = 5 := by decide +kernel
  have hkept := preKeys_throwsDecryptPreKeyWhisperMessage (P := additivePrimitives)
    sampleCipher rfl message ⟨sampleStores none none, 0, 0⟩
  rcases hrun : (sampleCipher.throwsDecryptPreKeyWhisperMessage additivePrimitives message).run
      ⟨sampleStores none none, 0, 0⟩ with ⟨e | plaintext, world'⟩
  · rw [hrun] at hok
    simp [Except.isOk, Except.toBool] at hok
  · rw [hrun] at hkept
    have hnew : message.OpensNewSession ((sampleStores none none).loadSession "+1" 1) := by
      refine ⟨(additivePrimitives.generatedKeyPair 40).publicKey.val, ?_, by decide +kernel⟩
      have hbase : message.baseKey =
          prependKeyType (additivePrimitives.generatedKeyPair 40).publicKey.val := by
        decide +kernel
      rw [hbase, throwsRemoveKeyType_prependKeyType]
    have hremoved := (hused _ _ _ _ _ _ _ _ (by rw [hid]; rfl) hrun).1
      ⟨trivial, hnew, by rw [PreKeyWhisperMessage.NamesOneTimePreKey, hid]; decide⟩
    rw [hid, hkept] at hremoved
    exact absurd hremoved.1 (by simp [sampleStores])

end ObjcSwiftLearning.AxolotlKit
