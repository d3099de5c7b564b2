import ObjcSwiftLearning.AxolotlKit.ReceivingLedger
import ObjcSwiftLearning.AxolotlKit.SessionCipher

/-!
# A message between the two ends of a session

What `throws_encryptMessage` builds from one session state, another state opens:
the one that has the sender's identity as its remote and the receiver's as its
local identity, once it holds the message keys the message was sealed with.

* `openWith_buildWhisperMessage` — the MAC verifies and the plaintext comes back,
  whether the message itself is handed over or what its receiver parses.
* `buildWhisperMessage_roundTrip` — the bytes parse to that.
* `run_throwsDecryptWithSessionState_of_take` — a trial with the right message
  keys decrypts.
* `run_throwsDecryptWithSessionRecord_of_current`,
  `run_throwsDecryptPreKeyWhisperMessage_of_current` — and so does a record whose
  current state decrypts, and a prekey message for it.
-/

namespace ObjcSwiftLearning.AxolotlKit

open SignalServiceKit Procedure SessionState

variable {P : Primitives}

namespace SessionCipher

section Message

variable (sessionState : SessionState) (sendingChain : SendingChain)
  (senderIdentityKey receiverIdentityKey paddedMessage : NSData)

theorem counter_buildWhisperMessage :
    (buildWhisperMessage P sessionState sendingChain senderIdentityKey receiverIdentityKey
      paddedMessage).counter.toInt = sendingChain.chainKey.index := by
  have hindex := sendingChain.chainKey.index_lt
  exact Int32.toInt_ofNat_of_lt hindex

theorem throwsRemoveKeyType_received :
    throwsRemoveKeyType (buildWhisperMessage P sessionState sendingChain senderIdentityKey
        receiverIdentityKey paddedMessage).received.senderRatchetKey =
      .ok sendingChain.senderRatchetKeyPair.publicKey.val := by
  have hkey : (buildWhisperMessage P sessionState sendingChain senderIdentityKey
      receiverIdentityKey paddedMessage).received.senderRatchetKey =
        sendingChain.senderRatchetKeyPair.publicKey.val := by
    simp [buildWhisperMessage, WhisperMessage.initWithVersion, WhisperMessage.received,
      prependKeyType_of_key]
  rw [hkey, throwsRemoveKeyType_key]

/-- **The wire carries the message.** -/
theorem buildWhisperMessage_roundTrip (lawful : P.Lawful)
    (hversion : sessionState.version = currentVersion) :
    WhisperMessage.throwsInitWithData P (buildWhisperMessage P sessionState sendingChain
        senderIdentityKey receiverIdentityKey paddedMessage).serialized =
      .ok (buildWhisperMessage P sessionState sendingChain senderIdentityKey
        receiverIdentityKey paddedMessage).received := by
  rw [buildWhisperMessage, hversion]
  exact WhisperMessage.throwsInitWithData_serialized lawful.toCodesMessages _ _ _ _ _ _ _

end Message

end SessionCipher

/-- **The other end opens the message.** -/
theorem SessionState.openWith_buildWhisperMessage (lawful : P.Lawful)
    (sender : SessionState) {receiver : SessionState} (sendingChain : SendingChain)
    {senderIdentityKey receiverIdentityKey : NSData}
    (hremote : receiver.remoteIdentityKey = some senderIdentityKey)
    (hlocal : receiver.localIdentityKey = some receiverIdentityKey) (paddedMessage : NSData) :
    receiver.openWith P (SessionCipher.buildWhisperMessage P sender sendingChain
        senderIdentityKey receiverIdentityKey paddedMessage)
        (sendingChain.chainKey.throwsMessageKeys P) = .ok paddedMessage := by
  simp only [openWith, hremote, hlocal, assertNonNil, ok_bind, SessionCipher.buildWhisperMessage,
    WhisperMessage.throwsVerifyMac_initWithVersion, throwsDecryptCBCMode]
  simp only [WhisperMessage.initWithVersion, lawful.decryptCBC_encryptCBC]

/-- **A trial with the right message keys decrypts.** -/
theorem run_throwsDecryptWithSessionState_of_take {whisperMessage : WhisperMessage}
    {s s₁ : SessionState} {generated generated₁ : ℕ} {theirEphemeral : Key}
    {chain chain' : ReceivingChain} {messageKeys : MessageKeys} {plaintext : NSData}
    (admits : s.Admits whisperMessage theirEphemeral)
    (located : LocatedChain P s generated theirEphemeral chain s₁ generated₁)
    (htake : chain.takeMessageKeys P whisperMessage.counter = .ok (messageKeys, chain'))
    (hopen : s.openWith P whisperMessage messageKeys = .ok plaintext) :
    (throwsDecryptWithSessionState P whisperMessage).run ⟨s, generated⟩ =
      (.ok plaintext, ⟨(s₁.replaceReceiverChain theirEphemeral.val
        chain').clearUnacknowledgedPreKeyMessage, generated₁⟩) := by
  have hrun := run_throwsDecryptWithSessionState admits located
  simpa only [htake, hopen] using hrun

/-- **A record whose current state decrypts, decrypts.** -/
theorem SessionCipher.run_throwsDecryptWithSessionRecord_of_current (cipher : SessionCipher)
    {sessionRecord : SessionRecord} {whisperMessage : WhisperMessage} (world : World)
    {plaintext : NSData} {s' : SessionState} {generated' : ℕ}
    (h : (throwsDecryptWithSessionState P whisperMessage).run
      ⟨sessionRecord.sessionState, world.generated⟩ = (.ok plaintext, ⟨s', generated'⟩)) :
    (cipher.throwsDecryptWithSessionRecord P sessionRecord whisperMessage).run world =
      (.ok (plaintext, { sessionRecord with sessionState := s' }),
        { world with generated := generated' }) := by
  simp only [throwsDecryptWithSessionRecord, run_read_bind, run_modify_bind, h, run_pure]

/-- **A prekey message is decrypted** when the builder accepts it and the current
state of the record it leaves decrypts. -/
theorem SessionCipher.run_throwsDecryptPreKeyWhisperMessage_of_current (cipher : SessionCipher)
    {message : PreKeyWhisperMessage} {world : World} {theirIdentityKey plaintext : NSData}
    {unsignedPreKeyId : Int32} {sessionRecord : SessionRecord} {s' : SessionState}
    {generated' : ℕ}
    (hcheck : cipher.sessionBuilder.checkPrekeyWhisperMessage P world message
      (world.stores.loadSession cipher.recipientId cipher.deviceId) =
        .ok (theirIdentityKey, unsignedPreKeyId, sessionRecord))
    (htrial : (throwsDecryptWithSessionState P message.message).run
      ⟨sessionRecord.sessionState, world.generated⟩ = (.ok plaintext, ⟨s', generated'⟩)) :
    ∃ world', (cipher.throwsDecryptPreKeyWhisperMessage P message).run world =
      (.ok plaintext, world') := by
  have hbuilder := cipher.sessionBuilder.run_throwsProcessPrekeyWhisperMessage (P := P) world
    message (world.stores.loadSession cipher.recipientId cipher.deviceId)
  rw [hcheck] at hbuilder
  have hrecord := cipher.run_throwsDecryptWithSessionRecord_of_current { world with
      stores := (world.stores.saveRemoteIdentity cipher.sessionBuilder.recipientId world.clock
        (some theirIdentityKey)).2 } htrial
  rw [throwsDecryptPreKeyWhisperMessage, run_read_bind, run_bind_of_ok hbuilder]
  dsimp only
  rw [run_bind_of_ok hrecord, run_storeSession_bind, run_bind_of_ok (Prod.ext
    (cipher.removeUsedPreKey_ok unsignedPreKeyId _) rfl)]
  exact ⟨_, rfl⟩

end ObjcSwiftLearning.AxolotlKit
