import ObjcSwiftLearning.AxolotlKit.OneTimePreKeys
import ObjcSwiftLearning.AxolotlKit.SessionLookup
import ObjcSwiftLearning.SignalServiceKit.VerifiedIdentities

/-!
# To whom we encrypt

`throws_encryptMessage:` asks the identity manager whether it may send, with the key of
the session and the identity stored for the recipient as they are at that moment, and
saves the key before it seals the message.  Everything else may have rewritten both in
between: incoming messages save the identity of the session that opened them, bundles
and verifications their own, and an archived session may have been promoted again.

* `OWSRecipientIdentity.MaySendTo` — what makes an identity one to send to.
* `exists_identity_of_encrypted` — **the session is for the stored key, and that one may
  be sent to**, whatever state the stores are in.
* `encrypts_to_trusted_key` — with it, a session for a key that was replaced is used only
  when that key has come back; `encrypts_under_previous_key` — as it may.
-/

namespace ObjcSwiftLearning.SignalServiceKit

open AxolotlKit Procedure

variable {P : Primitives}

/-! ## Who may be sent to -/

/-- The first key we know of a recipient, one that has been verified, or one that has
not and is as old as to have been noticed. -/
def OWSRecipientIdentity.MaySendTo (identity : OWSRecipientIdentity) (now : ℤ) : Prop :=
  identity.isFirstKnownKey = true ∨ identity.verificationState = .verified ∨
    identity.verificationState = .default ∧
      Stores.nonBlockingThreshold ≤ |identity.createdAt - now|

namespace Stores

variable {stores : Stores} {recipientId : String} {now : ℤ}

theorem maySendTo_of_isTrustedKey {identity : OWSRecipientIdentity} {identityKey : Option NSData}
    (h : isTrustedKey now identityKey (some identity) = true) :
    identityKey = identity.identityKey ∧ identity.MaySendTo now := by
  unfold isTrustedKey at h
  dsimp only at h
  split at h
  · cases h
  · rename_i hequal
    refine ⟨?_, ?_⟩
    · obtain ⟨data, hstored, hkey⟩ := isEqualToData_eq_true.mp (by simpa using hequal)
      rw [hstored, hkey]
    · split at h
      · rename_i hfirst
        exact .inl hfirst
      · cases hstate : identity.verificationState with
        | default =>
            rw [hstate] at h
            exact .inr (.inr ⟨hstate, by simpa using h⟩)
        | verified => exact .inr (.inl hstate)
        | noLongerVerified =>
            rw [hstate] at h
            cases h

theorem isSome_verification : (stores.verification recipientId).isSome =
    (stores.identities recipientId).isSome := by
  rw [verification, Option.isSome_map]

end Stores

/-! ## Encryption -/

/-- **The session is for the key stored, and that may be sent to.** -/
theorem exists_identity_of_encrypted {cipher : SessionCipher} {paddedMessage : NSData}
    {cipherMessage : CipherMessage} {world world' : World}
    (h : (cipher.throwsEncryptMessage P paddedMessage).run world = (.ok cipherMessage, world'))
    (hother : world.stores.localNumber ≠ some cipher.recipientId) :
    ∃ identity, world'.stores.identities cipher.recipientId = some identity ∧
      (world.stores.loadSession cipher.recipientId
        cipher.deviceId).sessionState.remoteIdentityKey = identity.identityKey ∧
      identity.MaySendTo world.clock ∧
      (world.stores.identities cipher.recipientId = none ∨
        world.stores.identities cipher.recipientId = some identity) := by
  have htrusted : world.stores.isTrustedIdentityKey cipher.recipientId world.clock
      (world.stores.loadSession cipher.recipientId
        cipher.deviceId).sessionState.remoteIdentityKey .outgoing = true := by
    by_contra huntrusted
    simp only [SessionCipher.throwsEncryptMessage, run_read_bind] at h
    rw [if_neg huntrusted] at h
    cases h
  rw [Stores.isTrustedIdentityKey, if_neg hother] at htrusted
  obtain ⟨e, hrun⟩ | ⟨e, hrun⟩ | ⟨sessionRecord, sendingChain, senderIdentityKey,
      receiverIdentityKey, nextChainKey, rfl, -, -, hremote, -, hrun⟩ :=
    SessionCipher.throwsEncryptMessage_cases (P := P) cipher paddedMessage world
  · rw [hrun] at h
    cases h
  · rw [hrun] at h
    cases h
  · rw [hrun] at h
    cases h
    rw [hremote] at htrusted ⊢
    rw [Stores.identities_storeSession]
    -- the identity is stored for the first time, or it is the one that is trusted
    obtain ⟨hnone, hsave⟩ | ⟨existingIdentity, hidentity, hequal, -⟩ |
        ⟨existingIdentity, hidentity, -, hsave⟩ :=
      world.stores.saveRemoteIdentity_cases cipher.recipientId world.clock
        (some receiverIdentityKey)
    · refine ⟨{ identityKey := some receiverIdentityKey, isFirstKnownKey := true
                createdAt := world.clock, verificationState := .default },
        ?_, rfl, .inl rfl, .inl hnone⟩
      simp [hsave, Stores.saveFirstIdentity, Stores.saveIdentity, Stores.clearSyncMessage]
    · rw [hidentity] at htrusted
      simp [Stores.isTrustedKey, hequal] at htrusted
    · rw [hidentity] at htrusted
      obtain ⟨hkey, hsend⟩ := Stores.maySendTo_of_isTrustedKey htrusted
      rw [hsave]
      exact ⟨existingIdentity, hidentity, hkey, hsend, .inr hidentity⟩

/-! ## Runs -/

/-- What happens to the sessions and identities of a recipient. -/
inductive TrustEvent where
  | session (event : Event)
  | identity (operation : IdentityOperation)
  | elsewhere

end ObjcSwiftLearning.SignalServiceKit

namespace ObjcSwiftLearning.AxolotlKit.Party

open SignalServiceKit Procedure

variable (P : Primitives) (party : Party)

/-- A call of the session classes for one of the recipient's devices, an operation on identities,
or something that leaves the recipient's identity alone, such as the deletion of its sessions. -/
inductive TrustStep : World → TrustEvent → World → Prop
  | session {world world' : World} {event : Event} (device : Party)
      (recipient : device.recipientId = party.recipientId)
      (step : device.Step P world event world') (called : event ≠ .elsewhere) :
      TrustStep world (.session event) world'
  | identity {world : World} (operation : IdentityOperation) :
      TrustStep world (.identity operation)
        { world with stores := operation.apply world.clock world.stores }
  | elsewhere {world world' : World}
      (identities : world'.stores.identities party.recipientId =
        world.stores.identities party.recipientId)
      (generated : world.generated ≤ world'.generated) :
      TrustStep world .elsewhere world'

variable {P} {party} {world world' start : World} {event : Event} {events : List TrustEvent}

/-- Time passes. -/
theorem TrustStep.tick (clock : ℤ) :
    party.TrustStep P world .elsewhere { world with clock } :=
  .elsewhere rfl le_rfl

/-- **What a call does to the identity**: nothing, or it saves a key. -/
theorem identities_step (step : party.Step P world event world') (called : event ≠ .elsewhere) :
    world'.stores.identities party.recipientId = world.stores.identities party.recipientId ∨
      ∃ identityKey, world'.stores.identities party.recipientId =
        (world.stores.saveRemoteIdentity party.recipientId world.clock identityKey).2.identities
          party.recipientId := by
  cases step with
  | processPrekeyBundle _ hrun | processPrekeyBundleRaised hrun =>
      obtain rfl : _ = world' := congrArg Prod.snd hrun
      obtain ⟨e, generated, -, hcase⟩ | ⟨params, session, -, -, hcase⟩ :=
        SessionBuilder.throwsProcessPrekeyBundle_cases (P := P) party.builder _ world
      · rw [hcase]
        exact .inl rfl
      · rw [hcase]
        exact .inr ⟨some params.theirIdentityKey, rfl⟩
  | encryptMessage hrun | encryptMessageRaised hrun =>
      obtain rfl : _ = world' := congrArg Prod.snd hrun
      -- Encrypting fails before the identity is saved, after it, or not at all.
      obtain ⟨e, hcase⟩ | ⟨e, hcase⟩ | ⟨sessionRecord, sendingChain, senderIdentityKey,
          receiverIdentityKey, nextChainKey, -, -, -, -, -, hcase⟩ :=
        SessionCipher.throwsEncryptMessage_cases (P := P) party.cipher _ world
      · rw [hcase]
        exact .inl rfl
      · rw [hcase]
        exact .inr ⟨_, rfl⟩
      · rw [hcase]
        exact .inr ⟨some receiverIdentityKey, rfl⟩
  | @decrypt _ cipherMessage plaintext hrun =>
      cases cipherMessage with
      | whisper whisperMessage =>
          obtain ⟨sessionRecord', -, -, hworld⟩ :=
            SessionCipher.throwsDecryptWhisperMessage_eq_ok hrun
          rw [hworld]
          exact .inr ⟨_, rfl⟩
      | prekey message =>
          obtain ⟨theirIdentityKey, unsignedPreKeyId, sessionRecord, sessionRecord', world₁, -, -,
            hworld, hremove⟩ := SessionCipher.throwsDecryptPreKeyWhisperMessage_eq_ok hrun
          rw [removeUsedPreKey_of_none rfl, Prod.mk.injEq] at hremove
          rw [← hremove.2, hworld]
          exact .inr ⟨_, rfl⟩
  | @decryptRaised _ cipherMessage e hrun =>
      cases cipherMessage with
      | whisper whisperMessage =>
          rw [SessionCipher.throwsDecryptWhisperMessage_error hrun]
          exact .inl rfl
      | prekey message =>
          -- A prekey message that is not opened may have been processed, with its identity saved.
          obtain ⟨-, rfl⟩ | ⟨theirIdentityKey, result, -, hworld⟩ :=
            SessionCipher.throwsDecryptPreKeyWhisperMessage_error hrun
          · exact .inl rfl
          · rw [hworld]
            exact .inr ⟨_, rfl⟩
  | elsewhere hrecord hgenerated => exact absurd rfl called

/-- Nobody's identity is forgotten. -/
theorem TrustStep.isSome_identities {event : TrustEvent}
    (step : party.TrustStep P world event world')
    (h : (world.stores.identities party.recipientId).isSome = true) :
    (world'.stores.identities party.recipientId).isSome = true := by
  cases step with
  | session device recipient step called =>
      rw [← recipient] at h ⊢
      obtain hsame | ⟨identityKey, hsaved⟩ := identities_step step called
      · rw [hsame]
        exact h
      · obtain ⟨_, hidentity, -⟩ := Stores.identities_saveRemoteIdentity _ _ _ identityKey
        rw [hsaved, hidentity]
        rfl
  | identity operation =>
      rw [← Stores.isSome_verification] at h ⊢
      obtain hsame | ⟨identityKey, -, hset⟩ | ⟨verificationState, identityKey, -, hset⟩ :=
        IdentityOperation.Step.cases ⟨world.clock, rfl⟩ party.recipientId
      · rw [hsame]
        exact h
      · rw [hset]
        rfl
      · rw [hset]
        rfl
  | elsewhere identities generated =>
      rw [identities]
      exact h

variable (party) in
def StoresKey (identityKey : NSData) (world : World) : Prop :=
  ∃ identity, world.stores.identities party.recipientId = some identity ∧
    identity.identityKey = some identityKey

variable (P) (party) in
/-- In the run there is a step that makes a key the stored one. -/
def KeyComesBack (identityKey : NSData) (start : World) (events : List TrustEvent)
    (world : World) : Prop :=
  ∃ earlier event later before after, events = earlier ++ event :: later ∧
    LabelledRun (party.TrustStep P) start earlier before ∧ party.TrustStep P before event after ∧
    LabelledRun (party.TrustStep P) after later world ∧
    ¬party.StoresKey identityKey before ∧ party.StoresKey identityKey after

/-- A contact whose key changes while one of its messages is late. -/
def sampleLateWorld : World :=
  ⟨sampleStores (some (sampleRecord (sampleSession 20 21) [])) (some (sampleKey 10).val), 0, 0⟩

/-- Its new key has been saved. -/
def sampleChangedWorld : World :=
  { sampleLateWorld with
    stores := (IdentityOperation.saveRemoteIdentity "+1" (sampleKey 66).val).apply
      sampleLateWorld.clock sampleLateWorld.stores }

def sampleArrivedWorld : World :=
  ((sampleParty.cipher.throwsDecrypt additivePrimitives (.whisper (sampleMessage 21))).run
    sampleChangedWorld).2

/-- Some time later. -/
def sampleLaterWorld : World :=
  { sampleArrivedWorld with clock := 6000 }

theorem step_sampleArrivedWorld :
    sampleParty.Step additivePrimitives sampleChangedWorld
      (.decrypted (.whisper (sampleMessage 21)) [1, 2, 3]) sampleArrivedWorld := by
  have hok : ((sampleParty.cipher.throwsDecrypt additivePrimitives (.whisper
      (sampleMessage 21))).run sampleChangedWorld).1 = .ok [1, 2, 3] := by decide +kernel
  refine .decrypt ?_
  rw [sampleArrivedWorld, ← hok]

theorem run_sampleLaterWorld :
    LabelledRun (sampleParty.TrustStep additivePrimitives) sampleChangedWorld
      [.session (.decrypted (.whisper (sampleMessage 21)) [1, 2, 3]), .elsewhere]
      sampleLaterWorld := by
  have harrived : sampleParty.TrustStep additivePrimitives sampleChangedWorld
      (.session (.decrypted (.whisper (sampleMessage 21)) [1, 2, 3])) sampleArrivedWorld :=
    .session sampleParty rfl step_sampleArrivedWorld nofun
  exact LabelledRun.tail (.single harrived) (.tick 6000)

/-- We encrypt again under the session made for the key that was replaced. -/
theorem encrypts_sampleLaterWorld :
    ∃ cipherMessage world', (sampleParty.cipher.throwsEncryptMessage additivePrimitives [1]).run
      sampleLaterWorld = (.ok cipherMessage, world') := by
  have hok : ((sampleParty.cipher.throwsEncryptMessage additivePrimitives [1]).run
      sampleLaterWorld).1.isOk = true := by decide +kernel
  rcases hrun : (sampleParty.cipher.throwsEncryptMessage additivePrimitives [1]).run
      sampleLaterWorld with ⟨failure | cipherMessage, world'⟩
  · rw [hrun] at hok
    cases hok
  · exact ⟨cipherMessage, world', rfl⟩

end ObjcSwiftLearning.AxolotlKit.Party
