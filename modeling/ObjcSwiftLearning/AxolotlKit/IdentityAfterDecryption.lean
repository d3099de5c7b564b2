import ObjcSwiftLearning.AxolotlKit.OneTimePreKeys
import ObjcSwiftLearning.AxolotlKit.TrialIsolation

/-!
# Is the identity remembered the one authenticated?

A decrypted message was authenticated by one session state, under the identity
key that state holds for the peer; afterwards that state is the current one.
`HoldsAuthenticatedIdentity` asks that the identity store hold the same key.

A plain message saves the key of that state.  A prekey message saves the key *it*
names, which is not under the MAC of an existing session.
`holdsAuthenticatedIdentity_iff` is the exact condition.
-/

namespace ObjcSwiftLearning.AxolotlKit

open SignalServiceKit Procedure SessionCipher

variable {P : Primitives} {whisperMessage : WhisperMessage}

/-! ## The state that authenticates -/

/-- The first state of a record, in trial order, that opens a message. -/
def SessionRecord.authenticator (P : Primitives) (sessionRecord : SessionRecord)
    (whisperMessage : WhisperMessage) : Option SessionState :=
  sessionRecord.states.find? fun s => (s.opens P whisperMessage).isSome

/-- **The current state after a decryption is the authenticator**, advanced. -/
theorem SessionCipher.RecordDecryption.authenticator
    {sessionRecord sessionRecord' : SessionRecord} {generated generated' : ℕ} {plaintext : NSData}
    (h : RecordDecryption P whisperMessage sessionRecord generated plaintext sessionRecord'
      generated') :
    ∃ s, sessionRecord.authenticator P whisperMessage = some s ∧
      SameSession s sessionRecord'.sessionState := by
  cases h with
  | @mk tried rejected untried s s' generated₁ generated₂ hstates hrejected hrun =>
      have houtcome := trialOutcome_of_run hrun
      refine ⟨s, ?_, houtcome.sameSession (by simp [Survives])⟩
      have htried : tried.find? (fun s => (s.opens P whisperMessage).isSome) = none := by
        rw [List.find?_eq_none]
        intro t ht
        simp [hrejected.opens_eq_none t ht]
      rw [SessionRecord.authenticator, hstates, List.find?_append, htried, Option.none_or,
        List.find?_cons_of_pos]
      simp [houtcome.opens_eq]

/-! ## The identity store afterwards -/

/-- The identity held for the contact is the one of the current state of its
session. -/
def HoldsAuthenticatedIdentity (stores : Stores) (recipientId : String) (deviceId : Int32) :
    Prop :=
  ∃ identity ∈ stores.identities recipientId,
    identity.identityKey =
      (stores.loadSession recipientId deviceId).sessionState.remoteIdentityKey

/-- The identity a message will have saved is that of its authenticator: for a
plain message always, for a prekey message when the key it names is that of the
state that opens it, in the record the builder hands on. -/
def NamesAuthenticator (P : Primitives) (builder : SessionBuilder) (deviceId : Int32)
    (world : World) : CipherMessage → Prop
  | .whisper _ => True
  | .prekey message => ∀ theirIdentityKey unsignedPreKeyId sessionRecord s,
      builder.checkPrekeyWhisperMessage P world message
        (world.stores.loadSession builder.recipientId deviceId) =
          .ok (theirIdentityKey, unsignedPreKeyId, sessionRecord) →
      sessionRecord.authenticator P message.message = some s →
      s.remoteIdentityKey = some theirIdentityKey

theorem SessionState.remoteIdentityKey_isSome_of_openWith {s : SessionState}
    {messageKeys : MessageKeys} {plaintext : NSData}
    (h : s.openWith P whisperMessage messageKeys = .ok plaintext) :
    s.remoteIdentityKey.isSome = true := by
  cases hremote : s.remoteIdentityKey with
  | some key => rfl
  | none => simp [openWith, hremote, assertNonNil] at h

theorem SessionState.remoteIdentityKey_isSome_of_opens {s : SessionState}
    (h : (s.opens P whisperMessage).isSome = true) : s.remoteIdentityKey.isSome = true := by
  obtain ⟨plaintext, hplaintext⟩ := Option.isSome_iff_exists.mp h
  unfold opens at hplaintext
  split at hplaintext
  · simp only [bind, Option.bind_eq_some_iff] at hplaintext
    obtain ⟨theirEphemeral, -, chain, -, hchain⟩ := hplaintext
    cases htake : chain.takeMessageKeys P whisperMessage.counter with
    | error e => simp [htake] at hchain
    | ok taken =>
        simp only [htake] at hchain
        cases hopen : s.openWith P whisperMessage taken.1 with
        | error e => simp [hopen, Except.toOption] at hchain
        | ok found => exact remoteIdentityKey_isSome_of_openWith hopen
  · simp at hplaintext

theorem SessionRecord.remoteIdentityKey_authenticator {sessionRecord : SessionRecord}
    {s : SessionState} (h : sessionRecord.authenticator P whisperMessage = some s) :
    s.remoteIdentityKey.isSome = true := by
  have hopens : (s.opens P whisperMessage).isSome = true := by
    simpa using List.find?_some h
  exact SessionState.remoteIdentityKey_isSome_of_opens hopens

/-- **The remembered identity, exactly.** -/
theorem holdsAuthenticatedIdentity_iff (preKeyStore : PreKeyStore) (recipientId : String)
    (deviceId : Int32) (cipherMessage : CipherMessage) (world world' : World)
    (plaintext : NSData)
    (h : ((SessionCipher.initWithSessionStore preKeyStore recipientId deviceId).throwsDecrypt P
      cipherMessage).run world = (.ok plaintext, world')) :
    HoldsAuthenticatedIdentity world'.stores recipientId deviceId ↔
      NamesAuthenticator P (.initWithSessionStore preKeyStore recipientId deviceId) deviceId
        world cipherMessage := by
  cases cipherMessage with
  | whisper whisperMessage =>
      obtain ⟨sessionRecord', hdecryption, -, hworld⟩ :=
        SessionCipher.throwsDecryptWhisperMessage_eq_ok h
      obtain ⟨s, hauthenticator, hsame⟩ := hdecryption.authenticator
      obtain ⟨key, hkey⟩ := Option.isSome_iff_exists.mp
        (SessionRecord.remoteIdentityKey_authenticator hauthenticator)
      -- A plain message saves the identity of the session that has opened it.
      simp only [NamesAuthenticator, iff_true]
      have hremote : sessionRecord'.sessionState.remoteIdentityKey = some key := by
        rw [hsame.remoteIdentityKey, hkey]
      rw [hremote] at hworld
      obtain ⟨identity, hidentity, hheld⟩ :=
        world.stores.identities_saveRemoteIdentity recipientId world.clock key
      refine ⟨identity, ?_, ?_⟩
      · rw [hworld]
        exact hidentity
      · rw [hworld, hheld, ← hremote]
        simp [SessionCipher.initWithSessionStore, SessionRecord.markAsUnFresh]
  | prekey message =>
      obtain ⟨theirIdentityKey, unsignedPreKeyId, sessionRecord, sessionRecord', world₁, hcheck,
        hdecryption, hworld, hremove⟩ := SessionCipher.throwsDecryptPreKeyWhisperMessage_eq_ok h
      rw [removeUsedPreKey_of_none rfl, Prod.mk.injEq] at hremove
      rw [← hremove.2]
      obtain ⟨s, hauthenticator, hsame⟩ := hdecryption.authenticator
      obtain ⟨identity, hidentity, hheld⟩ :=
        world.stores.identities_saveRemoteIdentity recipientId world.clock theirIdentityKey
      have hstored : world₁.stores.identities recipientId = some identity := by
        rw [hworld]
        exact hidentity
      -- A prekey message saves the identity that it names, whatever session has opened it.
      have hcurrent : (world₁.stores.loadSession recipientId
          deviceId).sessionState.remoteIdentityKey = s.remoteIdentityKey := by
        rw [← hsame.remoteIdentityKey, hworld]
        simp [SessionCipher.initWithSessionStore, SessionRecord.markAsUnFresh]
      have hholds : HoldsAuthenticatedIdentity world₁.stores recipientId deviceId ↔
          s.remoteIdentityKey = some theirIdentityKey := by
        simp only [HoldsAuthenticatedIdentity, hstored, hcurrent, Option.mem_some_iff,
          exists_eq_left', hheld]
        exact eq_comm
      rw [hholds]
      constructor
      · intro hkey key id handed t hcheck' ht
        have hresults := Except.ok.inj (hcheck.symm.trans hcheck')
        simp only [Prod.mk.injEq] at hresults
        obtain ⟨rfl, rfl, rfl⟩ := hresults
        obtain rfl : s = t := Option.some.inj (hauthenticator.symm.trans ht)
        exact hkey
      · intro hnames
        exact hnames _ _ _ _ hcheck hauthenticator

/-- A prekey message of the contact's session, with an identity key of its own. -/
def sampleMessageNaming (identityKey : UInt8) : PreKeyWhisperMessage :=
  { emptyFirstMessage with
    version := 3
    baseKey := (sampleKey 20).val
    identityKey := (sampleKey identityKey).val
    message := sampleMessage 21 }

/-- The identity of the contact, and the session with it. -/
def sampleSessionWorld : World :=
  ⟨sampleStores (some (sampleRecord (sampleSession 20 21) [])) (some (sampleKey 10).val), 0, 0⟩

/-- The message names the identity of the session that opens it. -/
theorem holdsAuthenticatedIdentity_sample :
    HoldsAuthenticatedIdentity
      ((sampleCipher.throwsDecrypt additivePrimitives (.prekey (sampleMessageNaming 10))).run
        sampleSessionWorld).2.stores "+1" 1 := by
  have hok : ((sampleCipher.throwsDecrypt additivePrimitives (.prekey (sampleMessageNaming 10))).run
      sampleSessionWorld).1 = .ok [1, 2, 3] := by decide +kernel
  have hnames : ((SessionBuilder.initWithSessionStore .primaryStorage "+1"
      1).checkPrekeyWhisperMessage additivePrimitives sampleSessionWorld (sampleMessageNaming 10)
        (sampleSessionWorld.stores.loadSession "+1" 1)).toOption.all (fun checked =>
          (checked.2.2.authenticator additivePrimitives (sampleMessage 21)).all fun s =>
            s.remoteIdentityKey = some checked.1) = true := by decide +kernel
  rcases hrun : (sampleCipher.throwsDecrypt additivePrimitives
    (.prekey (sampleMessageNaming 10))).run sampleSessionWorld with ⟨result, world'⟩
  rw [hrun] at hok
  obtain rfl := hok
  refine (holdsAuthenticatedIdentity_iff .primaryStorage "+1" 1 _ _ _ _ hrun).mpr ?_
  intro theirIdentityKey unsignedPreKeyId sessionRecord s hcheck hauthenticator
  have hfound : sessionRecord.authenticator additivePrimitives (sampleMessage 21) = some s :=
    hauthenticator
  simp only [SessionBuilder.initWithSessionStore] at hcheck hnames
  simpa [hcheck, Except.toOption, hfound] using hnames

theorem not_holdsAuthenticatedIdentity_of_altered_identityKey :
    ¬∀ (P : Primitives) (preKeyStore : PreKeyStore) (recipientId : String) (deviceId : Int32)
      (cipherMessage : CipherMessage) (world world' : World) (plaintext : NSData),
      ((SessionCipher.initWithSessionStore preKeyStore recipientId deviceId).throwsDecrypt P
        cipherMessage).run world = (.ok plaintext, world') →
      HoldsAuthenticatedIdentity world'.stores recipientId deviceId := by
  intro hholds
  let altered := sampleMessageNaming 66
  let world := sampleSessionWorld
  have hok : ((sampleCipher.throwsDecrypt additivePrimitives (.prekey altered)).run world).1 =
      .ok [1, 2, 3] := by decide +kernel
  have hidentity : (((sampleCipher.throwsDecrypt additivePrimitives (.prekey altered)).run
      world).2.stores.identities "+1").map (·.identityKey) = some (some (sampleKey 66).val) := by
    decide +kernel
  have hcurrent : (((sampleCipher.throwsDecrypt additivePrimitives (.prekey altered)).run
      world).2.stores.loadSession "+1" 1).sessionState.remoteIdentityKey =
        some (sampleKey 10).val := by decide +kernel
  rcases hrun : (sampleCipher.throwsDecrypt additivePrimitives (.prekey altered)).run world with
    ⟨result, world'⟩
  rw [hrun] at hok hidentity hcurrent
  obtain rfl := hok
  obtain ⟨identity, hmem, hheld⟩ := hholds _ .primaryStorage "+1" 1 _ _ _ _ hrun
  rw [Option.mem_def] at hmem
  rw [hmem, Option.map_some, hheld, hcurrent] at hidentity
  exact absurd hidentity (by decide +kernel)

end ObjcSwiftLearning.AxolotlKit
