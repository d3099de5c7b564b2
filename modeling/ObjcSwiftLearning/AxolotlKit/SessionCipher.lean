import ObjcSwiftLearning.AxolotlKit.SessionBuilder
import ObjcSwiftLearning.AxolotlKit.StateDecryption

/-!
# `SessionCipher`

Encryption, and decryption of both kinds of message, over the stores.

A message is tried on the current session state and then on the archived ones in
order; the first that opens it is promoted.  The states that rejected it keep
whatever their trial wrote (`Rejected`), and are stored with the record.

* `throwsDecryptWithSessionRecord_eq_ok` — **a successful trial of a record**:
  the states before the hit rejected the message, the hit opened it, the states
  after it were not tried.
* `throwsDecryptWhisperMessage_eq_ok`, `throwsDecryptPreKeyWhisperMessage_eq_ok`
  — the two decryption paths over the stores, peeled into their steps.
* `throwsEncryptMessage_cases` — what sending can do.
-/

namespace ObjcSwiftLearning.AxolotlKit

open SignalServiceKit Procedure

/-! ## The cipher object -/

/-- `SessionCipher`, with the properties its methods read. -/
structure SessionCipher where
  recipientId : String
  deviceId : Int32
  sessionBuilder : SessionBuilder
  prekeyStore : Option PreKeyStore

namespace SessionCipher

/-- `initWithSessionStore:preKeyStore:signedPreKeyStore:identityKeyStore:recipientId:deviceId:`.
The property `prekeyStore` is not among those it assigns. -/
def initWithSessionStore (preKeyStore : PreKeyStore) (recipientId : String) (deviceId : Int32) :
    SessionCipher where
  recipientId := recipientId
  deviceId := deviceId
  sessionBuilder := .initWithSessionStore preKeyStore recipientId deviceId
  prekeyStore := none

def initWithAxolotlStore (sessionStore : PreKeyStore) (recipientId : String)
    (deviceId : Int32) : SessionCipher :=
  initWithSessionStore sessionStore recipientId deviceId

variable (P : Primitives) (cipher : SessionCipher)

/-! ## Encryption -/

/-- The `WhisperMessage` of `throws_encryptMessage:`. -/
def buildWhisperMessage (sessionState : SessionState) (sendingChain : SendingChain)
    (senderIdentityKey receiverIdentityKey paddedMessage : NSData) : WhisperMessage :=
  let messageKeys := sendingChain.chainKey.throwsMessageKeys P
  WhisperMessage.initWithVersion P sessionState.version messageKeys.macKey.val
    (prependKeyType sendingChain.senderRatchetKeyPair.publicKey.val)
    (.ofNat sendingChain.chainKey.index) sessionState.previousCounter
    (P.encryptCBC messageKeys.cipherKey messageKeys.iv paddedMessage)
    (prependKeyType senderIdentityKey) (prependKeyType receiverIdentityKey)

/-- The message `throws_encryptMessage:` returns: wrapped while the session is
unacknowledged. -/
def wrapWhisperMessage (sessionState : SessionState) (senderIdentityKey : NSData)
    (whisperMessage : WhisperMessage) : CipherMessage :=
  match sessionState.pendingPreKey with
  | none => .whisper whisperMessage
  | some items => .prekey (.initWithWhisperMessage P whisperMessage
      sessionState.localRegistrationId items.preKeyId items.signedPreKeyId
      (prependKeyType items.baseKey) (prependKeyType senderIdentityKey))

/-- `throws_encryptMessage:protocolContext:`. -/
def throwsEncryptMessage (paddedMessage : NSData) :
    Procedure Failure World CipherMessage := do
  let world ← read
  let sessionRecord := world.stores.loadSession cipher.recipientId cipher.deviceId
  let sessionState := sessionRecord.sessionState
  if world.stores.isTrustedIdentityKey cipher.recipientId world.clock
      sessionState.remoteIdentityKey .outgoing then
    let _ ← saveRemoteIdentity sessionState.remoteIdentityKey cipher.recipientId
    match sessionState.sendingChain with
    | none =>
        -- Without a chain the message keys are nil, and so is the AES key.
        raise (exception .cipherException "AES key should be 256 bits.")
    | some sendingChain => do
        let senderIdentityKey ←
          lift (assertNonNil "senderIdentityKey" sessionState.localIdentityKey)
        let receiverIdentityKey ←
          lift (assertNonNil "receiverIdentityKey" sessionState.remoteIdentityKey)
        let whisperMessage := buildWhisperMessage P sessionState sendingChain senderIdentityKey
          receiverIdentityKey paddedMessage
        let nextChainKey ← lift (sendingChain.chainKey.nextChainKey P)
        storeSession cipher.recipientId cipher.deviceId
          { sessionRecord with sessionState := sessionState.setSenderChainKey nextChainKey }
        return wrapWhisperMessage P sessionState senderIdentityKey whisperMessage
  else
    raise (exception .untrustedIdentityKeyException
      "There is a previously known identity key.")

/-! ## Trying the states of a record -/

/-- What the enumeration of the archived states found, and left. -/
structure Enumeration where
  outcome : Except Failure (Option (ℕ × NSData))
  states : List SessionState
  generated : ℕ

/-- The enumeration of the archived states in `throws_decryptWithSessionRecord:`:
it stops at the first state that decrypts the message, and collects every
exception before it. -/
def enumeratePreviousStates (whisperMessage : WhisperMessage) :
    List SessionState → ℕ → Enumeration
  | [], generated => ⟨.ok none, [], generated⟩
  | previousState :: rest, generated =>
      match (throwsDecryptWithSessionState P whisperMessage).run ⟨previousState, generated⟩ with
      | (.ok plaintext, trial) =>
          ⟨.ok (some (0, plaintext)), trial.sessionState :: rest, trial.generated⟩
      | (.error (.terminated assertion), trial) =>
          ⟨.error (.terminated assertion), trial.sessionState :: rest, trial.generated⟩
      | (.error (.raised _), trial) =>
          let enumeration := enumeratePreviousStates whisperMessage rest trial.generated
          ⟨enumeration.outcome.map (Option.map fun found => (found.1 + 1, found.2)),
            trial.sessionState :: enumeration.states, enumeration.generated⟩

/-- The end of `throws_decryptWithSessionRecord:`, when no state decrypts. -/
def throwsNoValidSession (world : World) : Failure :=
  if world.stores.containsSession cipher.recipientId cipher.deviceId then
    exception .invalidMessageException "No valid sessions"
  else
    exception .noSessionException
      ("No session for: " ++ cipher.recipientId ++ ", " ++ toString cipher.deviceId.toInt)

/-- The second half of `throws_decryptWithSessionRecord:`: the archived states,
and the promotion of the one that decrypts. -/
def throwsDecryptWithPreviousStates (sessionRecord : SessionRecord)
    (whisperMessage : WhisperMessage) : Procedure Failure World (NSData × SessionRecord) := do
  let world ← read
  let enumeration :=
    enumeratePreviousStates P whisperMessage sessionRecord.previousStates world.generated
  modify fun world => { world with generated := enumeration.generated }
  match enumeration.outcome with
  | .error failure => raise failure
  | .ok none => raise (cipher.throwsNoValidSession world)
  | .ok (some (stateToPromoteIdx, plaintext)) =>
      let sessionRecord := { sessionRecord with
        previousStates := enumeration.states.eraseIdx stateToPromoteIdx }
      return (plaintext,
        sessionRecord.promoteState (enumeration.states.getD stateToPromoteIdx .new))

/-- `throws_decryptWithSessionRecord:whisperMessage:protocolContext:`. -/
def throwsDecryptWithSessionRecord (sessionRecord : SessionRecord)
    (whisperMessage : WhisperMessage) : Procedure Failure World (NSData × SessionRecord) := do
  let world ← read
  let trial := (throwsDecryptWithSessionState P whisperMessage).run
    ⟨sessionRecord.sessionState, world.generated⟩
  let sessionRecord := { sessionRecord with sessionState := trial.2.sessionState }
  modify fun world => { world with generated := trial.2.generated }
  match trial.1 with
  | .ok plaintext => return (plaintext, sessionRecord)
  | .error (.terminated assertion) => raise (.terminated assertion)
  | .error (.raised e) =>
      if e.name = .invalidMessageException then
        cipher.throwsDecryptWithPreviousStates P sessionRecord whisperMessage
      else raise (.raised e)

/-! ## Decryption -/

/-- `throws_decryptWhisperMessage:protocolContext:`. -/
def throwsDecryptWhisperMessage (whisperMessage : WhisperMessage) :
    Procedure Failure World NSData := do
  let world ← read
  let sessionRecord := world.stores.loadSession cipher.recipientId cipher.deviceId
  let (plaintext, sessionRecord) ←
    cipher.throwsDecryptWithSessionRecord P sessionRecord whisperMessage
  let remoteIdentityKey := sessionRecord.sessionState.remoteIdentityKey
  if world.stores.isTrustedIdentityKey cipher.recipientId world.clock remoteIdentityKey
      .incoming then
    let _ ← saveRemoteIdentity remoteIdentityKey cipher.recipientId
    storeSession cipher.recipientId cipher.deviceId sessionRecord
    return plaintext
  else
    raise (exception .untrustedIdentityKeyException
      "There is a previously known identity key.")

/-- `[self.prekeyStore removePreKey:]`; a message to nil does nothing. -/
def removeUsedPreKey (unsignedPreKeyId : Int32) : Procedure Failure World Unit :=
  if 0 ≤ unsignedPreKeyId then
    match cipher.prekeyStore with
    | some prekeyStore => prekeyStore.removePreKey unsignedPreKeyId
    | none => return ()
  else return ()

def throwsDecryptPreKeyWhisperMessage (preKeyWhisperMessage : PreKeyWhisperMessage) :
    Procedure Failure World NSData := do
  let world ← read
  let sessionRecord := world.stores.loadSession cipher.recipientId cipher.deviceId
  let (unsignedPreKeyId, sessionRecord) ←
    cipher.sessionBuilder.throwsProcessPrekeyWhisperMessage P preKeyWhisperMessage sessionRecord
  let (plaintext, sessionRecord) ←
    cipher.throwsDecryptWithSessionRecord P sessionRecord preKeyWhisperMessage.message
  storeSession cipher.recipientId cipher.deviceId sessionRecord
  cipher.removeUsedPreKey unsignedPreKeyId
  return plaintext

/-- `throws_decrypt:protocolContext:`. -/
def throwsDecrypt : CipherMessage → Procedure Failure World NSData
  | .whisper whisperMessage => cipher.throwsDecryptWhisperMessage P whisperMessage
  | .prekey preKeyWhisperMessage =>
      cipher.throwsDecryptPreKeyWhisperMessage P preKeyWhisperMessage

/-! ## Encryption, peeled -/

variable {P cipher} {whisperMessage : WhisperMessage} {world world' : World} {plaintext : NSData}

/-- **What sending can do.**  It raises, with at most the identity saved, or it
sends on the current chain and stores the chain one step on. -/
theorem throwsEncryptMessage_cases (cipher : SessionCipher) (paddedMessage : NSData)
    (world : World) :
    (∃ e, (cipher.throwsEncryptMessage P paddedMessage).run world = (.error e, world)) ∨
    (∃ e, (cipher.throwsEncryptMessage P paddedMessage).run world =
      (.error e, { world with
        stores := (world.stores.saveRemoteIdentity cipher.recipientId world.clock
          (world.stores.loadSession cipher.recipientId
            cipher.deviceId).sessionState.remoteIdentityKey).2 })) ∨
    (∃ sessionRecord sendingChain senderIdentityKey receiverIdentityKey nextChainKey,
      sessionRecord = world.stores.loadSession cipher.recipientId cipher.deviceId ∧
      sessionRecord.sessionState.sendingChain = some sendingChain ∧
      sessionRecord.sessionState.localIdentityKey = some senderIdentityKey ∧
      sessionRecord.sessionState.remoteIdentityKey = some receiverIdentityKey ∧
      sendingChain.chainKey.nextChainKey P = .ok nextChainKey ∧
      (cipher.throwsEncryptMessage P paddedMessage).run world =
        (.ok (wrapWhisperMessage P sessionRecord.sessionState senderIdentityKey
            (buildWhisperMessage P sessionRecord.sessionState sendingChain senderIdentityKey
              receiverIdentityKey paddedMessage)),
          { world with
            stores := (world.stores.saveRemoteIdentity cipher.recipientId world.clock
              (some receiverIdentityKey)).2.storeSession cipher.recipientId cipher.deviceId
                { sessionRecord with
                  sessionState := sessionRecord.sessionState.setSenderChainKey
                    nextChainKey } })) := by
  unfold throwsEncryptMessage
  simp only [run_read_bind]
  by_cases htrusted : world.stores.isTrustedIdentityKey cipher.recipientId world.clock
      (world.stores.loadSession cipher.recipientId
        cipher.deviceId).sessionState.remoteIdentityKey .outgoing = true
  case neg => exact .inl ⟨_, by rw [if_neg htrusted]; rfl⟩
  rw [if_pos htrusted, run_saveRemoteIdentity_bind]
  -- The identity is saved before anything else is looked at.
  refine .inr ?_
  generalize hrecord : world.stores.loadSession cipher.recipientId cipher.deviceId =
    sessionRecord
  cases hsending : sessionRecord.sessionState.sendingChain with
  | none => exact .inl ⟨_, rfl⟩
  | some sendingChain =>
  cases hlocal : sessionRecord.sessionState.localIdentityKey with
  | none => exact .inl ⟨_, rfl⟩
  | some senderIdentityKey =>
  cases hremote : sessionRecord.sessionState.remoteIdentityKey with
  | none => exact .inl ⟨_, rfl⟩
  | some receiverIdentityKey =>
  simp only [assertNonNil, run_lift_ok_bind]
  cases hnext : sendingChain.chainKey.nextChainKey P with
  | error e => exact .inl ⟨e, rfl⟩
  | ok nextChainKey =>
      exact .inr ⟨sessionRecord, sendingChain, senderIdentityKey, receiverIdentityKey,
        nextChainKey, rfl, hsending, hlocal, hremote, hnext, rfl⟩

theorem run_throwsEncryptMessage_of_sendingChain (cipher : SessionCipher)
    (paddedMessage : NSData) {world : World}
    {sessionRecord : SessionRecord} {sendingChain : SendingChain}
    {senderIdentityKey receiverIdentityKey : NSData} {nextChainKey : ChainKey}
    (hrecord : world.stores.loadSession cipher.recipientId cipher.deviceId = sessionRecord)
    (hlocal : sessionRecord.sessionState.localIdentityKey = some senderIdentityKey)
    (hremote : sessionRecord.sessionState.remoteIdentityKey = some receiverIdentityKey)
    (htrusted : world.stores.isTrustedIdentityKey cipher.recipientId world.clock
      (some receiverIdentityKey) .outgoing = true)
    (hsending : sessionRecord.sessionState.sendingChain = some sendingChain)
    (hnext : sendingChain.chainKey.nextChainKey P = .ok nextChainKey) :
    ∃ world', (cipher.throwsEncryptMessage P paddedMessage).run world =
      (.ok (wrapWhisperMessage P sessionRecord.sessionState senderIdentityKey
        (buildWhisperMessage P sessionRecord.sessionState sendingChain senderIdentityKey
          receiverIdentityKey paddedMessage)), world') := by
  simp only [throwsEncryptMessage, run_read_bind, hrecord, hremote, htrusted, if_true,
    run_saveRemoteIdentity_bind, hsending, hlocal, assertNonNil, run_lift_ok_bind, hnext,
    run_storeSession_bind, run_pure]
  exact ⟨_, rfl⟩

/-! ## Decryption, peeled -/

/-- States that were tried in turn, each rejecting the message with an exception:
as they were, and as their trials left them. -/
inductive Rejected (P : Primitives) (whisperMessage : WhisperMessage) :
    List SessionState → ℕ → List SessionState → ℕ → Prop
  | nil (generated : ℕ) : Rejected P whisperMessage [] generated [] generated
  | cons {s s' : SessionState} {rest rest' : List SessionState}
      {generated generated₁ generated₂ : ℕ} {e : NSException}
      (hrun : (throwsDecryptWithSessionState P whisperMessage).run ⟨s, generated⟩ =
        (.error (.raised e), ⟨s', generated₁⟩))
      (hrest : Rejected P whisperMessage rest generated₁ rest' generated₂) :
      Rejected P whisperMessage (s :: rest) generated (s' :: rest') generated₂

theorem Rejected.length_eq {states states' : List SessionState} {generated generated' : ℕ}
    (h : Rejected P whisperMessage states generated states' generated') :
    states'.length = states.length := by
  induction h with
  | nil generated => rfl
  | cons hrun hrest ih => simp [ih]

/-- The record after the state behind `rejected` has decrypted. -/
def decryptedRecord (sessionRecord : SessionRecord) (rejected : List SessionState)
    (s' : SessionState) (untried : List SessionState) : SessionRecord where
  fresh := sessionRecord.fresh
  sessionState := s'
  previousStates := match rejected with
    | [] => untried
    | _ :: _ => (rejected ++ untried).take SessionRecord.archivedStatesMaxLength

/-- A record that fits its bound keeps every state. -/
theorem decryptedRecord_states {sessionRecord : SessionRecord}
    {tried rejected untried : List SessionState} {s : SessionState} (s' : SessionState)
    (hlength : sessionRecord.previousStates.length ≤ SessionRecord.archivedStatesMaxLength)
    (hstates : sessionRecord.states = tried ++ s :: untried)
    (hrejected : rejected.length = tried.length) :
    (decryptedRecord sessionRecord rejected s' untried).states = s' :: (rejected ++ untried) := by
  have hcount : sessionRecord.previousStates.length = tried.length + untried.length := by
    have := congrArg List.length hstates
    simp only [SessionRecord.states, List.length_cons, List.length_append] at this
    omega
  cases rejected with
  | nil => rfl
  | cons first rest =>
      simp only [decryptedRecord, SessionRecord.states, List.cons.injEq, true_and]
      rw [List.take_of_length_le]
      rw [List.length_append, hrejected]
      omega

/-- How a record decrypts: the states before the hit reject the message, the hit
opens it, the states after it are not tried. -/
inductive RecordDecryption (P : Primitives) (whisperMessage : WhisperMessage)
    (sessionRecord : SessionRecord) (generated : ℕ) (plaintext : NSData) :
    SessionRecord → ℕ → Prop
  | mk {tried rejected untried : List SessionState} {s s' : SessionState}
      {generated₁ generated₂ : ℕ}
      (hstates : sessionRecord.states = tried ++ s :: untried)
      (hrejected : Rejected P whisperMessage tried generated rejected generated₁)
      (hrun : (throwsDecryptWithSessionState P whisperMessage).run ⟨s, generated₁⟩ =
        (.ok plaintext, ⟨s', generated₂⟩)) :
      RecordDecryption P whisperMessage sessionRecord generated plaintext
        (decryptedRecord sessionRecord rejected s' untried) generated₂

/-- What the enumeration finds is the first archived state that decrypts. -/
theorem enumeratePreviousStates_found {states : List SessionState} {generated idx : ℕ}
    (h : (enumeratePreviousStates P whisperMessage states generated).outcome =
      .ok (some (idx, plaintext))) :
    ∃ tried rejected untried s s' generated₁,
      states = tried ++ s :: untried ∧
      Rejected P whisperMessage tried generated rejected generated₁ ∧
      (throwsDecryptWithSessionState P whisperMessage).run ⟨s, generated₁⟩ =
        (.ok plaintext,
          ⟨s', (enumeratePreviousStates P whisperMessage states generated).generated⟩) ∧
      (enumeratePreviousStates P whisperMessage states generated).states =
        rejected ++ s' :: untried ∧
      idx = rejected.length := by
  induction states generalizing generated idx with
  | nil => simp [enumeratePreviousStates] at h
  | cons state rest ih =>
      rcases hrun : (throwsDecryptWithSessionState P whisperMessage).run ⟨state, generated⟩ with
        ⟨⟨e | assertion⟩ | found, trial⟩
      · -- This state rejects the message; the hit is further on.
        simp only [enumeratePreviousStates, hrun] at h ⊢
        cases hrest : (enumeratePreviousStates P whisperMessage rest trial.generated).outcome with
        | error failure => simp [hrest, Except.map] at h
        | ok hit =>
            cases hit with
            | none => simp [hrest, Except.map] at h
            | some hit =>
                obtain ⟨i, found⟩ := hit
                simp only [hrest, Except.map, Option.map_some, Except.ok.injEq,
                  Option.some.injEq, Prod.mk.injEq] at h
                obtain ⟨rfl, rfl⟩ := h
                obtain ⟨tried, rejected, untried, s, s', generated₁, hstates, hrejected, hhit,
                  hleft, hidx⟩ := ih hrest
                refine ⟨state :: tried, trial.sessionState :: rejected, untried, s, s',
                  generated₁, by rw [hstates]; rfl, .cons hrun hrejected, hhit, ?_, ?_⟩
                · rw [hleft]
                  rfl
                · simp [hidx]
      · simp [enumeratePreviousStates, hrun] at h
      · simp only [enumeratePreviousStates, hrun, Except.ok.injEq, Option.some.injEq,
          Prod.mk.injEq] at h ⊢
        obtain ⟨rfl, rfl⟩ := h
        exact ⟨[], [], rest, state, trial.sessionState, generated, rfl, .nil _, hrun, rfl, rfl⟩

theorem throwsDecryptWithSessionRecord_world (cipher : SessionCipher)
    (sessionRecord : SessionRecord) (whisperMessage : WhisperMessage) (world : World) :
    ∃ generated, ((cipher.throwsDecryptWithSessionRecord P sessionRecord whisperMessage).run
      world).2 = { world with generated := generated } := by
  unfold throwsDecryptWithSessionRecord
  simp only [run_read_bind, run_modify_bind]
  split
  · exact ⟨_, rfl⟩
  · exact ⟨_, rfl⟩
  · rw [run_ite]
    split
    · simp only [throwsDecryptWithPreviousStates, run_read_bind, run_modify_bind]
      split
      · exact ⟨_, rfl⟩
      · exact ⟨_, rfl⟩
      · exact ⟨_, rfl⟩
    · exact ⟨_, rfl⟩

/-- **A record that decrypts, decrypts by one of its states.** -/
theorem throwsDecryptWithSessionRecord_eq_ok {sessionRecord sessionRecord' : SessionRecord}
    (h : (cipher.throwsDecryptWithSessionRecord P sessionRecord whisperMessage).run world =
      (.ok (plaintext, sessionRecord'), world')) :
    world' = { world with generated := world'.generated } ∧
      RecordDecryption P whisperMessage sessionRecord world.generated plaintext sessionRecord'
        world'.generated := by
  have hworld : world' = { world with generated := world'.generated } := by
    obtain ⟨generated, hgenerated⟩ :=
      throwsDecryptWithSessionRecord_world (P := P) cipher sessionRecord whisperMessage world
    rw [h] at hgenerated
    simp only at hgenerated
    rw [hgenerated]
  refine ⟨hworld, ?_⟩
  unfold throwsDecryptWithSessionRecord at h
  simp only [run_read_bind, run_modify_bind] at h
  rcases hrun : (throwsDecryptWithSessionState P whisperMessage).run
      ⟨sessionRecord.sessionState, world.generated⟩ with ⟨⟨e | assertion⟩ | found, trial⟩
  · simp only [hrun, run_ite] at h
    split at h
    · -- The current state rejects the message; an archived one opens it.
      simp only [throwsDecryptWithPreviousStates, run_read_bind, run_modify_bind] at h
      cases hfound : (enumeratePreviousStates P whisperMessage sessionRecord.previousStates
          trial.generated).outcome with
      | error failure => simp [hfound] at h
      | ok hit =>
          cases hit with
          | none => simp [hfound] at h
          | some hit =>
              obtain ⟨idx, found⟩ := hit
              obtain ⟨tried, rejected, untried, s, s', generated₁, hstates, hrejected, hhit,
                hleft, hidx⟩ := enumeratePreviousStates_found hfound
              simp only [hfound, run_pure, Prod.mk.injEq, Except.ok.injEq] at h
              obtain ⟨⟨rfl, rfl⟩, rfl⟩ := h
              have hdecrypted := RecordDecryption.mk
                (show sessionRecord.states =
                    (sessionRecord.sessionState :: tried) ++ s :: untried by
                  rw [SessionRecord.states, hstates]
                  rfl)
                (.cons hrun hrejected) hhit
              convert hdecrypted using 1
              have herase : (rejected ++ s' :: untried).eraseIdx rejected.length =
                  rejected ++ untried := by
                rw [List.eraseIdx_append_of_length_le le_rfl]
                simp
              have hget : (rejected ++ s' :: untried).getD rejected.length .new = s' := by
                simp [List.getD]
              subst hidx
              rw [hleft, herase, hget]
              rfl
    · simp at h
  · simp [hrun] at h
  · simp only [hrun, run_pure, Prod.mk.injEq, Except.ok.injEq] at h
    obtain ⟨⟨rfl, rfl⟩, rfl⟩ := h
    exact RecordDecryption.mk (List.nil_append _).symm (.nil _) hrun

/-- **A plain message, decrypted**: the record it leaves is stored after the
identity of the state that opened it. -/
theorem throwsDecryptWhisperMessage_eq_ok
    (h : (cipher.throwsDecryptWhisperMessage P whisperMessage).run world =
      (.ok plaintext, world')) :
    ∃ sessionRecord',
      RecordDecryption P whisperMessage
        (world.stores.loadSession cipher.recipientId cipher.deviceId) world.generated plaintext
        sessionRecord' world'.generated ∧
      world.stores.isTrustedIdentityKey cipher.recipientId world.clock
        sessionRecord'.sessionState.remoteIdentityKey .incoming = true ∧
      world' = { world with
        generated := world'.generated
        stores := (world.stores.saveRemoteIdentity cipher.recipientId world.clock
          sessionRecord'.sessionState.remoteIdentityKey).2.storeSession cipher.recipientId
            cipher.deviceId sessionRecord' } := by
  simp only [throwsDecryptWhisperMessage, run_read_bind] at h
  obtain ⟨⟨found, sessionRecord'⟩, world₁, hrecord, h⟩ := run_bind_eq_ok.mp h
  obtain ⟨hworld, hdecryption⟩ := throwsDecryptWithSessionRecord_eq_ok hrecord
  simp only [run_ite] at h
  split at h
  · rename_i htrusted
    simp only [run_saveRemoteIdentity_bind, run_storeSession_bind, run_pure, Prod.mk.injEq,
      Except.ok.injEq] at h
    obtain ⟨rfl, rfl⟩ := h
    refine ⟨sessionRecord', hdecryption, htrusted, ?_⟩
    rw [hworld]
  · simp at h

theorem throwsDecryptWhisperMessage_error {e : Failure}
    (h : (cipher.throwsDecryptWhisperMessage P whisperMessage).run world = (.error e, world')) :
    world' = { world with generated := world'.generated } := by
  simp only [throwsDecryptWhisperMessage, run_read_bind] at h
  obtain ⟨generated, hgenerated⟩ := throwsDecryptWithSessionRecord_world (P := P) cipher
    (world.stores.loadSession cipher.recipientId cipher.deviceId) whisperMessage world
  rcases run_bind_eq_error.mp h with hrecord | ⟨⟨found, sessionRecord'⟩, world₁, hrecord, h⟩
  · rw [hrecord] at hgenerated
    simp only at hgenerated
    rw [hgenerated]
  · rw [hrecord] at hgenerated
    simp only at hgenerated
    simp only [run_ite] at h
    split at h
    · simp at h
    · simp only [run_raise, Prod.mk.injEq] at h
      rw [← h.2, hgenerated]

/-- **A prekey message, decrypted**: the identity it names has been saved before
it was tried. -/
theorem throwsDecryptPreKeyWhisperMessage_eq_ok {message : PreKeyWhisperMessage}
    (h : (cipher.throwsDecryptPreKeyWhisperMessage P message).run world =
      (.ok plaintext, world')) :
    ∃ theirIdentityKey unsignedPreKeyId sessionRecord sessionRecord' world₁,
      cipher.sessionBuilder.checkPrekeyWhisperMessage P world message
        (world.stores.loadSession cipher.recipientId cipher.deviceId) =
          .ok (theirIdentityKey, unsignedPreKeyId, sessionRecord) ∧
      RecordDecryption P message.message sessionRecord world.generated plaintext sessionRecord'
        world₁.generated ∧
      world₁ = { world with
        generated := world₁.generated
        stores := (world.stores.saveRemoteIdentity cipher.sessionBuilder.recipientId world.clock
          (some theirIdentityKey)).2.storeSession cipher.recipientId cipher.deviceId
            sessionRecord' } ∧
      (cipher.removeUsedPreKey unsignedPreKeyId).run world₁ = (.ok (), world') := by
  simp only [throwsDecryptPreKeyWhisperMessage, run_read_bind] at h
  obtain ⟨⟨unsignedPreKeyId, sessionRecord⟩, world₁, hbuilder, h⟩ := run_bind_eq_ok.mp h
  rw [SessionBuilder.run_throwsProcessPrekeyWhisperMessage] at hbuilder
  cases hcheck : cipher.sessionBuilder.checkPrekeyWhisperMessage P world message
      (world.stores.loadSession cipher.recipientId cipher.deviceId) with
  | error e => simp [hcheck] at hbuilder
  | ok checked =>
      obtain ⟨theirIdentityKey, result⟩ := checked
      simp only [hcheck, Prod.mk.injEq, Except.ok.injEq] at hbuilder
      obtain ⟨rfl, rfl⟩ := hbuilder
      obtain ⟨⟨found, sessionRecord'⟩, world₂, hrecord, h⟩ := run_bind_eq_ok.mp h
      obtain ⟨hworld, hdecryption⟩ := throwsDecryptWithSessionRecord_eq_ok hrecord
      rw [run_storeSession_bind] at h
      obtain ⟨⟨⟩, world₃, hremove, h⟩ := run_bind_eq_ok.mp h
      simp only [run_pure, Prod.mk.injEq, Except.ok.injEq] at h
      obtain ⟨rfl, rfl⟩ := h
      refine ⟨theirIdentityKey, unsignedPreKeyId, sessionRecord, sessionRecord',
        { world₂ with
          stores := world₂.stores.storeSession cipher.recipientId cipher.deviceId
            sessionRecord' }, rfl, hdecryption, ?_, hremove⟩
      rw [hworld]

theorem removeUsedPreKey_ok (cipher : SessionCipher) (unsignedPreKeyId : Int32) (world : World) :
    ((cipher.removeUsedPreKey unsignedPreKeyId).run world).1 = .ok () := by
  unfold removeUsedPreKey
  rw [run_ite]
  split
  · cases cipher.prekeyStore with
    | none => rfl
    | some prekeyStore =>
        cases prekeyStore
        rfl
  · rfl

/-- **A prekey message that is not decrypted**: the builder refused it and
nothing is written, or the identity it names has been saved. -/
theorem throwsDecryptPreKeyWhisperMessage_error {message : PreKeyWhisperMessage} {e : Failure}
    (h : (cipher.throwsDecryptPreKeyWhisperMessage P message).run world = (.error e, world')) :
    (cipher.sessionBuilder.checkPrekeyWhisperMessage P world message
        (world.stores.loadSession cipher.recipientId cipher.deviceId) = .error e ∧
      world' = world) ∨
    (∃ theirIdentityKey result,
      cipher.sessionBuilder.checkPrekeyWhisperMessage P world message
        (world.stores.loadSession cipher.recipientId cipher.deviceId) =
          .ok (theirIdentityKey, result) ∧
      world' = { world with
        generated := world'.generated
        stores := (world.stores.saveRemoteIdentity cipher.sessionBuilder.recipientId world.clock
          (some theirIdentityKey)).2 }) := by
  simp only [throwsDecryptPreKeyWhisperMessage, run_read_bind] at h
  have hbuilder := SessionBuilder.run_throwsProcessPrekeyWhisperMessage (P := P)
    cipher.sessionBuilder world message
    (world.stores.loadSession cipher.recipientId cipher.deviceId)
  cases hcheck : cipher.sessionBuilder.checkPrekeyWhisperMessage P world message
      (world.stores.loadSession cipher.recipientId cipher.deviceId) with
  | error failure =>
      simp only [hcheck] at hbuilder
      rw [run_bind_of_error hbuilder] at h
      simp only [Prod.mk.injEq, Except.error.injEq] at h
      exact .inl ⟨by rw [h.1], h.2.symm⟩
  | ok checked =>
      obtain ⟨theirIdentityKey, result⟩ := checked
      simp only [hcheck] at hbuilder
      rw [run_bind_of_ok hbuilder] at h
      refine .inr ⟨theirIdentityKey, result, rfl, ?_⟩
      obtain ⟨generated, hgenerated⟩ := throwsDecryptWithSessionRecord_world (P := P) cipher
        result.2 message.message { world with
          stores := (world.stores.saveRemoteIdentity cipher.sessionBuilder.recipientId world.clock
            (some theirIdentityKey)).2 }
      rcases run_bind_eq_error.mp h with hrecord | ⟨decrypted, world₁, hrecord, h⟩
      · rw [hrecord] at hgenerated
        simp only at hgenerated
        rw [hgenerated]
      · -- After the decryption nothing fails.
        rw [run_storeSession_bind] at h
        rcases run_bind_eq_error.mp h with hremove | ⟨⟨⟩, world₂, -, h⟩
        · have := removeUsedPreKey_ok cipher result.1
            { world₁ with
              stores := world₁.stores.storeSession cipher.recipientId cipher.deviceId
                decrypted.2 }
          rw [hremove] at this
          simp at this
        · simp at h

end SessionCipher

end ObjcSwiftLearning.AxolotlKit
