import ObjcSwiftLearning.AxolotlKit.SessionCipher
import ObjcSwiftLearning.AxolotlKit.TrialEffects
import ObjcSwiftLearning.Library.LabelledRun

/-!
# Runs of one party

A party processes bundles, sends and decrypts, for one recipient and device, in
any order and with any arguments; a call may succeed or raise.  In between,
anything may happen to the rest of the database and to the clock
(`Event.elsewhere`).  A failed assertion ends the process, and with it the run.

* `Party.Step` — the transition relation.
* `StatesStep` — what a step can do to the states of the session record, one
  constructor for each way, and `Step.statesStep` — **nothing else happens**.
  Every invariant of a session record is proved from it.
* `Party.Settled` — what `storeSession` keeps of a stored record.
-/

namespace ObjcSwiftLearning.AxolotlKit

open SignalServiceKit Procedure

/-! ## The system -/

/-- A party's objects for one recipient and device. -/
structure Party where
  preKeyStore : PreKeyStore
  recipientId : String
  deviceId : Int32

/-- A call of one of the three methods. -/
inductive Operation where
  | processPrekeyBundle (preKeyBundle : PreKeyBundle)
  | encryptMessage (paddedMessage : NSData)
  | decrypt (cipherMessage : CipherMessage)

/-- A step of a run: a call that returned, a call that raised, or something
else. -/
inductive Event where
  | processedPrekeyBundle (preKeyBundle : PreKeyBundle)
  | encrypted (paddedMessage : NSData) (cipherMessage : CipherMessage)
  | decrypted (cipherMessage : CipherMessage) (plaintext : NSData)
  | raised (operation : Operation) (exception : NSException)
  | elsewhere

namespace Party

variable (P : Primitives) (party : Party)

/-- The party's `SessionBuilder`. -/
def builder : SessionBuilder :=
  .initWithSessionStore party.preKeyStore party.recipientId party.deviceId

/-- The party's `SessionCipher`. -/
def cipher : SessionCipher :=
  .initWithSessionStore party.preKeyStore party.recipientId party.deviceId

/-- The record a call loads. -/
def record (world : World) : SessionRecord :=
  world.stores.loadSession party.recipientId party.deviceId

/-- The steps; a bundle that is processed is one of the party's device. -/
inductive Step : World → Event → World → Prop
  | processPrekeyBundle {world world' : World} {preKeyBundle : PreKeyBundle}
      (hdevice : preKeyBundle.deviceId = party.deviceId)
      (hrun : (party.builder.throwsProcessPrekeyBundle P preKeyBundle).run world =
        (.ok (), world')) :
      Step world (.processedPrekeyBundle preKeyBundle) world'
  | processPrekeyBundleRaised {world world' : World} {preKeyBundle : PreKeyBundle}
      {e : NSException}
      (hrun : (party.builder.throwsProcessPrekeyBundle P preKeyBundle).run world =
        (.error (.raised e), world')) :
      Step world (.raised (.processPrekeyBundle preKeyBundle) e) world'
  | encryptMessage {world world' : World} {paddedMessage : NSData}
      {cipherMessage : CipherMessage}
      (hrun : (party.cipher.throwsEncryptMessage P paddedMessage).run world =
        (.ok cipherMessage, world')) :
      Step world (.encrypted paddedMessage cipherMessage) world'
  | encryptMessageRaised {world world' : World} {paddedMessage : NSData} {e : NSException}
      (hrun : (party.cipher.throwsEncryptMessage P paddedMessage).run world =
        (.error (.raised e), world')) :
      Step world (.raised (.encryptMessage paddedMessage) e) world'
  | decrypt {world world' : World} {cipherMessage : CipherMessage} {plaintext : NSData}
      (hrun : (party.cipher.throwsDecrypt P cipherMessage).run world = (.ok plaintext, world')) :
      Step world (.decrypted cipherMessage plaintext) world'
  | decryptRaised {world world' : World} {cipherMessage : CipherMessage} {e : NSException}
      (hrun : (party.cipher.throwsDecrypt P cipherMessage).run world =
        (.error (.raised e), world')) :
      Step world (.raised (.decrypt cipherMessage) e) world'
  /-- The rest of the program: it leaves the record alone. -/
  | elsewhere {world world' : World}
      (hrecord : world'.stores.sessions party.recipientId party.deviceId =
        world.stores.sessions party.recipientId party.deviceId)
      (hgenerated : world.generated ≤ world'.generated) :
      Step world .elsewhere world'

/-- The record a message is tried on: the one stored, or for a prekey message
the one the builder makes of it. -/
def triedRecord (world : World) : CipherMessage → Option SessionRecord
  | .whisper _ => some (party.record world)
  | .prekey message =>
      match party.builder.checkPrekeyWhisperMessage P world message (party.record world) with
      | .ok (_, _, sessionRecord) => some sessionRecord
      | .error _ => none

def triedStates (world : World) (cipherMessage : CipherMessage) : List SessionState :=
  (party.triedRecord P world cipherMessage).elim [] (·.states)

/-- What `storeSession` keeps: stored records are not fresh and fit their
bound. -/
def Settled (world : World) : Prop :=
  ∀ sessionRecord, world.stores.sessions party.recipientId party.deviceId = some sessionRecord →
    sessionRecord.fresh = false ∧
      sessionRecord.previousStates.length ≤ SessionRecord.archivedStatesMaxLength

/-- No session yet. -/
def Initial (world : World) : Prop :=
  world.stores.sessions party.recipientId party.deviceId = none

end Party

/-! ## What a step does to the states -/

/-- A step that leaves the current session alone. -/
def Event.IsQuiet : Event → Prop
  | .raised _ _ => True
  | .elsewhere => True
  | _ => False

def openedSession (stores : Stores) (message : PreKeyWhisperMessage)
    (params : BobAxolotlParameters) (session : SessionState) : SessionState :=
  { session with
    localRegistrationId := stores.localRegistrationId
    remoteRegistrationId := message.registrationId
    aliceBaseKey := some params.theirBaseKey }

/-- **What a step can do to the states of the record**: states in trial order,
and the number of generated key pairs. -/
inductive StatesStep (P : Primitives) (party : Party) (world : World) :
    Event → List SessionState → ℕ → Prop
  | kept {event : Event} {generated' : ℕ} (hquiet : event.IsQuiet)
      (hgenerated : world.generated ≤ generated') :
      StatesStep P party world event (party.record world).states generated'
  | archived {event : Event} {generated' : ℕ} {kept : List SessionState} (hquiet : event.IsQuiet)
      (hgenerated : world.generated ≤ generated')
      (hkept : kept.Sublist (party.record world).states) :
      StatesStep P party world event (.new :: kept) generated'
  | processedPrekeyBundle {preKeyBundle : PreKeyBundle} {params : AliceAxolotlParameters}
      {session : SessionState} {kept : List SessionState}
      (hparams : SessionBuilder.BundleParameters P party.recipientId world preKeyBundle params)
      (hsession : RatchetingSession.throwsInitializeSessionAlice P .new currentVersion params
        (P.generatedKeyPair (world.generated + 1)) = .ok session)
      (hkept : kept.Sublist (party.record world).states) :
      StatesStep P party world (.processedPrekeyBundle preKeyBundle)
        (SessionBuilder.bundleSession world preKeyBundle params session :: kept)
        (world.generated + 2)
  | encrypted {paddedMessage senderIdentityKey receiverIdentityKey : NSData} {s : SessionState}
      {archived : List SessionState} {sendingChain : SendingChain} {nextChainKey : ChainKey}
      (hstates : (party.record world).states = s :: archived)
      (hsending : s.sendingChain = some sendingChain)
      (hnext : sendingChain.chainKey.nextChainKey P = .ok nextChainKey) :
      StatesStep P party world (.encrypted paddedMessage
        (SessionCipher.wrapWhisperMessage P s senderIdentityKey
          (SessionCipher.buildWhisperMessage P s sendingChain senderIdentityKey
            receiverIdentityKey paddedMessage)))
        (s.setSenderChainKey nextChainKey :: archived) world.generated
  | decrypted {cipherMessage : CipherMessage} {plaintext : NSData}
      {tried rejected untried : List SessionState} {s s' : SessionState}
      {generated₁ generated₂ : ℕ}
      (hstates : party.triedStates P world cipherMessage = tried ++ s :: untried)
      (hrejected : SessionCipher.Rejected P cipherMessage.whisperMessage tried world.generated
        rejected generated₁)
      (hrun : (throwsDecryptWithSessionState P cipherMessage.whisperMessage).run
        ⟨s, generated₁⟩ = (.ok plaintext, ⟨s', generated₂⟩)) :
      StatesStep P party world (.decrypted cipherMessage plaintext)
        (s' :: (rejected ++ untried)) generated₂

variable {P : Primitives} {party : Party} {world world' : World} {whisperMessage : WhisperMessage}

/-! ### Records that are loaded -/

namespace Party

/-- A record that is loaded fresh is a new one. -/
theorem Settled.eq_new (settled : party.Settled world)
    (hfresh : (party.record world).fresh = true) : party.record world = .new := by
  unfold record Stores.loadSession at hfresh ⊢
  cases hrecord : world.stores.sessions party.recipientId party.deviceId with
  | none => rfl
  | some sessionRecord =>
      simp [hrecord, (settled sessionRecord hrecord).1] at hfresh

theorem Settled.length_previousStates (settled : party.Settled world) :
    (party.record world).previousStates.length ≤ SessionRecord.archivedStatesMaxLength := by
  unfold record Stores.loadSession
  cases hrecord : world.stores.sessions party.recipientId party.deviceId with
  | none => exact Nat.zero_le _
  | some sessionRecord => exact (settled sessionRecord hrecord).2

/-- A new session starts from an empty state, in front of states of the record. -/
theorem Settled.archiveUnlessFresh (settled : party.Settled world) :
    (party.record world).archiveUnlessFresh.sessionState = .new ∧
      (party.record world).archiveUnlessFresh.previousStates.Sublist (party.record world).states ∧
      (party.record world).archiveUnlessFresh.previousStates.length ≤
        SessionRecord.archivedStatesMaxLength := by
  unfold SessionRecord.archiveUnlessFresh
  cases hfresh : (party.record world).fresh with
  | true =>
      rw [settled.eq_new hfresh]
      exact ⟨rfl, List.nil_sublist _, Nat.zero_le _⟩
  | false =>
      exact ⟨rfl, List.take_sublist _ _, by
        simp [SessionRecord.archiveCurrentState, SessionRecord.promoteState]⟩

theorem settled_of_sessions_eq_some {sessionRecord : SessionRecord}
    (h : world.stores.sessions party.recipientId party.deviceId = some sessionRecord)
    (hfresh : sessionRecord.fresh = false)
    (hlength : sessionRecord.previousStates.length ≤ SessionRecord.archivedStatesMaxLength) :
    party.Settled world := by
  intro found hfound
  obtain rfl : sessionRecord = found := Option.some.inj (h.symm.trans hfound)
  exact ⟨hfresh, hlength⟩

theorem Initial.settled (h : party.Initial world) : party.Settled world := by
  intro sessionRecord hrecord
  rw [Initial] at h
  simp [h] at hrecord

theorem Initial.record_eq (h : party.Initial world) : party.record world = .new := by
  rw [Initial] at h
  simp [record, Stores.loadSession, h]

theorem record_storeSession (stores : Stores) (clock : ℤ) (generated : ℕ)
    (sessionRecord : SessionRecord) :
    (party.record ⟨stores.storeSession party.recipientId party.deviceId sessionRecord, clock,
      generated⟩).states = sessionRecord.states := by
  simp [record]

theorem settled_storeSession (stores : Stores) (clock : ℤ) (generated : ℕ)
    {sessionRecord : SessionRecord}
    (hlength : sessionRecord.previousStates.length ≤ SessionRecord.archivedStatesMaxLength) :
    party.Settled ⟨stores.storeSession party.recipientId party.deviceId sessionRecord, clock,
      generated⟩ :=
  settled_of_sessions_eq_some (Stores.sessions_storeSession _) rfl hlength

theorem record_saveRemoteIdentity (settled : party.Settled world) (identityKey : Option NSData)
    (generated : ℕ) :
    party.Settled { world with
        generated
        stores := (world.stores.saveRemoteIdentity party.recipientId world.clock identityKey).2 } ∧
      ((party.record { world with
          generated
          stores := (world.stores.saveRemoteIdentity party.recipientId world.clock
            identityKey).2 }).states = (party.record world).states ∨
        ∃ kept, kept.Sublist (party.record world).states ∧
          (party.record { world with
            generated
            stores := (world.stores.saveRemoteIdentity party.recipientId world.clock
              identityKey).2 }).states = .new :: kept) := by
  have hsessions :=
    world.stores.sessions_saveRemoteIdentity party.recipientId world.clock identityKey
  unfold Settled record Stores.loadSession
  dsimp only
  rw [hsessions]
  split
  · rw [Stores.sessions_archiveAllSessionsForContact]
    cases hrecord : world.stores.sessions party.recipientId party.deviceId with
    | none => exact ⟨by simp, .inl rfl⟩
    | some sessionRecord =>
        refine ⟨?_, .inr ⟨_, List.take_sublist _ _, rfl⟩⟩
        intro found hfound
        obtain rfl := Option.some.inj hfound
        exact ⟨(settled _ hrecord).1, by
          simp [SessionRecord.archiveCurrentState, SessionRecord.promoteState]⟩
  · exact ⟨settled, .inl rfl⟩

end Party

/-! ### Key pairs are only ever generated -/

theorem generated_le_of_rejected {tried rejected : List SessionState} {generated generated' : ℕ}
    (h : SessionCipher.Rejected P whisperMessage tried generated rejected generated') :
    generated ≤ generated' := by
  induction h with
  | nil generated => exact le_rfl
  | cons hrun hrest ih =>
      have hstep := (trialOutcome_of_run hrun).sendingChainStep (by simp [Survives])
      obtain ⟨-, -, rfl⟩ | ⟨-, -, -, rfl⟩ := hstep
      · exact ih
      · omega

/-- A trial in which the process goes on generates at most one key pair. -/
theorem generated_le_of_run {s s' : SessionState} {generated generated' : ℕ}
    {result : Except Failure NSData}
    (hrun : (throwsDecryptWithSessionState P whisperMessage).run ⟨s, generated⟩ =
      (result, ⟨s', generated'⟩)) (survives : Survives result) : generated ≤ generated' := by
  obtain ⟨-, -, rfl⟩ | ⟨-, -, -, rfl⟩ := (trialOutcome_of_run hrun).sendingChainStep survives
  · exact le_rfl
  · omega

theorem generated_le_enumeratePreviousStates {whisperMessage : WhisperMessage}
    (states : List SessionState) (generated : ℕ)
    (survives : Survives
      (SessionCipher.enumeratePreviousStates P whisperMessage states generated).outcome) :
    generated ≤
      (SessionCipher.enumeratePreviousStates P whisperMessage states generated).generated := by
  induction states generalizing generated with
  | nil => exact le_rfl
  | cons state rest ih =>
      rcases hrun : (throwsDecryptWithSessionState P whisperMessage).run ⟨state, generated⟩ with
        ⟨⟨e | assertion⟩ | found, trial⟩
      · simp only [SessionCipher.enumeratePreviousStates, hrun] at survives ⊢
        refine (generated_le_of_run hrun (by simp [Survives])).trans (ih _ ?_)
        intro assertion hterminated
        exact survives assertion (by rw [hterminated]; rfl)
      · simp only [SessionCipher.enumeratePreviousStates, hrun] at survives
        exact absurd rfl (survives assertion)
      · simp only [SessionCipher.enumeratePreviousStates, hrun]
        exact generated_le_of_run hrun (by simp [Survives])

theorem generated_le_throwsDecryptWithSessionRecord {cipher : SessionCipher}
    {sessionRecord : SessionRecord} {result : Except Failure (NSData × SessionRecord)}
    (h : (cipher.throwsDecryptWithSessionRecord P sessionRecord whisperMessage).run world =
      (result, world')) (survives : Survives result) : world.generated ≤ world'.generated := by
  unfold SessionCipher.throwsDecryptWithSessionRecord at h
  simp only [run_read_bind, run_modify_bind] at h
  rcases hrun : (throwsDecryptWithSessionState P whisperMessage).run
      ⟨sessionRecord.sessionState, world.generated⟩ with ⟨⟨e | assertion⟩ | found, trial⟩
  · have hfirst := generated_le_of_run hrun (by simp [Survives])
    simp only [hrun, run_ite] at h
    split at h
    · simp only [SessionCipher.throwsDecryptWithPreviousStates, run_read_bind,
        run_modify_bind] at h
      have hrest : ∀ survives, trial.generated ≤ _ :=
        @generated_le_enumeratePreviousStates P whisperMessage sessionRecord.previousStates
          trial.generated
      split at h
      · rename_i failure houtcome
        simp only [run_raise, Prod.mk.injEq] at h
        obtain ⟨rfl, rfl⟩ := h
        refine hfirst.trans (hrest fun assertion hterminated => survives assertion ?_)
        rw [houtcome] at hterminated
        rw [Except.error.inj hterminated]
      · rename_i houtcome
        simp only [run_raise, Prod.mk.injEq] at h
        obtain ⟨rfl, rfl⟩ := h
        exact hfirst.trans (hrest (by simp [Survives, houtcome]))
      · rename_i houtcome
        simp only [run_pure, Prod.mk.injEq] at h
        obtain ⟨rfl, rfl⟩ := h
        exact hfirst.trans (hrest (by simp [Survives, houtcome]))
    · simp only [run_raise, Prod.mk.injEq] at h
      obtain ⟨rfl, rfl⟩ := h
      exact hfirst
  · simp only [hrun, run_raise, Prod.mk.injEq] at h
    exact absurd h.1.symm (survives assertion)
  · simp only [hrun, run_pure, Prod.mk.injEq] at h
    obtain ⟨rfl, rfl⟩ := h
    exact generated_le_of_run hrun (by simp [Survives])

theorem generated_le_throwsDecrypt_raised {cipherMessage : CipherMessage} {e : NSException}
    (h : (party.cipher.throwsDecrypt P cipherMessage).run world =
      (.error (.raised e), world')) :
    world.generated ≤ world'.generated := by
  cases cipherMessage with
  | whisper whisperMessage =>
      simp only [SessionCipher.throwsDecrypt, SessionCipher.throwsDecryptWhisperMessage,
        run_read_bind] at h
      rcases run_bind_eq_error.mp h with hrecord | ⟨decrypted, world₁, hrecord, h⟩
      · exact generated_le_throwsDecryptWithSessionRecord hrecord (by simp [Survives])
      · have hle := generated_le_throwsDecryptWithSessionRecord hrecord (by simp [Survives])
        simp only [run_ite] at h
        split at h
        · simp at h
        · simp only [run_raise, Prod.mk.injEq] at h
          rwa [← h.2]
  | prekey message =>
      simp only [SessionCipher.throwsDecrypt, SessionCipher.throwsDecryptPreKeyWhisperMessage,
        run_read_bind] at h
      have hbuilder := party.cipher.sessionBuilder.run_throwsProcessPrekeyWhisperMessage (P := P)
        world message (world.stores.loadSession party.cipher.recipientId party.cipher.deviceId)
      split at hbuilder
      · rw [run_bind_of_error hbuilder, Prod.mk.injEq] at h
        rw [← h.2]
      · rename_i theirIdentityKey result hcheck
        rw [run_bind_of_ok hbuilder] at h
        rcases run_bind_eq_error.mp h with hrecord | ⟨decrypted, world₁, hrecord, h⟩
        · have hle := generated_le_throwsDecryptWithSessionRecord hrecord (by simp [Survives])
          exact hle
        · rw [run_storeSession_bind] at h
          rcases run_bind_eq_error.mp h with hremove | ⟨⟨⟩, world₂, -, h⟩
          · have hok := SessionCipher.removeUsedPreKey_ok party.cipher result.1 { world₁ with
              stores := world₁.stores.storeSession party.cipher.recipientId
                party.cipher.deviceId decrypted.2 }
            rw [hremove] at hok
            simp at hok
          · simp at h

theorem StatesStep.generated_le {event : Event} {states' : List SessionState} {generated' : ℕ}
    (h : StatesStep P party world event states' generated') : world.generated ≤ generated' := by
  cases h with
  | kept hquiet hgenerated => exact hgenerated
  | archived hquiet hgenerated hkept => exact hgenerated
  | processedPrekeyBundle hparams hsession hkept => omega
  | encrypted hstates hsending hnext => exact le_rfl
  | decrypted hstates hrejected hrun =>
      exact (generated_le_of_rejected hrejected).trans
        (generated_le_of_run hrun (by simp [Survives]))

/-! ### The steps, one by one -/

namespace Party

/-- A message is tried on no states, on those of the record, or on a new one in front of them. -/
theorem triedStates_cases (settled : party.Settled world) (cipherMessage : CipherMessage) :
    party.triedStates P world cipherMessage = [] ∨
    party.triedStates P world cipherMessage = (party.record world).states ∨
    ∃ message params session kept, cipherMessage = .prekey message ∧
      SessionBuilder.PrekeyParameters party.builder world.stores message params ∧
      message.version = 3 ∧
      (party.record world).hasSessionState message.version params.theirBaseKey = false ∧
      RatchetingSession.throwsInitializeSessionBob P .new message.version params = .ok session ∧
      kept.Sublist (party.record world).states ∧
      party.triedStates P world cipherMessage =
        openedSession world.stores message params session :: kept := by
  cases cipherMessage with
  | whisper whisperMessage => exact .inr (.inl rfl)
  | prekey message =>
      simp only [triedStates, triedRecord]
      cases hcheck : party.builder.checkPrekeyWhisperMessage P world message (party.record world) with
      | error e => exact .inl rfl
      | ok checked =>
          obtain ⟨theirIdentityKey, unsignedPreKeyId, sessionRecord⟩ := checked
          obtain ⟨-, -, hversion, hprocess⟩ :=
            SessionBuilder.checkPrekeyWhisperMessage_eq_ok.mp hcheck
          obtain ⟨baseKey, hbase, ⟨hknown, hresult⟩ |
              ⟨hunknown, params, session, hparams, hsession, hresult⟩⟩ :=
            SessionBuilder.throwsProcessPrekeyV3_eq_ok.mp hprocess
          · simp only [Prod.mk.injEq] at hresult
            obtain ⟨-, rfl⟩ := hresult
            exact .inr (.inl rfl)
          · simp only [Prod.mk.injEq] at hresult
            obtain ⟨-, rfl⟩ := hresult
            obtain rfl : baseKey = params.theirBaseKey :=
              Except.ok.inj (hbase.symm.trans hparams.baseKey)
            obtain ⟨hnew, hkept, -⟩ := settled.archiveUnlessFresh
            rw [hnew] at hsession
            exact .inr (.inr ⟨message, params, session, _, rfl, hparams, hversion, hunknown, hsession,
              hkept, rfl⟩)

theorem Settled.length_triedRecord (settled : party.Settled world) {cipherMessage : CipherMessage}
    {sessionRecord : SessionRecord}
    (h : party.triedRecord P world cipherMessage = some sessionRecord) :
    sessionRecord.previousStates.length ≤ SessionRecord.archivedStatesMaxLength := by
  cases cipherMessage with
  | whisper whisperMessage =>
      obtain rfl : party.record world = sessionRecord := Option.some.inj h
      exact settled.length_previousStates
  | prekey message =>
      simp only [triedRecord] at h
      cases hcheck : party.builder.checkPrekeyWhisperMessage P world message
          (party.record world) with
      | error e => simp [hcheck] at h
      | ok checked =>
          obtain ⟨theirIdentityKey, unsignedPreKeyId, checkedRecord⟩ := checked
          obtain rfl : checkedRecord = sessionRecord := by simpa [hcheck] using h
          obtain ⟨-, -, -, hprocess⟩ := SessionBuilder.checkPrekeyWhisperMessage_eq_ok.mp hcheck
          obtain ⟨baseKey, -, ⟨-, hresult⟩ | ⟨-, params, session, -, -, hresult⟩⟩ :=
            SessionBuilder.throwsProcessPrekeyV3_eq_ok.mp hprocess
          · simp only [Prod.mk.injEq] at hresult
            obtain ⟨-, rfl⟩ := hresult
            exact settled.length_previousStates
          · simp only [Prod.mk.injEq] at hresult
            obtain ⟨-, rfl⟩ := hresult
            exact settled.archiveUnlessFresh.2.2

/-- **A decryption, over the stores**: the record that was tried decrypts, and is
stored. -/
theorem decrypt_eq_ok {cipherMessage : CipherMessage} {plaintext : NSData}
    (h : (party.cipher.throwsDecrypt P cipherMessage).run world = (.ok plaintext, world')) :
    ∃ sessionRecord sessionRecord',
      party.triedRecord P world cipherMessage = some sessionRecord ∧
      SessionCipher.RecordDecryption P cipherMessage.whisperMessage sessionRecord
        world.generated plaintext sessionRecord' world'.generated ∧
      world'.stores.sessions party.recipientId party.deviceId =
        some sessionRecord'.markAsUnFresh := by
  cases cipherMessage with
  | whisper whisperMessage =>
      obtain ⟨sessionRecord', hdecryption, -, hworld⟩ :=
        SessionCipher.throwsDecryptWhisperMessage_eq_ok h
      refine ⟨_, sessionRecord', rfl, hdecryption, ?_⟩
      rw [hworld]
      exact Stores.sessions_storeSession _
  | prekey message =>
      obtain ⟨theirIdentityKey, unsignedPreKeyId, sessionRecord, sessionRecord', world₁, hcheck,
        hdecryption, hworld, hremove⟩ := SessionCipher.throwsDecryptPreKeyWhisperMessage_eq_ok h
      have hsame : world' = world₁ := by
        have hnone : party.cipher.prekeyStore = none := rfl
        unfold SessionCipher.removeUsedPreKey at hremove
        rw [hnone] at hremove
        split at hremove
        · exact (Prod.mk.inj hremove).2.symm
        · exact (Prod.mk.inj hremove).2.symm
      subst hsame
      have htried : party.triedRecord P world (.prekey message) = some sessionRecord := by
        simp only [triedRecord]
        rw [show party.builder.checkPrekeyWhisperMessage P world message (party.record world) =
          .ok (theirIdentityKey, unsignedPreKeyId, sessionRecord) from hcheck]
      refine ⟨sessionRecord, sessionRecord', htried, hdecryption, ?_⟩
      rw [hworld]
      exact Stores.sessions_storeSession _

/-- **A step does one of these things to the states**, and leaves the world
settled. -/
theorem Step.statesStep {event : Event} (settled : party.Settled world)
    (h : party.Step P world event world') :
    StatesStep P party world event (party.record world').states world'.generated ∧
      party.Settled world' := by
  cases h with
  | @processPrekeyBundle _ preKeyBundle hdevice hrun =>
      obtain ⟨e, generated, -, herror⟩ | ⟨params, session, hparams, hsession, hok⟩ :=
        SessionBuilder.throwsProcessPrekeyBundle_cases (P := P) party.builder preKeyBundle world
      · rw [hrun] at herror
        simp at herror
      · rw [hrun] at hok
        obtain rfl := (Prod.mk.inj hok).2
        rw [hdevice] at hsession
        obtain ⟨hnew, hkept, hlength⟩ := settled.archiveUnlessFresh
        rw [show world.stores.loadSession party.builder.recipientId party.deviceId =
          party.record world from rfl, hnew] at hsession
        rw [show party.builder.recipientId = party.recipientId from rfl,
          show party.builder.deviceId = party.deviceId from rfl, record_storeSession]
        have hrecord : ∃ kept : List SessionState, kept.Sublist (party.record world).states ∧
            kept.length ≤ SessionRecord.archivedStatesMaxLength ∧
            (SessionBuilder.bundleRecord party.recipientId world preKeyBundle params
              session).previousStates = kept ∧
            (SessionBuilder.bundleRecord party.recipientId world preKeyBundle params
              session).states =
              SessionBuilder.bundleSession world preKeyBundle params session :: kept := by
          unfold SessionBuilder.bundleRecord
          rw [hdevice]
          dsimp only
          split
          · exact ⟨[], List.nil_sublist _, Nat.zero_le _, rfl, rfl⟩
          · exact ⟨_, hkept, hlength, rfl, rfl⟩
        obtain ⟨kept, hsublist, hbound, hprevious, hstates⟩ := hrecord
        rw [hstates]
        exact ⟨.processedPrekeyBundle hparams hsession hsublist,
          settled_storeSession _ _ _ (by rwa [hprevious])⟩
  | @processPrekeyBundleRaised _ preKeyBundle e hrun =>
      obtain ⟨e, generated, hle, herror⟩ | ⟨params, session, hparams, hsession, hok⟩ :=
        SessionBuilder.throwsProcessPrekeyBundle_cases (P := P) party.builder preKeyBundle world
      · rw [hrun] at herror
        obtain rfl := (Prod.mk.inj herror).2
        exact ⟨.kept trivial hle, settled⟩
      · rw [hrun] at hok
        simp at hok
  | @encryptMessage _ paddedMessage cipherMessage hrun =>
      obtain ⟨e, herror⟩ | ⟨e, herror⟩ | ⟨sessionRecord, sendingChain, senderIdentityKey,
          receiverIdentityKey, nextChainKey, rfl, hsending, -, -, hnext, hok⟩ :=
        SessionCipher.throwsEncryptMessage_cases (P := P) party.cipher paddedMessage world
      · rw [hrun] at herror
        simp at herror
      · rw [hrun] at herror
        simp at herror
      · rw [hrun] at hok
        obtain ⟨hmessage, rfl⟩ := Prod.mk.inj hok
        obtain rfl := Except.ok.inj hmessage
        rw [show party.cipher.recipientId = party.recipientId from rfl,
          show party.cipher.deviceId = party.deviceId from rfl, record_storeSession]
        exact ⟨.encrypted rfl hsending hnext,
          settled_storeSession _ _ _ settled.length_previousStates⟩
  | @encryptMessageRaised _ paddedMessage e hrun =>
      obtain ⟨e, herror⟩ | ⟨e, herror⟩ | ⟨sessionRecord, sendingChain, senderIdentityKey,
          receiverIdentityKey, nextChainKey, rfl, hsending, -, -, hnext, hok⟩ :=
        SessionCipher.throwsEncryptMessage_cases (P := P) party.cipher paddedMessage world
      · rw [hrun] at herror
        obtain rfl := (Prod.mk.inj herror).2
        exact ⟨.kept trivial le_rfl, settled⟩
      · rw [hrun] at herror
        obtain rfl := (Prod.mk.inj herror).2
        obtain ⟨hsettled, hsame | ⟨kept, hkept, hstates⟩⟩ := record_saveRemoteIdentity settled
          (world.stores.loadSession party.cipher.recipientId
            party.cipher.deviceId).sessionState.remoteIdentityKey world.generated
        · exact ⟨hsame ▸ .kept trivial le_rfl, hsettled⟩
        · exact ⟨hstates ▸ .archived trivial le_rfl hkept, hsettled⟩
      · rw [hrun] at hok
        simp at hok
  | @decrypt _ cipherMessage plaintext hrun =>
      obtain ⟨sessionRecord, sessionRecord', htried, hdecryption, hstored⟩ := decrypt_eq_ok hrun
      have hlength := settled.length_triedRecord htried
      cases hdecryption with
      | @mk tried rejected untried s s' generated₁ generated₂ hstates hrejected hrun' =>
          have htriedStates : party.triedStates P world cipherMessage = tried ++ s :: untried := by
            rw [triedStates, htried, ← hstates]
            rfl
          have hafter := SessionCipher.decryptedRecord_states s' hlength hstates
            hrejected.length_eq
          have hrecord : (party.record world').states = s' :: (rejected ++ untried) := by
            rw [← hafter]
            simp only [record, Stores.loadSession, hstored]
            rfl
          -- As many states as before, so they still fit.
          have hbound : (SessionCipher.decryptedRecord sessionRecord rejected s'
              untried).previousStates.length ≤ SessionRecord.archivedStatesMaxLength := by
            have hbefore := congrArg List.length hstates
            have hlengths := congrArg List.length hafter
            have hrejectedLength := hrejected.length_eq
            simp only [SessionRecord.states, List.length_cons, List.length_append]
              at hbefore hlengths
            omega
          rw [hrecord]
          exact ⟨.decrypted htriedStates hrejected hrun',
            settled_of_sessions_eq_some hstored rfl hbound⟩
  | @decryptRaised _ cipherMessage e hrun =>
      have hle := generated_le_throwsDecrypt_raised hrun
      cases cipherMessage with
      | whisper whisperMessage =>
          have hworld := SessionCipher.throwsDecryptWhisperMessage_error hrun
          rw [hworld] at hle ⊢
          exact ⟨.kept trivial hle, settled⟩
      | prekey message =>
          rcases SessionCipher.throwsDecryptPreKeyWhisperMessage_error hrun with
            ⟨-, rfl⟩ | ⟨theirIdentityKey, result, -, hworld⟩
          · exact ⟨.kept trivial le_rfl, settled⟩
          · obtain ⟨hsettled, hsame | ⟨kept, hkept, hstates⟩⟩ :=
              record_saveRemoteIdentity settled (some theirIdentityKey) world'.generated
            · rw [hworld] at hle ⊢
              exact ⟨hsame ▸ .kept trivial hle, hsettled⟩
            · rw [hworld] at hle ⊢
              exact ⟨hstates ▸ .archived trivial hle hkept, hsettled⟩
  | elsewhere hrecord hgenerated =>
      have hsame : party.record world' = party.record world := by
        simp only [record, Stores.loadSession, hrecord]
      refine ⟨hsame ▸ .kept trivial hgenerated, ?_⟩
      unfold Settled
      rw [hrecord]
      exact settled

end Party

end ObjcSwiftLearning.AxolotlKit
