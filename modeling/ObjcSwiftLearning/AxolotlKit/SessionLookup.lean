import Mathlib.Data.List.Forall2
import Mathlib.Data.List.Nodup
import ObjcSwiftLearning.AxolotlKit.AdditivePrimitives
import ObjcSwiftLearning.AxolotlKit.SessionRuns

/-!
# Looking up a session by its base key

A prekey message names the base key of its session.  `hasSessionState:baseKey:`
decides whether the session is known; if it is not, the builder opens one.  Its
loop over the archived states compares the base key of the *current* state, so a
session that has been archived is not found, and a replayed first message opens
it a second time.

* `hasSessionState_iff_mem` — which lookups are answered rightly.
* `Sessions` — **the invariant**: no two states of a record have the same version
  and base key.  It is kept by every step whose lookup is answered rightly
  (`Event.LookedUp`).
* `sessionLookup_run` — what follows for a run of such steps.
* `not_sessionLookup_of_replay` — a replayed first message, for which it fails.
-/

namespace ObjcSwiftLearning.AxolotlKit

open SignalServiceKit Procedure

variable {P : Primitives}

/-! ## Session keys -/

/-- What a session is looked up by; a blank state has none. -/
def SessionState.sessionKey (s : SessionState) : Option (Int32 × NSData) :=
  s.aliceBaseKey.map (s.version, ·)

def sessionKeys (states : List SessionState) : List (Int32 × NSData) :=
  states.filterMap SessionState.sessionKey

theorem SessionState.sessionKey_eq_some {s : SessionState} {version : Int32} {baseKey : NSData} :
    s.sessionKey = some (version, baseKey) ↔
      s.version = version ∧ s.aliceBaseKey = some baseKey := by
  unfold sessionKey
  cases s.aliceBaseKey with
  | none => simp
  | some key => simp

theorem mem_sessionKeys {states : List SessionState} {version : Int32} {baseKey : NSData} :
    (version, baseKey) ∈ sessionKeys states ↔
      ∃ s ∈ states, s.version = version ∧ s.aliceBaseKey = some baseKey := by
  simp only [sessionKeys, List.mem_filterMap, SessionState.sessionKey_eq_some]

theorem SameSession.sessionKey {s s' : SessionState} (h : SameSession s s') :
    s'.sessionKey = s.sessionKey := by
  rw [SessionState.sessionKey, h.version, h.aliceBaseKey, SessionState.sessionKey]

theorem sessionKeys_of_sameSession {states states' : List SessionState}
    (h : List.Forall₂ SameSession states states') : sessionKeys states' = sessionKeys states := by
  induction h with
  | nil => rfl
  | cons hsame hrest ih =>
      simp only [sessionKeys, List.filterMap_cons, hsame.sessionKey] at ih ⊢
      rw [ih]

/-- Trials in vain change no session. -/
theorem SessionCipher.Rejected.sameSession {whisperMessage : WhisperMessage}
    {tried rejected : List SessionState} {generated generated' : ℕ}
    (h : Rejected P whisperMessage tried generated rejected generated') :
    List.Forall₂ SameSession tried rejected := by
  induction h with
  | nil generated => exact .nil
  | cons hrun hrest ih =>
      exact .cons ((trialOutcome_of_run hrun).sameSession (by simp [Survives])) ih

/-! ## The lookup -/

namespace SessionRecord

variable (record : SessionRecord) (version : Int32) (baseKey : NSData)

/-- An archived state has the base key, and the current one has another. -/
def ArchivedOnly : Prop :=
  record.sessionState.aliceBaseKey ≠ some baseKey ∧
    ∃ s ∈ record.previousStates, s.version = version ∧ s.aliceBaseKey = some baseKey

/-- The current state has the base key, an archived one the version, and none
both. -/
def Mixed : Prop :=
  record.sessionState.aliceBaseKey = some baseKey ∧
    (∃ s ∈ record.previousStates, s.version = version) ∧
    (version, baseKey) ∉ sessionKeys record.states

variable {record version baseKey}

/-- **What the lookup looks at**: the base key of the current state, and the
versions of all. -/
theorem hasSessionState_eq_true :
    record.hasSessionState version baseKey = true ↔
      record.sessionState.aliceBaseKey = some baseKey ∧
        ∃ s ∈ record.states, s.version = version := by
  have hbase : isEqualToData (some baseKey) record.sessionState.aliceBaseKey = true ↔
      record.sessionState.aliceBaseKey = some baseKey := by
    rw [isEqualToData_eq_true]
    constructor
    · rintro ⟨d, hd, hcurrent⟩
      rw [hcurrent, hd]
    · intro hcurrent
      exact ⟨baseKey, rfl, hcurrent⟩
  simp only [hasSessionState, states, Bool.or_eq_true, Bool.and_eq_true, List.any_eq_true,
    beq_iff_eq, hbase, List.mem_cons]
  constructor
  · rintro (⟨hversion, hcurrent⟩ | ⟨s, hs, hversion, hcurrent⟩)
    · exact ⟨hcurrent, _, .inl rfl, hversion⟩
    · exact ⟨hcurrent, s, .inr hs, hversion⟩
  · rintro ⟨hcurrent, s, rfl | hs, hversion⟩
    · exact .inl ⟨hversion, hcurrent⟩
    · exact .inr ⟨s, hs, hversion, hcurrent⟩

/-- **Which lookups are answered rightly.** -/
theorem hasSessionState_iff_mem :
    (record.hasSessionState version baseKey = true ↔
        (version, baseKey) ∈ sessionKeys record.states) ↔
      ¬record.ArchivedOnly version baseKey ∧ ¬record.Mixed version baseKey := by
  rw [hasSessionState_eq_true]
  constructor
  · intro hright
    constructor
    · rintro ⟨hcurrent, s, hs, hboth⟩
      exact hcurrent (hright.mpr (mem_sessionKeys.mpr ⟨s, List.mem_cons_of_mem _ hs, hboth⟩)).1
    · rintro ⟨hcurrent, ⟨s, hs, hversion⟩, hnone⟩
      exact hnone (hright.mp ⟨hcurrent, s, List.mem_cons_of_mem _ hs, hversion⟩)
  · rintro ⟨harchived, hmixed⟩
    constructor
    · rintro ⟨hcurrent, s, hs, hversion⟩
      rcases List.mem_cons.mp hs with rfl | hs
      · exact mem_sessionKeys.mpr ⟨_, List.mem_cons_self, hversion, hcurrent⟩
      · by_contra hnone
        exact hmixed ⟨hcurrent, ⟨s, hs, hversion⟩, hnone⟩
    · intro hmem
      obtain ⟨s, hs, hversion, hbase⟩ := mem_sessionKeys.mp hmem
      refine ⟨?_, s, hs, hversion⟩
      rcases List.mem_cons.mp hs with rfl | hs
      · exact hbase
      · by_contra hcurrent
        exact harchived ⟨hcurrent, s, hs, hversion, hbase⟩

theorem not_mem_sessionKeys (hunknown : record.hasSessionState version baseKey = false)
    (harchived : ¬record.ArchivedOnly version baseKey) :
    (version, baseKey) ∉ sessionKeys record.states := by
  intro hmem
  obtain ⟨s, hs, hversion, hbase⟩ := mem_sessionKeys.mp hmem
  have hcurrent : record.sessionState.aliceBaseKey ≠ some baseKey := by
    intro hcurrent
    rw [hasSessionState_eq_true.mpr ⟨hcurrent, s, hs, hversion⟩] at hunknown
    exact absurd hunknown (by simp)
  rcases List.mem_cons.mp hs with rfl | hs
  · exact hcurrent hbase
  · exact harchived ⟨hcurrent, s, hs, hversion, hbase⟩

end SessionRecord

/-! ## The invariant -/

/-- No two states of one session, and sessions of the current version only. -/
structure Sessions (states : List SessionState) : Prop where
  distinct : (sessionKeys states).Nodup
  version : ∀ key ∈ sessionKeys states, key.1 = currentVersion

namespace Sessions

variable {states states' : List SessionState} {s : SessionState}

/-- Dropping states keeps it. -/
theorem sublist (h : Sessions states) (hsub : states'.Sublist states) : Sessions states' := by
  have hkeys : (sessionKeys states').Sublist (sessionKeys states) := hsub.filterMap _
  exact ⟨h.distinct.sublist hkeys, fun key hkey => h.version key (hkeys.subset hkey)⟩

/-- So does any other order. -/
theorem perm (h : Sessions states) (hperm : states.Perm states') : Sessions states' := by
  have hkeys : (sessionKeys states).Perm (sessionKeys states') := hperm.filterMap _
  exact ⟨hkeys.nodup_iff.mp h.distinct, fun key hkey => h.version key (hkeys.mem_iff.mpr hkey)⟩

theorem sameSession (h : Sessions states) (hsame : List.Forall₂ SameSession states states') :
    Sessions states' := by
  have hkeys := sessionKeys_of_sameSession hsame
  exact ⟨hkeys ▸ h.distinct, hkeys ▸ h.version⟩

theorem cons_new (h : Sessions states) : Sessions (.new :: states) :=
  ⟨h.distinct, h.version⟩

theorem cons_session {baseKey : NSData} (h : Sessions states)
    (hs : s.sessionKey = some (currentVersion, baseKey))
    (hnew : (currentVersion, baseKey) ∉ sessionKeys states) : Sessions (s :: states) := by
  have hkeys : sessionKeys (s :: states) = (currentVersion, baseKey) :: sessionKeys states := by
    simp only [sessionKeys, List.filterMap_cons, hs]
  refine ⟨?_, ?_⟩
  · rw [hkeys]
    exact List.nodup_cons.mpr ⟨hnew, h.distinct⟩
  · rw [hkeys]
    intro key hkey
    rcases List.mem_cons.mp hkey with rfl | hkey
    · rfl
    · exact h.version key hkey

end Sessions

/-! ## Lookups that are answered rightly -/

section Steps

variable {party : Party} {world world' : World} {event : Event}

/-- The lookup of a step, if there is one, is answered rightly: a prekey message
does not name a session that has been archived, and the base key generated for a
bundle is not one of the record. -/
def Event.LookedUp (P : Primitives) (party : Party) (world : World) : Event → Prop
  | .processedPrekeyBundle _ =>
      (currentVersion, (P.generatedKeyPair world.generated).publicKey.val) ∉
        sessionKeys (party.record world).states
  | .decrypted (.prekey message) _ => ∀ baseKey, throwsRemoveKeyType message.baseKey = .ok baseKey →
      ¬(party.record world).ArchivedOnly message.version baseKey
  | _ => True

/-- A step with its lookup answered rightly. -/
def LookedUpStep (P : Primitives) (party : Party) (world : World) (event : Event)
    (world' : World) : Prop :=
  party.Step P world event world' ∧ event.LookedUp P party world

theorem Sessions.triedStates {cipherMessage : CipherMessage} {plaintext : NSData}
    (settled : party.Settled world) (h : Sessions (party.record world).states)
    (looked : (Event.decrypted cipherMessage plaintext).LookedUp P party world) :
    Sessions (party.triedStates P world cipherMessage) := by
  rcases Party.triedStates_cases (P := P) settled cipherMessage with
    hnone | hstates | ⟨message, params, session, kept, rfl, hparams, hversion, hunknown, hsession,
      hkept, hstates⟩
  · rw [hnone]
    exact h.sublist (List.nil_sublist _)
  · rw [hstates]
    exact h
  · rw [hstates]
    obtain ⟨sendingKey, rootKey, rfl⟩ := RatchetingSession.throwsInitializeSessionBob_eq_ok hsession
    have hnew := SessionRecord.not_mem_sessionKeys hunknown (looked _ hparams.baseKey)
    rw [hversion] at hnew
    refine (h.sublist hkept).cons_session (SessionState.sessionKey_eq_some.mpr ⟨hversion, rfl⟩) ?_
    intro hmem
    exact hnew ((hkept.filterMap _).subset hmem)

/-- **Every step whose lookup is answered rightly keeps the invariant.** -/
theorem Sessions.statesStep {states' : List SessionState} {generated' : ℕ}
    (settled : party.Settled world) (h : Sessions (party.record world).states)
    (looked : event.LookedUp P party world)
    (hstep : StatesStep P party world event states' generated') : Sessions states' := by
  cases hstep with
  | kept hquiet hgenerated => exact h
  | archived hquiet hgenerated hkept => exact (h.sublist hkept).cons_new
  | @processedPrekeyBundle preKeyBundle params session kept hparams hsession hkept =>
      obtain ⟨receivingKey, sendingKey, rootKey, rfl⟩ :=
        RatchetingSession.throwsInitializeSessionAlice_eq_ok hsession
      refine (h.sublist hkept).cons_session (SessionState.sessionKey_eq_some.mpr ⟨rfl, rfl⟩) ?_
      rw [hparams.ourBaseKey]
      intro hmem
      exact looked ((hkept.filterMap _).subset hmem)
  | @encrypted paddedMessage senderIdentityKey receiverIdentityKey s archived chain nextChainKey
      hstates hsending hnext =>
      rw [hstates] at h
      exact h.sameSession (.cons ⟨rfl, rfl, rfl, rfl⟩ (List.forall₂_same.mpr fun t _ => .refl t))
  | @decrypted cipherMessage plaintext tried rejected untried s s' generated₁ generated₂ hstates
      hrejected hrun =>
      have htried := h.triedStates settled looked
      rw [hstates] at htried
      have hsame : List.Forall₂ SameSession (tried ++ s :: untried) (rejected ++ s' :: untried) :=
        List.rel_append hrejected.sameSession (.cons
          ((trialOutcome_of_run hrun).sameSession (by simp [Survives]))
          (List.forall₂_same.mpr fun t _ => .refl t))
      exact (htried.sameSession hsame).perm List.perm_middle

/-- **It holds after every run of such steps.** -/
theorem sessions_run {events : List Event} (initial : party.Initial world)
    (run : LabelledRun (LookedUpStep P party) world events world') :
    party.Settled world' ∧ Sessions (party.record world').states := by
  refine run.invariant (I := fun _ world => party.Settled world ∧
    Sessions (party.record world).states) ⟨initial.settled, ?_⟩ ?_
  · rw [initial.record_eq]
    exact ⟨List.nodup_nil, by simp [sessionKeys, SessionState.sessionKey, SessionState.new]⟩
  · rintro events world event world' ⟨settled, h⟩ ⟨hstep, looked⟩
    obtain ⟨hstates, hsettled⟩ := Party.Step.statesStep settled hstep
    exact ⟨hsettled, h.statesStep settled looked hstates⟩

end Steps

/-! ## What follows -/

/-- A message that names the session `key` is decrypted by a session of the record: the state that
opens it moves to the front, and no session is added or lost.  It is the state of that session, if
the message is of that session, that is, if no other state opens it. -/
def PromotesSession (P : Primitives) (key : Int32 × NSData) (whisperMessage : WhisperMessage)
    (states states' : List SessionState) : Prop :=
  ∃ tried s untried rejected s', states = tried ++ s :: untried ∧
    (s.opens P whisperMessage).isSome = true ∧ states' = s' :: (rejected ++ untried) ∧
    SameSession s s' ∧ List.Forall₂ SameSession tried rejected ∧
    ((∀ t ∈ states, (t.opens P whisperMessage).isSome = true → t.sessionKey = some key) →
      s'.sessionKey = some key)

section Runs

variable {party : Party} {world world' : World} {events : List Event}

theorem promotesSession_of_mem (settled : party.Settled world) {message : PreKeyWhisperMessage}
    {plaintext baseKey : NSData}
    (hstep : LookedUpStep P party world (.decrypted (.prekey message) plaintext) world')
    (hbase : throwsRemoveKeyType message.baseKey = .ok baseKey)
    (hmem : (message.version, baseKey) ∈ sessionKeys (party.record world).states) :
    PromotesSession P (message.version, baseKey) message.message (party.record world).states
      (party.record world').states := by
  obtain ⟨hstep, looked⟩ := hstep
  have htried : party.triedStates P world (.prekey message) = [] ∨
      party.triedStates P world (.prekey message) = (party.record world).states := by
    rcases Party.triedStates_cases (P := P) settled (.prekey message) with
      hnone | hstates | ⟨_, params, session, kept, ⟨⟩, hparams, -, hunknown, -⟩
    · exact .inl hnone
    · exact .inr hstates
    · -- The lookup is right, so it finds the session.
      obtain rfl : params.theirBaseKey = baseKey :=
        Except.ok.inj (hparams.baseKey.symm.trans hbase)
      exact absurd hmem (SessionRecord.not_mem_sessionKeys hunknown (looked _ hbase))
  generalize hafter : (party.record world').states = states'
  have hstates := (Party.Step.statesStep settled hstep).1
  rw [hafter] at hstates
  cases hstates with
  | kept hquiet hgenerated => exact hquiet.elim
  | archived hquiet hgenerated hkept => exact hquiet.elim
  | @decrypted _ _ tried rejected untried s s' generated₁ generated₂ hsplit hrejected hrun =>
      have houtcome := trialOutcome_of_run hrun
      have hopens : (s.opens P message.message).isSome = true :=
        Option.isSome_of_eq_some houtcome.opens_eq
      have hsame : SameSession s s' := houtcome.sameSession (by simp [Survives])
      have hstates : (party.record world).states = tried ++ s :: untried := by
        rcases htried with hnone | hrecord
        · rw [hnone] at hsplit
          simp at hsplit
        · rw [← hrecord, hsplit]
      refine ⟨tried, s, untried, rejected, s', hstates, hopens, rfl, hsame,
        hrejected.sameSession, fun hown => ?_⟩
      rw [hsame.sessionKey]
      exact hown s (by simp [hstates]) hopens

/-- **Session lookup over runs.**  While every step's lookup is answered rightly,
no record holds two states of one session, and a prekey message of a session of
the record opens no other.  A record's answer is right unless only archived
states have the session, or the current state has the base key with another
version. -/
theorem sessionLookup_run (initial : party.Initial world)
    (run : LabelledRun (LookedUpStep P party) world events world') :
    (sessionKeys (party.record world').states).Nodup ∧
    (∀ version baseKey,
      ((party.record world').hasSessionState version baseKey = true ↔
          (version, baseKey) ∈ sessionKeys (party.record world').states) ↔
        ¬(party.record world').ArchivedOnly version baseKey ∧
          ¬(party.record world').Mixed version baseKey) ∧
    (∀ message plaintext baseKey world'',
      LookedUpStep P party world' (.decrypted (.prekey message) plaintext) world'' →
      throwsRemoveKeyType message.baseKey = .ok baseKey →
      (message.version, baseKey) ∈ sessionKeys (party.record world').states →
      PromotesSession P (message.version, baseKey) message.message (party.record world').states
        (party.record world'').states) := by
  obtain ⟨settled, sessions⟩ := sessions_run initial run
  refine ⟨sessions.distinct, fun version baseKey => SessionRecord.hasSessionState_iff_mem, ?_⟩
  intro message plaintext baseKey world'' hstep hbase hmem
  exact promotesSession_of_mem settled hstep hbase hmem

end Runs

/-! ## A first message and a replayed one -/

/-- Our party, for the contact. -/
def sampleParty : Party where
  preKeyStore := .primaryStorage
  recipientId := "+1"
  deviceId := 1

/-- The contact's first message, on the base key generated as number `n`. -/
def sampleFirstMessageOn (n : ℕ) : PreKeyWhisperMessage :=
  sampleFirstMessageIn { sampleContactWorld with generated := n } (sampleBundle (-1) none)

/-- We decrypt first messages in turn. -/
def sampleDecryptions : List PreKeyWhisperMessage → Procedure Failure World Unit
  | [] => return ()
  | message :: messages => do
      let _ ← sampleParty.cipher.throwsDecrypt additivePrimitives (.prekey message)
      sampleDecryptions messages

theorem labelledRun_sampleDecryptions {messages : List PreKeyWhisperMessage}
    {world world' : World}
    (h : (sampleDecryptions messages).run world = (.ok (), world')) :
    ∃ events, LabelledRun (sampleParty.Step additivePrimitives) world events world' := by
  induction messages generalizing world with
  | nil =>
      obtain rfl := (Prod.mk.inj h).2
      exact ⟨[], .refl⟩
  | cons message messages ih =>
      obtain ⟨plaintext, world₁, hfirst, hrest⟩ := run_bind_eq_ok.mp h
      obtain ⟨events, run⟩ := ih hrest
      exact ⟨_, (LabelledRun.single (Party.Step.decrypt hfirst)).trans run⟩

/-- A record without archived states answers rightly. -/
theorem lookedUp_of_previousStates_eq_nil {world : World} {message : PreKeyWhisperMessage}
    {plaintext : NSData} (h : (sampleParty.record world).previousStates = []) :
    (Event.decrypted (.prekey message) plaintext).LookedUp P sampleParty world := by
  rintro baseKey - ⟨-, s, hs, -⟩
  rw [h] at hs
  simp at hs

/-- Two first messages of the contact. -/
theorem sessionLookup_sample :
    ∃ events world',
      LabelledRun (LookedUpStep additivePrimitives sampleParty) ⟨sampleStores none none, 0, 0⟩
        events world' ∧
      (sessionKeys (sampleParty.record world').states).length = 2 ∧
      (sessionKeys (sampleParty.record world').states).Nodup := by
  let world : World := ⟨sampleStores none none, 0, 0⟩
  let decryptFirst := sampleParty.cipher.throwsDecrypt additivePrimitives
    (.prekey (sampleFirstMessageOn 40))
  rcases hrun : (sampleDecryptions [sampleFirstMessageOn 40, sampleFirstMessageOn 50]).run world
    with ⟨e | ⟨⟩, world'⟩
  · have hok : ((sampleDecryptions [sampleFirstMessageOn 40, sampleFirstMessageOn 50]).run
        world).1.isOk = true := by decide +kernel
    simp [hrun, Except.isOk, Except.toBool] at hok
  · have hlength : (sessionKeys (sampleParty.record ((sampleDecryptions
        [sampleFirstMessageOn 40, sampleFirstMessageOn 50]).run world).2).states).length = 2 := by
      decide +kernel
    have hempty : (sampleParty.record (decryptFirst.run world).2).previousStates = [] := by
      decide +kernel
    rw [hrun] at hlength
    simp only [sampleDecryptions] at hrun
    obtain ⟨first, world₁, hfirst, hrun⟩ := run_bind_eq_ok.mp hrun
    obtain ⟨second, world₂, hsecond, hrun⟩ := run_bind_eq_ok.mp hrun
    obtain rfl := (Prod.mk.inj hrun).2
    rw [show decryptFirst.run world = _ from hfirst] at hempty
    have initial : sampleParty.Initial world := rfl
    have hnone : (sampleParty.record world).previousStates = [] := by
      rw [initial.record_eq]
      rfl
    have run : LabelledRun (LookedUpStep additivePrimitives sampleParty) world _ world₂ :=
      (LabelledRun.single ⟨Party.Step.decrypt hfirst,
        lookedUp_of_previousStates_eq_nil hnone⟩).tail
        ⟨Party.Step.decrypt hsecond, lookedUp_of_previousStates_eq_nil hempty⟩
    exact ⟨_, world₂, run, hlength, (sessionLookup_run initial run).1⟩

theorem not_sessionLookup_of_replay :
    ¬∀ (P : Primitives) (party : Party) (world world' : World) (events : List Event),
      party.Initial world → LabelledRun (party.Step P) world events world' →
      (∀ version baseKey, (party.record world').hasSessionState version baseKey = true ↔
        (version, baseKey) ∈ sessionKeys (party.record world').states) ∨
      (sessionKeys (party.record world').states).Nodup := by
  intro hlookup
  let world : World := ⟨sampleStores none none, 0, 0⟩
  let messages := [sampleFirstMessageOn 40, sampleFirstMessageOn 50, sampleFirstMessageOn 40]
  have hok : ((sampleDecryptions messages).run world).1.isOk = true := by decide +kernel
  have hunknown : (sampleParty.record ((sampleDecryptions messages).run world).2).hasSessionState
      3 (additivePrimitives.generatedKeyPair 50).publicKey.val = false := by decide +kernel
  have hmem : (3, (additivePrimitives.generatedKeyPair 50).publicKey.val) ∈
      sessionKeys (sampleParty.record ((sampleDecryptions messages).run world).2).states := by
    decide +kernel
  have htwice : ¬(sessionKeys (sampleParty.record ((sampleDecryptions messages).run
      world).2).states).Nodup := by decide +kernel
  rcases hrun : (sampleDecryptions messages).run world with ⟨e | ⟨⟩, world'⟩
  · rw [hrun] at hok
    simp [Except.isOk, Except.toBool] at hok
  · rw [hrun] at hunknown hmem htwice
    obtain ⟨events, run⟩ := labelledRun_sampleDecryptions hrun
    rcases hlookup additivePrimitives sampleParty world world' events rfl run with hright | hnodup
    · rw [(hright _ _).mpr hmem] at hunknown
      exact absurd hunknown (by simp)
    · exact htwice hnodup

end ObjcSwiftLearning.AxolotlKit
