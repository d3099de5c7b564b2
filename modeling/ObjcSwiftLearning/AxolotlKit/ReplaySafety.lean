import ObjcSwiftLearning.AxolotlKit.ReceivingLedger
import ObjcSwiftLearning.AxolotlKit.SessionLookup

/-!
# A message is decrypted once

Decrypting a message takes the message keys of its counter from the receiver
chain of its ratchet key, and nothing brings them back while the chain is there.
So the state that decrypted a message rejects it from then on; another state
would need the same message keys; and a state opened for the message anew would
be a second state of the same session, which a right lookup prevents.

* `SoundChains` — the receiver chains of a state are on different ratchet keys,
  and each is orderly.
* `SpentOn` — the counter of a message is spent; `TrialOutcome.spentOn` — and it
  stays spent.
* `StatesStep.origin` — where a state of a known session comes from.
* `replay_throws` — **a message decrypted once is rejected** over runs whose
  lookups are answered rightly.
* `not_replay_throws` — and not over others.
-/

namespace ObjcSwiftLearning.AxolotlKit

open SignalServiceKit Procedure SessionState

variable {P : Primitives}

/-! ## Receiver chains -/

/-- The chains are on different ratchet keys, and orderly. -/
structure SoundChains (s : SessionState) : Prop where
  distinct : s.receiverRatchetKeys.Nodup
  orderly : ∀ chain ∈ s.receivingChains, chain.Orderly

def SpentOn (s : SessionState) (senderEphemeral : NSData) (counter : ℕ) : Prop :=
  ∀ chain ∈ s.receivingChains, chain.senderRatchetKey = senderEphemeral → chain.Spent counter

section Chains

variable {s : SessionState} {senderEphemeral theirEphemeral : NSData}
  {chain chain' : ReceivingChain} {counter : ℕ}

theorem soundChains_of_nil (h : s.receivingChains = []) : SoundChains s where
  distinct := by simp [receiverRatchetKeys, h]
  orderly := by simp [h]

theorem receivingChains_addReceiverChain (s : SessionState) (senderRatchetKey : NSData)
    (chainKey : ChainKey) :
    (s.addReceiverChain senderRatchetKey chainKey).receivingChains <:+
      s.receivingChains ++ [.initWithChainKey chainKey senderRatchetKey] := by
  unfold addReceiverChain
  dsimp only
  split
  · exact List.drop_suffix _ _
  · exact List.suffix_rfl

theorem SoundChains.addReceiverChain (h : SoundChains s)
    (hnone : s.receiverChain senderEphemeral = none) (chainKey : ChainKey) :
    SoundChains (s.addReceiverChain senderEphemeral chainKey) := by
  have hsub := (receivingChains_addReceiverChain s senderEphemeral chainKey).sublist
  have hnew : senderEphemeral ∉ s.receiverRatchetKeys := by
    rw [← hasReceiverChain_iff, hasReceiverChain, hnone]
    simp
  constructor
  · refine List.Nodup.sublist (hsub.map _) ?_
    rw [List.map_append]
    refine h.distinct.append (List.nodup_singleton _) ?_
    intro key hkey hmem
    obtain rfl : key = senderEphemeral := List.mem_singleton.mp hmem
    exact hnew hkey
  · intro chain hchain
    rcases List.mem_append.mp (hsub.subset hchain) with hchain | hchain
    · exact h.orderly chain hchain
    · obtain rfl := List.mem_singleton.mp hchain
      exact ReceivingChain.orderly_initWithChainKey _ _

theorem SoundChains.replaceReceiverChain (h : SoundChains s)
    (hchain : s.receiverChain senderEphemeral = some chain)
    (hkey : chain'.senderRatchetKey = chain.senderRatchetKey) (horderly : chain'.Orderly) :
    SoundChains (s.replaceReceiverChain senderEphemeral chain') := by
  have hsame := hkey.trans (senderRatchetKey_of_receiverChain hchain)
  constructor
  · rw [SessionState.replaceReceiverChain,
      receiverRatchetKeys_updateReceiverChain (fun _ _ => hsame)]
    exact h.distinct
  · intro other hother
    rcases List.mem_of_mem_updateFirst hother with hother | ⟨found, -, rfl⟩
    · exact h.orderly other hother
    · exact horderly

/-- A counter spent on a chain is spent on the state: the chain is the only one
of its ratchet key. -/
theorem SoundChains.spentOn (h : SoundChains s)
    (hchain : s.receiverChain senderEphemeral = some chain) (hspent : chain.Spent counter) :
    SpentOn s senderEphemeral counter := by
  intro other hother hkey
  have hsame : other.senderRatchetKey = chain.senderRatchetKey :=
    hkey.trans (senderRatchetKey_of_receiverChain hchain).symm
  have hmem : chain ∈ s.receivingChains := List.mem_of_find?_eq_some hchain
  rwa [List.inj_on_of_nodup_map h.distinct hother hmem hsame]

theorem SpentOn.replaceReceiverChain (h : SpentOn s senderEphemeral counter)
    (hspent : chain'.senderRatchetKey = senderEphemeral → chain'.Spent counter) :
    SpentOn (s.replaceReceiverChain theirEphemeral chain') senderEphemeral counter := by
  intro other hother hkey
  rcases List.mem_of_mem_updateFirst hother with hother | ⟨found, -, rfl⟩
  · exact h other hother hkey
  · exact hspent hkey

end Chains

/-! ## A trial -/

section Trials

variable {whisperMessage : WhisperMessage} {s s₁ s' : SessionState}
  {generated generated₁ generated' : ℕ} {result : Except Failure NSData} {theirEphemeral : Key}
  {chain : ReceivingChain} {senderEphemeral : NSData} {counter : ℕ}

theorem SoundChains.located (h : SoundChains s)
    (located : LocatedChain P s generated theirEphemeral chain s₁ generated₁) :
    SoundChains s₁ := by
  cases located with
  | found hchain => exact h
  | created hnone hroot hpair =>
      exact ⟨(h.addReceiverChain hnone _).distinct, (h.addReceiverChain hnone _).orderly⟩

theorem SoundChains.trialOutcome (h : SoundChains s)
    (houtcome : TrialOutcome P whisperMessage s generated result s' generated')
    (survives : Survives result) : SoundChains s' := by
  cases houtcome with
  | refused hrefused => exact h
  | terminated assertion s' generated' => exact absurd rfl (survives assertion)
  | noMessageKeys admits located htake => exact h.located located
  | notAuthentic admits located htake hopen | decrypted admits located htake hopen =>
      have hsound := h.located located
      have hmem := List.mem_of_find?_eq_some located.receiverChain
      obtain ⟨hdistinct, horderly⟩ := hsound.replaceReceiverChain located.receiverChain
        (ReceivingChain.takeMessageKeys_senderRatchetKey htake)
        ((hsound.orderly _ hmem).takeMessageKeys htake)
      exact ⟨hdistinct, horderly⟩

theorem SpentOn.located (h : SpentOn s senderEphemeral counter)
    (hhas : s.hasReceiverChain senderEphemeral = true)
    (located : LocatedChain P s generated theirEphemeral chain s₁ generated₁) :
    SpentOn s₁ senderEphemeral counter := by
  cases located with
  | found hchain => exact h
  | created hnone hroot hpair =>
      intro other hother hkey
      rcases List.mem_append.mp ((receivingChains_addReceiverChain _ _ _).subset hother) with
        hother | hother
      · exact h other hother hkey
      · obtain rfl := List.mem_singleton.mp hother
        obtain rfl : theirEphemeral.val = senderEphemeral := hkey
        rw [hasReceiverChain, hnone] at hhas
        simp at hhas

theorem SpentOn.take {chain' : ReceivingChain} {messageKeys : MessageKeys} {number : Int32}
    (h : SpentOn s senderEphemeral counter) (sound : SoundChains s)
    (hchain : s.receiverChain theirEphemeral.val = some chain)
    (htake : chain.takeMessageKeys P number = .ok (messageKeys, chain')) :
    SpentOn (s.replaceReceiverChain theirEphemeral.val chain') senderEphemeral counter := by
  have hmem : chain ∈ s.receivingChains := List.mem_of_find?_eq_some hchain
  refine h.replaceReceiverChain fun hkey => ?_
  rw [ReceivingChain.takeMessageKeys_senderRatchetKey htake] at hkey
  exact ((sound.orderly chain hmem).spent_takeMessageKeys htake counter).mpr
    (.inl (h chain hmem hkey))

/-- **What is spent stays spent.** -/
theorem SpentOn.trialOutcome (h : SpentOn s senderEphemeral counter) (sound : SoundChains s)
    (hhas : s.hasReceiverChain senderEphemeral = true)
    (houtcome : TrialOutcome P whisperMessage s generated result s' generated')
    (survives : Survives result) : SpentOn s' senderEphemeral counter := by
  cases houtcome with
  | refused hrefused => exact h
  | terminated assertion s' generated' => exact absurd rfl (survives assertion)
  | noMessageKeys admits located htake => exact h.located hhas located
  | notAuthentic admits located htake hopen | decrypted admits located htake hopen =>
      exact (h.located hhas located).take (sound.located located) located.receiverChain htake

/-- **The counter of a message decrypted is spent.** -/
theorem TrialOutcome.spentOn (sound : SoundChains s) {plaintext : NSData}
    (houtcome : TrialOutcome P whisperMessage s generated (.ok plaintext) s' generated')
    (hephemeral : whisperMessage.theirEphemeral = some theirEphemeral) :
    ∃ counter : ℕ, whisperMessage.counter.toInt = counter ∧
      SpentOn s' theirEphemeral.val counter ∧ s'.hasReceiverChain theirEphemeral.val = true := by
  cases houtcome with
  | @decrypted ephemeral chain chain' s₁ generated₁ messageKeys plaintext admits located htake
      hopen =>
      obtain rfl : ephemeral = theirEphemeral :=
        Option.some.inj (admits.theirEphemeral.symm.trans hephemeral)
      have hsound := sound.located located
      have horderly := hsound.orderly _ (List.mem_of_find?_eq_some located.receiverChain)
      have hkey := ReceivingChain.takeMessageKeys_senderRatchetKey htake
      have hchain := receiverChain_replaceReceiverChain located.receiverChain hkey
      have hspent : chain'.Spent messageKeys.index :=
        (horderly.spent_takeMessageKeys htake _).mpr (.inr rfl)
      refine ⟨messageKeys.index, (ReceivingChain.index_takeMessageKeys htake).symm, ?_, ?_⟩
      · exact (hsound.replaceReceiverChain located.receiverChain hkey
          (horderly.takeMessageKeys htake)).spentOn hchain hspent
      · rw [hasReceiverChain]
        exact Option.isSome_of_eq_some hchain

/-- **A message whose counter is spent is rejected.** -/
theorem SpentOn.opens_eq_none (h : SpentOn s theirEphemeral.val counter) (sound : SoundChains s)
    (hhas : s.hasReceiverChain theirEphemeral.val = true)
    (hephemeral : whisperMessage.theirEphemeral = some theirEphemeral)
    (hcounter : whisperMessage.counter.toInt = counter) :
    s.opens P whisperMessage = none := by
  obtain ⟨chain, hchain⟩ := Option.isSome_iff_exists.mp hhas
  have hmem : chain ∈ s.receivingChains := List.mem_of_find?_eq_some hchain
  have hspent := h chain hmem (senderRatchetKey_of_receiverChain hchain)
  unfold opens
  split
  · simp only [hephemeral, Option.bind_eq_bind, Option.bind_some, chainFor, hchain]
    cases htake : chain.takeMessageKeys P whisperMessage.counter with
    | ok result =>
        exact absurd htake
          ((sound.orderly chain hmem).takeMessageKeys_ne_ok_of_spent hcounter hspent)
    | error failure => rfl
  · rfl

end Trials

/-! ## A state over a step -/

/-- Sound chains, and no sending chain without a session. -/
structure Sound (s : SessionState) : Prop where
  chains : SoundChains s
  opened : s.sendingChain.isSome = true → s.aliceBaseKey.isSome = true

/-- What a step makes of a state: nothing else, a message sent, or a trial. -/
inductive Evolves (P : Primitives) (s : SessionState) : SessionState → Prop
  | same : Evolves P s s
  | sent (nextChainKey : ChainKey) : Evolves P s (s.setSenderChainKey nextChainKey)
  | tried {whisperMessage : WhisperMessage} {generated generated' : ℕ}
      {result : Except Failure NSData} {s' : SessionState}
      (houtcome : TrialOutcome P whisperMessage s generated result s' generated')
      (survives : Survives result) : Evolves P s s'

section Evolution

variable {s s' : SessionState} {senderEphemeral : NSData} {counter : ℕ}

theorem Evolves.sameSession (h : Evolves P s s') : SameSession s s' := by
  cases h with
  | same => exact .refl s
  | sent nextChainKey => exact ⟨rfl, rfl, rfl, rfl⟩
  | tried houtcome survives => exact houtcome.sameSession survives

theorem TrialOutcome.sendingChain_isSome {whisperMessage : WhisperMessage}
    {generated generated' : ℕ} {result : Except Failure NSData}
    (h : TrialOutcome P whisperMessage s generated result s' generated')
    (survives : Survives result) (hsome : s'.sendingChain.isSome = true) :
    s.sendingChain.isSome = true := by
  cases h with
  | refused hrefused => exact hsome
  | terminated assertion s' generated' => exact absurd rfl (survives assertion)
  | noMessageKeys admits located htake | notAuthentic admits located htake hopen
  | decrypted admits located htake hopen => exact admits.hasSenderChain

theorem Sound.evolves (h : Sound s) (hevolves : Evolves P s s') : Sound s' := by
  cases hevolves with
  | same => exact h
  | sent nextChainKey =>
      refine ⟨⟨h.chains.distinct, h.chains.orderly⟩, fun hsome => h.opened ?_⟩
      simpa [setSenderChainKey] using hsome
  | tried houtcome survives =>
      refine ⟨h.chains.trialOutcome houtcome survives, fun hsome => ?_⟩
      rw [(houtcome.sameSession survives).aliceBaseKey]
      exact h.opened (houtcome.sendingChain_isSome survives hsome)

theorem SpentOn.evolves (h : SpentOn s senderEphemeral counter) (sound : Sound s)
    (hhas : s.hasReceiverChain senderEphemeral = true) (hevolves : Evolves P s s') :
    SpentOn s' senderEphemeral counter := by
  cases hevolves with
  | same => exact h
  | sent nextChainKey => exact h
  | tried houtcome survives => exact h.trialOutcome sound.chains hhas houtcome survives

theorem SessionCipher.Rejected.exists_evolves {whisperMessage : WhisperMessage}
    {tried rejected : List SessionState} {generated generated' : ℕ}
    (h : Rejected P whisperMessage tried generated rejected generated') :
    ∀ t ∈ rejected, ∃ s ∈ tried, Evolves P s t := by
  induction h with
  | nil generated => simp
  | @cons s s' tried rejected generated generated₁ generated₂ e hrun hrest ih =>
      intro t ht
      rcases List.mem_cons.mp ht with rfl | ht
      · exact ⟨s, List.mem_cons_self, .tried (trialOutcome_of_run hrun) (by simp [Survives])⟩
      · obtain ⟨u, hu, hevolves⟩ := ih t ht
        exact ⟨u, List.mem_cons_of_mem _ hu, hevolves⟩

end Evolution

/-! ## The states of a record over a step -/

section Steps

variable {party : Party} {world world' : World} {event : Event}

theorem sound_new : Sound .new := ⟨soundChains_of_nil rfl, by simp [SessionState.new]⟩

/-- The states a message is tried on: those of the record, or a sound new one whose
session is not in the record, if the lookup is right. -/
theorem Party.mem_triedStates {cipherMessage : CipherMessage} (plaintext : NSData)
    (settled : party.Settled world) {t : SessionState}
    (ht : t ∈ party.triedStates P world cipherMessage) :
    t ∈ (party.record world).states ∨ Sound t ∧ ∀ key, t.sessionKey = some key →
      (Event.decrypted cipherMessage plaintext).LookedUp P party world →
      key ∉ sessionKeys (party.record world).states := by
  rcases Party.triedStates_cases (P := P) settled cipherMessage with
    hnone | hstates | ⟨message, params, session, kept, rfl, hparams, hversion, hunknown, hsession,
      hkept, hstates⟩
  · rw [hnone] at ht
    simp at ht
  · rw [hstates] at ht
    exact .inl ht
  · rw [hstates] at ht
    rcases List.mem_cons.mp ht with rfl | ht
    · obtain ⟨sendingKey, rootKey, rfl⟩ :=
        RatchetingSession.throwsInitializeSessionBob_eq_ok hsession
      refine .inr ⟨⟨soundChains_of_nil rfl, fun _ => rfl⟩, fun key hkey looked => ?_⟩
      obtain rfl : (message.version, params.theirBaseKey) = key := Option.some.inj hkey
      exact SessionRecord.not_mem_sessionKeys hunknown (looked _ hparams.baseKey)
    · exact .inl (hkept.subset ht)

/-- **Where a state comes from**: a state of the record, or a sound new one, whose
session is not in the record if the lookup is right. -/
theorem StatesStep.origin {states' : List SessionState} {generated' : ℕ}
    (settled : party.Settled world) (hstep : StatesStep P party world event states' generated')
    {t : SessionState} (ht : t ∈ states') :
    (∃ s ∈ (party.record world).states, Evolves P s t) ∨
    (∃ s, Sound s ∧ Evolves P s t ∧ ∀ key, s.sessionKey = some key →
      event.LookedUp P party world → key ∉ sessionKeys (party.record world).states) := by
  cases hstep with
  | kept hquiet hgenerated => exact .inl ⟨t, ht, .same⟩
  | archived hquiet hgenerated hkept =>
      rcases List.mem_cons.mp ht with rfl | ht
      · exact .inr ⟨.new, sound_new, .same, fun key hkey => by simp [sessionKey, new] at hkey⟩
      · exact .inl ⟨t, hkept.subset ht, .same⟩
  | @processedPrekeyBundle preKeyBundle params session kept hparams hsession hkept =>
      rcases List.mem_cons.mp ht with rfl | ht
      · obtain ⟨receivingKey, sendingKey, rootKey, rfl⟩ :=
          RatchetingSession.throwsInitializeSessionAlice_eq_ok hsession
        have hnone : SessionState.new.receiverChain params.theirRatchetKey = none := rfl
        have hchains := sound_new.chains.addReceiverChain hnone (.initial receivingKey)
        refine .inr ⟨_, ?_, .same, fun key hkey looked => ?_⟩
        · exact ⟨⟨hchains.distinct, hchains.orderly⟩, fun _ => rfl⟩
        · obtain rfl := Option.some.inj hkey
          rw [Event.LookedUp, ← hparams.ourBaseKey] at looked
          exact looked
      · exact .inl ⟨t, hkept.subset ht, .same⟩
  | @encrypted paddedMessage senderIdentityKey receiverIdentityKey s archived chain nextChainKey
      hstates hsending hnext =>
      rw [hstates]
      rcases List.mem_cons.mp ht with rfl | ht
      · exact .inl ⟨s, List.mem_cons_self, .sent nextChainKey⟩
      · exact .inl ⟨t, List.mem_cons_of_mem _ ht, .same⟩
  | @decrypted cipherMessage plaintext tried rejected untried s s' generated₁ generated₂ hstates
      hrejected hrun =>
      -- Each state afterwards comes from one that was tried.
      have htried : ∃ u ∈ party.triedStates P world cipherMessage, Evolves P u t := by
        rw [hstates]
        rcases List.mem_cons.mp ht with rfl | ht
        · exact ⟨s, by simp, .tried (trialOutcome_of_run hrun) (by simp [Survives])⟩
        · rcases List.mem_append.mp ht with ht | ht
          · obtain ⟨u, hu, hevolves⟩ := hrejected.exists_evolves t ht
            exact ⟨u, List.mem_append_left _ hu, hevolves⟩
          · exact ⟨t, by simp [ht], .same⟩
      obtain ⟨u, hu, hevolves⟩ := htried
      rcases Party.mem_triedStates plaintext settled hu with hu | ⟨hsound, hnew⟩
      · exact .inl ⟨u, hu, hevolves⟩
      · exact .inr ⟨u, hsound, hevolves, hnew⟩

/-- **Every step keeps the states sound.** -/
theorem sound_statesStep {states' : List SessionState} {generated' : ℕ}
    (settled : party.Settled world) (sound : ∀ s ∈ (party.record world).states, Sound s)
    (hstep : StatesStep P party world event states' generated') : ∀ t ∈ states', Sound t := by
  intro t ht
  obtain ⟨s, hs, hevolves⟩ | ⟨s, hsound, hevolves, -⟩ := hstep.origin settled ht
  · exact (sound s hs).evolves hevolves
  · exact hsound.evolves hevolves

end Steps

/-! ## Runs -/

def Party.StillHolds (party : Party) (session : SessionState) (whisperMessage : WhisperMessage)
    (world : World) : Prop :=
  ∃ s ∈ (party.record world).states, s.sessionKey = session.sessionKey ∧
    ∃ theirEphemeral ∈ whisperMessage.theirEphemeral,
      s.hasReceiverChain theirEphemeral.val = true

instance (party : Party) (session : SessionState) (whisperMessage : WhisperMessage)
    (world : World) : Decidable (party.StillHolds session whisperMessage world) :=
  inferInstanceAs (Decidable (∃ s ∈ (party.record world).states, _ ∧
    ∃ theirEphemeral ∈ whisperMessage.theirEphemeral, _))

/-- The message authenticates under the message keys of one session only: a MAC
computed under one message key does not verify under another. -/
def AuthenticatesOneSession (P : Primitives) (whisperMessage : WhisperMessage)
    (states states' : List SessionState) : Prop :=
  ∀ s ∈ states, ∀ s' ∈ states', (s.opens P whisperMessage).isSome = true →
    (s'.opens P whisperMessage).isSome = true → s.sessionKey = s'.sessionKey

instance (whisperMessage : WhisperMessage) (states states' : List SessionState) :
    Decidable (AuthenticatesOneSession P whisperMessage states states') :=
  inferInstanceAs (Decidable (∀ s ∈ states, ∀ s' ∈ states', _ → _ → _))

/-- Each session is in a record once. -/
theorem Sessions.eq_of_sessionKey_eq {states : List SessionState} (h : Sessions states)
    {s t : SessionState} (hs : s ∈ states) (ht : t ∈ states) {key : Int32 × NSData}
    (hskey : s.sessionKey = some key) (htkey : t.sessionKey = some key) : s = t := by
  have hnodup := h.distinct
  clear h
  induction states with
  | nil => simp at hs
  | cons first rest ih =>
      have hmem : ∀ u ∈ rest, u.sessionKey = some key → key ∈ sessionKeys rest :=
        fun u hu hukey => List.mem_filterMap.mpr ⟨u, hu, hukey⟩
      have hfirst : first.sessionKey = some key →
          key ∉ sessionKeys rest ∧ (sessionKeys rest).Nodup := by
        intro hkey
        simp only [sessionKeys, List.filterMap_cons, hkey] at hnodup
        exact List.nodup_cons.mp hnodup
      rcases List.mem_cons.mp hs with rfl | hsrest
      · rcases List.mem_cons.mp ht with rfl | htrest
        · rfl
        · exact absurd (hmem t htrest htkey) (hfirst hskey).1
      · rcases List.mem_cons.mp ht with rfl | htrest
        · exact absurd (hmem s hsrest hskey) (hfirst htkey).1
        · have hsub : (sessionKeys rest).Sublist (sessionKeys (first :: rest)) :=
            (List.sublist_cons_self first rest).filterMap _
          exact ih hsrest htrest (hnodup.sublist hsub)

section Runs

variable {party : Party} {world world' world₁ world₂ world₃ : World} {event : Event}
  {events events' : List Event} {key : Int32 × NSData} {theirEphemeral : Key} {counter : ℕ}

/-- A record in which the session `key` has spent the counter. -/
structure Guarded (party : Party) (key : Int32 × NSData) (theirEphemeral : Key) (counter : ℕ)
    (world : World) : Prop where
  settled : party.Settled world
  sessions : Sessions (party.record world).states
  sound : ∀ s ∈ (party.record world).states, Sound s
  spent : ∃ s ∈ (party.record world).states, s.sessionKey = some key ∧
    s.hasReceiverChain theirEphemeral.val = true ∧ SpentOn s theirEphemeral.val counter

/-- **The counter stays spent over a step** that keeps the state and its chain. -/
theorem Guarded.step (h : Guarded party key theirEphemeral counter world)
    (hstep : LookedUpStep P party world event world')
    (still : ∃ t ∈ (party.record world').states, t.sessionKey = some key ∧
      t.hasReceiverChain theirEphemeral.val = true) :
    Guarded party key theirEphemeral counter world' := by
  obtain ⟨hstates, settled⟩ := Party.Step.statesStep h.settled hstep.1
  refine ⟨settled, h.sessions.statesStep h.settled hstep.2 hstates,
    sound_statesStep h.settled h.sound hstates, ?_⟩
  obtain ⟨s, hs, hskey, hhas, hspent⟩ := h.spent
  obtain ⟨t, ht, htkey, hthas⟩ := still
  refine ⟨t, ht, htkey, hthas, ?_⟩
  obtain ⟨u, hu, hevolves⟩ | ⟨u, -, hevolves, hnew⟩ := hstates.origin h.settled ht
  · -- It comes from the state of its session.
    have hukey : u.sessionKey = some key := hevolves.sameSession.sessionKey ▸ htkey
    obtain rfl := h.sessions.eq_of_sessionKey_eq hu hs hukey hskey
    exact hspent.evolves (h.sound u hu) hhas hevolves
  · have hukey : u.sessionKey = some key := hevolves.sameSession.sessionKey ▸ htkey
    exact absurd (List.mem_filterMap.mpr ⟨s, hs, hskey⟩) (hnew key hukey hstep.2)

theorem Sound.exists_sessionKey {s : SessionState} (h : Sound s)
    {whisperMessage : WhisperMessage} (hopens : (s.opens P whisperMessage).isSome = true) :
    ∃ key, s.sessionKey = some key := by
  have hsender : s.sendingChain.isSome = true := by
    unfold opens at hopens
    split at hopens
    · rename_i hchecks
      exact hchecks.1
    · simp at hopens
  obtain ⟨baseKey, hbase⟩ := Option.isSome_iff_exists.mp (h.opened hsender)
  exact ⟨_, by rw [sessionKey, hbase]; rfl⟩

theorem exists_opens_of_decrypt {message : CipherMessage} {plaintext : NSData}
    (h : (party.cipher.throwsDecrypt P message).run world = (.ok plaintext, world')) :
    ∃ s ∈ party.triedStates P world message, (s.opens P message.whisperMessage).isSome = true := by
  obtain ⟨sessionRecord, sessionRecord', htried, hdecryption, -⟩ := Party.decrypt_eq_ok h
  have htriedStates : party.triedStates P world message = sessionRecord.states := by
    rw [Party.triedStates, htried]
    rfl
  cases hdecryption with
  | @mk tried rejected untried s s' generated₁ generated₂ hsplit hrejected hrun =>
      refine ⟨s, ?_, Option.isSome_of_eq_some (trialOutcome_of_run hrun).opens_eq⟩
      rw [htriedStates, hsplit]
      simp

theorem guarded_decrypted {message : CipherMessage} {plaintext : NSData}
    (settled : party.Settled world) (sessions : Sessions (party.record world).states)
    (sound : ∀ s ∈ (party.record world).states, Sound s)
    (first : LookedUpStep P party world (.decrypted message plaintext) world') :
    ∃ s ∈ party.triedStates P world message, ∃ key theirEphemeral counter,
      (s.opens P message.whisperMessage).isSome = true ∧ s.sessionKey = some key ∧
      (party.record world').sessionState.sessionKey = some key ∧
      message.whisperMessage.theirEphemeral = some theirEphemeral ∧
      message.whisperMessage.counter.toInt = (counter : ℕ) ∧
      Guarded party key theirEphemeral counter world' := by
  obtain ⟨hstates, settled'⟩ := Party.Step.statesStep settled first.1
  have sessions' := sessions.statesStep settled first.2 hstates
  have sound' := sound_statesStep settled sound hstates
  generalize hafter : (party.record world').states = states' at hstates
  cases hstates with
  | kept hquiet hgenerated => exact hquiet.elim
  | archived hquiet hgenerated hkept => exact hquiet.elim
  | @decrypted _ _ tried rejected untried s s' generated₁ generated₂ hsplit hrejected hrun =>
      have houtcome := trialOutcome_of_run hrun
      have hmem : s ∈ party.triedStates P world message := by
        rw [hsplit]
        simp
      have hsound : Sound s := by
        rcases Party.mem_triedStates plaintext settled hmem with hs | ⟨hs, -⟩
        · exact sound s hs
        · exact hs
      have hopens := Option.isSome_of_eq_some houtcome.opens_eq
      obtain ⟨key, hkey⟩ := hsound.exists_sessionKey hopens
      have hkey' : s'.sessionKey = some key :=
        (houtcome.sameSession (by simp [Survives])).sessionKey.trans hkey
      obtain ⟨theirEphemeral, hephemeral⟩ : ∃ theirEphemeral,
          message.whisperMessage.theirEphemeral = some theirEphemeral := by
        cases houtcome with
        | decrypted admits located htake hopen => exact ⟨_, admits.theirEphemeral⟩
      obtain ⟨counter, hcounter, hspent, hhas⟩ := houtcome.spentOn hsound.chains hephemeral
      have hcurrent : (party.record world').sessionState = s' := (List.cons.inj hafter).1
      refine ⟨s, hmem, key, theirEphemeral, counter, hopens, hkey, hcurrent ▸ hkey', hephemeral,
        hcounter, settled', sessions', sound', s', ?_, hkey', hhas, hspent⟩
      rw [hafter]
      exact List.mem_cons_self

/-- **Replay safety.**  Once a message has been decrypted it is not decrypted
again, as long as the state that decrypted it is in the record and has its
receiver chain, over runs whose lookups are answered rightly. -/
theorem replay_throws {message : CipherMessage} {plaintext : NSData}
    (initial : party.Initial world)
    (before : LabelledRun (LookedUpStep P party) world events world₁)
    (first : LookedUpStep P party world₁ (.decrypted message plaintext) world₂)
    (after : LabelledRun (fun w event w' => LookedUpStep P party w event w' ∧
      party.StillHolds (party.record world₂).sessionState message.whisperMessage w')
      world₂ events' world₃)
    (looked : (Event.decrypted message plaintext).LookedUp P party world₃)
    (hmac : AuthenticatesOneSession P message.whisperMessage
      (party.triedStates P world₁ message) (party.triedStates P world₃ message)) :
    ((party.cipher.throwsDecrypt P message).run world₃).1.isOk = false := by
  obtain ⟨settled, sessions, sound⟩ : party.Settled world₁ ∧
      Sessions (party.record world₁).states ∧ ∀ s ∈ (party.record world₁).states, Sound s := by
    refine before.invariant (I := fun _ world => party.Settled world ∧
      Sessions (party.record world).states ∧ ∀ s ∈ (party.record world).states, Sound s) ?_ ?_
    · obtain ⟨settled, sessions⟩ := sessions_run (P := P) initial .refl
      refine ⟨settled, sessions, fun s hs => ?_⟩
      rw [initial.record_eq] at hs
      obtain rfl := List.mem_singleton.mp hs
      exact sound_new
    · rintro events world event world' ⟨settled, sessions, sound⟩ ⟨hstep, looked⟩
      obtain ⟨hstates, settled'⟩ := Party.Step.statesStep settled hstep
      exact ⟨settled', sessions.statesStep settled looked hstates,
        sound_statesStep settled sound hstates⟩
  obtain ⟨s, hs, key, theirEphemeral, counter, hopens, hkey, hcurrent, hephemeral, hcounter,
    guarded⟩ := guarded_decrypted settled sessions sound first
  have guarded₃ : Guarded party key theirEphemeral counter world₃ := by
    refine after.invariant (I := fun _ world => Guarded party key theirEphemeral counter world)
      guarded ?_
    rintro events world event world' guarded ⟨hstep, t, ht, htkey, ephemeral, hephemeral', hhas⟩
    obtain rfl : ephemeral = theirEphemeral := Option.some.inj (hephemeral'.symm.trans hephemeral)
    exact guarded.step hstep ⟨t, ht, htkey.trans hcurrent, hhas⟩
  -- A state that opens the message again is of the session, and has spent the counter.
  have hrejected : ∀ t ∈ party.triedStates P world₃ message,
      t.opens P message.whisperMessage = none := by
    intro t ht
    by_contra hsome
    have htkey : t.sessionKey = some key :=
      (hmac s hs t ht hopens (Option.isSome_iff_ne_none.mpr hsome)).symm.trans hkey
    obtain ⟨u, hu, hukey, hhas, hspent⟩ := guarded₃.spent
    rcases Party.mem_triedStates plaintext guarded₃.settled ht with
      ht | ⟨-, hnew⟩
    · obtain rfl := guarded₃.sessions.eq_of_sessionKey_eq ht hu htkey hukey
      exact hsome (hspent.opens_eq_none (guarded₃.sound t ht).chains hhas hephemeral hcounter)
    · exact hnew key htkey looked (List.mem_filterMap.mpr ⟨u, hu, hukey⟩)
  cases hrun : (party.cipher.throwsDecrypt P message).run world₃ with
  | mk result world₄ =>
      cases result with
      | error failure => rfl
      | ok again =>
          obtain ⟨t, ht, htopens⟩ := exists_opens_of_decrypt hrun
          rw [hrejected t ht] at htopens
          simp at htopens

end Runs

/-! ## The first message again -/

/-- We decrypt a message. -/
def sampleDecryption (message : PreKeyWhisperMessage) (world : World) :
    Except Failure NSData × World :=
  (sampleParty.cipher.throwsDecrypt additivePrimitives (.prekey message)).run world

theorem step_sampleDecryption (message : PreKeyWhisperMessage) (world : World)
    (h : (sampleDecryption message world).1.isOk = true) :
    ∃ plaintext, sampleParty.Step additivePrimitives world (.decrypted (.prekey message) plaintext)
      (sampleDecryption message world).2 := by
  rcases hrun : sampleDecryption message world with ⟨failure | plaintext, world'⟩
  · simp [hrun, Except.isOk, Except.toBool] at h
  · exact ⟨plaintext, .decrypt hrun⟩

/-- We encrypt a reply. -/
def sampleReply (world : World) : Except Failure CipherMessage × World :=
  (sampleParty.cipher.throwsEncryptMessage additivePrimitives [7]).run world

/-- The first message of a second session is sent again after we have replied to it. -/
theorem replay_throws_sample :
    let world := (sampleDecryption (sampleFirstMessageOn 50) ⟨sampleStores none none, 0, 0⟩).2
    (sampleDecryption (sampleFirstMessageOn 40)
      (sampleReply (sampleDecryption (sampleFirstMessageOn 40) world).2).2).1.isOk = false := by
  let world₀ : World := ⟨sampleStores none none, 0, 0⟩
  intro world₁
  let message := sampleFirstMessageOn 40
  let world₂ := (sampleDecryption message world₁).2
  let world₃ := (sampleReply world₂).2
  obtain ⟨_, hbefore⟩ := step_sampleDecryption (sampleFirstMessageOn 50) world₀ (by decide +kernel)
  obtain ⟨_, hfirst⟩ := step_sampleDecryption message world₁ (by decide +kernel)
  have hreply : sampleParty.Step additivePrimitives world₂
      (.encrypted [7] ((sampleReply world₂).1.toOption.getD (.prekey message))) world₃ := by
    have hok : (sampleReply world₂).1.isOk = true := by decide +kernel
    rcases hrun : sampleReply world₂ with ⟨e | reply, world'⟩
    · simp [hrun, Except.isOk, Except.toBool] at hok
    · rw [show world₃ = world' from congrArg Prod.snd hrun]
      exact .encryptMessage hrun
  have hstill : sampleParty.StillHolds (sampleParty.record world₂).sessionState message.message
      world₃ := by decide +kernel
  have hcurrent : (throwsRemoveKeyType message.baseKey).toOption =
      (sampleParty.record world₃).sessionState.aliceBaseKey := by decide +kernel
  have hmac : AuthenticatesOneSession additivePrimitives message.message
      (sampleParty.triedStates additivePrimitives world₁ (.prekey message))
      (sampleParty.triedStates additivePrimitives world₃ (.prekey message)) := by decide +kernel
  have hempty : (sampleParty.record world₁).previousStates = [] := by decide +kernel
  have initial : sampleParty.Initial world₀ := rfl
  have hnone : (sampleParty.record world₀).previousStates = [] := by
    rw [initial.record_eq]
    rfl
  have before : LabelledRun (LookedUpStep additivePrimitives sampleParty) world₀ _ world₁ :=
    .single ⟨hbefore, lookedUp_of_previousStates_eq_nil hnone⟩
  have looked (plaintext : NSData) : (Event.decrypted (.prekey message) plaintext).LookedUp
      additivePrimitives sampleParty world₃ := by
    rintro baseKey hbaseKey ⟨hne, -⟩
    rw [hbaseKey, Except.toOption] at hcurrent
    exact hne hcurrent.symm
  exact replay_throws initial before ⟨hfirst, lookedUp_of_previousStates_eq_nil hempty⟩
    (LabelledRun.single ⟨⟨hreply, trivial⟩, hstill⟩) (looked _) hmac

/-- The first message is sent again after another first message. -/
theorem not_replay_throws :
    ¬∀ (P : Primitives) (party : Party) (world world₁ world₂ world₃ : World)
      (events events' : List Event) (message : CipherMessage) (plaintext : NSData),
      party.Initial world → LabelledRun (party.Step P) world events world₁ →
      party.Step P world₁ (.decrypted message plaintext) world₂ →
      LabelledRun (fun w event w' => party.Step P w event w' ∧
        party.StillHolds (party.record world₂).sessionState message.whisperMessage w')
        world₂ events' world₃ →
      AuthenticatesOneSession P message.whisperMessage (party.triedStates P world₁ message)
        (party.triedStates P world₃ message) →
      ((party.cipher.throwsDecrypt P message).run world₃).1.isOk = false := by
  intro hreplay
  let world : World := ⟨sampleStores none none, 0, 0⟩
  let world₁ := (sampleDecryption (sampleFirstMessageOn 40) world).2
  let world₂ := (sampleDecryption (sampleFirstMessageOn 50) world₁).2
  have hok : (sampleDecryption (sampleFirstMessageOn 40) world).1.isOk = true := by
    decide +kernel
  have hok₁ : (sampleDecryption (sampleFirstMessageOn 50) world₁).1.isOk = true := by
    decide +kernel
  have hok₂ : (sampleDecryption (sampleFirstMessageOn 40) world₂).1.isOk = true := by
    decide +kernel
  have hstill : sampleParty.StillHolds (sampleParty.record world₁).sessionState
      (sampleFirstMessageOn 40).message world₂ := by decide +kernel
  have hmac : AuthenticatesOneSession additivePrimitives (sampleFirstMessageOn 40).message
      (sampleParty.triedStates additivePrimitives world (.prekey (sampleFirstMessageOn 40)))
      (sampleParty.triedStates additivePrimitives world₂ (.prekey (sampleFirstMessageOn 40))) := by
    decide +kernel
  obtain ⟨first, hfirst⟩ := step_sampleDecryption _ _ hok
  obtain ⟨second, hsecond⟩ := step_sampleDecryption _ _ hok₁
  have hthrows := hreplay additivePrimitives sampleParty world world world₁ world₂ [] _ _ _ rfl
    .refl hfirst (.single ⟨hsecond, hstill⟩) hmac
  rw [show (sampleParty.cipher.throwsDecrypt additivePrimitives _).run world₂ =
    sampleDecryption (sampleFirstMessageOn 40) world₂ from rfl, hok₂] at hthrows
  simp at hthrows

end ObjcSwiftLearning.AxolotlKit
