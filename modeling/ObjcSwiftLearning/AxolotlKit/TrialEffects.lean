import ObjcSwiftLearning.AxolotlKit.StateDecryption

/-!
# What a trial changes

A trial's outcome depends on the state and the message alone; the generator only
supplies the key of a ratchet step.  This module reads the outcome off the state
(`SessionState.opens`), says exactly when a trial that fails has nevertheless
written to the state (`SessionState.touches`), and collects what no trial
changes.

* `TrialOutcome.opens_eq` / `TrialOutcome.opens_eq_none` — the outcome is
  `opens`.
* `TrialOutcome.eq_self_iff` — a rejected message leaves the state as it was
  exactly when it does not touch it.
* `TrialOutcome.sameSession` — the identity keys, the base key and the version
  never change.
-/

namespace ObjcSwiftLearning.AxolotlKit

variable {P : Primitives} {chain : ReceivingChain} {generated generated₁ : ℕ}
  {senderEphemeral : NSData} {s s₁ : SessionState}

/-! ## The outcome, read off the state -/

def WhisperMessage.theirEphemeral (whisperMessage : WhisperMessage) : Option Key :=
  match throwsRemoveKeyType whisperMessage.senderRatchetKey with
  | .ok key => if h : key.length = 32 then some ⟨key, h⟩ else none
  | .error _ => none

theorem WhisperMessage.theirEphemeral_eq_some {whisperMessage : WhisperMessage} {key : Key} :
    whisperMessage.theirEphemeral = some key ↔
      throwsRemoveKeyType whisperMessage.senderRatchetKey = .ok key.val := by
  unfold theirEphemeral
  cases throwsRemoveKeyType whisperMessage.senderRatchetKey with
  | error e => simp
  | ok data =>
      dsimp only
      constructor
      · intro h
        split at h
        · rw [← Option.some.inj h]
        · simp at h
      · intro h
        obtain rfl := Except.ok.inj h
        simp [key.property]

namespace SessionState

/-- The chain a trial looks at: the one found, or the one it would create. -/
def chainFor (P : Primitives) (s : SessionState) (theirEphemeral : Key) :
    Option ReceivingChain :=
  match s.receiverChain theirEphemeral.val with
  | some chain => some chain
  | none =>
      match s.rootKey, s.senderRatchetKeyPair with
      | some rootKey, some ourEphemeral =>
          some (.initWithChainKey (receivingRKCK P rootKey ourEphemeral theirEphemeral).chainKey
            theirEphemeral.val)
      | _, _ => none

def opens (P : Primitives) (s : SessionState) (whisperMessage : WhisperMessage) :
    Option NSData :=
  if s.hasSenderChain = true ∧ whisperMessage.version = s.version then do
    let theirEphemeral ← whisperMessage.theirEphemeral
    let chain ← s.chainFor P theirEphemeral
    match chain.takeMessageKeys P whisperMessage.counter with
    | .ok (messageKeys, _) => (s.openWith P whisperMessage messageKeys).toOption
    | .error _ => none
  else none

/-- Whether a trial of the message writes to the state before the MAC is checked:
it has no chain for the ephemeral key and ratchets, or takes message keys. -/
def touches (P : Primitives) (s : SessionState) (whisperMessage : WhisperMessage) : Bool :=
  s.hasSenderChain && whisperMessage.version == s.version &&
    match whisperMessage.theirEphemeral with
    | none => false
    | some theirEphemeral =>
        match s.receiverChain theirEphemeral.val with
        | none => true
        | some chain => (chain.takeMessageKeys P whisperMessage.counter).isOk

variable {whisperMessage : WhisperMessage}

theorem Admits.theirEphemeral {s : SessionState} {theirEphemeral : Key}
    (admits : s.Admits whisperMessage theirEphemeral) :
    whisperMessage.theirEphemeral = some theirEphemeral :=
  WhisperMessage.theirEphemeral_eq_some.mpr admits.ephemeral

theorem LocatedChain.chainFor_eq {s s₁ : SessionState} {generated generated₁ : ℕ}
    {theirEphemeral : Key} {chain : ReceivingChain}
    (located : LocatedChain P s generated theirEphemeral chain s₁ generated₁) :
    s.chainFor P theirEphemeral = some chain := by
  cases located with
  | found hchain => simp [chainFor, hchain]
  | created hnone hroot hpair => simp [chainFor, hnone, hroot, hpair]

theorem opens_of_located {s s₁ : SessionState} {generated generated₁ : ℕ} {theirEphemeral : Key}
    {chain : ReceivingChain} (admits : s.Admits whisperMessage theirEphemeral)
    (located : LocatedChain P s generated theirEphemeral chain s₁ generated₁) :
    s.opens P whisperMessage =
      match chain.takeMessageKeys P whisperMessage.counter with
      | .ok (messageKeys, _) => (s.openWith P whisperMessage messageKeys).toOption
      | .error _ => none := by
  rw [opens, if_pos ⟨admits.hasSenderChain, admits.version⟩, admits.theirEphemeral]
  simp [located.chainFor_eq]

theorem opens_eq_none_of_not_admits {s : SessionState}
    (h : ∀ theirEphemeral, ¬s.Admits whisperMessage theirEphemeral) :
    s.opens P whisperMessage = none := by
  unfold opens
  split
  · rename_i hchecks
    cases hephemeral : whisperMessage.theirEphemeral with
    | none => rfl
    | some theirEphemeral =>
        exact absurd ⟨hchecks.1, hchecks.2, WhisperMessage.theirEphemeral_eq_some.mp hephemeral⟩
          (h theirEphemeral)
  · rfl

end SessionState

open SessionState

section Outcome

variable {whisperMessage : WhisperMessage} {s s' : SessionState} {generated generated' : ℕ}

/-- A message decrypted is one the state opens. -/
theorem TrialOutcome.opens_eq {plaintext : NSData}
    (h : TrialOutcome P whisperMessage s generated (.ok plaintext) s' generated') :
    s.opens P whisperMessage = some plaintext := by
  cases h with
  | decrypted admits located htake hopen =>
      simp only [opens_of_located admits located, htake, hopen]
      rfl

theorem TrialOutcome.opens_eq_none {e : NSException}
    (h : TrialOutcome P whisperMessage s generated (.error (.raised e)) s' generated') :
    s.opens P whisperMessage = none := by
  cases h with
  | refused hrefused => exact opens_eq_none_of_not_admits hrefused
  | noMessageKeys admits located htake =>
      rw [opens_of_located admits located, htake]
  | notAuthentic admits located htake hopen =>
      simp only [opens_of_located admits located, htake, hopen]
      rfl

end Outcome

/-! ## When a failing trial has written to the state -/

theorem SessionState.receiverChain_replaceReceiverChain {s : SessionState}
    {theirEphemeral : NSData} {chain chain' : ReceivingChain}
    (hchain : s.receiverChain theirEphemeral = some chain)
    (hkey : chain'.senderRatchetKey = chain.senderRatchetKey) :
    (s.replaceReceiverChain theirEphemeral chain').receiverChain theirEphemeral =
      some chain' := by
  have hsame := senderRatchetKey_of_receiverChain hchain
  rw [replaceReceiverChain, receiverChain_updateReceiverChain (fun _ _ => hkey.trans hsame),
    hchain]
  rfl

section Touches

variable {whisperMessage : WhisperMessage} {s s₁ : SessionState} {generated generated₁ : ℕ}
  {theirEphemeral : Key} {chain : ReceivingChain}

theorem SessionState.touches_of_located (admits : s.Admits whisperMessage theirEphemeral)
    (located : LocatedChain P s generated theirEphemeral chain s₁ generated₁) :
    s.touches P whisperMessage =
      ((s.receiverChain theirEphemeral.val).isNone ||
        (chain.takeMessageKeys P whisperMessage.counter).isOk) := by
  have hversion : (whisperMessage.version == s.version) = true := by simp [admits.version]
  simp only [touches, admits.hasSenderChain, hversion, admits.theirEphemeral, Bool.true_and]
  cases located with
  | found hchain => simp [hchain]
  | created hnone hroot hpair => simp [hnone]

theorem SessionState.touches_of_not_admits
    (h : ∀ theirEphemeral, ¬s.Admits whisperMessage theirEphemeral) :
    s.touches P whisperMessage = false := by
  by_contra htouches
  simp only [Bool.not_eq_false, touches, Bool.and_eq_true, beq_iff_eq] at htouches
  obtain ⟨⟨hsender, hversion⟩, htouches⟩ := htouches
  cases hephemeral : whisperMessage.theirEphemeral with
  | none => simp [hephemeral] at htouches
  | some theirEphemeral =>
      exact h theirEphemeral
        ⟨hsender, hversion, WhisperMessage.theirEphemeral_eq_some.mp hephemeral⟩

/-- **A rejected message leaves the state alone exactly when it does not touch
it.** -/
theorem TrialOutcome.eq_self_iff {s' : SessionState} {generated' : ℕ} {e : NSException}
    (h : TrialOutcome P whisperMessage s generated (.error (.raised e)) s' generated') :
    s' = s ↔ s.touches P whisperMessage = false := by
  cases h with
  | refused hrefused => simp [touches_of_not_admits hrefused]
  | noMessageKeys admits located htake =>
      rw [touches_of_located admits located, htake]
      cases located with
      | found hchain => simp [hchain, Except.isOk, Except.toBool]
      | created hnone hroot hpair =>
          simp only [hnone, Option.isNone_none, Bool.true_or, Bool.true_eq_false, iff_false]
          intro hsame
          have hnew := (@LocatedChain.created P s generated _ _ _ hnone hroot
            hpair).receiverChain
          rw [hsame, hnone] at hnew
          simp at hnew
  | notAuthentic admits located htake hopen =>
      rw [touches_of_located admits located, htake]
      simp only [Except.isOk, Except.toBool, Bool.or_true, Bool.true_eq_false, iff_false]
      intro hsame
      have hnew := receiverChain_replaceReceiverChain located.receiverChain
        (ReceivingChain.takeMessageKeys_senderRatchetKey htake)
      rw [hsame] at hnew
      cases located with
      | found hchain =>
          rw [hchain] at hnew
          exact ReceivingChain.takeMessageKeys_ne htake (Option.some.inj hnew).symm
      | created hnone hroot hpair =>
          rw [hnone] at hnew
          simp at hnew

end Touches

/-! ## What no trial changes -/

/-- Two states of one session: what is fixed when it is opened. -/
structure SameSession (s s' : SessionState) : Prop where
  version : s'.version = s.version
  aliceBaseKey : s'.aliceBaseKey = s.aliceBaseKey
  remoteIdentityKey : s'.remoteIdentityKey = s.remoteIdentityKey
  localIdentityKey : s'.localIdentityKey = s.localIdentityKey

theorem SameSession.refl (s : SessionState) : SameSession s s := ⟨rfl, rfl, rfl, rfl⟩

theorem SessionState.LocatedChain.sameSession {theirEphemeral : Key}
    (located : LocatedChain P s generated theirEphemeral chain s₁ generated₁) :
    SameSession s s₁ := by
  cases located with
  | found hchain => exact .refl s
  | created hnone hroot hpair => exact ⟨rfl, rfl, rfl, rfl⟩

/-- The sending chain after a trial: as it was, or a new one on a generated key,
in a state that has a receiver chain. -/
def SendingChainStep (P : Primitives) (s : SessionState) (generated : ℕ) (s' : SessionState)
    (generated' : ℕ) : Prop :=
  (s'.sendingChain = s.sendingChain ∧ (s'.receivingChains = [] ↔ s.receivingChains = []) ∧
    generated' = generated) ∨
  (∃ key, s'.sendingChain = some ⟨P.generatedKeyPair generated, .initial key⟩ ∧
    s'.receivingChains ≠ [] ∧ generated' = generated + 1)

theorem SessionState.receivingChains_ne_nil {s : SessionState}
    (h : s.receiverChain senderEphemeral = some chain) : s.receivingChains ≠ [] :=
  List.ne_nil_of_mem (List.mem_of_find?_eq_some h)

theorem SessionState.receivingChains_replaceReceiverChain_eq_nil {s : SessionState} :
    (s.replaceReceiverChain senderEphemeral chain).receivingChains = [] ↔
      s.receivingChains = [] := by
  simp [← List.length_eq_zero_iff, replaceReceiverChain, updateReceiverChain]

theorem SessionState.LocatedChain.sendingChainStep {theirEphemeral : Key}
    (located : LocatedChain P s generated theirEphemeral chain s₁ generated₁) :
    SendingChainStep P s generated s₁ generated₁ := by
  have hne := receivingChains_ne_nil located.receiverChain
  cases located with
  | found hchain => exact .inl ⟨rfl, .rfl, rfl⟩
  | created hnone hroot hpair => exact .inr ⟨_, rfl, hne, rfl⟩

/-- Taking message keys has no part in it. -/
theorem SendingChainStep.replaceReceiverChain (h : SendingChainStep P s generated s₁ generated₁) :
    SendingChainStep P s generated (s₁.replaceReceiverChain senderEphemeral chain)
      generated₁ := by
  obtain ⟨hsending, hempty, hgenerated⟩ | ⟨key, hsending, hne, hgenerated⟩ := h
  · exact .inl ⟨hsending, receivingChains_replaceReceiverChain_eq_nil.trans hempty, hgenerated⟩
  · exact .inr ⟨key, hsending, receivingChains_replaceReceiverChain_eq_nil.not.mpr hne,
      hgenerated⟩

section Frame

variable {whisperMessage : WhisperMessage} {s s' : SessionState} {generated generated' : ℕ}
  {result : Except Failure NSData}

theorem TrialOutcome.sameSession (h : TrialOutcome P whisperMessage s generated result s' generated')
    (survives : Survives result) : SameSession s s' := by
  cases h with
  | refused hrefused => exact .refl s
  | terminated assertion s' generated' => exact absurd rfl (survives assertion)
  | noMessageKeys admits located htake => exact located.sameSession
  | notAuthentic admits located htake hopen | decrypted admits located htake hopen =>
      exact ⟨located.sameSession.version, located.sameSession.aliceBaseKey,
        located.sameSession.remoteIdentityKey, located.sameSession.localIdentityKey⟩

theorem TrialOutcome.sendingChainStep
    (h : TrialOutcome P whisperMessage s generated result s' generated')
    (survives : Survives result) : SendingChainStep P s generated s' generated' := by
  cases h with
  | refused hrefused => exact .inl ⟨rfl, .rfl, rfl⟩
  | terminated assertion s' generated' => exact absurd rfl (survives assertion)
  | noMessageKeys admits located htake => exact located.sendingChainStep
  | notAuthentic admits located htake hopen | decrypted admits located htake hopen =>
      exact located.sendingChainStep.replaceReceiverChain

theorem TrialOutcome.receivingChains_ne_nil {plaintext : NSData}
    (h : TrialOutcome P whisperMessage s generated (.ok plaintext) s' generated') :
    s'.receivingChains ≠ [] := by
  cases h with
  | decrypted admits located htake hopen =>
      exact receivingChains_replaceReceiverChain_eq_nil.not.mpr
        (SessionState.receivingChains_ne_nil located.receiverChain)

end Frame

end ObjcSwiftLearning.AxolotlKit
