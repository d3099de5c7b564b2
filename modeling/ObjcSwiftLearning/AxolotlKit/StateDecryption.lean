import ObjcSwiftLearning.AxolotlKit.CipherMessage
import ObjcSwiftLearning.AxolotlKit.SessionState

/-!
# Decrypting with one session state

`throws_decryptWithSessionState:` and the two methods under it.  They mutate the
session state they are given as they go: a ratchet step and the removal or
storing of message keys have happened by the time the MAC is checked, and stay
when it fails.  So they are procedures on a `Trial`, the state under trial with
the key generator.

* `SessionState.Located` — the chain a message is for, found or newly created,
  with the state at that point.
* `ReceivingChain.takeMessageKeys` — what the message does to that chain.
* `SessionState.openWith` — the MAC check and decryption, which write nothing.
* `trialOutcome_run` — **everything a trial can do**, one constructor of
  `TrialOutcome` for each way it ends.
-/

namespace ObjcSwiftLearning.AxolotlKit

open Procedure

/-- A session state under trial, and the number of key pairs generated. -/
structure Trial where
  sessionState : SessionState
  generated : ℕ
  deriving DecidableEq

def modifySession (f : SessionState → SessionState) : Procedure Failure Trial Unit :=
  modify fun trial => { trial with sessionState := f trial.sessionState }

/-- `[Curve25519 generateKeyPair]`, during a trial. -/
def generateNewEphemeral (P : Primitives) : Procedure Failure Trial ECKeyPair := do
  let trial ← read
  modify fun trial => { trial with generated := trial.generated + 1 }
  return P.generatedKeyPair trial.generated

section

variable {P : Primitives} {α : Type} (trial : Trial)

@[simp] theorem run_modifySession_bind (g : SessionState → SessionState)
    (f : Unit → Procedure Failure Trial α) :
    (modifySession g >>= f).run trial =
      (f ()).run { trial with sessionState := g trial.sessionState } := rfl

@[simp] theorem run_generateNewEphemeral_bind (f : ECKeyPair → Procedure Failure Trial α) :
    (generateNewEphemeral P >>= f).run trial =
      (f (P.generatedKeyPair trial.generated)).run
        { trial with generated := trial.generated + 1 } := rfl

end

variable (P : Primitives)

/-- `+[AES_CBC throws_decryptCBCMode:withKey:withIV:]`. -/
def throwsDecryptCBCMode (data : NSData) (key : Key) (iv : Bytes 16) : Except Failure NSData :=
  match P.decryptCBC key iv data with
  | some plaintext => .ok plaintext
  | none => .error (exception .cipherException "We encountered an issue while decrypting.")

/-! ## Chain keys -/

/-- The state changes of the `else` branch of `throws_getOrCreateChainKeys:`. -/
def SessionState.ratchetStep (s : SessionState) (theirEphemeral : NSData)
    (receiverChain senderChain : RKCK) (ourNewEphemeral : ECKeyPair) : SessionState :=
  let s := { s with rootKey := some senderChain.rootKey }
  let s := s.addReceiverChain theirEphemeral receiverChain.chainKey
  let previousCounter := (s.senderChainKey.map (·.index)).getD 0 - 1
  let s := { s with previousCounter := .ofNat previousCounter }
  s.setSenderChain ourNewEphemeral senderChain.chainKey

/-- The `else` branch of `throws_getOrCreateChainKeys:`. -/
def createChainKeys (theirEphemeral : NSData) : Procedure Failure Trial ChainKey := do
  let trial ← read
  let rootKey ← lift (assertNonNil "rootKey.keyData.length == 32" trial.sessionState.rootKey)
  let ourEphemeral ← lift (assertNonNil "ourEphemeral.publicKey.length == 32"
    trial.sessionState.senderRatchetKeyPair)
  let receiverChain ← lift (rootKey.throwsCreateChain P theirEphemeral ourEphemeral)
  let ourNewEphemeral ← generateNewEphemeral P
  let senderChain ←
    lift (receiverChain.rootKey.throwsCreateChain P theirEphemeral ourNewEphemeral)
  modifySession (·.ratchetStep theirEphemeral receiverChain senderChain ourNewEphemeral)
  return receiverChain.chainKey

def throwsGetOrCreateChainKeys (theirEphemeral : NSData) :
    Procedure Failure Trial ChainKey :=
  if theirEphemeral.length = 32 then
    mapError (Failure.catchWith fun _ =>
        exception .invalidMessageException "Chainkeys couldn't be derived") do
      let trial ← read
      match trial.sessionState.receiverChainKey theirEphemeral with
      | some chainKey => return chainKey
      | none => createChainKeys P theirEphemeral
  else
    raise (exception .invalidMessageException "Guard failed: theirEphemeral.length == 32")

/-! ## Message keys -/

def kCounterLimit : ℕ := 2000

/-- The `while` loop of `throws_getOrCreateMessageKeysForSession:`, which runs
once for each index before the counter. -/
def skipMessageKeys (theirEphemeral : NSData) :
    (steps : ℕ) → ChainKey → Procedure Failure Trial ChainKey
  | 0, chainKey => return chainKey
  | steps + 1, chainKey => do
      modifySession (·.setMessageKeys theirEphemeral (chainKey.throwsMessageKeys P))
      let nextChainKey ← lift (chainKey.nextChainKey P)
      skipMessageKeys theirEphemeral steps nextChainKey

def throwsGetOrCreateMessageKeysForSession (theirEphemeral : NSData) (chainKey : ChainKey)
    (counter : Int32) : Procedure Failure Trial (Option MessageKeys) :=
  if theirEphemeral.length = 32 then do
    if counter.toInt < chainKey.index then
      -- The chain is past the message: its keys were stored when it was skipped, or it has come
      -- before.
      let trial ← read
      if trial.sessionState.hasMessageKeys theirEphemeral counter then
        let removed := trial.sessionState.removeMessageKeys theirEphemeral counter
        modifySession fun _ => removed.2
        return removed.1
      else
        raise (exception .duplicateMessageException "Received message with old counter!")
    else if kCounterLimit < counter.toInt - chainKey.index then
      raise (exception .invalidMessageException "Exceeded message keys chain length limit")
    else
      let chainKey ←
        skipMessageKeys P theirEphemeral (counter.toInt - chainKey.index).toNat chainKey
      let nextChainKey ← lift (chainKey.nextChainKey P)
      modifySession (·.setReceiverChainKey theirEphemeral nextChainKey)
      return some (chainKey.throwsMessageKeys P)
  else
    raise (exception .invalidMessageException "Guard failed: theirEphemeral.length == 32")

/-! ## The trial -/

/-- The MAC check and the decryption at the end of
`throws_decryptWithSessionState:`. -/
def SessionState.openWith (s : SessionState) (whisperMessage : WhisperMessage)
    (messageKeys : MessageKeys) : Except Failure NSData := do
  let senderIdentityKey ← assertNonNil "senderIdentityKey" s.remoteIdentityKey
  let receiverIdentityKey ← assertNonNil "receiverIdentityKey" s.localIdentityKey
  whisperMessage.throwsVerifyMac P senderIdentityKey receiverIdentityKey messageKeys.macKey.val
  throwsDecryptCBCMode P whisperMessage.cipherText messageKeys.cipherKey messageKeys.iv

def throwsDecryptWithSessionState (whisperMessage : WhisperMessage) :
    Procedure Failure Trial NSData := do
  let trial ← read
  if trial.sessionState.hasSenderChain then
    if whisperMessage.version = trial.sessionState.version then
      let theirEphemeral ← lift (throwsRemoveKeyType whisperMessage.senderRatchetKey)
      let chainKey ← throwsGetOrCreateChainKeys P theirEphemeral
      let messageKeys ← throwsGetOrCreateMessageKeysForSession P theirEphemeral chainKey
        whisperMessage.counter
      let messageKeys ← lift (assertNonNil "messageKeys" messageKeys)
      let trial ← read
      let plaintext ← lift (trial.sessionState.openWith P whisperMessage messageKeys)
      modifySession (·.clearUnacknowledgedPreKeyMessage)
      return plaintext
    else
      raise (exception .invalidMessageException
        ("Got message version " ++ toString whisperMessage.version.toInt ++
          " but was expecting " ++ toString trial.sessionState.version.toInt))
  else raise (exception .invalidMessageException "Uninitialized session!")

/-! ## What a message does to its chain -/

/-- `throws_getOrCreateMessageKeysForSession:` on the chain alone: the message
keys, and the chain after it. -/
def ReceivingChain.takeMessageKeys (chain : ReceivingChain) (counter : Int32) :
    Except Failure (MessageKeys × ReceivingChain) :=
  if counter.toInt < chain.chainKey.index then
    match chain.messageKeysList.find? (SessionState.isMessageKeysOf counter) with
    | some messageKeys =>
        .ok (messageKeys, { chain with
          messageKeysList :=
            chain.messageKeysList.eraseP (SessionState.isMessageKeysOf counter) })
    | none =>
        .error (exception .duplicateMessageException "Received message with old counter!")
  else if kCounterLimit < counter.toInt - chain.chainKey.index then
    .error (exception .invalidMessageException "Exceeded message keys chain length limit")
  else
    let steps := (counter.toInt - chain.chainKey.index).toNat
    if h : chain.chainKey.index + steps + 1 < 2 ^ 31 then
      .ok (chain.chainKey.messageKeysAt P steps, { chain with
        chainKey := chain.chainKey.advance P (steps + 1) h
        messageKeysList :=
          chain.messageKeysList ++ chain.chainKey.skippedMessageKeys P steps })
    else .error (.terminated "!_didOverflow")

variable {P} {chain : ReceivingChain}

theorem run_skipMessageKeys {theirEphemeral : NSData} (steps : ℕ) (chainKey : ChainKey)
    (h : chainKey.index + steps < 2 ^ 31) (trial : Trial) :
    (skipMessageKeys P theirEphemeral steps chainKey).run trial =
      (.ok (chainKey.advance P steps h), { trial with
        sessionState := trial.sessionState.updateReceiverChain theirEphemeral fun chain =>
          { chain with
            messageKeysList :=
              chain.messageKeysList ++ chainKey.skippedMessageKeys P steps } }) := by
  induction steps generalizing chainKey trial with
  | zero =>
      have hsame : trial.sessionState.updateReceiverChain theirEphemeral (fun chain =>
          { chain with messageKeysList := chain.messageKeysList ++ [] }) =
            trial.sessionState := by
        simp [SessionState.updateReceiverChain, List.updateFirst_id]
      simp only [skipMessageKeys, run_pure, ChainKey.advance_zero,
        ChainKey.skippedMessageKeys_zero, hsame]
  | succ steps ih =>
      have hone : chainKey.index + 1 < 2 ^ 31 := by omega
      have hrest : (chainKey.advance P 1 hone).index + steps < 2 ^ 31 := by
        simp only [ChainKey.advance]
        omega
      have hkeeps : SessionState.KeepsRatchetKey theirEphemeral fun chain =>
          { chain with
            messageKeysList := chain.messageKeysList ++ [chainKey.throwsMessageKeys P] } :=
        fun chain hchain => hchain
      simp only [skipMessageKeys, run_modifySession_bind,
        ChainKey.nextChainKey_eq_advance P chainKey hone, run_lift_ok_bind, ih _ hrest,
        ChainKey.advance_advance P chainKey (Nat.add_comm 1 steps), SessionState.setMessageKeys,
        SessionState.updateReceiverChain_updateReceiverChain hkeeps,
        ChainKey.skippedMessageKeys_succ P chainKey steps hone, List.append_assoc,
        List.singleton_append]

namespace ReceivingChain

variable {chain' : ReceivingChain} {counter : Int32} {messageKeys : MessageKeys}

/-- **What taking message keys does**: they were stored, and are removed; or the
chain moves past the counter and stores what it skips. -/
theorem takeMessageKeys_eq_ok :
    chain.takeMessageKeys P counter = .ok (messageKeys, chain') ↔
      (counter.toInt < chain.chainKey.index ∧
        chain.messageKeysList.find? (SessionState.isMessageKeysOf counter) = some messageKeys ∧
        chain' = { chain with
          messageKeysList :=
            chain.messageKeysList.eraseP (SessionState.isMessageKeysOf counter) }) ∨
      (∃ steps : ℕ, ∃ h : chain.chainKey.index + (steps + 1) < 2 ^ 31,
        counter.toInt = (chain.chainKey.index + steps : ℕ) ∧ steps ≤ kCounterLimit ∧
        messageKeys = chain.chainKey.messageKeysAt P steps ∧
        chain' = { chain with
          chainKey := chain.chainKey.advance P (steps + 1) h
          messageKeysList :=
            chain.messageKeysList ++ chain.chainKey.skippedMessageKeys P steps }) := by
  unfold takeMessageKeys
  by_cases hold : counter.toInt < chain.chainKey.index
  · rw [if_pos hold]
    cases hfind : chain.messageKeysList.find? (SessionState.isMessageKeysOf counter) with
    | none =>
        simp only [reduceCtorEq, false_and, and_false, false_or, false_iff]
        rintro ⟨steps, -, hcounter, -⟩
        omega
    | some found =>
        simp only [Except.ok.injEq, Prod.mk.injEq, hold, true_and, Option.some.injEq]
        constructor
        · rintro ⟨rfl, rfl⟩
          exact .inl ⟨rfl, rfl⟩
        · rintro (⟨rfl, rfl⟩ | ⟨steps, -, hcounter, -⟩)
          · exact ⟨rfl, rfl⟩
          · omega
  · rw [if_neg hold]
    -- The counter is not behind the chain, so it is so many steps ahead.
    by_cases hlimit : (kCounterLimit : ℤ) < counter.toInt - chain.chainKey.index
    · rw [if_pos hlimit]
      simp only [reduceCtorEq, hold, false_and, false_or, false_iff]
      rintro ⟨steps, -, hcounter, hsteps, -⟩
      omega
    · rw [if_neg hlimit]
      obtain ⟨steps, hsteps⟩ : ∃ steps : ℕ, counter.toInt - chain.chainKey.index = steps :=
        ⟨_, (Int.toNat_of_nonneg (by omega)).symm⟩
      simp only [hsteps, Int.toNat_natCast, hold, false_and, false_or]
      constructor
      · intro h
        split at h
        · rename_i hover
          simp only [Except.ok.injEq, Prod.mk.injEq] at h
          obtain ⟨rfl, rfl⟩ := h
          exact ⟨steps, hover, by push_cast; omega, by omega, rfl, rfl⟩
        · simp at h
      · rintro ⟨steps', hover, hcounter, -, rfl, rfl⟩
        obtain rfl : steps = steps' := by
          push_cast at hcounter
          omega
        rw [dif_pos (by omega)]

theorem takeMessageKeys_senderRatchetKey
    (h : chain.takeMessageKeys P counter = .ok (messageKeys, chain')) :
    chain'.senderRatchetKey = chain.senderRatchetKey := by
  obtain ⟨-, -, rfl⟩ | ⟨steps, -, -, -, -, rfl⟩ := takeMessageKeys_eq_ok.mp h <;> rfl

/-- What is stored gets less, or the chain moves on. -/
theorem takeMessageKeys_ne (h : chain.takeMessageKeys P counter = .ok (messageKeys, chain')) :
    chain' ≠ chain := by
  obtain ⟨-, hfind, rfl⟩ | ⟨steps, -, -, -, -, rfl⟩ := takeMessageKeys_eq_ok.mp h
  · intro hsame
    have hlength := congrArg (fun chain => chain.messageKeysList.length) hsame
    have hmem := List.mem_of_find?_eq_some hfind
    have hpos := List.length_pos_of_mem hmem
    simp only [List.length_eraseP_of_mem hmem (List.find?_some hfind)] at hlength
    omega
  · intro hsame
    have hindex := congrArg (fun chain => chain.chainKey.index) hsame
    simp only [ChainKey.advance_index] at hindex
    omega

end ReceivingChain

open SessionState in
/-- The method is `takeMessageKeys` on the chain, up to what a terminated process
has written. -/
theorem run_throwsGetOrCreateMessageKeysForSession {theirEphemeral : NSData} (counter : Int32)
    (trial : Trial) (hlength : theirEphemeral.length = 32)
    (hchain : trial.sessionState.receiverChain theirEphemeral = some chain) :
    match chain.takeMessageKeys P counter with
    | .ok (messageKeys, chain') =>
        (throwsGetOrCreateMessageKeysForSession P theirEphemeral chain.chainKey counter).run
            trial =
          (.ok (some messageKeys), { trial with
            sessionState := trial.sessionState.replaceReceiverChain theirEphemeral chain' })
    | .error (.raised e) =>
        (throwsGetOrCreateMessageKeysForSession P theirEphemeral chain.chainKey counter).run
            trial = (.error (.raised e), trial)
    | .error (.terminated assertion) =>
        ((throwsGetOrCreateMessageKeysForSession P theirEphemeral chain.chainKey counter).run
            trial).1 = .error (.terminated assertion) := by
  unfold throwsGetOrCreateMessageKeysForSession ReceivingChain.takeMessageKeys
  simp only [if_pos hlength]
  by_cases hold : counter.toInt < chain.chainKey.index
  · -- An old counter: the keys were stored, or the message is a duplicate.
    simp only [if_pos hold, run_read_bind]
    cases hfind : chain.messageKeysList.find? (isMessageKeysOf counter) with
    | none =>
        have hhas : trial.sessionState.hasMessageKeys theirEphemeral counter = false := by
          simpa [hasMessageKeys, hchain] using hfind
        simp only [hhas]
        rfl
    | some messageKeys =>
        have hhas : trial.sessionState.hasMessageKeys theirEphemeral counter = true := by
          simp only [hasMessageKeys, hchain, List.any_eq_true]
          exact ⟨messageKeys, List.mem_of_find?_eq_some hfind, List.find?_some hfind⟩
        simp only [hhas, if_true, run_modifySession_bind, removeMessageKeys, hchain, hfind,
          run_pure, replaceReceiverChain]
        rw [updateReceiverChain_congr hchain]
        rfl
  · simp only [if_neg hold]
    by_cases hlimit : (kCounterLimit : ℤ) < counter.toInt - chain.chainKey.index
    · simp only [if_pos hlimit]
      rfl
    · simp only [if_neg hlimit]
      -- The loop runs up to the counter, and one step more is stored.
      have hcounter := counter.toInt_lt
      have hsteps : chain.chainKey.index + (counter.toInt - chain.chainKey.index).toNat <
          2 ^ 31 := by omega
      rw [run_bind_of_ok (run_skipMessageKeys _ _ hsteps trial)]
      generalize (counter.toInt - chain.chainKey.index).toNat = steps at hsteps
      by_cases hnext : chain.chainKey.index + steps + 1 < 2 ^ 31
      · have hone : (chain.chainKey.advance P steps hsteps).index + 1 < 2 ^ 31 := hnext
        simp only [dif_pos hnext, ChainKey.nextChainKey_eq_advance P _ hone, run_lift_ok_bind,
          run_modifySession_bind, run_pure, ChainKey.throwsMessageKeys_advance,
          ChainKey.advance_advance P chain.chainKey rfl, setReceiverChainKey,
          replaceReceiverChain]
        rw [updateReceiverChain_updateReceiverChain (f := fun chain' => { chain' with
            messageKeysList :=
              chain'.messageKeysList ++ chain.chainKey.skippedMessageKeys P steps })
          (fun _ hkey => hkey), updateReceiverChain_congr hchain]
        rfl
      · have hover : (chain.chainKey.advance P steps hsteps).nextChainKey P =
            .error (.terminated "!_didOverflow") := dif_neg hnext
        simp only [dif_neg hnext, hover]
        rfl

/-! ## The chain a message is for -/

namespace SessionState

/-- The two chains of a ratchet step: the one the message is on, and our next. -/
def receivingRKCK (P : Primitives) (rootKey : RootKey) (ourEphemeral : ECKeyPair)
    (theirEphemeral : Key) : RKCK :=
  rootKey.chain P (P.curve25519 ourEphemeral.privateKey theirEphemeral)

def ratcheted (P : Primitives) (s : SessionState) (rootKey : RootKey)
    (ourEphemeral ourNewEphemeral : ECKeyPair) (theirEphemeral : Key) : SessionState :=
  let receiverChain := receivingRKCK P rootKey ourEphemeral theirEphemeral
  s.ratchetStep theirEphemeral.val receiverChain
    (receivingRKCK P receiverChain.rootKey ourNewEphemeral theirEphemeral) ourNewEphemeral

/-- The chain for an ephemeral key, in a state that has it or has just ratcheted
to it. -/
inductive LocatedChain (P : Primitives) (s : SessionState) (generated : ℕ)
    (theirEphemeral : Key) : ReceivingChain → SessionState → ℕ → Prop
  | found {chain : ReceivingChain} (hchain : s.receiverChain theirEphemeral.val = some chain) :
      LocatedChain P s generated theirEphemeral chain s generated
  | created {rootKey : RootKey} {ourEphemeral : ECKeyPair}
      (hnone : s.receiverChain theirEphemeral.val = none)
      (hroot : s.rootKey = some rootKey) (hpair : s.senderRatchetKeyPair = some ourEphemeral) :
      LocatedChain P s generated theirEphemeral
        (.initWithChainKey (receivingRKCK P rootKey ourEphemeral theirEphemeral).chainKey
          theirEphemeral.val)
        (s.ratcheted P rootKey ourEphemeral (P.generatedKeyPair generated) theirEphemeral)
        (generated + 1)

structure Admits (s : SessionState) (whisperMessage : WhisperMessage) (theirEphemeral : Key) :
    Prop where
  hasSenderChain : s.hasSenderChain = true
  version : whisperMessage.version = s.version
  ephemeral : throwsRemoveKeyType whisperMessage.senderRatchetKey = .ok theirEphemeral.val

section Ratcheted

variable {s : SessionState} {rootKey : RootKey} {ourEphemeral ourNewEphemeral : ECKeyPair}
  {theirEphemeral : Key}

/-- A new chain is found under its key: if chains are dropped, then at the other
end. -/
theorem receiverChain_addReceiverChain {senderRatchetKey : NSData} {chainKey : ChainKey}
    (hnone : s.receiverChain senderRatchetKey = none) :
    (s.addReceiverChain senderRatchetKey chainKey).receiverChain senderRatchetKey =
      some (.initWithChainKey chainKey senderRatchetKey) := by
  let added : ReceivingChain := .initWithChainKey chainKey senderRatchetKey
  have hself : isChainOf senderRatchetKey added = true := isChainOf_eq_true.mpr rfl
  have happend : (s.receivingChains ++ [added]).find? (isChainOf senderRatchetKey) =
      some added := by
    rw [List.find?_append, show s.receivingChains.find? _ = none from hnone, Option.none_or,
      List.find?_cons_of_pos hself]
  unfold addReceiverChain
  cases hchains : s.receivingChains with
  | nil =>
      rw [hchains] at happend
      simpa [receiverChain, receivingChainsMaxLength] using happend
  | cons oldest chains =>
      rw [hchains] at happend
      have hold : isChainOf senderRatchetKey oldest = false := by
        rw [receiverChain, hchains, List.find?_cons] at hnone
        cases hmatch : isChainOf senderRatchetKey oldest with
        | false => rfl
        | true => simp [hmatch] at hnone
      simp only [receiverChain]
      split
      · simpa [hold] using happend
      · exact happend

theorem receiverChain_ratcheted (hnone : s.receiverChain theirEphemeral.val = none) :
    (s.ratcheted P rootKey ourEphemeral ourNewEphemeral theirEphemeral).receiverChain
        theirEphemeral.val =
      some (.initWithChainKey (receivingRKCK P rootKey ourEphemeral theirEphemeral).chainKey
        theirEphemeral.val) :=
  receiverChain_addReceiverChain (s := { s with
    rootKey := some (receivingRKCK P (receivingRKCK P rootKey ourEphemeral
      theirEphemeral).rootKey ourNewEphemeral theirEphemeral).rootKey }) hnone

end Ratcheted

theorem LocatedChain.receiverChain {s s₁ : SessionState} {generated generated₁ : ℕ}
    {theirEphemeral : Key} {chain : ReceivingChain}
    (located : LocatedChain P s generated theirEphemeral chain s₁ generated₁) :
    s₁.receiverChain theirEphemeral.val = some chain := by
  cases located with
  | found hchain => exact hchain
  | created hnone hroot hpair => exact receiverChain_ratcheted hnone

theorem LocatedChain.openWith {s s₁ : SessionState} {generated generated₁ : ℕ}
    {theirEphemeral : Key} {chain : ReceivingChain}
    (located : LocatedChain P s generated theirEphemeral chain s₁ generated₁)
    (whisperMessage : WhisperMessage) (messageKeys : MessageKeys) :
    s₁.openWith P whisperMessage messageKeys = s.openWith P whisperMessage messageKeys := by
  cases located with
  | found hchain => rfl
  | created hnone hroot hpair => rfl

end SessionState

open SessionState

theorem run_throwsGetOrCreateChainKeys_of_located {s s₁ : SessionState} {generated generated₁ : ℕ}
    {theirEphemeral : Key}
    (located : LocatedChain P s generated theirEphemeral chain s₁ generated₁) :
    (throwsGetOrCreateChainKeys P theirEphemeral.val).run ⟨s, generated⟩ =
      (.ok chain.chainKey, ⟨s₁, generated₁⟩) := by
  unfold throwsGetOrCreateChainKeys
  rw [if_pos theirEphemeral.property, run_mapError, run_read_bind]
  cases located with
  | found hchain =>
      have hkey : s.receiverChainKey theirEphemeral.val = some chain.chainKey := by
        simp [receiverChainKey, hchain]
      simp only [hkey, run_pure]
  | created hnone hroot hpair =>
      have hkey : s.receiverChainKey theirEphemeral.val = none := by
        simp [receiverChainKey, hnone]
      simp only [hkey, createChainKeys, run_read_bind, hroot, hpair, assertNonNil,
        run_lift_ok_bind, RootKey.throwsCreateChain_key, run_generateNewEphemeral_bind,
        run_modifySession_bind, run_pure]
      rfl

/-! ## Everything a trial can do -/

inductive TrialOutcome (P : Primitives) (whisperMessage : WhisperMessage) (s : SessionState)
    (generated : ℕ) : Except Failure NSData → SessionState → ℕ → Prop
  /-- A check on the state or the ephemeral key failed. -/
  | refused {e : NSException} (hrefused : ∀ theirEphemeral, ¬s.Admits whisperMessage theirEphemeral) :
      TrialOutcome P whisperMessage s generated (.error (.raised e)) s generated
  /-- A failed assertion ended the process. -/
  | terminated (assertion : String) (s' : SessionState) (generated' : ℕ) :
      TrialOutcome P whisperMessage s generated (.error (.terminated assertion)) s' generated'
  | noMessageKeys {theirEphemeral : Key} {chain : ReceivingChain} {s₁ : SessionState}
      {generated₁ : ℕ} {e : NSException}
      (admits : s.Admits whisperMessage theirEphemeral)
      (located : LocatedChain P s generated theirEphemeral chain s₁ generated₁)
      (htake : chain.takeMessageKeys P whisperMessage.counter = .error (.raised e)) :
      TrialOutcome P whisperMessage s generated (.error (.raised e)) s₁ generated₁
  /-- The message keys, already taken, do not open the message. -/
  | notAuthentic {theirEphemeral : Key} {chain chain' : ReceivingChain} {s₁ : SessionState}
      {generated₁ : ℕ} {messageKeys : MessageKeys} {e : NSException}
      (admits : s.Admits whisperMessage theirEphemeral)
      (located : LocatedChain P s generated theirEphemeral chain s₁ generated₁)
      (htake : chain.takeMessageKeys P whisperMessage.counter = .ok (messageKeys, chain'))
      (hopen : s.openWith P whisperMessage messageKeys = .error (.raised e)) :
      TrialOutcome P whisperMessage s generated (.error (.raised e))
        (s₁.replaceReceiverChain theirEphemeral.val chain') generated₁
  | decrypted {theirEphemeral : Key} {chain chain' : ReceivingChain} {s₁ : SessionState}
      {generated₁ : ℕ} {messageKeys : MessageKeys} {plaintext : NSData}
      (admits : s.Admits whisperMessage theirEphemeral)
      (located : LocatedChain P s generated theirEphemeral chain s₁ generated₁)
      (htake : chain.takeMessageKeys P whisperMessage.counter = .ok (messageKeys, chain'))
      (hopen : s.openWith P whisperMessage messageKeys = .ok plaintext) :
      TrialOutcome P whisperMessage s generated (.ok plaintext)
        (s₁.replaceReceiverChain theirEphemeral.val chain').clearUnacknowledgedPreKeyMessage
        generated₁

/-- **A trial on a located chain**, with its equation for each way it ends. -/
theorem run_throwsDecryptWithSessionState {whisperMessage : WhisperMessage} {s s₁ : SessionState}
    {generated generated₁ : ℕ} {theirEphemeral : Key}
    (admits : s.Admits whisperMessage theirEphemeral)
    (located : LocatedChain P s generated theirEphemeral chain s₁ generated₁) :
    match chain.takeMessageKeys P whisperMessage.counter with
    | .ok (messageKeys, chain') =>
        (throwsDecryptWithSessionState P whisperMessage).run ⟨s, generated⟩ =
          match s.openWith P whisperMessage messageKeys with
          | .ok plaintext => (.ok plaintext, ⟨(s₁.replaceReceiverChain theirEphemeral.val
              chain').clearUnacknowledgedPreKeyMessage, generated₁⟩)
          | .error e => (.error e, ⟨s₁.replaceReceiverChain theirEphemeral.val chain', generated₁⟩)
    | .error (.raised e) =>
        (throwsDecryptWithSessionState P whisperMessage).run ⟨s, generated⟩ =
          (.error (.raised e), ⟨s₁, generated₁⟩)
    | .error (.terminated assertion) =>
        ((throwsDecryptWithSessionState P whisperMessage).run ⟨s, generated⟩).1 =
          .error (.terminated assertion) := by
  have hchain := run_throwsGetOrCreateMessageKeysForSession (P := P) whisperMessage.counter
    ⟨s₁, generated₁⟩ theirEphemeral.property located.receiverChain
  simp only [throwsDecryptWithSessionState, run_read_bind, admits.hasSenderChain, if_true,
    admits.version, admits.ephemeral, run_lift_ok_bind]
  rw [run_bind_of_ok (run_throwsGetOrCreateChainKeys_of_located located)]
  cases htake : chain.takeMessageKeys P whisperMessage.counter with
  | ok result =>
      obtain ⟨messageKeys, chain'⟩ := result
      simp only [htake] at hchain
      have hopen : (s₁.replaceReceiverChain theirEphemeral.val chain').openWith P whisperMessage
          messageKeys = s.openWith P whisperMessage messageKeys :=
        located.openWith whisperMessage messageKeys
      rw [run_bind_of_ok hchain]
      simp only [assertNonNil, run_lift_ok_bind, run_read_bind, hopen]
      cases s.openWith P whisperMessage messageKeys with
      | ok plaintext => rfl
      | error e => rfl
  | error failure =>
      cases failure with
      | raised e =>
          simp only [htake] at hchain
          exact run_bind_of_error hchain
      | terminated assertion =>
          simp only [htake] at hchain
          dsimp only
          rw [run_bind_of_error (Prod.ext hchain rfl)]

/-- **A trial does one of these things.** -/
theorem trialOutcome_run (whisperMessage : WhisperMessage) (s : SessionState) (generated : ℕ) :
    TrialOutcome P whisperMessage s generated
      ((throwsDecryptWithSessionState P whisperMessage).run ⟨s, generated⟩).1
      ((throwsDecryptWithSessionState P whisperMessage).run ⟨s, generated⟩).2.sessionState
      ((throwsDecryptWithSessionState P whisperMessage).run ⟨s, generated⟩).2.generated := by
  by_cases hadmits : ∃ theirEphemeral, s.Admits whisperMessage theirEphemeral
  case neg =>
    -- Each of the checks that can fail raises and writes nothing.
    have hrefused : ∀ theirEphemeral, ¬s.Admits whisperMessage theirEphemeral :=
      fun theirEphemeral h => hadmits ⟨theirEphemeral, h⟩
    suffices h : ∃ e, (throwsDecryptWithSessionState P whisperMessage).run ⟨s, generated⟩ =
        (.error (.raised e), ⟨s, generated⟩) by
      obtain ⟨e, h⟩ := h
      rw [h]
      exact .refused hrefused
    unfold throwsDecryptWithSessionState
    simp only [run_read_bind]
    by_cases hsender : s.hasSenderChain = true
    case neg => exact ⟨_, by rw [if_neg hsender]; rfl⟩
    by_cases hversion : whisperMessage.version = s.version
    case neg => exact ⟨_, by rw [if_pos hsender, if_neg hversion]; rfl⟩
    rw [if_pos hsender, if_pos hversion]
    cases hephemeral : throwsRemoveKeyType whisperMessage.senderRatchetKey with
    | error failure =>
        obtain rfl := throwsRemoveKeyType_error hephemeral
        exact ⟨_, rfl⟩
    | ok theirEphemeral =>
        by_cases hlength : theirEphemeral.length = 32
        · exact absurd ⟨hsender, hversion, hephemeral⟩ (hrefused ⟨theirEphemeral, hlength⟩)
        · refine ⟨⟨.invalidMessageException, "Guard failed: theirEphemeral.length == 32"⟩, ?_⟩
          rw [run_lift_ok_bind, throwsGetOrCreateChainKeys, if_neg hlength]
          rfl
  case pos =>
    obtain ⟨theirEphemeral, admits⟩ := hadmits
    by_cases hlocated : ∃ chain s₁ generated₁,
        LocatedChain P s generated theirEphemeral chain s₁ generated₁
    case pos =>
      obtain ⟨chain, s₁, generated₁, located⟩ := hlocated
      have hrun := run_throwsDecryptWithSessionState admits located
      cases htake : chain.takeMessageKeys P whisperMessage.counter with
      | ok result =>
          obtain ⟨messageKeys, chain'⟩ := result
          simp only [htake] at hrun
          rw [hrun]
          cases hopen : s.openWith P whisperMessage messageKeys with
          | ok plaintext => exact .decrypted admits located htake hopen
          | error failure =>
              cases failure with
              | raised e => exact .notAuthentic admits located htake hopen
              | terminated assertion => exact .terminated _ _ _
      | error failure =>
          cases failure with
          | raised e =>
              simp only [htake] at hrun
              rw [hrun]
              exact .noMessageKeys admits located htake
          | terminated assertion =>
              simp only [htake] at hrun
              rw [hrun]
              exact .terminated _ _ _
    case neg =>
      -- No chain and no root key to derive one from.
      have hnone : s.receiverChain theirEphemeral.val = none := by
        cases hchain : s.receiverChain theirEphemeral.val with
        | none => rfl
        | some chain => exact absurd ⟨_, _, _, .found hchain⟩ hlocated
      obtain ⟨sendingChain, hsending⟩ := Option.isSome_iff_exists.mp admits.hasSenderChain
      have hroot : s.rootKey = none := by
        cases hroot : s.rootKey with
        | none => rfl
        | some rootKey =>
            have hpair : s.senderRatchetKeyPair = some sendingChain.senderRatchetKeyPair := by
              simp [senderRatchetKeyPair, hsending]
            exact absurd ⟨_, _, _, .created hnone hroot hpair⟩ hlocated
      have hrun : (throwsDecryptWithSessionState P whisperMessage).run ⟨s, generated⟩ =
          (.error (.terminated "rootKey.keyData.length == 32"), ⟨s, generated⟩) := by
        have hkey : s.receiverChainKey theirEphemeral.val = none := by
          simp [receiverChainKey, hnone]
        have hcreate : (throwsGetOrCreateChainKeys P theirEphemeral.val).run ⟨s, generated⟩ =
            (.error (.terminated "rootKey.keyData.length == 32"), ⟨s, generated⟩) := by
          rw [throwsGetOrCreateChainKeys, if_pos theirEphemeral.property, run_mapError,
            run_read_bind]
          simp only [hkey, createChainKeys, run_read_bind, hroot, assertNonNil]
          rfl
        simp only [throwsDecryptWithSessionState, run_read_bind, admits.hasSenderChain, if_true,
          admits.version, admits.ephemeral, run_lift_ok_bind]
        exact run_bind_of_error hcreate
      rw [hrun]
      exact .terminated _ _ _

theorem trialOutcome_of_run {whisperMessage : WhisperMessage} {s s' : SessionState}
    {generated generated' : ℕ} {result : Except Failure NSData}
    (hrun : (throwsDecryptWithSessionState P whisperMessage).run ⟨s, generated⟩ =
      (result, ⟨s', generated'⟩)) :
    TrialOutcome P whisperMessage s generated result s' generated' := by
  have h := trialOutcome_run (P := P) whisperMessage s generated
  rwa [hrun] at h

end ObjcSwiftLearning.AxolotlKit
