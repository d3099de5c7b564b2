import Mathlib.Logic.Basic
import ObjcSwiftLearning.AxolotlKit.AdditivePrimitives
import ObjcSwiftLearning.AxolotlKit.ReceivingLedger
import ObjcSwiftLearning.AxolotlKit.TrialEffects
import ObjcSwiftLearning.Library.LabelledRun

/-!
# The message keys of one receiver chain

`throws_getOrCreateMessageKeysForSession:` is called again and again on a session, for one chain
and for others, with whatever counters the messages claim.  A chain begins at index `0` with no
stored keys; from then on every counter it has passed has either been handed out or is stored.

* `MessageKeysStep` — a call, for a chain the session has and with the chain key it has there.
* `MessageKeysStep.outcome` — **what a call can do**: it raises and writes nothing, or it is
  `ReceivingChain.takeMessageKeys`.
* `Bookkeeping` — the invariant; `Bookkeeping.takeMessageKeys` is its step.
* `skippedKeys_spec` — the bookkeeping over every run of calls.
-/

namespace ObjcSwiftLearning.AxolotlKit

open Procedure SessionState

variable {P : Primitives}

/-! ## Calls -/

/-- A call of `throws_getOrCreateMessageKeysForSession:`, with what came of it. -/
structure MessageKeysCall where
  theirEphemeral : NSData
  counter : Int32
  result : Except Failure (Option MessageKeys)

def MessageKeysCall.handedOut (call : MessageKeysCall) : Option ℕ :=
  match call.result with
  | .ok (some messageKeys) => some messageKeys.index
  | _ => none

def handedOut (theirEphemeral : NSData) (calls : List MessageKeysCall) : List ℕ :=
  (calls.filter (·.theirEphemeral == theirEphemeral)).filterMap (·.handedOut)

/-- A call for a chain of the session, with the chain key it has there.  A process that is
terminated makes no call after it. -/
inductive MessageKeysStep (P : Primitives) : Trial → MessageKeysCall → Trial → Prop
  | call {trial trial' : Trial} {theirEphemeral : NSData} {chain : ReceivingChain}
      {counter : Int32} {result : Except Failure (Option MessageKeys)}
      (hchain : trial.sessionState.receiverChain theirEphemeral = some chain)
      (hrun : (throwsGetOrCreateMessageKeysForSession P theirEphemeral chain.chainKey
        counter).run trial = (result, trial'))
      (survives : Survives result) :
      MessageKeysStep P trial ⟨theirEphemeral, counter, result⟩ trial'

variable {trial trial' : Trial} {call : MessageKeysCall} {calls : List MessageKeysCall}
  {theirEphemeral : NSData} {chain chain' : ReceivingChain}

/-- **What a call can do**: it raises and writes nothing, or it takes message keys from its
chain. -/
theorem MessageKeysStep.outcome (h : MessageKeysStep P trial call trial') :
    ∃ chain, trial.sessionState.receiverChain call.theirEphemeral = some chain ∧
      ((∃ e, call.result = .error (.raised e) ∧ trial' = trial) ∨
        ∃ messageKeys chain', chain.takeMessageKeys P call.counter = .ok (messageKeys, chain') ∧
          call.result = .ok (some messageKeys) ∧
          trial'.sessionState =
            trial.sessionState.replaceReceiverChain call.theirEphemeral chain') := by
  obtain ⟨hchain, hrun, survives⟩ := h
  rename_i theirEphemeral chain counter result
  refine ⟨chain, hchain, ?_⟩
  by_cases hlength : theirEphemeral.length = 32
  · have htake := run_throwsGetOrCreateMessageKeysForSession (P := P) counter trial hlength hchain
    cases hresult : chain.takeMessageKeys P counter with
    | ok taken =>
        obtain ⟨messageKeys, chain'⟩ := taken
        simp only [hresult] at htake
        rw [hrun, Prod.mk.injEq] at htake
        obtain ⟨rfl, rfl⟩ := htake
        exact .inr ⟨messageKeys, chain', rfl, rfl, rfl⟩
    | error failure =>
        cases failure with
        | raised e =>
            simp only [hresult] at htake
            rw [hrun, Prod.mk.injEq] at htake
            exact .inl ⟨e, htake.1, htake.2⟩
        | terminated assertion =>
            simp only [hresult] at htake
            rw [hrun] at htake
            exact absurd htake (survives assertion)
  · -- The guard on the length of the key.
    rw [throwsGetOrCreateMessageKeysForSession, if_neg hlength] at hrun
    obtain ⟨rfl, rfl⟩ := Prod.mk.inj hrun
    exact .inl ⟨_, rfl, rfl⟩

theorem MessageKeysStep.receiverChain_of_ne (h : MessageKeysStep P trial call trial')
    (hne : theirEphemeral ≠ call.theirEphemeral) :
    trial'.sessionState.receiverChain theirEphemeral =
      trial.sessionState.receiverChain theirEphemeral := by
  obtain ⟨chain, hchain, ⟨e, -, rfl⟩ | ⟨messageKeys, chain', htake, -, hstate⟩⟩ := h.outcome
  · rfl
  · have hkey := (ReceivingChain.takeMessageKeys_senderRatchetKey htake).trans
      (senderRatchetKey_of_receiverChain hchain)
    rw [hstate, replaceReceiverChain]
    exact receiverChain_updateReceiverChain_of_ne hne fun _ _ => hkey

theorem MessageKeysStep.receiverChain_of_eq (h : MessageKeysStep P trial call trial')
    (hchain : trial.sessionState.receiverChain call.theirEphemeral = some chain) :
    (∃ e, call.result = .error (.raised e) ∧ trial' = trial) ∨
      ∃ messageKeys chain', chain.takeMessageKeys P call.counter = .ok (messageKeys, chain') ∧
        call.result = .ok (some messageKeys) ∧
        trial'.sessionState.receiverChain call.theirEphemeral = some chain' := by
  obtain ⟨found, hfound, hcases⟩ := h.outcome
  obtain rfl : found = chain := Option.some.inj (hfound.symm.trans hchain)
  rcases hcases with hraised | ⟨messageKeys, chain', htake, hresult, hstate⟩
  · exact .inl hraised
  · refine .inr ⟨messageKeys, chain', htake, hresult, ?_⟩
    rw [hstate]
    exact receiverChain_replaceReceiverChain hchain
      (ReceivingChain.takeMessageKeys_senderRatchetKey htake)

/-! ## The invariant -/

structure Bookkeeping (P : Primitives) (key : Key) (handedOut : List ℕ) (chain : ReceivingChain) :
    Prop where
  orderly : chain.Orderly
  keyedBy : chain.KeyedBy P key
  spent : ∀ number, chain.Spent number ↔ number ∈ handedOut
  nodup : handedOut.Nodup

variable {key : Key} {counters : List ℕ} {counter : Int32} {messageKeys : MessageKeys}

theorem bookkeeping_initWithChainKey (P : Primitives) (key : Key) (senderRatchetKey : NSData) :
    Bookkeeping P key [] (.initWithChainKey (.initial key) senderRatchetKey) where
  orderly := ReceivingChain.orderly_initWithChainKey _ _
  keyedBy :=
    { chainKey := rfl
      messageKeys := by simp [ReceivingChain.initWithChainKey] }
  spent := by simp [ReceivingChain.Spent, ReceivingChain.initWithChainKey, ChainKey.initial]
  nodup := List.nodup_nil

theorem Bookkeeping.index_notMem (h : Bookkeeping P key counters chain)
    (htake : chain.takeMessageKeys P counter = .ok (messageKeys, chain')) :
    messageKeys.index ∉ counters := by
  intro hmem
  have hindex := ReceivingChain.index_takeMessageKeys htake
  exact h.orderly.takeMessageKeys_ne_ok_of_spent hindex.symm ((h.spent _).mpr hmem) htake

/-- **Taking message keys keeps the books.** -/
theorem Bookkeeping.takeMessageKeys (h : Bookkeeping P key counters chain)
    (htake : chain.takeMessageKeys P counter = .ok (messageKeys, chain')) :
    Bookkeeping P key (counters ++ [messageKeys.index]) chain' where
  orderly := h.orderly.takeMessageKeys htake
  keyedBy := (h.keyedBy.takeMessageKeys htake).2
  spent number := by
    rw [h.orderly.spent_takeMessageKeys htake, h.spent, List.mem_append, List.mem_singleton]
  nodup := by
    refine h.nodup.append (List.nodup_singleton _) ?_
    rw [List.disjoint_singleton]
    exact h.index_notMem htake

/-- The chain goes on by no more than the counters it skips and the one it hands out. -/
theorem index_le_of_takeMessageKeys
    (htake : chain.takeMessageKeys P counter = .ok (messageKeys, chain')) :
    chain.chainKey.index ≤ chain'.chainKey.index ∧
      chain'.chainKey.index ≤ chain.chainKey.index + 2001 := by
  obtain ⟨-, -, rfl⟩ | ⟨steps, -, -, hlimit, -, rfl⟩ :=
    ReceivingChain.takeMessageKeys_eq_ok.mp htake
  · exact ⟨le_refl _, Nat.le_add_right _ _⟩
  · rw [kCounterLimit] at hlimit
    simp only [ChainKey.advance_index]
    omega

/-- **The books are kept over every run of calls.** -/
theorem bookkeeping_run {start : Trial}
    (hstart : start.sessionState.receiverChain theirEphemeral =
      some (.initWithChainKey (.initial key) theirEphemeral))
    (run : LabelledRun (MessageKeysStep P) start calls trial) :
    ∃ chain, trial.sessionState.receiverChain theirEphemeral = some chain ∧
      Bookkeeping P key (handedOut theirEphemeral calls) chain := by
  refine run.invariant (I := fun calls trial => ∃ chain,
    trial.sessionState.receiverChain theirEphemeral = some chain ∧
      Bookkeeping P key (handedOut theirEphemeral calls) chain)
    ⟨_, hstart, bookkeeping_initWithChainKey P key theirEphemeral⟩ ?_
  rintro calls trial call trial' ⟨chain, hchain, hbooks⟩ last
  by_cases hsame : call.theirEphemeral = theirEphemeral
  · subst hsame
    rcases last.receiverChain_of_eq hchain with
      ⟨e, hresult, rfl⟩ | ⟨messageKeys, chain', htake, hresult, hchain'⟩
    · have hnone : handedOut call.theirEphemeral (calls ++ [call]) =
          handedOut call.theirEphemeral calls := by
        simp [handedOut, MessageKeysCall.handedOut, hresult]
      exact ⟨chain, hchain, hnone ▸ hbooks⟩
    · have hone : handedOut call.theirEphemeral (calls ++ [call]) =
          handedOut call.theirEphemeral calls ++ [messageKeys.index] := by
        simp [handedOut, MessageKeysCall.handedOut, hresult]
      exact ⟨chain', hchain', hone ▸ hbooks.takeMessageKeys htake⟩
  · have hother : handedOut theirEphemeral (calls ++ [call]) = handedOut theirEphemeral calls := by
      simp [handedOut, hsame]
    rw [last.receiverChain_of_ne fun h => hsame h.symm, hother]
    exact ⟨chain, hchain, hbooks⟩

/-- **Skipped keys.**  A chain that was new at the start of a run has handed out or stores, once
each, the keys of the KDF chain below its index.  A further call raises and changes nothing, or hands
out the keys of the counter asked for, for the first time, and moves the index by at most `2001`; a
call for another chain does not move this one. -/
theorem skippedKeys_spec (P : Primitives) (key : Key) (theirEphemeral : NSData)
    (start trial : Trial) (calls : List MessageKeysCall)
    (hstart : start.sessionState.receiverChain theirEphemeral =
      some (.initWithChainKey (.initial key) theirEphemeral))
    (run : LabelledRun (MessageKeysStep P) start calls trial) :
    ∃ chain, trial.sessionState.receiverChain theirEphemeral = some chain ∧
      (∀ number < chain.chainKey.index,
        Xor (number ∈ handedOut theirEphemeral calls) (number ∈ chain.storedIndices)) ∧
      (∀ number, number ∈ handedOut theirEphemeral calls ∨ number ∈ chain.storedIndices →
        number < chain.chainKey.index) ∧
      (handedOut theirEphemeral calls).Nodup ∧ chain.storedIndices.Nodup ∧
      (∀ messageKeys ∈ chain.messageKeysList,
        messageKeys = (ChainKey.initial key).messageKeysAt P messageKeys.index) ∧
      ∀ call trial', MessageKeysStep P trial call trial' →
        (call.theirEphemeral ≠ theirEphemeral →
          trial'.sessionState.receiverChain theirEphemeral = some chain) ∧
        (call.theirEphemeral = theirEphemeral →
          (∃ e, call.result = .error (.raised e) ∧ trial' = trial) ∨
          ∃ messageKeys chain', call.result = .ok (some messageKeys) ∧
            trial'.sessionState.receiverChain theirEphemeral = some chain' ∧
            (messageKeys.index : ℤ) = call.counter.toInt ∧
            messageKeys = (ChainKey.initial key).messageKeysAt P messageKeys.index ∧
            messageKeys.index ∉ handedOut theirEphemeral calls ∧
            chain.chainKey.index ≤ chain'.chainKey.index ∧
            chain'.chainKey.index ≤ chain.chainKey.index + 2001) := by
  obtain ⟨chain, hchain, hbooks⟩ := bookkeeping_run hstart run
  refine ⟨chain, hchain, ?_, ?_, hbooks.nodup, hbooks.orderly.nodup, hbooks.keyedBy.messageKeys,
    ?_⟩
  · intro number hnumber
    rw [← hbooks.spent]
    by_cases hstored : number ∈ chain.storedIndices
    · exact .inr ⟨hstored, fun hspent => hspent.2 hstored⟩
    · exact .inl ⟨⟨hnumber, hstored⟩, hstored⟩
  · rintro number (hhanded | hstored)
    · exact ((hbooks.spent number).mpr hhanded).1
    · exact hbooks.orderly.stored_lt number hstored
  · intro call trial' next
    constructor
    · intro hne
      rw [next.receiverChain_of_ne hne.symm, hchain]
    · rintro rfl
      rcases next.receiverChain_of_eq hchain with
        hraised | ⟨messageKeys, chain', htake, hresult, hchain'⟩
      · exact .inl hraised
      · exact .inr ⟨messageKeys, chain', hresult, hchain',
          ReceivingChain.index_takeMessageKeys htake, (hbooks.keyedBy.takeMessageKeys htake).1,
          hbooks.index_notMem htake, index_le_of_takeMessageKeys htake⟩

/-- A session with one new receiver chain. -/
def sampleChainTrial : Trial where
  sessionState := SessionState.new.addReceiverChain (sampleKeyPair 20).publicKey.val
    (.initial (sampleKeyPair 15).publicKey)
  generated := 0

/-- A call for counter `1` on the new chain. -/
def sampleCall : Except Failure (Option MessageKeys) × Trial :=
  (throwsGetOrCreateMessageKeysForSession additivePrimitives (sampleKeyPair 20).publicKey.val
    (.initial (sampleKeyPair 15).publicKey) 1).run sampleChainTrial

/-- Counter `1` is handed out, and counter `0` stored. -/
theorem skippedKeys_spec_sample :
    ∃ chain, sampleCall.2.sessionState.receiverChain (sampleKeyPair 20).publicKey.val =
      some chain ∧ chain.chainKey.index = 2 ∧
      ∀ number < 2, Xor (number ∈ handedOut (sampleKeyPair 20).publicKey.val
        [⟨(sampleKeyPair 20).publicKey.val, 1, sampleCall.1⟩]) (number ∈ chain.storedIndices) := by
  have hok : sampleCall.1.isOk = true := by decide +kernel
  have hindex : (sampleCall.2.sessionState.receiverChain (sampleKeyPair 20).publicKey.val).map
      (·.chainKey.index) = some 2 := by decide +kernel
  have survives : Survives sampleCall.1 := by
    intro assertion hterminated
    rw [hterminated] at hok
    cases hok
  have hstart : sampleChainTrial.sessionState.receiverChain (sampleKeyPair 20).publicKey.val =
      some (.initWithChainKey (.initial (sampleKeyPair 15).publicKey)
        (sampleKeyPair 20).publicKey.val) := by decide +kernel
  obtain ⟨chain, hchain, hparts, -⟩ := skippedKeys_spec additivePrimitives _ _ sampleChainTrial
    sampleCall.2 [⟨(sampleKeyPair 20).publicKey.val, 1, sampleCall.1⟩] hstart
    (.single (.call hstart rfl survives))
  rw [hchain, Option.map_some, Option.some_inj] at hindex
  exact ⟨chain, hchain, hindex, hindex ▸ hparts⟩

end ObjcSwiftLearning.AxolotlKit
