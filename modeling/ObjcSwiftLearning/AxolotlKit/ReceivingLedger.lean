import ObjcSwiftLearning.AxolotlKit.StateDecryption
import ObjcSwiftLearning.Library.Ledger

/-!
# A receiver chain as a ledger

A receiver chain expects counters `0, 1, 2, …` in any order.  The index of its
chain key is the next counter it has not passed, and the message keys it stores
are those it owes; so it is a `Ledger`, and taking message keys is `Ledger.take`
with the limit `kCounterLimit`.

* `ReceivingChain.Orderly` — what a chain keeps: the stored keys are for passed
  counters, one each.
* `Orderly.take_ledger` — **taking message keys refines `Ledger.take`**.
* `KeyedBy` — the chain is the KDF chain of one key: `KeyedBy.takeMessageKeys`
  says that the message keys taken are the ones of the counter.
-/

namespace ObjcSwiftLearning.AxolotlKit

variable {P : Primitives}

namespace ReceivingChain

def storedIndices (chain : ReceivingChain) : List ℕ := chain.messageKeysList.map (·.index)

/-- Stored message keys are for counters passed, one for each. -/
structure Orderly (chain : ReceivingChain) : Prop where
  stored_lt : ∀ i ∈ chain.storedIndices, i < chain.chainKey.index
  nodup : chain.storedIndices.Nodup

/-- The counter has been passed and its keys are gone. -/
def Spent (chain : ReceivingChain) (counter : ℕ) : Prop :=
  counter < chain.chainKey.index ∧ counter ∉ chain.storedIndices

variable {chain chain' : ReceivingChain} {counter : Int32} {messageKeys : MessageKeys}

def Orderly.ledger (h : chain.Orderly) : Ledger where
  next := chain.chainKey.index
  stored := chain.storedIndices.toFinset
  stored_lt i hi := h.stored_lt i (List.mem_toFinset.mp hi)

theorem Orderly.spent_ledger (h : chain.Orderly) (number : ℕ) :
    h.ledger.Spent number ↔ chain.Spent number := by
  simp [Ledger.Spent, Spent, Orderly.ledger]

/-- A new chain owes nothing. -/
theorem orderly_initWithChainKey (chainKey : ChainKey) (senderRatchetKey : NSData) :
    (initWithChainKey chainKey senderRatchetKey).Orderly where
  stored_lt := by simp [initWithChainKey, storedIndices]
  nodup := by simp [initWithChainKey, storedIndices]

theorem storedIndices_skippedMessageKeys (chainKey : ChainKey) (steps : ℕ) :
    (chainKey.skippedMessageKeys P steps).map (·.index) =
      (List.range steps).map (chainKey.index + ·) := by
  simp [ChainKey.skippedMessageKeys, Function.comp_def]

theorem index_takeMessageKeys (h : chain.takeMessageKeys P counter = .ok (messageKeys, chain')) :
    (messageKeys.index : ℤ) = counter.toInt := by
  obtain ⟨-, hfind, -⟩ | ⟨steps, -, hcounter, -, rfl, -⟩ := takeMessageKeys_eq_ok.mp h
  · simpa [SessionState.isMessageKeysOf] using List.find?_some hfind
  · rw [hcounter, ChainKey.messageKeysAt_index]

theorem storedIndices_eraseP (keysList : List MessageKeys) {number : ℕ}
    (hcounter : counter.toInt = number) :
    (keysList.eraseP (SessionState.isMessageKeysOf counter)).map (·.index) =
      (keysList.map (·.index)).erase number := by
  induction keysList with
  | nil => rfl
  | cons keys keysList ih =>
      by_cases hkeys : keys.index = number
      · have hhit : SessionState.isMessageKeysOf counter keys = true := by
          simp [SessionState.isMessageKeysOf, hcounter, hkeys]
        simp [List.eraseP_cons_of_pos hhit, hkeys]
      · have hmiss : ¬SessionState.isMessageKeysOf counter keys = true := by
          simp only [SessionState.isMessageKeysOf, hcounter, beq_iff_eq]
          exact_mod_cast hkeys
        rw [List.eraseP_cons_of_neg hmiss, List.map_cons, ih, List.map_cons,
          List.erase_cons_tail (by simpa using hkeys)]

section

variable (h : chain.Orderly) (htake : chain.takeMessageKeys P counter = .ok (messageKeys, chain'))
include h htake

theorem Orderly.takeMessageKeys : chain'.Orderly := by
  obtain ⟨-, hfind, rfl⟩ | ⟨steps, hover, -, -, -, rfl⟩ := takeMessageKeys_eq_ok.mp htake
  · have hsub : (chain.messageKeysList.eraseP
        (SessionState.isMessageKeysOf counter)).Sublist chain.messageKeysList :=
      List.eraseP_sublist
    exact ⟨fun i hi => h.stored_lt i ((hsub.map _).subset hi), h.nodup.sublist (hsub.map _)⟩
  · have hindices : (chain.messageKeysList ++ chain.chainKey.skippedMessageKeys P steps).map
        (·.index) = chain.storedIndices ++ (List.range steps).map (chain.chainKey.index + ·) := by
      rw [List.map_append, storedIndices_skippedMessageKeys]
      rfl
    constructor
    · intro i hi
      rw [storedIndices, hindices, List.mem_append] at hi
      rcases hi with hi | hi
      · have := h.stored_lt i hi
        simp only [ChainKey.advance_index]
        omega
      · obtain ⟨j, hj, rfl⟩ := List.mem_map.mp hi
        have := List.mem_range.mp hj
        simp only [ChainKey.advance_index]
        omega
    · rw [storedIndices, hindices]
      refine h.nodup.append (List.nodup_range.map fun i j hij => by simpa using hij) ?_
      intro i hi hskipped
      have := h.stored_lt i hi
      obtain ⟨j, hj, rfl⟩ := List.mem_map.mp hskipped
      omega

/-- **Taking message keys is taking the counter from the ledger.** -/
theorem Orderly.take_ledger :
    h.ledger.take kCounterLimit messageKeys.index = some (h.takeMessageKeys htake).ledger := by
  have hindex := index_takeMessageKeys htake
  obtain ⟨hold, hfind, rfl⟩ | ⟨steps, hover, hcounter, hlimit, hkeys, rfl⟩ :=
    takeMessageKeys_eq_ok.mp htake
  · have hmem : messageKeys.index ∈ chain.storedIndices :=
      List.mem_map_of_mem (List.mem_of_find?_eq_some hfind)
    have hstored := storedIndices_eraseP chain.messageKeysList hindex.symm
    rw [Ledger.take, dif_neg (by simp only [Orderly.ledger]; omega),
      if_pos (by simpa [Orderly.ledger] using hmem)]
    refine congrArg some (Ledger.ext rfl ?_)
    simp only [Ledger.removeStored, Orderly.ledger, storedIndices, hstored]
    ext i
    simp only [Finset.mem_erase, List.mem_toFinset]
    exact h.nodup.mem_erase_iff.symm
  · subst hkeys
    have hnumber : (chain.chainKey.messageKeysAt P steps).index = chain.chainKey.index + steps :=
      rfl
    rw [Ledger.take, dif_pos (by simp only [Orderly.ledger, hnumber]; omega),
      if_pos (by simp only [Orderly.ledger, hnumber]; omega)]
    refine congrArg some (Ledger.ext rfl ?_)
    ext i
    simp only [Ledger.advance, Orderly.ledger, hnumber, storedIndices, List.map_append,
      storedIndices_skippedMessageKeys, List.toFinset_append, Finset.mem_union,
      List.mem_toFinset, List.mem_map, List.mem_range, Finset.mem_Ico]
    refine or_congr_right ⟨fun hi => ⟨i - chain.chainKey.index, by omega, by omega⟩, ?_⟩
    rintro ⟨j, hj, rfl⟩
    omega

/-- **Exactly the counter taken becomes spent.** -/
theorem Orderly.spent_takeMessageKeys (number : ℕ) :
    chain'.Spent number ↔ chain.Spent number ∨ number = messageKeys.index := by
  rw [← (h.takeMessageKeys htake).spent_ledger, ← h.spent_ledger]
  exact Ledger.spent_take (h.take_ledger htake)

end

theorem Orderly.takeMessageKeys_ne_ok_of_spent (h : chain.Orderly) {number : ℕ}
    (hcounter : counter.toInt = number) (hspent : chain.Spent number) :
    chain.takeMessageKeys P counter ≠ .ok (messageKeys, chain') := by
  intro htake
  have hindex := index_takeMessageKeys htake
  obtain rfl : messageKeys.index = number := by omega
  have hsome : (h.ledger.take kCounterLimit messageKeys.index).isSome = true := by
    rw [h.take_ledger htake]
    rfl
  exact (Ledger.take_isSome.mp hsome).1 ((h.spent_ledger _).mpr hspent)

/-! ## The keys of a chain -/

structure KeyedBy (P : Primitives) (key : Key) (chain : ReceivingChain) : Prop where
  chainKey : chain.chainKey.key = (ChainKey.ratchetKey P)^[chain.chainKey.index] key
  messageKeys : ∀ messageKeys ∈ chain.messageKeysList,
    messageKeys = (ChainKey.initial key).messageKeysAt P messageKeys.index

theorem messageKeysAt_of_key {key : Key} {chainKey : ChainKey}
    (h : chainKey.key = (ChainKey.ratchetKey P)^[chainKey.index] key) (steps : ℕ) :
    chainKey.messageKeysAt P steps =
      (ChainKey.initial key).messageKeysAt P (chainKey.index + steps) := by
  simp [ChainKey.messageKeysAt, ChainKey.initial, h, ← Function.iterate_add_apply,
    Nat.add_comm steps]

/-- **The message keys taken are those of the KDF chain at the counter.** -/
theorem KeyedBy.takeMessageKeys {key : Key} (h : chain.KeyedBy P key)
    (htake : chain.takeMessageKeys P counter = .ok (messageKeys, chain')) :
    messageKeys = (ChainKey.initial key).messageKeysAt P messageKeys.index ∧
      chain'.KeyedBy P key := by
  obtain ⟨-, hfind, rfl⟩ | ⟨steps, hover, -, -, rfl, rfl⟩ := takeMessageKeys_eq_ok.mp htake
  · refine ⟨h.messageKeys _ (List.mem_of_find?_eq_some hfind), h.chainKey, fun keys hkeys => ?_⟩
    exact h.messageKeys keys (List.mem_of_mem_eraseP hkeys)
  · refine ⟨messageKeysAt_of_key h.chainKey steps, ?_, fun keys hkeys => ?_⟩
    · simp [ChainKey.advance, h.chainKey, ← Function.iterate_add_apply,
        Nat.add_comm (steps + 1)]
    · rcases List.mem_append.mp hkeys with hkeys | hkeys
      · exact h.messageKeys keys hkeys
      · obtain ⟨i, -, rfl⟩ := List.mem_map.mp hkeys
        exact messageKeysAt_of_key h.chainKey i

end ReceivingChain

end ObjcSwiftLearning.AxolotlKit
