import ObjcSwiftLearning.AxolotlKit.Exchange
import ObjcSwiftLearning.AxolotlKit.ReplaySafety
import ObjcSwiftLearning.Library.KeyRatchet

/-!
# The session states of a conversation

The session states of the two parties realise one conversation of the key ratchet: a party sends on
the chain of its own epoch and has receiver chains of its peer's epochs, as far as they were not
trimmed.

* `Primitives.Lawful.ratchet` — the Diffie–Hellman ratchet as a key ratchet.
* `Realises` — a session state realises a side of a conversation.
* `realises_initiator`, `realises_responder` — the initialised states do.
* `Realises.setSenderChainKey` — and so it is after a message was sent.
* `Realises.receive` — **a message of the peer's is opened**, and what it does to the state.
-/

namespace ObjcSwiftLearning.AxolotlKit

open SessionState KeyRatchet

variable {P : Primitives}

/-- The Diffie–Hellman ratchet. -/
def Primitives.Lawful.ratchet (lawful : P.Lawful) : KeyRatchet ECKeyPair Key RootKey Key where
  publicKey := ECKeyPair.publicKey
  Valid keyPair := keyPair.Matches P
  derive rootKey ours theirs :=
    let derived := receivingRKCK P rootKey ours theirs
    (derived.rootKey, derived.chainKey.key)
  derive_comm rootKey ours theirs hours htheirs := by
    simp only [receivingRKCK, lawful.agree hours htheirs]

variable {lawful : P.Lawful}

/-- What a ratchet step stores is what the ratchet derives. -/
theorem receivingRKCK_eq_derive (rootKey : RootKey) (ours : ECKeyPair) (theirs : Key) :
    receivingRKCK P rootKey ours theirs =
      { rootKey := (lawful.ratchet.derive rootKey ours theirs).1
        chainKey := .initial (lawful.ratchet.derive rootKey ours theirs).2 } := rfl

/-! ## Chains of an epoch -/

/-- A chain to send on in an epoch, at some index. -/
structure IsChainOf (P : Primitives) (epoch : Epoch ECKeyPair RootKey Key)
    (chain : SendingChain) : Prop where
  keyPair : chain.senderRatchetKeyPair = epoch.keyPair
  key : chain.chainKey.key = (ChainKey.ratchetKey P)^[chain.chainKey.index] epoch.chainKey

section IsChainOf

variable {epoch : Epoch ECKeyPair RootKey Key} {chain : SendingChain}

theorem IsChainOf.throwsMessageKeys (h : IsChainOf P epoch chain) :
    chain.chainKey.throwsMessageKeys P =
      (ChainKey.initial epoch.chainKey).messageKeysAt P chain.chainKey.index :=
  ReceivingChain.messageKeysAt_of_key h.key 0

theorem IsChainOf.nextChainKey (h : IsChainOf P epoch chain) {nextChainKey : ChainKey}
    (hnext : chain.chainKey.nextChainKey P = .ok nextChainKey) :
    IsChainOf P epoch { chain with chainKey := nextChainKey } := by
  obtain ⟨hkey, hindex⟩ := (ChainKey.nextChainKey_eq_ok P).mp hnext
  refine ⟨h.keyPair, ?_⟩
  show nextChainKey.key = _
  rw [hkey, hindex, Function.iterate_succ_apply', ← h.key]
  rfl

end IsChainOf

/-- **Keys that are not spent are there** while the counter is within the limit. -/
theorem ReceivingChain.exists_takeMessageKeys {chain : ReceivingChain} {counter : Int32}
    {number : ℕ} (hcounter : counter.toInt = number) (hspent : ¬chain.Spent number)
    (hlimit : number ≤ chain.chainKey.index + kCounterLimit) (hnext : number + 1 < 2 ^ 31) :
    ∃ messageKeys chain', chain.takeMessageKeys P counter = .ok (messageKeys, chain') := by
  by_cases hold : number < chain.chainKey.index
  · have hstored : number ∈ chain.storedIndices := by
      by_contra hgone
      exact hspent ⟨hold, hgone⟩
    obtain ⟨stored, hmem, hindex⟩ := List.mem_map.mp hstored
    have hsome : (chain.messageKeysList.find?
        (SessionState.isMessageKeysOf counter)).isSome = true := by
      rw [List.find?_isSome]
      refine ⟨stored, hmem, ?_⟩
      simp [SessionState.isMessageKeysOf, hcounter, hindex]
    obtain ⟨messageKeys, hfind⟩ := Option.isSome_iff_exists.mp hsome
    exact ⟨messageKeys, _, takeMessageKeys_eq_ok.mpr (.inl ⟨by omega, hfind, rfl⟩)⟩
  · refine ⟨_, _, takeMessageKeys_eq_ok.mpr (.inr ⟨number - chain.chainKey.index, by omega, ?_,
      by omega, rfl, rfl⟩)⟩
    omega

/-! ## States of a side -/

/-- A session state realises a side of a conversation, less the receiver chains that were
trimmed. -/
structure Realises (c : lawful.ratchet.Conversation) (side : Side) (ours theirs : NSData)
    (trimmed : List NSData) (s : SessionState) : Prop where
  version : s.version = currentVersion
  localIdentityKey : s.localIdentityKey = some ours
  remoteIdentityKey : s.remoteIdentityKey = some theirs
  pendingPreKey : s.pendingPreKey = none
  rootKey : s.rootKey = some (c.own side).rootKey
  sendingChain : ∃ chain, s.sendingChain = some chain ∧ IsChainOf P (c.own side) chain
  sound : SoundChains s
  keyed : ∀ chain ∈ s.receivingChains, ∃ i, c.Opened side i ∧
    chain.senderRatchetKey = (c.key i).val ∧ chain.KeyedBy P (c.epochs i).chainKey
  opened : ∀ i, c.Opened side i →
    (c.key i).val ∈ s.receiverRatchetKeys ∨ (c.key i).val ∈ trimmed

/-- The ratchet keys of the chains that a state no longer has. -/
def trimmedBy (s s' : SessionState) : List NSData :=
  s.receiverRatchetKeys.filter fun key => key ∉ s'.receiverRatchetKeys

variable {c : lawful.ratchet.Conversation} {side : Side} {ours theirs : NSData}
  {trimmed : List NSData} {s : SessionState} {i : ℕ}

/-- Sending keeps to the epoch. -/
theorem Realises.setSenderChainKey (h : Realises c side ours theirs trimmed s)
    {chain : SendingChain} {nextChainKey : ChainKey} (hchain : s.sendingChain = some chain)
    (hnext : chain.chainKey.nextChainKey P = .ok nextChainKey) :
    Realises c side ours theirs trimmed (s.setSenderChainKey nextChainKey) := by
  obtain ⟨sending, hsending, hof⟩ := h.sendingChain
  obtain rfl : sending = chain := Option.some.inj (hsending.symm.trans hchain)
  refine { h with sendingChain := ⟨_, ?_, hof.nextChainKey hnext⟩
                  sound := ⟨h.sound.distinct, h.sound.orderly⟩ }
  simp [SessionState.setSenderChainKey, hchain]

theorem Realises.keyedBy_of_receiverChain (h : Realises c side ours theirs trimmed s)
    {chain : ReceivingChain} (hi : i ≤ c.rounds + 1)
    (hchain : s.receiverChain (c.key i).val = some chain) :
    chain.KeyedBy P (c.epochs i).chainKey := by
  obtain ⟨j, hopened, hkey, hkeyed⟩ := h.keyed chain (List.mem_of_find?_eq_some hchain)
  have hsame : c.key i = c.key j :=
    Subtype.ext ((senderRatchetKey_of_receiverChain hchain).symm.trans hkey)
  have hj := hopened.le
  obtain rfl := c.distinct i hi j (by omega) hsame
  exact hkeyed

/-- What a side receives is nothing to its peer. -/
theorem Realises.grows (h : Realises c side.peer ours theirs trimmed s)
    {c' : lawful.ratchet.Conversation} (hgrows : c.Grows side c') :
    Realises c' side.peer ours theirs trimmed s := by
  have hown := hgrows.own_peer
  have hopened : ∀ j, c'.Opened side.peer j ↔ c.Opened side.peer j := fun j => by
    rw [Conversation.Opened, Conversation.Opened, hgrows.peer]
  have hle : ∀ {j}, c.Opened side.peer j → j ≤ c.rounds + 1 := fun hj =>
    hj.le.trans (Nat.le_succ _)
  refine { h with
    rootKey := hown ▸ h.rootKey
    sendingChain := hown ▸ h.sendingChain
    keyed := fun chain hchain => ?_
    opened := fun j hj => ?_ }
  · obtain ⟨j, hj, hkey, hkeyed⟩ := h.keyed chain hchain
    refine ⟨j, (hopened j).mpr hj, ?_, ?_⟩
    · rw [hgrows.key (hle hj), hkey]
    · rw [hgrows.epochs j (hle hj)]
      exact hkeyed
  · rw [hgrows.key (hle ((hopened j).mp hj))]
    exact h.opened j ((hopened j).mp hj)

/-! ### The initialised states -/

section Initialised

open RatchetingSession

variable (lawful) {handshake : Handshake} (matching : handshake.Matches P)
  {aliceRatchet : ECKeyPair} (hratchet : aliceRatchet.Matches P)
  (hne : handshake.bobRatchet.publicKey ≠ aliceRatchet.publicKey)

def firstEpoch (P : Primitives) (handshake : Handshake) : Epoch ECKeyPair RootKey Key where
  keyPair := handshake.bobRatchet
  rootKey := (handshake.result P).rootKey
  chainKey := (handshake.result P).chainKey

/-- A conversation that begins: Alice has opened the second epoch. -/
def initialConversation : lawful.ratchet.Conversation where
  epochs i :=
    if i = 0 then firstEpoch P handshake
    else lawful.ratchet.next (firstEpoch P handshake) aliceRatchet
  rounds := 0
  linked i hi := by
    obtain rfl := Nat.le_zero.mp hi
    rfl
  valid i hi := by
    split
    · exact matching.bobRatchet
    · exact hratchet
  distinct i hi j hj hkeys := by
    by_cases hizero : i = 0 <;> by_cases hjzero : j = 0
    · omega
    · rw [if_pos hizero, if_neg hjzero] at hkeys
      exact absurd hkeys hne
    · rw [if_neg hizero, if_pos hjzero] at hkeys
      exact absurd hkeys.symm hne
    · omega

variable {lawful matching hratchet hne}

theorem realises_initiator
    (hinit : throwsInitializeSessionAlice P .new currentVersion handshake.aliceParameters
      aliceRatchet = .ok s) :
    Realises (initialConversation lawful matching hratchet hne) .initiator
      handshake.aliceIdentity.publicKey.val handshake.bobIdentity.publicKey.val [] s := by
  rw [handshake.throwsInitializeSessionAlice_eq] at hinit
  obtain rfl := Except.ok.inj hinit
  have hopened : ∀ i, (initialConversation lawful matching hratchet hne).Opened .initiator i ↔
      i = 0 := fun i => ⟨fun h => Nat.le_zero.mp h.le, by
    rintro rfl
    exact ⟨Nat.one_pos, rfl⟩⟩
  exact {
    version := rfl
    localIdentityKey := rfl
    remoteIdentityKey := rfl
    pendingPreKey := rfl
    rootKey := rfl
    sendingChain := ⟨_, rfl, rfl, rfl⟩
    sound :=
      { distinct := List.nodup_singleton _
        orderly := by
          intro chain hchain
          obtain rfl := List.mem_singleton.mp hchain
          exact ReceivingChain.orderly_initWithChainKey _ _ }
    keyed := by
      intro chain hchain
      obtain rfl := List.mem_singleton.mp hchain
      exact ⟨0, (hopened 0).mpr rfl, rfl, rfl, by simp [ReceivingChain.initWithChainKey]⟩
    opened := by
      intro i hi
      obtain rfl := (hopened i).mp hi
      exact .inl (List.mem_singleton_self _) }

theorem realises_responder
    (hinit : throwsInitializeSessionBob P .new currentVersion handshake.bobParameters = .ok s) :
    Realises (initialConversation lawful matching hratchet hne) .responder
      handshake.bobIdentity.publicKey.val handshake.aliceIdentity.publicKey.val [] s := by
  rw [handshake.throwsInitializeSessionBob_eq lawful matching] at hinit
  obtain rfl := Except.ok.inj hinit
  have hopened : ∀ i, ¬(initialConversation lawful matching hratchet hne).Opened .responder i :=
    fun i h => absurd h.1 (Nat.not_lt_zero i)
  exact {
    version := rfl
    localIdentityKey := rfl
    remoteIdentityKey := rfl
    pendingPreKey := rfl
    rootKey := rfl
    sendingChain := ⟨_, rfl, rfl, rfl⟩
    sound := soundChains_of_nil rfl
    keyed := fun _ hchain => absurd hchain List.not_mem_nil
    opened := fun i hi => absurd hi (hopened i) }

end Initialised

/-! ### Receiving -/

/-- What receiving a number of an epoch does, besides: which counters may have become spent, how
far the chains may have moved, and whose key pair a new epoch has. -/
structure Receives (c : lawful.ratchet.Conversation) (side : Side) (i number : ℕ)
    (s : SessionState) (generated : ℕ) (c' : lawful.ratchet.Conversation) (s' : SessionState)
    (generated' : ℕ) : Prop where
  grows : c.Grows side c'
  sending : s'.sendingChain = s.sendingChain ∧ c'.turn side = c.turn side ∨
    c.rounds + 1 < c'.turn side
  spent : ∀ chain ∈ s'.receivingChains, ∀ n, chain.Spent n →
    (∃ before ∈ s.receivingChains,
      before.senderRatchetKey = chain.senderRatchetKey ∧ before.Spent n) ∨
    chain.senderRatchetKey = (c.key i).val ∧ n = number
  index : ∀ chain ∈ s'.receivingChains,
    (∃ before ∈ s.receivingChains, before.senderRatchetKey = chain.senderRatchetKey ∧
      chain.chainKey.index ≤ before.chainKey.index) ∨
    chain.senderRatchetKey = (c.key i).val ∧ chain.chainKey.index ≤ number + 1
  generated_le : generated ≤ generated'
  keyPairs : ∀ j ≤ c'.rounds + 1, j ≤ c.rounds + 1 ∨
    generated < generated' ∧ (c'.epochs j).keyPair = P.generatedKeyPair generated

/-- The chain of an epoch of the peer's, found or created. -/
structure Locates (c : lawful.ratchet.Conversation) (side : Side) (ours theirs : NSData)
    (trimmed : List NSData) (i : ℕ) (s : SessionState) (generated : ℕ)
    (c' : lawful.ratchet.Conversation) (chain : ReceivingChain) (s₁ : SessionState)
    (generated₁ : ℕ) : Prop where
  located : LocatedChain P s generated (c.key i) chain s₁ generated₁
  realises : Realises c' side ours theirs (trimmed ++ trimmedBy s s₁) s₁
  grows : c.Grows side c'
  sending : s₁.sendingChain = s.sendingChain ∧ c'.turn side = c.turn side ∨
    c.rounds + 1 < c'.turn side
  keyedBy : chain.KeyedBy P (c.epochs i).chainKey
  index : chain.chainKey.index = ((s.receiverChainKey (c.key i).val).map (·.index)).getD 0
  mem : ∀ other ∈ s₁.receivingChains, other ∈ s.receivingChains ∨ other = chain
  new : chain ∈ s.receivingChains ∨ chain.chainKey.index = 0
  keyPairs : ∀ j ≤ c'.rounds + 1, j ≤ c.rounds + 1 ∨
    generated < generated₁ ∧ (c'.epochs j).keyPair = P.generatedKeyPair generated

/-- A chain that is there is found. -/
theorem Realises.locates_of_some (h : Realises c side ours theirs trimmed s) {generated : ℕ}
    {chain : ReceivingChain} (hi : i ≤ c.rounds + 1)
    (hchain : s.receiverChain (c.key i).val = some chain) :
    Locates c side ours theirs trimmed i s generated c chain s generated where
  located := .found hchain
  realises :=
    { h with opened := fun j hj => (h.opened j hj).imp_right (List.mem_append_left _) }
  grows := .refl side c
  sending := .inl ⟨rfl, rfl⟩
  keyedBy := h.keyedBy_of_receiverChain hi hchain
  index := by simp [receiverChainKey, hchain]
  mem _ hother := .inl hother
  new := .inl (List.mem_of_find?_eq_some hchain)
  keyPairs _ hj := .inl hj

/-- **A ratchet step realises the next epoch.** -/
theorem Realises.locates_of_none (h : Realises c side ours theirs trimmed s) {generated : ℕ}
    (hfollower : Side.sender (c.rounds + 1) = side.peer)
    (hfresh : ∀ j ≤ c.rounds + 1, c.key j ≠ (P.generatedKeyPair generated).publicKey)
    (hnone : s.receiverChain (c.key (c.rounds + 1)).val = none) :
    ∃ c' chain s₁ generated₁,
      Locates c side ours theirs trimmed (c.rounds + 1) s generated c' chain s₁ generated₁ := by
  obtain ⟨sending, hsending, hof⟩ := h.sendingChain
  have hpair : s.senderRatchetKeyPair = some (c.own side).keyPair := by
    simp [senderRatchetKeyPair, hsending, hof.keyPair]
  have hlocated : LocatedChain P s generated (c.key (c.rounds + 1)) _ _ _ :=
    .created hnone h.rootKey hpair
  have hreceiving := @receivingRKCK_eq_derive P lawful (c.own side).rootKey
    (c.own side).keyPair (c.key (c.rounds + 1))
  rw [c.derive_last hfollower] at hreceiving
  let c' : lawful.ratchet.Conversation :=
    c.ratchet (P.generatedKeyPair_matches generated) hfresh
  have hgrows : c.Grows side c' := Conversation.grows_ratchet hfollower
  have hturn : c'.turn side = c.rounds + 2 := Conversation.turn_ratchet hfollower
  have hown : c'.own side = lawful.ratchet.next (c.epochs (c.rounds + 1))
      (P.generatedKeyPair generated) := Conversation.own_ratchet hfollower
  have hopened : ∀ j, c'.Opened side j ↔ c.Opened side j ∨ j = c.rounds + 1 := fun j =>
    Conversation.opened_ratchet hfollower
  have hkey : ∀ j ≤ c.rounds + 1, c'.key j = c.key j := fun _ => hgrows.key
  have hkeyedBy : (ReceivingChain.initWithChainKey (receivingRKCK P (c.own side).rootKey
      (c.own side).keyPair (c.key (c.rounds + 1))).chainKey (c.key (c.rounds + 1)).val).KeyedBy P
        (c.epochs (c.rounds + 1)).chainKey := by
    rw [hreceiving]
    exact ⟨rfl, by simp [ReceivingChain.initWithChainKey]⟩
  have hmem : ∀ other ∈ (s.ratcheted P (c.own side).rootKey (c.own side).keyPair
      (P.generatedKeyPair generated) (c.key (c.rounds + 1))).receivingChains,
        other ∈ s.receivingChains ∨ other ∈ [_] := fun other hother =>
    List.mem_append.mp ((receivingChains_addReceiverChain _ _ _).subset hother)
  refine ⟨c', _, _, _, ⟨hlocated, ?_, hgrows, .inr ?_, hkeyedBy, ?_, ?_, .inr rfl, ?_⟩⟩
  · refine ⟨h.version, h.localIdentityKey, h.remoteIdentityKey, h.pendingPreKey, ?_, ⟨_, rfl, ?_⟩,
      h.sound.located hlocated, ?_, ?_⟩
    · rw [hown]
      show some (receivingRKCK P (receivingRKCK P _ _ _).rootKey _ _).rootKey = _
      rw [hreceiving]
      rfl
    · refine ⟨by rw [hown]; rfl, ?_⟩
      show (receivingRKCK P (receivingRKCK P _ _ _).rootKey _ _).chainKey.key = _
      rw [hown, hreceiving]
      rfl
    · intro other hother
      rcases hmem other hother with hother | hother
      · obtain ⟨j, hj, hother, hkeyed⟩ := h.keyed other hother
        have hle : j ≤ c.rounds + 1 := hj.le.trans (Nat.le_succ _)
        refine ⟨j, (hopened j).mpr (.inl hj), ?_, ?_⟩
        · rw [hkey j hle, hother]
        · rw [hgrows.epochs j hle]
          exact hkeyed
      · obtain rfl := List.mem_singleton.mp hother
        refine ⟨c.rounds + 1, (hopened _).mpr (.inr rfl), ?_, ?_⟩
        · rw [hkey _ (Nat.le_refl _)]
          rfl
        · rw [hgrows.epochs _ (Nat.le_refl _)]
          exact hkeyedBy
    · intro j hj
      rcases (hopened j).mp hj with hj | rfl
      · rw [hkey j (hj.le.trans (Nat.le_succ _))]
        rcases h.opened j hj with hthere | hgone
        · by_cases hstays : (c.key j).val ∈ (s.ratcheted P (c.own side).rootKey
              (c.own side).keyPair (P.generatedKeyPair generated)
              (c.key (c.rounds + 1))).receiverRatchetKeys
          · exact .inl hstays
          · refine .inr (List.mem_append_right _ (List.mem_filter.mpr ⟨hthere, ?_⟩))
            simpa using hstays
        · exact .inr (List.mem_append_left _ hgone)
      · refine .inl (hasReceiverChain_iff.mp ?_)
        rw [hkey _ (Nat.le_refl _), hasReceiverChain, hlocated.receiverChain]
        rfl
  · rw [hturn]
    omega
  · simp [receiverChainKey, hnone, ReceivingChain.initWithChainKey, receivingRKCK]
  · exact fun other hother => (hmem other hother).imp_right List.mem_singleton.mp
  · intro j hj
    rcases Nat.lt_or_ge (c.rounds + 1) j with hlt | hle
    · obtain rfl : j = c.rounds + 2 := by
        have : c'.rounds = c.rounds + 1 := rfl
        omega
      refine .inr ⟨Nat.lt_succ_self _, ?_⟩
      rw [← hturn]
      exact congrArg Epoch.keyPair hown
    · exact .inl hle

/-- **What is sent to a side has its chain.** -/
theorem Realises.locates (h : Realises c side ours theirs trimmed s) {generated : ℕ}
    (hsender : Side.sender i = side.peer) (hle : i ≤ c.turn side.peer)
    (hthere : (c.key i).val ∉ trimmed)
    (hfresh : ∀ j ≤ c.rounds + 1, c.key j ≠ (P.generatedKeyPair generated).publicKey) :
    ∃ c' chain s₁ generated₁,
      Locates c side ours theirs trimmed i s generated c' chain s₁ generated₁ := by
  have hi : i ≤ c.rounds + 1 := hle.trans (c.turn_le side.peer)
  cases hchain : s.receiverChain (c.key i).val with
  | some chain => exact ⟨c, chain, s, generated, h.locates_of_some hi hchain⟩
  | none =>
      rcases Conversation.opened_or_last hsender hle with hopened | ⟨rfl, hfollower⟩
      · -- Its chain was opened, and is not among those trimmed.
        have hhas := hasReceiverChain_iff.mpr ((h.opened i hopened).resolve_right hthere)
        simp [hasReceiverChain, hchain] at hhas
      · exact h.locates_of_none hfollower hfresh hchain

theorem Realises.takeMessageKeys (h : Realises c side ours theirs trimmed s)
    {theirEphemeral : NSData} {chain chain' : ReceivingChain} {counter : Int32}
    {messageKeys : MessageKeys} (hchain : s.receiverChain theirEphemeral = some chain)
    (htake : chain.takeMessageKeys P counter = .ok (messageKeys, chain')) :
    Realises c side ours theirs trimmed
      (s.replaceReceiverChain theirEphemeral chain').clearUnacknowledgedPreKeyMessage := by
  have hmem : chain ∈ s.receivingChains := List.mem_of_find?_eq_some hchain
  have hkey := ReceivingChain.takeMessageKeys_senderRatchetKey htake
  have hsound := h.sound.replaceReceiverChain hchain hkey
    ((h.sound.orderly chain hmem).takeMessageKeys htake)
  have hkeys : (s.replaceReceiverChain theirEphemeral chain').receiverRatchetKeys =
      s.receiverRatchetKeys := receiverRatchetKeys_updateReceiverChain fun _ _ =>
    hkey.trans (senderRatchetKey_of_receiverChain hchain)
  refine { h with
    pendingPreKey := rfl
    sound := ⟨hsound.distinct, hsound.orderly⟩
    keyed := fun other hother => ?_
    opened := fun j hj => ?_ }
  · rcases List.mem_of_mem_updateFirst hother with hother | ⟨found, -, rfl⟩
    · exact h.keyed other hother
    · obtain ⟨j, hopened, hsame, hkeyed⟩ := h.keyed chain hmem
      exact ⟨j, hopened, hkey.trans hsame, (hkeyed.takeMessageKeys htake).2⟩
  · show (c.key j).val ∈ (s.replaceReceiverChain theirEphemeral chain').receiverRatchetKeys ∨ _
    rw [hkeys]
    exact h.opened j hj

/-- How far a state is with what is sent under a ratchet key. -/
def receiverIndex (s : SessionState) (senderEphemeral : NSData) : ℕ :=
  ((s.receiverChainKey senderEphemeral).map (·.index)).getD 0

/-- **A message of the peer's is opened.** -/
theorem Realises.receive (h : Realises c side ours theirs trimmed s) {generated number : ℕ}
    {whisperMessage : WhisperMessage} {plaintext : NSData}
    (hsender : Side.sender i = side.peer) (hle : i ≤ c.turn side.peer)
    (hthere : (c.key i).val ∉ trimmed)
    (hfresh : ∀ j ≤ c.rounds + 1, c.key j ≠ (P.generatedKeyPair generated).publicKey)
    (hversion : whisperMessage.version = currentVersion)
    (hephemeral : throwsRemoveKeyType whisperMessage.senderRatchetKey = .ok (c.key i).val)
    (hcounter : whisperMessage.counter.toInt = number) (hnext : number + 1 < 2 ^ 31)
    (hlimit : number ≤ receiverIndex s (c.key i).val + kCounterLimit)
    (hspent : ∀ chain ∈ s.receivingChains, chain.senderRatchetKey = (c.key i).val →
      ¬chain.Spent number)
    (hopen : s.openWith P whisperMessage ((ChainKey.initial
      (c.epochs i).chainKey).messageKeysAt P number) = .ok plaintext) :
    ∃ c' s' generated',
      (throwsDecryptWithSessionState P whisperMessage).run ⟨s, generated⟩ =
        (.ok plaintext, ⟨s', generated'⟩) ∧
      Realises c' side ours theirs (trimmed ++ trimmedBy s s') s' ∧
      Receives c side i number s generated c' s' generated' := by
  obtain ⟨c', chain, s₁, generated₁, located⟩ := h.locates hsender hle hthere hfresh
  have hchain := located.located.receiverChain
  have hmem : chain ∈ s₁.receivingChains := List.mem_of_find?_eq_some hchain
  have hchainKey := senderRatchetKey_of_receiverChain hchain
  have horderly := located.realises.sound.orderly chain hmem
  have hunspent : ¬chain.Spent number := by
    rcases located.new with hold | hzero
    · exact hspent chain hold hchainKey
    · exact fun hspent => absurd hspent.1 (by omega)
  obtain ⟨messageKeys, chain', htake⟩ := ReceivingChain.exists_takeMessageKeys (P := P) hcounter
    hunspent (by rw [located.index]; exact hlimit) hnext
  have hindex : messageKeys.index = number := by
    have := ReceivingChain.index_takeMessageKeys htake
    omega
  have hkey := ReceivingChain.takeMessageKeys_senderRatchetKey htake
  have hkeys := (located.keyedBy.takeMessageKeys htake).1
  rw [hindex] at hkeys
  obtain ⟨sending, hsending, -⟩ := h.sendingChain
  have admits : s.Admits whisperMessage (c.key i) :=
    ⟨by simp [hasSenderChain, hsending], hversion.trans h.version.symm, hephemeral⟩
  have hsame : trimmedBy s (s₁.replaceReceiverChain (c.key i).val chain') = trimmedBy s s₁ := by
    rw [trimmedBy, replaceReceiverChain,
      receiverRatchetKeys_updateReceiverChain fun _ _ => hkey.trans hchainKey, trimmedBy]
  -- A chain afterwards was there, or is the one located: as it was, or with the keys taken.
  have horigin : ∀ other ∈ (s₁.replaceReceiverChain (c.key i).val chain').receivingChains,
      other ∈ s.receivingChains ∨ other = chain ∨ other = chain' := by
    intro other hother
    rcases List.mem_of_mem_updateFirst hother with hother | ⟨found, -, rfl⟩
    · exact (located.mem other hother).imp_right .inl
    · exact .inr (.inr rfl)
  refine ⟨c', _, generated₁, run_throwsDecryptWithSessionState_of_take admits located.located htake
    (hkeys ▸ hopen), ?_, ⟨located.grows, located.sending, ?_, ?_, ?_, located.keyPairs⟩⟩
  · have hrealises := located.realises.takeMessageKeys hchain htake
    rw [← hsame] at hrealises
    exact hrealises
  · intro other hother n hn
    have hof : ∀ {k}, chain.Spent k → ∃ before ∈ s.receivingChains,
        before.senderRatchetKey = chain.senderRatchetKey ∧ before.Spent k := by
      intro k hk
      rcases located.new with hold | hzero
      · exact ⟨chain, hold, rfl, hk⟩
      · exact absurd hk.1 (by omega)
    rcases horigin other hother with hother | rfl | rfl
    · exact .inl ⟨other, hother, rfl, hn⟩
    · exact .inl (hof hn)
    · rcases (horderly.spent_takeMessageKeys htake n).mp hn with hn | rfl
      · rw [hkey]
        exact .inl (hof hn)
      · exact .inr ⟨hkey.trans hchainKey, hindex⟩
  · intro other hother
    have hof : ∀ {k}, k ≤ chain.chainKey.index → (∃ before ∈ s.receivingChains,
        before.senderRatchetKey = chain.senderRatchetKey ∧ k ≤ before.chainKey.index) ∨
          k ≤ number + 1 := by
      intro k hk
      rcases located.new with hold | hzero
      · exact .inl ⟨chain, hold, rfl, hk⟩
      · exact .inr (by omega)
    rcases horigin other hother with hother | rfl | rfl
    · exact .inl ⟨other, hother, rfl, Nat.le_refl _⟩
    · exact (hof (Nat.le_refl _)).imp_right fun hle => ⟨hchainKey, hle⟩
    · obtain ⟨-, -, rfl⟩ | ⟨steps, hover, hsteps, -, -, rfl⟩ :=
        ReceivingChain.takeMessageKeys_eq_ok.mp htake
      · exact (hof (Nat.le_refl _)).imp_right fun hle => ⟨hchainKey, hle⟩
      · refine .inr ⟨hchainKey, ?_⟩
        show chain.chainKey.index + (steps + 1) ≤ number + 1
        omega
  · cases located.located with
    | found hfound => exact Nat.le_refl _
    | created hnone hroot hpair => exact Nat.le_succ _

end ObjcSwiftLearning.AxolotlKit
