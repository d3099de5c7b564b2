import ObjcSwiftLearning.AxolotlKit.ConversationStates

/-!
# Two parties and the messages between them

Both parties of an initialised session send and receive in any order.  A message on its way may be
delivered at any time, or never; what is delivered is the message that was sent, or what its
receiver parses of its bytes.

* `Conversing` — the session states realise a conversation, and each message on its way is of an
  epoch of it, under a counter that its sender has passed and its receiver has not had.
* `Conversing.send`, `Conversing.receive` — **sending and receiving keep to it.**
* `Correspondence.Step` — the steps of both parties over their stores.
* `delivered_decrypts` — **every message delivered decrypts to what was sent**, over any
  interleaving, if its chain was not trimmed and its counter is within the limit.
-/

namespace ObjcSwiftLearning.AxolotlKit

open SessionState SignalServiceKit Procedure KeyRatchet

variable {P : Primitives} {lawful : P.Lawful}

/-! ## Messages on their way -/

/-- A message, with its sender and what it says. -/
structure Envelope where
  sender : Side
  plaintext : NSData
  message : CipherMessage

/-- The ratchet key and the counter of a message. -/
def Envelope.slot (envelope : Envelope) : Option Key × ℤ :=
  (envelope.message.whisperMessage.theirEphemeral, envelope.message.whisperMessage.counter.toInt)

/-- What a message arrives as: itself, or what its receiver parses. -/
def Arrives (P : Primitives) (message arrived : CipherMessage) : Prop :=
  arrived = message ∨ ∃ sent whisperMessage, message = .whisper sent ∧
    arrived = .whisper whisperMessage ∧
      WhisperMessage.throwsInitWithData P sent.serialized = .ok whisperMessage

/-- A message on its way: sealed on a chain of an epoch of its sender's, with a counter that its
sender has passed and its receiver has not had. -/
structure OnItsWay (identity : Side → NSData) (c : lawful.ratchet.Conversation)
    (states : Side → SessionState) (envelope : Envelope) (i : ℕ) (chain : SendingChain) :
    Prop where
  sender : Side.sender i = envelope.sender
  le_turn : i ≤ c.turn envelope.sender
  isChainOf : IsChainOf P (c.epochs i) chain
  index_lt : chain.chainKey.index + 1 < 2 ^ 31
  message : ∃ sessionState : SessionState, sessionState.version = currentVersion ∧
    envelope.message = .whisper (SessionCipher.buildWhisperMessage P sessionState chain
      (identity envelope.sender) (identity envelope.sender.peer) envelope.plaintext)
  passed : i = c.turn envelope.sender → ∀ own, (states envelope.sender).sendingChain = some own →
    chain.chainKey.index < own.chainKey.index
  unspent : ∀ receiving ∈ (states envelope.sender.peer).receivingChains,
    receiving.senderRatchetKey = (c.key i).val → ¬receiving.Spent chain.chainKey.index

section OnItsWay

variable {identity : Side → NSData} {c : lawful.ratchet.Conversation}
  {states : Side → SessionState} {envelope : Envelope} {i : ℕ} {chain : SendingChain}

theorem OnItsWay.le (h : OnItsWay identity c states envelope i chain) : i ≤ c.rounds + 1 :=
  h.le_turn.trans (c.turn_le _)

theorem slot_buildWhisperMessage {envelope : Envelope} {sessionState : SessionState}
    {chain : SendingChain} {ours theirs : NSData}
    (h : envelope.message = .whisper (SessionCipher.buildWhisperMessage P sessionState chain ours
      theirs envelope.plaintext)) :
    envelope.slot = (some chain.senderRatchetKeyPair.publicKey, (chain.chainKey.index : ℤ)) := by
  rw [Envelope.slot, h]
  exact Prod.ext (WhisperMessage.theirEphemeral_eq_some.mpr (throwsRemoveKeyType_prependKeyType _))
    (SessionCipher.counter_buildWhisperMessage ..)

theorem OnItsWay.slot_eq (h : OnItsWay identity c states envelope i chain) :
    envelope.slot = (some (c.key i), (chain.chainKey.index : ℤ)) := by
  obtain ⟨sessionState, -, hmessage⟩ := h.message
  rw [slot_buildWhisperMessage hmessage, h.isChainOf.keyPair]
  rfl

/-- **What arrives can be opened** with the message keys of its epoch. -/
theorem OnItsWay.arrives (h : OnItsWay identity c states envelope i chain)
    {arrived : CipherMessage} (harrives : Arrives P envelope.message arrived)
    {receiver : SessionState} (hremote : receiver.remoteIdentityKey = some (identity envelope.sender))
    (hlocal : receiver.localIdentityKey = some (identity envelope.sender.peer)) :
    ∃ whisperMessage, arrived = .whisper whisperMessage ∧
      whisperMessage.version = currentVersion ∧
      throwsRemoveKeyType whisperMessage.senderRatchetKey = .ok (c.key i).val ∧
      whisperMessage.counter.toInt = chain.chainKey.index ∧
      receiver.openWith P whisperMessage ((ChainKey.initial
        (c.epochs i).chainKey).messageKeysAt P chain.chainKey.index) = .ok envelope.plaintext := by
  obtain ⟨sessionState, hversion, hmessage⟩ := h.message
  have hkey : c.key i = chain.senderRatchetKeyPair.publicKey := by
    rw [h.isChainOf.keyPair]
    rfl
  have hopen := openWith_buildWhisperMessage lawful sessionState chain hremote hlocal
    envelope.plaintext
  rw [h.isChainOf.throwsMessageKeys] at hopen
  have hcounter := SessionCipher.counter_buildWhisperMessage (P := P) sessionState chain
    (identity envelope.sender) (identity envelope.sender.peer) envelope.plaintext
  rw [hmessage] at harrives
  rw [hkey]
  rcases harrives with rfl | ⟨sent, whisperMessage, hsent, rfl, hparse⟩
  · exact ⟨_, rfl, hversion, throwsRemoveKeyType_prependKeyType _, hcounter, hopen⟩
  · obtain rfl := CipherMessage.whisper.inj hsent
    rw [SessionCipher.buildWhisperMessage_roundTrip _ _ _ _ _ lawful hversion] at hparse
    obtain rfl := Except.ok.inj hparse
    exact ⟨_, rfl, hversion, SessionCipher.throwsRemoveKeyType_received .., hcounter, hopen⟩

end OnItsWay

/-! ## The conversation of two states -/

/-- Two session states and the messages on their way realise a conversation. -/
structure Conversing (identity : Side → NSData) (c : lawful.ratchet.Conversation)
    (states : Side → SessionState) (trimmed : Side → List NSData) (generated : ℕ)
    (inFlight : List Envelope) : Prop where
  realises : ∀ side, Realises c side (identity side) (identity side.peer) (trimmed side)
    (states side)
  /-- A receiver is never ahead of the chain its peer sends on. -/
  behind : ∀ side own, (states side).sendingChain = some own →
    ∀ chain ∈ (states side.peer).receivingChains,
      chain.senderRatchetKey = (c.key (c.turn side)).val → chain.chainKey.index ≤ own.chainKey.index
  keyPairs : ∀ j ≤ c.rounds + 1, ∃ m < generated, (c.epochs j).keyPair = P.generatedKeyPair m
  onItsWay : ∀ envelope ∈ inFlight, ∃ i chain, OnItsWay identity c states envelope i chain
  slots : (inFlight.map Envelope.slot).Nodup

section Conversing

variable {identity : Side → NSData} {c : lawful.ratchet.Conversation}
  {states : Side → SessionState} {trimmed : Side → List NSData} {generated : ℕ}
  {inFlight : List Envelope} {side : Side}

/-- Key pairs of the rest of the program make no difference. -/
theorem Conversing.mono (h : Conversing identity c states trimmed generated inFlight)
    {generated' : ℕ} (hle : generated ≤ generated') :
    Conversing identity c states trimmed generated' inFlight :=
  { h with keyPairs := fun j hj => (h.keyPairs j hj).imp fun _ hm => ⟨hm.1.trans_le hle, hm.2⟩ }

/-- **Sending keeps to the conversation.** -/
theorem Conversing.send (h : Conversing identity c states trimmed generated inFlight)
    {chain : SendingChain} {nextChainKey : ChainKey} (plaintext : NSData)
    (hchain : (states side).sendingChain = some chain)
    (hnext : chain.chainKey.nextChainKey P = .ok nextChainKey) :
    Conversing identity c
      (Function.update states side ((states side).setSenderChainKey nextChainKey)) trimmed generated
      (⟨side, plaintext, .whisper (SessionCipher.buildWhisperMessage P (states side) chain
        (identity side) (identity side.peer) plaintext)⟩ :: inFlight) := by
  obtain ⟨own, hown, hof⟩ := (h.realises side).sendingChain
  obtain rfl : own = chain := Option.some.inj (hown.symm.trans hchain)
  obtain ⟨-, hindex⟩ := (ChainKey.nextChainKey_eq_ok P).mp hnext
  have hlt := nextChainKey.index_lt
  have hself : ((states side).setSenderChainKey nextChainKey).sendingChain =
      some { own with chainKey := nextChainKey } := by
    simp [setSenderChainKey, hown]
  have hreceiving : ∀ other, (Function.update states side
      ((states side).setSenderChainKey nextChainKey) other).receivingChains =
        (states other).receivingChains := by
    intro other
    rcases eq_or_ne other side with rfl | hne
    · rw [Function.update_self]
      rfl
    · rw [Function.update_of_ne hne]
  -- The index of a sending chain has gone up by one, or is as it was.
  have hsending : ∀ other after, (Function.update states side
      ((states side).setSenderChainKey nextChainKey) other).sendingChain = some after →
        ∃ before, (states other).sendingChain = some before ∧
          before.chainKey.index ≤ after.chainKey.index := by
    intro other after hafter
    rcases eq_or_ne other side with rfl | hne
    · rw [Function.update_self, hself] at hafter
      obtain rfl := Option.some.inj hafter
      exact ⟨own, hown, by rw [hindex]; exact Nat.le_succ _⟩
    · rw [Function.update_of_ne hne] at hafter
      exact ⟨after, hafter, Nat.le_refl _⟩
  have hnew : OnItsWay identity c (Function.update states side
      ((states side).setSenderChainKey nextChainKey)) ⟨side, plaintext, .whisper
        (SessionCipher.buildWhisperMessage P (states side) own (identity side)
          (identity side.peer) plaintext)⟩ (c.turn side) own :=
    { sender := c.sender_turn side
      le_turn := Nat.le_refl _
      isChainOf := hof
      index_lt := hindex ▸ hlt
      message := ⟨states side, (h.realises side).version, rfl⟩
      passed := by
        intro _ after hafter
        rw [Function.update_self, hself] at hafter
        obtain rfl := Option.some.inj hafter
        rw [hindex]
        exact Nat.lt_succ_self _
      unspent := by
        intro receiving hmem hkey hspent
        rw [hreceiving] at hmem
        have hle := h.behind side own hown receiving hmem hkey
        exact absurd hspent.1 (Nat.not_lt.mpr hle) }
  have hold : ∀ envelope ∈ inFlight, ∃ i chain, OnItsWay identity c (Function.update states side
      ((states side).setSenderChainKey nextChainKey)) envelope i chain := by
    intro envelope hmem
    obtain ⟨i, chain, hway⟩ := h.onItsWay envelope hmem
    refine ⟨i, chain, { hway with passed := ?_, unspent := ?_ }⟩
    · intro hi after hafter
      obtain ⟨before, hbefore, hle⟩ := hsending _ after hafter
      exact (hway.passed hi before hbefore).trans_le hle
    · rw [hreceiving]
      exact hway.unspent
  refine ⟨fun other => ?_, ?_, h.keyPairs, ?_, ?_⟩
  · rcases eq_or_ne other side with rfl | hne
    · rw [Function.update_self]
      exact (h.realises other).setSenderChainKey hown hnext
    · rw [Function.update_of_ne hne]
      exact h.realises other
  · intro other after hafter receiving hmem hkey
    rw [hreceiving] at hmem
    obtain ⟨before, hbefore, hle⟩ := hsending other after hafter
    exact (h.behind other before hbefore receiving hmem hkey).trans hle
  · exact List.forall_mem_cons.mpr ⟨⟨_, _, hnew⟩, hold⟩
  · rw [List.map_cons, List.nodup_cons]
    refine ⟨fun hmem => ?_, h.slots⟩
    obtain ⟨envelope, hmem, hslot⟩ := List.mem_map.mp hmem
    obtain ⟨i, chain, hway⟩ := h.onItsWay envelope hmem
    rw [hway.slot_eq, hnew.slot_eq, Prod.mk.injEq, Option.some.injEq] at hslot
    obtain rfl := c.distinct i hway.le (c.turn side) (c.turn_le side) hslot.1
    -- Its sender is the same, and has not sent this counter yet.
    have hsender : envelope.sender = side := hway.sender.symm.trans (c.sender_turn side)
    have hpassed := hway.passed
    rw [hsender] at hpassed
    have := hpassed rfl own hown
    omega

/-- **Receiving keeps to the conversation.** -/
theorem Conversing.receive {earlier later : List Envelope} {envelope : Envelope}
    (h : Conversing identity c states trimmed generated (earlier ++ envelope :: later))
    {i : ℕ} {chain : SendingChain} (hway : OnItsWay identity c states envelope i chain)
    {c' : lawful.ratchet.Conversation} {s' : SessionState} {generated' : ℕ}
    (hside : envelope.sender = side.peer)
    (hrealises : Realises c' side (identity side) (identity side.peer)
      (trimmed side ++ trimmedBy (states side) s') s')
    (hreceives : Receives c side i chain.chainKey.index (states side) generated c' s' generated') :
    Conversing identity c' (Function.update states side s')
      (Function.update trimmed side (trimmed side ++ trimmedBy (states side) s')) generated'
      (earlier ++ later) := by
  have hgrows := hreceives.grows
  have hsublist : (earlier ++ later).Sublist (earlier ++ envelope :: later) :=
    (List.sublist_cons_self envelope later).append_left earlier
  have hreceived : (Function.update states side s') side = s' := Function.update_self _ _ _
  have hsent : (Function.update states side s') side.peer = states side.peer :=
    Function.update_of_ne side.peer_ne _ _
  -- What a side sends with is as before, or of an epoch that is new.
  have hsending : ∀ other own, (Function.update states side s' other).sendingChain = some own →
      (states other).sendingChain = some own ∧ c'.turn other = c.turn other ∨
        c.rounds + 1 < c'.turn other := by
    intro other own hown
    rcases eq_or_ne other side with rfl | hne
    · rw [hreceived] at hown
      exact hreceives.sending.imp_left (And.imp_left fun hsame => hsame.symm.trans hown)
    · obtain rfl := Side.eq_peer_of_ne hne
      rw [hsent] at hown
      exact .inl ⟨hown, hgrows.peer⟩
  have hturn : ∀ other, c.turn other ≤ c'.turn other := by
    intro other
    rcases eq_or_ne other side with rfl | hne
    · have := c.turn_le other
      rcases hgrows.turn with hsame | hlt
      · exact hsame.ge
      · omega
    · obtain rfl := Side.eq_peer_of_ne hne
      exact hgrows.peer.ge
  refine ⟨fun other => ?_, fun other own hown receiving hmem hkey => ?_, fun j hj => ?_, ?_,
    h.slots.sublist (hsublist.map _)⟩
  · rcases eq_or_ne other side with rfl | hne
    · rw [Function.update_self, Function.update_self]
      exact hrealises
    · rw [Function.update_of_ne hne, Function.update_of_ne hne]
      obtain rfl := Side.eq_peer_of_ne hne
      exact (h.realises side.peer).grows hgrows
  · rcases hsending other own hown with ⟨hbefore, hsame⟩ | hnew
    · have hle := c.turn_le other
      rw [hsame, hgrows.key hle] at hkey
      rcases eq_or_ne other side with rfl | hne
      · rw [hsent] at hmem
        exact h.behind other own hbefore receiving hmem hkey
      · obtain rfl := Side.eq_peer_of_ne hne
        rw [Side.peer_peer, hreceived] at hmem
        have hbehind := h.behind side.peer own hbefore
        rw [Side.peer_peer] at hbehind
        rcases hreceives.index receiving hmem with ⟨before, hmem, hbeforeKey, hindex⟩ |
            ⟨hof, hindex⟩
        · exact hindex.trans (hbehind before hmem (hbeforeKey.trans hkey))
        · have hi : i = c.turn side.peer := c.distinct i hway.le _ hle
            (Subtype.ext (hof.symm.trans hkey))
          have := hway.passed (hside ▸ hi) own (hside ▸ hbefore)
          omega
    · -- The epoch is new, and its peer has no chain of it.
      exfalso
      have hother : other = side := by
        by_contra hne
        obtain rfl := Side.eq_peer_of_ne hne
        rw [hgrows.peer] at hnew
        have := c.turn_le side.peer
        omega
      subst hother
      rw [hsent] at hmem
      obtain ⟨j, hopened, hof, -⟩ := (h.realises other.peer).keyed receiving hmem
      have hj := hopened.le
      have hkeys : c'.key j = c'.key (c'.turn other) := by
        rw [hgrows.key (by omega)]
        exact Subtype.ext (hof.symm.trans hkey)
      have := c'.turn_le other
      have := c'.distinct j (by omega) _ this hkeys
      omega
  · rcases hreceives.keyPairs j hj with hle | ⟨hlt, hpair⟩
    · obtain ⟨m, hm, hpair⟩ := h.keyPairs j hle
      rw [hgrows.epochs j hle]
      exact ⟨m, hm.trans_le hreceives.generated_le, hpair⟩
    · exact ⟨generated, hlt, hpair⟩
  · intro other hother
    obtain ⟨j, sealing, hotherWay⟩ := h.onItsWay other (hsublist.subset hother)
    have hj := hotherWay.le
    refine ⟨j, sealing,
      { hotherWay with
        le_turn := hotherWay.le_turn.trans (hturn _)
        isChainOf := by rw [hgrows.epochs j hj]; exact hotherWay.isChainOf
        passed := fun hlast own hown => ?_
        unspent := fun receiving hmem hkey hspent => ?_ }⟩
    · rcases hsending other.sender own hown with ⟨hbefore, hsame⟩ | hnew
      · exact hotherWay.passed (hlast.trans hsame) own hbefore
      · omega
    · rw [hgrows.key hj] at hkey
      have hunspent := hotherWay.unspent
      rcases eq_or_ne other.sender.peer side with hpeer | hne
      · rw [hpeer] at hunspent hmem
        rw [hreceived] at hmem
        rcases hreceives.spent receiving hmem _ hspent with ⟨before, hmem, hbeforeKey, hspent⟩ |
            ⟨hof, hnumber⟩
        · exact hunspent before hmem (hbeforeKey.trans hkey) hspent
        · -- It would be the slot of the message received.
          obtain rfl := c.distinct j hj i hway.le (Subtype.ext (hkey.symm.trans hof))
          have hslot : other.slot = envelope.slot := by
            rw [hotherWay.slot_eq, hway.slot_eq, hnumber]
          have hslots := h.slots
          rw [List.map_append, List.map_cons, List.nodup_middle, ← List.map_append,
            List.nodup_cons, ← hslot] at hslots
          exact hslots.1 (List.mem_map_of_mem hother)
      · rw [Function.update_of_ne hne] at hmem
        exact hunspent receiving hmem hkey hspent

end Conversing

/-! ## The system -/

/-- The databases and clocks of both sides, the key generator and the messages on their way.  What
a side has trimmed is only remembered here. -/
structure Correspondence where
  stores : Side → Stores
  clock : Side → ℤ
  generated : ℕ
  inFlight : List Envelope
  trimmed : Side → List NSData

inductive CorrespondenceEvent where
  | sent (envelope : Envelope)
  | delivered (envelope : Envelope) (result : Except Failure NSData)
  | rejected (side : Side) (whisperMessage : WhisperMessage)
  | elsewhere (side : Side)

namespace Correspondence

variable (P) (parties : Side → Party)

/-- What the procedures of a side run on. -/
def world (s : Correspondence) (side : Side) : World := ⟨s.stores side, s.clock side, s.generated⟩

/-- The current session state of a side. -/
def states (s : Correspondence) (side : Side) : SessionState :=
  ((parties side).record (s.world side)).sessionState

/-- After a call of a side. -/
def update (s : Correspondence) (side : Side) (world : World) : Correspondence :=
  { s with
    stores := Function.update s.stores side world.stores
    clock := Function.update s.clock side world.clock
    generated := world.generated
    trimmed := Function.update s.trimmed side (s.trimmed side ++
      trimmedBy (s.states parties side) ((parties side).record world).sessionState) }

/-- The receiver chain of the message was not trimmed, and its counter is not too far ahead. -/
def WithinLimits (s : Correspondence) (side : Side) (whisperMessage : WhisperMessage) : Prop :=
  ∀ theirEphemeral, whisperMessage.theirEphemeral = some theirEphemeral →
    theirEphemeral.val ∉ s.trimmed side ∧
      whisperMessage.counter.toInt ≤
        (receiverIndex (s.states parties side) theirEphemeral.val + kCounterLimit : ℕ)

/-- The steps of both parties, in any order; a message is delivered once, or not at all. -/
inductive Step : Correspondence → CorrespondenceEvent → Correspondence → Prop
  | sent {s : Correspondence} {side : Side} {plaintext : NSData} {message : CipherMessage}
      {world' : World}
      (hrun : ((parties side).cipher.throwsEncryptMessage P plaintext).run (s.world side) =
        (.ok message, world')) :
      Step s (.sent ⟨side, plaintext, message⟩) { s.update parties side world' with
        inFlight := ⟨side, plaintext, message⟩ :: s.inFlight }
  | delivered {s : Correspondence} {earlier later : List Envelope} {envelope : Envelope}
      {arrived : CipherMessage} {result : Except Failure NSData} {world' : World}
      (hflight : s.inFlight = earlier ++ envelope :: later)
      (harrives : Arrives P envelope.message arrived)
      (hlimits : s.WithinLimits parties envelope.sender.peer arrived.whisperMessage)
      (hrun : ((parties envelope.sender.peer).cipher.throwsDecrypt P arrived).run
        (s.world envelope.sender.peer) = (result, world')) :
      Step s (.delivered envelope result) { s.update parties envelope.sender.peer world' with
        inFlight := earlier ++ later }
  /-- Anything else that arrives and is rejected: a forgery, a message again, or one too late. -/
  | rejected {s : Correspondence} {side : Side} {whisperMessage : WhisperMessage}
      {e : NSException} {world' : World}
      (hrun : ((parties side).cipher.throwsDecrypt P (.whisper whisperMessage)).run
        (s.world side) = (.error (.raised e), world')) :
      Step s (.rejected side whisperMessage) (s.update parties side world')
  /-- The rest of a side's program: it leaves the session and the account alone. -/
  | elsewhere {s : Correspondence} {side : Side} {world' : World}
      (hrecord : (parties side).record world' = (parties side).record (s.world side))
      (hnumber : world'.stores.localNumber = (s.stores side).localNumber)
      (hgenerated : s.generated ≤ world'.generated) :
      Step s (.elsewhere side) (s.update parties side world')

/-- A step, if the next key pair would be another than those generated. -/
def FreshStep (s : Correspondence) (event : CorrespondenceEvent) (s' : Correspondence) : Prop :=
  Step P parties s event s' ∧ P.FreshKeys (s.generated + 1)

end Correspondence

/-- The identity keys of a handshake. -/
def RatchetingSession.Handshake.identity (handshake : RatchetingSession.Handshake) : Side → NSData
  | .initiator => handshake.aliceIdentity.publicKey.val
  | .responder => handshake.bobIdentity.publicKey.val

/-- Both parties have initialised their session, and nothing was sent. -/
structure Correspondence.Begins (P : Primitives) (parties : Side → Party)
    (handshake : RatchetingSession.Handshake) (aliceRatchet : ECKeyPair) (s : Correspondence) :
    Prop where
  alice : RatchetingSession.throwsInitializeSessionAlice P .new currentVersion
    handshake.aliceParameters aliceRatchet = .ok (s.states parties .initiator)
  bob : RatchetingSession.throwsInitializeSessionBob P .new currentVersion
    handshake.bobParameters = .ok (s.states parties .responder)
  matching : handshake.Matches P
  aliceGenerated : ∃ m < s.generated, aliceRatchet = P.generatedKeyPair m
  bobGenerated : ∃ m < s.generated, handshake.bobRatchet = P.generatedKeyPair m
  distinct : handshake.bobRatchet.publicKey ≠ aliceRatchet.publicKey
  inFlight : s.inFlight = []
  trimmed : ∀ side, s.trimmed side = []
  /-- No party writes to itself. -/
  number : ∀ side, (s.stores side).localNumber ≠ some (parties side).recipientId

/-! ## Runs -/

/-- **A message that the current state opens is decrypted**, unless it is from ourselves. -/
theorem SessionCipher.run_throwsDecryptWhisperMessage_of_current (cipher : SessionCipher)
    {world : World} {whisperMessage : WhisperMessage} {plaintext : NSData} {s' : SessionState}
    {generated' : ℕ} (hnumber : world.stores.localNumber ≠ some cipher.recipientId)
    (htrial : (throwsDecryptWithSessionState P whisperMessage).run
      ⟨(world.stores.loadSession cipher.recipientId cipher.deviceId).sessionState,
        world.generated⟩ = (.ok plaintext, ⟨s', generated'⟩)) :
    (cipher.throwsDecryptWhisperMessage P whisperMessage).run world =
      (.ok plaintext, { world with
        generated := generated'
        stores := (world.stores.saveRemoteIdentity cipher.recipientId world.clock
          s'.remoteIdentityKey).2.storeSession cipher.recipientId cipher.deviceId
            { world.stores.loadSession cipher.recipientId cipher.deviceId with
              sessionState := s' } }) := by
  have hrecord := cipher.run_throwsDecryptWithSessionRecord_of_current world htrial
  have htrusted : world.stores.isTrustedIdentityKey cipher.recipientId world.clock
      s'.remoteIdentityKey .incoming = true := by
    rw [Stores.isTrustedIdentityKey, if_neg hnumber]
  rw [throwsDecryptWhisperMessage, run_read_bind, run_bind_of_ok hrecord]
  simp only [htrusted, if_true, run_saveRemoteIdentity_bind, run_storeSession_bind, run_pure]

namespace Correspondence

section

variable {parties : Side → Party} {s s' : Correspondence} {side : Side} {world' : World}
  {event : CorrespondenceEvent} {identity : Side → NSData}

theorem states_update : (s.update parties side world').states parties =
    Function.update (s.states parties) side ((parties side).record world').sessionState := by
  funext other
  rcases eq_or_ne other side with rfl | hne
  · rw [Function.update_self]
    show ((parties other).record ⟨Function.update s.stores other world'.stores other, _,
      _⟩).sessionState = _
    rw [Function.update_self]
    rfl
  · rw [Function.update_of_ne hne]
    show ((parties other).record ⟨Function.update s.stores side world'.stores other, _,
      _⟩).sessionState = _
    rw [Function.update_of_ne hne]
    rfl

/-- A call that keeps the ratchet keys trims nothing. -/
theorem trimmed_update_of_eq (h : ((parties side).record world').sessionState.receiverRatchetKeys =
    (s.states parties side).receiverRatchetKeys) :
    (s.update parties side world').trimmed = s.trimmed := by
  have hnone : trimmedBy (s.states parties side) ((parties side).record world').sessionState =
      [] := by
    rw [trimmedBy, h]
    exact List.filter_eq_nil_iff.mpr fun key hkey => by simp [hkey]
  show Function.update s.trimmed side (s.trimmed side ++ trimmedBy _ _) = s.trimmed
  rw [hnone, List.append_nil, Function.update_eq_self]

variable (P lawful parties identity) in
/-- The session states and the messages on their way realise some conversation, and no party writes
to itself. -/
structure InConversation (s : Correspondence) : Prop where
  conversing : ∃ c : lawful.ratchet.Conversation, Conversing identity c (s.states parties) s.trimmed
    s.generated s.inFlight
  number : ∀ side, (s.stores side).localNumber ≠ some (parties side).recipientId

section

variable (h : InConversation P lawful parties identity s)
include h

theorem InConversation.number_update
    (hnumber : world'.stores.localNumber = (s.stores side).localNumber) (other : Side) :
    ((s.update parties side world').stores other).localNumber ≠
      some (parties other).recipientId := by
  show (Function.update s.stores side world'.stores other).localNumber ≠ _
  rcases eq_or_ne other side with rfl | hne
  · rw [Function.update_self, hnumber]
    exact h.number other
  · rw [Function.update_of_ne hne]
    exact h.number other

/-- A step that leaves the session state alone. -/
theorem InConversation.quiet
    (hstate : ((parties side).record world').sessionState = s.states parties side)
    (hnumber : world'.stores.localNumber = (s.stores side).localNumber)
    (hgenerated : s.generated ≤ world'.generated) :
    InConversation P lawful parties identity (s.update parties side world') := by
  obtain ⟨c, hc⟩ := h.conversing
  refine ⟨⟨c, ?_⟩, h.number_update hnumber⟩
  rw [states_update, hstate, Function.update_eq_self, trimmed_update_of_eq (by rw [hstate])]
  exact hc.mono hgenerated

theorem InConversation.sent {plaintext : NSData} {message : CipherMessage}
    (hrun : ((parties side).cipher.throwsEncryptMessage P plaintext).run (s.world side) =
      (.ok message, world')) :
    InConversation P lawful parties identity { s.update parties side world' with
      inFlight := ⟨side, plaintext, message⟩ :: s.inFlight } := by
  obtain ⟨c, hc⟩ := h.conversing
  obtain ⟨e, herror⟩ | ⟨e, herror⟩ | ⟨sessionRecord, chain, ours, theirs, nextChainKey, rfl,
      hsending, hlocal, hremote, hnext, hok⟩ :=
    SessionCipher.throwsEncryptMessage_cases (P := P) (parties side).cipher plaintext (s.world side)
  · rw [hrun] at herror
    simp at herror
  · rw [hrun] at herror
    simp at herror
  · rw [hrun] at hok
    obtain ⟨hmessage, hworld⟩ := Prod.mk.inj hok
    obtain rfl := Except.ok.inj hmessage
    have hrealises := hc.realises side
    obtain rfl : identity side = ours :=
      Option.some.inj (hrealises.localIdentityKey.symm.trans hlocal)
    obtain rfl : identity side.peer = theirs :=
      Option.some.inj (hrealises.remoteIdentityKey.symm.trans hremote)
    have hpending : (s.states parties side).pendingPreKey = none := hrealises.pendingPreKey
    have hafter : ((parties side).record world').sessionState =
        (s.states parties side).setSenderChainKey nextChainKey := by
      rw [hworld]
      exact congrArg SessionRecord.sessionState (Stores.loadSession_storeSession _)
    have hnumber : world'.stores.localNumber = (s.stores side).localNumber := by
      rw [hworld]
      exact ((s.stores side).saveRemoteIdentity_frame _ _ _).localNumber
    have hgenerated : world'.generated = s.generated := by
      rw [hworld]
      rfl
    refine ⟨⟨c, ?_⟩, h.number_update hnumber⟩
    show Conversing identity c ((s.update parties side world').states parties) _ _ _
    rw [states_update, hafter, trimmed_update_of_eq (by rw [hafter]; rfl)]
    show Conversing identity c _ _ world'.generated (⟨side, plaintext,
      SessionCipher.wrapWhisperMessage P (s.states parties side) _ _⟩ :: _)
    rw [hgenerated, SessionCipher.wrapWhisperMessage, hpending]
    exact hc.send plaintext hsending hnext

/-- **What is delivered decrypts**, and the conversation goes on. -/
theorem InConversation.delivered (fresh : P.FreshKeys (s.generated + 1))
    {earlier later : List Envelope} {envelope : Envelope}
    {arrived : CipherMessage} {result : Except Failure NSData}
    (hflight : s.inFlight = earlier ++ envelope :: later)
    (harrives : Arrives P envelope.message arrived)
    (hlimits : s.WithinLimits parties envelope.sender.peer arrived.whisperMessage)
    (hrun : ((parties envelope.sender.peer).cipher.throwsDecrypt P arrived).run
      (s.world envelope.sender.peer) = (result, world')) :
    result = .ok envelope.plaintext ∧
      InConversation P lawful parties identity
        { s.update parties envelope.sender.peer world' with inFlight := earlier ++ later } := by
  obtain ⟨c, hc⟩ := h.conversing
  rw [hflight] at hc
  generalize hside : envelope.sender.peer = side at hlimits hrun ⊢
  have hsender : envelope.sender = side.peer := by rw [← hside, Side.peer_peer]
  obtain ⟨i, chain, hway⟩ := hc.onItsWay envelope (by simp)
  have hrealises := hc.realises side
  obtain ⟨whisperMessage, rfl, hversion, hephemeral, hcounter, hopen⟩ := hway.arrives harrives
    (hsender ▸ hrealises.remoteIdentityKey) (hside ▸ hrealises.localIdentityKey)
  obtain ⟨hthere, hlimit⟩ := hlimits _ (WhisperMessage.theirEphemeral_eq_some.mpr hephemeral)
  rw [show (CipherMessage.whisper whisperMessage).whisperMessage.counter.toInt = _ from hcounter,
    Int.ofNat_le] at hlimit
  have hfresh : ∀ j ≤ c.rounds + 1, c.key j ≠ (P.generatedKeyPair s.generated).publicKey := by
    intro j hj hsame
    obtain ⟨m, hm, hpair⟩ := hc.keyPairs j hj
    rw [Conversation.key, hpair] at hsame
    have := fresh m (by omega) s.generated (by omega) hsame
    omega
  have hle : i ≤ c.turn side.peer := hsender ▸ hway.le_turn
  obtain ⟨c', s', generated', htrial, hrealises', hreceives⟩ := hrealises.receive
    (hway.sender.trans hsender) hle hthere hfresh hversion hephemeral hcounter hway.index_lt hlimit
    (hside ▸ hway.unspent) hopen
  have hdecrypt := (parties side).cipher.run_throwsDecryptWhisperMessage_of_current
    (h.number side) htrial
  obtain ⟨rfl, hworld⟩ := Prod.mk.inj (hrun.symm.trans hdecrypt)
  have hafter : ((parties side).record world').sessionState = s' := by
    rw [hworld]
    exact congrArg SessionRecord.sessionState (Stores.loadSession_storeSession _)
  have hnumber : world'.stores.localNumber = (s.stores side).localNumber := by
    rw [hworld]
    exact ((s.stores side).saveRemoteIdentity_frame _ _ _).localNumber
  have hgenerated : world'.generated = generated' := by
    rw [hworld]
  refine ⟨rfl, ⟨c', ?_⟩, h.number_update hnumber⟩
  show Conversing identity c' ((s.update parties side world').states parties)
    (Function.update _ _ (_ ++ trimmedBy _ ((parties side).record world').sessionState))
    world'.generated _
  rw [states_update, hafter, hgenerated]
  exact hc.receive hway hsender hrealises' hreceives

/-- **Every step keeps to the conversation**, and what it delivers decrypts. -/
theorem InConversation.step (hstep : FreshStep P parties s event s') :
    InConversation P lawful parties identity s' ∧
      ∀ envelope result, event = .delivered envelope result →
        result = .ok envelope.plaintext := by
  obtain ⟨hstep, fresh⟩ := hstep
  cases hstep with
  | sent hrun => exact ⟨h.sent hrun, nofun⟩
  | delivered hflight harrives hlimits hrun =>
      obtain ⟨hresult, hnext⟩ := h.delivered fresh hflight harrives hlimits hrun
      refine ⟨hnext, fun envelope result hevent => ?_⟩
      obtain ⟨rfl, rfl⟩ := CorrespondenceEvent.delivered.inj hevent
      exact hresult
  | rejected hrun =>
      have hgenerated := generated_le_throwsDecrypt_raised hrun
      have hworld := SessionCipher.throwsDecryptWhisperMessage_error hrun
      refine ⟨h.quiet ?_ ?_ hgenerated, nofun⟩
      · rw [hworld]
        rfl
      · rw [hworld]
        rfl
  | elsewhere hrecord hnumber hgenerated =>
      exact ⟨h.quiet (congrArg SessionRecord.sessionState hrecord) hnumber hgenerated, nofun⟩

end

/-- The initialised sessions begin a conversation. -/
theorem Begins.inConversation {handshake : RatchetingSession.Handshake}
    {aliceRatchet : ECKeyPair} (h : Begins P parties handshake aliceRatchet s) (lawful : P.Lawful) :
    InConversation P lawful parties handshake.identity s := by
  obtain ⟨m, hm, hratchet⟩ := h.aliceGenerated
  have hmatches : aliceRatchet.Matches P := hratchet ▸ P.generatedKeyPair_matches m
  refine ⟨⟨initialConversation lawful h.matching hmatches h.distinct, ?_⟩, h.number⟩
  refine ⟨fun side => ?_, ?_, ?_, ?_, ?_⟩
  · rw [h.trimmed side]
    cases side with
    | initiator => exact realises_initiator h.alice
    | responder => exact realises_responder h.bob
  · intro side own hown chain hchain hkey
    have halice := h.alice
    have hbob := h.bob
    rw [handshake.throwsInitializeSessionAlice_eq] at halice
    rw [handshake.throwsInitializeSessionBob_eq lawful h.matching] at hbob
    cases side with
    | initiator =>
        rw [Side.peer, ← Except.ok.inj hbob] at hchain
        exact absurd hchain List.not_mem_nil
    | responder =>
        rw [Side.peer, ← Except.ok.inj halice] at hchain
        obtain rfl := List.mem_singleton.mp hchain
        exact Nat.zero_le _
  · intro j hj
    show ∃ n < s.generated, (if j = 0 then firstEpoch P handshake
      else lawful.ratchet.next (firstEpoch P handshake) aliceRatchet).keyPair = P.generatedKeyPair n
    split
    · exact h.bobGenerated
    · exact h.aliceGenerated
  · simp [h.inFlight]
  · simp [h.inFlight]

end

end Correspondence

/-- **Every message delivered decrypts to what was sent.** -/
theorem delivered_decrypts {parties : Side → Party} {handshake : RatchetingSession.Handshake}
    {aliceRatchet : ECKeyPair} {start s : Correspondence} {events : List CorrespondenceEvent}
    (lawful : P.Lawful) (begins : start.Begins P parties handshake aliceRatchet)
    (run : LabelledRun (Correspondence.FreshStep P parties) start events s) {envelope : Envelope}
    {result : Except Failure NSData} (h : .delivered envelope result ∈ events) :
    result = .ok envelope.plaintext := by
  have hrun := run.invariant (I := fun events s =>
    s.InConversation P lawful parties handshake.identity ∧
      ∀ envelope result, CorrespondenceEvent.delivered envelope result ∈ events →
        result = .ok envelope.plaintext) ⟨begins.inConversation lawful, by simp⟩ ?_
  · exact hrun.2 envelope result h
  · rintro events s event s' ⟨hin, hall⟩ hstep
    obtain ⟨hin', hlast⟩ := hin.step hstep
    refine ⟨hin', fun envelope result hmem => ?_⟩
    rcases List.mem_append.mp hmem with hmem | hmem
    · exact hall envelope result hmem
    · exact hlast envelope result (List.mem_singleton.mp hmem).symm

/-! ### A first message -/

open RatchetingSession in
def sampleAgreement : Handshake where
  aliceIdentity := sampleKeyPair 10
  aliceBase := sampleKeyPair 13
  bobIdentity := sampleKeyPair 11
  bobSignedPrekey := sampleKeyPair 14
  bobRatchet := additivePrimitives.generatedKeyPair 0
  bobOneTimePrekey := none

/-- We write to `"+1"`, and our contact to `"+2"`. -/
def sampleParties : Side → Party
  | .initiator => sampleParty
  | .responder => { sampleParty with recipientId := "+2" }

open RatchetingSession in
def sampleSessions : Side → Except Failure SessionState
  | .initiator => throwsInitializeSessionAlice additivePrimitives .new currentVersion
      sampleAgreement.aliceParameters (additivePrimitives.generatedKeyPair 1)
  | .responder => throwsInitializeSessionBob additivePrimitives .new currentVersion
      sampleAgreement.bobParameters

def sampleCorrespondence : Correspondence where
  stores side := { sampleStores none none with
    sessions := fun _ _ => some (sampleRecord ((sampleSessions side).toOption.getD .new) [])
    localNumber := some (sampleParties side.peer).recipientId }
  clock _ := 0
  generated := 2
  inFlight := []
  trimmed _ := []

theorem sampleAgreement_matches : sampleAgreement.Matches additivePrimitives where
  aliceIdentity := rfl
  aliceBase := rfl
  bobIdentity := rfl
  bobSignedPrekey := rfl
  bobRatchet := rfl
  bobOneTimePrekey _ hkeyPair := by cases hkeyPair

theorem sampleCorrespondence_begins :
    sampleCorrespondence.Begins additivePrimitives sampleParties sampleAgreement
      (additivePrimitives.generatedKeyPair 1) where
  alice := by
    show sampleSessions .initiator = .ok ((sampleSessions .initiator).toOption.getD .new)
    rw [sampleSessions, RatchetingSession.Handshake.throwsInitializeSessionAlice_eq]
    rfl
  bob := by
    show sampleSessions .responder = .ok ((sampleSessions .responder).toOption.getD .new)
    rw [sampleSessions, RatchetingSession.Handshake.throwsInitializeSessionBob_eq _
      additivePrimitives_lawful sampleAgreement_matches]
    rfl
  matching := sampleAgreement_matches
  aliceGenerated := ⟨1, by decide, rfl⟩
  bobGenerated := ⟨0, by decide, rfl⟩
  distinct := by decide +kernel
  inFlight := rfl
  trimmed _ := rfl
  number side := by cases side <;> decide

namespace Correspondence

/-- What comes of encrypting a message of a side. -/
def encryption (s : Correspondence) (side : Side) (plaintext : NSData) :
    Except Failure CipherMessage × World :=
  ((sampleParties side).cipher.throwsEncryptMessage additivePrimitives plaintext).run (s.world side)

/-- A message of a side is sent and delivered. -/
def exchanged (s : Correspondence) (side : Side) (plaintext : NSData) : Correspondence :=
  match s.encryption side plaintext with
  | (.error _, _) => s
  | (.ok message, world') =>
      let sent := s.update sampleParties side world'
      { sent.update sampleParties side.peer (((sampleParties side.peer).cipher.throwsDecrypt
          additivePrimitives message).run (sent.world side.peer)).2 with inFlight := [] }

theorem exists_exchange (s : Correspondence) (side : Side) (plaintext : NSData)
    (hflight : s.inFlight = []) (hgenerated : s.generated < 256)
    (hsent : ((s.encryption side plaintext).1.toOption.any fun message =>
      decide (message.whisperMessage.counter.toInt ≤ 0)) = true)
    (hsent' : (s.encryption side plaintext).2.generated < 256)
    (htrimmed : (s.update sampleParties side (s.encryption side plaintext).2).trimmed side.peer =
      []) :
    ∃ message result, LabelledRun (FreshStep additivePrimitives sampleParties) s
      [.sent ⟨side, plaintext, message⟩, .delivered ⟨side, plaintext, message⟩ result]
        (s.exchanged side plaintext) := by
  unfold exchanged
  rcases hrun : s.encryption side plaintext with ⟨failure | message, world'⟩
  · rw [hrun] at hsent
    cases hsent
  rw [hrun] at hsent hsent' htrimmed
  let s₁ : Correspondence := { s.update sampleParties side world' with
    inFlight := [⟨side, plaintext, message⟩] }
  have first : FreshStep additivePrimitives sampleParties s (.sent ⟨side, plaintext, message⟩)
      s₁ := by
    have step := Step.sent hrun
    rw [hflight] at step
    exact ⟨step, additivePrimitives_freshKeys hgenerated⟩
  have hlimits : s₁.WithinLimits sampleParties side.peer message.whisperMessage := by
    intro theirEphemeral _
    have hcounter := of_decide_eq_true hsent
    exact ⟨htrimmed ▸ List.not_mem_nil, by omega⟩
  exact ⟨message, _, (LabelledRun.single first).tail ⟨@Step.delivered _ _ s₁ [] []
    ⟨side, plaintext, message⟩ message _ _ rfl (.inl rfl) hlimits rfl,
    additivePrimitives_freshKeys hsent'⟩⟩

end Correspondence

/-- Our first message is delivered, and then the reply on a chain of its own. -/
theorem delivered_decrypts_sample :
    ∃ reply events s, LabelledRun (Correspondence.FreshStep additivePrimitives sampleParties)
        sampleCorrespondence events s ∧
      .delivered ⟨.responder, [4, 5], reply⟩ (.ok [4, 5]) ∈ events := by
  obtain ⟨message, result, first⟩ := sampleCorrespondence.exists_exchange .initiator [1, 2, 3] rfl
    (by decide) (by decide +kernel) (by decide +kernel) (by decide +kernel)
  obtain ⟨reply, result', second⟩ :=
    (sampleCorrespondence.exchanged .initiator [1, 2, 3]).exists_exchange .responder [4, 5]
      (by decide +kernel) (by decide +kernel) (by decide +kernel) (by decide +kernel)
      (by decide +kernel)
  have run := first.trans second
  have hmem : CorrespondenceEvent.delivered ⟨.responder, [4, 5], reply⟩ result' ∈
      ([.sent ⟨.initiator, [1, 2, 3], message⟩, .delivered ⟨.initiator, [1, 2, 3], message⟩ result] ++
        [.sent ⟨.responder, [4, 5], reply⟩, .delivered ⟨.responder, [4, 5], reply⟩ result']) := by
    simp
  obtain rfl := delivered_decrypts additivePrimitives_lawful sampleCorrespondence_begins run hmem
  exact ⟨reply, _, _, run, hmem⟩

end ObjcSwiftLearning.AxolotlKit
