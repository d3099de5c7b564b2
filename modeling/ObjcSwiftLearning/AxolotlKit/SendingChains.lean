import Mathlib.Data.List.Nodup
import ObjcSwiftLearning.AxolotlKit.AdditivePrimitives
import ObjcSwiftLearning.AxolotlKit.Exchange
import ObjcSwiftLearning.AxolotlKit.SessionRuns

/-!
# Message keys are used once for sending

The counters of the messages a party sends on one ratchet key are `0, 1, 2, …`,
over any run: through ratchet steps, archiving, promotion and failed trials.

A state that has received something sends on a key generated for it alone
(`SessionState.ownChain`).  A state that has not is one a first message opened
and could not use: it sits on the signed prekey, as others may, and a trial that
makes it current ratchets it away from there first.

* `SendingChains` — **the invariant**: the own chains of a record are on
  different generated keys, and the index of each is the number of messages sent
  on its key.
* `SendingChains.statesStep` — every step keeps it.
* `accounted_run` — and so does every run.
* `sentMessages_run` — no ratchet key and counter are sent twice, and the counters
  on one ratchet key have no gap.
-/

namespace ObjcSwiftLearning.AxolotlKit

open SignalServiceKit Procedure

/-! ## What a run sends -/

def CipherMessage.ratchetKeyAndCounter (cipherMessage : CipherMessage) : NSData × ℤ :=
  (cipherMessage.whisperMessage.senderRatchetKey, cipherMessage.whisperMessage.counter.toInt)

/-- The message a step sends. -/
def Event.sent : Event → Option (NSData × ℤ)
  | .encrypted _ cipherMessage => some cipherMessage.ratchetKeyAndCounter
  | _ => none

/-- The ratchet key and counter of each message sent, oldest first. -/
def sentMessages (events : List Event) : List (NSData × ℤ) := events.filterMap Event.sent

def countersOf (senderRatchetKey : NSData) (events : List Event) : List ℤ :=
  ((sentMessages events).filter (·.1 == senderRatchetKey)).map (·.2)

/-- The first `n` counters. -/
def countersBelow (n : ℕ) : List ℤ := (List.range n).map (fun i : ℕ => (i : ℤ))

theorem countersBelow_succ (n : ℕ) : countersBelow (n + 1) = countersBelow n ++ [(n : ℤ)] := by
  simp [countersBelow, List.range_succ]

@[simp] theorem length_countersBelow (n : ℕ) : (countersBelow n).length = n := by
  simp [countersBelow]

theorem nodup_countersBelow (n : ℕ) : (countersBelow n).Nodup :=
  List.nodup_range.map fun _ _ h => Int.ofNat_inj.mp h

section Append

variable (events : List Event) {event : Event} {key key' : NSData} {counter : ℤ}

theorem countersOf_append_of_none (h : event.sent = none) (key : NSData) :
    countersOf key (events ++ [event]) = countersOf key events := by
  simp [countersOf, sentMessages, h]

theorem countersOf_append_self (h : event.sent = some (key, counter)) :
    countersOf key (events ++ [event]) = countersOf key events ++ [counter] := by
  simp [countersOf, sentMessages, h]

theorem countersOf_append_of_ne (h : event.sent = some (key', counter)) (hne : key ≠ key') :
    countersOf key (events ++ [event]) = countersOf key events := by
  simp [countersOf, sentMessages, h, hne.symm]

end Append

theorem Event.IsQuiet.sent_eq_none {event : Event} (h : event.IsQuiet) : event.sent = none := by
  cases event with
  | raised operation exception => rfl
  | elsewhere => rfl
  | processedPrekeyBundle preKeyBundle => exact h.elim
  | encrypted paddedMessage cipherMessage => exact h.elim
  | decrypted cipherMessage plaintext => exact h.elim

/-- Counters without a gap on each key are sent once. -/
theorem nodup_of_filter_eq_countersBelow {sent : List (NSData × ℤ)}
    (h : ∀ key, ∃ n, (sent.filter (·.1 == key)).map (·.2) = countersBelow n) : sent.Nodup := by
  rw [List.nodup_iff_count_le_one]
  rintro ⟨key, counter⟩
  obtain ⟨n, hn⟩ := h key
  have hnodup : (sent.filter (·.1 == key)).Nodup := by
    refine List.Nodup.of_map (·.2) ?_
    rw [hn]
    exact nodup_countersBelow n
  have hcount := List.nodup_iff_count_le_one.mp hnodup (key, counter)
  rwa [List.count_filter (by simp)] at hcount

/-! ## Own chains -/

def SessionState.ownChain (s : SessionState) : Option SendingChain :=
  if s.receivingChains = [] then none else s.sendingChain

def ownChains (states : List SessionState) : List SendingChain :=
  states.filterMap SessionState.ownChain

def SendingChain.publicKey (chain : SendingChain) : Key := chain.senderRatchetKeyPair.publicKey

def Primitives.GeneratedBelow (P : Primitives) (n : ℕ) (key : Key) : Prop :=
  ∃ i < n, (P.generatedKeyPair i).publicKey = key

theorem Primitives.GeneratedBelow.mono {P : Primitives} {m n : ℕ} {key : Key}
    (h : P.GeneratedBelow m key) (hle : m ≤ n) : P.GeneratedBelow n key := by
  obtain ⟨i, hi, hkey⟩ := h
  exact ⟨i, by omega, hkey⟩

theorem Primitives.FreshKeys.not_generatedBelow {P : Primitives} {m i n : ℕ}
    (fresh : P.FreshKeys n) (hm : m ≤ i) (hi : i < n) :
    ¬P.GeneratedBelow m (P.generatedKeyPair i).publicKey := by
  rintro ⟨j, hj, hkey⟩
  have := fresh j (by omega) i hi hkey
  omega

/-- **The accounts of a record**: `sent key` messages have been sent on a key. -/
structure SendingChains (P : Primitives) (sent : Key → ℕ) (generated : ℕ)
    (states : List SessionState) : Prop where
  distinct : ((ownChains states).map (·.publicKey)).Nodup
  below : ∀ chain ∈ ownChains states, P.GeneratedBelow generated chain.publicKey
  /-- A chain has moved one step for each message. -/
  index : ∀ chain ∈ ownChains states, chain.chainKey.index = sent chain.publicKey
  unused : ∀ key, ¬P.GeneratedBelow generated key → sent key = 0

section Accounts

variable {P : Primitives} {sent : Key → ℕ} {generated generated' : ℕ}
  {states states' : List SessionState} {s s' : SessionState}

theorem ownChains_cons_of_none (h : s.ownChain = none) (states : List SessionState) :
    ownChains (s :: states) = ownChains states := by
  simp [ownChains, h]

theorem ownChains_cons_of_some {chain : SendingChain} (h : s.ownChain = some chain)
    (states : List SessionState) :
    ownChains (s :: states) = chain :: ownChains states := by
  simp [ownChains, h]

namespace SendingChains

section

variable (h : SendingChains P sent generated states)
include h

/-- Dropping states keeps the accounts. -/
theorem sublist (hsub : states'.Sublist states) : SendingChains P sent generated states' := by
  have hchains : (ownChains states').Sublist (ownChains states) := hsub.filterMap _
  exact ⟨h.distinct.sublist (hchains.map _), fun chain hchain => h.below chain
    (hchains.subset hchain), fun chain hchain => h.index chain (hchains.subset hchain), h.unused⟩

theorem perm (hperm : states.Perm states') : SendingChains P sent generated states' := by
  have hchains : (ownChains states).Perm (ownChains states') := hperm.filterMap _
  exact ⟨(hchains.map _).nodup_iff.mp h.distinct, fun chain hchain => h.below chain
    (hchains.mem_iff.mpr hchain), fun chain hchain => h.index chain (hchains.mem_iff.mpr hchain),
    h.unused⟩

theorem mono (hle : generated ≤ generated') : SendingChains P sent generated' states :=
  ⟨h.distinct, fun chain hchain => (h.below chain hchain).mono hle, h.index,
    fun key hkey => h.unused key fun hbelow => hkey (hbelow.mono hle)⟩

theorem cons_of_none (hs : s.ownChain = none) : SendingChains P sent generated (s :: states) := by
  have hchains := ownChains_cons_of_none hs states
  exact ⟨hchains ▸ h.distinct, hchains ▸ h.below, hchains ▸ h.index, h.unused⟩

theorem cons_of_fresh {i : ℕ} {key : Key} (fresh : P.FreshKeys generated') (hle : generated ≤ i)
    (hi : i < generated') (hs : s.ownChain = some ⟨P.generatedKeyPair i, .initial key⟩) :
    SendingChains P sent generated' (s :: states) := by
  have hnew := fresh.not_generatedBelow hle hi
  have hchains := ownChains_cons_of_some hs states
  have hmono := h.mono (hle.trans hi.le)
  refine ⟨?_, ?_, ?_, hmono.unused⟩
  · rw [hchains, List.map_cons, List.nodup_cons]
    refine ⟨fun hmem => ?_, h.distinct⟩
    obtain ⟨chain, hchain, hkey⟩ := List.mem_map.mp hmem
    have hbelow := h.below chain hchain
    rw [hkey] at hbelow
    exact hnew hbelow
  · rw [hchains]
    intro chain hchain
    rcases List.mem_cons.mp hchain with rfl | hchain
    · exact ⟨i, hi, rfl⟩
    · exact hmono.below chain hchain
  · rw [hchains]
    intro chain hchain
    rcases List.mem_cons.mp hchain with rfl | hchain
    · exact (h.unused _ hnew).symm
    · exact h.index chain hchain

end

/-- **A trial keeps the accounts**, whatever it ends in. -/
theorem trial (h : SendingChains P sent generated (s :: states))
    (fresh : P.FreshKeys generated')
    (hstep : SendingChainStep P s generated s' generated') :
    SendingChains P sent generated' (s' :: states) := by
  obtain ⟨hsending, hempty, rfl⟩ | ⟨key, hsending, hne, rfl⟩ := hstep
  · have hown : s'.ownChain = s.ownChain := by
      unfold SessionState.ownChain
      simp only [hsending, hempty]
    have hchains : ownChains (s' :: states) = ownChains (s :: states) := by
      simp only [ownChains, List.filterMap_cons, hown]
    exact ⟨hchains ▸ h.distinct, hchains ▸ h.below, hchains ▸ h.index, h.unused⟩
  · have hown : s'.ownChain = some ⟨P.generatedKeyPair generated, .initial key⟩ := by
      simp [SessionState.ownChain, hne, hsending]
    exact (h.sublist (List.sublist_cons_self s states)).cons_of_fresh fresh le_rfl
      (Nat.lt_succ_self _) hown

theorem rejected {whisperMessage : WhisperMessage} {tried rejected rest : List SessionState}
    (hrejected : SessionCipher.Rejected P whisperMessage tried generated rejected generated')
    (h : SendingChains P sent generated (tried ++ rest)) (fresh : P.FreshKeys generated') :
    SendingChains P sent generated' (rejected ++ rest) := by
  induction hrejected generalizing rest with
  | nil generated => exact h
  | @cons s s' tried rejected generated generated₁ generated₂ e hrun hrest ih =>
      have hstep := (trialOutcome_of_run hrun).sendingChainStep (by simp [Survives])
      have htrial := h.trial (fresh.mono (generated_le_of_rejected hrest)) hstep
      -- The state that was tried goes to the back, and the others are tried.
      have hrotated := ih (htrial.perm List.perm_middle.symm) fresh
      exact hrotated.perm List.perm_middle

/-- **Sending keeps the accounts**: the chain moves one step, and one message
more has been sent on its key. -/
theorem encrypt {sent' : Key → ℕ} {chain chain' : SendingChain}
    (h : SendingChains P sent generated (s :: states)) (hs : s.ownChain = some chain)
    (hs' : s'.ownChain = some chain') (hkey : chain'.publicKey = chain.publicKey)
    (hindex : chain'.chainKey.index = chain.chainKey.index + 1)
    (hself : sent' chain.publicKey = sent chain.publicKey + 1)
    (hother : ∀ key ≠ chain.publicKey, sent' key = sent key) :
    SendingChains P sent' generated (s' :: states) := by
  have hchains := ownChains_cons_of_some hs states
  have hchains' := ownChains_cons_of_some hs' states
  obtain ⟨hdistinct, hbelow, hindices, hunused⟩ := h
  rw [hchains] at hdistinct hbelow hindices
  have hchain := hbelow chain List.mem_cons_self
  refine ⟨?_, ?_, ?_, ?_⟩
  · rw [hchains', List.map_cons, hkey]
    exact hdistinct
  · rw [hchains']
    intro other hother
    rcases List.mem_cons.mp hother with rfl | hother
    · rw [hkey]
      exact hchain
    · exact hbelow other (List.mem_cons_of_mem _ hother)
  · rw [hchains']
    intro other hmem
    rcases List.mem_cons.mp hmem with rfl | hmem
    · rw [hkey, hself, hindex, hindices chain List.mem_cons_self]
    · -- Another chain is on another key.
      have hne : other.publicKey ≠ chain.publicKey := by
        intro hsame
        rw [List.map_cons, List.nodup_cons, ← hsame] at hdistinct
        exact hdistinct.1 (List.mem_map_of_mem hmem)
      rw [hother _ hne]
      exact hindices other (List.mem_cons_of_mem _ hmem)
  · intro key hkey
    have hne : key ≠ chain.publicKey := by
      rintro rfl
      exact hkey hchain
    rw [hother _ hne]
    exact hunused key hkey

end SendingChains

end Accounts

/-! ## A step -/

section Steps

variable {P : Primitives} {party : Party} {world : World} {events : List Event}

/-- A current state with a sending chain has received something. -/
def ReadyToSend : List SessionState → Prop
  | [] => True
  | s :: _ => s.sendingChain.isSome = true → s.receivingChains ≠ []

def sentOn (events : List Event) (key : Key) : ℕ :=
  (countersOf (prependKeyType key.val) events).length

theorem sent_encrypted (s : SessionState) (chain : SendingChain)
    (senderIdentityKey receiverIdentityKey paddedMessage : NSData) :
    (Event.encrypted paddedMessage (SessionCipher.wrapWhisperMessage P s senderIdentityKey
        (SessionCipher.buildWhisperMessage P s chain senderIdentityKey receiverIdentityKey
          paddedMessage))).sent =
      some (prependKeyType chain.publicKey.val, (chain.chainKey.index : ℤ)) := by
  have hcounter := SessionCipher.counter_buildWhisperMessage (P := P) s chain senderIdentityKey
    receiverIdentityKey paddedMessage
  refine congrArg some ?_
  unfold SessionCipher.wrapWhisperMessage CipherMessage.ratchetKeyAndCounter
  cases s.pendingPreKey with
  | none => exact Prod.ext rfl hcounter
  | some items => exact Prod.ext rfl hcounter

theorem SendingChains.triedStates {sent : Key → ℕ} (settled : party.Settled world)
    (h : SendingChains P sent world.generated (party.record world).states)
    (cipherMessage : CipherMessage) :
    SendingChains P sent world.generated (party.triedStates P world cipherMessage) := by
  rcases Party.triedStates_cases (P := P) settled cipherMessage with
    hnone | hstates | ⟨message, params, session, kept, -, -, -, -, hsession, hkept, hstates⟩
  · rw [hnone]
    exact h.sublist (List.nil_sublist _)
  · rw [hstates]
    exact h
  · rw [hstates]
    obtain ⟨_, _, rfl⟩ := RatchetingSession.throwsInitializeSessionBob_eq_ok hsession
    exact (h.sublist hkept).cons_of_none rfl

/-- **Every step keeps the accounts**: what is sent is sent on the next counter. -/
theorem SendingChains.statesStep {event : Event} {states' : List SessionState} {generated' : ℕ}
    (settled : party.Settled world)
    (h : SendingChains P (sentOn events) world.generated (party.record world).states)
    (ready : ReadyToSend (party.record world).states)
    (counters : ∀ key, countersOf key events = countersBelow (countersOf key events).length)
    (fresh : P.FreshKeys generated') (hstep : StatesStep P party world event states' generated') :
    SendingChains P (sentOn (events ++ [event])) generated' states' ∧ ReadyToSend states' ∧
      ∀ key, countersOf key (events ++ [event]) =
        countersBelow (countersOf key (events ++ [event])).length := by
  -- Where nothing is sent, only the states change.
  have hsilent : event.sent = none → sentOn (events ++ [event]) = sentOn events ∧
      ∀ key, countersOf key (events ++ [event]) =
        countersBelow (countersOf key (events ++ [event])).length := by
    intro hnone
    have hsame := countersOf_append_of_none events hnone
    exact ⟨funext fun key => by rw [sentOn, hsame, sentOn], fun key => by
      rw [hsame]
      exact counters key⟩
  cases hstep with
  | kept hquiet hgenerated =>
      obtain ⟨hsent, hcounters⟩ := hsilent hquiet.sent_eq_none
      rw [hsent]
      exact ⟨h.mono hgenerated, ready, hcounters⟩
  | archived hquiet hgenerated hkept =>
      obtain ⟨hsent, hcounters⟩ := hsilent hquiet.sent_eq_none
      rw [hsent]
      refine ⟨((h.mono hgenerated).sublist hkept).cons_of_none rfl, ?_, hcounters⟩
      intro hchain
      simp [SessionState.new] at hchain
  | @processedPrekeyBundle preKeyBundle params session kept hparams hsession hkept =>
      obtain ⟨hsent, hcounters⟩ := hsilent rfl
      obtain ⟨receivingKey, sendingKey, rootKey, rfl⟩ :=
        RatchetingSession.throwsInitializeSessionAlice_eq_ok hsession
      rw [hsent]
      exact ⟨(h.sublist hkept).cons_of_fresh fresh (Nat.le_succ _)
        (Nat.lt_succ_self _) rfl, fun _ => List.cons_ne_nil _ _, hcounters⟩
  | @encrypted paddedMessage senderIdentityKey receiverIdentityKey s archived chain nextChainKey
      hstates hsending hnext =>
      rw [hstates] at h ready
      have hne : s.receivingChains ≠ [] := ready (by simp [hsending])
      have hown : s.ownChain = some chain := by simp [SessionState.ownChain, hne, hsending]
      have hown' : (s.setSenderChainKey nextChainKey).ownChain =
          some { chain with chainKey := nextChainKey } := by
        simp [SessionState.ownChain, SessionState.setSenderChainKey, hne, hsending]
      -- One counter more on the key of the chain.
      have hindex := h.index chain (by simp [ownChains, hown])
      have hsent := sent_encrypted (P := P) s chain senderIdentityKey receiverIdentityKey
        paddedMessage
      have hself := countersOf_append_self events hsent
      have hother := fun (key : NSData) (hkey : key ≠ prependKeyType chain.publicKey.val) =>
        countersOf_append_of_ne events hsent hkey
      refine ⟨h.encrypt hown hown' rfl ((ChainKey.nextChainKey_eq_ok P).mp hnext).2 ?_ ?_,
        fun _ => hne, ?_⟩
      · simp [sentOn, hself]
      · intro key hkey
        have hbytes : prependKeyType key.val ≠ prependKeyType chain.publicKey.val := by
          simpa [prependKeyType_of_key, Subtype.ext_iff] using hkey
        simp [sentOn, hother _ hbytes]
      · intro key
        by_cases hkey : key = prependKeyType chain.publicKey.val
        · subst hkey
          rw [hself, List.length_append, counters, length_countersBelow, hindex]
          exact (countersBelow_succ _).symm
        · rw [hother key hkey]
          exact counters key
  | @decrypted cipherMessage plaintext tried rejected untried s s' generated₁ generated₂ hstates
      hrejected hrun =>
      obtain ⟨hsent, hcounters⟩ := hsilent rfl
      rw [hsent]
      have houtcome := trialOutcome_of_run hrun
      have hstep := houtcome.sendingChainStep (by simp [Survives])
      have htried := h.triedStates settled cipherMessage
      rw [hstates] at htried
      have hrest := (SendingChains.rejected hrejected htried
        (fresh.mono (generated_le_of_run hrun (by simp [Survives])))).perm List.perm_middle
      exact ⟨hrest.trial fresh hstep, fun _ => houtcome.receivingChains_ne_nil, hcounters⟩

end Steps

/-! ## A run -/

section Runs

variable {P : Primitives} {party : Party} {world world' : World} {events : List Event}

/-- What holds after a run. -/
structure Accounted (P : Primitives) (party : Party) (events : List Event) (world : World) :
    Prop where
  chains : SendingChains P (sentOn events) world.generated (party.record world).states
  ready : ReadyToSend (party.record world).states
  counters : ∀ key, countersOf key events = countersBelow (countersOf key events).length

/-- Without a session nothing has been sent. -/
theorem Party.Initial.accounted (initial : party.Initial world) :
    Accounted P party [] world where
  chains := by
    rw [initial.record_eq]
    exact ⟨List.nodup_nil, by simp [ownChains, SessionState.ownChain, SessionState.new],
      by simp [ownChains, SessionState.ownChain, SessionState.new], fun _ _ => rfl⟩
  ready := by
    rw [initial.record_eq]
    intro hchain
    simp [SessionRecord.new, SessionState.new] at hchain
  counters _ := rfl

/-- **The accounts are right after every run.** -/
theorem accounted_run (initial : party.Initial world)
    (run : LabelledRun (party.Step P) world events world')
    (fresh : P.FreshKeys world'.generated) : Accounted P party events world' := by
  refine (run.invariant (I := fun events world => party.Settled world ∧
    (P.FreshKeys world.generated → Accounted P party events world))
    ⟨initial.settled, fun _ => initial.accounted⟩ ?_).2 fresh
  rintro events world event world' ⟨settled, haccounted⟩ hstep
  obtain ⟨hstates, hsettled⟩ := Party.Step.statesStep settled hstep
  refine ⟨hsettled, fun fresh => ?_⟩
  have accounted := haccounted (fresh.mono hstates.generated_le)
  obtain ⟨hchains, hready, hcounters⟩ := accounted.chains.statesStep settled accounted.ready
    accounted.counters fresh hstates
  exact ⟨hchains, hready, hcounters⟩

/-- **Message keys are never reused for sending**: over any run no ratchet key
and counter are sent twice, and the counters on each ratchet key are
`0, 1, 2, …`. -/
theorem sentMessages_run (initial : party.Initial world)
    (run : LabelledRun (party.Step P) world events world')
    (fresh : P.FreshKeys world'.generated) :
    (sentMessages events).Nodup ∧
      ∀ senderRatchetKey, countersOf senderRatchetKey events =
        countersBelow (countersOf senderRatchetKey events).length := by
  have counters := (accounted_run initial run fresh).counters
  exact ⟨nodup_of_filter_eq_countersBelow fun key => ⟨_, counters key⟩, counters⟩

end Runs

/-! ## Two messages -/

def sampleContactParty : Party where
  preKeyStore := .primaryStorage
  recipientId := "+2"
  deviceId := 1

/-- The contact processes a bundle and sends twice. -/
def sampleSending : Procedure Failure World (CipherMessage × CipherMessage) := do
  sampleContactParty.builder.throwsProcessPrekeyBundle additivePrimitives (sampleBundle 5 none)
  let first ← sampleContactParty.cipher.throwsEncryptMessage additivePrimitives [1]
  let second ← sampleContactParty.cipher.throwsEncryptMessage additivePrimitives [2]
  return (first, second)

theorem sentMessages_sample :
    ∃ events world', LabelledRun (sampleContactParty.Step additivePrimitives) sampleContactWorld
      events world' ∧ (sentMessages events).length = 2 ∧ (sentMessages events).Nodup ∧
      ∀ senderRatchetKey, countersOf senderRatchetKey events =
        countersBelow (countersOf senderRatchetKey events).length := by
  rcases hrun : sampleSending.run sampleContactWorld with ⟨failure | ⟨first, second⟩, world'⟩
  · have hok : (sampleSending.run sampleContactWorld).1.isOk = true := by decide +kernel
    simp [hrun, Except.isOk, Except.toBool] at hok
  · have hgenerated : (sampleSending.run sampleContactWorld).2.generated ≤ 256 := by
      decide +kernel
    rw [hrun] at hgenerated
    obtain ⟨⟨⟩, world₁, hbundle, hrun⟩ := run_bind_eq_ok.mp hrun
    obtain ⟨_, world₂, hfirst, hrun⟩ := run_bind_eq_ok.mp hrun
    obtain ⟨_, world₃, hsecond, hrun⟩ := run_bind_eq_ok.mp hrun
    obtain rfl := (Prod.mk.inj hrun).2
    have hprocessed : LabelledRun (sampleContactParty.Step additivePrimitives) sampleContactWorld
        _ world₁ := .single (.processPrekeyBundle rfl hbundle)
    have run := (hprocessed.tail (.encryptMessage hfirst)).tail (.encryptMessage hsecond)
    have initial : sampleContactParty.Initial sampleContactWorld := rfl
    exact ⟨_, _, run, rfl, sentMessages_run initial run (additivePrimitives_freshKeys hgenerated)⟩

end ObjcSwiftLearning.AxolotlKit
