import Mathlib.Logic.Function.Basic
import Mathlib.Tactic.Common

/-!
# Key ratchets

Two parties send in epochs, by turns.  An epoch has a key pair of its sender's, and the root key
and chain key that the root key of the epoch before it and an agreement of the two key pairs give.
Whoever receives something of the last epoch opens the next, so that one party is in the last epoch
and the other in the one before it.

* `KeyRatchet` — what is derived, and that both ends of an agreement derive it.
* `KeyRatchet.Conversation` — the epochs so far, on different public keys.
* `Conversation.derive_last` — **the party behind derives the last epoch from its own**.
* `Conversation.opened_or_last` — what is sent is of an epoch its receiver has opened, or of the
  last.
* `Conversation.ratchet`, `Conversation.Grows` — the next epoch, and what it leaves as it was.
-/

/-- How the keys of an epoch come about. -/
structure KeyRatchet (K D R C : Type) where
  publicKey : K → D
  /-- The key pairs that are key pairs. -/
  Valid : K → Prop
  /-- From a root key, an own key pair and the other's public key. -/
  derive : R → K → D → R × C
  derive_comm : ∀ root ours theirs, Valid ours → Valid theirs →
    derive root ours (publicKey theirs) = derive root theirs (publicKey ours)

namespace KeyRatchet

variable {K D R C : Type}

/-! ## The parties and their turns -/

/-- The two parties. -/
inductive Side where
  | initiator
  | responder
  deriving DecidableEq

namespace Side

/-- The other party. -/
def peer : Side → Side
  | initiator => responder
  | responder => initiator

@[simp] theorem peer_peer (side : Side) : side.peer.peer = side := by
  cases side <;> rfl

theorem peer_ne (side : Side) : side.peer ≠ side := by
  cases side <;> exact nofun

theorem eq_peer_of_ne {side other : Side} (h : side ≠ other) : side = other.peer := by
  cases side <;> cases other <;> first | rfl | exact absurd rfl h

/-- Who sends in an epoch. -/
def sender : ℕ → Side
  | 0 => responder
  | i + 1 => (sender i).peer

@[simp] theorem sender_succ (i : ℕ) : sender (i + 1) = (sender i).peer := rfl

end Side

/-! ## Conversations -/

/-- What a party sends with until it opens its next epoch. -/
structure Epoch (K R C : Type) where
  keyPair : K
  rootKey : R
  chainKey : C

variable (S : KeyRatchet K D R C)

/-- The epoch that the receiver of a message of `epoch` opens with a new key pair. -/
def next (epoch : Epoch K R C) (keyPair : K) : Epoch K R C :=
  let derived := S.derive epoch.rootKey keyPair (S.publicKey epoch.keyPair)
  { keyPair := keyPair
    rootKey := derived.1
    chainKey := derived.2 }

/-- The epochs `0, …, rounds + 1` of two parties. -/
structure Conversation where
  epochs : ℕ → Epoch K R C
  rounds : ℕ
  linked : ∀ i ≤ rounds, epochs (i + 1) = S.next (epochs i) (epochs (i + 1)).keyPair
  valid : ∀ i ≤ rounds + 1, S.Valid (epochs i).keyPair
  distinct : ∀ i ≤ rounds + 1, ∀ j ≤ rounds + 1,
    S.publicKey (epochs i).keyPair = S.publicKey (epochs j).keyPair → i = j

namespace Conversation

variable {S} (c : S.Conversation)

def key (i : ℕ) : D := S.publicKey (c.epochs i).keyPair

/-- The epoch a party sends in. -/
def turn (side : Side) : ℕ := if Side.sender (c.rounds + 1) = side then c.rounds + 1 else c.rounds

/-- What a party sends with. -/
def own (side : Side) : Epoch K R C := c.epochs (c.turn side)

/-- A party has derived an epoch of its peer's: it has opened a later one itself. -/
def Opened (side : Side) (i : ℕ) : Prop := i < c.turn side ∧ Side.sender i = side.peer

variable {c} {side : Side} {i j : ℕ}

theorem turn_leader (h : Side.sender (c.rounds + 1) = side) : c.turn side = c.rounds + 1 :=
  if_pos h

theorem turn_follower (h : Side.sender (c.rounds + 1) = side.peer) : c.turn side = c.rounds := by
  refine if_neg ?_
  rw [h]
  exact side.peer_ne

theorem turn_le (side : Side) : c.turn side ≤ c.rounds + 1 := by
  unfold turn
  split <;> omega

theorem sender_turn (side : Side) : Side.sender (c.turn side) = side := by
  by_cases h : Side.sender (c.rounds + 1) = side
  · rw [turn_leader h, h]
  · have hpeer := Side.eq_peer_of_ne h
    rw [turn_follower hpeer]
    rw [Side.sender_succ] at hpeer
    calc Side.sender c.rounds = (Side.sender c.rounds).peer.peer := (Side.peer_peer _).symm
      _ = side := by rw [hpeer, Side.peer_peer]

theorem Opened.le (h : c.Opened side i) : i ≤ c.rounds := by
  have hlt := h.1
  have := c.turn_le side
  omega

/-- The epoch of a follower is none of its peer's. -/
theorem ne_rounds_of_sender (hfollower : Side.sender (c.rounds + 1) = side.peer)
    (hsender : Side.sender i = side.peer) : i ≠ c.rounds := by
  rintro rfl
  have hturn := c.sender_turn side
  rw [turn_follower hfollower, hsender] at hturn
  exact side.peer_ne hturn

/-- **What is sent is of an epoch its receiver has opened, or of the last**, and then it is the
receiver's turn to open one. -/
theorem opened_or_last (hsender : Side.sender i = side.peer) (hle : i ≤ c.turn side.peer) :
    c.Opened side i ∨ i = c.rounds + 1 ∧ Side.sender (c.rounds + 1) = side.peer := by
  by_cases hleader : Side.sender (c.rounds + 1) = side
  · refine .inl ⟨?_, hsender⟩
    rw [turn_follower (hleader.trans side.peer_peer.symm)] at hle
    rw [turn_leader hleader]
    omega
  · have hfollower := Side.eq_peer_of_ne hleader
    rw [turn_leader hfollower] at hle
    by_cases hlast : i = c.rounds + 1
    · exact .inr ⟨hlast, hfollower⟩
    · have hne := ne_rounds_of_sender hfollower hsender
      refine .inl ⟨?_, hsender⟩
      rw [turn_follower hfollower]
      omega

/-- **The party behind derives the last epoch from its own.** -/
theorem derive_last (hfollower : Side.sender (c.rounds + 1) = side.peer) :
    S.derive (c.own side).rootKey (c.own side).keyPair (c.key (c.rounds + 1)) =
      ((c.epochs (c.rounds + 1)).rootKey, (c.epochs (c.rounds + 1)).chainKey) := by
  have hlinked := c.linked c.rounds (Nat.le_refl _)
  rw [own, turn_follower hfollower, key, S.derive_comm _ _ _
    (c.valid c.rounds (Nat.le_succ _)) (c.valid (c.rounds + 1) (Nat.le_refl _))]
  generalize (c.epochs (c.rounds + 1)).keyPair = keyPair at hlinked ⊢
  rw [hlinked]
  rfl

/-! ## The next epoch -/

/-- What a party's receiving does to the conversation: it leaves it, or opens an epoch of that
party's; nothing of it is the peer's. -/
structure Grows (side : Side) (c c' : S.Conversation) : Prop where
  rounds : c.rounds ≤ c'.rounds
  epochs : ∀ i ≤ c.rounds + 1, c'.epochs i = c.epochs i
  peer : c'.turn side.peer = c.turn side.peer
  turn : c'.turn side = c.turn side ∨ c.rounds + 1 < c'.turn side

theorem Grows.refl (side : Side) (c : S.Conversation) : c.Grows side c :=
  ⟨Nat.le_refl _, fun _ _ => rfl, rfl, .inl rfl⟩

section Grows

variable {c' : S.Conversation} (h : c.Grows side c')
include h

theorem Grows.key (hi : i ≤ c.rounds + 1) : c'.key i = c.key i := by
  rw [Conversation.key, h.epochs i hi, Conversation.key]

theorem Grows.own_peer : c'.own side.peer = c.own side.peer := by
  rw [own, h.peer, h.epochs _ (c.turn_le _), own]

end Grows

section Ratchet

variable (c) {keyPair : K} (hvalid : S.Valid keyPair)
  (hfresh : ∀ i ≤ c.rounds + 1, c.key i ≠ S.publicKey keyPair)

/-- The epochs with one more, on a fresh key pair. -/
def ratchet : S.Conversation where
  epochs := Function.update c.epochs (c.rounds + 2)
    (S.next (c.epochs (c.rounds + 1)) keyPair)
  rounds := c.rounds + 1
  linked i hi := by
    rw [Function.update_of_ne (by omega : i ≠ c.rounds + 2)]
    by_cases hlast : i = c.rounds + 1
    · subst hlast
      rw [Function.update_self]
      rfl
    · rw [Function.update_of_ne (by omega : i + 1 ≠ c.rounds + 2)]
      exact c.linked i (by omega)
  valid i hi := by
    by_cases hlast : i = c.rounds + 2
    · subst hlast
      rw [Function.update_self]
      exact hvalid
    · rw [Function.update_of_ne hlast]
      exact c.valid i (by omega)
  distinct i hi j hj := by
    intro hkeys
    by_cases hilast : i = c.rounds + 2 <;> by_cases hjlast : j = c.rounds + 2
    · omega
    · subst hilast
      rw [Function.update_self, Function.update_of_ne hjlast] at hkeys
      exact absurd hkeys.symm (hfresh j (by omega))
    · subst hjlast
      rw [Function.update_self, Function.update_of_ne hilast] at hkeys
      exact absurd hkeys (hfresh i (by omega))
    · rw [Function.update_of_ne hilast, Function.update_of_ne hjlast] at hkeys
      exact c.distinct i (by omega) j (by omega) hkeys

variable {c hvalid hfresh} (hfollower : Side.sender (c.rounds + 1) = side.peer)
include hfollower

theorem turn_ratchet : (c.ratchet hvalid hfresh).turn side = c.rounds + 2 := by
  refine turn_leader ?_
  change Side.sender (c.rounds + 1 + 1) = side
  rw [Side.sender_succ, hfollower, Side.peer_peer]

/-- What the party that ratchets sends with. -/
theorem own_ratchet :
    (c.ratchet hvalid hfresh).own side = S.next (c.epochs (c.rounds + 1)) keyPair := by
  rw [own, turn_ratchet hfollower]
  exact Function.update_self _ _ _

/-- The party behind ratchets. -/
theorem grows_ratchet : c.Grows side (c.ratchet hvalid hfresh) where
  rounds := Nat.le_succ _
  epochs _ hi := Function.update_of_ne (by omega) _ _
  peer := by
    rw [turn_leader hfollower]
    refine turn_follower ?_
    change Side.sender (c.rounds + 1 + 1) = side.peer.peer
    rw [Side.sender_succ, hfollower]
  turn := .inr (by
    rw [turn_ratchet hfollower]
    omega)

/-- The epochs it has opened then: those before, and the last. -/
theorem opened_ratchet :
    (c.ratchet hvalid hfresh).Opened side i ↔ c.Opened side i ∨ i = c.rounds + 1 := by
  rw [Opened, Opened, turn_ratchet hfollower, turn_follower hfollower]
  constructor
  · rintro ⟨hlt, hsender⟩
    by_cases hlast : i = c.rounds + 1
    · exact .inr hlast
    · have hne := ne_rounds_of_sender hfollower hsender
      exact .inl ⟨by omega, hsender⟩
  · rintro (⟨hlt, hsender⟩ | rfl)
    · exact ⟨by omega, hsender⟩
    · exact ⟨by omega, hfollower⟩

end Ratchet

end Conversation

end KeyRatchet
