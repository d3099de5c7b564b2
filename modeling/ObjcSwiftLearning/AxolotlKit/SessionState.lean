import Mathlib.Data.Int.Notation
import ObjcSwiftLearning.AxolotlKit.Ratchet
import ObjcSwiftLearning.Library.UpdateFirst

/-!
# Session states and session records

`SessionState` with the operations of its class, each a function from the old
state to the new, and `SessionRecord`: the current state in front of the
archived ones.

The receiver chains form a list searched by ratchet key from the front; every
operation on a chain is `List.updateFirst` at the chain found, and keeps the
ratchet keys.  What the operations do to each field is the simp set of this
module, so that a proof about a session does not unfold them.
-/

namespace ObjcSwiftLearning.AxolotlKit

structure PendingPreKey where
  preKeyId : Int32
  signedPreKeyId : Int32
  baseKey : NSData
  deriving DecidableEq

/-- `SessionState`; `[SessionState new]` has every field zero or nil. -/
@[ext]
structure SessionState where
  version : Int32 := 0
  aliceBaseKey : Option NSData := none
  remoteIdentityKey : Option NSData := none
  localIdentityKey : Option NSData := none
  previousCounter : Int32 := 0
  rootKey : Option RootKey := none
  remoteRegistrationId : Int32 := 0
  localRegistrationId : Int32 := 0
  sendingChain : Option SendingChain := none
  receivingChains : List ReceivingChain := []
  pendingPreKey : Option PendingPreKey := none
  deriving DecidableEq

namespace SessionState

variable (s : SessionState)

def new : SessionState := {}

/-! ## The sender chain -/

def senderRatchetKeyPair : Option ECKeyPair := s.sendingChain.map (·.senderRatchetKeyPair)

def hasSenderChain : Bool := s.sendingChain.isSome

def senderChainKey : Option ChainKey := s.sendingChain.map (·.chainKey)

def setSenderChain (senderRatchetKeyPair : ECKeyPair) (chainKey : ChainKey) : SessionState :=
  { s with sendingChain := some { senderRatchetKeyPair, chainKey } }

/-- `setSenderChainKey:`; a message to a nil chain does nothing. -/
def setSenderChainKey (nextChainKey : ChainKey) : SessionState :=
  { s with sendingChain := s.sendingChain.map fun chain => { chain with chainKey := nextChainKey } }

/-! ## Receiver chains -/

def isChainOf (senderEphemeral : NSData) (chain : ReceivingChain) : Bool :=
  chain.senderRatchetKey == senderEphemeral

/-- `receiverChain:`, without the index it is found at. -/
def receiverChain (senderEphemeral : NSData) : Option ReceivingChain :=
  s.receivingChains.find? (isChainOf senderEphemeral)

def hasReceiverChain (senderEphemeral : NSData) : Bool :=
  (s.receiverChain senderEphemeral).isSome

def receiverChainKey (senderEphemeral : NSData) : Option ChainKey :=
  (s.receiverChain senderEphemeral).map (·.chainKey)

/-- Replace the chain found for an ephemeral key by its image. -/
def updateReceiverChain (senderEphemeral : NSData) (f : ReceivingChain → ReceivingChain) :
    SessionState :=
  { s with receivingChains := s.receivingChains.updateFirst (isChainOf senderEphemeral) f }

def setReceiverChainKey (senderEphemeral : NSData) (nextChainKey : ChainKey) : SessionState :=
  s.updateReceiverChain senderEphemeral fun chain => { chain with chainKey := nextChainKey }

/-- How many receiver chains a state keeps. -/
def receivingChainsMaxLength : ℕ := 5

/-- `addReceiverChain:chainKey:`.  The oldest chain is dropped from a list that
has become too long. -/
def addReceiverChain (senderRatchetKey : NSData) (chainKey : ChainKey) : SessionState :=
  let receivingChains := s.receivingChains ++ [.initWithChainKey chainKey senderRatchetKey]
  { s with
    receivingChains :=
      if receivingChainsMaxLength < receivingChains.length then receivingChains.drop 1
      else receivingChains }

/-! ## Skipped message keys -/

/-- `keys.index == counter`. -/
def isMessageKeysOf (counter : Int32) (keys : MessageKeys) : Bool :=
  (keys.index : ℤ) == counter.toInt

def hasMessageKeys (senderRatchetKey : NSData) (counter : Int32) : Bool :=
  match s.receiverChain senderRatchetKey with
  | none => false
  | some chain => chain.messageKeysList.any (isMessageKeysOf counter)

/-- `removeMessageKeys:counter:`: what it returns, and the state after it. -/
def removeMessageKeys (senderRatchetKey : NSData) (counter : Int32) :
    Option MessageKeys × SessionState :=
  match s.receiverChain senderRatchetKey with
  | none => (none, s)
  | some chain =>
      (chain.messageKeysList.find? (isMessageKeysOf counter),
        s.updateReceiverChain senderRatchetKey fun chain =>
          { chain with messageKeysList := chain.messageKeysList.eraseP (isMessageKeysOf counter) })

def setMessageKeys (senderRatchetKey : NSData) (messageKeys : MessageKeys) : SessionState :=
  s.updateReceiverChain senderRatchetKey fun chain =>
    { chain with messageKeysList := chain.messageKeysList ++ [messageKeys] }

/-! ## The unacknowledged prekey message -/

def setUnacknowledgedPreKeyMessage (preKeyId signedPreKeyId : Int32) (baseKey : NSData) :
    SessionState :=
  { s with pendingPreKey := some { preKeyId, signedPreKeyId, baseKey } }

def clearUnacknowledgedPreKeyMessage : SessionState := { s with pendingPreKey := none }

/-! ## What the chain operations do -/

section ChainLemmas

variable {s} {senderEphemeral other : NSData} {f g : ReceivingChain → ReceivingChain}
  {chain : ReceivingChain}

@[simp] theorem isChainOf_eq_true :
    isChainOf senderEphemeral chain = true ↔ chain.senderRatchetKey = senderEphemeral := by
  simp [isChainOf]

/-- A chain operation never renames the chain it is applied to. -/
def KeepsRatchetKey (senderEphemeral : NSData) (f : ReceivingChain → ReceivingChain) : Prop :=
  ∀ chain, chain.senderRatchetKey = senderEphemeral →
    (f chain).senderRatchetKey = senderEphemeral

theorem KeepsRatchetKey.isChainOf (hf : KeepsRatchetKey senderEphemeral f)
    (chain : ReceivingChain) (hchain : isChainOf senderEphemeral chain = true) :
    SessionState.isChainOf senderEphemeral (f chain) = true := by
  rw [isChainOf_eq_true] at hchain ⊢
  exact hf chain hchain

theorem receiverChain_updateReceiverChain (hf : KeepsRatchetKey senderEphemeral f) :
    (s.updateReceiverChain senderEphemeral f).receiverChain senderEphemeral =
      (s.receiverChain senderEphemeral).map f :=
  List.find?_updateFirst hf.isChainOf _

theorem receiverChain_updateReceiverChain_of_ne (hne : other ≠ senderEphemeral)
    (hf : KeepsRatchetKey senderEphemeral f) :
    (s.updateReceiverChain senderEphemeral f).receiverChain other = s.receiverChain other := by
  refine List.find?_updateFirst_of_disjoint (fun chain hchain => ?_) (fun chain hchain => ?_) _
  · rw [isChainOf_eq_true] at hchain
    simp [isChainOf, hchain, hne.symm]
  · rw [isChainOf_eq_true] at hchain
    simp [isChainOf, hf chain hchain, hne.symm]

theorem updateReceiverChain_updateReceiverChain (hf : KeepsRatchetKey senderEphemeral f) :
    (s.updateReceiverChain senderEphemeral f).updateReceiverChain senderEphemeral g =
      s.updateReceiverChain senderEphemeral fun chain => g (f chain) := by
  simp [updateReceiverChain, List.updateFirst_updateFirst hf.isChainOf]

/-- Only what is done to the chain found matters. -/
theorem updateReceiverChain_congr (hchain : s.receiverChain senderEphemeral = some chain)
    (h : f chain = g chain) :
    s.updateReceiverChain senderEphemeral f = s.updateReceiverChain senderEphemeral g := by
  have hcongr : s.receivingChains.updateFirst (isChainOf senderEphemeral) f =
      s.receivingChains.updateFirst (isChainOf senderEphemeral) g := by
    apply List.updateFirst_congr
    intro other hother
    rw [receiverChain] at hchain
    rw [hchain, Option.mem_some_iff] at hother
    rw [← hother, h]
  simp only [updateReceiverChain, hcongr]

theorem senderRatchetKey_of_receiverChain (h : s.receiverChain senderEphemeral = some chain) :
    chain.senderRatchetKey = senderEphemeral :=
  isChainOf_eq_true.mp (List.find?_some h)

/-- Put a chain in the place of the one found. -/
def replaceReceiverChain (s : SessionState) (senderEphemeral : NSData) (chain : ReceivingChain) :
    SessionState :=
  s.updateReceiverChain senderEphemeral fun _ => chain

def receiverRatchetKeys (s : SessionState) : List NSData :=
  s.receivingChains.map (·.senderRatchetKey)

theorem receiverRatchetKeys_updateReceiverChain (hf : KeepsRatchetKey senderEphemeral f) :
    (s.updateReceiverChain senderEphemeral f).receiverRatchetKeys = s.receiverRatchetKeys := by
  refine List.map_updateFirst (fun chain hchain => ?_) _
  rw [isChainOf_eq_true] at hchain
  rw [hf chain hchain, hchain]

theorem hasReceiverChain_iff :
    s.hasReceiverChain senderEphemeral = true ↔ senderEphemeral ∈ s.receiverRatchetKeys := by
  simp [hasReceiverChain, receiverChain, receiverRatchetKeys, List.find?_isSome]

end ChainLemmas

end SessionState

/-! ## Session records -/

@[ext]
structure SessionRecord where
  fresh : Bool
  sessionState : SessionState
  previousStates : List SessionState
  deriving DecidableEq

namespace SessionRecord

variable (record : SessionRecord)

def new : SessionRecord where
  fresh := true
  sessionState := .new
  previousStates := []

def archivedStatesMaxLength : ℕ := 40

/-- `hasSessionState:baseKey:`.  The loop over the archived states compares the
base key of the *current* state. -/
def hasSessionState (version : Int32) (aliceBaseKey : NSData) : Bool :=
  (record.sessionState.version == version &&
    isEqualToData (some aliceBaseKey) record.sessionState.aliceBaseKey) ||
  record.previousStates.any fun state =>
    state.version == version &&
      isEqualToData (some aliceBaseKey) record.sessionState.aliceBaseKey

def removePreviousSessionStates : SessionRecord := { record with previousStates := [] }

def markAsUnFresh : SessionRecord := { record with fresh := false }

def promoteState (promotedState : SessionState) : SessionRecord :=
  { record with
    previousStates :=
      (record.sessionState :: record.previousStates).take archivedStatesMaxLength
    sessionState := promotedState }

def archiveCurrentState : SessionRecord := record.promoteState .new

def archiveUnlessFresh : SessionRecord :=
  if record.fresh then record else record.archiveCurrentState

/-- The states in the order they are tried. -/
def states : List SessionState := record.sessionState :: record.previousStates

@[simp] theorem states_new : new.states = [.new] := rfl

@[simp] theorem states_markAsUnFresh : record.markAsUnFresh.states = record.states := rfl

end SessionRecord

end ObjcSwiftLearning.AxolotlKit
