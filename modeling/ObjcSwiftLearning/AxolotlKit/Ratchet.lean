import Mathlib.Algebra.Group.Nat.Defs
import Mathlib.Logic.Function.Iterate
import ObjcSwiftLearning.AxolotlKit.Primitives

/-!
# Chain keys, root keys and chains

The symmetric-key half of the ratchet (`ChainKey`: one HMAC step per message)
and the Diffie–Hellman half (`RootKey.throwsCreateChain`), with the two kinds of
chain a session holds.

A chain key's index is a C `int` that only ever grows by one, and
`ows_add_overflow` terminates the process at `INT_MAX`; so the index is a natural
number below `2 ^ 31` by construction.

`ChainKey.advance` is where the chain *is* after any number of steps:
`nextChainKey` returns exactly it, until the index would overflow.
-/

namespace ObjcSwiftLearning.AxolotlKit

/-- `MessageKeys`. -/
structure MessageKeys where
  cipherKey : Key
  macKey : Key
  iv : Bytes 16
  index : ℕ
  deriving DecidableEq

/-- `ChainKey`, whose index is an `int`. -/
@[ext]
structure ChainKey where
  key : Key
  index : ℕ
  index_lt : index < 2 ^ 31
  deriving DecidableEq

namespace ChainKey

variable (P : Primitives)

/-- `initWithData:index:` at index `0`. -/
def initial (key : Key) : ChainKey where
  key := key
  index := 0
  index_lt := by decide

/-- `kMessageKeySeed`. -/
def messageKeySeed : NSData := [0x01]

/-- `kChainKeySeed`. -/
def chainKeySeed : NSData := [0x02]

/-- `baseMaterial:`. -/
def baseMaterial (chainKey : ChainKey) (seed : NSData) : Key := P.hmac chainKey.key.val seed

/-- `throws_messageKeys`. -/
def throwsMessageKeys (chainKey : ChainKey) : MessageKeys :=
  let derivedSecrets :=
    TSDerivedSecrets.derivedMessageKeys P (chainKey.baseMaterial P messageKeySeed)
  { cipherKey := derivedSecrets.cipherKey
    macKey := derivedSecrets.macKey
    iv := derivedSecrets.iv
    index := chainKey.index }

/-- `nextChainKey`. -/
def nextChainKey (chainKey : ChainKey) : Except Failure ChainKey :=
  if h : chainKey.index + 1 < 2 ^ 31 then
    .ok { key := chainKey.baseMaterial P chainKeySeed, index := chainKey.index + 1, index_lt := h }
  else
    .error (.terminated "!_didOverflow")

theorem nextChainKey_eq_ok {chainKey next : ChainKey} :
    chainKey.nextChainKey P = .ok next ↔
      next.key = chainKey.baseMaterial P chainKeySeed ∧ next.index = chainKey.index + 1 := by
  unfold nextChainKey
  split
  · constructor
    · intro h
      obtain rfl := Except.ok.inj h
      exact ⟨rfl, rfl⟩
    · rintro ⟨hkey, hindex⟩
      exact congrArg _ (ChainKey.ext hkey.symm hindex.symm)
  · rename_i hover
    constructor
    · intro h
      cases h
    · rintro ⟨-, hindex⟩
      have := next.index_lt
      omega

/-! ### Many steps -/

/-- One step of the chain, on the key material alone. -/
def ratchetKey (key : Key) : Key := P.hmac key.val chainKeySeed

/-- The chain `steps` further on, while its index fits. -/
def advance (chainKey : ChainKey) (steps : ℕ) (h : chainKey.index + steps < 2 ^ 31) :
    ChainKey where
  key := (ratchetKey P)^[steps] chainKey.key
  index := chainKey.index + steps
  index_lt := h

@[simp] theorem advance_index (chainKey : ChainKey) (steps : ℕ)
    (h : chainKey.index + steps < 2 ^ 31) :
    (chainKey.advance P steps h).index = chainKey.index + steps := rfl

theorem advance_zero (chainKey : ChainKey) :
    chainKey.advance P 0 chainKey.index_lt = chainKey := rfl

/-- `nextChainKey` is one step. -/
theorem nextChainKey_eq_advance (chainKey : ChainKey) (h : chainKey.index + 1 < 2 ^ 31) :
    chainKey.nextChainKey P = .ok (chainKey.advance P 1 h) := by
  rw [nextChainKey_eq_ok]
  exact ⟨rfl, rfl⟩

/-- Steps add up. -/
theorem advance_advance (chainKey : ChainKey) {m n k : ℕ} (hk : m + n = k)
    (hm : chainKey.index + m < 2 ^ 31)
    (hn : (chainKey.advance P m hm).index + n < 2 ^ 31) :
    (chainKey.advance P m hm).advance P n hn =
      chainKey.advance P k (by rw [advance_index] at hn; omega) := by
  subst hk
  ext
  · simp [advance, Nat.add_comm m n, Function.iterate_add_apply]
  · simp [advance, Nat.add_assoc]

/-- The message keys `steps` further on. -/
def messageKeysAt (chainKey : ChainKey) (steps : ℕ) : MessageKeys :=
  let derivedSecrets := TSDerivedSecrets.derivedMessageKeys P
    (P.hmac ((ratchetKey P)^[steps] chainKey.key).val messageKeySeed)
  { cipherKey := derivedSecrets.cipherKey
    macKey := derivedSecrets.macKey
    iv := derivedSecrets.iv
    index := chainKey.index + steps }

@[simp] theorem messageKeysAt_index (chainKey : ChainKey) (steps : ℕ) :
    (chainKey.messageKeysAt P steps).index = chainKey.index + steps := rfl

@[simp] theorem throwsMessageKeys_advance (chainKey : ChainKey) (steps : ℕ)
    (h : chainKey.index + steps < 2 ^ 31) :
    (chainKey.advance P steps h).throwsMessageKeys P = chainKey.messageKeysAt P steps := rfl

theorem messageKeysAt_advance (chainKey : ChainKey) (m n : ℕ)
    (h : chainKey.index + m < 2 ^ 31) :
    (chainKey.advance P m h).messageKeysAt P n = chainKey.messageKeysAt P (m + n) := by
  simp [messageKeysAt, advance, Nat.add_comm m n, Function.iterate_add_apply, Nat.add_assoc]

/-- The message keys passed over on the way. -/
def skippedMessageKeys (chainKey : ChainKey) (steps : ℕ) : List MessageKeys :=
  (List.range steps).map (chainKey.messageKeysAt P)

@[simp] theorem skippedMessageKeys_zero (chainKey : ChainKey) :
    chainKey.skippedMessageKeys P 0 = [] := rfl

theorem skippedMessageKeys_succ (chainKey : ChainKey) (steps : ℕ)
    (h : chainKey.index + 1 < 2 ^ 31) :
    chainKey.skippedMessageKeys P (steps + 1) =
      chainKey.throwsMessageKeys P :: (chainKey.advance P 1 h).skippedMessageKeys P steps := by
  simp only [skippedMessageKeys, List.range_succ_eq_map, List.map_cons, List.map_map]
  refine congrArg₂ _ rfl (List.map_congr_left fun i _ => ?_)
  rw [messageKeysAt_advance, Function.comp_apply, Nat.succ_eq_add_one, Nat.add_comm]

end ChainKey

/-! ## Root keys -/

/-- `RootKey`. -/
structure RootKey where
  keyData : Key
  deriving DecidableEq

/-- `RKCK`: a root key with the chain key derived beside it. -/
structure RKCK where
  rootKey : RootKey
  chainKey : ChainKey

namespace RootKey

variable (P : Primitives)

/-- The chain a shared secret opens. -/
def chain (rootKey : RootKey) (sharedSecret : Key) : RKCK :=
  let secrets := TSDerivedSecrets.derivedRatchetedSecrets P sharedSecret rootKey.keyData
  { rootKey := ⟨secrets.cipherKey⟩, chainKey := .initial secrets.macKey }

/-- `throws_createChainWithTheirEphemeral:ourEphemeral:`. -/
def throwsCreateChain (rootKey : RootKey) (theirEphemeral : NSData)
    (ourEphemeral : ECKeyPair) : Except Failure RKCK := do
  let sharedSecret ← P.throwsGenerateSharedSecret theirEphemeral ourEphemeral
  return rootKey.chain P sharedSecret

@[simp] theorem chain_chainKey_index (rootKey : RootKey) (sharedSecret : Key) :
    (rootKey.chain P sharedSecret).chainKey.index = 0 := rfl

/-- A chain is created from any ephemeral of the right length. -/
theorem throwsCreateChain_key (rootKey : RootKey) (theirEphemeral : Key)
    (ourEphemeral : ECKeyPair) :
    rootKey.throwsCreateChain P theirEphemeral.val ourEphemeral =
      .ok (rootKey.chain P (P.curve25519 ourEphemeral.privateKey theirEphemeral)) := by
  simp only [throwsCreateChain, Primitives.throwsGenerateSharedSecret_key]
  rfl

end RootKey

/-! ## Chains -/

/-- `SendingChain`. -/
structure SendingChain where
  senderRatchetKeyPair : ECKeyPair
  chainKey : ChainKey
  deriving DecidableEq

/-- `ReceivingChain`. -/
structure ReceivingChain where
  senderRatchetKey : NSData
  chainKey : ChainKey
  messageKeysList : List MessageKeys
  deriving DecidableEq

/-- `initWithChainKey:senderRatchetKey:`. -/
def ReceivingChain.initWithChainKey (chainKey : ChainKey) (senderRatchetKey : NSData) :
    ReceivingChain where
  senderRatchetKey := senderRatchetKey
  chainKey := chainKey
  messageKeysList := []

end ObjcSwiftLearning.AxolotlKit
