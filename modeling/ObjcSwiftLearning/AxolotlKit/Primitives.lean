import ObjcSwiftLearning.AxolotlKit.Foundation

/-!
# The cryptography the kit calls

`curve25519_donna`, `curve25519_verify`, `CCHmac`, `CCCrypt` and the generated
protobuf coder are parameters, collected in `Primitives`; nothing is assumed of
them beyond the lengths in their types.  What a result does assume is a named
hypothesis:

* `Primitives.Lawful` — Diffie–Hellman commutes, AES-CBC decryption inverts
  encryption under the same key and IV, and the protobuf coder round-trips;
* `Primitives.CodesMessages` — the last of these alone;
* `Primitives.FreshKeys n` — the first `n` generated public keys are distinct.

On top of them this module has the two kits that are small enough to embed:
Curve25519Kit's key pairs and HKDFKit's extract-and-expand loop, with the split
of `TSDerivedSecrets`.
-/

namespace ObjcSwiftLearning.AxolotlKit

/-! ## Protobuf messages -/

/-- `TSProtoWhisperMessage`: every field is optional on the wire. -/
structure TSProtoWhisperMessage where
  ratchetKey : Option NSData
  counter : Option UInt32
  previousCounter : Option UInt32
  ciphertext : Option NSData
  deriving DecidableEq

structure TSProtoPreKeyWhisperMessage where
  registrationId : Option UInt32
  preKeyId : Option UInt32
  signedPreKeyId : Option UInt32
  baseKey : Option NSData
  identityKey : Option NSData
  message : Option NSData
  deriving DecidableEq

/-! ## The parameters -/

/-- The functions the kit calls and does not implement. -/
structure Primitives where
  /-- `curve25519_donna(secret, point)`. -/
  curve25519 : Key → Key → Key
  hmac : NSData → NSData → Key
  /-- AES-256-CBC with PKCS7 padding. -/
  encryptCBC : Key → Bytes 16 → NSData → NSData
  /-- Its inverse; `none` is a status other than `kCCSuccess`. -/
  decryptCBC : Key → Bytes 16 → NSData → Option NSData
  /-- `curve25519_verify(signature, key, data) == 0`. -/
  verify : NSData → Key → NSData → Bool
  /-- The clamped secret of the `n`-th key pair the process generates. -/
  randomSecret : ℕ → Key
  serializeWhisperMessage : TSProtoWhisperMessage → NSData
  parseWhisperMessage : NSData → Option TSProtoWhisperMessage
  serializePreKeyWhisperMessage : TSProtoPreKeyWhisperMessage → NSData
  parsePreKeyWhisperMessage : NSData → Option TSProtoPreKeyWhisperMessage

/-! ## Curve25519Kit -/

/-- `ECKeyPair`: both halves have `ECCKeyLength` bytes, or the pair is `nil`. -/
structure ECKeyPair where
  publicKey : Key
  privateKey : Key
  deriving DecidableEq

namespace Primitives

variable (P : Primitives)

/-- The point `{ 9 }`. -/
def basepoint : Key := ⟨9 :: List.replicate 31 0, by simp⟩

def publicKey (secret : Key) : Key := P.curve25519 secret basepoint

/-- The `n`-th pair of `+[Curve25519 generateKeyPair]`. -/
def generatedKeyPair (n : ℕ) : ECKeyPair where
  publicKey := P.publicKey (P.randomSecret n)
  privateKey := P.randomSecret n

def throwsGenerateSharedSecret (theirPublicKey : NSData) (keyPair : ECKeyPair) :
    Except Failure Key :=
  if h : theirPublicKey.length = 32 then
    .ok (P.curve25519 keyPair.privateKey ⟨theirPublicKey, h⟩)
  else
    .error (exception .invalidArgumentException "Public key has unexpected length")

@[simp] theorem throwsGenerateSharedSecret_key (theirPublicKey : Key)
    (keyPair : ECKeyPair) :
    P.throwsGenerateSharedSecret theirPublicKey.val keyPair =
      .ok (P.curve25519 keyPair.privateKey theirPublicKey) := by
  simp [throwsGenerateSharedSecret, theirPublicKey.property]

/-! ## HKDFKit -/

/-- `throws_extract:salt:`. -/
def extract (data salt : NSData) : Key := P.hmac salt data

/-- The loop of `throws_expand:info:outputSize:offset:`, from the block counter
`i` and the previous block `mixin`. -/
def expand (data info : NSData) : (i : ℕ) → (mixin : NSData) → (iterations : ℕ) → NSData
  | _, _, 0 => []
  | i, mixin, iterations + 1 =>
      let stepResult := P.hmac data (mixin ++ info ++ [UInt8.ofNat i])
      stepResult.val ++ expand data info (i + 1) stepResult.val iterations

@[simp] theorem length_expand (data info : NSData) (i : ℕ) (mixin : NSData)
    (iterations : ℕ) :
    (P.expand data info i mixin iterations).length = 32 * iterations := by
  induction iterations generalizing i mixin with
  | zero => rfl
  | succ iterations ih =>
      simp only [expand, List.length_append, ih, (P.hmac _ _).property]
      omega

/-- `throws_deriveKey:info:salt:outputSize:` for a whole number of blocks. -/
def deriveKey (seed info salt : NSData) (iterations : ℕ) : Bytes (32 * iterations) :=
  ⟨P.expand (P.extract seed salt).val info 1 [] iterations, P.length_expand _ _ _ _ _⟩

end Primitives

/-! ## Slices of derived material -/

/-- `subdataWithRange:` inside the data. -/
def subdata {n : ℕ} (data : Bytes n) (location length : ℕ) (h : location + length ≤ n) :
    Bytes length :=
  ⟨(data.val.drop location).take length, by
    simp only [List.length_take, List.length_drop, data.property]
    omega⟩

/-- `HKDFDefaultSalt`: four null pointers of eight bytes. -/
def hkdfDefaultSalt : NSData := List.replicate 32 0

structure TSDerivedSecrets where
  cipherKey : Key
  macKey : Key
  iv : Bytes 16

namespace TSDerivedSecrets

variable (P : Primitives)

/-- `throws_derivedSecretsWithSeed:salt:info:`. -/
def derivedSecrets (masterKey : Key) (salt : Option NSData) (info : NSData) :
    TSDerivedSecrets :=
  let derivedMaterial := P.deriveKey masterKey.val info (salt.getD hkdfDefaultSalt) 3
  { cipherKey := subdata derivedMaterial 0 32 (by omega)
    macKey := subdata derivedMaterial 32 32 (by omega)
    iv := subdata derivedMaterial 64 16 (by omega) }

def derivedRatchetedSecrets (masterKey rootKey : Key) : TSDerivedSecrets :=
  derivedSecrets P masterKey (some rootKey.val) (utf8 "WhisperRatchet")

def derivedMessageKeys (data : Key) : TSDerivedSecrets :=
  derivedSecrets P data none (utf8 "WhisperMessageKeys")

end TSDerivedSecrets

/-! ## What results assume -/

/-- A key pair whose public half belongs to its secret. -/
def ECKeyPair.Matches (P : Primitives) (keyPair : ECKeyPair) : Prop :=
  keyPair.publicKey = P.publicKey keyPair.privateKey

theorem Primitives.generatedKeyPair_matches (P : Primitives) (n : ℕ) :
    (P.generatedKeyPair n).Matches P := rfl

/-- What is relied on of the protobuf coder. -/
structure Primitives.CodesMessages (P : Primitives) : Prop where
  /-- The coder round-trips a `WhisperMessage`. -/
  parse_serializeWhisperMessage : ∀ proto : TSProtoWhisperMessage,
    P.parseWhisperMessage (P.serializeWhisperMessage proto) = some proto
  /-- No bytes are the message without fields. -/
  parseWhisperMessage_nil : P.parseWhisperMessage [] = some ⟨none, none, none, none⟩
  /-- The coder round-trips a `PreKeyWhisperMessage`. -/
  parse_serializePreKeyWhisperMessage : ∀ proto : TSProtoPreKeyWhisperMessage,
    P.parsePreKeyWhisperMessage (P.serializePreKeyWhisperMessage proto) = some proto

/-- The algebra of the primitives that makes two parties agree. -/
structure Primitives.Lawful (P : Primitives) : Prop extends P.CodesMessages where
  /-- Diffie–Hellman commutes. -/
  curve25519_comm : ∀ a b : Key,
    P.curve25519 a (P.publicKey b) = P.curve25519 b (P.publicKey a)
  /-- Decryption inverts encryption under the same key and IV. -/
  decryptCBC_encryptCBC : ∀ (key : Key) (iv : Bytes 16) (data : NSData),
    P.decryptCBC key iv (P.encryptCBC key iv data) = some data

/-- Each of the first `n` generated public keys is new.  There are only finitely
many keys, so this is an assumption on a run and not on the generator. -/
def Primitives.FreshKeys (P : Primitives) (n : ℕ) : Prop :=
  ∀ i < n, ∀ j < n,
    (P.generatedKeyPair i).publicKey = (P.generatedKeyPair j).publicKey → i = j

theorem Primitives.FreshKeys.mono {P : Primitives} {m n : ℕ} (fresh : P.FreshKeys n)
    (h : m ≤ n) : P.FreshKeys m := by
  intro i hi j hj hij
  exact fresh i (by omega) j (by omega) hij

/-- Both ends of an agreement compute the same secret. -/
theorem Primitives.Lawful.agree {P : Primitives} (lawful : P.Lawful)
    {ours theirs : ECKeyPair} (hours : ours.Matches P) (htheirs : theirs.Matches P) :
    P.curve25519 ours.privateKey theirs.publicKey =
      P.curve25519 theirs.privateKey ours.publicKey := by
  rw [htheirs, hours]
  exact lawful.curve25519_comm _ _

end ObjcSwiftLearning.AxolotlKit
