import ObjcSwiftLearning.AxolotlKit.SessionState

/-!
# Initialising a session

`AliceAxolotlParameters`, `BobAxolotlParameters` and the two
`throws_initializeSession:` of `RatchetingSession`: three or four Diffie–Hellman
results, in a fixed order, are hashed into a root key and a first chain key.

A session whose initialisation raises is dropped by every caller, so an
initialiser returns the new state or the failure.

* `Handshake` — the key pairs of one key agreement, and what each party is told
  of them.
* `Handshake.throwsInitializeSessionAlice_eq`, `throwsInitializeSessionBob_eq` — what they make of
  it.
-/

namespace ObjcSwiftLearning.AxolotlKit

structure AliceAxolotlParameters where
  ourIdentityKeyPair : ECKeyPair
  theirIdentityKey : NSData
  ourBaseKey : ECKeyPair
  theirSignedPreKey : NSData
  theirOneTimePrekey : Option NSData
  theirRatchetKey : NSData

structure BobAxolotlParameters where
  ourIdentityKeyPair : ECKeyPair
  theirIdentityKey : NSData
  ourSignedPrekey : ECKeyPair
  ourRatchetKey : ECKeyPair
  ourOneTimePrekey : Option ECKeyPair
  theirBaseKey : NSData

/-- The agreements of `throws_DHEKeyAgreement:`, in order, for Alice. -/
def AliceAxolotlParameters.agreements (params : AliceAxolotlParameters) :
    List (NSData × ECKeyPair) :=
  [(params.theirSignedPreKey, params.ourIdentityKeyPair),
   (params.theirIdentityKey, params.ourBaseKey),
   (params.theirSignedPreKey, params.ourBaseKey)] ++
  (params.theirOneTimePrekey.map (·, params.ourBaseKey)).toList

/-- The agreements of `throws_DHEKeyAgreement:`, in order, for Bob. -/
def BobAxolotlParameters.agreements (params : BobAxolotlParameters) :
    List (NSData × ECKeyPair) :=
  [(params.theirIdentityKey, params.ourSignedPrekey),
   (params.theirBaseKey, params.ourIdentityKeyPair),
   (params.theirBaseKey, params.ourSignedPrekey)] ++
  (params.ourOneTimePrekey.map (params.theirBaseKey, ·)).toList

namespace RatchetingSession

variable (P : Primitives)

def discontinuityBytes : NSData := List.replicate 32 0xFF

structure DHEResult where
  rootKey : RootKey
  chainKey : Key

def DHEResult.initWithMasterKey (masterKey : NSData) : DHEResult :=
  let derivedMaterial := P.deriveKey masterKey (utf8 "WhisperText") hkdfDefaultSalt 2
  { rootKey := ⟨subdata derivedMaterial 0 32 (by omega)⟩
    chainKey := subdata derivedMaterial 32 32 (by omega) }

/-- The results of a list of agreements. -/
def sharedSecrets : List (NSData × ECKeyPair) → Except Failure (List Key)
  | [] => return []
  | (publicKey, keyPair) :: agreements => do
      let secret ← P.throwsGenerateSharedSecret publicKey keyPair
      let secrets ← sharedSecrets agreements
      return secret :: secrets

/-- The bytes hashed: the discontinuity bytes, then the results. -/
def masterKey (secrets : List Key) : NSData :=
  discontinuityBytes ++ secrets.flatMap (·.val)

def throwsDHEKeyAgreement (agreements : List (NSData × ECKeyPair)) :
    Except Failure DHEResult := do
  let secrets ← sharedSecrets P agreements
  return .initWithMasterKey P (masterKey secrets)

/-- `throws_initializeSession:sessionVersion:AliceParameters:senderRatchet:`. -/
def throwsInitializeSessionAlice (session : SessionState) (sessionVersion : Int32)
    (parameters : AliceAxolotlParameters) (sendingRatchet : ECKeyPair) :
    Except Failure SessionState := do
  let session := { session with
    version := sessionVersion
    remoteIdentityKey := some parameters.theirIdentityKey
    localIdentityKey := some parameters.ourIdentityKeyPair.publicKey.val }
  let result ← throwsDHEKeyAgreement P parameters.agreements
  let sendingChain ←
    result.rootKey.throwsCreateChain P parameters.theirRatchetKey sendingRatchet
  let session := session.addReceiverChain parameters.theirRatchetKey (.initial result.chainKey)
  let session := session.setSenderChain sendingRatchet sendingChain.chainKey
  return { session with rootKey := some sendingChain.rootKey }

def throwsInitializeSessionBob (session : SessionState) (sessionVersion : Int32)
    (parameters : BobAxolotlParameters) : Except Failure SessionState := do
  let session := { session with
    version := sessionVersion
    remoteIdentityKey := some parameters.theirIdentityKey
    localIdentityKey := some parameters.ourIdentityKeyPair.publicKey.val }
  let result ← throwsDHEKeyAgreement P parameters.agreements
  let session := session.setSenderChain parameters.ourRatchetKey (.initial result.chainKey)
  return { session with rootKey := some result.rootKey }

/-! ## What an initialised session holds -/

variable {P}

/-- Alice's session: a receiver chain for Bob's ratchet key, and a sending chain
on her own. -/
theorem throwsInitializeSessionAlice_eq_ok {session session' : SessionState}
    {sessionVersion : Int32} {parameters : AliceAxolotlParameters} {sendingRatchet : ECKeyPair}
    (h : throwsInitializeSessionAlice P session sessionVersion parameters sendingRatchet =
      .ok session') :
    ∃ receivingKey sendingKey rootKey, session' =
      { (session.addReceiverChain parameters.theirRatchetKey
          (.initial receivingKey)).setSenderChain sendingRatchet (.initial sendingKey) with
        version := sessionVersion
        remoteIdentityKey := some parameters.theirIdentityKey
        localIdentityKey := some parameters.ourIdentityKeyPair.publicKey.val
        rootKey := some rootKey } := by
  simp only [throwsInitializeSessionAlice, throwsDHEKeyAgreement] at h
  cases hsecrets : sharedSecrets P parameters.agreements with
  | error e => simp [hsecrets] at h
  | ok secrets =>
      simp only [hsecrets, ok_bind, pure_eq_ok, RootKey.throwsCreateChain] at h
      cases hsecret : P.throwsGenerateSharedSecret parameters.theirRatchetKey sendingRatchet with
      | error e => simp [hsecret] at h
      | ok secret =>
          simp only [hsecret, ok_bind, Except.ok.injEq] at h
          exact ⟨_, _, _, h.symm⟩

theorem throwsInitializeSessionBob_eq_ok {session session' : SessionState}
    {sessionVersion : Int32} {parameters : BobAxolotlParameters}
    (h : throwsInitializeSessionBob P session sessionVersion parameters = .ok session') :
    ∃ sendingKey rootKey, session' =
      { session.setSenderChain parameters.ourRatchetKey (.initial sendingKey) with
        version := sessionVersion
        remoteIdentityKey := some parameters.theirIdentityKey
        localIdentityKey := some parameters.ourIdentityKeyPair.publicKey.val
        rootKey := some rootKey } := by
  simp only [throwsInitializeSessionBob, throwsDHEKeyAgreement] at h
  cases hsecrets : sharedSecrets P parameters.agreements with
  | error e => simp [hsecrets] at h
  | ok secrets =>
      simp only [hsecrets, ok_bind, pure_eq_ok, Except.ok.injEq] at h
      exact ⟨_, _, h.symm⟩

/-! ## Agreement -/

theorem sharedSecrets_cons_key (publicKey : Key) (keyPair : ECKeyPair)
    (agreements : List (NSData × ECKeyPair)) :
    sharedSecrets P ((publicKey.val, keyPair) :: agreements) =
      (sharedSecrets P agreements).map
        (P.curve25519 keyPair.privateKey publicKey :: ·) := by
  simp only [sharedSecrets, Primitives.throwsGenerateSharedSecret_key]
  cases sharedSecrets P agreements <;> rfl

/-- All key pairs of one key agreement. -/
structure Handshake where
  aliceIdentity : ECKeyPair
  aliceBase : ECKeyPair
  bobIdentity : ECKeyPair
  bobSignedPrekey : ECKeyPair
  bobRatchet : ECKeyPair
  bobOneTimePrekey : Option ECKeyPair

namespace Handshake

variable (h : Handshake)

/-- Every public key belongs to its secret. -/
structure Matches (P : Primitives) : Prop where
  aliceIdentity : h.aliceIdentity.Matches P
  aliceBase : h.aliceBase.Matches P
  bobIdentity : h.bobIdentity.Matches P
  bobSignedPrekey : h.bobSignedPrekey.Matches P
  bobRatchet : h.bobRatchet.Matches P
  bobOneTimePrekey : ∀ keyPair ∈ h.bobOneTimePrekey, keyPair.Matches P

def aliceParameters : AliceAxolotlParameters where
  ourIdentityKeyPair := h.aliceIdentity
  theirIdentityKey := h.bobIdentity.publicKey.val
  ourBaseKey := h.aliceBase
  theirSignedPreKey := h.bobSignedPrekey.publicKey.val
  theirOneTimePrekey := h.bobOneTimePrekey.map (·.publicKey.val)
  theirRatchetKey := h.bobRatchet.publicKey.val

def bobParameters : BobAxolotlParameters where
  ourIdentityKeyPair := h.bobIdentity
  theirIdentityKey := h.aliceIdentity.publicKey.val
  ourSignedPrekey := h.bobSignedPrekey
  ourRatchetKey := h.bobRatchet
  ourOneTimePrekey := h.bobOneTimePrekey
  theirBaseKey := h.aliceBase.publicKey.val

/-- The Diffie–Hellman results, as Alice computes them. -/
def secrets (P : Primitives) : List Key :=
  [P.curve25519 h.aliceIdentity.privateKey h.bobSignedPrekey.publicKey,
   P.curve25519 h.aliceBase.privateKey h.bobIdentity.publicKey,
   P.curve25519 h.aliceBase.privateKey h.bobSignedPrekey.publicKey] ++
  (h.bobOneTimePrekey.map fun keyPair =>
    P.curve25519 h.aliceBase.privateKey keyPair.publicKey).toList

theorem sharedSecrets_alice :
    sharedSecrets P h.aliceParameters.agreements = .ok (h.secrets P) := by
  cases hot : h.bobOneTimePrekey with
  | none =>
      simp only [AliceAxolotlParameters.agreements, aliceParameters, secrets, hot,
        Option.map_none, Option.toList_none, List.append_nil, sharedSecrets_cons_key]
      rfl
  | some keyPair =>
      simp only [AliceAxolotlParameters.agreements, aliceParameters, secrets, hot,
        Option.map_some, Option.toList_some, List.cons_append, List.nil_append,
        sharedSecrets_cons_key]
      rfl

theorem sharedSecrets_bob (lawful : P.Lawful) (matching : h.Matches P) :
    sharedSecrets P h.bobParameters.agreements = .ok (h.secrets P) := by
  -- Each of Bob's results is the mirror image of Alice's.
  have hsigned := lawful.agree matching.bobSignedPrekey matching.aliceIdentity
  have hidentity := lawful.agree matching.bobIdentity matching.aliceBase
  have hbase := lawful.agree matching.bobSignedPrekey matching.aliceBase
  cases hot : h.bobOneTimePrekey with
  | none =>
      simp only [BobAxolotlParameters.agreements, bobParameters, secrets, hot,
        Option.map_none, Option.toList_none, List.append_nil, sharedSecrets_cons_key,
        hsigned, hidentity, hbase]
      rfl
  | some keyPair =>
      have honeTime := lawful.agree (matching.bobOneTimePrekey keyPair hot) matching.aliceBase
      simp only [BobAxolotlParameters.agreements, bobParameters, secrets, hot,
        Option.map_some, Option.toList_some, List.cons_append, List.nil_append,
        sharedSecrets_cons_key, hsigned, hidentity, hbase, honeTime]
      rfl

/-- What both parties derive. -/
def result (P : Primitives) : DHEResult := .initWithMasterKey P (masterKey (h.secrets P))

def sendingChain (P : Primitives) (sendingRatchet : ECKeyPair) : RKCK :=
  (h.result P).rootKey.chain P
    (P.curve25519 sendingRatchet.privateKey h.bobRatchet.publicKey)

theorem throwsInitializeSessionAlice_eq (session : SessionState) (sessionVersion : Int32)
    (sendingRatchet : ECKeyPair) :
    throwsInitializeSessionAlice P session sessionVersion h.aliceParameters sendingRatchet =
      .ok { (session.addReceiverChain h.bobRatchet.publicKey.val
          (.initial (h.result P).chainKey)).setSenderChain sendingRatchet
            (h.sendingChain P sendingRatchet).chainKey with
        version := sessionVersion
        remoteIdentityKey := some h.bobIdentity.publicKey.val
        localIdentityKey := some h.aliceIdentity.publicKey.val
        rootKey := some (h.sendingChain P sendingRatchet).rootKey } := by
  simp only [throwsInitializeSessionAlice, throwsDHEKeyAgreement, h.sharedSecrets_alice]
  simp only [aliceParameters, bind, Except.bind, pure, Except.pure,
    RootKey.throwsCreateChain_key]
  rfl

theorem throwsInitializeSessionBob_eq (lawful : P.Lawful) (matching : h.Matches P)
    (session : SessionState) (sessionVersion : Int32) :
    throwsInitializeSessionBob P session sessionVersion h.bobParameters =
      .ok { session.setSenderChain h.bobRatchet (.initial (h.result P).chainKey) with
        version := sessionVersion
        remoteIdentityKey := some h.aliceIdentity.publicKey.val
        localIdentityKey := some h.bobIdentity.publicKey.val
        rootKey := some (h.result P).rootKey } := by
  simp only [throwsInitializeSessionBob, throwsDHEKeyAgreement,
    h.sharedSecrets_bob lawful matching]
  rfl

end Handshake

end RatchetingSession

end ObjcSwiftLearning.AxolotlKit
