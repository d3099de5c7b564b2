import Mathlib.Algebra.Order.Group.Unbundled.Abs
import Mathlib.Algebra.Order.Group.Int
import ObjcSwiftLearning.AxolotlKit.SessionState

/-!
# The stores behind the kit

`OWSPrimaryStorage` implements `SessionStore`, `PreKeyStore` and
`SignedPreKeyStore`; `OWSIdentityManager` implements `IdentityKeyStore`.  A
collection of the database is a function from keys, and a read returns a copy:
sessions are read over the connection without an object cache, so what a caller
does to a loaded record does not reach the store until it is stored.

* `Stores` — the collections the kit reads or writes.
* `World` — the stores, the clock and the key generator: the state every
  procedure of the kit runs on.
* `saveRemoteIdentity` — the one store operation with a reach of its own: a
  *changed* identity archives every session of the contact.

Interaction messages and notifications for a changed identity are not modelled;
nothing the kit reads depends on them.  The registration id is the one
`getOrGenerateRegistrationId:` answers, generated or not.
-/

namespace ObjcSwiftLearning.SignalServiceKit

open AxolotlKit

/-! ## Identities -/

inductive OWSVerificationState where
  | default
  | verified
  | noLongerVerified
  deriving DecidableEq

/-- `OWSRecipientIdentity`; times are in milliseconds. -/
structure OWSRecipientIdentity where
  identityKey : Option NSData
  isFirstKnownKey : Bool
  createdAt : ℤ
  verificationState : OWSVerificationState
  deriving DecidableEq

/-- `TSMessageDirection`, less the value no caller passes. -/
inductive TSMessageDirection where
  | incoming
  | outgoing
  deriving DecidableEq

/-! ## The collections -/

/-- The collections of the database, by recipient, device or key id. -/
@[ext]
structure Stores where
  /-- `OWSPrimaryStorageSessionStoreCollection`, by contact and device. -/
  sessions : String → Int32 → Option SessionRecord
  identities : String → Option OWSRecipientIdentity
  /-- `OWSPrimaryStorageTrustedKeysCollection`, deprecated but kept up to date. -/
  trustedKeys : String → Option NSData
  queuedVerificationStateSyncMessages : String → Option String
  preKeys : Int32 → Option ECKeyPair
  signedPreKeys : Int32 → Option ECKeyPair
  identityKeyPair : Option ECKeyPair
  localNumber : Option String
  localRegistrationId : Int32

/-- What a procedure of the kit runs on.  The clock stands still during a call. -/
@[ext]
structure World where
  stores : Stores
  /-- `[NSDate new]`, in milliseconds. -/
  clock : ℤ
  /-- How many key pairs have been generated. -/
  generated : ℕ

namespace Stores

variable (stores : Stores) (recipientId : String) (deviceId : Int32)

/-! ## `SessionStore` -/

/-- `loadSession:deviceId:protocolContext:`. -/
def loadSession : SessionRecord := (stores.sessions recipientId deviceId).getD .new

/-- `storeSession:deviceId:session:protocolContext:`. -/
def storeSession (session : SessionRecord) : Stores :=
  { stores with
    sessions := fun contactIdentifier device =>
      if contactIdentifier = recipientId ∧ device = deviceId then some session.markAsUnFresh
      else stores.sessions contactIdentifier device }

/-- `containsSession:deviceId:protocolContext:`. -/
def containsSession : Bool := (stores.loadSession recipientId deviceId).sessionState.hasSenderChain

/-- `archiveAllSessionsForContact:protocolContext:`. -/
def archiveAllSessionsForContact : Stores :=
  { stores with
    sessions := fun contactIdentifier device =>
      if contactIdentifier = recipientId then
        (stores.sessions contactIdentifier device).map (·.archiveCurrentState)
      else stores.sessions contactIdentifier device }

/-! ## `PreKeyStore` and `SignedPreKeyStore` -/

def throwsLoadPreKey (preKeyId : Int32) : Except Failure ECKeyPair :=
  match stores.preKeys preKeyId with
  | some keyPair => .ok keyPair
  | none => .error (exception .invalidKeyIdException "No pre key found matching key id")

def removePreKey (preKeyId : Int32) : Stores :=
  { stores with preKeys := fun key => if key = preKeyId then none else stores.preKeys key }

def throwsLoadSignedPrekey (signedPreKeyId : Int32) : Except Failure ECKeyPair :=
  match stores.signedPreKeys signedPreKeyId with
  | some keyPair => .ok keyPair
  | none => .error (exception .invalidKeyIdException "No signed pre key found matching key id")

/-! ## `IdentityKeyStore` -/

/-- `kIdentityKeyStoreNonBlockingSecondsThreshold`, in milliseconds. -/
def nonBlockingThreshold : ℤ := 5000

def isTrustedKey (now : ℤ) (identityKey : Option NSData)
    (recipientIdentity : Option OWSRecipientIdentity) : Bool :=
  match recipientIdentity with
  | none => true
  | some identity =>
      if !isEqualToData identity.identityKey identityKey then false
      else if identity.isFirstKnownKey then true
      else match identity.verificationState with
        | .default => !decide (|identity.createdAt - now| < nonBlockingThreshold)
        | .verified => true
        | .noLongerVerified => false

/-- `isTrustedIdentityKey:recipientId:direction:protocolContext:`. -/
def isTrustedIdentityKey (now : ℤ) (identityKey : Option NSData)
    (direction : TSMessageDirection) : Bool :=
  if stores.localNumber = some recipientId then
    isEqualToData (stores.identityKeyPair.map (·.publicKey.val)) identityKey
  else match direction with
    | .incoming => true
    | .outgoing => isTrustedKey now identityKey (stores.identities recipientId)

/-- `clearSyncMessageForRecipientId:transaction:`. -/
def clearSyncMessage : Stores :=
  { stores with
    queuedVerificationStateSyncMessages := fun key =>
      if key = recipientId then none else stores.queuedVerificationStateSyncMessages key }

/-- `[identity saveWithTransaction:]`. -/
def saveIdentity (identity : OWSRecipientIdentity) : Stores :=
  { stores with
    identities := fun key => if key = recipientId then some identity else stores.identities key }

def replacedVerificationState : OWSVerificationState → OWSVerificationState
  | .default => .default
  | .verified => .noLongerVerified
  | .noLongerVerified => .noLongerVerified

/-- The write to the deprecated collection. -/
def saveTrustedKey (identityKey : Option NSData) : Stores :=
  { stores with
    trustedKeys := fun key => if key = recipientId then identityKey else stores.trustedKeys key }

/-- The writes of a first use. -/
def saveFirstIdentity (now : ℤ) (identityKey : Option NSData) : Stores :=
  (stores.saveIdentity recipientId
    { identityKey, isFirstKnownKey := true, createdAt := now
      verificationState := .default }).clearSyncMessage recipientId

/-- The writes of a change. -/
def replaceIdentity (now : ℤ) (identityKey : Option NSData)
    (existingIdentity : OWSRecipientIdentity) : Stores :=
  ((stores.saveIdentity recipientId
    { identityKey, isFirstKnownKey := false, createdAt := now
      verificationState := replacedVerificationState existingIdentity.verificationState
    }).archiveAllSessionsForContact recipientId).clearSyncMessage recipientId

/-- `saveRemoteIdentity:recipientId:protocolContext:`: whether a previous
identity was replaced, and the stores after it. -/
def saveRemoteIdentity (now : ℤ) (identityKey : Option NSData) : Bool × Stores :=
  match stores.identities recipientId with
  | none =>
      (false, (stores.saveTrustedKey recipientId identityKey).saveFirstIdentity recipientId now
        identityKey)
  | some existingIdentity =>
      if !isEqualToData existingIdentity.identityKey identityKey then
        (true, (stores.saveTrustedKey recipientId identityKey).replaceIdentity recipientId now
          identityKey existingIdentity)
      else (false, stores.saveTrustedKey recipientId identityKey)

/-! ## What the operations read and write -/

section Lemmas

variable {stores : Stores} {recipientId : String} {deviceId : Int32}

section

variable (session : SessionRecord)

@[simp] theorem loadSession_storeSession :
    (stores.storeSession recipientId deviceId session).loadSession recipientId deviceId =
      session.markAsUnFresh := by
  simp [loadSession, storeSession]

@[simp] theorem sessions_storeSession :
    (stores.storeSession recipientId deviceId session).sessions recipientId deviceId =
      some session.markAsUnFresh := by
  simp [storeSession]

@[simp] theorem identities_storeSession :
    (stores.storeSession recipientId deviceId session).identities = stores.identities := rfl

end

/-- The record of one contact and device after a change of that contact's
sessions. -/
theorem sessions_archiveAllSessionsForContact :
    (stores.archiveAllSessionsForContact recipientId).sessions recipientId deviceId =
      (stores.sessions recipientId deviceId).map (·.archiveCurrentState) := by
  simp [archiveAllSessionsForContact]

variable {now : ℤ} {identityKey : Option NSData}

/-- **What saving an identity can do.** -/
theorem saveRemoteIdentity_cases (stores : Stores) (recipientId : String) (now : ℤ)
    (identityKey : Option NSData) :
    (stores.identities recipientId = none ∧
      stores.saveRemoteIdentity recipientId now identityKey =
        (false, (stores.saveTrustedKey recipientId identityKey).saveFirstIdentity recipientId now
          identityKey)) ∨
    (∃ existingIdentity, stores.identities recipientId = some existingIdentity ∧
      isEqualToData existingIdentity.identityKey identityKey = false ∧
      stores.saveRemoteIdentity recipientId now identityKey =
        (true, (stores.saveTrustedKey recipientId identityKey).replaceIdentity recipientId now
          identityKey existingIdentity)) ∨
    (∃ existingIdentity, stores.identities recipientId = some existingIdentity ∧
      isEqualToData existingIdentity.identityKey identityKey = true ∧
      stores.saveRemoteIdentity recipientId now identityKey =
        (false, stores.saveTrustedKey recipientId identityKey)) := by
  cases hidentity : stores.identities recipientId with
  | none => exact .inl ⟨rfl, by simp [saveRemoteIdentity, hidentity]⟩
  | some existingIdentity =>
      cases hequal : isEqualToData existingIdentity.identityKey identityKey with
      | false =>
          exact .inr (.inl ⟨existingIdentity, rfl, hequal, by
            simp [saveRemoteIdentity, hidentity, hequal]⟩)
      | true =>
          exact .inr (.inr ⟨existingIdentity, rfl, hequal, by
            simp [saveRemoteIdentity, hidentity, hequal]⟩)

/-- What no identity write touches: the prekeys and the account. -/
structure SameKeysAndAccount (stores stores' : Stores) : Prop where
  preKeys : stores'.preKeys = stores.preKeys
  signedPreKeys : stores'.signedPreKeys = stores.signedPreKeys
  identityKeyPair : stores'.identityKeyPair = stores.identityKeyPair
  localNumber : stores'.localNumber = stores.localNumber
  localRegistrationId : stores'.localRegistrationId = stores.localRegistrationId

section

variable (stores) (recipientId) (now)

/-- The prekeys and the account are none of the identity manager's business. -/
theorem saveRemoteIdentity_frame (identityKey : Option NSData) :
    stores.SameKeysAndAccount (stores.saveRemoteIdentity recipientId now identityKey).2 := by
  obtain ⟨-, h⟩ | ⟨existingIdentity, -, -, h⟩ | ⟨existingIdentity, -, -, h⟩ :=
    saveRemoteIdentity_cases stores recipientId now identityKey
  · rw [h]
    exact ⟨rfl, rfl, rfl, rfl, rfl⟩
  · rw [h]
    exact ⟨rfl, rfl, rfl, rfl, rfl⟩
  · rw [h]
    exact ⟨rfl, rfl, rfl, rfl, rfl⟩

theorem sessions_saveRemoteIdentity (identityKey : Option NSData) :
    (stores.saveRemoteIdentity recipientId now identityKey).2.sessions =
      if (stores.saveRemoteIdentity recipientId now identityKey).1 then
        (stores.archiveAllSessionsForContact recipientId).sessions
      else stores.sessions := by
  obtain ⟨-, h⟩ | ⟨existingIdentity, -, -, h⟩ | ⟨existingIdentity, -, -, h⟩ :=
    saveRemoteIdentity_cases stores recipientId now identityKey
  · rw [h]
    rfl
  · rw [h]
    rfl
  · rw [h]
    rfl

@[simp] theorem trustedKeys_saveRemoteIdentity (identityKey : Option NSData) :
    (stores.saveRemoteIdentity recipientId now identityKey).2.trustedKeys recipientId =
      identityKey := by
  obtain ⟨-, h⟩ | ⟨existingIdentity, -, -, h⟩ | ⟨existingIdentity, -, -, h⟩ :=
    saveRemoteIdentity_cases stores recipientId now identityKey
  · simp [h, saveFirstIdentity, saveIdentity, clearSyncMessage, saveTrustedKey]
  · simp [h, replaceIdentity, saveIdentity, clearSyncMessage, saveTrustedKey,
      archiveAllSessionsForContact]
  · simp [h, saveTrustedKey]

/-- **The identity saved is the identity held.** -/
theorem identities_saveRemoteIdentity (identityKey : Option NSData) :
    ∃ identity, (stores.saveRemoteIdentity recipientId now identityKey).2.identities recipientId =
      some identity ∧ identity.identityKey = identityKey := by
  obtain ⟨-, h⟩ | ⟨existingIdentity, -, -, h⟩ | ⟨existingIdentity, hidentity, hequal, h⟩ :=
    saveRemoteIdentity_cases stores recipientId now identityKey
  · simp [h, saveFirstIdentity, saveIdentity, clearSyncMessage]
  · simp [h, replaceIdentity, saveIdentity, clearSyncMessage, archiveAllSessionsForContact]
  · obtain ⟨d, hd, hkey⟩ := isEqualToData_eq_true.mp hequal
    refine ⟨existingIdentity, by simp [h, saveTrustedKey, hidentity], ?_⟩
    rw [hd, hkey]

end

theorem isTrustedIdentityKey_saveRemoteIdentity {key : NSData}
    (h : stores.isTrustedIdentityKey recipientId now (some key) .outgoing = true) :
    (stores.saveRemoteIdentity recipientId now (some key)).2.isTrustedIdentityKey recipientId now
      (some key) .outgoing = true := by
  have hframe := saveRemoteIdentity_frame stores recipientId now (some key)
  unfold isTrustedIdentityKey at h ⊢
  rw [hframe.localNumber, hframe.identityKeyPair]
  split
  · rename_i hself
    rwa [if_pos hself] at h
  · rename_i hself
    rw [if_neg hself] at h
    dsimp only at h ⊢
    obtain ⟨-, hsave⟩ | ⟨existingIdentity, hidentity, hequal, -⟩ |
        ⟨existingIdentity, hidentity, hequal, hsave⟩ :=
      saveRemoteIdentity_cases stores recipientId now (some key)
    · simp [hsave, saveFirstIdentity, saveIdentity, clearSyncMessage, isTrustedKey]
    · simp [isTrustedKey, hidentity, hequal] at h
    · rw [hsave]
      exact h

def RecordsIdentity (stores : Stores) (recipientId : String) (identityKey : NSData) : Prop :=
  (∃ identity ∈ stores.identities recipientId, identity.identityKey = some identityKey) ∧
    stores.trustedKeys recipientId = some identityKey

/-- **Saving an identity leaves the stores alone exactly when it was already
recorded.** -/
theorem saveRemoteIdentity_eq_self {key : NSData} :
    (stores.saveRemoteIdentity recipientId now (some key)).2 = stores ↔
      stores.RecordsIdentity recipientId key := by
  unfold RecordsIdentity
  constructor
  · intro h
    obtain ⟨identity, hidentity, hkey⟩ :=
      identities_saveRemoteIdentity stores recipientId now key
    have htrusted := trustedKeys_saveRemoteIdentity stores recipientId now (some key)
    rw [h] at hidentity htrusted
    exact ⟨⟨identity, hidentity, hkey⟩, htrusted⟩
  · rintro ⟨⟨identity, hidentity, hkey⟩, htrusted⟩
    have hstored : stores.identities recipientId = some identity := hidentity
    have hequal : isEqualToData identity.identityKey (some key) = true :=
      isEqualToData_eq_true.mpr ⟨key, hkey, rfl⟩
    have hsame : stores.saveTrustedKey recipientId (some key) = stores := by
      ext contact d : 3
      · rfl
      · rfl
      · by_cases hcontact : contact = recipientId
        · simp [saveTrustedKey, hcontact, htrusted]
        · simp [saveTrustedKey, hcontact]
      all_goals rfl
    simp [saveRemoteIdentity, hstored, hequal, hsame]

end Lemmas

end Stores

end ObjcSwiftLearning.SignalServiceKit
