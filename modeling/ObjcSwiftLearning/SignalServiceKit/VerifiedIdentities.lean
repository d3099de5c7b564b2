import ObjcSwiftLearning.SignalServiceKit.VerificationSync

/-!
# What a verified identity is

Three operations write the verification state of a recipient, and each of them may
replace the key: saving an identity, setting the state here, and a sync message from one
of our linked devices.  They call one another and return early in places of their own.

* `Stores.throwsProcessIncomingSyncMessage` — a sync message, which overwrites a key that
  conflicts when it says "verified", and is dropped when it says "default".
* `Step.cases` — **what an operation does to a recipient**: nothing, a change of the key,
  or a setting of the state for a key that is stored from then on.
* `verified_means_this_key` — **a verified key was verified**, by the last operation that
  changed anything, and a key that replaces one that was verified is not, until the state
  is set for the key then stored.
-/

namespace ObjcSwiftLearning.SignalServiceKit

open AxolotlKit

/-! ## Sync messages -/

inductive SSKProtoVerifiedState where
  | default
  | verified
  | unverified
  deriving DecidableEq

/-- `SSKProtoVerified`, less the padding. -/
structure SSKProtoVerified where
  destination : String
  identityKey : Option NSData
  state : SSKProtoVerifiedState
  deriving DecidableEq

def kStoredIdentityKeyLength : ℕ := 32

namespace Stores

variable (stores : Stores)

/-- What `tryToApplyVerificationStateFromSyncMessage:…` does with the identity it has
saved. -/
def applyVerificationState (recipientId : String) (verificationState : OWSVerificationState)
    (identityKey : NSData) : Stores :=
  match stores.identities recipientId with
  | none => stores
  | some recipientIdentity =>
      if !isEqualToData recipientIdentity.identityKey (some identityKey) then stores
      else if recipientIdentity.verificationState = verificationState then stores
      else stores.updateVerificationState recipientId verificationState

/-- `tryToApplyVerificationStateFromSyncMessage:recipientId:identityKey:overwriteOnConflict:transaction:`. -/
def tryToApplyVerificationStateFromSyncMessage (now : ℤ)
    (verificationState : OWSVerificationState) (recipientId : String) (identityKey : NSData)
    (overwriteOnConflict : Bool) : Stores :=
  if recipientId.length < 1 then stores
  else if identityKey.length ≠ kStoredIdentityKeyLength then stores
  else
    match stores.identities recipientId with
    | none =>
        -- there is no point in a new identity just to set it to default
        if verificationState = .default then stores
        else
          let saved := (stores.saveRemoteIdentity recipientId now (some identityKey)).2
          saved.applyVerificationState recipientId verificationState identityKey
    | some recipientIdentity =>
        if !isEqualToData recipientIdentity.identityKey (some identityKey) then
          if overwriteOnConflict then
            let saved := (stores.saveRemoteIdentity recipientId now (some identityKey)).2
            saved.applyVerificationState recipientId verificationState identityKey
          else stores
        else if recipientIdentity.verificationState = verificationState then stores
        else stores.updateVerificationState recipientId verificationState

def identityKeyForRecipientId (recipientId : String) : Option NSData :=
  (stores.identities recipientId).bind (·.identityKey)

def throwsProcessIncomingSyncMessage (now : ℤ) (verified : SSKProtoVerified) :
    Except Failure Stores := do
  if verified.destination.length < 1 then return stores
  else
    let rawIdentityKey := verified.identityKey.getD []
    if rawIdentityKey.length ≠ kIdentityKeyLength then return stores
    else
      let identityKey ← throwsRemoveKeyType rawIdentityKey
      match verified.state with
      | .default =>
          return stores.tryToApplyVerificationStateFromSyncMessage now .default
            verified.destination identityKey false
      | .verified =>
          return stores.tryToApplyVerificationStateFromSyncMessage now .verified
            verified.destination identityKey true
      | .unverified => return stores

end Stores

/-! ## Operations on identities -/

inductive IdentityOperation where
  | saveRemoteIdentity (recipientId : String) (identityKey : NSData)
  | setVerificationState (recipientId : String) (verificationState : OWSVerificationState)
      (identityKey : NSData) (isUserInitiatedChange : Bool)
  | incomingSyncMessage (verified : SSKProtoVerified)

namespace IdentityOperation

/-- What an operation leaves; a sync message that raises leaves the stores as they were. -/
def apply (now : ℤ) (stores : Stores) : IdentityOperation → Stores
  | .saveRemoteIdentity recipientId identityKey =>
      (stores.saveRemoteIdentity recipientId now (some identityKey)).2
  | .setVerificationState recipientId verificationState identityKey isUserInitiatedChange =>
      stores.setVerificationState recipientId now verificationState identityKey
        isUserInitiatedChange
  | .incomingSyncMessage verified =>
      match stores.throwsProcessIncomingSyncMessage now verified with
      | .ok changed => changed
      | .error _ => stores

def Step (stores : Stores) (operation : IdentityOperation) (stores' : Stores) : Prop :=
  ∃ now, operation.apply now stores = stores'

/-- The operation is a setting of the recipient's state, naming a key. -/
def Sets (recipientId : String) (verificationState : OWSVerificationState)
    (identityKey : NSData) : IdentityOperation → Prop
  | .saveRemoteIdentity _ _ => False
  | .setVerificationState recipient state key _ =>
      recipient = recipientId ∧ state = verificationState ∧ key = identityKey
  | .incomingSyncMessage verified =>
      verified.destination = recipientId ∧
        (∃ rawIdentityKey, verified.identityKey = some rawIdentityKey ∧
          throwsRemoveKeyType rawIdentityKey = .ok identityKey) ∧
        (verified.state = .default ∧ verificationState = .default ∨
          verified.state = .verified ∧ verificationState = .verified)

end IdentityOperation

/-! ## What is done to a recipient -/

namespace Stores

variable {stores : Stores} {recipientId : String} {now : ℤ} {identityKey : NSData}
  {verificationState : OWSVerificationState}

theorem isEqualToData_eq_decide (key : Option NSData) (data : NSData) :
    isEqualToData key (some data) = decide (key = some data) := by
  cases key with
  | none => rfl
  | some other =>
      rw [Bool.eq_iff_iff]
      simp [isEqualToData]

def savedVerification (identityKey : NSData) :
    Option (OWSVerificationState × Option NSData) → OWSVerificationState × Option NSData
  | none => (.default, some identityKey)
  | some (verificationState, key) =>
      if key = some identityKey then (verificationState, key)
      else (replacedVerificationState verificationState, some identityKey)

theorem savedVerification_snd
    (verification : Option (OWSVerificationState × Option NSData)) :
    (savedVerification identityKey verification).2 = some identityKey := by
  unfold savedVerification
  split
  · rfl
  · split
    · assumption
    · rfl

theorem verification_saveRemoteIdentity :
    (stores.saveRemoteIdentity recipientId now (some identityKey)).2.verification recipientId =
      some (savedVerification identityKey (stores.verification recipientId)) := by
  obtain ⟨hnone, h⟩ | ⟨existingIdentity, hidentity, hequal, h⟩ |
      ⟨existingIdentity, hidentity, hequal, h⟩ :=
    saveRemoteIdentity_cases stores recipientId now (some identityKey)
  · simp [h, verification, saveFirstIdentity, saveIdentity, clearSyncMessage, hnone,
      savedVerification]
  · rw [isEqualToData_eq_decide, decide_eq_false_iff_not] at hequal
    simp [h, verification, replaceIdentity, saveIdentity, clearSyncMessage,
      archiveAllSessionsForContact, hidentity, savedVerification, hequal]
  · rw [isEqualToData_eq_decide, decide_eq_true_iff] at hequal
    simp [h, verification, saveTrustedKey, hidentity, savedVerification, hequal]

theorem verification_updateVerificationState
    {verification : OWSVerificationState × Option NSData}
    (h : stores.verification recipientId = some verification) :
    (stores.updateVerificationState recipientId verificationState).verification recipientId =
      some (verificationState, verification.2) := by
  obtain ⟨recipientIdentity, hidentity, rfl⟩ := Option.map_eq_some_iff.mp h
  simp [Stores.verification, updateVerificationState, hidentity, saveIdentity]

theorem verification_updateVerificationState_of_ne {other : String} (hne : other ≠ recipientId) :
    (stores.updateVerificationState recipientId verificationState).verification other =
      stores.verification other := by
  unfold updateVerificationState
  split
  · rfl
  · simp [verification, saveIdentity, hne]

/-- The end of a sync message that has saved its key. -/
theorem verification_applyVerificationState {verification : OWSVerificationState × Option NSData}
    (h : stores.verification recipientId = some verification)
    (hkey : verification.2 = some identityKey) :
    (stores.applyVerificationState recipientId verificationState identityKey).verification
        recipientId =
      some (verificationState, some identityKey) := by
  obtain ⟨recipientIdentity, hidentity, rfl⟩ := Option.map_eq_some_iff.mp h
  have hequal : isEqualToData recipientIdentity.identityKey (some identityKey) = true := by
    rw [isEqualToData_eq_decide, decide_eq_true_iff]
    exact hkey
  simp only [applyVerificationState, hidentity, hequal,
    Bool.not_true, Bool.false_eq_true, if_false]
  split
  · rename_i hstate
    rw [h, ← hstate, ← hkey]
  · rw [verification_updateVerificationState h, ← hkey]

theorem verification_applyVerificationState_of_ne {other : String} (hne : other ≠ recipientId) :
    (stores.applyVerificationState recipientId verificationState identityKey).verification other =
      stores.verification other := by
  unfold applyVerificationState
  split
  · rfl
  · split
    · rfl
    · split
      · rfl
      · exact verification_updateVerificationState_of_ne hne

/-- **A sync message is dropped, or leaves its state and key.** -/
theorem verification_tryToApply (stores : Stores) (now : ℤ)
    (verificationState : OWSVerificationState) (recipientId : String) (identityKey : NSData)
    (overwriteOnConflict : Bool) :
    (stores.tryToApplyVerificationStateFromSyncMessage now verificationState recipientId
        identityKey overwriteOnConflict).verification recipientId =
          stores.verification recipientId ∨
      (stores.tryToApplyVerificationStateFromSyncMessage now verificationState recipientId
        identityKey overwriteOnConflict).verification recipientId =
          some (verificationState, some identityKey) := by
  have hsaved : ((stores.saveRemoteIdentity recipientId now
      (some identityKey)).2.applyVerificationState recipientId verificationState
        identityKey).verification recipientId = some (verificationState, some identityKey) :=
    verification_applyVerificationState verification_saveRemoteIdentity (savedVerification_snd _)
  unfold tryToApplyVerificationStateFromSyncMessage
  split
  · exact .inl rfl
  split
  · exact .inl rfl
  split
  · split
    · exact .inl rfl
    · exact .inr hsaved
  · rename_i recipientIdentity hidentity
    split
    · split
      · exact .inr hsaved
      · exact .inl rfl
    · split
      · exact .inl rfl
      · rename_i hequal _
        rw [isEqualToData_eq_decide] at hequal
        have hverification : stores.verification recipientId =
            some (recipientIdentity.verificationState, recipientIdentity.identityKey) := by
          rw [verification, hidentity]
          rfl
        refine .inr ?_
        rw [verification_updateVerificationState hverification]
        simpa using hequal

theorem verification_tryToApply_of_ne {other : String} {overwriteOnConflict : Bool}
    (hne : other ≠ recipientId) :
    (stores.tryToApplyVerificationStateFromSyncMessage now verificationState recipientId
        identityKey overwriteOnConflict).verification other = stores.verification other := by
  have hsaved := (@saveRemoteIdentity_of_ne stores recipientId other now (some identityKey) hne).1
  unfold tryToApplyVerificationStateFromSyncMessage
  split
  · rfl
  split
  · rfl
  split
  · split
    · rfl
    · exact (verification_applyVerificationState_of_ne hne).trans hsaved
  · split
    · split
      · exact (verification_applyVerificationState_of_ne hne).trans hsaved
      · rfl
    · split
      · rfl
      · exact verification_updateVerificationState_of_ne hne

end Stores

namespace IdentityOperation

variable {stores stores' start : Stores} {operation : IdentityOperation}
  {operations : List IdentityOperation} {recipientId : String} {identityKey : NSData}

/-- **What an operation does to a recipient.** -/
theorem Step.cases (h : Step stores operation stores') (recipientId : String) :
    stores'.verification recipientId = stores.verification recipientId ∨
      (∃ identityKey, operation = .saveRemoteIdentity recipientId identityKey ∧
        stores'.verification recipientId =
          some (Stores.savedVerification identityKey (stores.verification recipientId))) ∨
      ∃ verificationState identityKey,
        operation.Sets recipientId verificationState identityKey ∧
          stores'.verification recipientId = some (verificationState, some identityKey) := by
  obtain ⟨now, rfl⟩ := h
  cases operation with
  | saveRemoteIdentity recipient identityKey =>
      by_cases hne : recipientId = recipient
      · subst hne
        exact .inr (.inl ⟨identityKey, rfl, Stores.verification_saveRemoteIdentity⟩)
      · exact .inl (@Stores.saveRemoteIdentity_of_ne stores recipient recipientId now
          (some identityKey) hne).1
  | setVerificationState recipient verificationState identityKey isUserInitiatedChange =>
      by_cases hne : recipientId = recipient
      · subst hne
        exact .inr (.inr ⟨verificationState, identityKey, ⟨rfl, rfl, rfl⟩,
          Stores.verification_setVerificationState⟩)
      · exact .inl (Stores.setVerificationState_of_ne hne).1
  | incomingSyncMessage verified =>
      simp only [apply, Stores.throwsProcessIncomingSyncMessage]
      split
      · rename_i changed hprocess
        split at hprocess
        · obtain rfl := Except.ok.inj hprocess
          exact .inl rfl
        split at hprocess
        · obtain rfl := Except.ok.inj hprocess
          exact .inl rfl
        rename_i hlength
        obtain ⟨rawIdentityKey, hraw⟩ : ∃ rawIdentityKey,
            verified.identityKey = some rawIdentityKey := by
          cases hkey : verified.identityKey with
          | none => simp [hkey, kIdentityKeyLength] at hlength
          | some rawIdentityKey => exact ⟨rawIdentityKey, rfl⟩
        rw [hraw, Option.getD_some] at hprocess
        cases hremove : throwsRemoveKeyType rawIdentityKey with
        | error e =>
            rw [hremove] at hprocess
            cases hprocess
        | ok identityKey =>
            rw [hremove, ok_bind] at hprocess
            -- the message names the key, and what it says of its own destination
            have hnames : ∃ key, verified.identityKey = some key ∧
                throwsRemoveKeyType key = .ok identityKey := ⟨_, hraw, hremove⟩
            by_cases hne : recipientId = verified.destination
            · subst hne
              cases hstate : verified.state with
              | default =>
                  rw [hstate] at hprocess
                  obtain rfl := Except.ok.inj hprocess
                  refine (stores.verification_tryToApply now .default _ identityKey
                    false).imp_right fun hset => .inr ⟨_, _, ⟨rfl, hnames, ?_⟩, hset⟩
                  exact .inl ⟨hstate, rfl⟩
              | verified =>
                  rw [hstate] at hprocess
                  obtain rfl := Except.ok.inj hprocess
                  refine (stores.verification_tryToApply now .verified _ identityKey
                    true).imp_right fun hset => .inr ⟨_, _, ⟨rfl, hnames, ?_⟩, hset⟩
                  exact .inr ⟨hstate, rfl⟩
              | unverified =>
                  rw [hstate] at hprocess
                  obtain rfl := Except.ok.inj hprocess
                  exact .inl rfl
            · refine .inl ?_
              cases hstate : verified.state with
              | default | verified =>
                  rw [hstate] at hprocess
                  obtain rfl := Except.ok.inj hprocess
                  exact Stores.verification_tryToApply_of_ne hne
              | unverified =>
                  rw [hstate] at hprocess
                  obtain rfl := Except.ok.inj hprocess
                  rfl
      · exact .inl rfl

/-! ## Runs -/

/-- An operation that leaves a recipient's state and key alone. -/
def StepKeeping (recipientId : String) (stores : Stores) (operation : IdentityOperation)
    (stores' : Stores) : Prop :=
  Step stores operation stores' ∧
    stores'.verification recipientId = stores.verification recipientId

/-- In the run there is a last operation that changed the recipient's state or key, and it
is one of `p`. -/
def LastChangedBy (recipientId : String) (p : IdentityOperation → Prop) (start : Stores)
    (operations : List IdentityOperation) (stores : Stores) : Prop :=
  ∃ earlier operation later before after, operations = earlier ++ operation :: later ∧
    LabelledRun Step start earlier before ∧
    Step before operation after ∧
    after.verification recipientId ≠ before.verification recipientId ∧
    LabelledRun (StepKeeping recipientId) after later stores ∧ p operation

/-- An operation that is no setting of the recipient's state for the key that is stored
then. -/
def StepNotSetting (recipientId : String) (stores : Stores) (operation : IdentityOperation)
    (stores' : Stores) : Prop :=
  Step stores operation stores' ∧
    ∀ verificationState identityKey, operation.Sets recipientId verificationState identityKey →
      stores'.identityKeyForRecipientId recipientId ≠ some identityKey

theorem savedVerification_eq_verified
    {verification : Option (OWSVerificationState × Option NSData)} {key : Option NSData}
    (h : Stores.savedVerification identityKey verification = (.verified, key)) :
    verification = some (.verified, key) := by
  unfold Stores.savedVerification at h
  split at h
  · cases h
  · rename_i verificationState key'
    split at h
    · rw [h]
    · cases verificationState <;> cases h

/-- **A verified key was verified.** -/
theorem lastChangedBy_of_verified (run : LabelledRun Step start operations stores)
    (hstart : ∀ key, start.verification recipientId ≠ some (.verified, key))
    (hverified : stores.verification recipientId = some (.verified, some identityKey)) :
    LastChangedBy recipientId (Sets recipientId .verified identityKey) start operations
      stores := by
  induction run with
  | refl => exact absurd hverified (hstart _)
  | @tail operations operation before after run last ih =>
      by_cases hkept : after.verification recipientId = before.verification recipientId
      · obtain ⟨earlier, changing, later, s, s', rfl, hearlier, hstep, hchanged, hlater, hsets⟩ :=
          ih (hkept.symm.trans hverified)
        refine ⟨earlier, changing, later ++ [operation], s, s', ?_, hearlier, hstep, hchanged,
          hlater.tail ⟨last, hkept⟩, hsets⟩
        rw [List.append_assoc, List.cons_append]
      · refine ⟨operations, operation, [], before, after, rfl, run, last, hkept, .refl, ?_⟩
        obtain hsame | ⟨key, rfl, hsaved⟩ | ⟨verificationState, key, hsets, hset⟩ :=
          last.cases recipientId
        · exact absurd hsame hkept
        · have hbefore := savedVerification_eq_verified
            (Option.some.inj (hsaved.symm.trans hverified))
          exact absurd (hverified.trans hbefore.symm) hkept
        · rw [hset, Option.some.injEq, Prod.mk.injEq, Option.some.injEq] at hverified
          obtain ⟨rfl, rfl⟩ := hverified
          exact hsets

theorem noLongerVerified_of_replaced {verificationState : OWSVerificationState}
    {previousKey : NSData}
    (hbefore : stores.verification recipientId = some (verificationState, some previousKey))
    (hstate : verificationState ≠ .default) (hne : previousKey ≠ identityKey)
    (h : Step stores (.saveRemoteIdentity recipientId identityKey) stores') :
    stores'.verification recipientId = some (.noLongerVerified, some identityKey) := by
  obtain ⟨now, rfl⟩ := h
  rw [apply, Stores.verification_saveRemoteIdentity, hbefore, Stores.savedVerification,
    if_neg (fun heq => hne (Option.some.inj heq))]
  cases verificationState with
  | default => exact absurd rfl hstate
  | verified | noLongerVerified => rfl

/-- And stays so until it is set for the key stored then. -/
theorem noLongerVerified_of_run
    (run : LabelledRun (StepNotSetting recipientId) start operations stores)
    (hstart : ∃ key, start.verification recipientId = some (.noLongerVerified, key)) :
    ∃ key, stores.verification recipientId = some (.noLongerVerified, key) := by
  refine run.invariant (I := fun _ stores =>
    ∃ key, stores.verification recipientId = some (.noLongerVerified, key)) hstart ?_
  rintro _ before operation after ⟨key, hbefore⟩ ⟨last, hsetting⟩
  obtain hsame | ⟨saved, rfl, hsaved⟩ | ⟨verificationState, named, hsets, hset⟩ :=
    last.cases recipientId
  · exact ⟨key, hsame.trans hbefore⟩
  · rw [hsaved, hbefore, Stores.savedVerification]
    split
    · exact ⟨key, rfl⟩
    · exact ⟨some saved, rfl⟩
  · refine absurd ?_ (hsetting _ _ hsets)
    obtain ⟨recipientIdentity, hidentity, hpair⟩ := Option.map_eq_some_iff.mp hset
    rw [Stores.identityKeyForRecipientId, hidentity]
    exact (Prod.mk.inj hpair).2

/-- **Verified means this key was verified.** -/
theorem verified_means_this_key (recipientId : String) :
    (∀ start operations stores identityKey, LabelledRun Step start operations stores →
      (∀ key, start.verification recipientId ≠ some (.verified, key)) →
      stores.verification recipientId = some (.verified, some identityKey) →
      LastChangedBy recipientId (Sets recipientId .verified identityKey) start operations
        stores) ∧
    ∀ stores verificationState previousKey identityKey replaced operations stores',
      stores.verification recipientId = some (verificationState, some previousKey) →
      verificationState ≠ .default → previousKey ≠ identityKey →
      Step stores (.saveRemoteIdentity recipientId identityKey) replaced →
      replaced.verification recipientId = some (.noLongerVerified, some identityKey) ∧
        (LabelledRun (StepNotSetting recipientId) replaced operations stores' →
          ∃ key, stores'.verification recipientId = some (.noLongerVerified, key)) := by
  refine ⟨fun _ _ _ _ run => lastChangedBy_of_verified run, ?_⟩
  intro stores verificationState previousKey identityKey replaced operations stores' hbefore
    hstate hne hreplaced
  have hafter := noLongerVerified_of_replaced hbefore hstate hne hreplaced
  exact ⟨hafter, fun run => noLongerVerified_of_run run ⟨_, hafter⟩⟩

def verifiedContact : Stores where
  sessions _ _ := none
  identities recipientId :=
    if recipientId = "+1" then
      some
        { identityKey := some [1]
          isFirstKnownKey := true
          createdAt := 0
          verificationState := .verified }
    else none
  trustedKeys _ := none
  queuedVerificationStateSyncMessages _ := none
  preKeys _ := none
  signedPreKeys _ := none
  identityKeyPair := none
  localNumber := none
  localRegistrationId := 0

theorem noLongerVerified_after_two_changes :
    ∃ key, ((IdentityOperation.saveRemoteIdentity "+1" [3]).apply 9
      ((IdentityOperation.saveRemoteIdentity "+1" [2]).apply 5 verifiedContact)).verification
        "+1" = some (.noLongerVerified, key) := by
  refine ((verified_means_this_key "+1").2 verifiedContact .verified [1] [2] _
    [.saveRemoteIdentity "+1" [3]] _ rfl nofun (by decide) ⟨5, rfl⟩).2 ?_
  exact .single ⟨⟨9, rfl⟩, nofun⟩

end IdentityOperation

end ObjcSwiftLearning.SignalServiceKit
