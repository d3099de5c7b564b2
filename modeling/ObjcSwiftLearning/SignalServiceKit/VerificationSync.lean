import ObjcSwiftLearning.Library.LabelledRun
import ObjcSwiftLearning.SignalServiceKit.Stores

/-!
# Telling our linked devices whom we have verified

A user-initiated change of a verification state is queued, by recipient id alone,
and a drain of the queue reads the state and key of each recipient there and sends
them: first a null message to the recipient, to cover what follows, and after its
success the sync message to our own devices.  The success of that one takes the
recipient off the queue.

The drains run side by side with each other and with new changes, so several
messages for one recipient may be under way at once.

* `queuedUnlessSynced` — **what becomes of a change**: as long as a recipient's
  state and key are not changed while a message for it is under way, an entry is
  taken off the queue by a sync only when the message carried them, or when the
  recipient turned out not to be registered, and no user-initiated change is left
  both unsynced and unqueued.
* `clearedByStaleMessage` — what the condition is about: the success of a message
  takes the entry of a later change off the queue as well.
-/

namespace ObjcSwiftLearning.SignalServiceKit

open AxolotlKit

def kIdentityKeyLength : ℕ := 33

structure OWSVerificationStateSyncMessage where
  verificationState : OWSVerificationState
  identityKey : NSData
  verificationForRecipientId : String
  deriving DecidableEq

/-! ## The identity manager's part -/

namespace Stores

variable (stores : Stores) (recipientId : String)

/-- `enqueueSyncMessageForVerificationStateForRecipientId:transaction:`. -/
def enqueueSyncMessage : Stores :=
  { stores with
    queuedVerificationStateSyncMessages := fun key =>
      if key = recipientId then some recipientId
      else stores.queuedVerificationStateSyncMessages key }

def isQueued : Bool := (stores.queuedVerificationStateSyncMessages recipientId).isSome

/-- `setVerificationState:…` changes the state it finds once the key is saved. -/
def changesVerificationState (now : ℤ) (verificationState : OWSVerificationState)
    (identityKey : NSData) : Bool :=
  match (stores.saveRemoteIdentity recipientId now (some identityKey)).2.identities recipientId with
  | none => false
  | some recipientIdentity => recipientIdentity.verificationState != verificationState

def updateVerificationState (verificationState : OWSVerificationState) : Stores :=
  match stores.identities recipientId with
  | none => stores
  | some recipientIdentity =>
      stores.saveIdentity recipientId { recipientIdentity with verificationState }

/-- `setVerificationState:identityKey:recipientId:isUserInitiatedChange:transaction:`. -/
def setVerificationState (now : ℤ) (verificationState : OWSVerificationState)
    (identityKey : NSData) (isUserInitiatedChange : Bool) : Stores :=
  let saved := (stores.saveRemoteIdentity recipientId now (some identityKey)).2
  if stores.changesVerificationState recipientId now verificationState identityKey then
    let updated := saved.updateVerificationState recipientId verificationState
    if isUserInitiatedChange then updated.enqueueSyncMessage recipientId
    else updated.clearSyncMessage recipientId
  else saved

/-- The recipient's verification state and identity key. -/
def verification : Option (OWSVerificationState × Option NSData) :=
  (stores.identities recipientId).map fun recipientIdentity =>
    (recipientIdentity.verificationState, recipientIdentity.identityKey)

/-- The sync message a drain makes for a recipient of the queue, unless it skips it. -/
def syncMessage : Option OWSVerificationStateSyncMessage :=
  match stores.identities recipientId with
  | none => none
  | some recipientIdentity =>
      if recipientId.length < 1 then none
      else
        match recipientIdentity.identityKey.map prependKeyType with
        | none => none
        | some identityKey =>
            if identityKey.length ≠ kIdentityKeyLength then none
            -- other clients see for themselves that it is no longer verified
            else if recipientIdentity.verificationState = .noLongerVerified then none
            else
              some
                { verificationState := recipientIdentity.verificationState
                  identityKey
                  verificationForRecipientId := recipientId }

/-- The message carries the state and key the recipient has now. -/
def isCurrent (message : OWSVerificationStateSyncMessage) : Bool :=
  (stores.verification message.verificationForRecipientId).any fun verification =>
    verification.1 == message.verificationState &&
      verification.2.map prependKeyType == some message.identityKey

end Stores

/-! ## Drains, messages and their answers -/

/-- A run of `syncQueuedVerificationStates` that has read the queue: the recipients
whose identity it has yet to read, and the messages made so far. -/
structure Drain where
  recipientIds : List String
  messages : List OWSVerificationStateSyncMessage

/-- The stores, the drains, and the messages handed to the message sender that have
no answer yet. -/
structure VerificationSync where
  stores : Stores
  drains : List Drain
  nullMessages : List OWSVerificationStateSyncMessage
  syncMessages : List OWSVerificationStateSyncMessage
  /-- Not of the code: the last change of the recipient's state and key was made by
  the user, and neither has a message carrying them succeeded since nor was the
  recipient given up. -/
  unsynced : String → Bool

namespace VerificationSync

/-- What happens, in the order of the transactions. -/
inductive Event where
  | setVerificationState (recipientId : String) (verificationState : OWSVerificationState)
      (identityKey : NSData) (isUserInitiatedChange : Bool)
  | saveRemoteIdentity (recipientId : String) (identityKey : NSData)
  | queueRead
  | recipientRead
  | messagesSent
  | nullMessageSucceeded (message : OWSVerificationStateSyncMessage)
  | nullMessageFailed (message : OWSVerificationStateSyncMessage) (noSuchSignalRecipient : Bool)
  | syncMessageSucceeded (message : OWSVerificationStateSyncMessage)
  | syncMessageFailed (message : OWSVerificationStateSyncMessage)

/-- What a sync does, as opposed to a change of an identity. -/
def Event.IsOfSync : Event → Prop
  | .setVerificationState _ _ _ _ | .saveRemoteIdentity _ _ => False
  | _ => True

variable (sync : VerificationSync)

/-- The stores are changed to `stores`; the change leaves recipients `unsynced` that
the user made it for. -/
def withStores (stores : Stores) (recipientId : String) (byUser : Bool) : VerificationSync :=
  { sync with
    stores
    unsynced := fun key =>
      if key = recipientId then
        byUser ||
          sync.unsynced key && stores.verification key == sync.stores.verification key
      else sync.unsynced key }

/-- `clearSyncMessageForRecipientId:transaction:` after an answer; `settled` when the
recipient has been synced or given up. -/
def clear (recipientId : String) (settled : Bool) : VerificationSync :=
  { sync with
    stores := sync.stores.clearSyncMessage recipientId
    unsynced := fun key => if key = recipientId && settled then false else sync.unsynced key }

inductive Step : VerificationSync → Event → VerificationSync → Prop
  | setVerificationState {sync : VerificationSync} (recipientId : String) (now : ℤ)
      (verificationState : OWSVerificationState) (identityKey : NSData)
      (isUserInitiatedChange : Bool) :
      Step sync
        (.setVerificationState recipientId verificationState identityKey isUserInitiatedChange)
        (sync.withStores
          (sync.stores.setVerificationState recipientId now verificationState identityKey
            isUserInitiatedChange)
          recipientId
          (isUserInitiatedChange &&
            sync.stores.changesVerificationState recipientId now verificationState identityKey))
  | saveRemoteIdentity {sync : VerificationSync} (recipientId : String) (now : ℤ)
      (identityKey : NSData) :
      Step sync (.saveRemoteIdentity recipientId identityKey)
        (sync.withStores
          (sync.stores.saveRemoteIdentity recipientId now (some identityKey)).2 recipientId false)
  | queueRead {sync : VerificationSync} {recipientIds : List String}
      (enumerated : ∀ recipientId, recipientId ∈ recipientIds ↔
        sync.stores.isQueued recipientId = true) (once : recipientIds.Nodup) :
      Step sync .queueRead { sync with drains := sync.drains ++ [⟨recipientIds, []⟩] }
  | recipientRead {sync : VerificationSync} {before after : List Drain} {recipientId : String}
      {recipientIds : List String} {messages : List OWSVerificationStateSyncMessage}
      (drain : sync.drains = before ++ ⟨recipientId :: recipientIds, messages⟩ :: after) :
      Step sync .recipientRead
        { sync with
          drains := before ++
            ⟨recipientIds, messages ++ (sync.stores.syncMessage recipientId).toList⟩ :: after }
  | messagesSent {sync : VerificationSync} {before after : List Drain}
      {messages : List OWSVerificationStateSyncMessage}
      (drain : sync.drains = before ++ ⟨[], messages⟩ :: after) :
      Step sync .messagesSent
        { sync with
          drains := before ++ after
          nullMessages := sync.nullMessages ++ messages }
  | nullMessageSucceeded {sync : VerificationSync} {message : OWSVerificationStateSyncMessage}
      (sent : message ∈ sync.nullMessages) :
      Step sync (.nullMessageSucceeded message)
        { sync with
          nullMessages := sync.nullMessages.erase message
          syncMessages := sync.syncMessages ++ [message] }
  | nullMessageFailed {sync : VerificationSync} {message : OWSVerificationStateSyncMessage}
      (sent : message ∈ sync.nullMessages) :
      Step sync (.nullMessageFailed message false)
        { sync with nullMessages := sync.nullMessages.erase message }
  | noSuchSignalRecipient {sync : VerificationSync} {message : OWSVerificationStateSyncMessage}
      (sent : message ∈ sync.nullMessages) :
      Step sync (.nullMessageFailed message true)
        ({ sync with nullMessages := sync.nullMessages.erase message }.clear
          message.verificationForRecipientId true)
  | syncMessageSucceeded {sync : VerificationSync} {message : OWSVerificationStateSyncMessage}
      (sent : message ∈ sync.syncMessages) :
      Step sync (.syncMessageSucceeded message)
        ({ sync with syncMessages := sync.syncMessages.erase message }.clear
          message.verificationForRecipientId (sync.stores.isCurrent message))
  | syncMessageFailed {sync : VerificationSync} {message : OWSVerificationStateSyncMessage}
      (sent : message ∈ sync.syncMessages) :
      Step sync (.syncMessageFailed message)
        { sync with syncMessages := sync.syncMessages.erase message }

/-- The messages made and not yet answered. -/
def underWay : List OWSVerificationStateSyncMessage :=
  sync.drains.flatMap (·.messages) ++ sync.nullMessages ++ sync.syncMessages

/-- The step to `sync'` leaves the recipient's state and key alone while a message for
it is under way. -/
def LeavesUnderWay (recipientId : String) (sync' : VerificationSync) : Prop :=
  sync'.stores.verification recipientId ≠ sync.stores.verification recipientId →
    ∀ message ∈ sync.underWay, message.verificationForRecipientId ≠ recipientId

/-- Nothing is under way, and nothing is known of the recipients' changes. -/
structure Idle : Prop where
  drains : sync.drains = []
  nullMessages : sync.nullMessages = []
  syncMessages : sync.syncMessages = []
  unsynced : ∀ recipientId, sync.unsynced recipientId = false

/-! ## What the identity manager does to the queue -/

end VerificationSync

namespace Stores

variable {stores : Stores} {recipientId : String} {verificationState : OWSVerificationState}
  {identityKey : NSData}

theorem isCurrent_of_syncMessage {message : OWSVerificationStateSyncMessage}
    (h : stores.syncMessage recipientId = some message) :
    message.verificationForRecipientId = recipientId ∧ stores.isCurrent message = true := by
  unfold syncMessage at h
  cases hidentity : stores.identities recipientId with
  | none => simp [hidentity] at h
  | some recipientIdentity =>
      simp only [hidentity] at h
      cases hkey : recipientIdentity.identityKey.map prependKeyType with
      | none => simp [hkey] at h
      | some identityKey =>
          simp only [hkey, Option.ite_none_left_eq_some, Option.some.injEq] at h
          obtain ⟨-, -, -, rfl⟩ := h
          refine ⟨rfl, ?_⟩
          simp [isCurrent, verification, hidentity, hkey]

/-- Saving a key touches the queue and the identity of no one else. -/
theorem saveRemoteIdentity_of_ne {key : String} (now : ℤ) (identityKey : Option NSData)
    (hne : key ≠ recipientId) :
    let saved := (stores.saveRemoteIdentity recipientId now identityKey).2
    saved.verification key = stores.verification key ∧ saved.isQueued key = stores.isQueued key := by
  obtain ⟨-, h⟩ | ⟨existingIdentity, -, -, h⟩ | ⟨existingIdentity, -, -, h⟩ :=
    saveRemoteIdentity_cases stores recipientId now identityKey
  · simp [h, verification, isQueued, saveFirstIdentity, saveIdentity, clearSyncMessage,
      saveTrustedKey, hne]
  · simp [h, verification, isQueued, replaceIdentity, saveIdentity, clearSyncMessage,
      saveTrustedKey, archiveAllSessionsForContact, hne]
  · simp [h, verification, isQueued, saveTrustedKey]

theorem isQueued_saveRemoteIdentity (now : ℤ) (identityKey : NSData)
    (hsame : (stores.saveRemoteIdentity recipientId now (some identityKey)).2.verification
      recipientId = stores.verification recipientId) :
    (stores.saveRemoteIdentity recipientId now (some identityKey)).2.isQueued recipientId =
      stores.isQueued recipientId := by
  obtain ⟨hnone, h⟩ | ⟨existingIdentity, hidentity, hequal, h⟩ | ⟨existingIdentity, -, -, h⟩ :=
    saveRemoteIdentity_cases stores recipientId now (some identityKey)
  · simp [h, verification, saveFirstIdentity, saveIdentity, clearSyncMessage, hnone] at hsame
  · simp only [h, verification, replaceIdentity, saveIdentity, clearSyncMessage,
      archiveAllSessionsForContact, hidentity, if_true, Option.map_some, Option.some.injEq,
      Prod.mk.injEq] at hsame
    have hkey : isEqualToData existingIdentity.identityKey (some identityKey) = true :=
      isEqualToData_eq_true.mpr ⟨identityKey, hsame.2.symm, rfl⟩
    rw [hequal] at hkey
    exact absurd hkey (by simp)
  · simp [h, isQueued, saveTrustedKey]

variable {isUserInitiatedChange : Bool}

/-- **Setting the state leaves that state and key**, whatever was there. -/
theorem verification_setVerificationState {now : ℤ} :
    (stores.setVerificationState recipientId now verificationState identityKey
        isUserInitiatedChange).verification recipientId =
      some (verificationState, some identityKey) := by
  obtain ⟨identity, hidentity, hkey⟩ :=
    identities_saveRemoteIdentity stores recipientId now identityKey
  unfold setVerificationState
  dsimp only
  split
  · cases isUserInitiatedChange <;>
      simp [verification, updateVerificationState, hidentity, saveIdentity, clearSyncMessage,
        enqueueSyncMessage, hkey]
  · rename_i hsame
    have hstate : identity.verificationState = verificationState := by
      simpa [changesVerificationState, hidentity] using hsame
    simp [verification, hidentity, hstate, hkey]

theorem verification_setVerificationState_ne {now : ℤ}
    (hchanges : stores.changesVerificationState recipientId now verificationState identityKey =
      true) :
    (stores.setVerificationState recipientId now verificationState identityKey
        isUserInitiatedChange).verification recipientId ≠ stores.verification recipientId := by
  rw [verification_setVerificationState]
  intro hbefore
  obtain ⟨identity, hidentity, hpair⟩ := Option.map_eq_some_iff.mp hbefore.symm
  obtain ⟨hstate, hkey⟩ := Prod.mk.inj hpair
  have hequal : isEqualToData identity.identityKey (some identityKey) = true :=
    isEqualToData_eq_true.mpr ⟨identityKey, hkey, rfl⟩
  simp [changesVerificationState, saveRemoteIdentity, hidentity, hequal, saveTrustedKey,
    hstate] at hchanges

theorem setVerificationState_of_ne {key : String} {now : ℤ} (hne : key ≠ recipientId) :
    let changed := stores.setVerificationState recipientId now verificationState identityKey
      isUserInitiatedChange
    changed.verification key = stores.verification key ∧
      changed.isQueued key = stores.isQueued key := by
  have hsaved := @saveRemoteIdentity_of_ne stores recipientId key now (some identityKey) hne
  dsimp only at hsaved ⊢
  rw [← hsaved.1, ← hsaved.2, setVerificationState]
  generalize (stores.saveRemoteIdentity recipientId now (some identityKey)).2 = saved
  cases saved.identities recipientId <;> cases isUserInitiatedChange <;> split <;>
    simp [*, verification, isQueued, updateVerificationState, saveIdentity, clearSyncMessage,
      enqueueSyncMessage] <;>
    grind

end Stores

namespace VerificationSync

/-! ## What holds of a recipient whose messages are left alone -/

variable {sync sync' : VerificationSync} {recipientId : String} {event : Event}

/-- The messages under way for the recipient are current, and a change of the user's
not synced is queued. -/
structure Keeps (sync : VerificationSync) (recipientId : String) : Prop where
  current : ∀ message ∈ sync.underWay, message.verificationForRecipientId = recipientId →
    sync.stores.isCurrent message = true
  queued : sync.unsynced recipientId = true → sync.stores.isQueued recipientId = true

theorem Idle.keeps (h : sync.Idle) : sync.Keeps recipientId where
  current := by simp [underWay, h.drains, h.nullMessages, h.syncMessages]
  queued := by simp [h.unsynced recipientId]

/-- A change of an identity that leaves the recipient's messages under way alone, and
its entry unless the state or key changes. -/
theorem Keeps.withStores {stores : Stores} {changed : String} {byUser : Bool}
    (h : sync.Keeps recipientId)
    (leaves : sync.LeavesUnderWay recipientId (sync.withStores stores changed byUser))
    (hother : recipientId ≠ changed →
      stores.isQueued recipientId = sync.stores.isQueued recipientId)
    (huser : recipientId = changed → byUser = true → stores.isQueued recipientId = true)
    (hsame : recipientId = changed →
      stores.verification recipientId = sync.stores.verification recipientId →
        stores.isQueued recipientId = sync.stores.isQueued recipientId ∨
          stores.isQueued recipientId = true) :
    (sync.withStores stores changed byUser).Keeps recipientId where
  current := by
    intro message hmessage hrecipient
    by_cases hverification :
        stores.verification recipientId = sync.stores.verification recipientId
    · have hcurrent := h.current message hmessage hrecipient
      subst hrecipient
      have hsame : stores.isCurrent message = sync.stores.isCurrent message := by
        rw [Stores.isCurrent, Stores.isCurrent, hverification]
      exact hsame.trans hcurrent
    · exact absurd hrecipient (leaves hverification message hmessage)
  queued := by
    show (if recipientId = changed then _ else _) = true → stores.isQueued recipientId = true
    split
    · rename_i heq
      rw [Bool.or_eq_true, Bool.and_eq_true, beq_iff_eq]
      rintro (hbyUser | ⟨hunsynced, hverification⟩)
      · exact huser heq hbyUser
      · rcases hsame heq hverification with hqueued | hqueued
        · exact hqueued.trans (h.queued hunsynced)
        · exact hqueued
    · rename_i hne
      intro hunsynced
      exact (hother hne).trans (h.queued hunsynced)

/-- Taking `cleared` off the queue keeps the entries of the unsynced. -/
theorem Keeps.clear {cleared : String} {settled : Bool} (h : sync.Keeps recipientId)
    (hsettled : cleared = recipientId → settled = true) :
    (sync.clear cleared settled).Keeps recipientId where
  current := by
    intro message hmessage hrecipient
    exact h.current message hmessage hrecipient
  queued := by
    show (if _ then _ else _) = true →
      ((sync.stores.clearSyncMessage cleared).isQueued recipientId) = true
    by_cases heq : recipientId = cleared
    · simp [heq, hsettled heq.symm]
    · have hqueue : (sync.stores.clearSyncMessage cleared).isQueued recipientId =
          sync.stores.isQueued recipientId := by
        simp [Stores.isQueued, Stores.clearSyncMessage, heq]
      rw [hqueue]
      simpa [heq] using h.queued

theorem Keeps.of_underWay {drains : List Drain}
    {nullMessages syncMessages : List OWSVerificationStateSyncMessage} (h : sync.Keeps recipientId)
    (hsub : ∀ message ∈ ({ sync with drains, nullMessages, syncMessages } :
      VerificationSync).underWay, message ∈ sync.underWay ∨ sync.stores.isCurrent message = true) :
    ({ sync with drains, nullMessages, syncMessages } : VerificationSync).Keeps recipientId where
  current := by
    intro message hmessage hrecipient
    rcases hsub message hmessage with hold | hcurrent
    · exact h.current message hold hrecipient
    · exact hcurrent
  queued := h.queued

theorem mem_underWay {message : OWSVerificationStateSyncMessage} :
    message ∈ sync.underWay ↔
      (∃ drain ∈ sync.drains, message ∈ drain.messages) ∨ message ∈ sync.nullMessages ∨
        message ∈ sync.syncMessages := by
  simp [underWay]

/-- **What one step keeps**, if it leaves the recipient's messages under way alone. -/
theorem Step.keeps (h : Step sync event sync') (leaves : sync.LeavesUnderWay recipientId sync')
    (keeps : sync.Keeps recipientId) : sync'.Keeps recipientId := by
  cases h with
  | setVerificationState changed now verificationState identityKey isUserInitiatedChange =>
      apply keeps.withStores leaves
      · exact fun hne => (Stores.setVerificationState_of_ne hne).2
      · rintro rfl hbyUser
        rw [Bool.and_eq_true] at hbyUser
        obtain ⟨rfl, hchanges⟩ := hbyUser
        simp [Stores.setVerificationState, hchanges, Stores.isQueued, Stores.enqueueSyncMessage]
      · rintro rfl hsame
        cases hchanges : sync.stores.changesVerificationState recipientId now verificationState
            identityKey with
        | true => exact absurd hsame (Stores.verification_setVerificationState_ne hchanges)
        | false =>
            simp only [Stores.setVerificationState, hchanges] at hsame ⊢
            exact .inl (Stores.isQueued_saveRemoteIdentity now identityKey hsame)
  | saveRemoteIdentity changed now identityKey =>
      apply keeps.withStores leaves
      · exact fun hne => (Stores.saveRemoteIdentity_of_ne now (some identityKey) hne).2
      · exact fun _ hbyUser => absurd hbyUser (by simp)
      · rintro rfl hsame
        exact .inl (Stores.isQueued_saveRemoteIdentity now identityKey hsame)
  | queueRead enumerated once =>
      apply keeps.of_underWay
      intro message hmessage
      simp only [mem_underWay, List.mem_append, List.mem_singleton, or_and_right, exists_or,
        exists_eq_left, List.not_mem_nil, or_false] at hmessage ⊢
      exact .inl hmessage
  | @recipientRead before after read recipientIds messages drain =>
      apply keeps.of_underWay
      intro message hmessage
      simp only [mem_underWay, drain, List.mem_append, List.mem_cons, or_and_right, exists_or,
        exists_eq_left, Option.mem_toList] at hmessage ⊢
      -- A message that has just been made is of the state that is stored.
      rcases hmessage with (hbefore | (hmade | hread) | hafter) | hsent
      · exact .inl (.inl (.inl hbefore))
      · exact .inl (.inl (.inr (.inl hmade)))
      · exact .inr (Stores.isCurrent_of_syncMessage hread).2
      · exact .inl (.inl (.inr (.inr hafter)))
      · exact .inl (.inr hsent)
  | @messagesSent before after messages drain =>
      apply keeps.of_underWay
      intro message hmessage
      simp only [mem_underWay, drain, List.mem_append, List.mem_cons, or_and_right, exists_or,
        exists_eq_left] at hmessage ⊢
      rcases hmessage with (hbefore | hafter) | (hnull | hmade) | hsync
      · exact .inl (.inl (.inl hbefore))
      · exact .inl (.inl (.inr (.inr hafter)))
      · exact .inl (.inr (.inl hnull))
      · exact .inl (.inl (.inr (.inl hmade)))
      · exact .inl (.inr (.inr hsync))
  | nullMessageSucceeded sent =>
      apply keeps.of_underWay
      intro other hother
      simp only [mem_underWay, List.mem_append, List.mem_singleton] at hother ⊢
      rcases hother with hdrain | hnull | hsync | rfl
      · exact .inl (.inl hdrain)
      · exact .inl (.inr (.inl (List.mem_of_mem_erase hnull)))
      · exact .inl (.inr (.inr hsync))
      · exact .inl (.inr (.inl sent))
  | nullMessageFailed sent =>
      apply keeps.of_underWay
      intro other hother
      simp only [mem_underWay] at hother ⊢
      exact .inl (hother.imp_right (Or.imp_left List.mem_of_mem_erase))
  | noSuchSignalRecipient sent =>
      apply Keeps.clear _ fun _ => rfl
      apply keeps.of_underWay
      intro other hother
      simp only [mem_underWay] at hother ⊢
      exact .inl (hother.imp_right (Or.imp_left List.mem_of_mem_erase))
  | @syncMessageSucceeded message sent =>
      -- A sync message that is under way is of the state that is stored, so its success clears no
      -- other.
      have hcurrent : message.verificationForRecipientId = recipientId →
          sync.stores.isCurrent message = true :=
        keeps.current message (mem_underWay.mpr (.inr (.inr sent)))
      apply Keeps.clear _ hcurrent
      apply keeps.of_underWay
      intro other hother
      simp only [mem_underWay] at hother ⊢
      exact .inl (hother.imp_right (Or.imp_right List.mem_of_mem_erase))
  | syncMessageFailed sent =>
      apply keeps.of_underWay
      intro other hother
      simp only [mem_underWay] at hother ⊢
      exact .inl (hother.imp_right (Or.imp_right List.mem_of_mem_erase))

theorem Step.dequeues (h : Step sync event sync') (ofSync : event.IsOfSync)
    (hbefore : sync.stores.isQueued recipientId = true)
    (hafter : sync'.stores.isQueued recipientId = false) :
    (∃ message, event = .nullMessageFailed message true ∧
        message.verificationForRecipientId = recipientId) ∨
      ∃ message ∈ sync.syncMessages, event = .syncMessageSucceeded message ∧
        message.verificationForRecipientId = recipientId := by
  have hcleared : ∀ cleared, (sync.stores.clearSyncMessage cleared).isQueued recipientId = false →
      cleared = recipientId := by
    intro cleared hnone
    by_contra hne
    have hqueue : (sync.stores.clearSyncMessage cleared).isQueued recipientId =
        sync.stores.isQueued recipientId := by
      simp [Stores.isQueued, Stores.clearSyncMessage, Ne.symm hne]
    rw [hqueue, hbefore] at hnone
    exact absurd hnone (by simp)
  cases h with
  | setVerificationState => exact absurd ofSync id
  | saveRemoteIdentity => exact absurd ofSync id
  | noSuchSignalRecipient sent => exact .inl ⟨_, rfl, hcleared _ hafter⟩
  | syncMessageSucceeded sent => exact .inr ⟨_, sent, rfl, hcleared _ hafter⟩
  | _ => exact absurd (hbefore.symm.trans hafter) (by simp)

/-- **The last verification state is the one synced**, in every run that leaves a
recipient's state and key alone while a message for it is under way: a sync takes the
recipient off the queue by the success of a message that carries them, or because
there is no such recipient, and what is not synced is queued. -/
theorem queuedUnlessSynced {start : VerificationSync} {events : List Event} (idle : start.Idle)
    (h : LabelledRun (fun sync event sync' =>
      Step sync event sync' ∧ sync.LeavesUnderWay recipientId sync') start events sync) :
    (∀ event sync', Step sync event sync' → event.IsOfSync →
      sync.stores.isQueued recipientId = true → sync'.stores.isQueued recipientId = false →
        (∃ message, event = .nullMessageFailed message true ∧
            message.verificationForRecipientId = recipientId) ∨
          ∃ message, event = .syncMessageSucceeded message ∧
            message.verificationForRecipientId = recipientId ∧
            sync.stores.isCurrent message = true) ∧
      (sync.unsynced recipientId = true → sync.stores.isQueued recipientId = true) := by
  have keeps : sync.Keeps recipientId :=
    h.invariant (I := fun _ sync => sync.Keeps recipientId) idle.keeps
      fun _ _ _ _ keeps step => step.1.keeps step.2 keeps
  refine ⟨?_, keeps.queued⟩
  intro event sync' step ofSync hbefore hafter
  rcases step.dequeues ofSync hbefore hafter with hgone | ⟨message, hsent, hevent, hrecipient⟩
  · exact .inl hgone
  · exact .inr ⟨message, hevent, hrecipient,
      keeps.current message (mem_underWay.mpr (.inr (.inr hsent))) hrecipient⟩

/-! ## Two runs -/

/-- Nothing is known of anybody. -/
def new : VerificationSync where
  stores :=
    { sessions := fun _ _ => none
      identities := fun _ => none
      trustedKeys := fun _ => none
      queuedVerificationStateSyncMessages := fun _ => none
      preKeys := fun _ => none
      signedPreKeys := fun _ => none
      identityKeyPair := none
      localNumber := none
      localRegistrationId := 0 }
  drains := []
  nullMessages := []
  syncMessages := []
  unsynced := fun _ => false

theorem idle_new : new.Idle := ⟨rfl, rfl, rfl, fun _ => rfl⟩

def contactVerified (recipientId : String) (identityKey : NSData) : VerificationSync :=
  new.withStores (new.stores.setVerificationState recipientId 0 .verified identityKey true)
    recipientId true

theorem isQueued_contactVerified (recipientId key : String) (identityKey : NSData) :
    (contactVerified recipientId identityKey).stores.isQueued key = true ↔ key = recipientId := by
  by_cases heq : key = recipientId <;>
    simp [contactVerified, withStores, Stores.setVerificationState, Stores.changesVerificationState,
      new, Stores.saveRemoteIdentity, Stores.saveFirstIdentity, Stores.saveIdentity,
      Stores.saveTrustedKey, Stores.clearSyncMessage, Stores.isQueued, Stores.enqueueSyncMessage,
      Stores.updateVerificationState, heq]

def verifiedMessage : OWSVerificationStateSyncMessage :=
  ⟨.verified, prependKeyType (List.replicate 32 7), "+15550001"⟩

/-- The null message for the contact verified is out. -/
def nullMessageOut : VerificationSync :=
  { contactVerified "+15550001" (List.replicate 32 7) with nullMessages := [verifiedMessage] }

theorem run_nullMessageOut :
    LabelledRun (fun sync event sync' => Step sync event sync' ∧
      sync.LeavesUnderWay "+15550001" sync') new
      [.setVerificationState "+15550001" .verified (List.replicate 32 7) true, .queueRead,
        .recipientRead, .messagesSent] nullMessageOut := by
  let verified := contactVerified "+15550001" (List.replicate 32 7)
  have changed : Step new (.setVerificationState _ _ _ true) verified :=
    .setVerificationState _ 0 .verified _ true
  have queueRead : Step verified .queueRead { verified with drains := [⟨["+15550001"], []⟩] } :=
    .queueRead (fun key => by rw [isQueued_contactVerified, List.mem_singleton]) (by simp)
  have made : verified.stores.syncMessage "+15550001" = some verifiedMessage := by decide
  have recipientRead : Step { verified with drains := [⟨["+15550001"], []⟩] } .recipientRead
      { verified with drains := [⟨[], [verifiedMessage]⟩] } := by
    have step := @Step.recipientRead { verified with drains := [⟨["+15550001"], []⟩] } [] []
      "+15550001" [] [] rfl
    simpa only [made, Option.toList_some, List.nil_append] using step
  have messagesSent : Step { verified with drains := [⟨[], [verifiedMessage]⟩] } .messagesSent
      nullMessageOut := @Step.messagesSent _ [] [] [verifiedMessage] rfl
  exact (((LabelledRun.single ⟨changed, fun _ _ hmessage => by simp [underWay, new] at hmessage⟩).tail
    ⟨queueRead, fun hne => absurd rfl hne⟩).tail ⟨recipientRead, fun hne => absurd rfl hne⟩).tail
    ⟨messagesSent, fun hne => absurd rfl hne⟩

/-- A recipient found not to be registered is taken off the queue with nothing synced;
and the success of a message takes off the queue a change made since. -/
theorem clearedByStaleMessage :
    (∃ events sync sync' message, LabelledRun Step new events sync ∧
      Step sync (.nullMessageFailed message true) sync' ∧
      sync.stores.isQueued message.verificationForRecipientId = true ∧
      sync'.stores.isQueued message.verificationForRecipientId = false ∧
      ∀ message, .syncMessageSucceeded message ∉ events) ∧
    (∃ events sync sync' message, LabelledRun Step new events sync ∧
      Step sync (.syncMessageSucceeded message) sync' ∧
      sync.stores.isQueued message.verificationForRecipientId = true ∧
      sync'.stores.isQueued message.verificationForRecipientId = false ∧
      sync.stores.isCurrent message = false ∧
      sync'.unsynced message.verificationForRecipientId = true) := by
  have run := run_nullMessageOut.mono fun _ _ _ step => step.1
  have hout : verifiedMessage ∈ nullMessageOut.nullMessages := List.mem_singleton.mpr rfl
  refine ⟨⟨_, _, _, verifiedMessage, run, .noSuchSignalRecipient hout, by decide, by decide,
    by simp⟩, ?_⟩
  -- the user changes his mind while the sync message is out
  have again := (run.tail (.nullMessageSucceeded hout)).tail
    (.setVerificationState "+15550001" 0 .default (List.replicate 32 7) true)
  exact ⟨_, _, _, verifiedMessage, again, .syncMessageSucceeded (List.mem_singleton.mpr rfl),
    by decide, by decide, by decide, by decide⟩

/-- The sync message that succeeds carries the state and key of the contact verified. -/
theorem synced_of_contactVerified :
    let out := { nullMessageOut with nullMessages := [], syncMessages := [verifiedMessage] }
    (out.unsynced "+15550001" = true → out.stores.isQueued "+15550001" = true) ∧
      out.stores.isCurrent verifiedMessage = true := by
  intro out
  have sent : Step nullMessageOut (.nullMessageSucceeded verifiedMessage) out :=
    .nullMessageSucceeded (List.mem_singleton.mpr rfl)
  obtain ⟨dequeues, queued⟩ := queuedUnlessSynced idle_new
    (run_nullMessageOut.tail ⟨sent, fun hne => absurd rfl hne⟩)
  refine ⟨queued, ?_⟩
  obtain ⟨_, ⟨⟩, -⟩ | ⟨message, hevent, -, hcurrent⟩ := dequeues _ _
    (.syncMessageSucceeded (List.mem_singleton.mpr rfl)) trivial (by decide) (by decide)
  cases hevent
  exact hcurrent

end VerificationSync

end ObjcSwiftLearning.SignalServiceKit
