import ObjcSwiftLearning.Library.Dictionary

/-!
# Outgoing messages and the states of their recipients

`TSOutgoingMessage` keeps a state for each recipient; what the message as a whole
is — sending, failed, sent — is read off them.  Every update goes through
`applyChangeToSelfAndLatestCopy:`, so an update is a function of the message.

* `messageState_eq_sent` — a message is sent when every recipient is sent to or
  skipped, a message without recipients among them.
* The lookup lemmas beside each update say what it does to each recipient.
* `Advances` — no recipient comes or goes, and who has been sent to or skipped stays
  so: what every update of a send does.

Messages of before there were recipient states are left out, and with them what
`hasLegacyMessageState` changes.
-/

namespace ObjcSwiftLearning.SignalServiceKit

inductive OWSOutgoingMessageRecipientState where
  | failed
  | sending
  | skipped
  | sent
  deriving DecidableEq

/-- `TSOutgoingMessageState`, less the values kept for legacy messages. -/
inductive TSOutgoingMessageState where
  | sending
  | failed
  | sent
  deriving DecidableEq

structure TSOutgoingMessageRecipientState where
  state : OWSOutgoingMessageRecipientState
  deliveryTimestamp : Option ℕ
  readTimestamp : Option ℕ
  wasSentByUD : Bool
  deriving DecidableEq

namespace TSOutgoingMessageRecipientState

/-- `[TSOutgoingMessageRecipientState new]`, its state set. -/
def ofState (state : OWSOutgoingMessageRecipientState) : TSOutgoingMessageRecipientState where
  state
  deliveryTimestamp := none
  readTimestamp := none
  wasSentByUD := false

variable (recipientState : TSOutgoingMessageRecipientState)

def replaceState (before after : OWSOutgoingMessageRecipientState) :
    TSOutgoingMessageRecipientState :=
  if recipientState.state = before then { recipientState with state := after } else recipientState

/-- The state of a recipient to whom the message was delivered: sent, whatever it was. -/
def markDelivered (deliveryTimestamp : ℕ) : TSOutgoingMessageRecipientState :=
  { recipientState with
    state := .sent
    deliveryTimestamp := some deliveryTimestamp }

def markRead (readTimestamp : ℕ) : TSOutgoingMessageRecipientState :=
  { recipientState with
    state := .sent
    readTimestamp := some readTimestamp }

end TSOutgoingMessageRecipientState

open TSOutgoingMessageRecipientState

abbrev RecipientStateMap := AList fun _ : String => TSOutgoingMessageRecipientState

structure TSOutgoingMessage where
  uniqueId : String
  timestamp : ℕ
  recipientStateMap : RecipientStateMap
  isFromLinkedDevice : Bool
  hasSyncedTranscript : Bool

namespace TSOutgoingMessage

variable (message : TSOutgoingMessage)

/-- `initOutgoingMessageWithTimestamp:inThread:…`: the recipients are those of the
thread. -/
def initOutgoingMessage (uniqueId : String) (timestamp : ℕ) (recipientIds : List String) :
    TSOutgoingMessage where
  uniqueId
  timestamp
  recipientStateMap := AList.insertEach ∅ recipientIds (ofState .sending)
  isFromLinkedDevice := false
  hasSyncedTranscript := false

def recipientState (recipientId : String) : Option TSOutgoingMessageRecipientState :=
  message.recipientStateMap.lookup recipientId

def sendingRecipientIds : List String :=
  message.recipientStateMap.keysWhere fun recipientState => recipientState.state = .sending

def sentRecipientIds : List String :=
  message.recipientStateMap.keysWhere fun recipientState => recipientState.state = .sent

def wasSentToAnyRecipient : Bool := 0 < message.sentRecipientIds.length

def sentRecipientsCount : ℕ :=
  message.recipientStateMap.entries.countP fun entry => entry.snd.state = .sent

/-- `messageStateForRecipientStates:`; `hasFailed` is what the loop has seen so far. -/
def messageStateForRecipientStates (hasFailed : Bool) :
    List TSOutgoingMessageRecipientState → TSOutgoingMessageState
  | [] => if hasFailed then .failed else .sent
  | recipientState :: recipientStates =>
      if recipientState.state = .sending then .sending
      else
        messageStateForRecipientStates (hasFailed || recipientState.state = .failed)
          recipientStates

def messageState : TSOutgoingMessageState :=
  messageStateForRecipientStates false (message.recipientStateMap.entries.map (·.snd))

/-! ## Updates -/

/-- `updateWithSendingError:transaction:` and
`updateWithAllSendingRecipientsMarkedAsFailedWithTansaction:`. -/
def updateWithAllSendingRecipientsMarkedAsFailed : TSOutgoingMessage :=
  { message with
    recipientStateMap := message.recipientStateMap.mapValues fun _ recipientState =>
      recipientState.replaceState .sending .failed }

def updateWithMarkingAllUnsentRecipientsAsSending : TSOutgoingMessage :=
  { message with
    recipientStateMap := message.recipientStateMap.mapValues fun _ recipientState =>
      recipientState.replaceState .failed .sending }

def updateWithHasSyncedTranscript (hasSyncedTranscript : Bool) : TSOutgoingMessage :=
  { message with hasSyncedTranscript }

def updateWithSentRecipient (recipientId : String) (wasSentByUD : Bool) : TSOutgoingMessage :=
  { message with
    recipientStateMap := message.recipientStateMap.modify recipientId fun recipientState =>
      { recipientState with
        state := .sent
        wasSentByUD } }

def updateWithSkippedRecipient (recipientId : String) : TSOutgoingMessage :=
  { message with
    recipientStateMap := message.recipientStateMap.modify recipientId fun recipientState =>
      { recipientState with state := .skipped } }

def updateWithDeliveredRecipient (recipientId : String) (deliveryTimestamp : ℕ) :
    TSOutgoingMessage :=
  { message with
    recipientStateMap := message.recipientStateMap.modify recipientId fun recipientState =>
      recipientState.markDelivered deliveryTimestamp }

def updateWithReadRecipientId (recipientId : String) (readTimestamp : ℕ) : TSOutgoingMessage :=
  { message with
    recipientStateMap := message.recipientStateMap.modify recipientId fun recipientState =>
      recipientState.markRead readTimestamp }

def sentRecipientStates (udRecipientIds nonUdRecipientIds : List String) : RecipientStateMap :=
  (AList.insertNew ∅ udRecipientIds { ofState .sent with wasSentByUD := true }).insertNew
    nonUdRecipientIds (ofState .sent)

def updateWithWasSentFromLinkedDevice (udRecipientIds nonUdRecipientIds : List String) :
    TSOutgoingMessage :=
  if 0 < udRecipientIds.length ∨ 0 < nonUdRecipientIds.length then
    { message with
      recipientStateMap := sentRecipientStates udRecipientIds nonUdRecipientIds
      isFromLinkedDevice := true }
  else
    { message with
      recipientStateMap := message.recipientStateMap.mapValues fun _ recipientState =>
        recipientState.replaceState .sending .sent
      isFromLinkedDevice := true }

end TSOutgoingMessage

/-! ## What the updates do -/

namespace TSOutgoingMessage

variable {message : TSOutgoingMessage} {recipientId other : String}

theorem recipientState_initOutgoingMessage {uniqueId : String} {timestamp : ℕ}
    {recipientIds : List String} :
    (initOutgoingMessage uniqueId timestamp recipientIds).recipientState recipientId =
      if recipientId ∈ recipientIds then some (ofState .sending) else none :=
  AList.lookup_insertEach

@[simp] theorem recipientState_updateWithReadRecipientId {readTimestamp : ℕ} :
    (message.updateWithReadRecipientId recipientId readTimestamp).recipientState recipientId =
      (message.recipientState recipientId).map (·.markRead readTimestamp) :=
  AList.lookup_modify

theorem recipientState_updateWithReadRecipientId_of_ne {readTimestamp : ℕ}
    (h : other ≠ recipientId) :
    (message.updateWithReadRecipientId recipientId readTimestamp).recipientState other =
      message.recipientState other :=
  AList.lookup_modify_of_ne h

theorem lookup_sentRecipientStates {udRecipientIds nonUdRecipientIds : List String} :
    (sentRecipientStates udRecipientIds nonUdRecipientIds).lookup recipientId =
      if recipientId ∈ udRecipientIds ∨ recipientId ∈ nonUdRecipientIds then
        some { ofState .sent with wasSentByUD := recipientId ∈ udRecipientIds }
      else none := by
  rw [sentRecipientStates, AList.lookup_insertNew, AList.lookup_insertNew, AList.lookup_empty]
  by_cases hud : recipientId ∈ udRecipientIds
  · simp [hud]
  · by_cases hnonUd : recipientId ∈ nonUdRecipientIds <;> simp [hud, hnonUd, ofState]

end TSOutgoingMessage

/-! ## Settled recipients -/

/-- There is nothing more to send to the recipient. -/
def TSOutgoingMessageRecipientState.IsSettled (recipientState : TSOutgoingMessageRecipientState) :
    Prop :=
  recipientState.state = .sent ∨ recipientState.state = .skipped

instance (recipientState : TSOutgoingMessageRecipientState) : Decidable recipientState.IsSettled :=
  inferInstanceAs (Decidable (_ ∨ _))

namespace TSOutgoingMessage

/-- The recipient has been sent to, or is skipped. -/
def IsSettled (message : TSOutgoingMessage) (recipientId : String) : Prop :=
  ∃ recipientState, message.recipientState recipientId = some recipientState ∧
    recipientState.IsSettled

/-- The recipient is settled, or none of the message's. -/
def IsDone (message : TSOutgoingMessage) (recipientId : String) : Prop :=
  ∀ recipientState, message.recipientState recipientId = some recipientState →
    recipientState.IsSettled

/-- Every recipient has been sent to, or is skipped. -/
def AllSettled (message : TSOutgoingMessage) : Prop :=
  ∀ recipientId, message.IsDone recipientId

/-- No recipient is in the state failed. -/
def NoneFailed (message : TSOutgoingMessage) : Prop :=
  ∀ recipientId recipientState, message.recipientState recipientId = some recipientState →
    recipientState.state ≠ .failed

variable {message message' message'' : TSOutgoingMessage} {recipientId : String}
  {f : String → TSOutgoingMessageRecipientState → TSOutgoingMessageRecipientState}

theorem messageStateForRecipientStates_eq_sent {hasFailed : Bool}
    {recipientStates : List TSOutgoingMessageRecipientState} :
    messageStateForRecipientStates hasFailed recipientStates = .sent ↔
      hasFailed = false ∧ ∀ recipientState ∈ recipientStates, recipientState.IsSettled := by
  induction recipientStates generalizing hasFailed with
  | nil => cases hasFailed <;> simp [messageStateForRecipientStates]
  | cons recipientState recipientStates ih =>
      rw [messageStateForRecipientStates, List.forall_mem_cons]
      cases hstate : recipientState.state <;>
        simp [ih, TSOutgoingMessageRecipientState.IsSettled, hstate]

theorem messageState_eq_sent : message.messageState = .sent ↔ message.AllSettled := by
  rw [messageState, messageStateForRecipientStates_eq_sent]
  constructor
  · rintro ⟨-, h⟩ recipientId recipientState hlookup
    exact h _ (List.mem_map.mpr ⟨_, AList.mem_lookup_iff.mp hlookup, rfl⟩)
  · intro h
    refine ⟨rfl, fun recipientState hmem => ?_⟩
    obtain ⟨entry, hentry, rfl⟩ := List.mem_map.mp hmem
    exact h entry.fst entry.snd (AList.mem_lookup_iff.mpr hentry)

theorem mem_sendingRecipientIds :
    recipientId ∈ message.sendingRecipientIds ↔
      ∃ recipientState, message.recipientState recipientId = some recipientState ∧
        recipientState.state = .sending := by
  rw [sendingRecipientIds, AList.mem_keysWhere]
  simp only [recipientState, decide_eq_true_eq]

/-- Who is to be sent to is not settled. -/
theorem not_isSettled_of_mem_sendingRecipientIds (h : recipientId ∈ message.sendingRecipientIds) :
    ¬message.IsSettled recipientId := by
  obtain ⟨recipientState, hlookup, hsending⟩ := mem_sendingRecipientIds.mp h
  rintro ⟨settled, hsettled, hsent | hskipped⟩
  · rw [hlookup] at hsettled
    cases hsettled
    rw [hsending] at hsent
    cases hsent
  · rw [hlookup] at hsettled
    cases hsettled
    rw [hsending] at hskipped
    cases hskipped

/-- The recipients stay, and those settled stay settled. -/
structure Advances (message message' : TSOutgoingMessage) : Prop where
  isSome : ∀ recipientId,
    (message'.recipientState recipientId).isSome = (message.recipientState recipientId).isSome
  isSettled : ∀ recipientId, message.IsSettled recipientId → message'.IsSettled recipientId

namespace Advances

theorem refl (message : TSOutgoingMessage) : message.Advances message :=
  ⟨fun _ => rfl, fun _ => id⟩

theorem trans (h : message.Advances message') (h' : message'.Advances message'') :
    message.Advances message'' :=
  ⟨fun recipientId => (h'.isSome recipientId).trans (h.isSome recipientId),
    fun recipientId hsettled => h'.isSettled recipientId (h.isSettled recipientId hsettled)⟩

theorem isDone (h : message.Advances message') (hdone : message.IsDone recipientId) :
    message'.IsDone recipientId := by
  intro recipientState hlookup
  have hsome : (message.recipientState recipientId).isSome = true := by
    rw [← h.isSome, hlookup]
    rfl
  obtain ⟨before, hbefore⟩ := Option.isSome_iff_exists.mp hsome
  obtain ⟨after, hafter, hsettled⟩ := h.isSettled recipientId ⟨before, hbefore, hdone _ hbefore⟩
  rw [hlookup] at hafter
  cases hafter
  exact hsettled

theorem allSettled (h : message.Advances message') (hall : message.AllSettled) :
    message'.AllSettled :=
  fun recipientId => h.isDone (hall recipientId)

/-- Each recipient's state changed, and none of those that are settled unsettled. -/
theorem of_mapValues
    (hmap : message'.recipientStateMap = message.recipientStateMap.mapValues f)
    (keeps : ∀ recipientId recipientState, recipientState.IsSettled →
      (f recipientId recipientState).IsSettled) : message.Advances message' where
  isSome recipientId := by
    rw [recipientState, recipientState, hmap, AList.lookup_mapValues, Option.isSome_map]
  isSettled recipientId := by
    rintro ⟨recipientState, hlookup, hsettled⟩
    refine ⟨f recipientId recipientState, ?_, keeps _ _ hsettled⟩
    rw [TSOutgoingMessage.recipientState, hmap, AList.lookup_mapValues]
    exact congrArg (Option.map _) hlookup

end Advances

/-- What is found of a recipient whose state was settled by both changes, or by neither. -/
theorem Advances.mapValues {changed changed' : TSOutgoingMessage}
    (h : message.Advances message')
    (hmap : changed.recipientStateMap = message.recipientStateMap.mapValues f)
    (hmap' : changed'.recipientStateMap = message'.recipientStateMap.mapValues f)
    (alike : ∀ recipientId, (∀ recipientState, (f recipientId recipientState).IsSettled) ∨
      ∀ recipientState, (f recipientId recipientState).IsSettled ↔ recipientState.IsSettled) :
    changed.Advances changed' where
  isSome recipientId := by
    have hsome := h.isSome recipientId
    simp only [recipientState, hmap, hmap', AList.lookup_mapValues, Option.isSome_map] at hsome ⊢
    exact hsome
  isSettled recipientId := by
    rintro ⟨changedState, hlookup, hsettled⟩
    rw [recipientState, hmap, AList.lookup_mapValues, Option.map_eq_some_iff] at hlookup
    obtain ⟨before, hbefore, rfl⟩ := hlookup
    have hlookup' (after : TSOutgoingMessageRecipientState)
        (hafter : message'.recipientState recipientId = some after) :
        changed'.recipientState recipientId = some (f recipientId after) := by
      rw [recipientState, hmap', AList.lookup_mapValues]
      exact congrArg (Option.map _) hafter
    rcases alike recipientId with hall | hiff
    · have hsome : (message'.recipientState recipientId).isSome = true := by
        rw [h.isSome, recipientState, hbefore]
        rfl
      obtain ⟨after, hafter⟩ := Option.isSome_iff_exists.mp hsome
      exact ⟨_, hlookup' after hafter, hall after⟩
    · obtain ⟨after, hafter, hsettled'⟩ :=
        h.isSettled recipientId ⟨before, hbefore, (hiff before).mp hsettled⟩
      exact ⟨_, hlookup' after hafter, (hiff after).mpr hsettled'⟩

/-- One recipient settled in both. -/
theorem Advances.modify {changed changed' : TSOutgoingMessage}
    {g : TSOutgoingMessageRecipientState → TSOutgoingMessageRecipientState}
    (h : message.Advances message')
    (hmap : changed.recipientStateMap = message.recipientStateMap.modify recipientId g)
    (hmap' : changed'.recipientStateMap = message'.recipientStateMap.modify recipientId g)
    (settles : ∀ recipientState, (g recipientState).IsSettled) : changed.Advances changed' := by
  refine h.mapValues hmap hmap' fun other => ?_
  by_cases heq : other = recipientId
  · simp only [heq, if_true]
    exact .inl settles
  · exact .inr fun _ => by rw [if_neg heq]

theorem isSettled_replaceState {before after : OWSOutgoingMessageRecipientState}
    {recipientState : TSOutgoingMessageRecipientState}
    (hbefore : ¬(ofState before).IsSettled) (hafter : ¬(ofState after).IsSettled) :
    (recipientState.replaceState before after).IsSettled ↔ recipientState.IsSettled := by
  rw [replaceState]
  split
  · rename_i heq
    subst heq
    exact iff_of_false hafter hbefore
  · exact Iff.rfl

theorem NoneFailed.of_mapValues
    (h : message.NoneFailed)
    (hmap : message'.recipientStateMap = message.recipientStateMap.mapValues f)
    (keeps : ∀ recipientId recipientState, recipientState.state ≠ .failed →
      (f recipientId recipientState).state ≠ .failed) : message'.NoneFailed := by
  intro recipientId recipientState hlookup
  rw [TSOutgoingMessage.recipientState, hmap, AList.lookup_mapValues,
    Option.map_eq_some_iff] at hlookup
  obtain ⟨before, hbefore, rfl⟩ := hlookup
  exact keeps _ _ (h _ _ hbefore)

section Updates

variable (message : TSOutgoingMessage) (recipientId : String)

theorem advances_updateWithAllSendingRecipientsMarkedAsFailed :
    message.Advances message.updateWithAllSendingRecipientsMarkedAsFailed :=
  .of_mapValues rfl fun _ _ =>
    (isSettled_replaceState (by decide) (by decide)).mpr

theorem advances_updateWithMarkingAllUnsentRecipientsAsSending :
    message.Advances message.updateWithMarkingAllUnsentRecipientsAsSending :=
  .of_mapValues rfl fun _ _ =>
    (isSettled_replaceState (by decide) (by decide)).mpr

variable {message} in
theorem Advances.updateWithAllSendingRecipientsMarkedAsFailed (h : message.Advances message') :
    message.updateWithAllSendingRecipientsMarkedAsFailed.Advances
      message'.updateWithAllSendingRecipientsMarkedAsFailed :=
  h.mapValues rfl rfl fun _ => .inr fun _ =>
    isSettled_replaceState (by decide) (by decide)

theorem noneFailed_updateWithMarkingAllUnsentRecipientsAsSending :
    message.updateWithMarkingAllUnsentRecipientsAsSending.NoneFailed := by
  intro recipientId recipientState hlookup
  rw [updateWithMarkingAllUnsentRecipientsAsSending, TSOutgoingMessage.recipientState,
    AList.lookup_mapValues, Option.map_eq_some_iff] at hlookup
  obtain ⟨before, -, rfl⟩ := hlookup
  by_cases hfailed : before.state = .failed <;> simp [replaceState, hfailed]

theorem advances_updateWithSentRecipient (wasSentByUD : Bool) :
    message.Advances (message.updateWithSentRecipient recipientId wasSentByUD) := by
  refine .of_mapValues rfl fun other recipientState hsettled => ?_
  dsimp only
  split
  · exact .inl rfl
  · exact hsettled

theorem advances_updateWithSkippedRecipient :
    message.Advances (message.updateWithSkippedRecipient recipientId) := by
  refine .of_mapValues rfl fun other recipientState hsettled => ?_
  dsimp only
  split
  · exact .inr rfl
  · exact hsettled

theorem advances_updateWithReadRecipientId (readTimestamp : ℕ) :
    message.Advances (message.updateWithReadRecipientId recipientId readTimestamp) := by
  refine .of_mapValues rfl fun other recipientState hsettled => ?_
  dsimp only
  split
  · exact .inl rfl
  · exact hsettled

variable {message recipientId} {other : String} {wasSentByUD : Bool} {readTimestamp : ℕ}

theorem NoneFailed.updateWithSentRecipient (h : message.NoneFailed) :
    (message.updateWithSentRecipient recipientId wasSentByUD).NoneFailed := by
  refine h.of_mapValues rfl fun _ recipientState hne => ?_
  dsimp only
  split
  · nofun
  · exact hne

theorem NoneFailed.updateWithSkippedRecipient (h : message.NoneFailed) :
    (message.updateWithSkippedRecipient recipientId).NoneFailed := by
  refine h.of_mapValues rfl fun _ recipientState hne => ?_
  dsimp only
  split
  · nofun
  · exact hne

theorem NoneFailed.updateWithReadRecipientId (h : message.NoneFailed) :
    (message.updateWithReadRecipientId recipientId readTimestamp).NoneFailed := by
  refine h.of_mapValues rfl fun _ recipientState hne => ?_
  dsimp only
  split
  · nofun
  · exact hne

theorem isDone_updateWithSentRecipient :
    (message.updateWithSentRecipient recipientId wasSentByUD).IsDone recipientId := by
  intro recipientState hlookup
  rw [TSOutgoingMessage.recipientState, updateWithSentRecipient, AList.lookup_modify,
    Option.map_eq_some_iff] at hlookup
  obtain ⟨before, -, rfl⟩ := hlookup
  exact .inl rfl

theorem isDone_updateWithSkippedRecipient :
    (message.updateWithSkippedRecipient recipientId).IsDone recipientId := by
  intro recipientState hlookup
  rw [TSOutgoingMessage.recipientState, updateWithSkippedRecipient, AList.lookup_modify,
    Option.map_eq_some_iff] at hlookup
  obtain ⟨before, -, rfl⟩ := hlookup
  exact .inr rfl

theorem isDone_updateWithReadRecipientId :
    (message.updateWithReadRecipientId recipientId readTimestamp).IsDone recipientId := by
  intro recipientState hlookup
  rw [recipientState_updateWithReadRecipientId, Option.map_eq_some_iff] at hlookup
  obtain ⟨before, -, rfl⟩ := hlookup
  exact .inl rfl

/-- A change that unsettles no recipient and makes none fail, and does to an advanced
copy what it does to the message. -/
structure IsProgress (change : TSOutgoingMessage → TSOutgoingMessage) : Prop where
  advances : ∀ copy : TSOutgoingMessage, copy.Advances (change copy)
  noneFailed : ∀ copy : TSOutgoingMessage, copy.NoneFailed → (change copy).NoneFailed
  mono : ∀ copy copy' : TSOutgoingMessage, copy.Advances copy' →
    (change copy).Advances (change copy')

namespace IsProgress

theorem id : IsProgress id :=
  ⟨.refl, fun _ h => h, fun _ _ h => h⟩

theorem updateWithSentRecipient {wasSentByUD : Bool} :
    IsProgress fun copy => copy.updateWithSentRecipient recipientId wasSentByUD :=
  ⟨fun copy => copy.advances_updateWithSentRecipient recipientId wasSentByUD,
    fun _ => .updateWithSentRecipient,
    fun _ _ h => h.modify rfl rfl fun _ => .inl rfl⟩

theorem updateWithSkippedRecipient :
    IsProgress fun copy => copy.updateWithSkippedRecipient recipientId :=
  ⟨fun copy => copy.advances_updateWithSkippedRecipient recipientId,
    fun _ => .updateWithSkippedRecipient,
    fun _ _ h => h.modify rfl rfl fun _ => .inr rfl⟩

theorem updateWithReadRecipientId {readTimestamp : ℕ} :
    IsProgress fun copy => copy.updateWithReadRecipientId recipientId readTimestamp :=
  ⟨fun copy => copy.advances_updateWithReadRecipientId recipientId readTimestamp,
    fun _ => .updateWithReadRecipientId,
    fun _ _ h => h.modify rfl rfl fun _ => .inl rfl⟩

theorem updateWithHasSyncedTranscript {hasSyncedTranscript : Bool} :
    IsProgress fun copy => copy.updateWithHasSyncedTranscript hasSyncedTranscript :=
  ⟨fun _ => ⟨fun _ => rfl, fun _ h => h⟩, fun _ h => h, fun _ _ h => ⟨h.isSome, h.isSettled⟩⟩

variable {f : TSOutgoingMessage → String → TSOutgoingMessage}

/-- Each of some recipients updated in turn. -/
theorem foldl (h : ∀ recipientId, IsProgress fun copy => f copy recipientId)
    (recipientIds : List String) : IsProgress fun copy => recipientIds.foldl f copy := by
  induction recipientIds with
  | nil => exact .id
  | cons recipientId recipientIds ih =>
      exact ⟨fun copy => ((h recipientId).advances copy).trans (ih.advances _),
        fun copy hnone => ih.noneFailed _ ((h recipientId).noneFailed copy hnone),
        fun copy copy' hcopy => ih.mono _ _ ((h recipientId).mono copy copy' hcopy)⟩

theorem isDone_foldl (h : ∀ recipientId, IsProgress fun copy => f copy recipientId)
    (hdone : ∀ copy recipientId, (f copy recipientId).IsDone recipientId)
    {recipientIds : List String} (hmem : recipientId ∈ recipientIds) (copy : TSOutgoingMessage) :
    (recipientIds.foldl f copy).IsDone recipientId := by
  induction recipientIds generalizing copy with
  | nil => cases hmem
  | cons first recipientIds ih =>
      rcases List.mem_cons.mp hmem with rfl | hmem
      · exact ((foldl h recipientIds).advances _).isDone (hdone copy recipientId)
      · exact ih hmem _

end IsProgress

theorem NoneFailed.isDone_or_mem_sendingRecipientIds (h : message.NoneFailed)
    (recipientId : String) :
    message.IsDone recipientId ∨ recipientId ∈ message.sendingRecipientIds := by
  rw [mem_sendingRecipientIds]
  cases hlookup : message.recipientState recipientId with
  | none =>
      refine .inl fun recipientState hsome => ?_
      rw [hlookup] at hsome
      cases hsome
  | some recipientState =>
      cases hstate : recipientState.state with
      | failed => exact absurd hstate (h _ _ hlookup)
      | sending => exact .inr ⟨recipientState, rfl, hstate⟩
      | skipped =>
          refine .inl fun found hfound => ?_
          rw [hlookup] at hfound
          cases hfound
          exact .inr hstate
      | sent =>
          refine .inl fun found hfound => ?_
          rw [hlookup] at hfound
          cases hfound
          exact .inl hstate

theorem AllSettled.noneFailed (h : message.AllSettled) : message.NoneFailed := by
  intro recipientId recipientState hlookup hfailed
  rcases h recipientId recipientState hlookup with hstate | hstate <;>
    · rw [hfailed] at hstate
      cases hstate

/-! ### Recipients that a change does not touch -/

theorem isSettled_congr
    (h : message'.recipientState recipientId = message.recipientState recipientId) :
    message'.IsSettled recipientId ↔ message.IsSettled recipientId := by
  rw [IsSettled, IsSettled, h]

/-- A change that touches no other recipient. -/
theorem isSettled_foldl_of_notMem {f : TSOutgoingMessage → String → TSOutgoingMessage}
    (spares : ∀ (copy : TSOutgoingMessage) (one : String), one ≠ recipientId →
      ((f copy one).IsSettled recipientId ↔ copy.IsSettled recipientId))
    {recipientIds : List String} (hmem : recipientId ∉ recipientIds) (copy : TSOutgoingMessage) :
    (recipientIds.foldl f copy).IsSettled recipientId ↔ copy.IsSettled recipientId := by
  induction recipientIds generalizing copy with
  | nil => exact Iff.rfl
  | cons one recipientIds ih =>
      rw [List.mem_cons, not_or] at hmem
      rw [List.foldl_cons, ih hmem.2]
      exact spares copy one (Ne.symm hmem.1)

theorem isSettled_updateWithSkippedRecipient_of_ne (h : recipientId ≠ other) :
    (message.updateWithSkippedRecipient other).IsSettled recipientId ↔
      message.IsSettled recipientId :=
  isSettled_congr (AList.lookup_modify_of_ne h)

theorem isSettled_mapValues
    (hmap : message'.recipientStateMap = message.recipientStateMap.mapValues f)
    (alike : ∀ recipientState,
      (f recipientId recipientState).IsSettled ↔ recipientState.IsSettled) :
    message'.IsSettled recipientId ↔ message.IsSettled recipientId := by
  rw [IsSettled, IsSettled, recipientState, hmap, AList.lookup_mapValues]
  change (∃ after, (message.recipientState recipientId).map (f recipientId) = some after ∧ _) ↔ _
  cases message.recipientState recipientId with
  | none => simp
  | some before => simpa using alike before

theorem isSettled_updateWithAllSendingRecipientsMarkedAsFailed :
    message.updateWithAllSendingRecipientsMarkedAsFailed.IsSettled recipientId ↔
      message.IsSettled recipientId :=
  isSettled_mapValues rfl fun _ => isSettled_replaceState (by decide) (by decide)

theorem isSettled_updateWithMarkingAllUnsentRecipientsAsSending :
    message.updateWithMarkingAllUnsentRecipientsAsSending.IsSettled recipientId ↔
      message.IsSettled recipientId :=
  isSettled_mapValues rfl fun _ => isSettled_replaceState (by decide) (by decide)

theorem updateWithAllSendingRecipientsMarkedAsFailed_advances :
    message.updateWithAllSendingRecipientsMarkedAsFailed.Advances message where
  isSome other := by
    rw [updateWithAllSendingRecipientsMarkedAsFailed, recipientState, recipientState,
      AList.lookup_mapValues, Option.isSome_map]
  isSettled _ := isSettled_updateWithAllSendingRecipientsMarkedAsFailed.mp

theorem Advances.updateWithReadRecipientId (h : message.Advances message')
    (hdone : message'.IsDone recipientId) :
    (message.updateWithReadRecipientId recipientId readTimestamp).Advances message' where
  isSome one := by
    rw [h.isSome, (message.advances_updateWithReadRecipientId recipientId readTimestamp).isSome]
  isSettled one hsettled := by
    by_cases heq : one = recipientId
    · subst heq
      obtain ⟨read, hread, -⟩ := hsettled
      have hsome : (message'.recipientState one).isSome = true := by
        rw [h.isSome, ← (message.advances_updateWithReadRecipientId one readTimestamp).isSome,
          hread]
        rfl
      obtain ⟨after, hafter⟩ := Option.isSome_iff_exists.mp hsome
      exact ⟨after, hafter, hdone after hafter⟩
    · exact h.isSettled one
        ((isSettled_congr (recipientState_updateWithReadRecipientId_of_ne heq)).mp hsettled)

theorem Advances.isSettled_of_allSettled (h : message.Advances message') (hall : message.AllSettled)
    (hsettled : message'.IsSettled recipientId) : message.IsSettled recipientId := by
  obtain ⟨after, hafter, -⟩ := hsettled
  have hsome : (message.recipientState recipientId).isSome = true := by
    rw [← h.isSome, hafter]
    rfl
  obtain ⟨before, hbefore⟩ := Option.isSome_iff_exists.mp hsome
  exact ⟨before, hbefore, hall recipientId before hbefore⟩

end Updates

end TSOutgoingMessage

end ObjcSwiftLearning.SignalServiceKit
