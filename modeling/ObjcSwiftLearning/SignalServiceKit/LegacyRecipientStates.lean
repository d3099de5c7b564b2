import ObjcSwiftLearning.SignalServiceKit.OutgoingMessages

/-!
# Outgoing messages of before there were recipient states

A `TSOutgoingMessage` archived by an older version has no recipient state map:
`initWithCoder:` builds one, from what older versions kept — an overall state, the list
of those sent to, the times of delivery and of reading, and a flag — and from who is in
the thread now.  The overall state is remembered, and combined with the one the new map
gives.

* `lookup_migrateRecipientStateMap` — the state each recipient gets.
* `messageState_eq_sent_iff` — when such a message is sent.
* `initWithCoder_encodeWithCoder` — a message that is archived again comes back as it was.
* `KeepsStatus` — legacy messages keep their status, as regards the people given.  It
  does not hold as regards the members of the thread: a list of those sent to stands for
  the recipients of a group message, since it is "more accurate", so that a message that
  failed for some comes back as sent.  It holds as regards those recipients.
-/

namespace ObjcSwiftLearning.SignalServiceKit

/-- `TSOutgoingMessageState`, with the values kept for legacy messages. -/
inductive LegacyMessageState where
  | sending
  | failed
  | sentObsolete
  | deliveredObsolete
  | sent
  deriving DecidableEq

/-- A `TSThread`, as far as a message asks who its recipients are. -/
structure ThreadMembership where
  recipientIdentifiers : List String
  isGroupThread : Bool

/-! ## Archives -/

/-- The archive of a `TSOutgoingMessageRecipientState`, by key. -/
structure RecipientStateCoder where
  state : Option OWSOutgoingMessageRecipientState
  deliveryTimestamp : Option ℕ
  readTimestamp : Option ℕ
  wasSentByUD : Option Bool

namespace TSOutgoingMessageRecipientState

/-- `encodeWithCoder:`, which leaves nothing out but what is nil. -/
def encodeWithCoder (recipientState : TSOutgoingMessageRecipientState) : RecipientStateCoder where
  state := some recipientState.state
  deliveryTimestamp := recipientState.deliveryTimestamp
  readTimestamp := recipientState.readTimestamp
  wasSentByUD := some recipientState.wasSentByUD

/-- `initWithCoder:`; what is not there stays zero. -/
def initWithCoder (coder : RecipientStateCoder) : TSOutgoingMessageRecipientState where
  state := coder.state.getD .failed
  deliveryTimestamp := coder.deliveryTimestamp
  readTimestamp := coder.readTimestamp
  wasSentByUD := coder.wasSentByUD.getD false

end TSOutgoingMessageRecipientState

/-- The archive of a `TSOutgoingMessage`, by key. -/
structure OutgoingMessageCoder where
  uniqueId : String
  timestamp : ℕ
  isFromLinkedDevice : Option Bool
  hasSyncedTranscript : Option Bool
  recipientStateMap : Option (AList fun _ : String => RecipientStateCoder)
  hasLegacyMessageState : Option Bool
  legacyMessageState : Option LegacyMessageState
  legacyWasDelivered : Option Bool
  /-- From here on, what only older versions archived. -/
  messageState : Option LegacyMessageState
  recipientDeliveryMap : Option (AList fun _ : String => ℕ)
  recipientReadMap : Option (AList fun _ : String => ℕ)
  sentRecipients : Option (List String)
  wasDelivered : Option Bool
  singleGroupRecipient : Option String

/-- A `TSOutgoingMessage` with what it remembers of the older version. -/
structure LegacyOutgoingMessage extends TSOutgoingMessage where
  hasLegacyMessageState : Bool
  legacyMessageState : LegacyMessageState
  legacyWasDelivered : Bool

namespace OutgoingMessageCoder

variable (coder : OutgoingMessageCoder) (thread : Option ThreadMembership)

/-! ## The migration -/

def oldMessageState : LegacyMessageState := coder.messageState.getD .failed

def defaultState : OWSOutgoingMessageRecipientState :=
  match coder.oldMessageState with
  | .failed => .failed
  | .sending => .sending
  | .sent | .sentObsolete | .deliveredObsolete => .sent

/-- `[thread isGroupThread]`; a thread that is gone is none. -/
def isGroupThread : Bool := thread.elim false (·.isGroupThread)

def threadMembers : List String := thread.elim [] (·.recipientIdentifiers)

/-- The legacy `wasDelivered` flag. -/
def wasDeliveredFlag : Bool := coder.wasDelivered.getD false

def wasDeliveredToContact : Bool := !isGroupThread thread && coder.wasDeliveredFlag

/-- `recipientIds`: the members of the thread; in a group thread `sentRecipients`, if there is
that list, "as it is more accurate"; and a single group recipient before both. -/
def recipientIds : List String :=
  match coder.singleGroupRecipient with
  | some singleGroupRecipient => [singleGroupRecipient]
  | none =>
      if isGroupThread thread then coder.sentRecipients.getD (threadMembers thread)
      else threadMembers thread

def readTimestamp (recipientId : String) : Option ℕ :=
  coder.recipientReadMap.bind (·.lookup recipientId)

def deliveryTimestamp (recipientId : String) : Option ℕ :=
  coder.recipientDeliveryMap.bind (·.lookup recipientId)

/-- `[sentRecipients containsObject:recipientId]`. -/
def IsSentRecipient (recipientId : String) : Prop :=
  recipientId ∈ coder.sentRecipients.getD []

instance (recipientId : String) : Decidable (coder.IsSentRecipient recipientId) :=
  inferInstanceAs (Decidable (_ ∈ _))

def migratedState (recipientId : String) : TSOutgoingMessageRecipientState :=
  match coder.readTimestamp recipientId with
  | some readTimestamp =>
      { TSOutgoingMessageRecipientState.ofState .sent with
        readTimestamp := some readTimestamp
        deliveryTimestamp := coder.deliveryTimestamp recipientId }
  | none =>
      match coder.deliveryTimestamp recipientId with
      | some deliveryTimestamp =>
          { TSOutgoingMessageRecipientState.ofState .sent with
            deliveryTimestamp := some deliveryTimestamp }
      | none =>
          if coder.wasDeliveredToContact thread then
            { TSOutgoingMessageRecipientState.ofState .sent with
              deliveryTimestamp := some coder.timestamp }
          else if coder.IsSentRecipient recipientId then
            TSOutgoingMessageRecipientState.ofState .sent
          else TSOutgoingMessageRecipientState.ofState coder.defaultState

def migrateRecipientStateMap : RecipientStateMap :=
  AList.tabulate (coder.recipientIds thread) (coder.migratedState thread)

/-- `initWithCoder:`: the map is migrated if there is none. -/
def initWithCoder : LegacyOutgoingMessage :=
  match coder.recipientStateMap with
  | some recipientStateMap =>
      { uniqueId := coder.uniqueId
        timestamp := coder.timestamp
        recipientStateMap :=
          recipientStateMap.convert TSOutgoingMessageRecipientState.initWithCoder
        isFromLinkedDevice := coder.isFromLinkedDevice.getD false
        hasSyncedTranscript := coder.hasSyncedTranscript.getD false
        hasLegacyMessageState := coder.hasLegacyMessageState.getD false
        legacyMessageState := coder.legacyMessageState.getD .sending
        legacyWasDelivered := coder.legacyWasDelivered.getD false }
  | none =>
      { uniqueId := coder.uniqueId
        timestamp := coder.timestamp
        recipientStateMap := coder.migrateRecipientStateMap thread
        isFromLinkedDevice := coder.isFromLinkedDevice.getD false
        hasSyncedTranscript := coder.hasSyncedTranscript.getD false
        hasLegacyMessageState := true
        legacyMessageState := coder.oldMessageState
        legacyWasDelivered := coder.wasDeliveredFlag }

end OutgoingMessageCoder

namespace LegacyOutgoingMessage

variable (message : LegacyOutgoingMessage)

/-- `messageState`, where the legacy state counts. -/
def messageState : TSOutgoingMessageState :=
  if message.hasLegacyMessageState = true ∧
      (message.toTSOutgoingMessage.messageState = .sent ∨ message.legacyMessageState = .sent) then
    .sent
  else message.toTSOutgoingMessage.messageState

/-- `encodeWithCoder:`.  The properties of the current version are archived, those that are
read only by their instance variables; `messageState` has none, and is not. -/
def encodeWithCoder : OutgoingMessageCoder where
  uniqueId := message.uniqueId
  timestamp := message.timestamp
  isFromLinkedDevice := some message.isFromLinkedDevice
  hasSyncedTranscript := some message.hasSyncedTranscript
  recipientStateMap :=
    some (message.recipientStateMap.convert TSOutgoingMessageRecipientState.encodeWithCoder)
  hasLegacyMessageState := some message.hasLegacyMessageState
  legacyMessageState := some message.legacyMessageState
  legacyWasDelivered := some message.legacyWasDelivered
  messageState := none
  recipientDeliveryMap := none
  recipientReadMap := none
  sentRecipients := none
  wasDelivered := none
  singleGroupRecipient := none

end LegacyOutgoingMessage

/-! ## What a message is after the migration -/

namespace OutgoingMessageCoder

variable (coder : OutgoingMessageCoder) (thread : Option ThreadMembership)

/-- An older version recorded that the message was sent to the recipient. -/
def IsRecorded (recipientId : String) : Prop :=
  coder.IsSentRecipient recipientId ∨ coder.readTimestamp recipientId ≠ none ∨
    coder.deliveryTimestamp recipientId ≠ none

/-- So it was, or the message was delivered to the contact. -/
def WasReached (recipientId : String) : Prop :=
  coder.IsRecorded recipientId ∨ coder.wasDeliveredToContact thread = true

/-- The overall state was one of those before the message was sent. -/
def WasUnsent : Prop := coder.oldMessageState = .failed ∨ coder.oldMessageState = .sending

instance : Decidable coder.WasUnsent := inferInstanceAs (Decidable (_ ∨ _))

variable {coder thread} {recipientId : String}

/-- **The recipients, and the state each gets.** -/
theorem lookup_migrateRecipientStateMap :
    (coder.migrateRecipientStateMap thread).lookup recipientId =
      if recipientId ∈ coder.recipientIds thread then
        some (coder.migratedState thread recipientId)
      else none :=
  AList.lookup_tabulate

theorem state_migratedState_of_wasReached (h : coder.WasReached thread recipientId) :
    (coder.migratedState thread recipientId).state = .sent := by
  unfold migratedState
  cases hread : coder.readTimestamp recipientId with
  | some readTimestamp => rfl
  | none =>
      cases hdelivery : coder.deliveryTimestamp recipientId with
      | some deliveryTimestamp => rfl
      | none =>
          by_cases hcontact : coder.wasDeliveredToContact thread = true
          · simp [hcontact, TSOutgoingMessageRecipientState.ofState]
          · have hsent : coder.IsSentRecipient recipientId := by
              obtain (hsent | hread' | hdelivery') | hcontact' := h
              · exact hsent
              · exact absurd hread hread'
              · exact absurd hdelivery hdelivery'
              · exact absurd hcontact' hcontact
            simp [hcontact, hsent, TSOutgoingMessageRecipientState.ofState]

theorem migratedState_of_not_wasReached (h : ¬coder.WasReached thread recipientId) :
    coder.migratedState thread recipientId =
      TSOutgoingMessageRecipientState.ofState coder.defaultState := by
  obtain ⟨hrecorded, hcontact⟩ := not_or.mp h
  obtain ⟨hsent, htimes⟩ := not_or.mp hrecorded
  obtain ⟨hread, hdelivery⟩ := not_or.mp htimes
  rw [not_ne_iff] at hread hdelivery
  simp [migratedState, hread, hdelivery, hcontact, hsent]

/-- The timestamps are those recorded; the time of the message stands for that of a delivery
to the contact of which there is none. -/
theorem readTimestamp_migratedState :
    (coder.migratedState thread recipientId).readTimestamp = coder.readTimestamp recipientId := by
  unfold migratedState
  cases coder.readTimestamp recipientId with
  | some readTimestamp => rfl
  | none =>
      cases coder.deliveryTimestamp recipientId with
      | some deliveryTimestamp => rfl
      | none =>
          dsimp only
          split
          · rfl
          · split <;> rfl

theorem deliveryTimestamp_migratedState :
    (coder.migratedState thread recipientId).deliveryTimestamp =
        coder.deliveryTimestamp recipientId ∨
      coder.deliveryTimestamp recipientId = none ∧ coder.wasDeliveredToContact thread = true ∧
        (coder.migratedState thread recipientId).deliveryTimestamp = some coder.timestamp := by
  unfold migratedState
  cases coder.readTimestamp recipientId with
  | some readTimestamp => exact Or.inl rfl
  | none =>
      cases coder.deliveryTimestamp recipientId with
      | some deliveryTimestamp => exact Or.inl rfl
      | none =>
          by_cases hcontact : coder.wasDeliveredToContact thread = true
          · simp [hcontact]
          · refine Or.inl ?_
            simp only [hcontact, if_false, Bool.false_eq_true]
            split <;> rfl

theorem defaultState_eq_sent (h : ¬coder.WasUnsent) : coder.defaultState = .sent := by
  obtain ⟨hfailed, hsending⟩ := not_or.mp h
  unfold defaultState
  cases hold : coder.oldMessageState with
  | failed => exact absurd hold hfailed
  | sending => exact absurd hold hsending
  | sent | sentObsolete | deliveredObsolete => rfl

theorem not_isSettled_defaultState (h : coder.WasUnsent) :
    ¬(TSOutgoingMessageRecipientState.ofState coder.defaultState).IsSettled := by
  have hstate : coder.defaultState = .failed ∨ coder.defaultState = .sending := by
    unfold defaultState
    obtain hold | hold := h
    · exact Or.inl (by rw [hold])
    · exact Or.inr (by rw [hold])
  rintro (hsent | hskipped)
  · obtain hold | hold := hstate <;> exact absurd (hold.symm.trans hsent) (by decide)
  · obtain hold | hold := hstate <;> exact absurd (hold.symm.trans hskipped) (by decide)

theorem recipientState_initWithCoder (hmap : coder.recipientStateMap = none) :
    (coder.initWithCoder thread).recipientState recipientId =
      if recipientId ∈ coder.recipientIds thread then
        some (coder.migratedState thread recipientId)
      else none := by
  rw [initWithCoder, hmap]
  exact lookup_migrateRecipientStateMap

theorem allSettled_initWithCoder_iff (hmap : coder.recipientStateMap = none) :
    (coder.initWithCoder thread).AllSettled ↔
      (coder.WasUnsent → ∀ recipientId ∈ coder.recipientIds thread,
        coder.WasReached thread recipientId) := by
  constructor
  · intro hall hunsent recipientId hmem
    by_contra hreached
    have hsettled := hall recipientId _ ((recipientState_initWithCoder hmap).trans (if_pos hmem))
    rw [migratedState_of_not_wasReached hreached] at hsettled
    exact not_isSettled_defaultState hunsent hsettled
  · intro hreached recipientId recipientState hlookup
    rw [recipientState_initWithCoder hmap] at hlookup
    obtain ⟨hmem, hstate⟩ := Option.ite_none_right_eq_some.mp hlookup
    obtain rfl := Option.some.inj hstate
    by_cases h : coder.WasReached thread recipientId
    · exact Or.inl (state_migratedState_of_wasReached h)
    · rw [migratedState_of_not_wasReached h]
      have hsent : ¬coder.WasUnsent := fun hunsent => h (hreached hunsent recipientId hmem)
      exact Or.inl (defaultState_eq_sent hsent)

/-- **When a migrated message is sent**: if it was, or if each of its recipients was reached. -/
theorem messageState_eq_sent_iff (hmap : coder.recipientStateMap = none) :
    (coder.initWithCoder thread).messageState = .sent ↔
      (coder.WasUnsent → ∀ recipientId ∈ coder.recipientIds thread,
        coder.WasReached thread recipientId) := by
  have hlegacy : (coder.initWithCoder thread).legacyMessageState = coder.oldMessageState := by
    rw [initWithCoder, hmap]
  rw [← allSettled_initWithCoder_iff hmap, ← TSOutgoingMessage.messageState_eq_sent]
  unfold LegacyOutgoingMessage.messageState
  constructor
  · intro h
    split at h
    · rename_i hlegacySent
      obtain hnew | hold := hlegacySent.2
      · exact hnew
      · rw [TSOutgoingMessage.messageState_eq_sent, allSettled_initWithCoder_iff hmap]
        rw [hlegacy] at hold
        rintro (hfailed | hsending)
        · rw [hold] at hfailed
          cases hfailed
        · rw [hold] at hsending
          cases hsending
    · exact h
  · intro h
    split
    · rfl
    · exact h

/-- **A message that is archived again comes back as it was**, whoever is in the thread by
then. -/
theorem initWithCoder_encodeWithCoder (message : LegacyOutgoingMessage)
    (thread : Option ThreadMembership) :
    message.encodeWithCoder.initWithCoder thread = message := by
  have hmap : (message.recipientStateMap.convert
      TSOutgoingMessageRecipientState.encodeWithCoder).convert
        TSOutgoingMessageRecipientState.initWithCoder = message.recipientStateMap :=
    AList.convert_convert_of_leftInverse fun _ => rfl
  unfold initWithCoder LegacyOutgoingMessage.encodeWithCoder
  dsimp only
  rw [hmap]
  rfl

/-! ## Keeping the status -/

/-- Legacy messages keep their status: the recipients recorded are sent to, at the times
recorded; a message that was sent is; one that was not is only if all of `people` were
reached; and a message that is archived again comes back as it was. -/
structure KeepsStatus (coder : OutgoingMessageCoder) (thread : Option ThreadMembership)
    (people : List String) : Prop where
  recorded : ∀ recipientId ∈ coder.recipientIds thread, coder.IsRecorded recipientId →
    ∃ recipientState,
      (coder.initWithCoder thread).recipientState recipientId = some recipientState ∧
        recipientState.state = .sent ∧
        recipientState.readTimestamp = coder.readTimestamp recipientId ∧
        (recipientState.deliveryTimestamp = coder.deliveryTimestamp recipientId ∨
          coder.deliveryTimestamp recipientId = none ∧
            coder.wasDeliveredToContact thread = true ∧
            recipientState.deliveryTimestamp = some coder.timestamp)
  sent : ¬coder.WasUnsent → (coder.initWithCoder thread).messageState = .sent
  unsent : coder.WasUnsent → (coder.initWithCoder thread).messageState = .sent →
    ∀ recipientId ∈ people, coder.WasReached thread recipientId
  archived : ∀ laterThread : Option ThreadMembership,
    (coder.initWithCoder thread).encodeWithCoder.initWithCoder laterThread =
      coder.initWithCoder thread

/-- **Legacy messages keep their status, as regards the recipients they are taken to
have**; these are the members of the thread unless the record names the recipients. -/
theorem keepsStatus_recipientIds (hmap : coder.recipientStateMap = none) :
    KeepsStatus coder thread (coder.recipientIds thread) ∧
      (coder.singleGroupRecipient = none →
        (isGroupThread thread = true → coder.sentRecipients = none) →
        coder.recipientIds thread = threadMembers thread) := by
  refine ⟨⟨?_, ?_, ?_, initWithCoder_encodeWithCoder _⟩, ?_⟩
  · intro recipientId hmem hrecorded
    exact ⟨_, (recipientState_initWithCoder hmap).trans (if_pos hmem),
      state_migratedState_of_wasReached (Or.inl hrecorded), readTimestamp_migratedState,
      deliveryTimestamp_migratedState⟩
  · intro hsent
    exact (messageState_eq_sent_iff hmap).mpr fun hunsent => absurd hunsent hsent
  · intro hunsent hstate
    exact (messageState_eq_sent_iff hmap).mp hstate hunsent
  · intro hsingle hlist
    rw [recipientIds, hsingle]
    by_cases hgroup : isGroupThread thread = true
    · simp [hgroup, hlist hgroup]
    · simp [hgroup]

/-- A message that was sent to one of the two others of a group, and failed. -/
def partlySent : OutgoingMessageCoder where
  uniqueId := "1"
  timestamp := 1000
  isFromLinkedDevice := none
  hasSyncedTranscript := none
  recipientStateMap := none
  hasLegacyMessageState := none
  legacyMessageState := none
  legacyWasDelivered := none
  messageState := some .failed
  recipientDeliveryMap := none
  recipientReadMap := none
  sentRecipients := some ["alice"]
  wasDelivered := none
  singleGroupRecipient := none

/-- The group it was sent in. -/
def aliceAndBob : ThreadMembership where
  recipientIdentifiers := ["alice", "bob"]
  isGroupThread := true

/-- Whom it was sent to is not recorded, but that one has read it. -/
def readByBob : OutgoingMessageCoder :=
  { partlySent with
    sentRecipients := none
    recipientReadMap := some ((∅ : AList fun _ : String => ℕ).insert "bob" 1200) }

theorem keepsStatus_readByBob :
    KeepsStatus readByBob (some aliceAndBob) (threadMembers (some aliceAndBob)) := by
  obtain ⟨keeps, members⟩ := @keepsStatus_recipientIds readByBob (some aliceAndBob) rfl
  rw [← members rfl fun _ => rfl]
  exact keeps

/-- The members of a group may not all have been reached by a message that comes back as
sent. -/
theorem not_keepsStatus_threadMembers :
    ¬∀ (coder : OutgoingMessageCoder) (thread : Option ThreadMembership),
      coder.recipientStateMap = none → KeepsStatus coder thread (threadMembers thread) := by
  intro h
  have hkeeps := h partlySent (some aliceAndBob) rfl
  have hsent : (partlySent.initWithCoder (some aliceAndBob)).messageState = .sent := by
    rw [messageState_eq_sent_iff rfl]
    intro _ recipientId hmem
    exact Or.inl (Or.inl hmem)
  obtain (hlist | hread | hdelivery) | hcontact :=
    hkeeps.unsent (Or.inl rfl) hsent "bob" (by decide)
  · exact absurd hlist (by decide)
  · exact hread rfl
  · exact hdelivery rfl
  · exact absurd hcontact (by decide)

end OutgoingMessageCoder

end ObjcSwiftLearning.SignalServiceKit
