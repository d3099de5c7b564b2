import ObjcSwiftLearning.SignalServiceKit.SuccessfulSends

/-!
# Receipts that come in while a message is being sent

The operation of a `MessageSenderJob` holds one object of its message over all its attempts.
An update through `applyChangeToSelfAndLatestCopy:` goes to that object and to the stored
copy; a receipt goes to the stored copy only, for it is applied to an object loaded from the
database.  `prepareMessageForSending:` begins each attempt by saving the operation's object.

* `TSOutgoingMessage.Retains` — no recipient loses its receipts, and none that has been sent to
  or skipped is unsettled: what every update does.
* `IsCurrent` — the copy that a step saves retains what is stored.
* `receipts_survive_current_saves` — in runs of such steps **receipts survive**.
* `receipt_overwritten_by_retry` — in others they need not.
-/

namespace ObjcSwiftLearning.SignalServiceKit

/-! ## What is to survive -/

/-- There is a delivery or a read timestamp. -/
def TSOutgoingMessageRecipientState.HasReceipt
    (recipientState : TSOutgoingMessageRecipientState) : Prop :=
  recipientState.deliveryTimestamp ≠ none ∨ recipientState.readTimestamp ≠ none

instance (recipientState : TSOutgoingMessageRecipientState) :
    Decidable recipientState.HasReceipt :=
  inferInstanceAs (Decidable (_ ∨ _))

open TSOutgoingMessageRecipientState

namespace TSOutgoingMessage

/-- A delivery or a read timestamp is recorded for the recipient. -/
def HasReceipt (message : TSOutgoingMessage) (recipientId : String) : Prop :=
  ∃ recipientState, message.recipientState recipientId = some recipientState ∧
    recipientState.HasReceipt

/-- **What is promised of a later copy**: who had a receipt has one, and who was sent to is
neither being sent to nor failed. -/
structure ReceiptsSurvive (message message' : TSOutgoingMessage) : Prop where
  hasReceipt : ∀ recipientId, message.HasReceipt recipientId → message'.HasReceipt recipientId
  sent : ∀ recipientId recipientState recipientState',
    message.recipientState recipientId = some recipientState → recipientState.state = .sent →
      message'.recipientState recipientId = some recipientState' →
        recipientState'.state ≠ .sending ∧ recipientState'.state ≠ .failed

/-- Receipts stay, and who is settled stays settled. -/
structure Retains (message message' : TSOutgoingMessage) : Prop
    extends message.Advances message' where
  hasReceipt : ∀ recipientId, message.HasReceipt recipientId → message'.HasReceipt recipientId

variable {message message' message'' : TSOutgoingMessage} {recipientId : String}

namespace Retains

theorem refl (message : TSOutgoingMessage) : message.Retains message :=
  ⟨.refl message, fun _ => id⟩

theorem trans (h : message.Retains message') (h' : message'.Retains message'') :
    message.Retains message'' :=
  ⟨h.toAdvances.trans h'.toAdvances,
    fun recipientId hreceipt => h'.hasReceipt recipientId (h.hasReceipt recipientId hreceipt)⟩

theorem receiptsSurvive (h : message.Retains message') : message.ReceiptsSurvive message' where
  hasReceipt := h.hasReceipt
  sent recipientId recipientState recipientState' hlookup hsent hlookup' := by
    obtain ⟨settled, hsettled, hor⟩ := h.isSettled recipientId ⟨recipientState, hlookup, .inl hsent⟩
    rw [hlookup'] at hsettled
    cases hsettled
    rcases hor with heq | heq <;> simp [heq]

end Retains

/-! ## The updates -/

/-- A change that makes progress and takes no receipt away, and does to a copy that retains
what it does to the message. -/
structure IsUpdate (change : TSOutgoingMessage → TSOutgoingMessage) : Prop
    extends IsProgress change where
  keeps : ∀ (copy : TSOutgoingMessage) recipientId, copy.HasReceipt recipientId →
    (change copy).HasReceipt recipientId
  keepsAlike : ∀ copy copy' : TSOutgoingMessage, copy.Retains copy' → ∀ recipientId,
    (change copy).HasReceipt recipientId → (change copy').HasReceipt recipientId

namespace IsUpdate

variable {change change' : TSOutgoingMessage → TSOutgoingMessage}

theorem retains (h : IsUpdate change) (message : TSOutgoingMessage) :
    message.Retains (change message) :=
  ⟨h.advances message, h.keeps message⟩

theorem retains_of_retains (h : IsUpdate change) (hretains : message.Retains message') :
    (change message).Retains (change message') :=
  ⟨h.mono message message' hretains.toAdvances, h.keepsAlike message message' hretains⟩

/-- Each recipient's state changed: it then has a receipt, or has one if it had. -/
theorem of_mapValues (hprogress : IsProgress change)
    {f : String → TSOutgoingMessageRecipientState → TSOutgoingMessageRecipientState}
    (hmap : ∀ copy, (change copy).recipientStateMap = copy.recipientStateMap.mapValues f)
    (alike : ∀ recipientId, (∀ recipientState, (f recipientId recipientState).HasReceipt) ∨
      ∀ recipientState, (f recipientId recipientState).HasReceipt ↔ recipientState.HasReceipt) :
    IsUpdate change := by
  have hlookup (copy : TSOutgoingMessage) (recipientId : String) :
      (change copy).recipientState recipientId =
        (copy.recipientState recipientId).map (f recipientId) := by
    rw [recipientState, hmap, AList.lookup_mapValues]
    rfl
  refine { hprogress with keeps := ?_, keepsAlike := ?_ }
  · rintro copy recipientId ⟨recipientState, hbefore, hreceipt⟩
    refine ⟨f recipientId recipientState, by rw [hlookup, hbefore]; rfl, ?_⟩
    rcases alike recipientId with hall | hiff
    · exact hall recipientState
    · exact (hiff recipientState).mpr hreceipt
  · rintro copy copy' hretains recipientId ⟨changed, hchanged, hreceipt⟩
    rw [hlookup, Option.map_eq_some_iff] at hchanged
    obtain ⟨before, hbefore, rfl⟩ := hchanged
    rcases alike recipientId with hall | hiff
    · have hsome : (copy'.recipientState recipientId).isSome = true := by
        rw [hretains.isSome, hbefore]
        rfl
      obtain ⟨after, hafter⟩ := Option.isSome_iff_exists.mp hsome
      exact ⟨f recipientId after, by rw [hlookup, hafter]; rfl, hall after⟩
    · obtain ⟨after, hafter, hreceipt'⟩ :=
        hretains.hasReceipt recipientId ⟨before, hbefore, (hiff before).mp hreceipt⟩
      exact ⟨f recipientId after, by rw [hlookup, hafter]; rfl, (hiff after).mpr hreceipt'⟩

theorem of_modify (hprogress : IsProgress change)
    {g : TSOutgoingMessageRecipientState → TSOutgoingMessageRecipientState}
    (hmap : ∀ copy, (change copy).recipientStateMap =
      copy.recipientStateMap.modify recipientId g)
    (alike : (∀ recipientState, (g recipientState).HasReceipt) ∨
      ∀ recipientState, (g recipientState).HasReceipt ↔ recipientState.HasReceipt) :
    IsUpdate change := by
  refine of_mapValues hprogress hmap fun other => ?_
  by_cases heq : other = recipientId
  · simp only [heq, if_true]
    exact alike
  · exact .inr fun _ => by rw [if_neg heq]

theorem id : IsUpdate id :=
  ⟨.id, fun _ _ h => h, fun _ _ h => h.hasReceipt⟩

theorem updateWithSentRecipient {wasSentByUD : Bool} :
    IsUpdate fun copy => copy.updateWithSentRecipient recipientId wasSentByUD :=
  .of_modify .updateWithSentRecipient (fun _ => rfl) (.inr fun _ => Iff.rfl)

theorem updateWithSkippedRecipient :
    IsUpdate fun copy => copy.updateWithSkippedRecipient recipientId :=
  .of_modify .updateWithSkippedRecipient (fun _ => rfl) (.inr fun _ => Iff.rfl)

theorem updateWithReadRecipientId {readTimestamp : ℕ} :
    IsUpdate fun copy => copy.updateWithReadRecipientId recipientId readTimestamp :=
  .of_modify .updateWithReadRecipientId (fun _ => rfl) (.inl fun _ => .inr (by simp [markRead]))

theorem updateWithHasSyncedTranscript {hasSyncedTranscript : Bool} :
    IsUpdate fun copy => copy.updateWithHasSyncedTranscript hasSyncedTranscript :=
  ⟨.updateWithHasSyncedTranscript, fun _ _ h => h, fun _ _ h => h.hasReceipt⟩

theorem updateWithDeliveredRecipient {deliveryTimestamp : ℕ} :
    IsUpdate fun copy => copy.updateWithDeliveredRecipient recipientId deliveryTimestamp := by
  refine .of_modify ⟨fun copy => ?_, fun copy hnone => ?_, fun _ _ h => ?_⟩ (fun _ => rfl)
    (.inl fun _ => .inl (by simp [markDelivered]))
  · refine .of_mapValues rfl fun other recipientState hsettled => ?_
    dsimp only
    split
    · exact .inl rfl
    · exact hsettled
  · refine hnone.of_mapValues rfl fun other recipientState hne => ?_
    dsimp only
    split
    · simp [markDelivered]
    · exact hne
  · exact h.modify rfl rfl fun _ => .inl rfl

/-- Each of some recipients updated in turn. -/
theorem foldl {f : TSOutgoingMessage → String → TSOutgoingMessage}
    (h : ∀ recipientId, IsUpdate fun copy => f copy recipientId) (recipientIds : List String) :
    IsUpdate fun copy => recipientIds.foldl f copy := by
  induction recipientIds with
  | nil => exact .id
  | cons recipientId recipientIds ih =>
      refine ⟨.foldl (fun recipientId => (h recipientId).toIsProgress) _, ?_, ?_⟩
      · exact fun copy other hreceipt => ih.keeps _ other ((h recipientId).keeps copy other hreceipt)
      · exact fun copy copy' hretains =>
          ih.keepsAlike _ _ ((h recipientId).retains_of_retains hretains)

end IsUpdate

theorem hasReceipt_replaceState {before after : OWSOutgoingMessageRecipientState}
    {recipientState : TSOutgoingMessageRecipientState} :
    (recipientState.replaceState before after).HasReceipt ↔ recipientState.HasReceipt := by
  rw [TSOutgoingMessageRecipientState.replaceState]
  split <;> exact Iff.rfl

/-- Of two copies that differ in who is being sent to and who has failed, each retains the
other. -/
theorem retains_replaceState {before after : OWSOutgoingMessageRecipientState}
    (hbefore : ¬(ofState before).IsSettled) (hafter : ¬(ofState after).IsSettled)
    (hmap : message'.recipientStateMap = message.recipientStateMap.mapValues
      fun _ recipientState => recipientState.replaceState before after) :
    message.Retains message' ∧ message'.Retains message := by
  have hlookup (recipientId : String) : message'.recipientState recipientId =
      (message.recipientState recipientId).map (·.replaceState before after) := by
    rw [TSOutgoingMessage.recipientState, hmap, AList.lookup_mapValues]
    rfl
  refine ⟨⟨.of_mapValues hmap fun _ _ => (isSettled_replaceState hbefore hafter).mpr, ?_⟩,
    ⟨fun recipientId => ?_, ?_⟩, ?_⟩
  · rintro recipientId ⟨recipientState, hfound, hreceipt⟩
    exact ⟨recipientState.replaceState before after, by rw [hlookup, hfound]; rfl,
      hasReceipt_replaceState.mpr hreceipt⟩
  · rw [hlookup, Option.isSome_map]
  · rintro recipientId ⟨changed, hchanged, hsettled⟩
    rw [hlookup, Option.map_eq_some_iff] at hchanged
    obtain ⟨recipientState, hfound, rfl⟩ := hchanged
    exact ⟨recipientState, hfound, (isSettled_replaceState hbefore hafter).mp hsettled⟩
  · rintro recipientId ⟨changed, hchanged, hreceipt⟩
    rw [hlookup, Option.map_eq_some_iff] at hchanged
    obtain ⟨recipientState, hfound, rfl⟩ := hchanged
    exact ⟨recipientState, hfound, hasReceipt_replaceState.mp hreceipt⟩

theorem retains_updateWithMarkingAllUnsentRecipientsAsSending (message : TSOutgoingMessage) :
    message.Retains message.updateWithMarkingAllUnsentRecipientsAsSending :=
  (retains_replaceState (by decide) (by decide) rfl).1

theorem retains_updateWithAllSendingRecipientsMarkedAsFailed (message : TSOutgoingMessage) :
    message.Retains message.updateWithAllSendingRecipientsMarkedAsFailed :=
  (retains_replaceState (by decide) (by decide) rfl).1

theorem updateWithAllSendingRecipientsMarkedAsFailed_retains (message : TSOutgoingMessage) :
    message.updateWithAllSendingRecipientsMarkedAsFailed.Retains message :=
  (retains_replaceState (by decide) (by decide) rfl).2

end TSOutgoingMessage

open TSOutgoingMessage

theorem isUpdateKind_isUpdate : IsUpdateKind IsUpdate where
  id := .id
  sent _ _ := .updateWithSentRecipient
  skipped _ := .updateWithSkippedRecipient
  read _ _ := .updateWithReadRecipientId
  synced _ := .updateWithHasSyncedTranscript
  foldl _ h := .foldl h

theorem TaskStep.isUpdate {outgoing : OutgoingSend} {message : TSOutgoingMessage}
    {task : SendTask} {event : SendEvent} {change : TSOutgoingMessage → TSOutgoingMessage}
    {tasks : List SendTask} (h : TaskStep outgoing message task event change tasks) :
    IsUpdate change :=
  isUpdateKind_isUpdate.taskStep h

/-! ## The steps, receipts included -/

/-- What happens, with the two kinds of receipts told apart. -/
inductive ReceiptedEvent where
  /-- A step of the job, or a read receipt. -/
  | job (event : SendEvent)
  /-- A delivery receipt, in `processDeliveryReceiptsFromRecipientId:…`. -/
  | delivered (recipientId : String) (deliveryTimestamp : ℕ)

/-- One step.  A delivery receipt is applied to a copy loaded from the database. -/
inductive ReceiptedStep (outgoing : OutgoingSend) : SendState → ReceiptedEvent → SendState → Prop
  | job {state state' : SendState} {event : SendEvent}
      (step : SendState.Step outgoing state event state') :
      ReceiptedStep outgoing state (.job event) state'
  | delivered {state : SendState} (recipientId : String) (deliveryTimestamp : ℕ) :
      ReceiptedStep outgoing state (.delivered recipientId deliveryTimestamp)
        { state with
          stored := state.saved outgoing
            (state.stored.updateWithDeliveredRecipient recipientId deliveryTimestamp) }

/-- The event in which the operation saves its object of a message: an attempt is prepared,
or finds the recipients of a group. -/
def SendEvent.savesCopy (outgoing : OutgoingSend) : SendEvent → Bool
  | .prepared => true
  | .serviced _ => outgoing.isGroupThread && outgoing.groupMetaMessage == .deliver
  | _ => false

/-- **The copy that is saved retains what is stored**: no receipt that says something new has
come in since the operation loaded it. -/
def IsCurrent (outgoing : OutgoingSend) (state : SendState) : ReceiptedEvent → Prop
  | .job event => event.savesCopy outgoing = true → outgoing.shouldBeSaved = true →
      ∀ operation, state.operation = some operation → state.stored.Retains operation.message
  | .delivered _ _ => True

def ReceiptedEvent.IsReceipt : ReceiptedEvent → Prop
  | .job (.receiptReceived _ _) | .delivered _ _ => True
  | .job _ => False

/-! ## What one step does to the stored copy -/

namespace SendState

/-- The operation's object has whatever the stored copy has. -/
def InStep (state : SendState) : Prop :=
  ∀ operation, state.operation = some operation → state.stored.Retains operation.message

variable {outgoing : OutgoingSend} {state state' : SendState} {event : SendEvent}
  {message message' : TSOutgoingMessage}

theorem saved_of_not_shouldBeSaved (saved : outgoing.shouldBeSaved = false) :
    state.saved outgoing message = state.stored := by
  rw [SendState.saved, saved]
  rfl

theorem retains_saved (h : outgoing.shouldBeSaved = true → state.stored.Retains message) :
    state.stored.Retains (state.saved outgoing message) := by
  cases saved : outgoing.shouldBeSaved with
  | false =>
      rw [saved_of_not_shouldBeSaved saved]
      exact .refl _
  | true =>
      rw [SendState.saved, if_pos saved]
      exact h saved

/-- What goes with the record is retained by what is there after. -/
theorem retains_archived (h : outgoing.shouldBeSaved = false → state.stored.Retains message) :
    state.stored.Retains (state.archived outgoing message) := by
  cases saved : outgoing.shouldBeSaved with
  | false => simpa [archived, saved] using h saved
  | true =>
      rw [archived, saved, if_pos rfl]
      exact .refl _

theorem retains_applyChangeToSelfAndLatestCopy (state : SendState)
    (operation : MessageSenderOperation) {change : TSOutgoingMessage → TSOutgoingMessage}
    (h : ∀ copy : TSOutgoingMessage, copy.Retains (change copy)) :
    state.stored.Retains
      (state.applyChangeToSelfAndLatestCopy outgoing operation change).stored := by
  rw [applyChangeToSelfAndLatestCopy]
  dsimp only
  split
  · exact h _
  · exact .refl _

theorem retains_saveInfoMessageForGroupMessage
    (h : event.savesCopy outgoing = true → outgoing.shouldBeSaved = true →
      state.stored.Retains message) :
    state.stored.Retains (state.saveInfoMessageForGroupMessage outgoing event message).stored := by
  cases event with
  | serviced environment =>
      dsimp only [saveInfoMessageForGroupMessage]
      split
      · next hsaves => exact retains_saved (h hsaves)
      · exact .refl _
  | _ => exact .refl _

theorem retains_restartOldJobs : state.stored.Retains (state.restartOldJobs outgoing).stored := by
  rw [restartOldJobs]
  split
  · exact .refl _
  · split
    · exact retains_saved fun _ =>
        state.stored.retains_updateWithMarkingAllUnsentRecipientsAsSending
    · exact .refl _

theorem retains_runFailedMessagesJob :
    state.stored.Retains (state.runFailedMessagesJob outgoing).stored := by
  rw [runFailedMessagesJob]
  split
  · exact retains_saved fun _ =>
      state.stored.retains_updateWithAllSendingRecipientsMarkedAsFailed
  · exact .refl _

theorem retains_of_runFailedMessagesJob :
    (state.runFailedMessagesJob outgoing).stored.Retains state.stored := by
  rw [runFailedMessagesJob]
  split
  · rw [SendState.saved]
    split
    · exact state.stored.updateWithAllSendingRecipientsMarkedAsFailed_retains
    · exact .refl _
  · exact .refl _

/-- **Each step of the job retains what is stored**, if the copy that it saves does. -/
theorem Step.retains_stored (h : Step outgoing state event state')
    (current : event.savesCopy outgoing = true → outgoing.shouldBeSaved = true → state.InStep)
    (transient : outgoing.shouldBeSaved = false → state.InStep) :
    state.stored.Retains state'.stored := by
  cases h with
  | workStep fresh row starts => exact .refl _
  | @prepared operation earlier later alive outstanding =>
      have hsaved : state.stored.Retains (state.saved outgoing operation.message) :=
        retains_saved fun saved => current rfl saved operation alive
      exact hsaved.trans (retains_applyChangeToSelfAndLatestCopy
        { state with stored := state.saved outgoing operation.message } operation
        retains_updateWithMarkingAllUnsentRecipientsAsSending)
  | @task operation _ earlier later tasks task change alive outstanding taskStep =>
      have hsaved := retains_saveInfoMessageForGroupMessage
        fun saves saved => current saves saved operation alive
      exact hsaved.trans
        (retains_applyChangeToSelfAndLatestCopy _ operation taskStep.isUpdate.retains)
  | succeeded alive outstanding => exact .refl _
  | @errorReported operation earlier later error alive outstanding =>
      exact retains_archived fun saved => transient saved operation alive
  | retried alive outstanding waits => exact .refl _
  | @gaveUp operation earlier later error alive outstanding givesUp =>
      have harchived : state.stored.Retains (state.archived outgoing operation.message) :=
        retains_archived fun saved => transient saved operation alive
      exact harchived.trans (retains_applyChangeToSelfAndLatestCopy
        { state with stored := state.archived outgoing operation.message } operation
        retains_updateWithAllSendingRecipientsMarkedAsFailed)
  | killed => exact .refl _
  | restartedOldJobs launched => exact retains_restartOldJobs
  | failedMessagesJobRan => exact retains_runFailedMessagesJob
  | receiptReceived recipientId timestamp =>
      have hupdate : IsUpdate fun copy => copy.updateWithReadRecipientId recipientId timestamp :=
        .updateWithReadRecipientId
      exact retains_saved fun _ => hupdate.retains state.stored

/-! ## When the operation's object is in step -/

/-- **Each step keeps the operation's object in step**, but for a receipt of a saved message
that comes in while the operation is alive. -/
theorem Step.inStep (h : Step outgoing state event state') (inStep : state.InStep)
    (quiet : ∀ recipientId timestamp, event = .receiptReceived recipientId timestamp →
      outgoing.shouldBeSaved = true → state.operation = none) : state'.InStep := by
  have copies : IsCopyRelation outgoing Retains :=
    { refl := .refl
      updates := fun _ _ _ _ _ _ _ _ taskStep => taskStep.isUpdate.retains_of_retains
      -- Marked on both sides, and neither mark is one of those retained.
      fails := fun _ stored message h =>
        (stored.updateWithAllSendingRecipientsMarkedAsFailed_retains.trans h).trans
          message.retains_updateWithAllSendingRecipientsMarkedAsFailed
      unsaved := fun _ _ message h =>
        ⟨h.trans message.retains_updateWithMarkingAllUnsentRecipientsAsSending,
          h.trans message.retains_updateWithAllSendingRecipientsMarkedAsFailed,
          fun taskStep => h.trans (taskStep.isUpdate.retains message)⟩ }
  refine h.related copies inStep (fun _ h => retains_of_runFailedMessagesJob.trans h) ?_
  intro recipientId timestamp operation hevent saved halive
  rw [quiet recipientId timestamp hevent saved] at halive
  cases halive

end SendState

/-! ## Every run -/

section Runs

variable {outgoing : OutgoingSend} {start state state' before after : SendState}
  {event : ReceiptedEvent} {events later : List ReceiptedEvent}

theorem ReceiptedStep.retains_stored (h : ReceiptedStep outgoing state event state')
    (current : IsCurrent outgoing state event)
    (transient : outgoing.shouldBeSaved = false → state.InStep) :
    state.stored.Retains state'.stored := by
  cases h with
  | job step => exact step.retains_stored current transient
  | delivered recipientId deliveryTimestamp =>
      have hupdate : IsUpdate fun copy =>
          copy.updateWithDeliveredRecipient recipientId deliveryTimestamp :=
        .updateWithDeliveredRecipient
      exact SendState.retains_saved fun _ => hupdate.retains state.stored

theorem ReceiptedStep.inStep (h : ReceiptedStep outgoing state event state')
    (inStep : state.InStep)
    (quiet : event.IsReceipt → outgoing.shouldBeSaved = true → state.operation = none) :
    state'.InStep := by
  cases h with
  | job step =>
      refine step.inStep inStep fun recipientId timestamp hevent => ?_
      subst hevent
      exact quiet trivial
  | delivered recipientId deliveryTimestamp =>
      intro operation halive
      cases saved : outgoing.shouldBeSaved with
      | false =>
          dsimp only
          rw [SendState.saved_of_not_shouldBeSaved saved]
          exact inStep operation halive
      | true =>
          have hnone := quiet trivial saved
          rw [hnone] at halive
          cases halive

theorem SendState.AtLaunch.inStep (launched : start.AtLaunch) : start.InStep := by
  intro operation halive
  rw [launched.operation] at halive
  cases halive

/-- **A receipt can be lost only if it comes in while an operation is alive**: where none
does, each copy that is saved is current. -/
theorem isCurrent_of_receipts_between_operations (launched : start.AtLaunch)
    (quiet : LabelledRun.EveryStep (ReceiptedStep outgoing) start events
      fun state event _ => event.IsReceipt → outgoing.shouldBeSaved = true →
        state.operation = none) :
    LabelledRun.EveryStep (ReceiptedStep outgoing) start events
      fun state event _ => IsCurrent outgoing state event := by
  rintro earlier label later before after rfl run last
  have hinStep : before.InStep := by
    refine (run.restrict quiet.of_append).invariant (I := fun _ state => state.InStep)
      launched.inStep ?_
    rintro _ state event state' ih ⟨step, hquiet⟩
    exact step.inStep ih hquiet
  cases label with
  | job event => exact fun _ _ => hinStep
  | delivered recipientId deliveryTimestamp => trivial

theorem retains_stored_of_run (launched : start.AtLaunch)
    (first : LabelledRun (ReceiptedStep outgoing) start events before)
    (second : LabelledRun (ReceiptedStep outgoing) before later after)
    (current : LabelledRun.EveryStep (ReceiptedStep outgoing) start (events ++ later)
      fun state event _ => IsCurrent outgoing state event) :
    before.stored.Retains after.stored := by
  induction second with
  | refl => exact .refl _
  | @tail labels label middle after run last ih =>
      have hrun : LabelledRun (ReceiptedStep outgoing) start (events ++ labels) middle :=
        first.trans run
      rw [← List.append_assoc] at current
      refine (ih current.of_append).trans (last.retains_stored ?_ fun transient => ?_)
      · exact current (events ++ labels) label [] middle after rfl hrun last
      · refine hrun.invariant (I := fun _ state => state.InStep) launched.inStep ?_
        intro _ state event state' ih step
        exact step.inStep ih fun _ saved => absurd saved (by simp [transient])

/-- **Receipts survive retries** in every run in which each copy that the operation saves is
current. -/
theorem receipts_survive_current_saves (launched : start.AtLaunch)
    (first : LabelledRun (ReceiptedStep outgoing) start events before)
    (second : LabelledRun (ReceiptedStep outgoing) before later after)
    (current : LabelledRun.EveryStep (ReceiptedStep outgoing) start (events ++ later)
      fun state event _ => IsCurrent outgoing state event) :
    before.stored.ReceiptsSurvive after.stored :=
  (retains_stored_of_run launched first second current).receiptsSurvive

end Runs

/-! ## One recipient -/

/-- A message to one other account. -/
def contactSend : OutgoingSend where
  thread := .contact "+15550002"
  localNumber := "+15550001"
  groupMetaMessage := .unspecified
  isTransient := false
  neverSyncs := true

def savedMessage : SendState where
  jobRecord := some
    { sortId := 1
      status := .ready
      failureCount := 0
      job := ⟨some "m", some "c"⟩ }
  stored := initOutgoingMessage "m" 1 ["+15550002"]
  operation := none
  tasks := []

theorem atLaunch_savedMessage : savedMessage.AtLaunch :=
  ⟨rfl, rfl⟩

/-- A receipt that is there before the operation loads the message is there after an attempt
has been prepared. -/
theorem receipt_survives_preparation :
    ∃ before after,
      LabelledRun (ReceiptedStep contactSend) savedMessage [.delivered "+15550002" 2] before ∧
        LabelledRun (ReceiptedStep contactSend) before [.job .workStep, .job .prepared] after ∧
          before.stored.ReceiptsSurvive after.stored := by
  have first := LabelledRun.single
    (@ReceiptedStep.delivered contactSend savedMessage "+15550002" 2)
  have second := LabelledRun.single (ReceiptedStep.job
    (@SendState.Step.workStep contactSend
      { savedMessage with
        stored := savedMessage.stored.updateWithDeliveredRecipient "+15550002" 2 } _ _ rfl rfl rfl))
  have second := second.tail
    (ReceiptedStep.job (@SendState.Step.prepared contactSend _ _ [] [] rfl rfl))
  refine ⟨_, _, first, second, receipts_survive_current_saves atLaunch_savedMessage first second
    (isCurrent_of_receipts_between_operations atLaunch_savedMessage ?_)⟩
  -- The one receipt comes in first, at launch.
  intro earlier label later before after hlabels run last hreceipt _
  cases earlier with
  | nil => rw [run.eq_of_nil]; rfl
  | cons event earlier =>
      simp only [List.cons_append, List.nil_append, List.cons.injEq] at hlabels
      obtain ⟨-, hlabels⟩ := hlabels
      have hmem : label ∈ [ReceiptedEvent.job .workStep, .job .prepared] := by
        rw [hlabels]
        simp
      simp only [List.mem_cons, List.not_mem_nil, or_false] at hmem
      rcases hmem with rfl | rfl <;> exact hreceipt.elim

/-- The service gets each request, and its answers do not come back. -/
def timeouts : ServiceEnvironment where
  groupMemberIds := []
  blockedPhoneNumbers := []
  hasUDAccess := fun _ => false
  attempts := fun _ _ => restAttempt false (.failure 0 none true)

def timeoutError : SendError := .ofCode .other true

/-- The three requests of an attempt, and its failure. -/
def timeoutCalls : List SendCall :=
  [.submission false, .submission false, .submission false, .failure (some timeoutError)]

theorem sendMessageToService_timeouts (message : TSOutgoingMessage) :
    (sendMessageToService contactSend timeouts message).2 =
      .sends false [.new "+15550002" timeoutCalls] [] := by
  have hattempt : (restAttempt false (.failure 0 none true)).attempt sendToContact =
      .retried timeoutError sendToContact := by
    rw [attempt_restAttempt]
    rfl
  have hrotation : (restAttempt false (.failure 0 none true)).rotationCalls = [] := rfl
  have hcalls : sendMessageToRecipient (fun _ => restAttempt false (.failure 0 none true))
      kMaxRetriesPerRecipient 0 sendToContact = timeoutCalls := by
    simp only [kMaxRetriesPerRecipient, sendMessageToRecipient, hattempt, hrotation]
    rfl
  rw [← hcalls]
  rfl

/-- **A retry takes a receipt back**: the requests time out, but one has arrived, and its
delivery receipt comes in before the attempt fails; the next attempt is prepared, and the
recipient is being sent to, without a receipt. -/
theorem receipt_overwritten_by_retry :
    savedMessage.AtLaunch ∧ ∃ events later before after,
      LabelledRun (ReceiptedStep contactSend) savedMessage events before ∧
        LabelledRun (ReceiptedStep contactSend) before later after ∧
          before.stored.recipientState "+15550002" = some ⟨.sent, some 2, none, false⟩ ∧
            after.stored.recipientState "+15550002" = some ⟨.sending, none, none, false⟩ ∧
              ¬before.stored.ReceiptsSurvive after.stored := by
  let new : RecipientSend := .new "+15550002" timeoutCalls
  let once := new.called (.submission false) timeoutCalls.tail
  let twice := once.called (.submission false) timeoutCalls.tail.tail
  let thrice := twice.called (.submission false) [.failure (some timeoutError)]
  let failed := thrice.called (.failure (some timeoutError)) []
  have run := LabelledRun.single (ReceiptedStep.job
    (@SendState.Step.workStep contactSend savedMessage _ _ rfl rfl rfl))
  have run := run.tail (.job (@SendState.Step.prepared contactSend _ _ [] [] rfl rfl))
  have run := run.tail (.job (@SendState.Step.task contactSend _ _ _ [] [] _ .prepared _ rfl rfl
    (.serviced timeouts)))
  have run := run.tail (.job (@SendState.Step.task contactSend _ _ _ [] [] _
    (.sends false [new] []) _ rfl (congrArg ([·]) (sendMessageToService_timeouts _))
    (@TaskStep.called _ _ false [] [] new [] (.submission false) timeoutCalls.tail rfl
      ⟨by simp, by simp⟩)))
  have run := run.tail (.job (@SendState.Step.task contactSend _ _ _ [] [] _
    (.sends false [once] []) _ rfl rfl
    (@TaskStep.called _ _ false [] [] once [] (.submission false) timeoutCalls.tail.tail rfl
      ⟨by simp, by simp⟩)))
  have run := run.tail (.job (@SendState.Step.task contactSend _ _ _ [] [] _
    (.sends false [twice] []) _ rfl rfl
    (@TaskStep.called _ _ false [] [] twice [] (.submission false)
      [.failure (some timeoutError)] rfl ⟨by simp, by simp⟩)))
  have run := run.tail (.delivered "+15550002" 2)
  have next := run.rest
  have next := next.tail (.job (@SendState.Step.task contactSend _ _ _ [] [] _
    (.sends false [thrice] []) _ rfl rfl
    (@TaskStep.called _ _ false [] [] thrice [] (.failure (some timeoutError)) [] rfl
      ⟨by simp, by simp⟩)))
  have next := next.tail (.job (@SendState.Step.task contactSend _ _ _ [] [] _
    (.sends false [failed] [timeoutError]) _ rfl rfl
    (.joined (by simp [failed, thrice, twice, once, new, RecipientSend.called,
      RecipientSend.new]))))
  have next := next.tail (.job (@SendState.Step.errorReported contactSend _ _
    [.sends true [failed] [timeoutError]] [] timeoutError rfl rfl))
  have next := next.tail (.job (@SendState.Step.retried contactSend _ _
    [.sends true [failed] [timeoutError]] [] timeoutError rfl rfl rfl))
  have next := next.tail (.job (@SendState.Step.prepared contactSend _ _
    [.sends true [failed] [timeoutError]] [] rfl rfl))
  refine ⟨atLaunch_savedMessage, _, _, _, _, run, next, rfl, rfl, fun survives => ?_⟩
  obtain ⟨recipientState, hlookup, hreceipt⟩ :=
    survives.hasReceipt "+15550002" ⟨⟨.sent, some 2, none, false⟩, rfl, .inl (by simp)⟩
  cases hlookup
  exact absurd hreceipt (by decide)

end ObjcSwiftLearning.SignalServiceKit
