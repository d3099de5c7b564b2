import ObjcSwiftLearning.SignalServiceKit.SuccessfulSends

/-!
# No second delivery

Whom an attempt sends to is read off the message object it holds: in a group those in
the state sending, in a thread with a contact the contact, whatever the state.  So a
recipient that has been sent to, or is skipped, is sent to again where an attempt begins
for a contact that is settled; where the object has forgotten what the stored copy knew,
or the stored copy what the object knew; and where a send goes on after it has been
answered for.

* `SendEvent.IsCareful` — the steps at which none of this happens.
* `SendTask.Orderly` — the sends of one attempt are to different recipients, a send that
  has still to submit is to one who is not settled, and a joined one calls nothing more.
* `noSecondDelivery` — **nothing is submitted to a recipient once the message's state for
  it is sent or skipped**, in every run of careful steps.
* `secondDelivery_after_kill` — a contact is sent to again after a restart.
-/

namespace ObjcSwiftLearning.SignalServiceKit

open TSOutgoingMessage

/-! ## Careful steps -/

/-- The message's state for the recipient is sent or skipped, in the stored copy or in
the operation's. -/
def SendState.IsSettled (state : SendState) (recipientId : String) : Prop :=
  state.stored.IsSettled recipientId ∨
    ∃ operation, state.operation = some operation ∧ operation.message.IsSettled recipientId

/-- An attempt to a contact begins only while the contact is not settled; the attempts to
send to a recipient, and those to send a transcript after an error, find the app
unlocked; with the app dies no state of a message that is not saved; and no receipt
arrives of a recipient who is not done with in the operation's message. -/
def SendEvent.IsCareful (outgoing : OutgoingSend) (state : SendState) : SendEvent → Prop
  | .serviced environment =>
      (∀ contactIdentifier, outgoing.thread = .contact contactIdentifier →
        contactIdentifier ≠ outgoing.localNumber →
          contactIdentifier ∉ environment.blockedPhoneNumbers →
            ¬state.IsSettled contactIdentifier) ∧
        ∀ recipientId remaining number messageSend,
          Reaches (environment.attempts recipientId) kMaxRetriesPerRecipient 0
              (sendToRecipient outgoing environment recipientId) remaining number messageSend →
            (environment.attempts recipientId number).isAppLockedDueToPreKeyUpdateFailures = false
  | .killed =>
      outgoing.shouldBeSaved = true ∨
        ∀ recipientId, state.IsSettled recipientId → state.stored.IsSettled recipientId
  | .receiptReceived recipientId _ =>
      outgoing.shouldBeSaved = true → ∀ operation, state.operation = some operation →
        operation.message.IsDone recipientId
  | event => event.IsUnlocked outgoing

def CarefulStep (outgoing : OutgoingSend) (state : SendState) (event : SendEvent)
    (state' : SendState) : Prop :=
  SendState.Step outgoing state event state' ∧ event.IsCareful outgoing state

theorem SendEvent.IsCareful.isUnlocked {outgoing : OutgoingSend} {state : SendState}
    {event : SendEvent} (h : event.IsCareful outgoing state) : event.IsUnlocked outgoing := by
  cases event with
  | serviced _ | killed | receiptReceived _ _ => trivial
  | _ => exact h

/-! ## Orderly sends -/

/-- A send that found the app unlocked: it calls nothing once it is answered for, and while
it has still to submit its recipient is not settled. -/
structure RecipientSend.Orderly (outgoing : OutgoingSend) (message : TSOutgoingMessage)
    (send : RecipientSend) : Prop where
  callsLeft : CallsLeft False outgoing message send.recipientId send.calls
  rotations : send.rotations = []
  resolved : send.fulfilled ≠ none → send.calls = []
  unsettled : ∀ call ∈ send.calls, call.isSubmission = true →
    ¬message.IsSettled send.recipientId

/-- The sends of an attempt are orderly and to different recipients, and call nothing more
once they are joined. -/
def SendTask.Orderly (outgoing : OutgoingSend) (message : TSOutgoingMessage) : SendTask → Prop
  | .sends true toRecipients _ => ∀ send ∈ toRecipients, send.calls = [] ∧ send.rotations = []
  | .sends false toRecipients _ =>
      (toRecipients.map RecipientSend.recipientId).Nodup ∧
        ∀ send ∈ toRecipients, send.Orderly outgoing message
  | _ => True

variable {task : SendTask} {event : SendEvent} {change : TSOutgoingMessage → TSOutgoingMessage}

section Orderly

variable {outgoing : OutgoingSend} {environment : ServiceEnvironment} {tasks : List SendTask}
  {message message' : TSOutgoingMessage} {recipientId : String} {recipientIds : List String}

/-- A send stays orderly where its recipient is not settled meanwhile. -/
theorem RecipientSend.Orderly.mono {send : RecipientSend} (h : send.Orderly outgoing message)
    (advances : message.Advances message')
    (spares : message'.IsSettled send.recipientId → message.IsSettled send.recipientId) :
    send.Orderly outgoing message' where
  callsLeft := h.callsLeft.mono advances
  rotations := h.rotations
  resolved := h.resolved
  unsettled call hcall hsubmits hsettled := h.unsettled call hcall hsubmits (spares hsettled)

theorem SendTask.Orderly.mono (h : task.Orderly outgoing message)
    (advances : message.Advances message')
    (spares : ∀ toRecipients sendErrors, task = .sends false toRecipients sendErrors →
      ∀ recipientId, message'.IsSettled recipientId → message.IsSettled recipientId) :
    task.Orderly outgoing message' := by
  match task with
  | .sends false toRecipients sendErrors =>
      exact ⟨h.1, fun send hsend => (h.2 send hsend).mono advances (spares _ _ rfl _)⟩
  | .sends true _ _ => exact h
  | .run | .prepared | .sentLocally _ | .transcript _ _ | .report _ | .didReport _ => trivial

theorem RecipientSend.Orderly.called {send : RecipientSend} {call : SendCall}
    {calls : List SendCall} (h : send.Orderly outgoing message)
    (next : send.calls = call :: calls) :
    (send.called call calls).Orderly outgoing
      (callChange outgoing send.recipientId call message) := by
  have hfirst := h.callsLeft
  rw [next] at hfirst
  have hleft := hfirst.firstCall.callsLeft
  -- it has not been answered for, with a call to make
  have hopen : send.fulfilled ≠ none → calls = [] := fun hne =>
    absurd (next.symm.trans (h.resolved hne)) (List.cons_ne_nil _ _)
  have hkept : ∀ {other : RecipientSend}, other.calls = calls → other.rotations = send.rotations →
      other.recipientId = send.recipientId → (other.fulfilled ≠ none → calls = []) →
      (∀ later ∈ calls, later.isSubmission = true →
        ¬(callChange outgoing send.recipientId call message).IsSettled send.recipientId) →
      other.Orderly outgoing (callChange outgoing send.recipientId call message) := by
    intro other hcalls hrotations hrecipient hresolved hunsettled
    refine ⟨?_, hrotations.trans h.rotations, ?_, ?_⟩
    · rw [hcalls, hrecipient]
      exact hleft
    · rw [hcalls]
      exact hresolved
    · rw [hcalls, hrecipient]
      exact hunsettled
  cases hfirst.firstCall with
  | submission later =>
      refine hkept rfl rfl rfl hopen fun later hlater hsubmits => ?_
      exact h.unsettled later (next ▸ .tail _ hlater) hsubmits
  | rotation mayRotate => exact mayRotate.elim
  | failure counts | success done | raises => exact hkept rfl rfl rfl (fun _ => rfl) (by simp)
  | unregistered | skipped | sent wasSentByUD =>
      exact hkept rfl rfl rfl hopen (by simp [SendCall.isSubmission])

/-! ## Whom a change settles -/

theorem isSettled_callChange_of_ne {recipientId other : String} {call : SendCall}
    (h : recipientId ≠ other) :
    (callChange outgoing other call message).IsSettled recipientId ↔
      message.IsSettled recipientId := by
  cases call with
  | updateWithSentRecipient wasSentByUD => exact isSettled_congr (AList.lookup_modify_of_ne h)
  | updateWithSkippedRecipient => exact isSettled_updateWithSkippedRecipient_of_ne h
  | unregisteredRecipient =>
      rw [callChange]
      split
      · exact isSettled_updateWithSkippedRecipient_of_ne h
      · exact Iff.rfl
  | rotateSignedPreKey _ | submission _ | success | failure _ | exception => exact Iff.rfl

theorem isSettled_transcriptChange {call : SendCall} :
    (transcriptChange call message).IsSettled recipientId ↔ message.IsSettled recipientId := by
  cases call <;> exact Iff.rfl

theorem isSettled_skipObsolete_of_mem (hmem : recipientId ∈ recipientIds) :
    (skipObsolete message recipientIds message).IsSettled recipientId ↔
      message.IsSettled recipientId :=
  isSettled_foldl_of_notMem
    (fun _ _ hne => isSettled_updateWithSkippedRecipient_of_ne (Ne.symm hne))
    (by simp [hmem]) message

/-! ## The recipients of an attempt -/

theorem nodup_unsentRecipients
    (h : unsentRecipientsForMessage outgoing environment message = .ok recipientIds) :
    recipientIds.Nodup := by
  rw [unsentRecipientsForMessage] at h
  split at h
  · cases h
    exact (AList.nodup_keysWhere.filter _).filter _
  · split at h
    · cases h
    · cases h
      exact (List.nodup_singleton _).filter _

theorem not_isSettled_of_unsentRecipients
    (h : unsentRecipientsForMessage outgoing environment message = .ok recipientIds)
    (contact : ∀ contactIdentifier, outgoing.thread = .contact contactIdentifier →
      contactIdentifier ∉ environment.blockedPhoneNumbers → ¬message.IsSettled contactIdentifier)
    (hmem : recipientId ∈ recipientIds) : ¬message.IsSettled recipientId := by
  rw [unsentRecipientsForMessage] at h
  split at h
  · cases h
    exact not_isSettled_of_mem_sendingRecipientIds
      (List.mem_filter.mp (List.mem_filter.mp hmem).1).1
  · rename_i contactIdentifier hthread
    split at h
    · cases h
    · rename_i hblocked
      cases h
      rw [List.mem_singleton.mp (List.mem_filter.mp hmem).1]
      exact contact contactIdentifier hthread hblocked

theorem orderly_failureHandler {error : SendError} :
    (failureHandler message error).Orderly outgoing message' := by
  rw [failureHandler]
  split <;> trivial

/-- An attempt that begins carefully sends to different recipients, none of them settled. -/
theorem orderly_sendMessageToService
    (contact : ∀ contactIdentifier, outgoing.thread = .contact contactIdentifier →
      contactIdentifier ≠ outgoing.localNumber →
        contactIdentifier ∉ environment.blockedPhoneNumbers → ¬message.IsSettled contactIdentifier)
    (unlocked : ∀ recipientId remaining number messageSend,
      Reaches (environment.attempts recipientId) kMaxRetriesPerRecipient 0
          (sendToRecipient outgoing environment recipientId) remaining number messageSend →
        (environment.attempts recipientId number).isAppLockedDueToPreKeyUpdateFailures = false) :
    (sendMessageToService outgoing environment message).2.Orderly outgoing
      ((sendMessageToService outgoing environment message).1 message) := by
  rw [sendMessageToService]
  split
  · trivial
  · rename_i hself
    split
    · exact orderly_failureHandler
    · rename_i recipientIds hrecipients
      dsimp only
      split
      · trivial
      · refine ⟨?_, fun send hsend => ?_⟩
        · rw [List.map_map]
          exact (List.map_id _).symm ▸ nodup_unsentRecipients hrecipients
        · obtain ⟨recipientId, hmem, rfl⟩ := List.mem_map.mp hsend
          refine ⟨.trace (sendTrace_sendMessageToRecipient fun _ _ _ reaches locked => ?_), rfl,
            fun hne => absurd rfl hne, fun _ _ _ => ?_⟩
          · rw [unlocked _ _ _ _ reaches] at locked
            cases locked
          · rw [recipientSend, RecipientSend.new, isSettled_skipObsolete_of_mem hmem]
            refine not_isSettled_of_unsentRecipients hrecipients ?_ hmem
            intro contactIdentifier hthread
            refine contact contactIdentifier hthread ?_
            rintro rfl
            exact hself hthread

/-! ## Each step of a task -/

/-- Two elements of a list without repetition, one of them in its place. -/
theorem notMem_of_nodup_map {ahead behind : List RecipientSend} {send other : RecipientSend}
    (h : ((ahead ++ send :: behind).map RecipientSend.recipientId).Nodup)
    (hmem : other ∈ ahead ++ behind) : other.recipientId ≠ send.recipientId := by
  rw [List.map_append, List.map_cons, List.nodup_middle, List.nodup_cons, ← List.map_append] at h
  intro heq
  exact h.1 (heq ▸ List.mem_map_of_mem hmem)

theorem TaskStep.orderly {state : SendState} {operation : MessageSenderOperation}
    (h : TaskStep outgoing operation.message task event change tasks)
    (alive : state.operation = some operation) (careful : event.IsCareful outgoing state)
    (orderly : task.Orderly outgoing operation.message) :
    ∀ left ∈ tasks, left.Orderly outgoing (change operation.message) := by
  cases h with
  | preconditionFailed error | sentLocally skips | transcriptSent hasUDAccess attempts syncs =>
      rintro _ (_ | ⟨_, ⟨⟩⟩)
      trivial
  | serviced environment =>
      rintro _ (_ | ⟨_, ⟨⟩⟩)
      refine orderly_sendMessageToService ?_ careful.2
      intro contactIdentifier hthread hself hblocked hsettled
      exact careful.1 contactIdentifier hthread hself hblocked (.inr ⟨operation, alive, hsettled⟩)
  | @called isJoined ahead behind send sendErrors call calls next survives =>
      rintro _ (_ | ⟨_, ⟨⟩⟩)
      cases isJoined with
      | true =>
          -- After the join no send makes a call any more.
          have hnone := (orderly send (List.mem_append_right _ (.head _))).1
          rw [next] at hnone
          cases hnone
      | false =>
          obtain ⟨nodup, sends⟩ := orderly
          refine ⟨?_, fun other hmem => ?_⟩
          · rw [List.map_append, List.map_cons, recipientId_called, ← List.map_cons,
              ← List.map_append]
            exact nodup
          -- No two sends are to one recipient, so the call changes nobody else's state.
          · have hothers : other ∈ ahead ++ behind →
                other.Orderly outgoing
                  (callChange outgoing send.recipientId call operation.message) := by
              intro hother
              refine (sends other ?_).mono (isUpdateKind_isProgress.callChange.advances _)
                (isSettled_callChange_of_ne (notMem_of_nodup_map nodup hother)).mp
              exact ((List.sublist_cons_self _ _).append_left _).subset hother
            rcases List.mem_append.mp hmem with hahead | hmem
            · exact hothers (List.mem_append_left _ hahead)
            · rcases List.mem_cons.mp hmem with rfl | hbehind
              · exact (sends send (List.mem_append_right _ (.head _))).called next
              · exact hothers (List.mem_append_right _ hbehind)
  | @rotationAnswered isJoined ahead behind send sendErrors before after error begun =>
      have hnone : send.rotations = [] := by
        cases isJoined with
        | true => exact (orderly send (List.mem_append_right _ (.head _))).2
        | false => exact (orderly.2 send (List.mem_append_right _ (.head _))).rotations
      rw [begun] at hnone
      exact absurd hnone (by simp)
  | joined resolved =>
      rintro _ (_ | ⟨_, (_ | ⟨_, ⟨⟩⟩)⟩)
      · exact fun send hsend =>
          ⟨(orderly.2 send hsend).resolved (resolved send hsend), (orderly.2 send hsend).rotations⟩
      · rw [joinOutcome]
        split
        · trivial
        · split
          · trivial
          · exact orderly_failureHandler
  | @transcriptCalled error send call calls next survives =>
      intro left hleft
      rcases List.mem_cons.mp hleft with rfl | hleft
      · trivial
      · cases call with
        | success | failure _ =>
            rw [List.mem_singleton.mp hleft]
            trivial
        | rotateSignedPreKey _ | submission _ | updateWithSentRecipient _
        | updateWithSkippedRecipient | unregisteredRecipient | exception => cases hleft
  | transcriptRotationAnswered begun =>
      rintro _ (_ | ⟨_, (_ | ⟨_, ⟨⟩⟩)⟩)
      · trivial
      · trivial

theorem TaskStep.isSettled_of_weight (h : TaskStep outgoing message task event change tasks)
    (orderly : task.Orderly outgoing message) (hweight : task.weight = 0)
    (hsettled : (change message).IsSettled recipientId) : message.IsSettled recipientId := by
  cases h with
  | serviced environment => cases hweight
  | @called isJoined ahead behind send sendErrors call calls next survives =>
      cases isJoined with
      | true =>
          have hnone := (orderly send (List.mem_append_right _ (.head _))).1
          rw [next] at hnone
          cases hnone
      | false => cases hweight
  | transcriptCalled => exact isSettled_transcriptChange.mp hsettled
  | preconditionFailed | rotationAnswered | joined | sentLocally | transcriptSent
  | transcriptRotationAnswered => exact hsettled

end Orderly

/-! ## Every step of the job -/

namespace SendState

variable {outgoing : OutgoingSend} {state state' : SendState} {event : SendEvent}
  {message : TSOutgoingMessage} {recipientId : String}

/-- What careful steps keep while the operation of the message is alive: besides what every
step keeps, its tasks are orderly, and the stored copy has settled nobody the message has
not. -/
structure Steady (outgoing : OutgoingSend) (state : SendState) (message : TSOutgoingMessage) :
    Prop where
  sound : state.Sound outgoing message
  orderly : ∀ task ∈ state.tasks, task.Orderly outgoing message
  advances : outgoing.shouldBeSaved = true → message.Advances state.stored
  stored : state.stored.Advances message

/-- A task that changes the message settles nobody whom another attempt still sends to. -/
theorem Steady.isSettled_of_other {earlier later tasks : List SendTask}
    {sends : List RecipientSend} {sendErrors : List SendError} (h : state.Steady outgoing message)
    (outstanding : state.tasks = earlier ++ task :: later)
    (taskStep : TaskStep outgoing message task event change tasks)
    (hother : .sends false sends sendErrors ∈ earlier ++ later)
    (hsettled : (change message).IsSettled recipientId) : message.IsSettled recipientId := by
  rcases h.sound.reports with hall | hone
  · exact (taskStep.isProgress.advances message).isSettled_of_allSettled hall hsettled
  · refine taskStep.isSettled_of_weight (h.orderly task ?_) ?_ hsettled
    · exact outstanding ▸ List.mem_append_right _ (.head _)
    · obtain ⟨before, after, hsplit⟩ := List.append_of_mem hother
      have htwo := congrArg SendTask.weights hsplit
      rw [outstanding] at hone
      simp only [SendTask.weights_append, SendTask.weights_cons] at hone htwo
      have hself : (SendTask.sends false sends sendErrors).weight = 1 := rfl
      omega

theorem orderly_goesOn {message' : TSOutgoingMessage} {earlier later tasks : List SendTask}
    {task : SendTask} (orderly : ∀ task ∈ state.tasks, task.Orderly outgoing message)
    (outstanding : state.tasks = earlier ++ task :: later)
    (left : state'.tasks = earlier ++ tasks ++ later) (advances : message.Advances message')
    (spares : ∀ toRecipients sendErrors,
      SendTask.sends false toRecipients sendErrors ∈ earlier ++ later →
        ∀ recipientId, message'.IsSettled recipientId → message.IsSettled recipientId)
    (new : ∀ left ∈ tasks, left.Orderly outgoing message') :
    ∀ task ∈ state'.tasks, task.Orderly outgoing message' := by
  have keeps : ∀ other ∈ earlier ++ later, other.Orderly outgoing message' := by
    intro other hother
    refine (orderly other ?_).mono advances ?_
    · rw [outstanding]
      exact ((List.sublist_cons_self _ _).append_left _).subset hother
    · rintro toRecipients sendErrors rfl
      exact spares toRecipients sendErrors hother
  intro other hmem
  rw [left, List.append_assoc] at hmem
  rcases List.mem_append.mp hmem with hearlier | hmem
  · exact keeps other (List.mem_append_left _ hearlier)
  · rcases List.mem_append.mp hmem with hnew | hlater
    · exact new other hnew
    · exact keeps other (List.mem_append_right _ hlater)

/-- **Each careful step keeps the tasks orderly.** -/
theorem Step.orderly (h : Step outgoing state event state')
    (careful : event.IsCareful outgoing state)
    (steady : ∀ operation, state.operation = some operation →
      state.Steady outgoing operation.message) :
    ∀ operation, state'.operation = some operation →
      ∀ task ∈ state'.tasks, task.Orderly outgoing operation.message := by
  cases h with
  | workStep fresh row starts =>
      rintro _ ⟨⟩ _ (_ | ⟨_, ⟨⟩⟩)
      trivial
  | @prepared operation earlier later alive outstanding =>
      rintro _ ⟨⟩
      refine orderly_goesOn (steady operation alive).orderly outstanding (List.append_cons _ _ _)
        operation.message.advances_updateWithMarkingAllUnsentRecipientsAsSending
        (fun _ _ _ _ => isSettled_updateWithMarkingAllUnsentRecipientsAsSending.mp) ?_
      rintro _ (_ | ⟨_, ⟨⟩⟩)
      trivial
  | @task operation _ earlier later tasks task change alive outstanding taskStep =>
      rintro _ ⟨⟩
      have hsteady := steady operation alive
      refine orderly_goesOn hsteady.orderly outstanding rfl (taskStep.isProgress.advances _)
        (fun _ _ hother _ => hsteady.isSettled_of_other outstanding taskStep hother) ?_
      refine taskStep.orderly alive careful (hsteady.orderly task ?_)
      exact outstanding ▸ List.mem_append_right _ (.head _)
  | @succeeded operation earlier later alive outstanding =>
      intro operation' halive
      rw [alive] at halive
      cases halive
      exact orderly_goesOn (steady operation alive).orderly outstanding
        (congrArg (· ++ later) (List.append_nil earlier).symm) (.refl _) (fun _ _ _ _ => id) nofun
  | @errorReported operation earlier later error alive outstanding
  | @retried operation earlier later error alive outstanding waits =>
      rintro _ ⟨⟩
      refine orderly_goesOn (steady operation alive).orderly outstanding (List.append_cons _ _ _)
        (.refl _) (fun _ _ _ _ => id) ?_
      rintro _ (_ | ⟨_, ⟨⟩⟩)
      trivial
  | @gaveUp operation earlier later error alive outstanding givesUp =>
      rintro _ ⟨⟩
      exact orderly_goesOn (steady operation alive).orderly outstanding
        (congrArg (· ++ later) (List.append_nil earlier).symm)
        operation.message.advances_updateWithAllSendingRecipientsMarkedAsFailed
        (fun _ _ _ _ => isSettled_updateWithAllSendingRecipientsMarkedAsFailed.mp) nofun
  | killed => nofun
  | restartedOldJobs launched =>
      intro operation halive
      rw [operation_restartOldJobs, launched] at halive
      cases halive
  | failedMessagesJobRan =>
      intro operation halive
      rw [operation_runFailedMessagesJob] at halive
      rw [tasks_runFailedMessagesJob]
      exact (steady operation halive).orderly
  | receiptReceived recipientId timestamp =>
      exact fun operation halive => (steady operation halive).orderly

/-! ## The copies -/

theorem runFailedMessagesJob_advances :
    (state.runFailedMessagesJob outgoing).stored.Advances state.stored := by
  rw [runFailedMessagesJob]
  split
  · rw [SendState.saved]
    split
    · exact updateWithAllSendingRecipientsMarkedAsFailed_advances
    · exact .refl _
  · exact .refl _

/-- **Each careful step keeps the operation's message** up with the stored copy. -/
theorem Step.stored_advances (h : Step outgoing state event state')
    (careful : event.IsCareful outgoing state)
    (advances : ∀ operation, state.operation = some operation →
      state.stored.Advances operation.message) :
    ∀ operation, state'.operation = some operation →
      state'.stored.Advances operation.message := by
  have copies : IsCopyRelation outgoing Advances :=
    { refl := .refl
      updates := fun _ _ _ _ _ _ _ _ taskStep => taskStep.isProgress.mono _ _
      fails := fun _ _ _ => .updateWithAllSendingRecipientsMarkedAsFailed
      unsaved := fun _ _ message h =>
        ⟨h.trans message.advances_updateWithMarkingAllUnsentRecipientsAsSending,
          h.trans message.advances_updateWithAllSendingRecipientsMarkedAsFailed,
          fun taskStep => h.trans (taskStep.isProgress.advances message)⟩ }
  refine h.related copies advances (fun _ h => runFailedMessagesJob_advances.trans h) ?_
  rintro recipientId timestamp operation rfl saved halive
  exact (advances operation halive).updateWithReadRecipientId (careful saved operation halive)

/-! ## Every run -/

theorem Steady.isSettled {operation : MessageSenderOperation}
    (h : state.Steady outgoing operation.message) (alive : state.operation = some operation)
    (settled : state.IsSettled recipientId) : operation.message.IsSettled recipientId := by
  rcases settled with hstored | ⟨other, hother, hsettled⟩
  · exact h.stored.isSettled recipientId hstored
  · rw [alive] at hother
    cases hother
    exact hsettled

theorem advances_restartOldJobs : state.stored.Advances (state.restartOldJobs outgoing).stored := by
  rw [restartOldJobs]
  split
  · exact .refl _
  · split
    · rw [SendState.saved]
      split
      · exact state.stored.advances_updateWithMarkingAllUnsentRecipientsAsSending
      · exact .refl _
    · exact .refl _

/-- **Who is settled stays settled**, by each careful step. -/
theorem Step.isSettled (h : Step outgoing state event state')
    (careful : event.IsCareful outgoing state)
    (steady : ∀ operation, state.operation = some operation →
      state.Steady outgoing operation.message)
    (settled : state.IsSettled recipientId) : state'.IsSettled recipientId := by
  have hmessage (operation : MessageSenderOperation) (alive : state.operation = some operation) :
      operation.message.IsSettled recipientId :=
    (steady operation alive).isSettled alive settled
  cases h with
  | workStep fresh row starts =>
      rcases settled with hstored | ⟨operation, halive, -⟩
      · exact .inl hstored
      · rw [fresh] at halive
        cases halive
  | @prepared operation earlier later alive outstanding =>
      exact .inr ⟨_, rfl,
        isSettled_updateWithMarkingAllUnsentRecipientsAsSending.mpr (hmessage operation alive)⟩
  | @task operation _ earlier later tasks task change alive outstanding taskStep =>
      exact .inr ⟨_, rfl, (taskStep.isProgress.advances _).isSettled _ (hmessage operation alive)⟩
  | @succeeded operation earlier later alive outstanding =>
      exact .inr ⟨operation, alive, hmessage operation alive⟩
  | @errorReported operation earlier later error alive outstanding =>
      exact .inr ⟨_, rfl, hmessage operation alive⟩
  | @retried operation earlier later error alive outstanding waits =>
      exact .inr ⟨_, rfl, hmessage operation alive⟩
  | @gaveUp operation earlier later error alive outstanding givesUp =>
      exact .inr ⟨_, rfl,
        isSettled_updateWithAllSendingRecipientsMarkedAsFailed.mpr (hmessage operation alive)⟩
  | killed =>
      refine .inl ?_
      -- A saved message has stored what its operation knew, and the kill of another is careful.
      rcases careful with hsaved | hkept
      · rcases settled with hstored | ⟨operation, halive, hsettled⟩
        · exact hstored
        · exact ((steady operation halive).advances hsaved).isSettled _ hsettled
      · exact hkept recipientId settled
  | restartedOldJobs launched =>
      refine settled.imp (advances_restartOldJobs.isSettled _) ?_
      rw [operation_restartOldJobs]
      exact id
  | failedMessagesJobRan =>
      refine settled.imp (advances_runFailedMessagesJob.isSettled _) ?_
      rw [operation_runFailedMessagesJob]
      exact id
  | receiptReceived other timestamp =>
      refine settled.imp_left fun hstored => ?_
      simp only [SendState.saved]
      split
      · exact (state.stored.advances_updateWithReadRecipientId other timestamp).isSettled _ hstored
      · exact hstored

theorem Step.not_isSettled_of_submission {isAppLocked : Bool}
    (h : Step outgoing state (.called recipientId (.submission isAppLocked)) state')
    (steady : ∀ operation, state.operation = some operation →
      state.Steady outgoing operation.message) : ¬state.IsSettled recipientId := by
  generalize hevent : SendEvent.called recipientId (.submission isAppLocked) = event at h
  cases h with
  | @task operation _ earlier later tasks task change alive outstanding taskStep =>
      intro settled
      have hsteady := steady operation alive
      have horderly := hsteady.orderly task (outstanding ▸ List.mem_append_right _ (.head _))
      cases taskStep with
      | @called isJoined ahead behind send sendErrors call calls next survives =>
          cases hevent
          cases isJoined with
          | true =>
              have hnone := (horderly send (List.mem_append_right _ (.head _))).1
              rw [next] at hnone
              cases hnone
          | false =>
              refine (horderly.2 send (List.mem_append_right _ (.head _))).unsettled
                (.submission isAppLocked) ?_ rfl (hsteady.isSettled alive settled)
              exact next ▸ .head _
      | _ => cases hevent
  | _ => cases hevent

theorem steady_of_run {start : SendState} {events : List SendEvent} (launched : start.AtLaunch)
    (run : LabelledRun (CarefulStep outgoing) start events state) :
    ∀ operation, state.operation = some operation → state.Steady outgoing operation.message := by
  refine run.invariant (I := fun _ state =>
    ∀ operation, state.operation = some operation → state.Steady outgoing operation.message) ?_ ?_
  · intro operation halive
    rw [launched.operation] at halive
    cases halive
  · intro _ state event state' steady step operation halive
    refine ⟨?_, ?_, fun saved => ?_, ?_⟩
    · exact step.1.sound step.2.isUnlocked (fun other hother => (steady other hother).sound)
        operation halive
    · exact step.1.orderly step.2 steady operation halive
    · exact step.1.advances_stored saved (fun other hother => (steady other hother).advances saved)
        operation halive
    · exact step.1.stored_advances step.2 (fun other hother => (steady other hother).stored)
        operation halive

/-- **Once the message's state for a recipient is sent or skipped, the message is not
submitted to it again**, in every run of careful steps. -/
theorem noSecondDelivery {start : SendState} {events events' : List SendEvent}
    (launched : start.AtLaunch) (run : LabelledRun (CarefulStep outgoing) start events state)
    (settled : state.IsSettled recipientId)
    (later : LabelledRun (CarefulStep outgoing) state events' state') (isAppLocked : Bool) :
    .called recipientId (.submission isAppLocked) ∉ events' := by
  have h : LabelledRun (CarefulStep outgoing) start (events ++ events') state' ∧
      state'.IsSettled recipientId ∧ .called recipientId (.submission isAppLocked) ∉ events' := by
    refine later.invariant (I := fun events' state' =>
      LabelledRun (CarefulStep outgoing) start (events ++ events') state' ∧
        state'.IsSettled recipientId ∧
          .called recipientId (.submission isAppLocked) ∉ events') ?_ ?_
    · exact ⟨(List.append_nil events).symm ▸ run, settled, nofun⟩
    · rintro events' state event state' ⟨run, settled, hnone⟩ step
      have steady := steady_of_run launched run
      refine ⟨?_, step.1.isSettled step.2 steady settled, fun hmem => ?_⟩
      · rw [← List.append_assoc]
        exact .tail run step
      · rcases List.mem_append.mp hmem with hmem | hmem
        · exact hnone hmem
        · rw [← List.mem_singleton.mp hmem] at step
          exact step.1.not_isSettled_of_submission steady settled
  exact h.2.2

/-- Of two members of a group one has been sent to before, and is not sent to again. -/
theorem noSecondDelivery_of_lastRetry :
    ∃ events state, LabelledRun (CarefulStep (groupSend true)) lastRetry events state ∧
      .called "+15550003" (.failure (some sendFailure)) ∈ events ∧
        .called "+15550002" (.submission false) ∉ events := by
  have started : LabelledRun (CarefulStep (groupSend true)) lastRetry _ _ :=
    .single ⟨@Step.workStep (groupSend true) lastRetry _ _ rfl rfl rfl, trivial⟩
  have prepared := started.tail ⟨@Step.prepared (groupSend true) _ _ [] [] rfl rfl, trivial⟩
  have serviced := prepared.tail ⟨@Step.task (groupSend true) _ _ _ [] [] _ .prepared _ rfl rfl
    (.serviced (groupEnvironment ["+15550002", "+15550003"])), nofun, fun _ _ _ _ _ => rfl⟩
  have called := serviced.tail ⟨@Step.task (groupSend true) _ _ _ [] [] _ _ _ rfl rfl
    (@TaskStep.called _ _ false [] [] (.new "+15550003" [.failure (some sendFailure)]) []
      (.failure (some sendFailure)) [] rfl ⟨nofun, nofun⟩), trivial⟩
  exact ⟨_, _, called, List.mem_append_right _ (.head _),
    noSecondDelivery ⟨rfl, rfl⟩ .refl (.inl ⟨_, rfl, .inl rfl⟩) called false⟩

def contactSend : OutgoingSend where
  thread := .contact "+15550002"
  localNumber := "+15550001"
  groupMetaMessage := .deliver
  isTransient := false
  neverSyncs := false

/-- The service takes the message. -/
def contactEnvironment : ServiceEnvironment where
  groupMemberIds := []
  blockedPhoneNumbers := []
  hasUDAccess := fun _ => false
  attempts := fun _ _ => restAttempt false .success

/-- A launch with a new job. -/
def newMessage : SendState where
  jobRecord := some
    { sortId := 1
      status := .ready
      failureCount := 0
      job := ⟨some "m", some "c"⟩ }
  stored := initOutgoingMessage "m" 1 ["+15550002"]
  operation := none
  tasks := []

def sentAndKilled : SendState where
  jobRecord := some
    { sortId := 1
      status := .running
      failureCount := 0
      job := ⟨some "m", some "c"⟩ }
  stored := newMessage.stored.updateWithMarkingAllUnsentRecipientsAsSending.updateWithSentRecipient
    "+15550002" false
  operation := none
  tasks := []

theorem recipientSend_contact :
    recipientSend contactSend contactEnvironment "+15550002" =
      .new "+15550002" [.submission false, .updateWithSentRecipient false, .success] := by
  rw [recipientSend]
  congr 1
  change sendMessageToRecipient (fun _ => restAttempt false .success) kMaxRetriesPerRecipient 0
    sendToContact = _
  rw [kMaxRetriesPerRecipient, sendMessageToRecipient, attempt_restAttempt]
  rfl

/-- **A contact is sent to again** when the app is killed after the contact has been sent
to and before the job is done. -/
theorem secondDelivery_after_kill :
    newMessage.AtLaunch ∧ ∃ state state',
      LabelledRun (Step contactSend) newMessage
        [.workStep, .prepared, .serviced contactEnvironment,
          .called "+15550002" (.submission false),
          .called "+15550002" (.updateWithSentRecipient false)] state ∧
      state.IsSettled "+15550002" ∧
      LabelledRun (Step contactSend) state
        [.killed, .restartedOldJobs, .workStep, .prepared, .serviced contactEnvironment,
          .called "+15550002" (.submission false)] state' := by
  let send : RecipientSend := recipientSend contactSend contactEnvironment "+15550002"
  have next : send.calls = [.submission false, .updateWithSentRecipient false, .success] :=
    congrArg RecipientSend.calls recipientSend_contact
  have run : LabelledRun (Step contactSend) newMessage _ _ :=
    .single (@Step.workStep contactSend newMessage _ _ rfl rfl rfl)
  have run := run.tail (@Step.prepared contactSend _ _ [] [] rfl rfl)
  have run := run.tail (@Step.task contactSend _ _ _ [] [] _ .prepared _ rfl rfl
    (.serviced contactEnvironment))
  have run := run.tail (@Step.task contactSend _ _ _ [] [] _ _ _ rfl rfl
    (@TaskStep.called _ _ false [] [] send [] _ _ next ⟨nofun, nofun⟩))
  have run := run.tail (@Step.task contactSend _ _ _ [] [] _ _ _ rfl rfl
    (@TaskStep.called _ _ false [] []
      (send.called (.submission false) [.updateWithSentRecipient false, .success]) [] _ _ rfl
      ⟨nofun, nofun⟩))
  obtain ⟨state, run, hkilled⟩ : ∃ state, LabelledRun (Step contactSend) newMessage
      [.workStep, .prepared, .serviced contactEnvironment, .called "+15550002" (.submission false),
        .called "+15550002" (.updateWithSentRecipient false)] state ∧
      { state with
        operation := none
        tasks := [] } = sentAndKilled :=
    ⟨_, run, rfl⟩
  have settled : sentAndKilled.stored.IsSettled "+15550002" := ⟨_, rfl, .inl rfl⟩
  rw [← hkilled] at settled
  have later := LabelledRun.single (@Step.killed contactSend state)
  rw [hkilled] at later
  have later := later.tail (@Step.restartedOldJobs contactSend _ rfl)
  have later := later.tail (@Step.workStep contactSend _ _ _ rfl rfl rfl)
  have later := later.tail (@Step.prepared contactSend _ _ [] [] rfl rfl)
  have later := later.tail (@Step.task contactSend _ _ _ [] [] _ .prepared _ rfl rfl
    (.serviced contactEnvironment))
  have later := later.tail (@Step.task contactSend _ _ _ [] [] _ _ _ rfl rfl
    (@TaskStep.called _ _ false [] [] send [] _ _ next ⟨nofun, nofun⟩))
  exact ⟨⟨rfl, rfl⟩, state, _, run, .inl settled, later⟩

end SendState

end ObjcSwiftLearning.SignalServiceKit
