import Mathlib.Algebra.GroupWithZero.Nat
import ObjcSwiftLearning.SignalServiceKit.SendToService

/-!
# A send reported as successful has reached everybody

The job of a message reports success where there is nobody left to send to, where all
sends are fulfilled, or where the errors of those rejected are all ignored.  What an
attempt knows is the message object it holds: who is to be sent to there has a send, and
a send calls `success` after the recipient has been marked.

* `SendTask.Sound` — what a task relies on; a task that leads to a success relies on
  every recipient being settled.
* `SendState.Sound` — each task is sound, and only one leads to a report.
* `Step.advances_stored` — the stored copy has settled whoever the object has.
* `successful_reachesEverybody` — **a success is reported when the message is sent**, in
  every run in which the app is not locked when a transcript is sent after an error.
* `not_everybodyReached` — a run in which it is.
-/

namespace ObjcSwiftLearning.SignalServiceKit

open TSOutgoingMessage

/-! ## What a task relies on -/

/-- The calls that the send to a recipient has left, with rotations if it `rotates`; before
it calls `success` the recipient is settled, and in a group also before it fails with an
ignored error. -/
inductive CallsLeft (rotates : Prop) (outgoing : OutgoingSend) (message : TSOutgoingMessage)
    (recipientId : String) : List SendCall → Prop
  | trace {calls : List SendCall} (trace : SendTrace rotates calls) :
      CallsLeft rotates outgoing message recipientId calls
  | success (done : message.IsDone recipientId) :
      CallsLeft rotates outgoing message recipientId [.success]
  | unregistered (done : outgoing.isGroupThread = true → message.IsDone recipientId) :
      CallsLeft rotates outgoing message recipientId [.failure (some .unregisteredRecipient)]

/-- The group takes no notice of the error. -/
def IsIgnored (outgoing : OutgoingSend) (error : SendError) : Prop :=
  (outgoing.isGroupThread && error.shouldBeIgnoredForGroups) = true

/-- What has become of a send: it is fulfilled only with the recipient settled, and
rejected with an error that counts, unless the recipient is settled. -/
structure RecipientSend.Sound (outgoing : OutgoingSend) (message : TSOutgoingMessage)
    (sendErrors : List SendError) (send : RecipientSend) : Prop where
  callsLeft : CallsLeft True outgoing message send.recipientId send.calls
  rotations : ∀ error ∈ send.rotations, error.shouldBeIgnoredForGroups = false
  fulfilled : send.fulfilled = some true → message.IsDone send.recipientId
  rejected : send.fulfilled = some false →
    message.IsDone send.recipientId ∨ ∃ error ∈ sendErrors, ¬IsIgnored outgoing error

namespace SendTask

/-- How many reports a task may still lead to. -/
def weight : SendTask → ℕ
  | .sends true _ _ => 0
  | .transcript _ send => send.calls.countP SendCall.completes + send.rotations.length
  | _ => 1

def Sound (outgoing : OutgoingSend) (message : TSOutgoingMessage) : SendTask → Prop
  | .prepared => message.NoneFailed
  | .sends false toRecipients sendErrors =>
      (∀ recipientId, message.IsDone recipientId ∨
        ∃ send ∈ toRecipients, send.recipientId = recipientId) ∧
        ∀ send ∈ toRecipients, send.Sound outgoing message sendErrors
  | .sentLocally none | .transcript none _ | .report none => message.AllSettled
  | _ => True

/-- How many reports tasks may still lead to. -/
def weights (tasks : List SendTask) : ℕ := (tasks.map weight).sum

@[simp] theorem weights_nil : weights [] = 0 := rfl

@[simp] theorem weights_cons {task : SendTask} {tasks : List SendTask} :
    weights (task :: tasks) = task.weight + weights tasks := by
  simp [weights]

@[simp] theorem weights_append {tasks later : List SendTask} :
    weights (tasks ++ later) = weights tasks + weights later := by
  simp [weights]

end SendTask

section Monotone

variable {outgoing : OutgoingSend} {message message' : TSOutgoingMessage} {recipientId : String}

theorem CallsLeft.mono {rotates : Prop} {calls : List SendCall}
    (h : CallsLeft rotates outgoing message recipientId calls)
    (advances : message.Advances message') :
    CallsLeft rotates outgoing message' recipientId calls := by
  cases h with
  | trace trace => exact .trace trace
  | success done => exact .success (advances.isDone done)
  | unregistered done => exact .unregistered fun hgroup => advances.isDone (done hgroup)

theorem RecipientSend.Sound.mono {send : RecipientSend} {sendErrors sendErrors' : List SendError}
    (h : send.Sound outgoing message sendErrors) (advances : message.Advances message')
    (hsub : sendErrors ⊆ sendErrors') : send.Sound outgoing message' sendErrors' where
  callsLeft := h.callsLeft.mono advances
  rotations := h.rotations
  fulfilled hfulfilled := advances.isDone (h.fulfilled hfulfilled)
  rejected hrejected := by
    rcases h.rejected hrejected with hdone | ⟨error, hmem, hcounts⟩
    · exact .inl (advances.isDone hdone)
    · exact .inr ⟨error, hsub hmem, hcounts⟩

/-- What tasks rely on stays, as long as none is prepared for nothing. -/
theorem SendTask.Sound.mono {task : SendTask} (h : task.Sound outgoing message)
    (advances : message.Advances message')
    (noneFailed : task = .prepared → message'.NoneFailed) : task.Sound outgoing message' := by
  match task with
  | .prepared => exact noneFailed rfl
  | .sends false toRecipients sendErrors =>
      refine ⟨fun recipientId => ?_, fun send hsend => (h.2 send hsend).mono advances fun _ => id⟩
      exact (h.1 recipientId).imp_left advances.isDone
  | .sentLocally none | .transcript none _ | .report none => exact advances.allSettled h
  | .run | .sends true _ _ | .sentLocally (some _) | .transcript (some _) _ | .report (some _)
  | .didReport _ => trivial

end Monotone

/-! ## The changes of a task -/

variable {task : SendTask} {tasks : List SendTask} {event : SendEvent}
  {change : TSOutgoingMessage → TSOutgoingMessage}

section Changes

variable {outgoing : OutgoingSend} {environment : ServiceEnvironment}
  {message : TSOutgoingMessage} {recipientId : String}

structure IsUpdateKind (kind : (TSOutgoingMessage → TSOutgoingMessage) → Prop) : Prop where
  id : kind id
  sent : ∀ recipientId wasSentByUD,
    kind fun copy => copy.updateWithSentRecipient recipientId wasSentByUD
  skipped : ∀ recipientId, kind fun copy => copy.updateWithSkippedRecipient recipientId
  read : ∀ recipientId readTimestamp,
    kind fun copy => copy.updateWithReadRecipientId recipientId readTimestamp
  synced : ∀ hasSyncedTranscript,
    kind fun copy => copy.updateWithHasSyncedTranscript hasSyncedTranscript
  foldl : ∀ f : TSOutgoingMessage → String → TSOutgoingMessage,
    (∀ recipientId, kind fun copy => f copy recipientId) →
      ∀ recipientIds : List String, kind fun copy => recipientIds.foldl f copy

namespace IsUpdateKind

variable {kind : (TSOutgoingMessage → TSOutgoingMessage) → Prop} (h : IsUpdateKind kind)

include h

theorem callChange {call : SendCall} : kind (callChange outgoing recipientId call) := by
  cases call with
  | updateWithSentRecipient wasSentByUD => exact h.sent recipientId wasSentByUD
  | updateWithSkippedRecipient => exact h.skipped recipientId
  | unregisteredRecipient =>
      show kind fun copy =>
        if outgoing.isGroupThread then copy.updateWithSkippedRecipient recipientId else copy
      split
      · exact h.skipped recipientId
      · exact h.id
  | rotateSignedPreKey _ | submission _ | success | failure _ | exception => exact h.id

theorem transcriptChange {call : SendCall} : kind (transcriptChange call) := by
  cases call with
  | success => exact h.synced true
  | rotateSignedPreKey _ | submission _ | updateWithSentRecipient _ | updateWithSkippedRecipient
  | unregisteredRecipient | failure _ | exception => exact h.id

theorem markReadBySelf : kind (markReadBySelf message) :=
  h.foldl _ (fun recipientId => h.read recipientId _) _

theorem skipObsolete {recipientIds : List String} : kind (skipObsolete message recipientIds) :=
  h.foldl _ h.skipped _

theorem sendMessageToService : kind (sendMessageToService outgoing environment message).1 := by
  rw [SignalServiceKit.sendMessageToService]
  split
  · exact h.markReadBySelf
  · split
    · exact h.id
    · exact h.skipObsolete

/-- **Each change by a task is of the kind.** -/
theorem taskStep (step : TaskStep outgoing message task event change tasks) : kind change := by
  cases step with
  | serviced environment => exact h.sendMessageToService
  | called => exact h.callChange
  | transcriptCalled => exact h.transcriptChange
  | preconditionFailed | rotationAnswered | joined | sentLocally | transcriptSent
  | transcriptRotationAnswered => exact h.id

end IsUpdateKind

theorem isUpdateKind_isProgress : IsUpdateKind IsProgress where
  id := .id
  sent _ _ := .updateWithSentRecipient
  skipped _ := .updateWithSkippedRecipient
  read _ _ := .updateWithReadRecipientId
  synced _ := .updateWithHasSyncedTranscript
  foldl _ h := .foldl h

theorem TaskStep.isProgress (h : TaskStep outgoing message task event change tasks) :
    IsProgress change :=
  isUpdateKind_isProgress.taskStep h

end Changes

/-! ## Each step of a task -/

section Tasks

variable {outgoing : OutgoingSend} {environment : ServiceEnvironment}
  {message : TSOutgoingMessage} {sendErrors : List SendError} {calls : List SendCall}
  {call : SendCall} {recipientId : String} {send : RecipientSend}

theorem sound_failureHandler {error : SendError} {message' : TSOutgoingMessage} :
    (failureHandler message error).Sound outgoing message' := by
  rw [failureHandler]
  split <;> trivial

theorem sound_recipientSend :
    (recipientSend outgoing environment recipientId).Sound outgoing message sendErrors where
  callsLeft := .trace (sendTrace_sendMessageToRecipient fun _ _ _ _ _ => trivial)
  rotations _ hmem := by cases hmem
  fulfilled h := by cases h
  rejected h := by cases h

theorem isDone_skipObsolete_or_mem {recipientIds : List String} (noneFailed : message.NoneFailed)
    (recipientId : String) :
    (skipObsolete message recipientIds message).IsDone recipientId ∨
      recipientId ∈ recipientIds := by
  rcases noneFailed.isDone_or_mem_sendingRecipientIds recipientId with hdone | hsending
  · exact .inl ((isUpdateKind_isProgress.skipObsolete.advances message).isDone hdone)
  · by_cases hmem : recipientId ∈ recipientIds
    · exact .inr hmem
    · exact .inl (IsProgress.isDone_foldl (fun _ => .updateWithSkippedRecipient)
        (fun _ _ => isDone_updateWithSkippedRecipient)
        (List.mem_filter.mpr ⟨hsending, by simpa using hmem⟩) message)

theorem sound_sendMessageToService (noneFailed : message.NoneFailed) :
    (sendMessageToService outgoing environment message).2.Sound outgoing
      ((sendMessageToService outgoing environment message).1 message) := by
  rw [sendMessageToService]
  split
  · intro recipientId
    rcases noneFailed.isDone_or_mem_sendingRecipientIds recipientId with hdone | hmem
    · exact (isUpdateKind_isProgress.markReadBySelf.advances message).isDone hdone
    · exact IsProgress.isDone_foldl (fun _ => .updateWithReadRecipientId)
        (fun _ _ => isDone_updateWithReadRecipientId) hmem message
  · split
    · exact sound_failureHandler
    · rename_i recipientIds _
      have hcovers := @isDone_skipObsolete_or_mem message recipientIds noneFailed
      dsimp only
      split
      · rename_i hempty
        intro recipientId
        rcases hcovers recipientId with hdone | hmem
        · exact hdone
        · exact absurd (List.length_pos_of_mem hmem) (by omega)
      · refine ⟨fun recipientId => (hcovers recipientId).imp_right fun hmem => ?_, ?_⟩
        · exact ⟨_, List.mem_map_of_mem hmem, rfl⟩
        · intro send hsend
          obtain ⟨recipientId, -, rfl⟩ := List.mem_map.mp hsend
          exact sound_recipientSend

theorem isIgnored_of_errorOfSendErrors {first firstNonRetryable : Option SendError}
    (h : errorOfSendErrors outgoing.isGroupThread first firstNonRetryable sendErrors = none) :
    first = none ∧ firstNonRetryable = none ∧ ∀ error ∈ sendErrors, IsIgnored outgoing error := by
  induction sendErrors generalizing first firstNonRetryable with
  | nil =>
      rw [errorOfSendErrors, Option.or_eq_none_iff] at h
      exact ⟨h.1, h.2, nofun⟩
  | cons error sendErrors ih =>
      rw [errorOfSendErrors] at h
      split_ifs at h with hignored hfatal hretryable hnonRetryable
      · obtain ⟨hfirst, hnon, hall⟩ := ih h
        exact ⟨hfirst, hnon, List.forall_mem_cons.mpr ⟨hignored, hall⟩⟩
      · obtain ⟨hfirst, -, -⟩ := ih h
        cases hfirst
      · obtain ⟨-, hnon, -⟩ := ih h
        cases hnon
      · -- an error that counts was taken before, and is reported
        obtain ⟨rfl, rfl, -⟩ := ih h
        cases hflag : error.isRetryable <;> simp [hflag] at hretryable hnonRetryable

theorem sound_joinOutcome {toRecipients : List RecipientSend}
    (sound : (SendTask.sends false toRecipients sendErrors).Sound outgoing message)
    (resolved : ∀ send ∈ toRecipients, send.fulfilled ≠ none) :
    (joinOutcome outgoing message toRecipients sendErrors).Sound outgoing message := by
  obtain ⟨covers, sends⟩ := sound
  rw [joinOutcome]
  split
  · rename_i hall
    intro recipientId
    rcases covers recipientId with hdone | ⟨send, hsend, rfl⟩
    · exact hdone
    · have hfulfilled := List.all_eq_true.mp hall send hsend
      exact (sends send hsend).fulfilled (by simpa using hfulfilled)
  · split
    · rename_i hnone
      rw [errorToReport, Option.or_eq_none_iff] at hnone
      obtain ⟨-, -, hignored⟩ := isIgnored_of_errorOfSendErrors hnone.1
      intro recipientId
      rcases covers recipientId with hdone | ⟨send, hsend, rfl⟩
      · exact hdone
      · cases hfulfilled : send.fulfilled with
        | none => exact absurd hfulfilled (resolved send hsend)
        | some fulfilled =>
            cases fulfilled with
            | true => exact (sends send hsend).fulfilled hfulfilled
            | false =>
                rcases (sends send hsend).rejected hfulfilled with hdone | ⟨error, hmem, hcounts⟩
                · exact hdone
                · exact absurd (hignored error hmem) hcounts
    · exact sound_failureHandler

inductive FirstCall (rotates : Prop) (outgoing : OutgoingSend) (message : TSOutgoingMessage)
    (recipientId : String) : SendCall → List SendCall → Prop
  | submission {isAppLocked : Bool} {calls : List SendCall} (later : SendTrace rotates calls) :
      FirstCall rotates outgoing message recipientId (.submission isAppLocked) calls
  | rotation {failure : Option SendError} {calls : List SendCall}
      (mayRotate : rotates)
      (counts : ∀ error, failure = some error → error.shouldBeIgnoredForGroups = false)
      (later : SendTrace rotates calls) :
      FirstCall rotates outgoing message recipientId (.rotateSignedPreKey failure) calls
  | failure {error : Option SendError}
      (counts : ∀ sendError, error = some sendError →
        message.IsDone recipientId ∨ ¬IsIgnored outgoing sendError) :
      FirstCall rotates outgoing message recipientId (.failure error) []
  | unregistered :
      FirstCall rotates outgoing message recipientId .unregisteredRecipient
        [.failure (some .unregisteredRecipient)]
  | skipped : FirstCall rotates outgoing message recipientId .updateWithSkippedRecipient [.success]
  | sent (wasSentByUD : Bool) :
      FirstCall rotates outgoing message recipientId (.updateWithSentRecipient wasSentByUD)
        [.success]
  | success (done : message.IsDone recipientId) :
      FirstCall rotates outgoing message recipientId .success []
  | raises : FirstCall rotates outgoing message recipientId .exception []

theorem CallsLeft.firstCall {rotates : Prop}
    (h : CallsLeft rotates outgoing message recipientId (call :: calls)) :
    FirstCall rotates outgoing message recipientId call calls := by
  generalize hall : call :: calls = all at h
  cases h with
  | success done =>
      cases hall
      exact .success done
  | unregistered done =>
      cases hall
      refine .failure ?_
      rintro sendError ⟨⟩
      cases hgroup : outgoing.isGroupThread with
      | true => exact .inl (done hgroup)
      | false => exact .inr (by simp [IsIgnored, hgroup])
  | trace trace =>
      cases trace with
      | submission later =>
          cases hall
          exact .submission later
      | rotation mayRotate counts later =>
          cases hall
          exact .rotation mayRotate counts later
      | ending ending =>
          cases ending with
          | failure counts =>
              cases hall
              refine .failure fun sendError herror => .inr ?_
              simp [IsIgnored, counts sendError herror]
          | unregistered =>
              cases hall
              exact .unregistered
          | skipped =>
              cases hall
              exact .skipped
          | sent wasSentByUD =>
              cases hall
              exact .sent wasSentByUD
          | stalls => cases hall
          | raises =>
              cases hall
              exact .raises

theorem FirstCall.callsLeft {rotates : Prop}
    (h : FirstCall rotates outgoing message recipientId call calls) :
    CallsLeft rotates outgoing (callChange outgoing recipientId call message) recipientId
      calls := by
  cases h with
  | submission later | rotation mayRotate counts later => exact .trace later
  | unregistered =>
      refine .unregistered fun hgroup => ?_
      simp only [callChange, hgroup, if_true]
      exact isDone_updateWithSkippedRecipient
  | skipped => exact .success isDone_updateWithSkippedRecipient
  | sent wasSentByUD => exact .success isDone_updateWithSentRecipient
  | failure counts | success done | raises => exact .trace (.ending .stalls)

theorem RecipientSend.Sound.rejects {rotations : List SendError}
    (h : send.Sound outgoing message sendErrors)
    (callsLeft : CallsLeft True outgoing message send.recipientId calls)
    (hsub : rotations ⊆ send.rotations)
    (counts : message.IsDone send.recipientId ∨ ∃ error ∈ sendErrors, ¬IsIgnored outgoing error) :
    ({ send with
        calls
        rotations
        fulfilled := send.fulfilled.or (some false) } : RecipientSend).Sound outgoing message
      sendErrors where
  callsLeft := callsLeft
  rotations error hmem := h.rotations error (hsub hmem)
  fulfilled hfulfilled := by
    refine h.fulfilled ?_
    cases hbefore : send.fulfilled with
    | none => simp [hbefore] at hfulfilled
    | some fulfilled => simpa [hbefore] using hfulfilled
  rejected _ := counts

theorem RecipientSend.Sound.called {send : RecipientSend} {sendErrors : List SendError}
    {call : SendCall} {calls : List SendCall} (h : send.Sound outgoing message sendErrors)
    (next : send.calls = call :: calls) (survives : call ≠ .exception ∧ call ≠ .failure none) :
    (send.called call calls).Sound outgoing (callChange outgoing send.recipientId call message)
      (sendErrors ++ call.sendErrors) := by
  have kept : send.Sound outgoing (callChange outgoing send.recipientId call message)
      (sendErrors ++ call.sendErrors) :=
    h.mono (isUpdateKind_isProgress.callChange.advances message) (List.subset_append_left _ _)
  have hfirst := h.callsLeft
  rw [next] at hfirst
  have hleft := hfirst.firstCall.callsLeft
  cases hfirst.firstCall with
  | submission later | unregistered | skipped | sent wasSentByUD =>
      exact { kept with callsLeft := hleft }
  | rotation mayRotate counts later =>
      rename_i failure
      cases failure with
      | none => exact { kept with callsLeft := hleft }
      | some error =>
          refine { kept with callsLeft := hleft, rotations := ?_ }
          intro other hmem
          rcases List.mem_append.mp hmem with hmem | hmem
          · exact h.rotations other hmem
          · rw [List.mem_singleton.mp hmem]
            exact counts error rfl
  | failure counts =>
      rename_i error
      cases error with
      | none => exact absurd rfl survives.2
      | some error =>
          refine kept.rejects hleft (fun _ => id) ?_
          refine (counts error rfl).imp_right fun hcounts => ⟨error, ?_, hcounts⟩
          exact List.mem_append_right _ (.head _)
  | success done =>
      refine { kept with
        callsLeft := hleft
        fulfilled := fun _ => done
        rejected := fun _ => .inl done }
  | raises => exact absurd rfl survives.1

theorem RecipientSend.Sound.rotationAnswered {send : RecipientSend}
    {sendErrors before after : List SendError} {error : SendError}
    (h : send.Sound outgoing message sendErrors)
    (begun : send.rotations = before ++ error :: after) :
    (send.rotationAnswered (before ++ after)).Sound outgoing message (sendErrors ++ [error]) := by
  have kept : send.Sound outgoing message (sendErrors ++ [error]) :=
    h.mono (.refl message) (List.subset_append_left _ _)
  refine kept.rejects kept.callsLeft ?_ (.inr ⟨error, List.mem_append_right _ (.head _), ?_⟩)
  · rw [begun]
    exact List.append_subset.mpr ⟨List.subset_append_left _ _,
      List.Subset.trans (List.subset_cons_self _ _) (List.subset_append_right _ _)⟩
  · have hcounts := h.rotations error (by rw [begun]; exact List.mem_append_right _ (.head _))
    simp [IsIgnored, hcounts]

@[simp] theorem recipientId_called : (send.called call calls).recipientId = send.recipientId := by
  rcases call with (_ | _) | _ | _ | _ | _ | _ | _ | _ <;> rfl

theorem sound_sends_of_one {ahead behind : List RecipientSend} {send send' : RecipientSend}
    {sendErrors sendErrors' : List SendError} {message' : TSOutgoingMessage}
    (h : (SendTask.sends false (ahead ++ send :: behind) sendErrors).Sound outgoing message)
    (advances : message.Advances message') (hsub : sendErrors ⊆ sendErrors')
    (same : send'.recipientId = send.recipientId)
    (one : send'.Sound outgoing message' sendErrors') :
    (SendTask.sends false (ahead ++ send' :: behind) sendErrors').Sound outgoing message' := by
  obtain ⟨covers, sends⟩ := h
  refine ⟨fun recipientId => (covers recipientId).imp advances.isDone ?_, ?_⟩
  · rintro ⟨other, hmem, rfl⟩
    rcases List.mem_append.mp hmem with hahead | hmem
    · exact ⟨other, List.mem_append_left _ hahead, rfl⟩
    · rcases List.mem_cons.mp hmem with rfl | hbehind
      · exact ⟨send', List.mem_append_right _ (.head _), same⟩
      · exact ⟨other, List.mem_append_right _ (.tail _ hbehind), rfl⟩
  · intro other hmem
    rcases List.mem_append.mp hmem with hahead | hmem
    · exact (sends other (List.mem_append_left _ hahead)).mono advances hsub
    · rcases List.mem_cons.mp hmem with rfl | hbehind
      · exact one
      · exact (sends other (List.mem_append_right _ (.tail _ hbehind))).mono advances hsub

theorem TaskStep.sound (h : TaskStep outgoing message task event change tasks)
    (sound : task.Sound outgoing message) :
    ∀ left ∈ tasks, left.Sound outgoing (change message) := by
  cases h with
  | preconditionFailed error =>
      rintro _ (_ | ⟨_, ⟨⟩⟩)
      trivial
  | serviced environment =>
      rintro _ (_ | ⟨_, ⟨⟩⟩)
      exact sound_sendMessageToService sound
  | @called isJoined ahead behind send sendErrors call calls next survives =>
      rintro _ (_ | ⟨_, ⟨⟩⟩)
      cases isJoined with
      | true => trivial
      | false =>
          exact sound_sends_of_one sound (isUpdateKind_isProgress.callChange.advances message)
            (List.subset_append_left _ _) recipientId_called
            ((sound.2 send (List.mem_append_right _ (.head _))).called next survives)
  | @rotationAnswered isJoined ahead behind send sendErrors before after error begun =>
      rintro _ (_ | ⟨_, ⟨⟩⟩)
      cases isJoined with
      | true => trivial
      | false =>
          exact sound_sends_of_one sound (.refl message) (List.subset_append_left _ _) rfl
            ((sound.2 send (List.mem_append_right _ (.head _))).rotationAnswered begun)
  | joined resolved =>
      rintro _ (_ | ⟨_, (_ | ⟨_, ⟨⟩⟩)⟩)
      · trivial
      · exact sound_joinOutcome sound resolved
  | @sentLocally error skips | @transcriptSent error hasUDAccess attempts syncs =>
      rintro _ (_ | ⟨_, ⟨⟩⟩)
      cases error with
      | none => exact sound
      | some error => trivial
  | @transcriptCalled error send call calls next survives =>
      -- A transcript without an error is sent once all recipients are settled, and they stay so.
      have settled : error = none → (transcriptChange call message).AllSettled := by
        rintro rfl
        exact (isUpdateKind_isProgress.transcriptChange.advances message).allSettled sound
      intro left hleft
      rcases List.mem_cons.mp hleft with rfl | hleft
      · cases error with
        | none => exact settled rfl
        | some error => trivial
      · cases call with
        | success =>
            rw [List.mem_singleton.mp hleft]
            cases error with
            | none => exact settled rfl
            | some error => trivial
        | failure syncError =>
            rw [List.mem_singleton.mp hleft]
            trivial
        | rotateSignedPreKey _ | submission _ | updateWithSentRecipient _
        | updateWithSkippedRecipient | unregisteredRecipient | exception => cases hleft
  | @transcriptRotationAnswered error send before after syncError begun =>
      rintro _ (_ | ⟨_, (_ | ⟨_, ⟨⟩⟩)⟩)
      · cases error with
        | none => exact sound
        | some error => trivial
      · trivial

/-- A transcript sent after an error is sent by attempts that find the app unlocked. -/
def SendEvent.IsUnlocked (outgoing : OutgoingSend) : SendEvent → Prop
  | .transcriptSent (some _) hasUDAccess attempts =>
      ∀ remaining number messageSend,
        Reaches attempts kMaxRetriesPerRecipient 0 (sendSyncTranscript outgoing hasUDAccess)
            remaining number messageSend →
          (attempts number).isAppLockedDueToPreKeyUpdateFailures = false
  | _ => True

theorem weight_failureHandler {error : SendError} : (failureHandler message error).weight = 1 := by
  rw [failureHandler]
  split <;> rfl

theorem weight_sendMessageToService :
    (sendMessageToService outgoing environment message).2.weight = 1 := by
  rw [sendMessageToService]
  split
  · rfl
  · split
    · exact weight_failureHandler
    · dsimp only
      split <;> rfl

theorem weight_joinOutcome {toRecipients : List RecipientSend} :
    (joinOutcome outgoing message toRecipients sendErrors).weight = 1 := by
  rw [joinOutcome]
  split
  · rfl
  · split
    · rfl
    · exact weight_failureHandler

/-- A completion of the transcript's send is one report, and a rotation begun one to
come. -/
theorem weights_transcript_called {error : Option SendError} (next : send.calls = call :: calls) :
    SendTask.weights (.transcript error (send.called call calls) :: transcriptReports error call) =
      (SendTask.transcript error send).weight := by
  rcases call with (_ | _) | _ | _ | _ | _ | _ | _ | _ <;>
    simp [SendTask.weight, RecipientSend.called, transcriptReports, next, List.countP_cons,
      SendCall.completes] <;>
    omega

/-- A task leaves no more reports to be made than it had, or everybody is reached. -/
theorem TaskStep.weights_le (h : TaskStep outgoing message task event change tasks)
    (sound : task.Sound outgoing message) (unlocked : event.IsUnlocked outgoing) :
    (change message).AllSettled ∨ SendTask.weights tasks ≤ task.weight := by
  cases h with
  | preconditionFailed error | sentLocally skips => exact .inr (Nat.le_refl _)
  | serviced environment =>
      refine .inr ?_
      rw [SendTask.weights_cons, weight_sendMessageToService]
      exact Nat.le_refl _
  | @called isJoined | @rotationAnswered isJoined => cases isJoined <;> exact .inr (Nat.le_refl _)
  | @joined toRecipients sendErrors resolved =>
      refine .inr ?_
      rw [SendTask.weights_cons, SendTask.weights_cons, weight_joinOutcome]
      exact Nat.le_refl _
  | @transcriptSent error hasUDAccess attempts syncs =>
      cases error with
      | none => exact .inl sound
      | some error =>
          refine .inr ?_
          have trace : SendTrace False (transcriptSend outgoing hasUDAccess attempts).calls :=
            sendTrace_sendMessageToRecipient fun _ _ _ reaches locked => by
              rw [unlocked _ _ _ reaches] at locked
              cases locked
          simpa [SendTask.weight, transcriptSend, RecipientSend.new] using trace.completes_le
  | @transcriptCalled error send call calls next survives =>
      exact .inr (Nat.le_of_eq (weights_transcript_called next))
  | @transcriptRotationAnswered error send before after syncError begun =>
      refine .inr ?_
      simp only [SendTask.weights_cons, SendTask.weights_nil, SendTask.weight,
        RecipientSend.rotationAnswered, begun, List.length_append, List.length_cons]
      omega

end Tasks

/-! ## Every step of the job -/

namespace SendState

/-- What a state relies on while the operation of the message is alive: its tasks are
sound, and one report is to come at most where not everybody is reached. -/
structure Sound (outgoing : OutgoingSend) (state : SendState) (message : TSOutgoingMessage) :
    Prop where
  tasks : ∀ task ∈ state.tasks, task.Sound outgoing message
  reports : message.AllSettled ∨ SendTask.weights state.tasks ≤ 1

variable {outgoing : OutgoingSend} {state state' : SendState}
  {message message' : TSOutgoingMessage} {earlier later : List SendTask}

theorem Sound.goesOn (h : state.Sound outgoing message)
    (outstanding : state.tasks = earlier ++ task :: later)
    (left : state'.tasks = earlier ++ tasks ++ later) (advances : message.Advances message')
    (noneFailed : message.NoneFailed → message'.NoneFailed)
    (sound : ∀ left ∈ tasks, left.Sound outgoing message')
    (reports : message'.AllSettled ∨ SendTask.weights tasks ≤ task.weight) :
    state'.Sound outgoing message' where
  tasks other hmem := by
    have keeps {other : SendTask} (hother : other ∈ state.tasks) :
        other.Sound outgoing message' := by
      refine (h.tasks other hother).mono advances ?_
      rintro rfl
      exact noneFailed (h.tasks _ hother)
    rw [left, List.append_assoc] at hmem
    rcases List.mem_append.mp hmem with hearlier | hmem
    · exact keeps (outstanding ▸ List.mem_append_left _ hearlier)
    · rcases List.mem_append.mp hmem with hnew | hlater
      · exact sound other hnew
      · exact keeps (outstanding ▸ List.mem_append_right _ (.tail _ hlater))
  reports := by
    rcases reports with hall | hle
    · exact .inl hall
    · refine h.reports.imp advances.allSettled fun hone => ?_
      rw [outstanding] at hone
      rw [left]
      simp only [SendTask.weights_append, SendTask.weights_cons] at hone ⊢
      omega

theorem Sound.goesOnAlike (h : state.Sound outgoing message)
    (outstanding : state.tasks = earlier ++ task :: later)
    (left : state'.tasks = earlier ++ tasks ++ later)
    (sound : ∀ left ∈ tasks, left.Sound outgoing message)
    (reports : SendTask.weights tasks ≤ task.weight) : state'.Sound outgoing message :=
  h.goesOn outstanding left (.refl message) id sound (.inr reports)

/-- With one report to come at most, no task is prepared while another is to report. -/
theorem Sound.noneFailed_of_gaveUp {error : SendError} (h : state.Sound outgoing message)
    (outstanding : state.tasks = earlier ++ .didReport error :: later)
    (hprepared : SendTask.prepared ∈ earlier ++ later) :
    message.updateWithAllSendingRecipientsMarkedAsFailed.NoneFailed := by
  rcases h.reports with hall | hone
  · exact (message.advances_updateWithAllSendingRecipientsMarkedAsFailed.allSettled hall).noneFailed
  · exfalso
    obtain ⟨before, after, hsplit⟩ := List.append_of_mem hprepared
    have htwo := congrArg SendTask.weights hsplit
    rw [outstanding] at hone
    simp only [SendTask.weights_append, SendTask.weights_cons, SendTask.weight] at hone htwo
    omega

theorem operation_restartOldJobs :
    (state.restartOldJobs outgoing).operation = state.operation := by
  rw [restartOldJobs]
  split
  · rfl
  · split <;> rfl

theorem operation_runFailedMessagesJob :
    (state.runFailedMessagesJob outgoing).operation = state.operation := by
  rw [runFailedMessagesJob]
  split <;> rfl

theorem tasks_runFailedMessagesJob :
    (state.runFailedMessagesJob outgoing).tasks = state.tasks := by
  rw [runFailedMessagesJob]
  split <;> rfl

/-- **Each step keeps the tasks sound.** -/
theorem Step.sound (h : Step outgoing state event state') (unlocked : event.IsUnlocked outgoing)
    (sound : ∀ operation, state.operation = some operation →
      state.Sound outgoing operation.message) :
    ∀ operation, state'.operation = some operation → state'.Sound outgoing operation.message := by
  cases h with
  | workStep fresh row starts =>
      rintro _ ⟨⟩
      refine ⟨?_, .inr (Nat.le_refl 1)⟩
      rintro _ (_ | ⟨_, ⟨⟩⟩)
      trivial
  | @prepared operation earlier later alive outstanding =>
      rintro _ ⟨⟩
      have hnone := operation.message.noneFailed_updateWithMarkingAllUnsentRecipientsAsSending
      refine (sound operation alive).goesOn outstanding (List.append_cons _ _ _)
        operation.message.advances_updateWithMarkingAllUnsentRecipientsAsSending (fun _ => hnone)
        ?_ (.inr (Nat.le_refl _))
      rintro _ (_ | ⟨_, ⟨⟩⟩)
      exact hnone
  | @task operation _ earlier later tasks task change alive outstanding taskStep =>
      rintro _ ⟨⟩
      have hsound := sound operation alive
      have htask : task.Sound outgoing operation.message :=
        hsound.tasks task (outstanding ▸ List.mem_append_right _ (.head _))
      exact hsound.goesOn outstanding rfl (taskStep.isProgress.advances _)
        (taskStep.isProgress.noneFailed _) (taskStep.sound htask)
        (taskStep.weights_le htask unlocked)
  | @succeeded operation earlier later alive outstanding =>
      intro operation' halive
      rw [alive] at halive
      cases halive
      exact (sound operation alive).goesOnAlike outstanding
        (congrArg (· ++ later) (List.append_nil earlier).symm) nofun (Nat.zero_le _)
  | @errorReported operation earlier later error alive outstanding
  | @retried operation earlier later error alive outstanding waits =>
      rintro _ ⟨⟩
      refine (sound operation alive).goesOnAlike outstanding (List.append_cons _ _ _) ?_
        (Nat.le_refl _)
      rintro _ (_ | ⟨_, ⟨⟩⟩)
      trivial
  | @gaveUp operation earlier later error alive outstanding givesUp =>
      rintro _ ⟨⟩
      have hsound := sound operation alive
      have hadvances := operation.message.advances_updateWithAllSendingRecipientsMarkedAsFailed
      refine ⟨fun other hmem => (hsound.tasks other ?_).mono hadvances ?_, ?_⟩
      · rw [outstanding]
        exact ((List.sublist_cons_self _ _).append_left _).subset hmem
      · rintro rfl
        exact hsound.noneFailed_of_gaveUp outstanding hmem
      · refine hsound.reports.imp hadvances.allSettled fun hone => ?_
        rw [outstanding] at hone
        simp only [SendTask.weights_append, SendTask.weights_cons] at hone ⊢
        omega
  | killed => nofun
  | restartedOldJobs launched =>
      intro operation halive
      rw [operation_restartOldJobs, launched] at halive
      cases halive
  | failedMessagesJobRan =>
      intro operation halive
      rw [operation_runFailedMessagesJob] at halive
      have hsound := sound operation halive
      constructor
      · rw [tasks_runFailedMessagesJob]
        exact hsound.tasks
      · rw [tasks_runFailedMessagesJob]
        exact hsound.reports
  | receiptReceived recipientId timestamp =>
      intro operation halive
      have hsound := sound operation halive
      exact ⟨hsound.tasks, hsound.reports⟩

/-! ## The stored copy -/

/-- How the stored copy and the operation's message are related, where updates of both keep it.
With a message that is not saved, only the operation's is updated. -/
structure IsCopyRelation (outgoing : OutgoingSend)
    (R : TSOutgoingMessage → TSOutgoingMessage → Prop) : Prop where
  refl : ∀ message, R message message
  updates : outgoing.shouldBeSaved = true → ∀ {stored message other task event change tasks},
    TaskStep outgoing other task event change tasks → R stored message →
      R (change stored) (change message)
  fails : outgoing.shouldBeSaved = true → ∀ {stored message}, R stored message →
    R stored.updateWithAllSendingRecipientsMarkedAsFailed
      message.updateWithAllSendingRecipientsMarkedAsFailed
  unsaved : outgoing.shouldBeSaved = false → ∀ {stored message}, R stored message →
    R stored message.updateWithMarkingAllUnsentRecipientsAsSending ∧
      R stored message.updateWithAllSendingRecipientsMarkedAsFailed ∧
        ∀ {other task event change tasks}, TaskStep outgoing other task event change tasks →
          R stored (change message)

variable {R : TSOutgoingMessage → TSOutgoingMessage → Prop}

theorem IsCopyRelation.saveInfoMessageForGroupMessage (copies : IsCopyRelation outgoing R)
    (h : R state.stored message) :
    R (state.saveInfoMessageForGroupMessage outgoing event message).stored message := by
  cases event with
  | serviced environment =>
      dsimp only [SendState.saveInfoMessageForGroupMessage]
      split
      · rw [SendState.saved]
        split
        · exact copies.refl message
        · exact h
      · exact h
  | _ => exact h

/-- **Each step keeps the copies related**, if what else changes the stored copy does. -/
theorem Step.related (h : Step outgoing state event state') (copies : IsCopyRelation outgoing R)
    (related : ∀ operation, state.operation = some operation → R state.stored operation.message)
    (failedMessagesJob : ∀ message, R state.stored message →
      R (state.runFailedMessagesJob outgoing).stored message)
    (receipt : ∀ recipientId timestamp operation, event = .receiptReceived recipientId timestamp →
      outgoing.shouldBeSaved = true → state.operation = some operation →
        R (state.stored.updateWithReadRecipientId recipientId timestamp) operation.message) :
    ∀ operation, state'.operation = some operation → R state'.stored operation.message := by
  cases h with
  | workStep fresh row starts =>
      rintro _ ⟨⟩
      exact copies.refl _
  | @prepared operation earlier later alive outstanding =>
      rintro _ ⟨⟩
      cases saved : outgoing.shouldBeSaved with
      | true =>
          simp only [prepareMessageForSending, applyChangeToSelfAndLatestCopy, SendState.saved,
            saved, if_true]
          exact copies.refl _
      | false =>
          simp only [prepareMessageForSending, applyChangeToSelfAndLatestCopy, SendState.saved,
            saved, Bool.false_eq_true, if_false]
          exact (copies.unsaved saved (related operation alive)).1
  | @task operation _ earlier later tasks task change alive outstanding taskStep =>
      rintro _ ⟨⟩
      have hstored := @copies.saveInfoMessageForGroupMessage event _ state _ _
        (related operation alive)
      simp only [applyChangeToSelfAndLatestCopy]
      split
      · next saved => exact copies.updates saved taskStep hstored
      · next saved =>
          exact (copies.unsaved (by simpa using saved) hstored).2.2 taskStep
  | succeeded alive outstanding => exact related
  | @errorReported operation earlier later error alive outstanding =>
      rintro _ ⟨⟩
      simp only [archived]
      split
      · exact related operation alive
      · exact copies.refl _
  | @retried operation earlier later error alive outstanding waits =>
      rintro _ ⟨⟩
      exact related operation alive
  | @gaveUp operation earlier later error alive outstanding givesUp =>
      rintro _ ⟨⟩
      simp only [applyChangeToSelfAndLatestCopy, archived]
      split
      · next saved => exact copies.fails saved (related operation alive)
      · next saved =>
          exact (copies.unsaved (by simpa using saved) (copies.refl _)).2.1
  | killed => nofun
  | restartedOldJobs launched =>
      intro operation halive
      rw [operation_restartOldJobs, launched] at halive
      cases halive
  | failedMessagesJobRan =>
      intro operation halive
      rw [operation_runFailedMessagesJob] at halive
      exact failedMessagesJob _ (related operation halive)
  | receiptReceived recipientId timestamp =>
      intro operation halive
      rw [SendState.saved]
      split
      · next saved => exact receipt recipientId timestamp operation rfl saved halive
      · exact related operation halive

theorem advances_runFailedMessagesJob :
    state.stored.Advances (state.runFailedMessagesJob outgoing).stored := by
  rw [runFailedMessagesJob]
  split
  · rw [SendState.saved]
    split
    · exact state.stored.advances_updateWithAllSendingRecipientsMarkedAsFailed
    · exact .refl _
  · exact .refl _

/-- **Each step keeps the stored copy** of a saved message up with the operation's. -/
theorem Step.advances_stored (h : Step outgoing state event state')
    (saved : outgoing.shouldBeSaved = true)
    (advances : ∀ operation, state.operation = some operation →
      operation.message.Advances state.stored) :
    ∀ operation, state'.operation = some operation →
      operation.message.Advances state'.stored := by
  have copies : IsCopyRelation outgoing fun stored message => message.Advances stored :=
    { refl := .refl
      updates := fun _ _ _ _ _ _ _ _ taskStep => taskStep.isProgress.mono _ _
      fails := fun _ _ _ => .updateWithAllSendingRecipientsMarkedAsFailed
      unsaved := fun unsaved => by simp [saved] at unsaved }
  refine h.related copies advances (fun _ h => h.trans advances_runFailedMessagesJob) ?_
  exact fun recipientId timestamp operation _ _ halive => (advances operation halive).trans
    (state.stored.advances_updateWithReadRecipientId recipientId timestamp)

/-! ## Every run -/

theorem sound_of_run {start : SendState} {events : List SendEvent} (launched : start.AtLaunch)
    (run : LabelledRun (Step outgoing) start events state)
    (unlocked : ∀ event ∈ events, event.IsUnlocked outgoing) :
    ∀ operation, state.operation = some operation → state.Sound outgoing operation.message := by
  revert unlocked
  refine run.invariant (I := fun events state => (∀ event ∈ events, event.IsUnlocked outgoing) →
    ∀ operation, state.operation = some operation → state.Sound outgoing operation.message) ?_ ?_
  · intro _ operation halive
    rw [launched.operation] at halive
    cases halive
  · intro events state event state' ih step unlocked
    refine step.sound (unlocked event (List.mem_append_right _ (.head _))) (ih ?_)
    exact fun earlier hmem => unlocked earlier (List.mem_append_left _ hmem)

theorem advances_stored_of_run {start : SendState} {events : List SendEvent}
    (launched : start.AtLaunch) (saved : outgoing.shouldBeSaved = true)
    (run : LabelledRun (Step outgoing) start events state) :
    ∀ operation, state.operation = some operation → operation.message.Advances state.stored := by
  refine run.invariant (I := fun _ state =>
    ∀ operation, state.operation = some operation → operation.message.Advances state.stored) ?_ ?_
  · intro operation halive
    rw [launched.operation] at halive
    cases halive
  · exact fun _ _ _ _ ih step => step.advances_stored saved ih

/-- **A success is reported when every recipient has been sent to or is skipped**, of a
saved message, in every run in which no transcript is sent after an error while the app
is locked. -/
theorem successful_reachesEverybody {start : SendState} {events : List SendEvent}
    (saved : outgoing.shouldBeSaved = true) (launched : start.AtLaunch)
    (run : LabelledRun (Step outgoing) start events state)
    (unlocked : ∀ event ∈ events, event.IsUnlocked outgoing)
    (step : Step outgoing state .succeeded state') :
    (∀ recipientId recipientState, state'.stored.recipientState recipientId = some recipientState →
        recipientState.state = .sent ∨ recipientState.state = .skipped) ∧
      state'.stored.messageState = .sent ∧
        ∃ operation, state'.operation = some operation ∧
          operation.message.messageState = .sent := by
  generalize hevent : SendEvent.succeeded = event at step
  cases step with
  | @succeeded operation earlier later alive outstanding =>
      have hall : operation.message.AllSettled :=
        (sound_of_run launched run unlocked operation alive).tasks (.report none)
          (outstanding ▸ List.mem_append_right _ (.head _))
      have hstored : state.stored.AllSettled :=
        (advances_stored_of_run launched saved run operation alive).allSettled hall
      exact ⟨hstored, messageState_eq_sent.mpr hstored, operation, alive,
        messageState_eq_sent.mpr hall⟩
  | task alive outstanding taskStep => cases hevent; cases taskStep
  | _ => cases hevent

/-- What an attempt meets that submits nothing. -/
def unsubmitted (isAppLocked : Bool)
    (deviceMessages : Except DeviceMessagesException (List DeviceMessage)) : AttemptEnvironment where
  isAppLockedDueToPreKeyUpdateFailures := isAppLocked
  rotateSignedPreKey := .failure true
  deviceMessages
  mayHaveLinkedDevices := false
  canMakeWebsocketRequests := fun _ => false
  service := fun _ _ => .success

/-- A group where no device messages can be built. -/
def groupEnvironment (groupMemberIds : List String) : ServiceEnvironment where
  groupMemberIds
  blockedPhoneNumbers := []
  hasUDAccess := fun _ => false
  attempts := fun _ _ => unsubmitted false (.error .other)

def groupSend (neverSyncs : Bool) : OutgoingSend where
  thread := .group
  localNumber := "+15550001"
  groupMetaMessage := .deliver
  isTransient := false
  neverSyncs

/-- A launch with a job that has failed nine times; one of two recipients has been sent
to. -/
def lastRetry : SendState where
  jobRecord := some
    { sortId := 1
      status := .ready
      failureCount := 9
      job := ⟨some "m", some "g"⟩ }
  stored :=
    (initOutgoingMessage "m" 1 ["+15550002", "+15550003"]).updateWithSentRecipient "+15550002" false
  operation := none
  tasks := []

/-- The recipient that is left to be sent to has left the group, and the job succeeds. -/
theorem everybodyReached_of_left :
    ∃ events state state', LabelledRun (Step (groupSend true)) lastRetry events state ∧
      Step (groupSend true) state .succeeded state' ∧ state'.stored.messageState = .sent := by
  have started := LabelledRun.single (@Step.workStep (groupSend true) lastRetry _ _ rfl rfl rfl)
  have prepared := started.tail (@Step.prepared (groupSend true) _ _ [] [] rfl rfl)
  have serviced := prepared.tail (@Step.task (groupSend true) _ _ _ [] [] _ .prepared _ rfl rfl
    (.serviced (groupEnvironment [])))
  have sentLocally := serviced.tail (@Step.task (groupSend true) _ _ _ [] [] _ (.sentLocally none) _
    rfl rfl (.sentLocally rfl))
  refine ⟨_, _, _, sentLocally, @Step.succeeded (groupSend true) _ _ [] [] rfl rfl, ?_⟩
  exact (successful_reachesEverybody rfl ⟨rfl, rfl⟩ sentLocally (by simp [SendEvent.IsUnlocked])
    (@Step.succeeded (groupSend true) _ _ [] [] rfl rfl)).2.1

/-- What comes of device messages that cannot be built. -/
def sendFailure : SendError := .ofCode .failedToSendOutgoingMessage true

def failedSend : RecipientSend :=
  (RecipientSend.new "+15550003" [.failure (some sendFailure)]).called
    (.failure (some sendFailure)) []

/-- What happens when the transcript after the error of the last attempt but one is sent
by a locked app: it is skipped, the error is reported and the last attempt begins; then
the rotation fails the transcript again, the error is reported again, and the operation
gives up under the attempt, which finds nobody to send to. -/
def lockedTranscript : List SendEvent :=
  [.workStep, .prepared, .serviced (groupEnvironment ["+15550002", "+15550003"]),
    .called "+15550003" (.failure (some sendFailure)), .joined,
    .transcriptSent (some sendFailure) false
      (fun _ => unsubmitted true (.ok [])),
    .transcriptCalled (.rotateSignedPreKey (some (.ofCode .other true))),
    .transcriptCalled .updateWithSkippedRecipient, .transcriptCalled .success,
    .errorReported sendFailure, .retried, .prepared,
    .transcriptRotationAnswered, .errorReported sendFailure, .gaveUp,
    .serviced (groupEnvironment ["+15550002", "+15550003"]), .sentLocally]

/-- **A success is reported with a recipient failed**, when a locked app completes the
send of a transcript twice. -/
theorem not_everybodyReached :
    (groupSend false).shouldBeSaved = true ∧ lastRetry.AtLaunch ∧
      ∃ state state', LabelledRun (Step (groupSend false)) lastRetry lockedTranscript state ∧
        Step (groupSend false) state .succeeded state' ∧ state'.stored.messageState = .failed := by
  let sends : SendTask := .sends true [failedSend] [sendFailure]
  let transcript : RecipientSend :=
    .new "+15550001"
      [.rotateSignedPreKey (some (.ofCode .other true)), .updateWithSkippedRecipient, .success]
  let rotated := transcript.called (.rotateSignedPreKey (some (.ofCode .other true)))
    [.updateWithSkippedRecipient, .success]
  let skipped := rotated.called .updateWithSkippedRecipient [.success]
  let succeeded := skipped.called .success []
  let failed := succeeded.rotationAnswered []
  have run := LabelledRun.single (@Step.workStep (groupSend false) lastRetry _ _ rfl rfl rfl)
  have run := run.tail (@Step.prepared (groupSend false) _ _ [] [] rfl rfl)
  have run := run.tail (@Step.task (groupSend false) _ _ _ [] [] _ .prepared _ rfl rfl
    (.serviced (groupEnvironment ["+15550002", "+15550003"])))
  have run := run.tail (@Step.task (groupSend false) _ _ _ [] [] _ _ _ rfl rfl
    (@TaskStep.called _ _ false [] [] (.new "+15550003" [.failure (some sendFailure)]) []
      (.failure (some sendFailure)) [] rfl ⟨nofun, nofun⟩))
  have run := run.tail (@Step.task (groupSend false) _ _ _ [] [] _
    (.sends false [failedSend] [sendFailure]) _ rfl rfl
    (.joined (by simp [failedSend, RecipientSend.called, RecipientSend.new])))
  have run := run.tail (@Step.task (groupSend false) _ _ _ [sends] [] _
    (.sentLocally (some sendFailure)) _
    rfl rfl (.transcriptSent false (fun _ => unsubmitted true (.ok [])) rfl))
  have run := run.tail (@Step.task (groupSend false) _ _ _ [sends] [] _
    (.transcript (some sendFailure) transcript) _ rfl rfl (.transcriptCalled rfl nofun))
  have run := run.tail (@Step.task (groupSend false) _ _ _ [sends] [] _
    (.transcript (some sendFailure) rotated) _ rfl rfl (.transcriptCalled rfl nofun))
  have run := run.tail (@Step.task (groupSend false) _ _ _ [sends] [] _
    (.transcript (some sendFailure) skipped) _ rfl rfl (.transcriptCalled rfl nofun))
  have run := run.tail (@Step.errorReported (groupSend false) _ _
    [sends, .transcript (some sendFailure) succeeded] [] sendFailure rfl rfl)
  have run := run.tail (@Step.retried (groupSend false) _ _
    [sends, .transcript (some sendFailure) succeeded] [] sendFailure rfl rfl rfl)
  have run := run.tail (@Step.prepared (groupSend false) _ _
    [sends, .transcript (some sendFailure) succeeded] [] rfl rfl)
  have run := run.tail (@Step.task (groupSend false) _ _ _ [sends] [.prepared] _
    (.transcript (some sendFailure) succeeded) _ rfl rfl
    (@TaskStep.transcriptRotationAnswered _ _ _ _ [] [] (.ofCode .other true) rfl))
  have run := run.tail (@Step.errorReported (groupSend false) _ _
    [sends, .transcript (some sendFailure) failed] [.prepared] sendFailure rfl rfl)
  have run := run.tail (@Step.gaveUp (groupSend false) _ _
    [sends, .transcript (some sendFailure) failed] [.prepared] sendFailure rfl rfl rfl)
  have run := run.tail (@Step.task (groupSend false) _ _ _
    [sends, .transcript (some sendFailure) failed] [] _ .prepared _ rfl rfl
    (.serviced (groupEnvironment ["+15550002", "+15550003"])))
  have run := run.tail (@Step.task (groupSend false) _ _ _
    [sends, .transcript (some sendFailure) failed] [] _ (.sentLocally none) _ rfl rfl
    (.sentLocally rfl))
  exact ⟨rfl, ⟨rfl, rfl⟩, _, _, run, @Step.succeeded (groupSend false) _ _
    [sends, .transcript (some sendFailure) failed] [] rfl rfl, rfl⟩

end SendState

end ObjcSwiftLearning.SignalServiceKit
