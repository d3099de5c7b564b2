import ObjcSwiftLearning.SignalServiceKit.JobQueue
import ObjcSwiftLearning.SignalServiceKit.MessageSend
import ObjcSwiftLearning.SignalServiceKit.OutgoingMessages

/-!
# The job of one message

A `MessageSenderOperation` runs for the record of its job: it prepares the message,
hands it to `sendMessageToService:`, which makes a send for each recipient, joins
them, sends a transcript to the linked devices and reports; on an error the operation
runs again, or gives up.  The app may be killed between any two of these, and then the
record is restarted.

* `sendMessageToService` — to whom an attempt sends, whom it skips, and when there is
  nothing to send.
* `errorToReport` — the error a failed join reports, if it reports one.
* `SendTask` — what is outstanding in memory; the sends, the transcript and the
  operation go on side by side.
* `SendState.Step` — the job, together with what else writes the message: the job
  that fails messages at launch, the restart of old jobs, and receipts.

The message is there twice: the object that the operation holds, and the stored copy.
`applyChangeToSelfAndLatestCopy:` changes both, others change the stored copy only, and
what is saved is the object.  A message that is not saved is stored with its job.
Deleting the message, expiration timers and other jobs are left out.
-/

namespace ObjcSwiftLearning.SignalServiceKit

/-! ## The message to be sent -/

inductive TSGroupMetaMessage where
  | unspecified
  | new
  | update
  | deliver
  | quit
  | requestInfo
  deriving DecidableEq

inductive SendThread where
  | contact (contactIdentifier : String)
  | group
  deriving DecidableEq

/-- What does not change while a message is sent. -/
structure OutgoingSend where
  thread : SendThread
  localNumber : String
  groupMetaMessage : TSGroupMetaMessage
  /-- Its class is never saved. -/
  isTransient : Bool
  /-- Its class never syncs a transcript. -/
  neverSyncs : Bool

namespace OutgoingSend

variable (outgoing : OutgoingSend)

def isGroupThread : Bool := outgoing.thread == .group

def shouldBeSaved : Bool :=
  !outgoing.isTransient &&
    (outgoing.groupMetaMessage == .deliver || outgoing.groupMetaMessage == .unspecified)

def shouldSyncTranscript (message : TSOutgoingMessage) : Bool :=
  !outgoing.neverSyncs && !message.hasSyncedTranscript

end OutgoingSend

/-! ## What is outstanding -/

structure RecipientSend where
  recipientId : String
  /-- The calls it has still to make. -/
  calls : List SendCall
  /-- What the rotations it has begun will call `failure` with. -/
  rotations : List SendError
  /-- Whether its promise is fulfilled or rejected, once it is resolved. -/
  fulfilled : Option Bool

namespace RecipientSend

/-- A send that has called nothing yet. -/
def new (recipientId : String) (calls : List SendCall) : RecipientSend where
  recipientId
  calls
  rotations := []
  fulfilled := none

/-- A send that has made a call, and has `calls` left; a promise is resolved once. -/
def called (send : RecipientSend) (call : SendCall) (calls : List SendCall) : RecipientSend :=
  match call with
  | .rotateSignedPreKey (some error) =>
      { send with
        calls
        rotations := send.rotations ++ [error] }
  | .success =>
      { send with
        calls
        fulfilled := send.fulfilled.or (some true) }
  | .failure _ =>
      { send with
        calls
        fulfilled := send.fulfilled.or (some false) }
  | _ => { send with calls }

def rotationAnswered (send : RecipientSend) (rotations : List SendError) : RecipientSend :=
  { send with
    rotations
    fulfilled := send.fulfilled.or (some false) }

end RecipientSend

/-- What is outstanding in memory. -/
inductive SendTask where
  | run
  /-- The `OWSSendMessageOperation` waits for its turn and its uploads. -/
  | prepared
  | sends (isJoined : Bool) (sends : List RecipientSend) (sendErrors : List SendError)
  /-- `handleMessageSentLocally:…`, on the way to success or after an error. -/
  | sentLocally (error : Option SendError)
  | transcript (error : Option SendError) (send : RecipientSend)
  | report (error : Option SendError)
  | didReport (error : SendError)

/-! ## Sending to the service -/

/-- What `sendMessageToService:` meets. -/
structure ServiceEnvironment where
  groupMemberIds : List String
  blockedPhoneNumbers : List String
  hasUDAccess : String → Bool
  /-- What the attempts to send to a recipient meet. -/
  attempts : String → ℕ → AttemptEnvironment

/-- `unsentRecipientsForMessage:thread:error:`. -/
def unsentRecipientsForMessage (outgoing : OutgoingSend) (environment : ServiceEnvironment)
    (message : TSOutgoingMessage) : Except SendError (List String) :=
  match outgoing.thread with
  | .group =>
      .ok ((message.sendingRecipientIds.filter (· ∈ environment.groupMemberIds)).filter
        (· ∉ environment.blockedPhoneNumbers))
  | .contact contactIdentifier =>
      if contactIdentifier ∈ environment.blockedPhoneNumbers then
        .error (.ofCode .messageSendFailedToBlockList false)
      else .ok ([contactIdentifier].filter (· ∉ environment.blockedPhoneNumbers))

def failureHandler (message : TSOutgoingMessage) (error : SendError) : SendTask :=
  if message.wasSentToAnyRecipient then .sentLocally (some error) else .report (some error)

def sendToRecipient (outgoing : OutgoingSend) (environment : ServiceEnvironment)
    (recipientId : String) : OWSMessageSend where
  recipientId
  localNumber := outgoing.localNumber
  isSyncMessage := false
  isSentMessageTranscript := false
  hasUDAccess := environment.hasUDAccess recipientId

def recipientSend (outgoing : OutgoingSend) (environment : ServiceEnvironment)
    (recipientId : String) : RecipientSend :=
  .new recipientId
    (sendMessageToRecipient (environment.attempts recipientId) kMaxRetriesPerRecipient 0
      (sendToRecipient outgoing environment recipientId))

/-- The "self-send" special case: whoever is to be sent to has read the message. -/
def markReadBySelf (message copy : TSOutgoingMessage) : TSOutgoingMessage :=
  message.sendingRecipientIds.foldl
    (fun copy recipientId => copy.updateWithReadRecipientId recipientId message.timestamp) copy

/-- Whoever is to be sent to and not among the recipients is skipped. -/
def skipObsolete (message : TSOutgoingMessage) (recipientIds : List String)
    (copy : TSOutgoingMessage) : TSOutgoingMessage :=
  (message.sendingRecipientIds.filter (· ∉ recipientIds)).foldl
    (fun copy recipientId => copy.updateWithSkippedRecipient recipientId) copy

/-- `sendMessageToService:`: what it does to the message, and what is outstanding
after. -/
def sendMessageToService (outgoing : OutgoingSend) (environment : ServiceEnvironment)
    (message : TSOutgoingMessage) : (TSOutgoingMessage → TSOutgoingMessage) × SendTask :=
  if outgoing.thread = .contact outgoing.localNumber then
    (markReadBySelf message, .sentLocally none)
  else
    match unsentRecipientsForMessage outgoing environment message with
    | .error error => (id, failureHandler message { error with isRetryable := false })
    | .ok recipientIds =>
        (skipObsolete message recipientIds,
          if recipientIds.length < 1 then .sentLocally none
          else .sends false (recipientIds.map (recipientSend outgoing environment)) [])

/-! ## The join -/

/-- The error that the errors of a join come to, by the loop over them; none if all of
them are ignored. -/
def errorOfSendErrors (isGroupSend : Bool) (firstRetryableError firstNonRetryableError :
    Option SendError) : List SendError → Option SendError
  | [] => firstRetryableError.or firstNonRetryableError
  | error :: sendErrors =>
      if isGroupSend && error.shouldBeIgnoredForGroups then
        errorOfSendErrors isGroupSend firstRetryableError firstNonRetryableError sendErrors
      else if error.isFatal then some error
      else if error.isRetryable && firstRetryableError.isNone then
        errorOfSendErrors isGroupSend (some error) firstNonRetryableError sendErrors
      else if !error.isRetryable && firstNonRetryableError.isNone then
        errorOfSendErrors isGroupSend firstRetryableError (some error) sendErrors
      else errorOfSendErrors isGroupSend firstRetryableError firstNonRetryableError sendErrors

def errorToReport (outgoing : OutgoingSend) (message : TSOutgoingMessage)
    (sendErrors : List SendError) : Option SendError :=
  (errorOfSendErrors outgoing.isGroupThread none none sendErrors).or
    (if message.sentRecipientsCount = 0 then some (.ofCode .messageSendNoValidRecipients false)
    else none)

def joinOutcome (outgoing : OutgoingSend) (message : TSOutgoingMessage)
    (sends : List RecipientSend) (sendErrors : List SendError) : SendTask :=
  if sends.all (·.fulfilled == some true) then .sentLocally none
  else
    match errorToReport outgoing message sendErrors with
    | none => .sentLocally none
    | some error => failureHandler message error

/-! ## The state -/

structure MessageSenderOperation where
  message : TSOutgoingMessage
  jobRecord : SSKJobRecord MessageSenderJob
  remainingRetries : UInt64

/-- `reportError:` gives up, and does not wait for a retry. -/
def MessageSenderOperation.givesUp (operation : MessageSenderOperation) (error : SendError) : Bool :=
  error.isFatal || !error.isRetryable || operation.remainingRetries == 0

/-- The job of a message. -/
structure SendState where
  jobRecord : Option (SSKJobRecord MessageSenderJob)
  /-- The row of the message, or the copy in the row of the record. -/
  stored : TSOutgoingMessage
  operation : Option MessageSenderOperation
  tasks : List SendTask

/-- What happens. -/
inductive SendEvent where
  | workStep
  | prepared
  /-- An upload fails, or the message is found deleted. -/
  | preconditionFailed (error : SendError)
  | serviced (environment : ServiceEnvironment)
  | called (recipientId : String) (call : SendCall)
  | rotationAnswered (recipientId : String)
  | joined
  /-- `handleMessageSentLocally:…` has no transcript to sync. -/
  | sentLocally
  /-- It sends a transcript, after an error or not; what its attempts meet. -/
  | transcriptSent (error : Option SendError) (hasUDAccess : Bool)
      (attempts : ℕ → AttemptEnvironment)
  | transcriptCalled (call : SendCall)
  | transcriptRotationAnswered
  | succeeded
  | errorReported (error : SendError)
  | retried
  | gaveUp
  | killed
  | restartedOldJobs
  | failedMessagesJobRan
  /-- A receipt of a recipient, of delivery or of reading; both mark it as sent. -/
  | receiptReceived (recipientId : String) (timestamp : ℕ)

/-! ## The steps -/

def callChange (outgoing : OutgoingSend) (recipientId : String) :
    SendCall → TSOutgoingMessage → TSOutgoingMessage
  | .updateWithSentRecipient wasSentByUD, copy =>
      copy.updateWithSentRecipient recipientId wasSentByUD
  | .updateWithSkippedRecipient, copy => copy.updateWithSkippedRecipient recipientId
  | .unregisteredRecipient, copy =>
      if outgoing.isGroupThread then copy.updateWithSkippedRecipient recipientId else copy
  | _, copy => copy

/-- The errors that a call of a recipient's send adds to `sendErrors`. -/
def SendCall.sendErrors : SendCall → List SendError
  | .failure (some error) => [error]
  | _ => []

def transcriptChange : SendCall → TSOutgoingMessage → TSOutgoingMessage
  | .success, copy => copy.updateWithHasSyncedTranscript true
  | _, copy => copy

/-- What a call of the transcript's send leaves to be reported; an error that there was
before stands in for that of the transcript, and none is one not to be retried. -/
def transcriptReports (error : Option SendError) : SendCall → List SendTask
  | .success => [.report error]
  | .failure syncError => [.report (some (error.getD (syncError.getD (.ofCode .other false))))]
  | _ => []

def sendSyncTranscript (outgoing : OutgoingSend) (hasUDAccess : Bool) : OWSMessageSend where
  recipientId := outgoing.localNumber
  localNumber := outgoing.localNumber
  isSyncMessage := true
  isSentMessageTranscript := true
  hasUDAccess

def transcriptSend (outgoing : OutgoingSend) (hasUDAccess : Bool)
    (attempts : ℕ → AttemptEnvironment) : RecipientSend :=
  .new outgoing.localNumber
    (sendMessageToRecipient attempts kMaxRetriesPerRecipient 0
      (sendSyncTranscript outgoing hasUDAccess))

/-- A task does something: what it does to the message, and what is outstanding after
in its place.  A call that ends the app, an exception or a recipient's failure without
an error, is no step: the app can only be killed. -/
inductive TaskStep (outgoing : OutgoingSend) (message : TSOutgoingMessage) :
    SendTask → SendEvent → (TSOutgoingMessage → TSOutgoingMessage) → List SendTask → Prop
  | preconditionFailed (error : SendError) :
      TaskStep outgoing message .prepared (.preconditionFailed error) id [.report (some error)]
  | serviced (environment : ServiceEnvironment) :
      TaskStep outgoing message .prepared (.serviced environment)
        (sendMessageToService outgoing environment message).1
        [(sendMessageToService outgoing environment message).2]
  | called {isJoined : Bool} {ahead behind : List RecipientSend} {send : RecipientSend}
      {sendErrors : List SendError} {call : SendCall} {calls : List SendCall}
      (next : send.calls = call :: calls) (survives : call ≠ .exception ∧ call ≠ .failure none) :
      TaskStep outgoing message (.sends isJoined (ahead ++ send :: behind) sendErrors)
        (.called send.recipientId call) (callChange outgoing send.recipientId call)
        [.sends isJoined (ahead ++ send.called call calls :: behind)
          (sendErrors ++ call.sendErrors)]
  | rotationAnswered {isJoined : Bool} {ahead behind : List RecipientSend} {send : RecipientSend}
      {sendErrors before after : List SendError} {error : SendError}
      (begun : send.rotations = before ++ error :: after) :
      TaskStep outgoing message (.sends isJoined (ahead ++ send :: behind) sendErrors)
        (.rotationAnswered send.recipientId) id
        [.sends isJoined (ahead ++ send.rotationAnswered (before ++ after) :: behind)
          (sendErrors ++ [error])]
  | joined {sends : List RecipientSend} {sendErrors : List SendError}
      (resolved : ∀ send ∈ sends, send.fulfilled ≠ none) :
      TaskStep outgoing message (.sends false sends sendErrors) .joined id
        [.sends true sends sendErrors, joinOutcome outgoing message sends sendErrors]
  | sentLocally {error : Option SendError} (skips : outgoing.shouldSyncTranscript message = false) :
      TaskStep outgoing message (.sentLocally error) .sentLocally id [.report error]
  | transcriptSent {error : Option SendError} (hasUDAccess : Bool)
      (attempts : ℕ → AttemptEnvironment)
      (syncs : outgoing.shouldSyncTranscript message = true) :
      TaskStep outgoing message (.sentLocally error) (.transcriptSent error hasUDAccess attempts) id
        [.transcript error (transcriptSend outgoing hasUDAccess attempts)]
  | transcriptCalled {error : Option SendError} {send : RecipientSend} {call : SendCall}
      {calls : List SendCall} (next : send.calls = call :: calls) (survives : call ≠ .exception) :
      TaskStep outgoing message (.transcript error send) (.transcriptCalled call)
        (transcriptChange call)
        (.transcript error (send.called call calls) :: transcriptReports error call)
  | transcriptRotationAnswered {error : Option SendError} {send : RecipientSend}
      {before after : List SendError} {syncError : SendError}
      (begun : send.rotations = before ++ syncError :: after) :
      TaskStep outgoing message (.transcript error send) .transcriptRotationAnswered id
        [.transcript error (send.rotationAnswered (before ++ after)),
          .report (some (error.getD syncError))]

namespace SendState

variable (outgoing : OutgoingSend) (state : SendState)

/-- The stored copy, where saving the operation's message changes it. -/
def saved (message : TSOutgoingMessage) : TSOutgoingMessage :=
  if outgoing.shouldBeSaved then message else state.stored

/-- The stored copy, where saving the record changes it: with the record goes a message
that is not saved itself. -/
def archived (message : TSOutgoingMessage) : TSOutgoingMessage :=
  if outgoing.shouldBeSaved then state.stored else message

def applyChangeToSelfAndLatestCopy (operation : MessageSenderOperation)
    (change : TSOutgoingMessage → TSOutgoingMessage) : SendState :=
  { state with
    operation := some { operation with message := change operation.message }
    stored := if outgoing.shouldBeSaved then change state.stored else state.stored }

def prepareMessageForSending (operation : MessageSenderOperation) : SendState :=
  { state with stored := state.saved outgoing operation.message }.applyChangeToSelfAndLatestCopy
    outgoing operation TSOutgoingMessage.updateWithMarkingAllUnsentRecipientsAsSending

/-- What `sendMessageToService:` saves before it looks for recipients, as
`saveInfoMessageForGroupMessage:inThread:` does. -/
def saveInfoMessageForGroupMessage (event : SendEvent) (message : TSOutgoingMessage) : SendState :=
  match event with
  | .serviced _ =>
      if outgoing.isGroupThread && outgoing.groupMetaMessage == .deliver then
        { state with stored := state.saved outgoing message }
      else state
  | _ => state

/-- `restartOldJobs()`, with `didMarkAsReady(oldJobRecord:transaction:)` of a record that
was running. -/
def restartOldJobs : SendState :=
  match state.jobRecord with
  | none => state
  | some jobRecord =>
      if jobRecord.status = .running then
        { state with
          jobRecord := some (jobRecord.saveRunningAsReady.getD jobRecord.saveAsPermanentlyFailed)
          stored :=
            state.saved outgoing state.stored.updateWithMarkingAllUnsentRecipientsAsSending }
      else state

def runFailedMessagesJob : SendState :=
  if state.stored.messageState = .sending then
    { state with
      stored := state.saved outgoing state.stored.updateWithAllSendingRecipientsMarkedAsFailed }
  else state

inductive Step : SendState → SendEvent → SendState → Prop
  | workStep {state : SendState} {jobRecord started : SSKJobRecord MessageSenderJob}
      (fresh : state.operation = none) (row : state.jobRecord = some jobRecord)
      (starts : jobRecord.saveAsStarted = some started) :
      Step state .workStep
        { state with
          jobRecord := some started
          operation := some
            { message := state.stored
              jobRecord := started
              remainingRetries := messageSenderJobQueue.remainingRetries started }
          tasks := [.run] }
  | prepared {state : SendState} {operation : MessageSenderOperation}
      {earlier later : List SendTask} (alive : state.operation = some operation)
      (outstanding : state.tasks = earlier ++ .run :: later) :
      Step state .prepared
        { state.prepareMessageForSending outgoing operation with
          tasks := earlier ++ .prepared :: later }
  | task {state : SendState} {operation : MessageSenderOperation} {event : SendEvent}
      {earlier later tasks : List SendTask} {task : SendTask}
      {change : TSOutgoingMessage → TSOutgoingMessage}
      (alive : state.operation = some operation)
      (outstanding : state.tasks = earlier ++ task :: later)
      (taskStep : TaskStep outgoing operation.message task event change tasks) :
      Step state event
        { (state.saveInfoMessageForGroupMessage outgoing event
            operation.message).applyChangeToSelfAndLatestCopy outgoing operation change with
          tasks := earlier ++ tasks ++ later }
  | succeeded {state : SendState} {operation : MessageSenderOperation}
      {earlier later : List SendTask} (alive : state.operation = some operation)
      (outstanding : state.tasks = earlier ++ .report none :: later) :
      Step state .succeeded
        { state with
          jobRecord := none
          tasks := earlier ++ later }
  | errorReported {state : SendState} {operation : MessageSenderOperation}
      {earlier later : List SendTask} {error : SendError}
      (alive : state.operation = some operation)
      (outstanding : state.tasks = earlier ++ .report (some error) :: later) :
      Step state (.errorReported error)
        { jobRecord := some
            (operation.jobRecord.addFailure.getD operation.jobRecord.saveAsPermanentlyFailed)
          stored := state.archived outgoing operation.message
          operation := some
            { operation with
              jobRecord :=
                operation.jobRecord.addFailure.getD operation.jobRecord.saveAsPermanentlyFailed }
          tasks := earlier ++ .didReport error :: later }
  | retried {state : SendState} {operation : MessageSenderOperation}
      {earlier later : List SendTask} {error : SendError}
      (alive : state.operation = some operation)
      (outstanding : state.tasks = earlier ++ .didReport error :: later)
      (waits : operation.givesUp error = false) :
      Step state .retried
        { state with
          operation := some
            { operation with remainingRetries := operation.remainingRetries - 1 }
          tasks := earlier ++ .run :: later }
  | gaveUp {state : SendState} {operation : MessageSenderOperation}
      {earlier later : List SendTask} {error : SendError}
      (alive : state.operation = some operation)
      (outstanding : state.tasks = earlier ++ .didReport error :: later)
      (givesUp : operation.givesUp error = true) :
      Step state .gaveUp
        { { state with
              stored := state.archived outgoing operation.message }.applyChangeToSelfAndLatestCopy
            outgoing { operation with jobRecord := operation.jobRecord.saveAsPermanentlyFailed }
            TSOutgoingMessage.updateWithAllSendingRecipientsMarkedAsFailed with
          jobRecord := some operation.jobRecord.saveAsPermanentlyFailed
          tasks := earlier ++ later }
  | killed {state : SendState} :
      Step state .killed
        { state with
          operation := none
          tasks := [] }
  | restartedOldJobs {state : SendState} (launched : state.operation = none) :
      Step state .restartedOldJobs (state.restartOldJobs outgoing)
  | failedMessagesJobRan {state : SendState} :
      Step state .failedMessagesJobRan (state.runFailedMessagesJob outgoing)
  | receiptReceived {state : SendState} (recipientId : String) (timestamp : ℕ) :
      Step state (.receiptReceived recipientId timestamp)
        { state with
          stored :=
            state.saved outgoing (state.stored.updateWithReadRecipientId recipientId timestamp) }

/-- The app has just been launched. -/
structure AtLaunch (state : SendState) : Prop where
  operation : state.operation = none
  tasks : state.tasks = []

end SendState

end ObjcSwiftLearning.SignalServiceKit
