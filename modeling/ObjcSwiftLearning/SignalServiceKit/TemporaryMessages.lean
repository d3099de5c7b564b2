import ObjcSwiftLearning.SignalServiceKit.JobQueue

/-!
# Messages that are to be removed when they are sent

A message that only carries a temporary attachment is handed to `addMediaMessage` with
`isTemporaryAttachment = YES`, and its job is to remove it from the database once it is done.
The flag goes with the message while its attachments are written, and is in the record of the
job, which outlives the app.

* `JobQueueState.Step.allJobs` — what is so of every job that is added is so of every record and
  every operation, whatever the queue does.
* `MessageSenderJobQueue.Step` — the queue of the message sender with the stored messages, and
  whoever else saves and removes them.
* `MessageSenderJobQueue.everyStep_cleansUp_iff` — **in which runs the messages are cleaned up**:
  the flag does not reach the record.
-/

namespace ObjcSwiftLearning.SignalServiceKit

/-! ## What is so of every job -/

namespace JobQueueState

variable {Job : Type} {queue : JobQueue Job} {state state' : JobQueueState Job}
  {event : Event Job} {P : Job → Prop}

/-- The jobs of the records, and those of the operations, are as `P` says. -/
structure AllJobs (P : Job → Prop) (state : JobQueueState Job) : Prop where
  records : ∀ sortId jobRecord, state.records sortId = some jobRecord → P jobRecord.job
  operations : ∀ operation ∈ state.operations, P operation.jobRecord.job

namespace AllJobs

variable (all : state.AllJobs P)

include all

theorem of_made {ref : ℕ} {operation : DurableOperation Job}
    (made : state.operations[ref]? = some operation) : P operation.jobRecord.job :=
  all.operations operation (List.mem_of_getElem? made)

theorem save (jobRecord : SSKJobRecord Job) (h : P jobRecord.job) :
    (state.save jobRecord).AllJobs P where
  records sortId other hother := by
    rw [records_save] at hother
    split at hother
    · exact Option.some.inj hother ▸ h
    · exact all.records sortId other hother
  operations := all.operations

theorem remove (jobRecord : SSKJobRecord Job) : (state.remove jobRecord).AllJobs P where
  records sortId other hother := by
    have hrow : Function.update state.records jobRecord.sortId none sortId = some other := hother
    rw [Function.update_apply] at hrow
    split at hrow
    · cases hrow
    · exact all.records sortId other hrow
  operations := all.operations

theorem add {job : Job} (h : P job) : (state.add job).AllJobs P :=
  have taken : { state with previousId := state.previousId + 1 : JobQueueState Job }.AllJobs P :=
    ⟨all.records, all.operations⟩
  taken.save _ h

theorem stopRunning (ref : ℕ) : (state.stopRunning ref).AllJobs P :=
  ⟨all.records, all.operations⟩

theorem setOperation (ref : ℕ) {operation : DurableOperation Job} (h : P operation.jobRecord.job) :
    (state.setOperation ref operation).AllJobs P where
  records := all.records
  operations other hother := by
    rcases List.mem_or_eq_of_mem_set hother with hbefore | rfl
    · exact all.operations other hbefore
    · exact h

theorem of_getNextReady {nextJob : SSKJobRecord Job} (h : state.getNextReady = some nextJob) :
    P nextJob.job := by
  obtain ⟨sortId, -, hrow⟩ := List.mem_filterMap.mp (List.mem_of_find?_eq_some h)
  exact all.records sortId nextJob hrow

theorem workStep (buildOperation : Except JobError Unit) :
    (state.workStep queue buildOperation).AllJobs P := by
  rw [JobQueueState.workStep]
  split
  · exact all
  · split
    · exact all
    · rename_i nextJob hnext
      have hjob := all.of_getNextReady hnext
      split
      · exact all
      · rename_i jobRecord hstarted
        have hsame : jobRecord.job = nextJob.job := by
          rw [SSKJobRecord.saveAsStarted] at hstarted
          split at hstarted
          · cases hstarted
          · rw [← Option.some.inj hstarted]
        have hrecord : P jobRecord.job := hsame ▸ hjob
        split
        · refine ⟨(all.save _ hrecord).records, fun operation hoperation => ?_⟩
          rcases List.mem_append.mp hoperation with hbefore | hnew
          · exact all.operations operation hbefore
          · rw [List.mem_singleton.mp hnew]
            exact hrecord
        · exact (all.save _ hrecord).save _ hrecord
        · exact (all.save _ hrecord).save _ hrecord

theorem restartOldJobs : state.restartOldJobs.AllJobs P where
  records sortId jobRecord hrow := by
    obtain ⟨before, hbefore, rfl⟩ := Option.map_eq_some_iff.mp hrow
    have hjob := all.records sortId before hbefore
    split
    · rename_i hrunning
      rwa [SSKJobRecord.saveRunningAsReady, hrunning]
    · exact hjob
  operations := all.operations

end AllJobs

/-- **What is so of every job that is added** stays so of all. -/
theorem Step.allJobs (step : Step queue state event state') (all : state.AllJobs P)
    (added : ∀ job, event = .added job → P job) : state'.AllJobs P := by
  cases step with
  | added job => exact all.add (added job rfl)
  | idTaken => exact ⟨all.records, all.operations⟩
  | workStep buildOperation => exact all.workStep buildOperation
  | started made | retryTimerFired made | becameReachable _ _ made | retryQueued made
  | completed made =>
      have hjob := all.of_made made
      exact all.setOperation _ hjob
  | succeeded made =>
      have hjob := all.of_made made
      exact ((all.stopRunning _).remove _).setOperation _ hjob
  | @errorReported _ operation error made =>
      have hjob : P (operation.jobRecord.addFailure.getD
          operation.jobRecord.saveAsPermanentlyFailed).job := by
        rw [SSKJobRecord.addFailure]
        split <;> exact all.of_made made
      exact (all.save _ hjob).setOperation _ hjob
  | failed made =>
      have hjob := all.of_made made
      exact ((all.stopRunning _).save (SSKJobRecord.saveAsPermanentlyFailed _) hjob).setOperation
        _ hjob
  | killed => exact ⟨all.records, by rintro _ ⟨⟩⟩
  | restartedOldJobs => exact all.restartOldJobs
  | isSetup => exact ⟨all.records, all.operations⟩

theorem allJobs_of_run {events : List (Event Job)} (h : LabelledRun (Step queue) state events state')
    (all : state.AllJobs P) (added : ∀ job, .added job ∈ events → P job) : state'.AllJobs P := by
  induction h with
  | refl => exact all
  | tail run last ih =>
      refine last.allJobs (ih fun job hjob => added job (List.mem_append_left _ hjob)) ?_
      rintro job rfl
      exact added job (List.mem_append_right _ List.mem_cons_self)

end JobQueueState

/-! ## The messages of the jobs -/

/-- A `TSOutgoingMessage`, as far as its job looks at it. -/
structure QueuedMessage where
  /-- Given with the first save. -/
  uniqueId : Option String
  shouldBeSaved : Bool
  uniqueThreadId : String
  deriving DecidableEq

/-- The message once it has been saved, if it should be; `messageId` is what
`getAndIncrementMessageIdWithTransaction:` gives. -/
def QueuedMessage.saved (message : QueuedMessage) (messageId : String) : QueuedMessage :=
  if message.shouldBeSaved then
    { message with uniqueId := some (message.uniqueId.getD messageId) }
  else message

/-- What an `SSKMessageSenderJobRecord` adds to a job record. -/
structure SSKMessageSenderJob extends MessageSenderJob where
  invisibleMessage : Option QueuedMessage
  removeMessageAfterSending : Bool
  deriving DecidableEq

/-- `initWithMessage:removeMessageAfterSending:label:error:`. -/
def SSKMessageSenderJob.initWithMessage (message : QueuedMessage)
    (removeMessageAfterSending : Bool) : Option SSKMessageSenderJob :=
  if message.shouldBeSaved then
    match message.uniqueId with
    | none => none
    | some messageId =>
        some
          { messageId := some messageId
            threadId := some message.uniqueThreadId
            invisibleMessage := none
            removeMessageAfterSending }
  else
    some
      { messageId := none
        threadId := some message.uniqueThreadId
        invisibleMessage := some message
        removeMessageAfterSending }

/-- How far `prepareAttachments:inMessage:completionHandler:` has come. -/
inductive AttachmentsProgress where
  | writing
  /-- The completion handler is to be called, without an error. -/
  | prepared
  /-- The completion handler is to be called with the error. -/
  | couldNotWrite
  | completed
  deriving DecidableEq

structure MediaMessage where
  message : QueuedMessage
  isTemporaryAttachment : Bool
  progress : AttachmentsProgress

structure MessageSenderJobQueue where
  jobs : JobQueueState SSKMessageSenderJob
  /-- The `TSOutgoingMessage`s of the database, by their unique ids. -/
  database : String → Option QueuedMessage
  /-- In the order they were handed over in this session. -/
  mediaMessages : List MediaMessage
  operationMessage : ℕ → Option QueuedMessage
  /-- What each job was added for: the message, and whether it is to be removed. -/
  addedFor : ℕ → Option (QueuedMessage × Bool)

namespace MessageSenderJobQueue

def jobQueue : JobQueue SSKMessageSenderJob where
  maxRetries := messageSenderJobQueue.maxRetries
  requiresInternet := messageSenderJobQueue.requiresInternet
  operationQueue job := messageSenderJobQueue.operationQueue job.toMessageSenderJob

variable (sender : MessageSenderJobQueue) (message : QueuedMessage)

/-- The message is in the database. -/
def IsStored : Prop :=
  ∃ uniqueId, message.uniqueId = some uniqueId ∧ sender.database uniqueId = some message

/-- `saveWithTransaction:` of a message that has its id, if it has one. -/
def save : MessageSenderJobQueue :=
  match message.uniqueId with
  | none => sender
  | some uniqueId =>
      if message.shouldBeSaved then
        { sender with database := Function.update sender.database uniqueId (some message) }
      else sender

/-- `removeWithTransaction:`. -/
def remove : MessageSenderJobQueue :=
  match message.uniqueId with
  | none => sender
  | some uniqueId => { sender with database := Function.update sender.database uniqueId none }

def addRemoving (removeMessageAfterSending : Bool) : MessageSenderJobQueue :=
  match SSKMessageSenderJob.initWithMessage message false with
  | none => sender
  | some job =>
      { sender with
        jobs := sender.jobs.add job
        addedFor := Function.update sender.addedFor (sender.jobs.previousId + 1)
          (some (message, removeMessageAfterSending)) }

/-- `addMessage:transaction:`. -/
def addMessage : MessageSenderJobQueue := sender.addRemoving message false

def addMediaMessage (isTemporaryAttachment : Bool) : MessageSenderJobQueue :=
  { sender with
    mediaMessages := sender.mediaMessages ++
      [{ message
         isTemporaryAttachment
         progress := .writing }] }

/-- A message that was handed to `addMediaMessage` comes further. -/
def setMediaMessage (index : ℕ) (mediaMessage : MediaMessage) : MessageSenderJobQueue :=
  { sender with mediaMessages := sender.mediaMessages.set index mediaMessage }

/-- The transaction of `prepareAttachments:…`, after which the message is saved. -/
def attachmentsPrepared (index : ℕ) (mediaMessage : MediaMessage) (messageId : String) :
    MessageSenderJobQueue :=
  (sender.save (mediaMessage.message.saved messageId)).setMediaMessage index
    { mediaMessage with
      message := mediaMessage.message.saved messageId
      progress := .prepared }

/-- The completion handler of `addMediaMessage`, where there is no error. -/
def completionHandler (index : ℕ) (mediaMessage : MediaMessage) : MessageSenderJobQueue :=
  (sender.addRemoving mediaMessage.message mediaMessage.isTemporaryAttachment).setMediaMessage
    index { mediaMessage with progress := .completed }

/-- `buildOperation(jobRecord:transaction:)`, the message of the operation. -/
def buildOperation (job : SSKMessageSenderJob) : Except JobError QueuedMessage :=
  match job.invisibleMessage with
  | some invisibleMessage => .ok invisibleMessage
  | none =>
      match job.messageId.bind sender.database with
      | some fetchedMessage => .ok fetchedMessage
      | none => .error .obsolete

def workStep : MessageSenderJobQueue :=
  if sender.jobs.setup ≠ .isSetup then sender
  else
    match sender.jobs.getNextReady with
    | none => sender
    | some nextJob =>
        match sender.buildOperation nextJob.job with
        | .error error => { sender with jobs := sender.jobs.workStep jobQueue (.error error) }
        | .ok message =>
            { sender with
              jobs := sender.jobs.workStep jobQueue (.ok ())
              operationMessage :=
                Function.update sender.operationMessage nextJob.sortId (some message) }

/-- What `didSucceed` and `didFail(error:)` of an operation end with. -/
def removeAfterSending (job : SSKJobRecord SSKMessageSenderJob) : MessageSenderJobQueue :=
  if job.job.removeMessageAfterSending then
    match sender.operationMessage job.sortId with
    | none => sender
    | some message => sender.remove message
  else sender

def didSucceed (ref : ℕ) (operation : DurableOperation SSKMessageSenderJob) :
    MessageSenderJobQueue :=
  { sender with jobs := sender.jobs.durableOperationDidSucceed ref operation }.removeAfterSending
    operation.jobRecord

def didFail (ref : ℕ) (operation : DurableOperation SSKMessageSenderJob) :
    MessageSenderJobQueue :=
  { sender with
    jobs := sender.jobs.durableOperationDidFailWithError ref operation }.removeAfterSending
    operation.jobRecord

def kill : MessageSenderJobQueue :=
  { sender with
    jobs := sender.jobs.kill
    mediaMessages := []
    operationMessage := fun _ => none }

/-- An app that is launched for the first time. -/
def new : MessageSenderJobQueue where
  jobs := .new
  database := fun _ => none
  mediaMessages := []
  operationMessage := fun _ => none
  addedFor := fun _ => none

/-! ## What happens -/

/-- What happens. -/
inductive SenderEvent where
  /-- A message is saved by whoever: `prepareMessageForSending:…` does so before each attempt. -/
  | saved (message : QueuedMessage)
  | removed (message : QueuedMessage)
  | addMessage (message : QueuedMessage)
  | addMediaMessage (message : QueuedMessage) (isTemporaryAttachment : Bool)
  | attachmentsPrepared (index : ℕ) (messageId : String)
  | couldNotWriteAttachment (index : ℕ)
  | completionHandler (index : ℕ)
  | workStep
  /-- A step of the queue that adds no job and ends none. -/
  | jobs (event : JobQueueState.Event SSKMessageSenderJob)
  | didSucceed (sortId : ℕ)
  | didFail (sortId : ℕ)
  | killed

/-- The job is over with the event. -/
def SenderEvent.completes : SenderEvent → Option ℕ
  | .didSucceed sortId | .didFail sortId => some sortId
  | _ => none

/-- The job that does it. -/
def SenderEvent.sortId : SenderEvent → Option ℕ
  | .didSucceed sortId | .didFail sortId => some sortId
  | .jobs (.attempted sortId) | .jobs (.errorReported sortId _) => some sortId
  | .jobs (.retryQueued sortId) | .jobs (.completed sortId) => some sortId
  | _ => none

/-- The events of the queue that neither add a job nor end one, and leave the app alive. -/
def isBetween : JobQueueState.Event SSKMessageSenderJob → Bool
  | .idTaken | .attempted _ | .errorReported _ _ | .retryQueued _ | .completed _ => true
  | .restartedOldJobs | .isSetup => true
  | .added _ | .workStep _ | .succeeded _ | .failed _ | .killed => false

inductive Step : MessageSenderJobQueue → SenderEvent → MessageSenderJobQueue → Prop
  | saved {sender : MessageSenderJobQueue} (message : QueuedMessage) :
      Step sender (.saved message) (sender.save message)
  | removed {sender : MessageSenderJobQueue} (message : QueuedMessage) :
      Step sender (.removed message) (sender.remove message)
  | addMessage {sender : MessageSenderJobQueue} (message : QueuedMessage) :
      Step sender (.addMessage message) (sender.addMessage message)
  | addMediaMessage {sender : MessageSenderJobQueue} (message : QueuedMessage)
      (isTemporaryAttachment : Bool) :
      Step sender (.addMediaMessage message isTemporaryAttachment)
        (sender.addMediaMessage message isTemporaryAttachment)
  | attachmentsPrepared {sender : MessageSenderJobQueue} {index : ℕ} {mediaMessage : MediaMessage}
      (messageId : String) (handedOver : sender.mediaMessages[index]? = some mediaMessage)
      (writing : mediaMessage.progress = .writing) :
      Step sender (.attachmentsPrepared index messageId)
        (sender.attachmentsPrepared index mediaMessage messageId)
  | couldNotWriteAttachment {sender : MessageSenderJobQueue} {index : ℕ}
      {mediaMessage : MediaMessage}
      (handedOver : sender.mediaMessages[index]? = some mediaMessage)
      (writing : mediaMessage.progress = .writing) :
      Step sender (.couldNotWriteAttachment index)
        (sender.setMediaMessage index { mediaMessage with progress := .couldNotWrite })
  | completionHandler {sender : MessageSenderJobQueue} {index : ℕ} {mediaMessage : MediaMessage}
      (handedOver : sender.mediaMessages[index]? = some mediaMessage)
      (prepared : mediaMessage.progress = .prepared) :
      Step sender (.completionHandler index) (sender.completionHandler index mediaMessage)
  | completionHandlerWithError {sender : MessageSenderJobQueue} {index : ℕ}
      {mediaMessage : MediaMessage}
      (handedOver : sender.mediaMessages[index]? = some mediaMessage)
      (couldNotWrite : mediaMessage.progress = .couldNotWrite) :
      Step sender (.completionHandler index)
        (sender.setMediaMessage index { mediaMessage with progress := .completed })
  | workStep {sender : MessageSenderJobQueue} : Step sender .workStep sender.workStep
  | jobs {sender : MessageSenderJobQueue} {event : JobQueueState.Event SSKMessageSenderJob}
      {jobs : JobQueueState SSKMessageSenderJob} (between : isBetween event = true)
      (step : JobQueueState.Step jobQueue sender.jobs event jobs) :
      Step sender (.jobs event) { sender with jobs }
  | didSucceed {sender : MessageSenderJobQueue} {ref : ℕ}
      {operation : DurableOperation SSKMessageSenderJob}
      (made : sender.jobs.operations[ref]? = some operation)
      (ran : operation.progress = .running) :
      Step sender (.didSucceed operation.jobRecord.sortId) (sender.didSucceed ref operation)
  | didFail {sender : MessageSenderJobQueue} {ref : ℕ}
      {operation : DurableOperation SSKMessageSenderJob} {error : OperationError}
      (made : sender.jobs.operations[ref]? = some operation)
      (reported : operation.progress = .didReportError error)
      (givesUp : operation.givesUp error = true) :
      Step sender (.didFail operation.jobRecord.sortId) (sender.didFail ref operation)
  | killed {sender : MessageSenderJobQueue} : Step sender .killed sender.kill

/-! ## The jobs remove nothing -/

variable {sender sender' : MessageSenderJobQueue} {event : SenderEvent}
  {message : QueuedMessage}

@[simp] theorem jobs_save : (sender.save message).jobs = sender.jobs := by
  rw [save]
  split
  · rfl
  · split <;> rfl

@[simp] theorem jobs_remove : (sender.remove message).jobs = sender.jobs := by
  rw [remove]
  split <;> rfl

@[simp] theorem jobs_removeAfterSending (job : SSKJobRecord SSKMessageSenderJob) :
    (sender.removeAfterSending job).jobs = sender.jobs := by
  rw [removeAfterSending]
  split
  · split
    · rfl
    · exact jobs_remove
  · rfl

/-- **A job that is added** removes nothing, whatever it was added for. -/
theorem addRemoving_cases (sender : MessageSenderJobQueue) (message : QueuedMessage)
    (removeMessageAfterSending : Bool) :
    sender.addRemoving message removeMessageAfterSending = sender ∨
      ∃ job, job.removeMessageAfterSending = false ∧
        sender.addRemoving message removeMessageAfterSending =
          { sender with
            jobs := sender.jobs.add job
            addedFor := Function.update sender.addedFor (sender.jobs.previousId + 1)
              (some (message, removeMessageAfterSending)) } := by
  rw [addRemoving]
  cases hjob : SSKMessageSenderJob.initWithMessage message false with
  | none => exact .inl rfl
  | some job =>
      refine .inr ⟨job, ?_, rfl⟩
      rw [SSKMessageSenderJob.initWithMessage] at hjob
      split at hjob
      · split at hjob
        · cases hjob
        · rw [← Option.some.inj hjob]
      · rw [← Option.some.inj hjob]

/-- **The jobs go through a run of the queue**, and none that is added removes its message. -/
theorem Step.isRun (step : Step sender event sender') :
    ∃ events, LabelledRun (JobQueueState.Step jobQueue) sender.jobs events sender'.jobs ∧
      ∀ job, .added job ∈ events → job.removeMessageAfterSending = false := by
  -- A message that is added makes a job, or is not saved and makes none.
  have hadd : ∀ (sender : MessageSenderJobQueue) (message : QueuedMessage)
      (removeMessageAfterSending : Bool), ∃ events,
      LabelledRun (JobQueueState.Step jobQueue) sender.jobs events
        (sender.addRemoving message removeMessageAfterSending).jobs ∧
      ∀ job, .added job ∈ events → job.removeMessageAfterSending = false := by
    intro sender message removeMessageAfterSending
    rcases sender.addRemoving_cases message removeMessageAfterSending with
      hnothing | ⟨job, hjob, hadded⟩
    · rw [hnothing]
      exact ⟨[], .refl, by simp⟩
    · rw [hadded]
      exact ⟨[.added job], .single (.added job), by simpa using hjob⟩
  cases step with
  | saved message | removed message => exact ⟨[], by simpa using .refl, by simp⟩
  | addMessage message => exact hadd sender message false
  | addMediaMessage message isTemporaryAttachment | couldNotWriteAttachment handedOver writing
  | completionHandlerWithError handedOver couldNotWrite => exact ⟨[], .refl, by simp⟩
  | attachmentsPrepared messageId handedOver writing =>
      refine ⟨[], ?_, by simp⟩
      rw [MessageSenderJobQueue.attachmentsPrepared, setMediaMessage, jobs_save]
      exact .refl
  | @completionHandler _ mediaMessage handedOver prepared =>
      exact hadd sender mediaMessage.message mediaMessage.isTemporaryAttachment
  | workStep =>
      rw [MessageSenderJobQueue.workStep]
      split
      · exact ⟨[], .refl, by simp⟩
      · split
        · exact ⟨[], .refl, by simp⟩
        · split
          · exact ⟨[.workStep (.error _)], .single (.workStep _), by simp⟩
          · exact ⟨[.workStep (.ok ())], .single (.workStep _), by simp⟩
  | @jobs event jobs between step =>
      refine ⟨[event], .single step, fun job hjob => ?_⟩
      rw [← List.mem_singleton.mp hjob] at between
      exact absurd between (by simp [isBetween])
  | @didSucceed ref operation made ran =>
      refine ⟨[.succeeded operation.jobRecord.sortId], ?_, by simp⟩
      rw [MessageSenderJobQueue.didSucceed, jobs_removeAfterSending]
      exact .single (.succeeded made ran)
  | @didFail ref operation error made reported givesUp =>
      refine ⟨[.failed operation.jobRecord.sortId], ?_, by simp⟩
      rw [MessageSenderJobQueue.didFail, jobs_removeAfterSending]
      exact .single (.failed made reported givesUp)
  | killed => exact ⟨[.killed], .single .killed, by simp⟩

/-- What holds in every state. -/
structure Sound (sender : MessageSenderJobQueue) : Prop where
  neverRemoves : sender.jobs.AllJobs fun job => job.removeMessageAfterSending = false
  shouldBeSaved : ∀ uniqueId stored, sender.database uniqueId = some stored →
    stored.shouldBeSaved = true

theorem Sound.save (sound : sender.Sound) (message : QueuedMessage) :
    (sender.save message).Sound := by
  refine ⟨by simpa using sound.neverRemoves, fun uniqueId stored hstored => ?_⟩
  rw [MessageSenderJobQueue.save] at hstored
  split at hstored
  · exact sound.shouldBeSaved uniqueId stored hstored
  · split at hstored
    · rename_i hsaved
      dsimp only at hstored
      rw [Function.update_apply] at hstored
      split at hstored
      · rw [← Option.some.inj hstored]
        exact hsaved
      · exact sound.shouldBeSaved uniqueId stored hstored
    · exact sound.shouldBeSaved uniqueId stored hstored

theorem Sound.remove (sound : sender.Sound) (message : QueuedMessage) :
    (sender.remove message).Sound := by
  refine ⟨by simpa using sound.neverRemoves, fun uniqueId stored hstored => ?_⟩
  rw [MessageSenderJobQueue.remove] at hstored
  split at hstored
  · exact sound.shouldBeSaved uniqueId stored hstored
  · dsimp only at hstored
    rw [Function.update_apply] at hstored
    split at hstored
    · cases hstored
    · exact sound.shouldBeSaved uniqueId stored hstored

/-- A job of a sound state leaves its message where it is. -/
theorem Sound.removeAfterSending_eq (sound : sender.Sound) {ref : ℕ}
    {operation : DurableOperation SSKMessageSenderJob}
    (made : sender.jobs.operations[ref]? = some operation) (after : MessageSenderJobQueue) :
    after.removeAfterSending operation.jobRecord = after := by
  rw [removeAfterSending, sound.neverRemoves.of_made made]
  exact if_neg (by decide)

theorem database_addRemoving (removeMessageAfterSending : Bool) :
    (sender.addRemoving message removeMessageAfterSending).database = sender.database := by
  rcases sender.addRemoving_cases message removeMessageAfterSending with
    hnothing | ⟨job, -, hadded⟩
  · rw [hnothing]
  · rw [hadded]

theorem database_workStep : sender.workStep.database = sender.database := by
  rw [workStep]
  split
  · rfl
  · split
    · rfl
    · split <;> rfl

/-- **A step changes what is stored** only by saving or by a removal, and neither is a job's. -/
theorem Step.database_cases (step : Step sender event sender') (sound : sender.Sound) :
    sender'.database = sender.database ∨
      event.sortId = none ∧ ∃ message, sender'.database = (sender.save message).database ∨
        sender'.database = (sender.remove message).database := by
  cases step with
  | saved message => exact .inr ⟨rfl, message, .inl rfl⟩
  | removed message => exact .inr ⟨rfl, message, .inr rfl⟩
  | addMessage message => exact .inl (database_addRemoving false)
  | addMediaMessage message isTemporaryAttachment | couldNotWriteAttachment handedOver writing
  | completionHandlerWithError handedOver couldNotWrite | jobs between step | killed =>
      exact .inl rfl
  | attachmentsPrepared messageId handedOver writing => exact .inr ⟨rfl, _, .inl rfl⟩
  | completionHandler handedOver prepared => exact .inl (database_addRemoving _)
  | workStep => exact .inl database_workStep
  | didSucceed made ran =>
      rw [MessageSenderJobQueue.didSucceed, sound.removeAfterSending_eq made]
      exact .inl rfl
  | didFail made reported givesUp =>
      rw [MessageSenderJobQueue.didFail, sound.removeAfterSending_eq made]
      exact .inl rfl

theorem Step.sound (step : Step sender event sender') (sound : sender.Sound) : sender'.Sound where
  neverRemoves := by
    obtain ⟨events, run, hadded⟩ := step.isRun
    exact JobQueueState.allJobs_of_run run sound.neverRemoves hadded
  shouldBeSaved := by
    rcases step.database_cases sound with hsame | ⟨-, message, hsaved | hremoved⟩
    · rw [hsame]
      exact sound.shouldBeSaved
    · rw [hsaved]
      exact (sound.save message).shouldBeSaved
    · rw [hremoved]
      exact (sound.remove message).shouldBeSaved

theorem sound_of_run {events : List SenderEvent} (h : LabelledRun Step new events sender) :
    sender.Sound := by
  refine h.invariant (I := fun _ sender => sender.Sound) ?_ ?_
  · refine ⟨⟨?_, ?_⟩, ?_⟩
    · rintro sortId jobRecord ⟨⟩
    · rintro operation ⟨⟩
    · rintro uniqueId stored ⟨⟩
  · exact fun _ _ _ _ sound step => step.sound sound

/-! ## When messages are cleaned up -/

/-- **A step cleans up**: a message that was handed over with `isTemporaryAttachment = YES` is
not in the database when its job is over, and no job removes any other message. -/
structure CleansUp (sender : MessageSenderJobQueue) (event : SenderEvent)
    (sender' : MessageSenderJobQueue) : Prop where
  temporary : ∀ sortId message, event.completes = some sortId →
    sender.addedFor sortId = some (message, true) → ¬sender'.IsStored message
  others : ∀ sortId message, event.sortId = some sortId →
    sender.addedFor sortId = some (message, false) → sender.IsStored message →
      sender'.IsStored message

/-- A temporary message whose job is now over should not be saved, or is in the database no
longer. -/
def LeavesNone (sender : MessageSenderJobQueue) (event : SenderEvent) : Prop :=
  ∀ sortId message, event.completes = some sortId →
    sender.addedFor sortId = some (message, true) →
      message.shouldBeSaved = false ∨ ¬sender.IsStored message

theorem SenderEvent.sortId_of_completes {sortId : ℕ} (h : event.completes = some sortId) :
    event.sortId = some sortId := by
  cases event with
  | didSucceed other => exact h
  | didFail other => exact h
  | _ => cases h

/-- What a job does leaves the database as it is. -/
theorem Step.isStored_iff {sortId : ℕ} (step : Step sender event sender') (sound : sender.Sound)
    (h : event.sortId = some sortId) (message : QueuedMessage) :
    sender'.IsStored message ↔ sender.IsStored message := by
  rcases step.database_cases sound with hsame | ⟨hnone, -⟩
  · rw [IsStored, IsStored, hsame]
  · rw [hnone] at h
    cases h

theorem Step.cleansUp_iff (step : Step sender event sender') (sound : sender.Sound) :
    CleansUp sender event sender' ↔ sender.LeavesNone event := by
  constructor
  · intro h sortId message hcompletes hadded
    refine .inr ?_
    rw [← step.isStored_iff sound (SenderEvent.sortId_of_completes hcompletes)]
    exact h.temporary sortId message hcompletes hadded
  · intro h
    refine ⟨fun sortId message hcompletes hadded => ?_, fun sortId message hsortId _ => ?_⟩
    · rw [step.isStored_iff sound (SenderEvent.sortId_of_completes hcompletes)]
      rcases h sortId message hcompletes hadded with hnever | hgone
      · rintro ⟨uniqueId, -, hstored⟩
        rw [sound.shouldBeSaved uniqueId message hstored] at hnever
        cases hnever
      · exact hgone
    · exact (step.isStored_iff sound hsortId message).mpr

/-- **In which runs the messages are cleaned up**: in those where each message that was handed
over as temporary is of a kind that is never saved, or something other than its job has removed
it by the time the job is over. -/
theorem everyStep_cleansUp_iff (events : List SenderEvent) :
    LabelledRun.EveryStep Step new events CleansUp ↔
      LabelledRun.EveryStep Step new events fun sender event _ => sender.LeavesNone event := by
  constructor
  · intro h earlier event later sender sender' hevents run last
    exact (last.cleansUp_iff (sound_of_run run)).mp
      (h earlier event later sender sender' hevents run last)
  · intro h earlier event later sender sender' hevents run last
    exact (last.cleansUp_iff (sound_of_run run)).mpr
      (h earlier event later sender sender' hevents run last)

/-- A message that is shown, with its unique id. -/
def sampleMessage : QueuedMessage where
  uniqueId := some "1"
  shouldBeSaved := true
  uniqueThreadId := "c+15550001"

/-- It is handed over as temporary, and its job is taken up. -/
def sampleQueued : MessageSenderJobQueue :=
  let isSetup := { new with jobs := { new.jobs.restartOldJobs with setup := .isSetup } }
  (((isSetup.addMediaMessage sampleMessage true).attachmentsPrepared 0
    ⟨sampleMessage, true, .writing⟩ "2").completionHandler 0
      ⟨sampleMessage, true, .prepared⟩).workStep

/-- What happens until the message is being sent. -/
def sampleEvents : List SenderEvent :=
  [.jobs .restartedOldJobs, .jobs .isSetup, .addMediaMessage sampleMessage true,
    .attachmentsPrepared 0 "2", .completionHandler 0, .workStep, .jobs (.attempted 1)]

def sampleOperation (progress : OperationProgress) : DurableOperation SSKMessageSenderJob where
  jobRecord :=
    { sortId := 1
      status := .running
      failureCount := 0
      job :=
        { messageId := some "1"
          threadId := some "c+15550001"
          invisibleMessage := none
          removeMessageAfterSending := false } }
  remainingRetries := 10
  progress

/-- It is sent with the first attempt. -/
def sampleAttempted : MessageSenderJobQueue :=
  { sampleQueued with jobs := sampleQueued.jobs.setOperation 0 (sampleOperation .running) }

/-- It is still stored when its job has succeeded. -/
theorem sample_not_cleansUp :
    ¬LabelledRun.EveryStep Step new (sampleEvents ++ [.didSucceed 1]) CleansUp := by
  intro h
  have launched : LabelledRun Step new [.jobs .restartedOldJobs, .jobs .isSetup] _ :=
    .tail (.single (.jobs rfl (.restartedOldJobs rfl))) (.jobs rfl (.isSetup rfl))
  have prepared := (launched.tail (.addMediaMessage sampleMessage true)).tail
    (@Step.attachmentsPrepared _ 0 ⟨sampleMessage, true, .writing⟩ "2" rfl rfl)
  have queued : LabelledRun Step new _ sampleQueued :=
    (prepared.tail
      (@Step.completionHandler _ 0 ⟨sampleMessage, true, .prepared⟩ rfl rfl)).tail .workStep
  have mayStart : sampleQueued.jobs.MayStart jobQueue 0 (sampleOperation .queued) := by
    refine ⟨fun _ hlt => absurd hlt (Nat.not_lt_zero _), ?_⟩
    rintro count ⟨⟩
    decide
  have attempted : LabelledRun Step new sampleEvents sampleAttempted :=
    queued.tail (.jobs rfl (.started (rfl : _ = some (sampleOperation .queued)) rfl mayStart))
  have last := @Step.didSucceed sampleAttempted 0 (sampleOperation .running) rfl rfl
  exact (h sampleEvents (.didSucceed 1) [] _ _ rfl attempted last).temporary 1 sampleMessage rfl
    rfl ⟨"1", rfl, rfl⟩

end MessageSenderJobQueue

end ObjcSwiftLearning.SignalServiceKit
