import ObjcSwiftLearning.Library.WorkQueue
import ObjcSwiftLearning.SignalServiceKit.ReceivedContent

/-!
# From the socket to the conversation

A received envelope is stored as a decrypt job.  The decrypt queue takes the oldest, decrypts
it, stores what comes of it as a content job, in the same transaction as the session it has
changed, and then removes the decrypt job.  The content queue takes up to 32 content jobs,
handles them in one transaction, and then removes them in another.  The app may be killed
between any two transactions, and goes on with what is stored.

* `MessageQueues.Step` — the two queues, and what goes on around them.
* `MessageQueues.decryptQueue_run`, `MessageQueues.contentQueue_run` — each of them is a queue
  that outlives its worker.

When a job is handled, and when its conversation is looked at, the stores and the groups may
have been changed by other parts of the app.
-/

namespace ObjcSwiftLearning.SignalServiceKit

open AxolotlKit Procedure

/-! ## Jobs -/

structure OWSMessageDecryptJob where
  uniqueId : String
  createdAt : ℤ
  envelopeData : NSData
  deriving DecidableEq

/-- The order of `OWSMessageDecryptJobFinder`. -/
def OWSMessageDecryptJob.IsBefore (job other : OWSMessageDecryptJob) : Prop :=
  job.createdAt < other.createdAt

instance : DecidableRel OWSMessageDecryptJob.IsBefore := fun job other =>
  inferInstanceAs (Decidable (job.createdAt < other.createdAt))

/-- The order of `OWSMessageContentJobFinder`. -/
def OWSMessageContentJob.IsBefore (job other : OWSMessageContentJob) : Prop :=
  job.createdAt < other.createdAt

instance : DecidableRel OWSMessageContentJob.IsBefore := fun job other =>
  inferInstanceAs (Decidable (job.createdAt < other.createdAt))

def kMaxEnvelopeByteCount : ℕ := 250 * 1024

def kIncomingMessageBatchSize : ℕ := 32

/-- The checks of `handleReceivedEnvelopeData:`. -/
def acceptsEnvelopeData (envelopeData : NSData) : Bool :=
  if envelopeData.length < 1 then false
  else if kMaxEnvelopeByteCount < envelopeData.length then false
  else true

/-- The check of `enqueueEnvelopeData:plaintextData:transaction:`. -/
def OWSMessageContentJob.isEnqueued (job : OWSMessageContentJob) : Bool :=
  if job.envelopeData.length < 1 then false else true

/-! ## Working on them -/

/-- `processJob:completion:` of the decrypt queue: the stores that its transaction leaves, and
the result if it is the success block that is called.  An exception that is caught by nobody
ends the app. -/
inductive Decryption (P : Primitives) (decrypter : OWSMessageDecrypter) (parser : ProtoParser)
    (world : World) (job : OWSMessageDecryptJob) : World → Option OWSMessageDecryptResult → Prop
  | unparsable (hparse : parser.parseEnvelope job.envelopeData = none) :
      Decryption P decrypter parser world job world none
  | failure {envelope : SSKProtoEnvelope} {world' : World}
      (hparse : parser.parseEnvelope job.envelopeData = some envelope)
      (hrun : (decrypter.decryptEnvelope P envelope job.envelopeData).run ⟨world, []⟩ =
        (.ok (), ⟨world', [.failure]⟩)) :
      Decryption P decrypter parser world job world' none
  | success {envelope : SSKProtoEnvelope} {world' : World} {result : OWSMessageDecryptResult}
      (hparse : parser.parseEnvelope job.envelopeData = some envelope)
      (hrun : (decrypter.decryptEnvelope P envelope job.envelopeData).run ⟨world, []⟩ =
        (.ok (), ⟨world', [.success result]⟩)) :
      Decryption P decrypter parser world job world' (some result)

/-- `processJobs:`: the jobs that were processed, and the database; the first job finds the
first environment. -/
def processJobs (parser : ProtoParser) (database : ContentDatabase) :
    (environments : ℕ → JobEnvironment) → List OWSMessageContentJob →
      List OWSMessageContentJob × ContentDatabase
  | _, [] => ([], database)
  | environments, job :: jobs =>
      let processed := database.processJob job parser (environments 0)
      if (environments 0).isAppInBackground then ([job], processed)
      else
        let rest := processJobs parser processed (fun index => environments (index + 1)) jobs
        (job :: rest.1, rest.2)

/-- The app, as far as it receives messages. -/
structure MessageQueues where
  /-- The stores of the cipher. -/
  world : World
  decryptQueue : WorkQueue OWSMessageDecryptJob String
  isDrainingDecryptQueue : Bool
  contentQueue : WorkQueue OWSMessageContentJob String
  isDrainingContentQueue : Bool
  database : ContentDatabase

namespace MessageQueues

variable (queues : MessageQueues)

def handleReceivedEnvelopeData (job : OWSMessageDecryptJob) : MessageQueues :=
  if acceptsEnvelopeData job.envelopeData then
    { queues with
      decryptQueue := queues.decryptQueue.add OWSMessageDecryptJob.uniqueId
        OWSMessageDecryptJob.IsBefore job }
  else queues

/-- `enqueueEnvelopeData:plaintextData:transaction:`; the job is made of the data. -/
def enqueueEnvelopeData (job : OWSMessageContentJob) : MessageQueues :=
  if job.isEnqueued then
    { queues with
      contentQueue := queues.contentQueue.add OWSMessageContentJob.uniqueId
        OWSMessageContentJob.IsBefore job }
  else queues

/-- What is left when the app is killed. -/
def relaunch : MessageQueues :=
  { queues with
    decryptQueue := queues.decryptQueue.kill
    isDrainingDecryptQueue := false
    contentQueue := queues.contentQueue.kill
    isDrainingContentQueue := false }

/-- An app that has not received anything. -/
def fresh (world : World) (threads : GroupThreads)
    (configurations : TSThreadId → Option OWSDisappearingMessagesConfiguration) :
    MessageQueues where
  world := world
  decryptQueue := .empty
  isDrainingDecryptQueue := false
  contentQueue := .empty
  isDrainingContentQueue := false
  database :=
    { interactions := []
      threads
      configurations }

/-! ## The steps -/

/-- What happens. -/
inductive Event where
  | received (job : OWSMessageDecryptJob)
  | drainDecryptQueue
  | decrypted (job : OWSMessageDecryptJob) (contentJob : OWSMessageContentJob)
  | notDecrypted (job : OWSMessageDecryptJob)
  | removedDecryptJob
  | drainedDecryptQueue
  | drainContentQueue
  | processed (jobs : List OWSMessageContentJob)
  | removedContentJobs
  | drainedContentQueue
  /-- The app is killed, after it has worked on some jobs and before it removed them. -/
  | killed (decryptJobs : List OWSMessageDecryptJob) (contentJobs : List OWSMessageContentJob)
  | changedElsewhere

/-- One step: a transaction, or a block of one of the queues that does without. -/
inductive Step (P : Primitives) (decrypter : OWSMessageDecrypter) (parser : ProtoParser) :
    MessageQueues → Event → MessageQueues → Prop
  | received {queues : MessageQueues} (job : OWSMessageDecryptJob)
      (hnew : job.uniqueId ∉ queues.decryptQueue.keys) :
      Step P decrypter parser queues (.received job) (queues.handleReceivedEnvelopeData job)
  | drainDecryptQueue {queues : MessageQueues} :
      Step P decrypter parser queues .drainDecryptQueue
        { queues with isDrainingDecryptQueue := true }
  | decrypted {queues : MessageQueues} {world : World} {job : OWSMessageDecryptJob}
      {result : OWSMessageDecryptResult} (contentJob : OWSMessageContentJob)
      (hdraining : queues.isDrainingDecryptQueue = true)
      (hidle : queues.decryptQueue.worked = [])
      (hnext : queues.decryptQueue.stored.head? = some job)
      (hdecryption : Decryption P decrypter parser queues.world job world (some result))
      (henvelope : contentJob.envelopeData = result.envelopeData)
      (hplaintext : contentJob.plaintextData = result.plaintextData)
      (hnew : contentJob.uniqueId ∉ queues.contentQueue.keys) :
      Step P decrypter parser queues (.decrypted job contentJob)
        (enqueueEnvelopeData
          { queues with
            world
            decryptQueue := queues.decryptQueue.work [job] } contentJob)
  | notDecrypted {queues : MessageQueues} {world : World} {job : OWSMessageDecryptJob}
      (hdraining : queues.isDrainingDecryptQueue = true)
      (hidle : queues.decryptQueue.worked = [])
      (hnext : queues.decryptQueue.stored.head? = some job)
      (hdecryption : Decryption P decrypter parser queues.world job world none) :
      Step P decrypter parser queues (.notDecrypted job)
        { queues with
          world
          decryptQueue := queues.decryptQueue.work [job] }
  | removedDecryptJob {queues : MessageQueues} (hworked : queues.decryptQueue.worked ≠ []) :
      Step P decrypter parser queues .removedDecryptJob
        { queues with
          decryptQueue := queues.decryptQueue.removeWorked OWSMessageDecryptJob.uniqueId }
  | drainedDecryptQueue {queues : MessageQueues}
      (hidle : queues.decryptQueue.worked = [])
      (hnext : queues.decryptQueue.stored.head? = none) :
      Step P decrypter parser queues .drainedDecryptQueue
        { queues with isDrainingDecryptQueue := false }
  | drainContentQueue {queues : MessageQueues} :
      Step P decrypter parser queues .drainContentQueue
        { queues with isDrainingContentQueue := true }
  | processed {queues : MessageQueues} (environments : ℕ → JobEnvironment)
      {jobs : List OWSMessageContentJob} {database : ContentDatabase}
      (hdraining : queues.isDrainingContentQueue = true)
      (hidle : queues.contentQueue.worked = [])
      (hnext : queues.contentQueue.stored.take kIncomingMessageBatchSize ≠ [])
      (hprocess : processJobs parser queues.database environments
        (queues.contentQueue.stored.take kIncomingMessageBatchSize) = (jobs, database)) :
      Step P decrypter parser queues (.processed jobs)
        { queues with
          contentQueue := queues.contentQueue.work jobs
          database }
  | removedContentJobs {queues : MessageQueues} (hworked : queues.contentQueue.worked ≠ []) :
      Step P decrypter parser queues .removedContentJobs
        { queues with
          contentQueue := queues.contentQueue.removeWorked OWSMessageContentJob.uniqueId }
  | drainedContentQueue {queues : MessageQueues}
      (hidle : queues.contentQueue.worked = [])
      (hnext : queues.contentQueue.stored.take kIncomingMessageBatchSize = []) :
      Step P decrypter parser queues .drainedContentQueue
        { queues with isDrainingContentQueue := false }
  | killed {queues : MessageQueues} :
      Step P decrypter parser queues
        (.killed queues.decryptQueue.worked queues.contentQueue.worked) queues.relaunch
  | changedElsewhere {queues : MessageQueues} (world : World) (threads : GroupThreads)
      (configurations : TSThreadId → Option OWSDisappearingMessagesConfiguration) :
      Step P decrypter parser queues .changedElsewhere
        { queues with
          world
          database :=
            { queues.database with
              threads
              configurations } }

/-! ## Each queue for itself -/

def Event.ofDecryptQueue : Event → List (WorkQueue.Event OWSMessageDecryptJob)
  | .received job => if acceptsEnvelopeData job.envelopeData then [.added job] else []
  | .decrypted job _ => [.worked [job]]
  | .notDecrypted job => [.worked [job]]
  | .removedDecryptJob => [.removed]
  | .killed decryptJobs _ => [.killed decryptJobs]
  | _ => []

def Event.ofContentQueue : Event → List (WorkQueue.Event OWSMessageContentJob)
  | .decrypted _ contentJob => if contentJob.isEnqueued then [.added contentJob] else []
  | .processed jobs => [.worked jobs]
  | .removedContentJobs => [.removed]
  | .killed _ contentJobs => [.killed contentJobs]
  | _ => []

variable {queues : MessageQueues} {P : Primitives} {decrypter : OWSMessageDecrypter}
  {parser : ProtoParser} {queues' : MessageQueues} {event : Event}

@[simp] theorem decryptQueue_enqueueEnvelopeData (job : OWSMessageContentJob) :
    (queues.enqueueEnvelopeData job).decryptQueue = queues.decryptQueue := by
  unfold enqueueEnvelopeData
  split
  · rfl
  · rfl

@[simp] theorem database_enqueueEnvelopeData (job : OWSMessageContentJob) :
    (queues.enqueueEnvelopeData job).database = queues.database := by
  unfold enqueueEnvelopeData
  split
  · rfl
  · rfl

@[simp] theorem contentQueue_handleReceivedEnvelopeData (job : OWSMessageDecryptJob) :
    (queues.handleReceivedEnvelopeData job).contentQueue = queues.contentQueue := by
  unfold handleReceivedEnvelopeData
  split
  · rfl
  · rfl

@[simp] theorem database_handleReceivedEnvelopeData (job : OWSMessageDecryptJob) :
    (queues.handleReceivedEnvelopeData job).database = queues.database := by
  unfold handleReceivedEnvelopeData
  split
  · rfl
  · rfl

theorem processed_isPrefix (database : ContentDatabase) (environments : ℕ → JobEnvironment)
    (jobs : List OWSMessageContentJob) :
    (processJobs parser database environments jobs).1 <+: jobs := by
  induction jobs generalizing database environments with
  | nil => exact List.nil_prefix
  | cons job jobs ih =>
      unfold processJobs
      dsimp only
      split
      · exact List.prefix_append [job] jobs
      · exact List.cons_prefix_cons.mpr ⟨rfl, ih _ _⟩

theorem decryptQueue_step (step : Step P decrypter parser queues event queues') :
    LabelledRun (WorkQueue.Step OWSMessageDecryptJob.uniqueId OWSMessageDecryptJob.IsBefore)
      queues.decryptQueue event.ofDecryptQueue queues'.decryptQueue := by
  have hwork : ∀ {job}, queues.decryptQueue.worked = [] →
      queues.decryptQueue.stored.head? = some job →
      LabelledRun (WorkQueue.Step OWSMessageDecryptJob.uniqueId OWSMessageDecryptJob.IsBefore)
        queues.decryptQueue [.worked [job]] (queues.decryptQueue.work [job]) := by
    intro job hidle hnext
    obtain ⟨rest, hstored⟩ := List.head?_eq_some_iff.mp hnext
    exact .single (.worked [job] hidle (hstored ▸ List.prefix_append [job] rest))
  cases step with
  | received job hnew =>
      dsimp only [handleReceivedEnvelopeData, Event.ofDecryptQueue]
      split
      · exact .single (.added job hnew)
      · exact .refl
  | decrypted contentJob hdraining hidle hnext hdecryption henvelope hplaintext hnew =>
      rw [decryptQueue_enqueueEnvelopeData]
      exact hwork hidle hnext
  | notDecrypted hdraining hidle hnext hdecryption => exact hwork hidle hnext
  | removedDecryptJob hworked => exact .single .removed
  | killed => exact .single .killed
  | drainDecryptQueue | drainedDecryptQueue | drainContentQueue | processed
  | removedContentJobs | drainedContentQueue | changedElsewhere => exact .refl

theorem contentQueue_step (step : Step P decrypter parser queues event queues') :
    LabelledRun (WorkQueue.Step OWSMessageContentJob.uniqueId OWSMessageContentJob.IsBefore)
      queues.contentQueue event.ofContentQueue queues'.contentQueue := by
  cases step with
  | received job hnew =>
      rw [contentQueue_handleReceivedEnvelopeData]
      exact .refl
  | decrypted contentJob hdraining hidle hnext hdecryption henvelope hplaintext hnew =>
      dsimp only [enqueueEnvelopeData, Event.ofContentQueue]
      split
      · exact .single (.added contentJob hnew)
      · exact .refl
  | @processed environments jobs database hdraining hidle hnext hprocess =>
      have htaken := @processed_isPrefix parser queues.database environments
        (queues.contentQueue.stored.take kIncomingMessageBatchSize)
      rw [hprocess] at htaken
      exact .single (.worked jobs hidle (htaken.trans (List.take_prefix _ _)))
  | removedContentJobs hworked => exact .single .removed
  | killed => exact .single .killed
  | drainDecryptQueue | drainedDecryptQueue | drainContentQueue | notDecrypted
  | removedDecryptJob | drainedContentQueue | changedElsewhere => exact .refl

end MessageQueues

end ObjcSwiftLearning.SignalServiceKit
