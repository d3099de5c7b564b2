import ObjcSwiftLearning.Library.LabelledRun

/-!
# The durable job queue

A `JobQueue` keeps a record of each job in the database and works the records off
with operations that live in memory.  A transaction of `workStep` takes the first
ready record, marks it as running and puts an operation for it on an operation
queue; the operation runs, reports, waits for a retry and runs again; its reports
change the record.  When the app is killed the operations are gone, and `setup` of
the next session makes the running records ready again.

* `SSKJobRecord`, `DurableOperation`, `JobQueueState.Step` — the queue, transaction
  by transaction, for any kind of job.
* `JobQueueState.Consistent` — the records and the operations agree, and the
  operations are in the order of the records.
* `messageSender_durable_and_inOrder` — the queue of the message sender loses no
  record, works on none twice, and sends the messages of a thread in their order.

A transaction is one step, what an operation does between its transactions is one
step, and an app may be killed between any two.
-/

namespace ObjcSwiftLearning.SignalServiceKit

/-! ## Job records -/

inductive SSKJobRecordStatus where
  | unknown
  | ready
  | running
  | permanentlyFailed
  | obsolete
  deriving DecidableEq

/-- `SSKJobRecord`, with what a subclass adds to it. -/
@[ext] structure SSKJobRecord (Job : Type) where
  /-- Given with the first save, and never changed after. -/
  sortId : ℕ
  status : SSKJobRecordStatus
  failureCount : UInt64
  job : Job
  deriving DecidableEq

namespace SSKJobRecord

variable {Job : Type} (jobRecord : SSKJobRecord Job)

/-- What `saveAsStartedWithTransaction:error:` saves; nothing, if the state
transition is illegal. -/
def saveAsStarted : Option (SSKJobRecord Job) :=
  if jobRecord.status ≠ .ready then none else some { jobRecord with status := .running }

def saveAsPermanentlyFailed : SSKJobRecord Job := { jobRecord with status := .permanentlyFailed }

def saveAsObsolete : SSKJobRecord Job := { jobRecord with status := .obsolete }

/-- What `saveRunningAsReadyWithTransaction:error:` saves. -/
def saveRunningAsReady : Option (SSKJobRecord Job) :=
  match jobRecord.status with
  | .running => some { jobRecord with status := .ready }
  | .ready | .permanentlyFailed | .obsolete | .unknown => none

/-- What `addFailureWithWithTransaction:error:` saves. -/
def addFailure : Option (SSKJobRecord Job) :=
  match jobRecord.status with
  | .running => some { jobRecord with failureCount := jobRecord.failureCount + 1 }
  | .ready | .permanentlyFailed | .obsolete | .unknown => none

/-- The job is still to be done. -/
def IsPending : Prop := jobRecord.status = .ready ∨ jobRecord.status = .running

instance : Decidable jobRecord.IsPending := inferInstanceAs (Decidable (_ ∨ _))

end SSKJobRecord

/-! ## Operations -/

/-- What `OWSOperation` asks an error. -/
structure OperationError where
  isFatal : Bool
  isRetryable : Bool
  deriving DecidableEq

/-- How far an operation has come. -/
inductive OperationProgress where
  /-- It waits in its operation queue, `OWSOperationStateNew`. -/
  | queued
  /-- `run` has been called and has not reported yet. -/
  | running
  | didReportError (error : OperationError)
  /-- The `retryTimer` is set. -/
  | waitingForRetry
  /-- `didSucceed` or `didFailWithError:` has returned. -/
  | done
  /-- `OWSOperationStateFinished`. -/
  | finished
  deriving DecidableEq

/-- `isExecuting` of `OWSOperation`. -/
def OperationProgress.isExecuting : OperationProgress → Bool
  | .queued | .finished => false
  | .running | .didReportError _ | .waitingForRetry | .done => true

/-- The job has been neither done nor given up. -/
def OperationProgress.isActive : OperationProgress → Bool
  | .queued | .running | .didReportError _ | .waitingForRetry => true
  | .done | .finished => false

structure DurableOperation (Job : Type) where
  jobRecord : SSKJobRecord Job
  remainingRetries : UInt64
  progress : OperationProgress

/-- `reportError:` gives up, and does not wait for a retry. -/
def DurableOperation.givesUp {Job : Type} (operation : DurableOperation Job)
    (error : OperationError) : Bool :=
  error.isFatal || !error.isRetryable || operation.remainingRetries == 0

/-- An `NSOperationQueue`, told by its name. -/
structure OperationQueue where
  name : String
  /-- None where the system decides. -/
  maxConcurrentOperationCount : Option ℕ
  deriving DecidableEq

/-- What `buildOperation` may throw. -/
inductive JobError where
  | assertionFailure
  | obsolete
  deriving DecidableEq

/-- What a class that conforms to `JobQueue` provides. -/
structure JobQueue (Job : Type) where
  maxRetries : UInt64
  requiresInternet : Bool
  operationQueue : Job → OperationQueue

/-- `remainingRetries(durableOperation:)`. -/
def JobQueue.remainingRetries {Job : Type} (queue : JobQueue Job) (jobRecord : SSKJobRecord Job) :
    UInt64 :=
  if queue.maxRetries > jobRecord.failureCount then queue.maxRetries - jobRecord.failureCount
  else 0

/-! ## The queue at work -/

/-- How far `defaultSetup` has come in this session. -/
inductive SetupProgress where
  | launched
  | restartedOldJobs
  | isSetup
  deriving DecidableEq

/-- A queue: its part of the database, and what is in memory. -/
structure JobQueueState (Job : Type) where
  /-- The saved records, by their sort id. -/
  records : ℕ → Option (SSKJobRecord Job)
  /-- The last id taken from `SSKIncrementingIdFinder`, by this queue or another. -/
  previousId : ℕ
  setup : SetupProgress
  /-- The operations made in this session, in the order they were put on their
  operation queues; an operation is known by its place here. -/
  operations : List (DurableOperation Job)
  runningOperations : List ℕ

namespace JobQueueState

variable {Job : Type} (queue : JobQueue Job) (state : JobQueueState Job)

/-- `save(with:)` of a record that has its sort id. -/
def save (jobRecord : SSKJobRecord Job) : JobQueueState Job :=
  { state with records := Function.update state.records jobRecord.sortId (some jobRecord) }

def remove (jobRecord : SSKJobRecord Job) : JobQueueState Job :=
  { state with records := Function.update state.records jobRecord.sortId none }

/-- An operation object changes. -/
def setOperation (ref : ℕ) (operation : DurableOperation Job) : JobQueueState Job :=
  { state with operations := state.operations.set ref operation }

/-- `runningOperations` without one operation. -/
def stopRunning (ref : ℕ) : JobQueueState Job :=
  { state with runningOperations := state.runningOperations.filter (· ≠ ref) }

/-- `add(jobRecord:transaction:)`, with the first save of a new record. -/
def add (job : Job) : JobQueueState Job :=
  { state with previousId := state.previousId + 1 }.save
    { sortId := state.previousId + 1
      status := .ready
      failureCount := 0
      job }

/-- `getNextReady(label:transaction:)`. -/
def getNextReady : Option (SSKJobRecord Job) :=
  ((List.range (state.previousId + 1)).filterMap state.records).find? (·.status = .ready)

/-- The transaction of `workStep()`, by what `buildOperation` comes to. -/
def workStep (buildOperation : Except JobError Unit) : JobQueueState Job :=
  if state.setup ≠ .isSetup then state
  else
    match state.getNextReady with
    | none => state
    | some nextJob =>
        match nextJob.saveAsStarted with
        | none => state
        | some jobRecord =>
            -- The record is saved as started first, also where no operation can be built for it.
            match buildOperation with
            | .ok () =>
                { state.save jobRecord with
                  operations := state.operations ++
                    [{ jobRecord
                       remainingRetries := queue.remainingRetries jobRecord
                       progress := .queued }]
                  runningOperations := state.runningOperations ++ [state.operations.length] }
            | .error .assertionFailure =>
                (state.save jobRecord).save jobRecord.saveAsPermanentlyFailed
            | .error .obsolete => (state.save jobRecord).save jobRecord.saveAsObsolete

def restartOldJobs : JobQueueState Job :=
  { state with
    records := fun sortId =>
      (state.records sortId).map fun jobRecord =>
        if jobRecord.status = .running then
          jobRecord.saveRunningAsReady.getD jobRecord.saveAsPermanentlyFailed
        else jobRecord
    setup := .restartedOldJobs }

/-- The transaction of `didSucceed`. -/
def durableOperationDidSucceed (ref : ℕ) (operation : DurableOperation Job) : JobQueueState Job :=
  ((state.stopRunning ref).remove operation.jobRecord).setOperation ref
    { operation with progress := .done }

def durableOperationDidReportError (ref : ℕ) (operation : DurableOperation Job)
    (error : OperationError) : JobQueueState Job :=
  let jobRecord := operation.jobRecord.addFailure.getD operation.jobRecord.saveAsPermanentlyFailed
  (state.save jobRecord).setOperation ref
    { operation with
      jobRecord
      progress := .didReportError error }

def durableOperationDidFailWithError (ref : ℕ) (operation : DurableOperation Job) :
    JobQueueState Job :=
  let jobRecord := operation.jobRecord.saveAsPermanentlyFailed
  ((state.stopRunning ref).save jobRecord).setOperation ref
    { operation with
      jobRecord
      progress := .done }

/-- The rest of `reportError:`, where it waits for a retry. -/
def queueRetry (ref : ℕ) (operation : DurableOperation Job) : JobQueueState Job :=
  state.setOperation ref
    { operation with
      remainingRetries := operation.remainingRetries - 1
      progress := .waitingForRetry }

/-- The app is killed: the database is all that is left. -/
def kill : JobQueueState Job :=
  { state with
    setup := .launched
    operations := []
    runningOperations := [] }

/-- The operation queue may start the operation: those put on the queue before it
have been started, and there are not as many executing as may be. -/
def MayStart (ref : ℕ) (operation : DurableOperation Job) : Prop :=
  let operationQueue := queue.operationQueue operation.jobRecord.job
  (∀ earlier < ref, ∀ before, state.operations[earlier]? = some before →
    queue.operationQueue before.jobRecord.job = operationQueue → before.progress ≠ .queued) ∧
  ∀ count, operationQueue.maxConcurrentOperationCount = some count →
    (state.operations.filter fun other =>
      queue.operationQueue other.jobRecord.job = operationQueue ∧
        other.progress.isExecuting).length < count

/-- What happens. -/
inductive Event (Job : Type) where
  | added (job : Job)
  /-- Another queue takes an id for a record of its own. -/
  | idTaken
  | workStep (buildOperation : Except JobError Unit)
  /-- The operation of the record runs, for the first time or again. -/
  | attempted (sortId : ℕ)
  | succeeded (sortId : ℕ)
  | errorReported (sortId : ℕ) (error : OperationError)
  | failed (sortId : ℕ)
  | retryQueued (sortId : ℕ)
  | completed (sortId : ℕ)
  | killed
  | restartedOldJobs
  | isSetup

inductive Step : JobQueueState Job → Event Job → JobQueueState Job → Prop
  | added {state : JobQueueState Job} (job : Job) : Step state (.added job) (state.add job)
  | idTaken {state : JobQueueState Job} :
      Step state .idTaken { state with previousId := state.previousId + 1 }
  | workStep {state : JobQueueState Job} (buildOperation : Except JobError Unit) :
      Step state (.workStep buildOperation) (state.workStep queue buildOperation)
  | started {state : JobQueueState Job} {ref : ℕ} {operation : DurableOperation Job}
      (made : state.operations[ref]? = some operation) (isQueued : operation.progress = .queued)
      (mayStart : state.MayStart queue ref operation) :
      Step state (.attempted operation.jobRecord.sortId)
        (state.setOperation ref { operation with progress := .running })
  | retryTimerFired {state : JobQueueState Job} {ref : ℕ} {operation : DurableOperation Job}
      (made : state.operations[ref]? = some operation)
      (waiting : operation.progress = .waitingForRetry) :
      Step state (.attempted operation.jobRecord.sortId)
        (state.setOperation ref { operation with progress := .running })
  | becameReachable {state : JobQueueState Job} {ref : ℕ} {refs : List ℕ}
      {operation : DurableOperation Job} (requiresInternet : queue.requiresInternet = true)
      (first : state.runningOperations = ref :: refs)
      (made : state.operations[ref]? = some operation)
      (waiting : operation.progress = .waitingForRetry) :
      Step state (.attempted operation.jobRecord.sortId)
        (state.setOperation ref { operation with progress := .running })
  | succeeded {state : JobQueueState Job} {ref : ℕ} {operation : DurableOperation Job}
      (made : state.operations[ref]? = some operation) (ran : operation.progress = .running) :
      Step state (.succeeded operation.jobRecord.sortId)
        (state.durableOperationDidSucceed ref operation)
  | errorReported {state : JobQueueState Job} {ref : ℕ} {operation : DurableOperation Job}
      (error : OperationError) (made : state.operations[ref]? = some operation)
      (ran : operation.progress = .running) :
      Step state (.errorReported operation.jobRecord.sortId error)
        (state.durableOperationDidReportError ref operation error)
  | failed {state : JobQueueState Job} {ref : ℕ} {operation : DurableOperation Job}
      {error : OperationError} (made : state.operations[ref]? = some operation)
      (reported : operation.progress = .didReportError error)
      (givesUp : operation.givesUp error = true) :
      Step state (.failed operation.jobRecord.sortId)
        (state.durableOperationDidFailWithError ref operation)
  | retryQueued {state : JobQueueState Job} {ref : ℕ} {operation : DurableOperation Job}
      {error : OperationError} (made : state.operations[ref]? = some operation)
      (reported : operation.progress = .didReportError error)
      (goesOn : operation.givesUp error = false) :
      Step state (.retryQueued operation.jobRecord.sortId) (state.queueRetry ref operation)
  | completed {state : JobQueueState Job} {ref : ℕ} {operation : DurableOperation Job}
      (made : state.operations[ref]? = some operation) (isDone : operation.progress = .done) :
      Step state (.completed operation.jobRecord.sortId)
        (state.setOperation ref { operation with progress := .finished })
  | killed {state : JobQueueState Job} : Step state .killed state.kill
  | restartedOldJobs {state : JobQueueState Job} (launched : state.setup = .launched) :
      Step state .restartedOldJobs state.restartOldJobs
  | isSetup {state : JobQueueState Job} (restarted : state.setup = .restartedOldJobs) :
      Step state .isSetup { state with setup := .isSetup }

/-- The app has just been launched, on a database with records under their ids. -/
structure AtLaunch : Prop where
  launched : state.setup = .launched
  noOperations : state.operations = []
  noneRunning : state.runningOperations = []
  keyed : ∀ sortId jobRecord, state.records sortId = some jobRecord →
    jobRecord.sortId = sortId ∧ sortId ≤ state.previousId

/-- Consistency of the records and the operations. -/
structure Consistent : Prop where
  keyed : ∀ sortId jobRecord, state.records sortId = some jobRecord →
    jobRecord.sortId = sortId ∧ sortId ≤ state.previousId
  ordered : (state.operations.map fun operation => operation.jobRecord.sortId).Pairwise (· < ·)
  taken : ∀ (ref : ℕ) (operation : DurableOperation Job),
    state.operations[ref]? = some operation → operation.jobRecord.sortId ≤ state.previousId
  readyAfter : ∀ (ref : ℕ) (operation : DurableOperation Job),
    state.operations[ref]? = some operation → ∀ sortId jobRecord,
      state.records sortId = some jobRecord → jobRecord.status = .ready →
        operation.jobRecord.sortId < sortId
  saved : ∀ (ref : ℕ) (operation : DurableOperation Job),
    state.operations[ref]? = some operation → operation.progress.isActive = true →
      operation.jobRecord.status = .running ∧
        state.records operation.jobRecord.sortId = some operation.jobRecord
  settled : ∀ (ref : ℕ) (operation : DurableOperation Job),
    state.operations[ref]? = some operation → operation.progress.isActive = false →
      ∀ jobRecord, state.records operation.jobRecord.sortId = some jobRecord →
        ¬jobRecord.IsPending
  hasOperation : state.setup ≠ .launched → ∀ sortId jobRecord,
    state.records sortId = some jobRecord → jobRecord.status = .running →
      ∃ (ref : ℕ) (operation : DurableOperation Job), state.operations[ref]? = some operation ∧
        operation.progress.isActive = true ∧ operation.jobRecord.sortId = sortId
  mem_runningOperations : ∀ ref : ℕ, ref ∈ state.runningOperations ↔
    ∃ operation : DurableOperation Job, state.operations[ref]? = some operation ∧
      operation.progress.isActive = true
  nodup : state.runningOperations.Nodup
  /-- Nothing is begun before the queue is set up. -/
  notYet : state.setup ≠ .isSetup → state.operations = []

/-- The operations of a serial operation queue run one after the other. -/
def InTurn : Prop :=
  ∀ earlier later : ℕ, earlier < later → ∀ before after : DurableOperation Job,
    state.operations[earlier]? = some before → state.operations[later]? = some after →
      queue.operationQueue before.jobRecord.job = queue.operationQueue after.jobRecord.job →
        (queue.operationQueue after.jobRecord.job).maxConcurrentOperationCount = some 1 →
          after.progress ≠ .queued → before.progress = .finished

end JobQueueState

/-! ## What a step does to the operations -/

namespace JobQueueState

variable {Job : Type} {queue : JobQueue Job} {state state' : JobQueueState Job}
  {ref : ℕ} {operation changed : DurableOperation Job} {row : Option (SSKJobRecord Job)}
  {event : Event Job}

theorem records_save (jobRecord : SSKJobRecord Job) (sortId : ℕ) :
    (state.save jobRecord).records sortId =
      if sortId = jobRecord.sortId then some jobRecord else state.records sortId :=
  Function.update_apply _ _ _ _

/-- One operation is replaced, and no other. -/
theorem getElem?_set_operations (made : state.operations[ref]? = some operation) (i : ℕ) :
    (state.operations.set ref changed)[i]? =
      if i = ref then some changed else state.operations[i]? := by
  have hlt : ref < state.operations.length := (List.getElem?_eq_some_iff.mp made).1
  rw [List.getElem?_set]
  by_cases heq : i = ref
  · rw [if_pos heq.symm, if_pos hlt, if_pos heq]
  · rw [if_neg (Ne.symm heq), if_neg heq]

/-- The order is that of the records, which do not change places. -/
theorem map_set_operations (made : state.operations[ref]? = some operation)
    (hsame : changed.jobRecord.sortId = operation.jobRecord.sortId) :
    ((state.operations.set ref changed).map fun operation => operation.jobRecord.sortId) =
      state.operations.map fun operation => operation.jobRecord.sortId := by
  apply List.ext_getElem?
  intro i
  rw [List.getElem?_map, List.getElem?_map, getElem?_set_operations made]
  split
  · rename_i heq
    rw [heq, made, Option.map_some, Option.map_some, hsame]
  · rfl

/-- The step of one operation: it may save or remove its own record, which is left as
`row`, and leave the running ones, and all else is as before. -/
structure Replaced (state state' : JobQueueState Job) (ref : ℕ)
    (operation changed : DurableOperation Job) (row : Option (SSKJobRecord Job)) : Prop where
  made : state.operations[ref]? = some operation
  sortId_eq : changed.jobRecord.sortId = operation.jobRecord.sortId
  operations_eq : state'.operations = state.operations.set ref changed
  records_self : state'.records operation.jobRecord.sortId = row
  records_of_ne : ∀ sortId, sortId ≠ operation.jobRecord.sortId →
    state'.records sortId = state.records sortId
  previousId_eq : state'.previousId = state.previousId
  setup_eq : state'.setup = state.setup
  mem_runningOperations : ∀ i, i ∈ state'.runningOperations ↔
    i ∈ state.runningOperations ∧ (i = ref → changed.progress.isActive = true)
  nodup : state.runningOperations.Nodup → state'.runningOperations.Nodup
  active : changed.progress.isActive = true → operation.progress.isActive = true ∧
    changed.jobRecord.status = .running ∧ row = some changed.jobRecord
  settled : changed.progress.isActive = false → ∀ jobRecord, row = some jobRecord →
    jobRecord.sortId = operation.jobRecord.sortId ∧ ¬jobRecord.IsPending

theorem Replaced.getElem? (h : Replaced state state' ref operation changed row) (i : ℕ) :
    state'.operations[i]? = if i = ref then some changed else state.operations[i]? := by
  rw [h.operations_eq, getElem?_set_operations h.made]

namespace Consistent

variable (consistent : state.Consistent)

include consistent

theorem sortId_lt {i j : ℕ} {before after : DurableOperation Job} (hlt : i < j)
    (hbefore : state.operations[i]? = some before) (hafter : state.operations[j]? = some after) :
    before.jobRecord.sortId < after.jobRecord.sortId := by
  obtain ⟨hi, rfl⟩ := List.getElem?_eq_some_iff.mp hbefore
  obtain ⟨hj, rfl⟩ := List.getElem?_eq_some_iff.mp hafter
  have hpairs := List.pairwise_iff_getElem.mp consistent.ordered i j (by simpa using hi)
    (by simpa using hj) hlt
  simpa using hpairs

/-- No two operations have one record. -/
theorem ref_eq {i j : ℕ} {before after : DurableOperation Job}
    (hbefore : state.operations[i]? = some before) (hafter : state.operations[j]? = some after)
    (hsame : before.jobRecord.sortId = after.jobRecord.sortId) : i = j := by
  rcases Nat.lt_trichotomy i j with hlt | heq | hlt
  · exact absurd (consistent.sortId_lt hlt hbefore hafter) (by omega)
  · exact heq
  · exact absurd (consistent.sortId_lt hlt hafter hbefore) (by omega)

theorem replaced (h : Replaced state state' ref operation changed row) : state'.Consistent := by
  have hget := h.getElem?
  have hothers : ∀ i other, i ≠ ref → state.operations[i]? = some other →
      other.jobRecord.sortId ≠ operation.jobRecord.sortId :=
    fun i other hne hi heq => hne (consistent.ref_eq hi h.made heq)
  have hsortId := h.sortId_eq
  have htaken := consistent.taken ref operation h.made
  -- the row of the operation's own record
  have hown : ∀ jobRecord, state'.records operation.jobRecord.sortId = some jobRecord →
      jobRecord.sortId = operation.jobRecord.sortId ∧ jobRecord.status ≠ .ready ∧
        (jobRecord.status = .running → changed.progress.isActive = true) := by
    intro jobRecord hrow
    rw [h.records_self] at hrow
    by_cases hactive : changed.progress.isActive = true
    · obtain ⟨-, hstatus, hsaved⟩ := h.active hactive
      obtain rfl : changed.jobRecord = jobRecord := by simpa [hsaved] using hrow
      exact ⟨hsortId, by simp [hstatus], fun _ => hactive⟩
    · obtain ⟨hkey, hsettled⟩ := h.settled (by simpa using hactive) jobRecord hrow
      exact ⟨hkey, fun hready => hsettled (.inl hready), fun hrunning =>
        absurd (.inr hrunning) hsettled⟩
  constructor
  case keyed =>
    intro sortId jobRecord hrow
    rw [h.previousId_eq]
    by_cases heq : sortId = operation.jobRecord.sortId
    · subst heq
      exact ⟨(hown jobRecord hrow).1, htaken⟩
    · rw [h.records_of_ne sortId heq] at hrow
      exact consistent.keyed sortId jobRecord hrow
  case ordered =>
    rw [h.operations_eq, map_set_operations h.made hsortId]
    exact consistent.ordered
  case taken =>
    intro i other hi
    rw [h.previousId_eq]
    have := consistent.taken i
    grind
  case readyAfter =>
    intro i other hi sortId jobRecord hrow hready
    by_cases heq : sortId = operation.jobRecord.sortId
    · subst heq
      exact absurd hready (hown jobRecord hrow).2.1
    · rw [h.records_of_ne sortId heq] at hrow
      by_cases hi' : i = ref
      · obtain rfl : changed = other := by simpa [hget, hi'] using hi
        rw [hsortId]
        exact consistent.readyAfter ref operation h.made sortId jobRecord hrow hready
      · rw [hget, if_neg hi'] at hi
        exact consistent.readyAfter i other hi sortId jobRecord hrow hready
  case saved =>
    intro i other hi hactive
    by_cases hi' : i = ref
    · obtain rfl : changed = other := by simpa [hget, hi'] using hi
      rw [hsortId, h.records_self]
      exact (h.active hactive).2
    · rw [hget, if_neg hi'] at hi
      rw [h.records_of_ne _ (hothers i other hi' hi)]
      exact consistent.saved i other hi hactive
  case settled =>
    intro i other hi hdone
    by_cases hi' : i = ref
    · obtain rfl : changed = other := by simpa [hget, hi'] using hi
      rw [hsortId, h.records_self]
      exact fun jobRecord hrow => (h.settled hdone jobRecord hrow).2
    · rw [hget, if_neg hi'] at hi
      rw [h.records_of_ne _ (hothers i other hi' hi)]
      exact consistent.settled i other hi hdone
  case hasOperation =>
    intro hsetup sortId jobRecord hrow hrunning
    rw [h.setup_eq] at hsetup
    by_cases heq : sortId = operation.jobRecord.sortId
    · subst heq
      exact ⟨ref, changed, by rw [hget, if_pos rfl], (hown jobRecord hrow).2.2 hrunning, hsortId⟩
    · rw [h.records_of_ne sortId heq] at hrow
      obtain ⟨i, other, hi, hactive, hkey⟩ :=
        consistent.hasOperation hsetup sortId jobRecord hrow hrunning
      have hi' : i ≠ ref := by
        rintro rfl
        exact heq (by grind [h.made])
      exact ⟨i, other, by rw [hget, if_neg hi', hi], hactive, hkey⟩
  case mem_runningOperations =>
    intro i
    rw [h.mem_runningOperations, consistent.mem_runningOperations, hget]
    by_cases hi' : i = ref
    · subst hi'
      have hmade := h.made
      have := h.active
      grind
    · simp [hi']
  case nodup => exact h.nodup consistent.nodup
  case notYet =>
    intro hsetup
    rw [h.setup_eq] at hsetup
    rw [h.operations_eq, consistent.notYet hsetup, List.set_nil]

theorem getNextReady_eq_some {nextJob : SSKJobRecord Job} (h : state.getNextReady = some nextJob) :
    state.records nextJob.sortId = some nextJob ∧ nextJob.status = .ready ∧
      ∀ sortId jobRecord, state.records sortId = some jobRecord → jobRecord.status = .ready →
        nextJob.sortId ≤ sortId := by
  have hsorted : ((List.range (state.previousId + 1)).filterMap state.records).Pairwise
      fun jobRecord jobRecord' => jobRecord.sortId < jobRecord'.sortId := by
    refine List.Pairwise.filterMap _ ?_ List.pairwise_lt_range
    intro sortId sortId' hlt jobRecord hrow jobRecord' hrow'
    rw [(consistent.keyed _ _ hrow).1, (consistent.keyed _ _ hrow').1]
    exact hlt
  obtain ⟨hready, before, after, hsplit, hbefore⟩ := List.find?_eq_some_iff_append.mp h
  have hmem : ∀ sortId jobRecord, state.records sortId = some jobRecord →
      jobRecord ∈ before ++ nextJob :: after := by
    intro sortId jobRecord hrow
    rw [← hsplit]
    have hle := (consistent.keyed _ _ hrow).2
    exact List.mem_filterMap.mpr ⟨sortId, List.mem_range.mpr (by omega), hrow⟩
  have hnext : nextJob ∈ (List.range (state.previousId + 1)).filterMap state.records := by
    rw [hsplit]
    exact List.mem_append_right _ List.mem_cons_self
  obtain ⟨key, -, hrow⟩ := List.mem_filterMap.mp hnext
  refine ⟨(consistent.keyed _ _ hrow).1 ▸ hrow, of_decide_eq_true hready, ?_⟩
  intro sortId jobRecord hrow' hready'
  rw [← (consistent.keyed _ _ hrow').1]
  rw [hsplit] at hsorted
  rcases List.mem_append.mp (hmem _ _ hrow') with hbefore' | hafter
  · exact absurd (hbefore _ hbefore') (by simp [hready'])
  · rcases List.mem_cons.mp hafter with rfl | hafter'
    · exact Nat.le_refl _
    · exact Nat.le_of_lt
        (List.rel_of_pairwise_cons (List.pairwise_append.mp hsorted).2.1 hafter')

end Consistent

/-- What a `workStep` does, if anything: it takes the first ready record and starts an
operation for it, or settles it. -/
theorem workStep_cases (consistent : state.Consistent) (buildOperation : Except JobError Unit) :
    state.workStep queue buildOperation = state ∨
      ∃ nextJob, state.setup = .isSetup ∧ state.getNextReady = some nextJob ∧
        (buildOperation = .ok () ∧
            state.workStep queue buildOperation =
              { state.save { nextJob with status := .running } with
                operations := state.operations ++
                  [{ jobRecord := { nextJob with status := .running }
                     remainingRetries :=
                       queue.remainingRetries { nextJob with status := .running }
                     progress := .queued }]
                runningOperations := state.runningOperations ++ [state.operations.length] } ∨
          ∃ error status, buildOperation = .error error ∧
            (error = .assertionFailure ∧ status = .permanentlyFailed ∨
              error = .obsolete ∧ status = .obsolete) ∧
            state.workStep queue buildOperation = state.save { nextJob with status }) := by
  unfold workStep
  by_cases hsetup : state.setup = .isSetup
  · rw [if_neg (not_not_intro hsetup)]
    cases hnext : state.getNextReady with
    | none => exact .inl rfl
    | some nextJob =>
        have hready := (consistent.getNextReady_eq_some hnext).2.1
        have hstarted : nextJob.saveAsStarted = some { nextJob with status := .running } := by
          rw [SSKJobRecord.saveAsStarted, if_neg (not_not_intro hready)]
        refine .inr ⟨nextJob, hsetup, rfl, ?_⟩
        simp only [hstarted]
        rcases buildOperation with (_ | _) | _
        · refine .inr ⟨.assertionFailure, .permanentlyFailed, rfl, .inl ⟨rfl, rfl⟩, ?_⟩
          simp [save, SSKJobRecord.saveAsPermanentlyFailed]
        · refine .inr ⟨.obsolete, .obsolete, rfl, .inr ⟨rfl, rfl⟩, ?_⟩
          simp [save, SSKJobRecord.saveAsObsolete]
        · exact .inl ⟨rfl, rfl⟩
  · rw [if_pos hsetup]
    exact .inl rfl

/-! ## Consistency, step by step -/

section

variable (made : state.operations[ref]? = some operation)
include made

theorem replaced_done (hsortId : changed.jobRecord.sortId = operation.jobRecord.sortId)
    (hdone : changed.progress.isActive = false) (hrow : ∀ jobRecord, row = some jobRecord →
      jobRecord.sortId = operation.jobRecord.sortId ∧ ¬jobRecord.IsPending) :
    Replaced state
      ({ state.stopRunning ref with
          records := Function.update state.records operation.jobRecord.sortId row }.setOperation
        ref changed) ref operation changed row where
  made
  sortId_eq := hsortId
  operations_eq := rfl
  records_self := Function.update_self _ _ _
  records_of_ne sortId hne := Function.update_of_ne hne _ _
  previousId_eq := rfl
  setup_eq := rfl
  mem_runningOperations i := by
    show i ∈ state.runningOperations.filter _ ↔ _
    simp [hdone]
  nodup h := h.filter _
  active h := absurd h (by simp [hdone])
  settled _ := hrow

theorem replaced_didSucceed :
    Replaced state (state.durableOperationDidSucceed ref operation) ref operation
      { operation with progress := .done } none :=
  replaced_done made rfl rfl (by simp)

theorem replaced_didFail :
    Replaced state (state.durableOperationDidFailWithError ref operation) ref operation
      { operation with
        jobRecord := operation.jobRecord.saveAsPermanentlyFailed
        progress := .done } (some operation.jobRecord.saveAsPermanentlyFailed) := by
  refine replaced_done made rfl rfl ?_
  rintro jobRecord ⟨⟩
  exact ⟨rfl, by simp [SSKJobRecord.IsPending, SSKJobRecord.saveAsPermanentlyFailed]⟩

end

namespace Consistent

variable (consistent : state.Consistent)

include consistent

theorem replaced_setOperation (made : state.operations[ref]? = some operation)
    (hrecord : changed.jobRecord = operation.jobRecord)
    (hactive : changed.progress.isActive = operation.progress.isActive) :
    Replaced state (state.setOperation ref changed) ref operation changed
      (state.records operation.jobRecord.sortId) where
  made
  sortId_eq := by rw [hrecord]
  operations_eq := rfl
  records_self := rfl
  records_of_ne _ _ := rfl
  previousId_eq := rfl
  setup_eq := rfl
  mem_runningOperations i := by
    show i ∈ state.runningOperations ↔ _
    rw [hactive]
    refine (and_iff_left_of_imp ?_).symm
    rintro hmem rfl
    obtain ⟨other, hother, hotherActive⟩ := (consistent.mem_runningOperations i).mp hmem
    obtain rfl : operation = other := by simpa [made] using hother
    exact hotherActive
  nodup := id
  active h := by
    rw [hrecord]
    rw [hactive] at h
    exact ⟨h, consistent.saved ref operation made h⟩
  settled h jobRecord hrow := by
    rw [hactive] at h
    exact ⟨(consistent.keyed _ _ hrow).1, consistent.settled ref operation made h jobRecord hrow⟩

theorem replaced_didReportError (made : state.operations[ref]? = some operation)
    (hactive : operation.progress.isActive = true) (error : OperationError) :
    Replaced state (state.durableOperationDidReportError ref operation error) ref operation
      { operation with
        jobRecord :=
          { operation.jobRecord with failureCount := operation.jobRecord.failureCount + 1 }
        progress := .didReportError error }
      (some
        { operation.jobRecord with failureCount := operation.jobRecord.failureCount + 1 }) := by
  obtain ⟨hrunning, -⟩ := consistent.saved ref operation made hactive
  have hfailure : operation.jobRecord.addFailure =
      some { operation.jobRecord with failureCount := operation.jobRecord.failureCount + 1 } := by
    simp [SSKJobRecord.addFailure, hrunning]
  simp only [durableOperationDidReportError, hfailure, Option.getD_some]
  constructor
  · exact made
  · rfl
  · rfl
  · exact Function.update_self _ _ _
  · exact fun sortId hne => Function.update_of_ne hne _ _
  · rfl
  · rfl
  · exact fun i => (and_iff_left fun _ => rfl).symm
  · exact id
  · exact fun _ => ⟨hactive, hrunning, rfl⟩
  · exact fun hdone => absurd hdone (by simp [OperationProgress.isActive])

/-- A new record is after all others. -/
theorem add (job : Job) : (state.add job).Consistent := by
  -- The rows are the new one and those there were.
  have hrow : ∀ sortId jobRecord, (state.add job).records sortId = some jobRecord →
      (sortId = state.previousId + 1 ∧ jobRecord.sortId = sortId ∧ jobRecord.status = .ready) ∨
        state.records sortId = some jobRecord := by
    intro sortId jobRecord h
    rw [JobQueueState.add, records_save] at h
    split at h
    · rename_i heq
      obtain rfl := Option.some.inj h
      exact .inl ⟨heq, heq.symm, rfl⟩
    · exact .inr h
  have hold : ∀ sortId ≤ state.previousId,
      (state.add job).records sortId = state.records sortId := by
    intro sortId hle
    have hne : ¬sortId = state.previousId + 1 := by omega
    rw [JobQueueState.add, records_save, if_neg hne]
  constructor
  case keyed =>
    intro sortId jobRecord h
    show _ ∧ sortId ≤ state.previousId + 1
    rcases hrow sortId jobRecord h with ⟨heq, hkey, -⟩ | hsaved
    · exact ⟨hkey, by omega⟩
    · obtain ⟨hkey, hle⟩ := consistent.keyed sortId jobRecord hsaved
      exact ⟨hkey, by omega⟩
  case ordered => exact consistent.ordered
  case taken =>
    intro i other hi
    exact Nat.le_succ_of_le (consistent.taken i other hi)
  case readyAfter =>
    intro i other hi sortId jobRecord h hready
    rcases hrow sortId jobRecord h with ⟨heq, -, -⟩ | hsaved
    · have := consistent.taken i other hi
      omega
    · exact consistent.readyAfter i other hi sortId jobRecord hsaved hready
  case saved =>
    intro i other hi hactive
    rw [hold _ (consistent.taken i other hi)]
    exact consistent.saved i other hi hactive
  case settled =>
    intro i other hi hdone
    rw [hold _ (consistent.taken i other hi)]
    exact consistent.settled i other hi hdone
  case hasOperation =>
    intro hsetup sortId jobRecord h hrunning
    rcases hrow sortId jobRecord h with ⟨-, -, hready⟩ | hsaved
    · exact absurd (hready.symm.trans hrunning) (by decide)
    · exact consistent.hasOperation hsetup sortId jobRecord hsaved hrunning
  case mem_runningOperations => exact consistent.mem_runningOperations
  case nodup => exact consistent.nodup
  case notYet => exact consistent.notYet

theorem idTaken : { state with previousId := state.previousId + 1 : JobQueueState Job }.Consistent :=
  { consistent with
    keyed := fun sortId jobRecord h =>
      ⟨(consistent.keyed sortId jobRecord h).1,
        Nat.le_succ_of_le (consistent.keyed sortId jobRecord h).2⟩
    taken := fun i other hi => Nat.le_succ_of_le (consistent.taken i other hi) }

theorem kill : state.kill.Consistent where
  keyed := consistent.keyed
  ordered := .nil
  taken := by simp [JobQueueState.kill]
  readyAfter := by simp [JobQueueState.kill]
  saved := by simp [JobQueueState.kill]
  settled := by simp [JobQueueState.kill]
  hasOperation h := absurd rfl h
  mem_runningOperations := by simp [JobQueueState.kill]
  nodup := .nil
  notYet _ := rfl

theorem restartOldJobs (launched : state.setup = .launched) :
    state.restartOldJobs.Consistent := by
  have hnone : state.operations = [] := consistent.notYet (by simp [launched])
  have hrow : ∀ sortId jobRecord, state.restartOldJobs.records sortId = some jobRecord →
      ∃ before, state.records sortId = some before ∧ jobRecord.sortId = before.sortId ∧
        jobRecord.status ≠ .running := by
    intro sortId jobRecord h
    obtain ⟨before, hbefore, rfl⟩ := Option.map_eq_some_iff.mp h
    refine ⟨before, hbefore, ?_⟩
    split
    · rename_i hrunning
      simp [SSKJobRecord.saveRunningAsReady, hrunning]
    · rename_i hnot
      exact ⟨rfl, hnot⟩
  constructor
  case keyed =>
    intro sortId jobRecord h
    obtain ⟨before, hbefore, hkey, -⟩ := hrow sortId jobRecord h
    rw [hkey]
    exact consistent.keyed sortId before hbefore
  case ordered => exact consistent.ordered
  case taken => exact consistent.taken
  case readyAfter =>
    intro i other hi
    exact absurd hi (by simp [JobQueueState.restartOldJobs, hnone])
  case saved =>
    intro i other hi
    exact absurd hi (by simp [JobQueueState.restartOldJobs, hnone])
  case settled =>
    intro i other hi
    exact absurd hi (by simp [JobQueueState.restartOldJobs, hnone])
  case hasOperation =>
    intro _ sortId jobRecord h hrunning
    obtain ⟨-, -, -, hnot⟩ := hrow sortId jobRecord h
    exact absurd hrunning hnot
  case mem_runningOperations => exact consistent.mem_runningOperations
  case nodup => exact consistent.nodup
  case notYet => exact fun _ => hnone

theorem append {nextJob : SSKJobRecord Job} (remainingRetries : UInt64)
    (hsetup : state.setup = .isSetup) (hsaved : state.records nextJob.sortId = some nextJob)
    (hleast : ∀ sortId jobRecord, state.records sortId = some jobRecord →
      jobRecord.status = .ready → nextJob.sortId ≤ sortId)
    (hlast : ∀ (i : ℕ) (other : DurableOperation Job), state.operations[i]? = some other →
      other.jobRecord.sortId < nextJob.sortId) :
    { state.save { nextJob with status := .running } with
      operations := state.operations ++
        [{ jobRecord := { nextJob with status := .running }
           remainingRetries
           progress := .queued }]
      runningOperations := state.runningOperations ++ [state.operations.length] :
        JobQueueState Job }.Consistent := by
  -- The operations are the ones there were and the new one, and only its row has changed.
  have hget : ∀ i other, (state.operations ++
      [{ jobRecord := { nextJob with status := .running }
         remainingRetries
         progress := .queued }])[i]? = some other →
      state.operations[i]? = some other ∨ i = state.operations.length ∧
        other = ⟨{ nextJob with status := .running }, remainingRetries, .queued⟩ := by
    intro i other hi
    grind
  have hrow : ∀ sortId jobRecord, sortId ≠ nextJob.sortId →
      ((state.save { nextJob with status := .running }).records sortId = some jobRecord ↔
        state.records sortId = some jobRecord) := by
    intro sortId jobRecord hne
    rw [records_save, if_neg hne]
  have hown : (state.save { nextJob with status := .running }).records nextJob.sortId =
      some { nextJob with status := .running } := by
    rw [records_save, if_pos rfl]
  have hle := (consistent.keyed _ _ hsaved).2
  constructor
  case keyed =>
    intro sortId jobRecord h
    by_cases heq : sortId = nextJob.sortId
    · subst heq
      obtain rfl := Option.some.inj (hown.symm.trans h)
      exact ⟨rfl, hle⟩
    · exact consistent.keyed sortId jobRecord ((hrow sortId jobRecord heq).mp h)
  case ordered =>
    rw [List.map_append, List.pairwise_append]
    refine ⟨consistent.ordered, List.pairwise_singleton _ _, ?_⟩
    intro sortId hmem sortId' hmem'
    obtain ⟨other, hother, rfl⟩ := List.mem_map.mp hmem
    obtain rfl : sortId' = nextJob.sortId := by simpa using hmem'
    obtain ⟨i, hi⟩ := List.getElem?_of_mem hother
    exact hlast i other hi
  case taken =>
    intro i other hi
    rcases hget i other hi with hold | ⟨-, rfl⟩
    · exact consistent.taken i other hold
    · exact hle
  case readyAfter =>
    intro i other hi sortId jobRecord h hready'
    have hne : sortId ≠ nextJob.sortId := by
      rintro rfl
      obtain rfl := Option.some.inj (hown.symm.trans h)
      exact absurd hready' (by simp)
    have hsaved' := (hrow sortId jobRecord hne).mp h
    rcases hget i other hi with hold | ⟨-, rfl⟩
    · exact consistent.readyAfter i other hold sortId jobRecord hsaved' hready'
    · exact Nat.lt_of_le_of_ne (hleast sortId jobRecord hsaved' hready') (Ne.symm hne)
  case saved =>
    intro i other hi hactive
    rcases hget i other hi with hold | ⟨-, rfl⟩
    · obtain ⟨hrunning, hold'⟩ := consistent.saved i other hold hactive
      exact ⟨hrunning, (hrow _ _ (Nat.ne_of_lt (hlast i other hold))).mpr hold'⟩
    · exact ⟨rfl, hown⟩
  case settled =>
    intro i other hi hdone jobRecord h
    rcases hget i other hi with hold | ⟨-, rfl⟩
    · exact consistent.settled i other hold hdone jobRecord
        ((hrow _ _ (Nat.ne_of_lt (hlast i other hold))).mp h)
    · exact absurd hdone (by simp [OperationProgress.isActive])
  case hasOperation =>
    intro _ sortId jobRecord h hrunning
    by_cases heq : sortId = nextJob.sortId
    · exact ⟨state.operations.length, _, List.getElem?_concat_length, rfl, heq.symm⟩
    · obtain ⟨i, other, hi, hactive, hkey⟩ := consistent.hasOperation (by simp [hsetup]) sortId
        jobRecord ((hrow sortId jobRecord heq).mp h) hrunning
      have hlt : i < state.operations.length := (List.getElem?_eq_some_iff.mp hi).1
      exact ⟨i, other, by rw [List.getElem?_append_left hlt, hi], hactive, hkey⟩
  case mem_runningOperations =>
    intro i
    rw [List.mem_append, List.mem_singleton, consistent.mem_runningOperations]
    constructor
    · rintro (⟨other, hi, hactive⟩ | rfl)
      · have hlt : i < state.operations.length := (List.getElem?_eq_some_iff.mp hi).1
        exact ⟨other, by rw [List.getElem?_append_left hlt, hi], hactive⟩
      · exact ⟨_, List.getElem?_concat_length, rfl⟩
    · rintro ⟨other, hi, hactive⟩
      rcases hget i other hi with hold | ⟨heq, -⟩
      · exact .inl ⟨other, hold, hactive⟩
      · exact .inr heq
  case nodup =>
    refine List.nodup_append.mpr ⟨consistent.nodup, List.pairwise_singleton _ _, ?_⟩
    intro i hi j hj
    obtain ⟨other, hother, -⟩ := (consistent.mem_runningOperations i).mp hi
    obtain rfl : j = state.operations.length := List.mem_singleton.mp hj
    exact Nat.ne_of_lt (List.getElem?_eq_some_iff.mp hother).1
  case notYet => exact fun h => absurd hsetup h

theorem saveSettled {nextJob jobRecord : SSKJobRecord Job}
    (hsaved : state.records nextJob.sortId = some nextJob) (hready : nextJob.status = .ready)
    (hsortId : jobRecord.sortId = nextJob.sortId) (hsettled : ¬jobRecord.IsPending) :
    (state.save jobRecord).Consistent := by
  have hlast : ∀ (i : ℕ) (other : DurableOperation Job), state.operations[i]? = some other →
      other.jobRecord.sortId ≠ jobRecord.sortId := fun i other hi =>
    Nat.ne_of_lt (hsortId ▸ consistent.readyAfter i other hi _ _ hsaved hready)
  have hrow : ∀ sortId jobRecord', (state.save jobRecord).records sortId = some jobRecord' →
      sortId = jobRecord.sortId ∧ jobRecord' = jobRecord ∨
        state.records sortId = some jobRecord' := by
    intro sortId jobRecord' h
    rw [records_save] at h
    grind
  constructor
  case keyed =>
    intro sortId jobRecord' h
    rcases hrow sortId jobRecord' h with ⟨heq, rfl⟩ | hold
    · rw [heq, hsortId]
      exact ⟨rfl, (consistent.keyed _ _ hsaved).2⟩
    · exact consistent.keyed sortId jobRecord' hold
  case ordered => exact consistent.ordered
  case taken => exact consistent.taken
  case readyAfter =>
    intro i other hi sortId jobRecord' h hready'
    rcases hrow sortId jobRecord' h with ⟨-, rfl⟩ | hold
    · exact absurd (.inl hready') hsettled
    · exact consistent.readyAfter i other hi sortId jobRecord' hold hready'
  case saved =>
    intro i other hi hactive
    rw [records_save, if_neg (hlast i other hi)]
    exact consistent.saved i other hi hactive
  case settled =>
    intro i other hi hdone
    rw [records_save, if_neg (hlast i other hi)]
    exact consistent.settled i other hi hdone
  case hasOperation =>
    intro hsetup sortId jobRecord' h hrunning
    rcases hrow sortId jobRecord' h with ⟨-, rfl⟩ | hold
    · exact absurd (.inr hrunning) hsettled
    · exact consistent.hasOperation hsetup sortId jobRecord' hold hrunning
  case mem_runningOperations => exact consistent.mem_runningOperations
  case nodup => exact consistent.nodup
  case notYet => exact consistent.notYet

/-- Its operation, if it gets one, is the last, since the record was the first of the
ready ones. -/
theorem workStep (buildOperation : Except JobError Unit) :
    (state.workStep queue buildOperation).Consistent := by
  rcases @workStep_cases _ queue _ consistent buildOperation with
    hnothing | ⟨nextJob, hsetup, hnext, ⟨-, hstate⟩ | ⟨error, status, -, hstatus, hstate⟩⟩
  · rw [hnothing]
    exact consistent
  · obtain ⟨hsaved, hready, hleast⟩ := consistent.getNextReady_eq_some hnext
    have hlast : ∀ (i : ℕ) (other : DurableOperation Job), state.operations[i]? = some other →
        other.jobRecord.sortId < nextJob.sortId :=
      fun i other hi => consistent.readyAfter i other hi _ _ hsaved hready
    rw [hstate]
    exact consistent.append _ hsetup hsaved hleast hlast
  · obtain ⟨hsaved, hready, -⟩ := consistent.getNextReady_eq_some hnext
    have hsettled : ¬({ nextJob with status } : SSKJobRecord Job).IsPending := by
      rcases hstatus with ⟨-, rfl⟩ | ⟨-, rfl⟩ <;> simp [SSKJobRecord.IsPending]
    rw [hstate]
    exact consistent.saveSettled hsaved hready rfl hsettled

end Consistent

/-! ## What a step may be -/

/-- What an operation does next, with the event that tells, and how it leaves the row
of its record. -/
inductive Advances : DurableOperation Job → Event Job → DurableOperation Job →
    Option (SSKJobRecord Job) → Prop
  | runs {operation : DurableOperation Job} {row : Option (SSKJobRecord Job)}
      (idle : operation.progress = .queued ∨ operation.progress = .waitingForRetry) :
      Advances operation (.attempted operation.jobRecord.sortId)
        { operation with progress := .running } row
  | succeeds {operation : DurableOperation Job} (ran : operation.progress = .running) :
      Advances operation (.succeeded operation.jobRecord.sortId)
        { operation with progress := .done } none
  | reportsError {operation : DurableOperation Job} {row : Option (SSKJobRecord Job)}
      (error : OperationError) (ran : operation.progress = .running) :
      Advances operation (.errorReported operation.jobRecord.sortId error)
        { operation with
          jobRecord :=
            { operation.jobRecord with failureCount := operation.jobRecord.failureCount + 1 }
          progress := .didReportError error } row
  | fails {operation : DurableOperation Job} {error : OperationError}
      (reported : operation.progress = .didReportError error)
      (givesUp : operation.givesUp error = true) :
      Advances operation (.failed operation.jobRecord.sortId)
        { operation with
          jobRecord := operation.jobRecord.saveAsPermanentlyFailed
          progress := .done } (some operation.jobRecord.saveAsPermanentlyFailed)
  | queuesRetry {operation : DurableOperation Job} {row : Option (SSKJobRecord Job)}
      {error : OperationError} (reported : operation.progress = .didReportError error)
      (goesOn : operation.givesUp error = false) :
      Advances operation (.retryQueued operation.jobRecord.sortId)
        { operation with
          remainingRetries := operation.remainingRetries - 1
          progress := .waitingForRetry } row
  | completes {operation : DurableOperation Job} {row : Option (SSKJobRecord Job)}
      (isDone : operation.progress = .done) :
      Advances operation (.completed operation.jobRecord.sortId)
        { operation with progress := .finished } row

theorem Advances.job_eq (h : Advances operation event changed row) :
    changed.jobRecord.job = operation.jobRecord.job := by
  cases h <;> rfl

theorem Advances.not_finished (h : Advances operation event changed row) :
    operation.progress ≠ .finished := by
  cases h with
  | runs idle => rcases idle with idle | idle <;> simp [idle]
  | succeeds ran => simp [ran]
  | reportsError error ran => simp [ran]
  | fails reported => simp [reported]
  | queuesRetry reported => simp [reported]
  | completes isDone => simp [isDone]

inductive StepCase (queue : JobQueue Job) (state : JobQueueState Job) :
    Event Job → JobQueueState Job → Prop
  | operation {event : Event Job} {state' : JobQueueState Job} {ref : ℕ}
      {operation changed : DurableOperation Job} {row : Option (SSKJobRecord Job)}
      (advances : Advances operation event changed row)
      (replaced : Replaced state state' ref operation changed row)
      (mayStart : operation.progress = .queued → state.MayStart queue ref operation) :
      StepCase queue state event state'
  | added (job : Job) : StepCase queue state (.added job) (state.add job)
  | idTaken : StepCase queue state .idTaken { state with previousId := state.previousId + 1 }
  | workStep (buildOperation : Except JobError Unit) :
      StepCase queue state (.workStep buildOperation) (state.workStep queue buildOperation)
  | killed : StepCase queue state .killed state.kill
  | restartedOldJobs (launched : state.setup = .launched) :
      StepCase queue state .restartedOldJobs state.restartOldJobs
  | isSetup (restarted : state.setup = .restartedOldJobs) :
      StepCase queue state .isSetup { state with setup := .isSetup }

theorem Step.stepCase (step : Step queue state event state') (consistent : state.Consistent) :
    StepCase queue state event state' := by
  cases step with
  | added job => exact .added job
  | idTaken => exact .idTaken
  | workStep buildOperation => exact .workStep buildOperation
  | started made isQueued mayStart =>
      refine .operation (.runs (.inl isQueued)) (consistent.replaced_setOperation made rfl ?_)
        fun _ => mayStart
      rw [isQueued]
      rfl
  | retryTimerFired made waiting | becameReachable requiresInternet first made waiting =>
      refine .operation (.runs (.inr waiting)) (consistent.replaced_setOperation made rfl ?_) ?_
      · rw [waiting]
        rfl
      · exact fun isQueued => absurd (waiting.symm.trans isQueued) (by simp)
  | succeeded made ran =>
      refine .operation (.succeeds ran) (replaced_didSucceed made) ?_
      exact fun isQueued => absurd (ran.symm.trans isQueued) (by simp)
  | errorReported error made ran =>
      refine .operation (.reportsError error ran)
        (consistent.replaced_didReportError made (by rw [ran]; rfl) error) ?_
      exact fun isQueued => absurd (ran.symm.trans isQueued) (by simp)
  | failed made reported givesUp =>
      refine .operation (.fails reported givesUp) (replaced_didFail made) ?_
      exact fun isQueued => absurd (reported.symm.trans isQueued) (by simp)
  | retryQueued made reported goesOn =>
      refine .operation (.queuesRetry reported goesOn)
        (consistent.replaced_setOperation made rfl ?_) ?_
      · rw [reported]
        rfl
      · exact fun isQueued => absurd (reported.symm.trans isQueued) (by simp)
  | completed made isDone =>
      refine .operation (.completes isDone) (consistent.replaced_setOperation made rfl ?_) ?_
      · rw [isDone]
        rfl
      · exact fun isQueued => absurd (isDone.symm.trans isQueued) (by simp)
  | killed => exact .killed
  | restartedOldJobs launched => exact .restartedOldJobs launched
  | isSetup restarted => exact .isSetup restarted

/-- **A step keeps the records and the operations consistent.** -/
theorem Step.consistent (step : Step queue state event state') (consistent : state.Consistent) :
    state'.Consistent := by
  cases step.stepCase consistent with
  | operation _ replaced _ => exact consistent.replaced replaced
  | added job => exact consistent.add job
  | idTaken => exact consistent.idTaken
  | workStep buildOperation => exact consistent.workStep buildOperation
  | killed => exact consistent.kill
  | restartedOldJobs launched => exact consistent.restartOldJobs launched
  | isSetup restarted =>
      exact
        { consistent with
          hasOperation := fun _ => consistent.hasOperation (by simp [restarted])
          notYet := fun h => absurd rfl h }

theorem AtLaunch.consistent (launched : state.AtLaunch) : state.Consistent where
  keyed := launched.keyed
  ordered := by simp [launched.noOperations]
  taken := by simp [launched.noOperations]
  readyAfter := by simp [launched.noOperations]
  saved := by simp [launched.noOperations]
  settled := by simp [launched.noOperations]
  hasOperation h := absurd launched.launched h
  mem_runningOperations := by simp [launched.noOperations, launched.noneRunning]
  nodup := by simp [launched.noneRunning]
  notYet _ := launched.noOperations

/-! ## Nothing is lost, and nothing overtakes -/

theorem MayStart.finished {i : ℕ} {before : DurableOperation Job}
    (mayStart : state.MayStart queue ref operation) (hlt : i < ref)
    (hbefore : state.operations[i]? = some before)
    (hsame : queue.operationQueue before.jobRecord.job =
      queue.operationQueue operation.jobRecord.job)
    (serial : (queue.operationQueue operation.jobRecord.job).maxConcurrentOperationCount =
      some 1) : before.progress = .finished := by
  have hstarted := mayStart.1 i hlt before hbefore hsame
  have hnone := List.length_eq_zero_iff.mp (Nat.lt_one_iff.mp (mayStart.2 1 serial))
  have hidle := List.filter_eq_nil_iff.mp hnone before (List.mem_of_getElem? hbefore)
  cases hprogress : before.progress <;>
    simp_all [OperationProgress.isExecuting]

theorem Step.inTurn (step : Step queue state event state') (consistent : state.Consistent)
    (inTurn : state.InTurn queue) : state'.InTurn queue := by
  cases step.stepCase consistent with
  | @operation _ _ ref operation changed row advances replaced mayStart =>
      intro i j hlt before after hbefore hafter hsame serial hstarted
      rw [replaced.getElem?] at hbefore hafter
      have hmade := replaced.made
      have hjob := advances.job_eq
      by_cases hj : j = ref
      · -- the operation that moves is the later one
        obtain rfl : changed = after := by simpa [hj] using hafter
        have hi : i ≠ ref := by omega
        rw [if_neg hi] at hbefore
        rw [hjob] at hsame serial
        by_cases hqueued : operation.progress = .queued
        · exact (mayStart hqueued).finished (by omega) hbefore hsame serial
        · exact inTurn i ref (by omega) before operation hbefore hmade hsame serial hqueued
      · rw [if_neg hj] at hafter
        by_cases hi : i = ref
        · obtain rfl : changed = before := by simpa [hi] using hbefore
          rw [hjob] at hsame
          exact absurd (inTurn ref j (by omega) operation after hmade hafter hsame serial hstarted)
            advances.not_finished
        · rw [if_neg hi] at hbefore
          exact inTurn i j hlt before after hbefore hafter hsame serial hstarted
  | added job => exact inTurn
  | idTaken => exact inTurn
  | workStep buildOperation =>
      rcases @workStep_cases _ queue _ consistent buildOperation with
        hnothing | ⟨nextJob, -, -, ⟨-, hstate⟩ | ⟨_, _, -, -, hstate⟩⟩
      · rw [hnothing]
        exact inTurn
      · rw [hstate]
        intro i j hlt before after hbefore hafter hsame serial hstarted
        have hj : j < state.operations.length := by
          by_contra hge
          obtain ⟨hj, rfl⟩ := List.getElem?_eq_some_iff.mp hafter
          rw [List.getElem_append_right (by omega)] at hstarted
          simp at hstarted
        refine inTurn i j hlt before after ?_ ?_ hsame serial hstarted
        · rwa [List.getElem?_append_left (by omega)] at hbefore
        · rwa [List.getElem?_append_left hj] at hafter
      · rw [hstate]
        exact inTurn
  | killed =>
      intro i j _ before after hbefore
      simp [JobQueueState.kill] at hbefore
  | restartedOldJobs launched => exact inTurn
  | isSetup restarted => exact inTurn

/-- What becomes of a pending record in a step. -/
inductive Fate (state' : JobQueueState Job) (sortId : ℕ) : Event Job → Prop
  | pending {event : Event Job} {jobRecord : SSKJobRecord Job}
      (saved : state'.records sortId = some jobRecord) (pending : jobRecord.IsPending) :
      Fate state' sortId event
  | succeeded (removed : state'.records sortId = none) : Fate state' sortId (.succeeded sortId)
  | failed {jobRecord : SSKJobRecord Job} (saved : state'.records sortId = some jobRecord)
      (status : jobRecord.status = .permanentlyFailed) : Fate state' sortId (.failed sortId)
  | assertionFailure {jobRecord : SSKJobRecord Job}
      (saved : state'.records sortId = some jobRecord)
      (status : jobRecord.status = .permanentlyFailed) :
      Fate state' sortId (.workStep (.error .assertionFailure))
  | obsolete {jobRecord : SSKJobRecord Job} (saved : state'.records sortId = some jobRecord)
      (status : jobRecord.status = .obsolete) : Fate state' sortId (.workStep (.error .obsolete))

/-- **No pending record disappears** other than by success, obsolescence or permanent
failure. -/
theorem Step.fate {sortId : ℕ} {jobRecord : SSKJobRecord Job}
    (step : Step queue state event state') (consistent : state.Consistent)
    (hrow : state.records sortId = some jobRecord) (pending : jobRecord.IsPending) :
    Fate state' sortId event := by
  cases step.stepCase consistent with
  | @operation _ _ ref operation changed row advances replaced mayStart =>
      by_cases hown : sortId = operation.jobRecord.sortId
      · subst hown
        have hself := replaced.records_self
        have hsaved := fun hactive => replaced.active hactive
        cases advances with
        | runs | reportsError | queuesRetry =>
            exact .pending (hself.trans (hsaved rfl).2.2) (.inr (hsaved rfl).2.1)
        | succeeds => exact .succeeded hself
        | fails => exact .failed hself rfl
        | completes isDone =>
            refine absurd pending (consistent.settled ref operation replaced.made ?_ _ hrow)
            rw [isDone]
            rfl
      · exact .pending ((replaced.records_of_ne sortId hown).trans hrow) pending
  | added job =>
      have hne : ¬sortId = state.previousId + 1 := by
        have := (consistent.keyed sortId jobRecord hrow).2
        omega
      refine .pending ?_ pending
      rw [JobQueueState.add, records_save, if_neg hne, hrow]
  | idTaken | killed | isSetup restarted => exact .pending hrow pending
  | workStep buildOperation =>
      rcases @workStep_cases _ queue _ consistent buildOperation with
        hnothing | ⟨nextJob, -, -, ⟨-, hstate⟩ | ⟨error, status, rfl, hstatus, hstate⟩⟩
      · rw [hnothing]
        exact .pending hrow pending
      · rw [hstate]
        by_cases hnext : sortId = nextJob.sortId
        · subst hnext
          exact .pending (Function.update_self _ _ _) (.inr rfl)
        · exact .pending ((Function.update_of_ne hnext _ _).trans hrow) pending
      · rw [hstate]
        by_cases hnext : sortId = nextJob.sortId
        · subst hnext
          rcases hstatus with ⟨rfl, rfl⟩ | ⟨rfl, rfl⟩
          · exact .assertionFailure (Function.update_self _ _ _) rfl
          · exact .obsolete (Function.update_self _ _ _) rfl
        · exact .pending ((Function.update_of_ne hnext _ _).trans hrow) pending
  | restartedOldJobs launched =>
      have hafter : state.restartOldJobs.records sortId = some
          (if jobRecord.status = .running then
            jobRecord.saveRunningAsReady.getD jobRecord.saveAsPermanentlyFailed
          else jobRecord) := by
        simp [JobQueueState.restartOldJobs, hrow]
      refine .pending hafter ?_
      split
      · rename_i hrunning
        simp [SSKJobRecord.saveRunningAsReady, hrunning, SSKJobRecord.IsPending]
      · exact pending

theorem consistent_and_inTurn {start : JobQueueState Job} {events : List (Event Job)}
    (launched : start.AtLaunch) (h : LabelledRun (Step queue) start events state) :
    state.Consistent ∧ state.InTurn queue := by
  refine h.invariant (I := fun _ state => state.Consistent ∧ state.InTurn queue) ?_ ?_
  · refine ⟨launched.consistent, ?_⟩
    intro i j _ before after hbefore
    simp [launched.noOperations] at hbefore
  · intro _ state event state' holds step
    exact ⟨step.consistent holds.1, step.inTurn holds.1 holds.2⟩

theorem StepCase.attempted {sortId : ℕ} (h : StepCase queue state (.attempted sortId) state') :
    ∃ ref operation row, operation.jobRecord.sortId = sortId ∧
      Replaced state state' ref operation { operation with progress := .running } row := by
  generalize hevent : Event.attempted sortId = event at h
  cases h with
  | operation advances replaced =>
      cases advances with
      | runs =>
          obtain rfl : sortId = _ := by simpa using hevent
          exact ⟨_, _, _, rfl, replaced⟩
      | _ => exact absurd hevent (by simp)
  | _ => exact absurd hevent (by simp)

/-- **A job of a serial queue is attempted only when** those of the queue before it are
not pending any more. -/
theorem Step.attempted_inOrder {sortId sortId' : ℕ} {jobRecord jobRecord' : SSKJobRecord Job}
    (step : Step queue state (.attempted sortId') state') (consistent : state.Consistent)
    (inTurn : state.InTurn queue) (hrow : state.records sortId = some jobRecord)
    (hrow' : state.records sortId' = some jobRecord') (hlt : sortId < sortId')
    (hsame : queue.operationQueue jobRecord.job = queue.operationQueue jobRecord'.job)
    (serial : (queue.operationQueue jobRecord'.job).maxConcurrentOperationCount = some 1) :
    ¬jobRecord.IsPending := by
  have hafter := step.inTurn consistent inTurn
  obtain ⟨ref, operation, row, rfl, replaced⟩ := (step.stepCase consistent).attempted
  have hmade := replaced.made
  have hran : state'.operations[ref]? = some { operation with progress := .running } := by
    rw [replaced.getElem?, if_pos rfl]
  have hsaved := (consistent.saved ref operation hmade (replaced.active rfl).1).2
  obtain rfl : operation.jobRecord = jobRecord' := by simpa [hsaved] using hrow'
  rintro (hready | hrunning)
  · have := consistent.readyAfter ref operation hmade sortId jobRecord hrow hready
    omega
  · -- the earlier record has an operation, and it is still at work
    have hsetup : state.setup ≠ .launched := by
      intro hlaunched
      have hnone := consistent.notYet (by simp [hlaunched])
      simp [hnone] at hmade
    obtain ⟨i, other, hother, hactive, hkey⟩ :=
      consistent.hasOperation hsetup sortId jobRecord hrow hrunning
    have hjob : other.jobRecord = jobRecord := by
      have := (consistent.saved i other hother hactive).2
      simpa [hkey, hrow, eq_comm] using this
    have hearlier : i < ref := by
      rcases Nat.lt_trichotomy i ref with hi | rfl | hi
      · exact hi
      · obtain rfl : operation = other := by simpa [hmade] using hother
        omega
      · have := consistent.sortId_lt hi hmade hother
        omega
    have hbefore : state'.operations[i]? = some other := by
      rw [replaced.getElem?, if_neg (by omega), hother]
    have hfinished : other.progress = .finished :=
      hafter i ref hearlier other _ hbefore hran (by rw [hjob]; exact hsame) serial (by simp)
    rw [hfinished] at hactive
    exact absurd hactive (by decide)

/-- The running records and the operations at work are in one-to-one correspondence. -/
structure OneToOne (state : JobQueueState Job) : Prop where
  nodup : state.runningOperations.Nodup
  record : ∀ ref ∈ state.runningOperations, ∃ operation, state.operations[ref]? = some operation ∧
    operation.jobRecord.status = .running ∧
      state.records operation.jobRecord.sortId = some operation.jobRecord
  operation : ∀ sortId jobRecord, state.records sortId = some jobRecord →
    jobRecord.status = .running → ∃! ref, ref ∈ state.runningOperations ∧
      ∃ operation, state.operations[ref]? = some operation ∧
        operation.jobRecord.sortId = sortId

theorem Consistent.oneToOne (consistent : state.Consistent) (hsetup : state.setup = .isSetup) :
    state.OneToOne where
  nodup := consistent.nodup
  record ref hmem := by
    obtain ⟨operation, hmade, hactive⟩ := (consistent.mem_runningOperations ref).mp hmem
    exact ⟨operation, hmade, consistent.saved ref operation hmade hactive⟩
  operation sortId jobRecord hrow hrunning := by
    obtain ⟨ref, operation, hmade, hactive, hkey⟩ :=
      consistent.hasOperation (by simp [hsetup]) sortId jobRecord hrow hrunning
    refine ⟨ref, ⟨(consistent.mem_runningOperations ref).mpr ⟨operation, hmade, hactive⟩,
      operation, hmade, hkey⟩, ?_⟩
    rintro other ⟨-, otherOperation, hother, hotherKey⟩
    exact consistent.ref_eq hother hmade (hotherKey.trans hkey.symm)

end JobQueueState

/-! ## The queue of the message sender -/

/-- What an `SSKMessageSenderJobRecord` adds to a job record. -/
structure MessageSenderJob where
  /-- None for a message that is not saved. -/
  messageId : Option String
  threadId : Option String
  deriving DecidableEq

def messageSenderJobQueue : JobQueue MessageSenderJob where
  maxRetries := 10
  requiresInternet := true
  operationQueue job :=
    match job.threadId with
    | none =>
        { name := "DefaultSendingQueue"
          maxConcurrentOperationCount := some 1 }
    | some threadId =>
        { name := "SendingQueue:" ++ threadId
          maxConcurrentOperationCount := some 1 }

open JobQueueState in
/-- **The queue of the message sender** loses no record, works on none twice at once,
and attempts a message only when those before it in its thread are done with, in every
run from a launch, with kills and restarts. -/
theorem messageSender_durable_and_inOrder {start state : JobQueueState MessageSenderJob}
    {events : List (Event MessageSenderJob)} (launched : start.AtLaunch)
    (h : LabelledRun (Step messageSenderJobQueue) start events state) :
    (state.setup = .isSetup → state.OneToOne) ∧
      (∀ (i j : ℕ) (one other : DurableOperation MessageSenderJob),
        state.operations[i]? = some one → state.operations[j]? = some other →
          one.jobRecord.sortId = other.jobRecord.sortId → i = j) ∧
      ∀ event state', Step messageSenderJobQueue state event state' →
        (∀ sortId jobRecord, state.records sortId = some jobRecord → jobRecord.IsPending →
          Fate state' sortId event) ∧
        ∀ sortId jobRecord sortId' jobRecord', event = .attempted sortId' →
          state.records sortId = some jobRecord → state.records sortId' = some jobRecord' →
            jobRecord.job.threadId = jobRecord'.job.threadId → sortId < sortId' →
              ¬jobRecord.IsPending := by
  obtain ⟨consistent, inTurn⟩ := consistent_and_inTurn launched h
  refine ⟨consistent.oneToOne, fun i j one other => consistent.ref_eq, ?_⟩
  intro event state' step
  refine ⟨fun sortId jobRecord => step.fate consistent, ?_⟩
  rintro sortId jobRecord sortId' jobRecord' rfl hrow hrow' hthread hlt
  refine step.attempted_inOrder consistent inTurn hrow hrow' hlt ?_ ?_
  · simp only [messageSenderJobQueue, hthread]
  · simp only [messageSenderJobQueue]
    split <;> rfl

namespace JobQueueState

/-- The queue as it is when the app is launched for the first time. -/
def new {Job : Type} : JobQueueState Job where
  records := fun _ => none
  previousId := 0
  setup := .launched
  operations := []
  runningOperations := []

theorem atLaunch_new {Job : Type} : (new : JobQueueState Job).AtLaunch :=
  ⟨rfl, rfl, rfl, fun _ _ h => absurd h (by simp [new])⟩

end JobQueueState

open JobQueueState in
/-- Two messages of one thread are added before the queue is set up, and taken up after: the
second is not attempted yet. -/
theorem second_message_waits :
    let added := ((new : JobQueueState MessageSenderJob).add ⟨some "one", some "c+15550001"⟩).add
      ⟨some "two", some "c+15550001"⟩
    let isSetup := { added.restartOldJobs with setup := .isSetup }
    let state := (isSetup.workStep messageSenderJobQueue (.ok ())).workStep messageSenderJobQueue
      (.ok ())
    state.OneToOne ∧ ∀ state', ¬Step messageSenderJobQueue state (.attempted 2) state' := by
  intro added isSetup state
  have run : LabelledRun (Step messageSenderJobQueue) new _ added :=
    (LabelledRun.single (.added _)).tail (.added _)
  have restarted := (run.tail (.restartedOldJobs rfl)).tail (.isSetup rfl)
  have working : LabelledRun (Step messageSenderJobQueue) new _ state :=
    (restarted.tail (.workStep (.ok ()))).tail (.workStep (.ok ()))
  obtain ⟨oneToOne, -, next⟩ := messageSender_durable_and_inOrder atLaunch_new working
  refine ⟨oneToOne rfl, fun state' step => ?_⟩
  exact (next _ _ step).2 1 _ 2 _ rfl rfl rfl rfl (by decide) (by decide)

end ObjcSwiftLearning.SignalServiceKit
