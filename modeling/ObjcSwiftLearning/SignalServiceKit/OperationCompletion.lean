import ObjcSwiftLearning.SignalServiceKit.JobQueue

/-!
# How an operation completes

`OWSOperation` runs, and runs again when it is told that an error may be retried.  A retry
waits for a timer; the timer, and anything else that calls `runAnyQueuedRetry`, takes it on
the serial queue of the operation, and whoever takes it calls `run`.

* `OWSOperation.Step` — any number of threads inside the methods of the operation, one step
  for each statement that another thread could see.
* `OperationPhase` — the operation as one thread would see it: it has not started, it is at one
  place of its methods, it waits for a retry, or it has finished.
* `Step.phaseStep` — **the operation is in one phase at a time**: whatever the threads do, it
  goes from phase to phase.
* `operation_completes_once` — what follows for a run.

The operation queue starts an operation once.  What `run` does is left open, except that it
reports once; `isCancelled` and the precondition may be anything.
-/

namespace ObjcSwiftLearning.SignalServiceKit

/-! ## The operation -/

inductive OWSOperationState where
  | new
  | executing
  | finished
  deriving DecidableEq

inductive OperationThread where
  /-- In `main`, before the checks. -/
  | main
  /-- In `runAnyQueuedRetry`, with a timer taken. -/
  | callRun
  /-- In `run`, which has not reported yet. -/
  | run
  | reportSuccess
  | reportCancelled
  | reportError (error : OperationError)
  /-- In `reportError:`, after `didReportError:`. -/
  | decideRetry (error : OperationError)
  /-- In `reportError:`, about to set the timer. -/
  | scheduleRetry
  | failOperation (error : OperationError)
  | markAsComplete

namespace OperationThread

def isInRun : OperationThread → Bool
  | run => true
  | _ => false

/-- The error whose report has not reached `didReportError:`. -/
def errorInFlight : OperationThread → Option OperationError
  | reportError error => some error
  | _ => none

end OperationThread

/-- What can be seen of a step. -/
inductive OperationEvent where
  | start
  | preconditionError (error : OperationError)
  | isCancelled
  | run
  | runSucceeded
  | runCancelled
  | runFailed (error : OperationError)
  | didSucceed
  | didCancel
  | didReportError (error : OperationError)
  | gaveUp
  | tookRetry
  | setTimer
  | didFailWithError (error : OperationError)
  | finished
  /-- A timer fires, or someone calls. -/
  | runAnyQueuedRetry

namespace OperationEvent

/-- `run` is called. -/
def isRun : OperationEvent → Bool
  | run => true
  | _ => false

/-- One of the three methods that tell the end is called. -/
def isCompletion : OperationEvent → Bool
  | didSucceed | didCancel | didFailWithError _ => true
  | _ => false

/-- The error `run` reports. -/
def reportedError : OperationEvent → Option OperationError
  | runFailed error => some error
  | _ => none

def didReportedError : OperationEvent → Option OperationError
  | didReportError error => some error
  | _ => none

end OperationEvent

/-- `OWSOperation`, and the threads in its methods. -/
structure OWSOperation where
  operationState : OWSOperationState
  remainingRetries : UInt64
  /-- Whether `retryTimer` is set. -/
  retryTimer : Bool
  failingError : Option OperationError
  threads : List OperationThread

namespace OWSOperation

/-- `init`, and the retries the subclass allows. -/
def initial (remainingRetries : UInt64) : OWSOperation where
  operationState := .new
  remainingRetries := remainingRetries
  retryTimer := false
  failingError := none
  threads := []

/-- Whether `reportError:` fails the operation. -/
def givesUp (operation : OWSOperation) (error : OperationError) : Bool :=
  error.isFatal || !error.isRetryable || operation.remainingRetries == 0

inductive ThreadStep : OWSOperation → OperationThread → OperationEvent → OWSOperation →
    Option OperationThread → Prop
  | preconditionError {operation : OWSOperation} (error : OperationError) :
      ThreadStep operation .main (.preconditionError error) operation (some (.failOperation error))
  | isCancelled {operation : OWSOperation} :
      ThreadStep operation .main .isCancelled operation (some .reportCancelled)
  | mainRun {operation : OWSOperation} : ThreadStep operation .main .run operation (some .run)
  | retryRun {operation : OWSOperation} : ThreadStep operation .callRun .run operation (some .run)
  | runSucceeded {operation : OWSOperation} :
      ThreadStep operation .run .runSucceeded operation (some .reportSuccess)
  | runCancelled {operation : OWSOperation} :
      ThreadStep operation .run .runCancelled operation (some .reportCancelled)
  | runFailed {operation : OWSOperation} (error : OperationError) :
      ThreadStep operation .run (.runFailed error) operation (some (.reportError error))
  | didSucceed {operation : OWSOperation} :
      ThreadStep operation .reportSuccess .didSucceed operation (some .markAsComplete)
  | didCancel {operation : OWSOperation} :
      ThreadStep operation .reportCancelled .didCancel operation (some .markAsComplete)
  | didReportError {operation : OWSOperation} {error : OperationError} :
      ThreadStep operation (.reportError error) (.didReportError error) operation
        (some (.decideRetry error))
  | gaveUp {operation : OWSOperation} {error : OperationError}
      (hgivesUp : operation.givesUp error = true) :
      ThreadStep operation (.decideRetry error) .gaveUp operation (some (.failOperation error))
  | tookRetry {operation : OWSOperation} {error : OperationError}
      (hgivesUp : operation.givesUp error = false) :
      ThreadStep operation (.decideRetry error) .tookRetry
        { operation with remainingRetries := operation.remainingRetries - 1 } (some .scheduleRetry)
  | setTimer {operation : OWSOperation} :
      ThreadStep operation .scheduleRetry .setTimer { operation with retryTimer := true } none
  | didFailWithError {operation : OWSOperation} {error : OperationError} :
      ThreadStep operation (.failOperation error) (.didFailWithError error)
        { operation with failingError := some error } (some .markAsComplete)
  | finished {operation : OWSOperation} :
      ThreadStep operation .markAsComplete .finished
        { operation with operationState := .finished } none

/-- The steps of the operation: it is started, a retry is taken or there is none to take, or
some thread goes on. -/
inductive Step : OWSOperation → OperationEvent → OWSOperation → Prop
  | start {operation : OWSOperation} (hnew : operation.operationState = .new) :
      Step operation .start
        { operation with
          operationState := .executing
          threads := operation.threads ++ [.main] }
  | runAnyQueuedRetry {operation : OWSOperation} (htimer : operation.retryTimer = true) :
      Step operation .runAnyQueuedRetry
        { operation with
          retryTimer := false
          threads := operation.threads ++ [.callRun] }
  | noQueuedRetry {operation : OWSOperation} (htimer : operation.retryTimer = false) :
      Step operation .runAnyQueuedRetry operation
  | thread {operation operation' : OWSOperation} {before after : List OperationThread}
      {thread : OperationThread} {event : OperationEvent} {next : Option OperationThread}
      (hthreads : operation.threads = before ++ thread :: after)
      (hstep : ThreadStep operation thread event operation' next) :
      Step operation event { operation' with threads := before ++ next.toList ++ after }

/-! ## Phases -/

/-- The operation as if it had one thread. -/
inductive OperationPhase where
  | new
  | inMethod (thread : OperationThread)
  | waitingForRetry
  | finished

namespace OperationPhase

def operationState : OperationPhase → OWSOperationState
  | new => .new
  | inMethod _ | waitingForRetry => .executing
  | finished => .finished

/-- Whether the timer is set. -/
def retryTimer : OperationPhase → Bool
  | waitingForRetry => true
  | _ => false

def threads : OperationPhase → List OperationThread
  | inMethod thread => [thread]
  | _ => []

end OperationPhase

structure InPhase (operation : OWSOperation) (phase : OperationPhase) : Prop where
  operationState : operation.operationState = phase.operationState
  retryTimer : operation.retryTimer = phase.retryTimer
  threads : operation.threads = phase.threads

theorem inPhase_initial (remainingRetries : UInt64) :
    InPhase (initial remainingRetries) .new := ⟨rfl, rfl, rfl⟩

inductive PhaseStep (operation operation' : OWSOperation) :
    OperationPhase → OperationEvent → OperationPhase → Prop
  | start (hretries : operation'.remainingRetries = operation.remainingRetries) :
      PhaseStep operation operation' .new .start (.inMethod .main)
  | inMethod {thread next : OperationThread} {event : OperationEvent} {shared : OWSOperation}
      (hstep : ThreadStep operation thread event shared (some next))
      (hretries : operation'.remainingRetries = shared.remainingRetries) :
      PhaseStep operation operation' (.inMethod thread) event (.inMethod next)
  | setTimer (hretries : operation'.remainingRetries = operation.remainingRetries) :
      PhaseStep operation operation' (.inMethod .scheduleRetry) .setTimer .waitingForRetry
  | finished (hretries : operation'.remainingRetries = operation.remainingRetries) :
      PhaseStep operation operation' (.inMethod .markAsComplete) .finished .finished
  | runAnyQueuedRetry (hretries : operation'.remainingRetries = operation.remainingRetries) :
      PhaseStep operation operation' .waitingForRetry .runAnyQueuedRetry (.inMethod .callRun)
  | noQueuedRetry {phase : OperationPhase}
      (hretries : operation'.remainingRetries = operation.remainingRetries) :
      PhaseStep operation operation' phase .runAnyQueuedRetry phase

variable {operation operation' : OWSOperation} {phase phase' : OperationPhase}
  {event : OperationEvent}

/-- A thread that stays in the methods touches neither the timer nor the state. -/
theorem ThreadStep.shared_eq {thread next : OperationThread} {shared : OWSOperation}
    (h : ThreadStep operation thread event shared (some next)) :
    shared.operationState = operation.operationState ∧
      shared.retryTimer = operation.retryTimer := by
  cases h <;> exact ⟨rfl, rfl⟩

theorem ThreadStep.of_none {thread : OperationThread} {shared : OWSOperation}
    (h : ThreadStep operation thread event shared none) :
    (thread = .scheduleRetry ∧ event = .setTimer ∧ shared = { operation with retryTimer := true }) ∨
      (thread = .markAsComplete ∧ event = .finished ∧
        shared = { operation with operationState := .finished }) := by
  cases h with
  | setTimer => exact .inl ⟨rfl, rfl, rfl⟩
  | finished => exact .inr ⟨rfl, rfl, rfl⟩

/-- **The operation is in one phase at a time.** -/
theorem Step.phaseStep (hphase : InPhase operation phase) (h : Step operation event operation') :
    ∃ phase', InPhase operation' phase' ∧ PhaseStep operation operation' phase event phase' := by
  obtain ⟨hstate, htimer, hthreads⟩ := hphase
  cases h with
  | start hnew =>
      rw [hnew] at hstate
      cases phase with
      | new =>
          refine ⟨.inMethod .main, ⟨rfl, htimer, ?_⟩, .start rfl⟩
          rw [hthreads]
          rfl
      | inMethod thread => cases hstate
      | waitingForRetry => cases hstate
      | finished => cases hstate
  | runAnyQueuedRetry hset =>
      rw [hset] at htimer
      cases phase with
      | waitingForRetry =>
          refine ⟨.inMethod .callRun, ⟨hstate, rfl, ?_⟩, .runAnyQueuedRetry rfl⟩
          rw [hthreads]
          rfl
      | new => cases htimer
      | inMethod thread => cases htimer
      | finished => cases htimer
  | noQueuedRetry hunset => exact ⟨phase, ⟨hstate, htimer, hthreads⟩, .noQueuedRetry rfl⟩
  | @thread shared before after thread _ next hsplit hstep =>
      rw [hthreads] at hsplit
      cases phase with
      | inMethod only =>
          -- There is one thread in the methods, so it is the one that has taken the step.
          obtain ⟨rfl, rfl, rfl⟩ : before = [] ∧ only = thread ∧ after = [] := by
            cases before with
            | nil =>
                obtain ⟨hthread, hafter⟩ := List.cons.inj hsplit
                exact ⟨rfl, hthread, hafter.symm⟩
            | cons first before =>
                have hlength := congrArg List.length hsplit
                simp [OperationPhase.threads] at hlength
          cases next with
          | some next =>
              obtain ⟨hsharedState, hsharedTimer⟩ := hstep.shared_eq
              exact ⟨.inMethod next, ⟨hsharedState.trans hstate, hsharedTimer.trans htimer, rfl⟩,
                .inMethod hstep rfl⟩
          | none =>
              rcases hstep.of_none with ⟨rfl, rfl, rfl⟩ | ⟨rfl, rfl, rfl⟩
              · exact ⟨.waitingForRetry, ⟨hstate, rfl, rfl⟩, .setTimer rfl⟩
              · exact ⟨.finished, ⟨rfl, htimer, rfl⟩, .finished rfl⟩
      | new | waitingForRetry | finished => simp [OperationPhase.threads] at hsplit

/-! ## What adds up over a run -/

namespace OperationPhase

/-- Whether `run` is to be called without another retry. -/
def runsAhead : OperationPhase → ℕ
  | new | waitingForRetry | inMethod .main | inMethod .callRun | inMethod .scheduleRetry => 1
  | _ => 0

/-- How many of the three methods have been called. -/
def completions : OperationPhase → ℕ
  | inMethod .markAsComplete | finished => 1
  | _ => 0

/-- The error that has been reported and `didReportError:` has not been called with. -/
def errorInFlight : OperationPhase → List OperationError
  | inMethod (.reportError error) => [error]
  | _ => []

end OperationPhase

structure Accounts (retries : UInt64) (labels : List OperationEvent) (operation : OWSOperation)
    (phase : OperationPhase) : Prop where
  runs : labels.countP (·.isRun) + operation.remainingRetries.toNat + phase.runsAhead ≤
    retries.toNat + 1
  completions : labels.countP (·.isCompletion) = phase.completions
  errors : labels.filterMap (·.reportedError) =
    labels.filterMap (·.didReportedError) ++ phase.errorInFlight
  finished : .finished ∈ labels ↔ phase = .finished
  /-- The end is told before the operation is finished, and nothing happens after. -/
  order : ∀ before after, labels = before ++ .finished :: after →
    before.countP (·.isCompletion) = 1 ∧ ∀ event ∈ after, event = .runAnyQueuedRetry

/-- A retry that is taken is one less. -/
theorem toNat_sub_one_of_not_givesUp {error : OperationError}
    (h : operation.givesUp error = false) :
    (operation.remainingRetries - 1).toNat + 1 = operation.remainingRetries.toNat := by
  have hne : operation.remainingRetries ≠ 0 := by
    intro hzero
    simp [givesUp, hzero] at h
  have hle : (1 : UInt64) ≤ operation.remainingRetries := by
    rw [UInt64.le_iff_toNat_le]
    have := UInt64.pos_iff_ne_zero.mpr hne
    rwa [UInt64.lt_iff_toNat_lt] at this
  rw [UInt64.toNat_sub_of_le _ _ hle]
  rw [UInt64.le_iff_toNat_le] at hle
  have hone : (1 : UInt64).toNat = 1 := rfl
  omega

section

variable (h : PhaseStep operation operation' phase event phase')
include h

/-- A step calls `run` out of what is ahead, and puts it back out of the retries. -/
theorem PhaseStep.runs :
    (if event.isRun then 1 else 0) + operation'.remainingRetries.toNat + phase'.runsAhead ≤
      operation.remainingRetries.toNat + phase.runsAhead := by
  cases h with
  | start hretries | setTimer hretries | finished hretries | runAnyQueuedRetry hretries =>
      simp [hretries, OperationEvent.isRun, OperationPhase.runsAhead]
  | noQueuedRetry hretries => simp [hretries, OperationEvent.isRun]
  | inMethod hstep hretries =>
      rw [hretries]
      cases hstep with
      | tookRetry hgivesUp =>
          have := toNat_sub_one_of_not_givesUp hgivesUp
          simp only [OperationEvent.isRun, OperationPhase.runsAhead]
          simp
          omega
      | _ => simp [OperationEvent.isRun, OperationPhase.runsAhead] <;> omega

/-- A call of one of the three methods leads to `markAsComplete`, and nothing else does. -/
theorem PhaseStep.completions :
    phase'.completions = phase.completions + if event.isCompletion then 1 else 0 := by
  cases h with
  | inMethod hstep hretries => cases hstep <;> rfl
  | _ => rfl

/-- An error that is reported is in flight until `didReportError:` is called with it. -/
theorem PhaseStep.errors :
    phase.errorInFlight ++ event.reportedError.toList =
      event.didReportedError.toList ++ phase'.errorInFlight := by
  cases h with
  | inMethod hstep hretries => cases hstep <;> rfl
  | noQueuedRetry hretries =>
      simp [OperationEvent.reportedError, OperationEvent.didReportedError]
  | _ => rfl

/-- The operation is finished by `markAsComplete`, for good. -/
theorem PhaseStep.finished_iff : phase' = .finished ↔ event = .finished ∨ phase = .finished := by
  cases h with
  | inMethod hstep hretries => cases hstep <;> simp
  | noQueuedRetry hretries => simp
  | _ => simp

end

theorem PhaseStep.completions_of_finished
    (h : PhaseStep operation operation' phase .finished phase') : phase.completions = 1 := by
  cases h with
  | inMethod hstep hretries => cases hstep
  | finished hretries => rfl

theorem PhaseStep.eq_of_finished (h : PhaseStep operation operation' .finished event phase') :
    event = .runAnyQueuedRetry := by
  cases h
  rfl

theorem accounts_initial (retries : UInt64) : Accounts retries [] (initial retries) .new where
  runs := by simp [initial, OperationPhase.runsAhead]
  completions := rfl
  errors := rfl
  finished := by simp
  order before after h := by simp at h

/-- **A step keeps the accounts.** -/
theorem Accounts.step {retries : UInt64} {labels : List OperationEvent}
    (h : Accounts retries labels operation phase)
    (hstep : PhaseStep operation operation' phase event phase') :
    Accounts retries (labels ++ [event]) operation' phase' where
  runs := by
    have hruns := h.runs
    have hkept := hstep.runs
    rw [List.countP_append, List.countP_singleton]
    omega
  completions := by
    rw [List.countP_append, List.countP_singleton, h.completions, hstep.completions]
  errors := by
    have hsingle : ∀ f : OperationEvent → Option OperationError,
        [event].filterMap f = (f event).toList := by
      intro f
      cases hf : f event <;> simp [hf]
    rw [List.filterMap_append, List.filterMap_append, h.errors, hsingle, hsingle,
      List.append_assoc, hstep.errors, List.append_assoc]
  finished := by
    rw [hstep.finished_iff, List.mem_append, h.finished, List.mem_singleton, or_comm,
      @eq_comm _ OperationEvent.finished]
  order before after hsplit := by
    rcases List.eq_nil_or_concat after with rfl | ⟨after, last, rfl⟩
    · obtain ⟨rfl, hevent⟩ := List.append_inj' hsplit rfl
      obtain rfl := List.singleton_inj.mp hevent
      exact ⟨h.completions.trans hstep.completions_of_finished, by simp⟩
    · rw [List.concat_eq_append, ← List.cons_append, ← List.append_assoc] at hsplit
      obtain ⟨hlabels, hevent⟩ := List.append_inj' hsplit rfl
      obtain rfl := List.singleton_inj.mp hevent
      obtain ⟨hcompletions, hafter⟩ := h.order before after hlabels
      have hfinished : phase = .finished := by
        rw [← h.finished, hlabels]
        simp
      refine ⟨hcompletions, fun other hother => ?_⟩
      rw [List.concat_eq_append, List.mem_append, List.mem_singleton] at hother
      rcases hother with hother | rfl
      · exact hafter other hother
      · rw [hfinished] at hstep
        exact hstep.eq_of_finished

/-- **Every run keeps its accounts**, in one phase. -/
theorem accounts_of_run {retries : UInt64} {labels : List OperationEvent}
    (run : LabelledRun Step (initial retries) labels operation) :
    ∃ phase, InPhase operation phase ∧ Accounts retries labels operation phase := by
  refine run.invariant (I := fun labels operation =>
    ∃ phase, InPhase operation phase ∧ Accounts retries labels operation phase)
    ⟨.new, inPhase_initial retries, accounts_initial retries⟩ ?_
  rintro labels operation event operation' ⟨phase, hphase, haccounts⟩ hstep
  obtain ⟨phase', hphase', hphaseStep⟩ := hstep.phaseStep hphase
  exact ⟨phase', hphase', haccounts.step hphaseStep⟩

/-- **An operation completes once.**

* At most one thread is in `run`, which is called at most once more than there are retries, and
  never after the operation is finished.
* `didReportError:` is called with the errors reported, in their order.
* One of the three methods that tell the end is called before the operation is finished, none is
  called again, and an operation that has started, with no thread in its methods, is finished or
  waits for a retry. -/
theorem operation_completes_once {retries : UInt64} {labels : List OperationEvent}
    (run : LabelledRun Step (initial retries) labels operation) :
    operation.threads.countP (·.isInRun) ≤ 1 ∧
      labels.countP (·.isRun) ≤ retries.toNat + 1 ∧
      labels.filterMap (·.reportedError) =
        labels.filterMap (·.didReportedError) ++ operation.threads.filterMap (·.errorInFlight) ∧
      labels.countP (·.isCompletion) ≤ 1 ∧
      (∀ before after, labels = before ++ .finished :: after →
        before.countP (·.isCompletion) = 1 ∧ after.countP (·.isCompletion) = 0 ∧
          after.countP (·.isRun) = 0) ∧
      (operation.operationState ≠ .new → operation.threads = [] →
        operation.retryTimer = true ∨ .finished ∈ labels) := by
  obtain ⟨phase, hphase, haccounts⟩ := accounts_of_run run
  have hruns := haccounts.runs
  refine ⟨?_, by omega, ?_, ?_, fun before after hlabels => ?_, fun hstarted hidle => ?_⟩
  · rw [hphase.threads]
    cases phase with
    | inMethod thread => exact List.countP_le_length
    | _ => exact Nat.zero_le _
  · rw [haccounts.errors, hphase.threads]
    cases phase with
    | inMethod thread => cases thread <;> rfl
    | _ => rfl
  · rw [haccounts.completions]
    cases phase with
    | inMethod thread => cases thread <;> simp [OperationPhase.completions]
    | _ => simp [OperationPhase.completions]
  · obtain ⟨hcompletions, hafter⟩ := haccounts.order before after hlabels
    refine ⟨hcompletions, List.countP_eq_zero.mpr fun event hevent => ?_,
      List.countP_eq_zero.mpr fun event hevent => ?_⟩
    · rw [hafter event hevent]
      decide
    · rw [hafter event hevent]
      decide
  · rw [haccounts.finished]
    rw [hphase.operationState] at hstarted
    rw [hphase.threads] at hidle
    cases phase with
    | new => exact absurd rfl hstarted
    | inMethod thread => cases hidle
    | waitingForRetry => exact .inl hphase.retryTimer
    | finished => exact .inr rfl

theorem Step.only {thread : OperationThread} {next : Option OperationThread}
    (hthreads : operation.threads = [thread])
    (hstep : ThreadStep operation thread event operation' next) :
    Step operation event { operation' with threads := next.toList } := by
  have h := @Step.thread operation operation' [] [] thread event next hthreads hstep
  rwa [List.nil_append, List.append_nil] at h

theorem retried_operation_completes :
    ∃ labels operation, LabelledRun Step (initial 1) labels operation ∧
      labels.countP (·.isRun) = 2 ∧ operation.operationState = .finished ∧
      labels.filterMap (·.didReportedError) = [⟨false, true⟩] ∧
      labels.countP (·.isCompletion) ≤ 1 := by
  have started : LabelledRun Step (initial 1) [.start] _ := .single (.start rfl)
  have failed := (started.tail (.only rfl .mainRun)).tail (.only rfl (.runFailed ⟨false, true⟩))
  have waiting := ((failed.tail (.only rfl .didReportError)).tail
    (.only rfl (.tookRetry (by decide)))).tail (.only rfl .setTimer)
  have running := (waiting.tail (.runAnyQueuedRetry rfl)).tail (.only rfl .retryRun)
  have finished := ((running.tail (.only rfl .runSucceeded)).tail (.only rfl .didSucceed)).tail
    (.only rfl .finished)
  exact ⟨_, _, finished, rfl, rfl, rfl, (operation_completes_once finished).2.2.2.1⟩

end OWSOperation

end ObjcSwiftLearning.SignalServiceKit
