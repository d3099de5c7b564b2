import ObjcSwiftLearning.SignalServiceKit.JobQueue

/-!
# The retry budget of a job

The failures of a job are counted in its record, the retries left in its operation;
the one is raised when an error is reported, the other lowered when a retry is
queued, and a new session computes the retries from the failures it finds.

* `WithinBudget` — how the two add up, wherever an operation stands.
* `Spent` — what a session has spent on a job, attempt by attempt and error by error.
* `retryBudget` — **they add up to `maxRetries` whenever an operation waits**, so a
  session makes no more attempts than the failures it found leave.
-/

namespace ObjcSwiftLearning.SignalServiceKit

namespace JobQueueState

variable {Job : Type} {queue : JobQueue Job} {state state' : JobQueueState Job}
  {ref sortId : ℕ} {operation changed : DurableOperation Job} {row : Option (SSKJobRecord Job)}
  {event : Event Job} {events session : List (Event Job)} {failureCount : UInt64}

/-! ## Failures and retries add up -/

/-- The operation can be retried as often as the failures of its record leave. -/
def WithinBudget (queue : JobQueue Job) (operation : DurableOperation Job) : Prop :=
  match operation.progress with
  | .queued | .running =>
      operation.remainingRetries.toNat =
        queue.maxRetries.toNat - operation.jobRecord.failureCount.toNat
  | .didReportError _ =>
      operation.remainingRetries.toNat = 0 ∨
        operation.jobRecord.failureCount.toNat + operation.remainingRetries.toNat =
          queue.maxRetries.toNat + 1
  | .waitingForRetry =>
      operation.jobRecord.failureCount.toNat + operation.remainingRetries.toNat =
        queue.maxRetries.toNat
  | .done | .finished => True

theorem toNat_remainingRetries (queue : JobQueue Job) (jobRecord : SSKJobRecord Job) :
    (queue.remainingRetries jobRecord).toNat =
      queue.maxRetries.toNat - jobRecord.failureCount.toNat := by
  unfold JobQueue.remainingRetries
  split
  · rename_i hgt
    exact UInt64.toNat_sub_of_le _ _ (UInt64.le_of_lt hgt)
  · rename_i hle
    have : queue.maxRetries.toNat ≤ jobRecord.failureCount.toNat :=
      UInt64.le_iff_toNat_le.mp (UInt64.not_lt.mp hle)
    simp only [UInt64.toNat_zero]
    omega

/-- A retry is queued only while some are left. -/
theorem remainingRetries_pos {error : OperationError} (h : operation.givesUp error = false) :
    0 < operation.remainingRetries.toNat ∧
      (operation.remainingRetries - 1).toNat = operation.remainingRetries.toNat - 1 := by
  have hne : operation.remainingRetries ≠ 0 := by
    intro hzero
    simp [DurableOperation.givesUp, hzero] at h
  have hpos : 0 < operation.remainingRetries.toNat := by
    by_contra hzero
    exact hne (UInt64.toNat_inj.mp (Nat.eq_zero_of_not_pos hzero))
  refine ⟨hpos, ?_⟩
  have hle : (1 : UInt64) ≤ operation.remainingRetries := UInt64.le_iff_toNat_le.mpr hpos
  rw [UInt64.toNat_sub_of_le _ _ hle]
  rfl

/-- **What an operation does next** keeps the sum. -/
theorem Advances.withinBudget (h : Advances operation event changed row)
    (within : WithinBudget queue operation) : WithinBudget queue changed := by
  cases h with
  | runs idle =>
      rcases idle with idle | idle <;> simp only [WithinBudget, idle] at within ⊢ <;> omega
  | succeeds => trivial
  | reportsError error ran =>
      simp only [WithinBudget, ran] at within ⊢
      by_cases hzero : operation.remainingRetries.toNat = 0
      · exact .inl hzero
      · refine .inr ?_
        have hbound := UInt64.toNat_lt queue.maxRetries
        have hsucc : (operation.jobRecord.failureCount + 1).toNat =
            operation.jobRecord.failureCount.toNat + 1 := by
          rw [UInt64.toNat_add]
          exact Nat.mod_eq_of_lt (by simp only [UInt64.toNat_one]; omega)
        omega
  | fails => trivial
  | queuesRetry reported goesOn =>
      obtain ⟨hpos, hpred⟩ := remainingRetries_pos goesOn
      simp only [WithinBudget, reported, hpred] at within ⊢
      omega
  | completes => trivial

theorem Step.withinBudget (step : Step queue state event state') (consistent : state.Consistent)
    (within : ∀ (ref : ℕ) (operation : DurableOperation Job),
      state.operations[ref]? = some operation → WithinBudget queue operation) :
    ∀ (ref : ℕ) (operation : DurableOperation Job),
      state'.operations[ref]? = some operation → WithinBudget queue operation := by
  intro i other hi
  cases step.stepCase consistent with
  | @operation _ _ ref operation changed row advances replaced mayStart =>
      rw [replaced.getElem?] at hi
      split at hi
      · obtain rfl := Option.some.inj hi
        exact advances.withinBudget (within ref operation replaced.made)
      · exact within i other hi
  | added job | idTaken | restartedOldJobs launched | isSetup restarted => exact within i other hi
  | workStep buildOperation =>
      rcases @workStep_cases _ queue _ consistent buildOperation with
        hnothing | ⟨nextJob, -, -, ⟨-, hstate⟩ | ⟨_, _, -, -, hstate⟩⟩
      · rw [hnothing] at hi
        exact within i other hi
      · rw [hstate] at hi
        rcases List.mem_append.mp (List.mem_of_getElem? hi) with hold | hnew
        · obtain ⟨j, hj⟩ := List.getElem?_of_mem hold
          exact within j other hj
        · obtain rfl := List.mem_singleton.mp hnew
          exact toNat_remainingRetries queue _
      · rw [hstate] at hi
        exact within i other hi
  | killed => simp [JobQueueState.kill] at hi

/-! ## What a session spends -/

def attempts (sortId : ℕ) (events : List (Event Job)) : ℕ :=
  events.countP fun
    | .attempted other => other == sortId
    | _ => false

def errorReports (sortId : ℕ) (events : List (Event Job)) : ℕ :=
  events.countP fun
    | .errorReported other _ => other == sortId
    | _ => false

/-- What a session has spent on a job by way of its operation, out of the retries that
it found. -/
def SpentBy (budget attempts errors : ℕ) (operation : DurableOperation Job) : Prop :=
  match operation.progress with
  | .queued => attempts = 0 ∧ errors = 0 ∧ operation.remainingRetries.toNat = budget
  | .running => attempts = errors + 1 ∧ errors + operation.remainingRetries.toNat = budget
  | .didReportError _ =>
      attempts = errors ∧ errors + operation.remainingRetries.toNat = budget + 1
  | .waitingForRetry =>
      attempts = errors ∧ errors + operation.remainingRetries.toNat = budget
  | .done | .finished => attempts ≤ budget + 1 ∧ errors ≤ budget + 1

theorem SpentBy.le {budget attempts errors : ℕ} (h : SpentBy budget attempts errors operation) :
    attempts ≤ budget + 1 ∧ errors ≤ budget + 1 := by
  unfold SpentBy at h
  split at h <;> omega

theorem counts_concat (h : ∀ sortId, event ≠ .attempted sortId)
    (h' : ∀ sortId error, event ≠ .errorReported sortId error) :
    attempts sortId (session ++ [event]) = attempts sortId session ∧
      errorReports sortId (session ++ [event]) = errorReports sortId session := by
  cases event <;> simp_all [attempts, errorReports]

/-- What an operation does next is counted once. -/
theorem Advances.spentBy {budget : ℕ} (h : Advances operation event changed row)
    (spent : SpentBy budget (attempts operation.jobRecord.sortId session)
      (errorReports operation.jobRecord.sortId session) operation) :
    SpentBy budget (attempts operation.jobRecord.sortId (session ++ [event]))
      (errorReports operation.jobRecord.sortId (session ++ [event])) changed := by
  cases h with
  | runs idle =>
      have hattempts : attempts operation.jobRecord.sortId
          (session ++ [.attempted operation.jobRecord.sortId]) =
            attempts operation.jobRecord.sortId session + 1 := by
        simp [attempts]
      have herrors : errorReports operation.jobRecord.sortId
          (session ++ [.attempted operation.jobRecord.sortId]) =
            errorReports operation.jobRecord.sortId session := by
        simp [errorReports]
      rw [hattempts, herrors]
      rcases idle with idle | idle <;> simp only [SpentBy, idle] at spent ⊢ <;> omega
  | reportsError error ran =>
      have hattempts : attempts operation.jobRecord.sortId
          (session ++ [.errorReported operation.jobRecord.sortId error]) =
            attempts operation.jobRecord.sortId session := by
        simp [attempts]
      have herrors : errorReports operation.jobRecord.sortId
          (session ++ [.errorReported operation.jobRecord.sortId error]) =
            errorReports operation.jobRecord.sortId session + 1 := by
        simp [errorReports]
      rw [hattempts, herrors]
      simp only [SpentBy, ran] at spent ⊢
      omega
  -- The other events count neither as attempts nor as errors.
  | succeeds ran =>
      have hcounts := @counts_concat Job operation.jobRecord.sortId
        (.succeeded operation.jobRecord.sortId) session nofun nofun
      rw [hcounts.1, hcounts.2]
      simp only [SpentBy, ran] at spent ⊢
      omega
  | fails reported =>
      have hcounts := @counts_concat Job operation.jobRecord.sortId
        (.failed operation.jobRecord.sortId) session nofun nofun
      rw [hcounts.1, hcounts.2]
      simp only [SpentBy, reported] at spent ⊢
      omega
  | queuesRetry reported goesOn =>
      obtain ⟨hpos, hpred⟩ := remainingRetries_pos goesOn
      have hcounts := @counts_concat Job operation.jobRecord.sortId
        (.retryQueued operation.jobRecord.sortId) session nofun nofun
      rw [hcounts.1, hcounts.2]
      simp only [SpentBy, reported, hpred] at spent ⊢
      omega
  | completes isDone =>
      have hcounts := @counts_concat Job operation.jobRecord.sortId
        (.completed operation.jobRecord.sortId) session nofun nofun
      rw [hcounts.1, hcounts.2]
      simpa only [SpentBy, isDone] using spent

theorem Advances.counts_of_ne (h : Advances operation event changed row)
    (hne : operation.jobRecord.sortId ≠ sortId) :
    attempts sortId (session ++ [event]) = attempts sortId session ∧
      errorReports sortId (session ++ [event]) = errorReports sortId session := by
  cases h <;> simp [attempts, errorReports, hne]

/-- What a session has spent on a job that had failed `failureCount` times when it
began: nothing, before there is an operation. -/
def Spent (queue : JobQueue Job) (failureCount : UInt64) (sortId : ℕ)
    (session : List (Event Job)) (state : JobQueueState Job) : Prop :=
  ((∀ (ref : ℕ) (operation : DurableOperation Job), state.operations[ref]? = some operation →
      operation.jobRecord.sortId ≠ sortId) ∧
    (∃ jobRecord, state.records sortId = some jobRecord ∧
      jobRecord.failureCount = failureCount) ∧
    attempts sortId session = 0 ∧ errorReports sortId session = 0) ∨
  ∃ (ref : ℕ) (operation : DurableOperation Job), state.operations[ref]? = some operation ∧
    operation.jobRecord.sortId = sortId ∧
      SpentBy (queue.maxRetries.toNat - failureCount.toNat) (attempts sortId session)
        (errorReports sortId session) operation

/-- The operations are as before, and so is the record of a job that has none. -/
theorem Spent.congr {session' : List (Event Job)}
    (spent : Spent queue failureCount sortId session state)
    (hoperations : state'.operations = state.operations)
    (hrecord : ∀ jobRecord, state.records sortId = some jobRecord → ∃ jobRecord',
      state'.records sortId = some jobRecord' ∧
        jobRecord'.failureCount = jobRecord.failureCount)
    (hcounts : attempts sortId session' = attempts sortId session ∧
      errorReports sortId session' = errorReports sortId session) :
    Spent queue failureCount sortId session' state' := by
  rcases spent with ⟨hnone, ⟨jobRecord, hrow, hcount⟩, hzero⟩ | ⟨ref, operation, hmade, hkey, hspent⟩
  · obtain ⟨jobRecord', hrow', hcount'⟩ := hrecord jobRecord hrow
    refine .inl ⟨?_, ⟨jobRecord', hrow', hcount'.trans hcount⟩, ?_⟩
    · rwa [hoperations]
    · rwa [hcounts.1, hcounts.2]
  · refine .inr ⟨ref, operation, ?_, hkey, ?_⟩
    · rwa [hoperations]
    · rwa [hcounts.1, hcounts.2]

theorem Spent.append {nextJob : SSKJobRecord Job} {buildOperation : Except JobError Unit}
    (consistent : state.Consistent) (hnext : state.getNextReady = some nextJob)
    (spent : Spent queue failureCount sortId session state) :
    Spent queue failureCount sortId (session ++ [.workStep buildOperation])
      { state.save { nextJob with status := .running } with
        operations := state.operations ++
          [{ jobRecord := { nextJob with status := .running }
             remainingRetries := queue.remainingRetries { nextJob with status := .running }
             progress := .queued }]
        runningOperations := state.runningOperations ++ [state.operations.length] } := by
  obtain ⟨hattempts, herrors⟩ := @counts_concat _ sortId (.workStep buildOperation) session
    nofun nofun
  have hsaved := (consistent.getNextReady_eq_some hnext).1
  unfold Spent
  rw [hattempts, herrors]
  rcases spent with ⟨hnone, ⟨jobRecord, hrow, hcount⟩, hzero⟩ | ⟨i, other, hi, hkey, hspent⟩
  · by_cases heq : sortId = nextJob.sortId
    · subst heq
      obtain rfl : nextJob = jobRecord := by simpa [hsaved] using hrow
      refine .inr ⟨state.operations.length, _, List.getElem?_concat_length, rfl, hzero.1, hzero.2, ?_⟩
      rw [toNat_remainingRetries, ← hcount]
    · refine .inl ⟨?_, ⟨jobRecord, (Function.update_of_ne heq _ _).trans hrow, hcount⟩, hzero⟩
      intro i other hi
      rcases List.mem_append.mp (List.mem_of_getElem? hi) with hold | hnew
      · obtain ⟨j, hj⟩ := List.getElem?_of_mem hold
        exact hnone j other hj
      · obtain rfl := List.mem_singleton.mp hnew
        exact Ne.symm heq
  · have hlt : i < state.operations.length := (List.getElem?_eq_some_iff.mp hi).1
    exact .inr ⟨i, other, by rw [List.getElem?_append_left hlt, hi], hkey, hspent⟩

/-- **A step of a session** spends at most what is left. -/
theorem Step.spent (step : Step queue state event state') (consistent : state.Consistent)
    (notKilled : event ≠ .killed) (spent : Spent queue failureCount sortId session state) :
    Spent queue failureCount sortId (session ++ [event]) state' := by
  cases step.stepCase consistent with
  | @operation _ _ ref operation changed row advances replaced mayStart =>
      have hget := replaced.getElem?
      rcases spent with ⟨hnone, ⟨jobRecord, hrow, hcount⟩, hzero⟩ | ⟨i, other, hi, hkey, hspent⟩
      · -- another job's operation
        have hne : operation.jobRecord.sortId ≠ sortId := hnone ref operation replaced.made
        obtain ⟨hattempts, herrors⟩ := @Advances.counts_of_ne _ _ _ _ _ _ session advances hne
        refine .inl ⟨?_, ⟨jobRecord, ?_, hcount⟩, by rwa [hattempts, herrors]⟩
        · intro i other hi
          rw [hget] at hi
          split at hi
          · obtain rfl := Option.some.inj hi
            rw [replaced.sortId_eq]
            exact hne
          · exact hnone i other hi
        · rw [replaced.records_of_ne sortId (Ne.symm hne), hrow]
      · by_cases heq : i = ref
        · subst heq
          obtain rfl : operation = other := by simpa [replaced.made] using hi
          subst hkey
          exact .inr ⟨i, changed, by rw [hget, if_pos rfl], replaced.sortId_eq,
            advances.spentBy hspent⟩
        · have hne : operation.jobRecord.sortId ≠ sortId := fun hsame =>
            heq (consistent.ref_eq hi replaced.made (hkey.trans hsame.symm))
          obtain ⟨hattempts, herrors⟩ := @Advances.counts_of_ne _ _ _ _ _ _ session advances hne
          refine .inr ⟨i, other, by rw [hget, if_neg heq, hi], hkey, ?_⟩
          rwa [hattempts, herrors]
  | added job =>
      refine spent.congr rfl ?_ (counts_concat (by simp) (by simp))
      intro jobRecord hrow
      have hne : ¬sortId = state.previousId + 1 := by
        have := (consistent.keyed sortId jobRecord hrow).2
        omega
      exact ⟨jobRecord, by rw [JobQueueState.add, records_save, if_neg hne]; exact hrow, rfl⟩
  | idTaken | isSetup restarted =>
      exact spent.congr rfl (fun jobRecord hrow => ⟨jobRecord, hrow, rfl⟩)
        (counts_concat (by simp) (by simp))
  | workStep buildOperation =>
      rcases @workStep_cases _ queue _ consistent buildOperation with
        hnothing | ⟨nextJob, -, hnext, ⟨-, hstate⟩ | ⟨_, status, -, -, hstate⟩⟩
      · rw [hnothing]
        exact spent.congr rfl (fun jobRecord hrow => ⟨jobRecord, hrow, rfl⟩)
          (counts_concat (by simp) (by simp))
      · rw [hstate]
        exact spent.append consistent hnext
      · rw [hstate]
        refine spent.congr rfl ?_ (counts_concat (by simp) (by simp))
        intro jobRecord hrow
        rw [records_save]
        split
        · rename_i heq
          have hsaved := (consistent.getNextReady_eq_some hnext).1
          obtain rfl : nextJob = jobRecord := by simpa [heq, hsaved] using hrow
          exact ⟨_, rfl, rfl⟩
        · exact ⟨jobRecord, hrow, rfl⟩
  | killed => exact absurd rfl notKilled
  | restartedOldJobs launched =>
      refine spent.congr rfl ?_ (counts_concat (by simp) (by simp))
      intro jobRecord hrow
      refine ⟨_, Option.map_eq_some_iff.mpr ⟨jobRecord, hrow, rfl⟩, ?_⟩
      split
      · rename_i hrunning
        simp [SSKJobRecord.saveRunningAsReady, hrunning]
      · rfl

theorem Spent.le (spent : Spent queue failureCount sortId session state) :
    attempts sortId session ≤ max 1 (queue.maxRetries.toNat + 1 - failureCount.toNat) ∧
      errorReports sortId session ≤ max 1 (queue.maxRetries.toNat + 1 - failureCount.toNat) := by
  rcases spent with ⟨-, -, hattempts, herrors⟩ | ⟨ref, operation, -, -, hspent⟩
  · omega
  · have := hspent.le
    omega

/-- **What a session spends** on a job without an operation. -/
theorem spent_of_session {jobRecord : SSKJobRecord Job} (consistent : state.Consistent)
    (hrow : state.records sortId = some jobRecord)
    (hnone : ∀ (ref : ℕ) (operation : DurableOperation Job),
      state.operations[ref]? = some operation → operation.jobRecord.sortId ≠ sortId)
    (h : LabelledRun (Step queue) state session state') (notKilled : .killed ∉ session) :
    Spent queue jobRecord.failureCount sortId session state' := by
  have hrun : state'.Consistent ∧
      (.killed ∉ session → Spent queue jobRecord.failureCount sortId session state') := by
    refine h.invariant (I := fun labels state => state.Consistent ∧
      (.killed ∉ labels → Spent queue jobRecord.failureCount sortId labels state)) ?_ ?_
    · exact ⟨consistent, fun _ => .inl ⟨hnone, ⟨jobRecord, hrow, rfl⟩, rfl, rfl⟩⟩
    · intro labels state event state' holds step
      refine ⟨step.consistent holds.1, fun hnot => ?_⟩
      have hlabels : .killed ∉ labels := fun hmem => hnot (List.mem_append_left _ hmem)
      have hevent : event ≠ .killed := by
        rintro rfl
        exact hnot (List.mem_append_right _ (List.mem_singleton.mpr rfl))
      exact step.spent holds.1 hevent (holds.2 hlabels)
  exact hrun.2 notKilled

/-- **The retry budget of a job.**  Whenever an operation waits for a retry, the
failures of its record and its remaining retries make up `maxRetries`; so a session
makes no more attempts at a job, and gets no more errors, than the failures that it
found leave; and a job that is never killed reports at most one error more than it may
be retried. -/
theorem retryBudget {start : JobQueueState Job} (launched : start.AtLaunch)
    (h : LabelledRun (Step queue) start events state) :
    (∀ (ref : ℕ) (operation : DurableOperation Job), state.operations[ref]? = some operation →
      operation.progress = .waitingForRetry → ∃ jobRecord,
        state.records operation.jobRecord.sortId = some jobRecord ∧
          jobRecord.failureCount.toNat + operation.remainingRetries.toNat =
            queue.maxRetries.toNat) ∧
      (∀ session state', LabelledRun (Step queue) state session state' → .killed ∉ session →
        ∀ sortId jobRecord, state.records sortId = some jobRecord →
          (∀ (ref : ℕ) (operation : DurableOperation Job),
            state.operations[ref]? = some operation → operation.jobRecord.sortId ≠ sortId) →
          attempts sortId session ≤
              max 1 (queue.maxRetries.toNat + 1 - jobRecord.failureCount.toNat) ∧
            errorReports sortId session ≤
              max 1 (queue.maxRetries.toNat + 1 - jobRecord.failureCount.toNat)) ∧
      ∀ job session state', LabelledRun (Step queue) (state.add job) session state' →
        .killed ∉ session →
          errorReports (state.previousId + 1) session ≤ queue.maxRetries.toNat + 1 := by
  have hrun : state.Consistent ∧ ∀ (ref : ℕ) (operation : DurableOperation Job),
      state.operations[ref]? = some operation → WithinBudget queue operation := by
    refine h.invariant (I := fun _ state => state.Consistent ∧
      ∀ (ref : ℕ) (operation : DurableOperation Job),
        state.operations[ref]? = some operation → WithinBudget queue operation) ?_ ?_
    · exact ⟨launched.consistent, by simp [launched.noOperations]⟩
    · intro _ state event state' holds step
      exact ⟨step.consistent holds.1, step.withinBudget holds.1 holds.2⟩
  obtain ⟨consistent, within⟩ := hrun
  refine ⟨?_, ?_, ?_⟩
  · intro ref operation hmade hwaiting
    have hactive : operation.progress.isActive = true := by
      rw [hwaiting]
      rfl
    have hbudget := within ref operation hmade
    rw [WithinBudget, hwaiting] at hbudget
    exact ⟨_, (consistent.saved ref operation hmade hactive).2, hbudget⟩
  · intro session state' h' notKilled sortId jobRecord hrow hnone
    exact (spent_of_session consistent hrow hnone h' notKilled).le
  · intro job session state' h' notKilled
    -- A new job has the greatest sort id, so no operation is for it yet.
    have hnone : ∀ (ref : ℕ) (operation : DurableOperation Job),
        (state.add job).operations[ref]? = some operation →
          operation.jobRecord.sortId ≠ state.previousId + 1 := by
      intro ref operation hmade
      have := consistent.taken ref operation hmade
      omega
    have hle : errorReports (state.previousId + 1) session ≤
        max 1 (queue.maxRetries.toNat + 1 - (0 : UInt64).toNat) :=
      (spent_of_session (consistent.add job) (Function.update_self _ _ _) hnone h' notKilled).le.2
    have hzero : (0 : UInt64).toNat = 0 := rfl
    omega

/-- The first attempt at a message fails: one failure, and nine retries left. -/
theorem waiting_after_first_error :
    ∃ (state : JobQueueState MessageSenderJob) (events : List (Event MessageSenderJob))
      (operation : DurableOperation MessageSenderJob),
      LabelledRun (Step messageSenderJobQueue) new events state ∧
        state.operations[0]? = some operation ∧ operation.progress = .waitingForRetry ∧
          ∃ jobRecord, state.records operation.jobRecord.sortId = some jobRecord ∧
            jobRecord.failureCount.toNat + operation.remainingRetries.toNat = 10 := by
  have added : LabelledRun (Step messageSenderJobQueue) new _ _ :=
    .single (.added ⟨some "one", some "c+15550001"⟩)
  have isSetup := (added.tail (.restartedOldJobs rfl)).tail (.isSetup rfl)
  have taken := isSetup.tail (.workStep (.ok ()))
  have started := taken.tail (@Step.started _ _ _ 0 _ rfl rfl
    ⟨fun earlier hlt => absurd hlt (Nat.not_lt_zero earlier), by decide⟩)
  have failed := started.tail (@Step.errorReported _ _ _ 0 _ ⟨false, true⟩ rfl rfl)
  have waiting := failed.tail (@Step.retryQueued _ _ _ 0 _ ⟨false, true⟩ rfl rfl (by decide))
  exact ⟨_, _, _, waiting, rfl, rfl, (retryBudget atLaunch_new waiting).1 0 _ rfl rfl⟩

end JobQueueState

end ObjcSwiftLearning.SignalServiceKit
