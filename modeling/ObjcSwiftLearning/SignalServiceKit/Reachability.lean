import Mathlib.Data.List.Nodup
import ObjcSwiftLearning.SignalServiceKit.JobQueue

/-!
# When the app becomes reachable

A queue that requires internet does not leave its operations to their retry timers when the
network is back: `becameReachable()` takes away a timer and runs the operation at once.  It does
so for the first of the running operations, and for no other.

* `JobQueueState.becameReachable` — the method, and which operations it runs.
* `JobQueueState.wakesWaiting_iff` — **when it wakes all that wait**.
-/

namespace ObjcSwiftLearning.SignalServiceKit

namespace JobQueueState

variable {Job : Type} (queue : JobQueue Job) (state : JobQueueState Job)

/-- An operation that waits for its `retryTimer`. -/
def IsWaiting (ref : ℕ) : Prop :=
  ∃ operation, state.operations[ref]? = some operation ∧ operation.progress = .waitingForRetry

/-- `runAnyQueuedRetry`, and the operations whose `run` it calls. -/
def runAnyQueuedRetry (ref : ℕ) : JobQueueState Job × List ℕ :=
  match state.operations[ref]? with
  | none => (state, [])
  | some operation =>
      if operation.progress = .waitingForRetry then
        (state.setOperation ref { operation with progress := .running }, [ref])
      else (state, [])

/-- `becameReachable()`, and the operations that it runs. -/
def becameReachable : JobQueueState Job × List ℕ :=
  if queue.requiresInternet = false then (state, [])
  else
    match state.runningOperations.head? with
    | none => (state, [])
    | some ref => state.runAnyQueuedRetry ref

/-- **All that wait are woken**: none of the running operations waits any longer, and those that
waited have been run, each once, and no other. -/
structure WakesWaiting (after : JobQueueState Job) (runs : List ℕ) : Prop where
  noneWaiting : ∀ ref ∈ state.runningOperations, ¬after.IsWaiting ref
  runs_iff : ∀ ref, ref ∈ runs ↔ ref ∈ state.runningOperations ∧ state.IsWaiting ref
  once : runs.Nodup

variable {queue state} {ref : ℕ} {operation : DurableOperation Job}

theorem runAnyQueuedRetry_of_waiting (made : state.operations[ref]? = some operation)
    (waiting : operation.progress = .waitingForRetry) :
    state.runAnyQueuedRetry ref =
      (state.setOperation ref { operation with progress := .running }, [ref]) := by
  rw [runAnyQueuedRetry, made]
  exact if_pos waiting

theorem runAnyQueuedRetry_of_not_waiting (h : ¬state.IsWaiting ref) :
    state.runAnyQueuedRetry ref = (state, []) := by
  rw [runAnyQueuedRetry]
  cases made : state.operations[ref]? with
  | none => rfl
  | some operation =>
      refine if_neg fun waiting => h ⟨operation, made, waiting⟩

/-- An operation that is woken is waiting no longer, and the others do what they did. -/
theorem isWaiting_setOperation (made : state.operations[ref]? = some operation) (other : ℕ) :
    (state.setOperation ref { operation with progress := .running }).IsWaiting other ↔
      other ≠ ref ∧ state.IsWaiting other := by
  rw [IsWaiting, setOperation]
  simp only [getElem?_set_operations made]
  by_cases hother : other = ref
  · simp [hother]
  · simp [hother, IsWaiting]

/-- **When all that wait are woken**: when no other running operation waits than the first. -/
theorem wakesWaiting_iff (requiresInternet : queue.requiresInternet = true) :
    state.WakesWaiting (state.becameReachable queue).1 (state.becameReachable queue).2 ↔
      ∀ ref ∈ state.runningOperations, state.IsWaiting ref →
        state.runningOperations.head? = some ref := by
  rw [becameReachable, requiresInternet, if_neg (by decide)]
  cases hrunning : state.runningOperations with
  | nil =>
      refine iff_of_true ⟨?_, ?_, List.nodup_nil⟩ ?_
      · simp [hrunning]
      · simp [hrunning]
      · simp
  | cons first refs =>
      rw [List.head?_cons]
      dsimp only
      -- Only the first running operation is asked to run its queued retry.
      by_cases hfirst : state.IsWaiting first
      · obtain ⟨operation, made, waiting⟩ := hfirst
        rw [runAnyQueuedRetry_of_waiting made waiting]
        constructor
        · intro h ref hmem hwaiting
          have hrun := (h.runs_iff ref).mpr ⟨hrunning ▸ hmem, hwaiting⟩
          rw [List.mem_singleton.mp hrun]
        · intro h
          refine ⟨fun ref hmem hwaiting => ?_, fun ref => ?_, List.nodup_singleton first⟩
          · rw [isWaiting_setOperation made] at hwaiting
            exact hwaiting.1 (Option.some.inj (h ref (hrunning ▸ hmem) hwaiting.2)).symm
          · rw [List.mem_singleton, hrunning]
            constructor
            · rintro rfl
              exact ⟨List.mem_cons_self, operation, made, waiting⟩
            · rintro ⟨hmem, hwaiting⟩
              exact (Option.some.inj (h ref hmem hwaiting)).symm
      · rw [runAnyQueuedRetry_of_not_waiting hfirst]
        constructor
        · intro h ref hmem hwaiting
          exact absurd hwaiting (h.noneWaiting ref (hrunning ▸ hmem))
        · intro h
          have hnone : ∀ ref ∈ state.runningOperations, ¬state.IsWaiting ref := by
            intro ref hmem hwaiting
            obtain rfl := Option.some.inj (h ref (hrunning ▸ hmem) hwaiting)
            exact hfirst hwaiting
          refine ⟨hnone, fun ref => ?_, List.nodup_nil⟩
          refine iff_of_false (List.not_mem_nil) ?_
          rintro ⟨hmem, hwaiting⟩
          exact hnone ref hmem hwaiting

/-- Messages of a thread each, sent again after a failure. -/
def sampleRetries (jobs : List (String × OperationProgress)) : JobQueueState MessageSenderJob where
  records := fun _ => none
  previousId := jobs.length
  setup := .isSetup
  operations := jobs.zipIdx.map fun entry =>
    { jobRecord :=
        { sortId := entry.2 + 1, status := .running, failureCount := 1
          job := ⟨none, some entry.1.1⟩ }
      remainingRetries := 9
      progress := entry.1.2 }
  runningOperations := List.range jobs.length

/-- The first message waits and is woken, while the second is being sent. -/
theorem wakesWaiting_iff_sample :
    let state := sampleRetries [("c+1", .waitingForRetry), ("c+2", .running)]
    state.WakesWaiting (state.becameReachable messageSenderJobQueue).1
      (state.becameReachable messageSenderJobQueue).2 := by
  refine (wakesWaiting_iff rfl).mpr fun ref hmem ⟨operation, made, waiting⟩ => ?_
  have hlt : ref < 2 := List.mem_range.mp hmem
  obtain rfl | rfl : ref = 0 ∨ ref = 1 := by omega
  · rfl
  · cases made
    cases waiting

/-- Of two messages in two threads, the second is left to its timer. -/
theorem second_not_woken :
    let state := sampleRetries [("c+1", .waitingForRetry), ("c+2", .waitingForRetry)]
    ¬state.WakesWaiting (state.becameReachable messageSenderJobQueue).1
      (state.becameReachable messageSenderJobQueue).2 := by
  intro state h
  exact h.noneWaiting 1 (by decide) ⟨_, rfl, rfl⟩

end JobQueueState

end ObjcSwiftLearning.SignalServiceKit
