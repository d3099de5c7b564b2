import Mathlib.Data.List.AList
import Mathlib.Data.List.Perm.Basic
import Mathlib.Logic.Function.Basic
import ObjcSwiftLearning.Library.LabelledRun

/-!
# Background tasks

`OWSBackgroundTaskManager` keeps one background task of the system for all the
`OWSBackgroundTask` objects there are.  The manager and each object have a lock of their own;
what is done under one lock is a step, and so is each block that an expiration calls once it has
let go of the manager's lock.

* `BackgroundTasks.Step` — the threads, interleaved.
* `OWSBackgroundTaskManager.ensureBackgroundTaskState_cases` — what the manager can do about its
  background task.
* `BackgroundTaskChange.Accounted` — what every method that goes through it has in common.
-/

namespace ObjcSwiftLearning.SignalServiceKit

/-! ## The manager -/

/-- What is asked of the system. -/
inductive BackgroundRequest where
  /-- A background task is begun; no id is `UIBackgroundTaskInvalid`. -/
  | beginBackgroundTask (backgroundTaskId : Option ℕ)
  | endBackgroundTask (backgroundTaskId : ℕ)
deriving DecidableEq

namespace BackgroundRequest

/-- The id that a request obtained. -/
def begun : BackgroundRequest → Option ℕ
  | .beginBackgroundTask backgroundTaskId => backgroundTaskId
  | .endBackgroundTask _ => none

def ended : BackgroundRequest → Option ℕ
  | .beginBackgroundTask _ => none
  | .endBackgroundTask backgroundTaskId => some backgroundTaskId

end BackgroundRequest

/-- `OWSBackgroundTaskManager`.  The expiration block of a task is known by its object. -/
structure OWSBackgroundTaskManager where
  backgroundTaskId : Option ℕ
  expirationMap : AList fun _ : ℕ => ℕ
  idCounter : ℕ
  isAppActive : Bool
  continuityTimer : Bool

/-- What a method that begins or ends a background task leaves behind. -/
structure BackgroundTaskChange (α : Type) where
  returned : α
  manager : OWSBackgroundTaskManager
  requests : List BackgroundRequest

namespace OWSBackgroundTaskManager

variable (manager : OWSBackgroundTaskManager) (isMainApp : Bool) (answer : Option ℕ)

def initDefault (isMainAppAndActive : Bool) : OWSBackgroundTaskManager where
  backgroundTaskId := none
  expirationMap := ∅
  idCounter := 0
  isAppActive := isMainAppAndActive
  continuityTimer := false

/-- `shouldHaveBackgroundTask` in `ensureBackgroundTaskState`. -/
def shouldHaveBackgroundTask : Bool :=
  !manager.isAppActive && (decide (0 < manager.expirationMap.entries.length) ||
    manager.continuityTimer)

/-- `startBackgroundTask`, where the system gives this answer. -/
def startBackgroundTask : BackgroundTaskChange Bool where
  returned := answer.isSome
  manager := { manager with backgroundTaskId := answer }
  requests := [.beginBackgroundTask answer]

def ensureBackgroundTaskState : BackgroundTaskChange Bool :=
  -- Outside the main app it pretends that it succeeded.
  if !isMainApp then ⟨true, manager, []⟩
  else if manager.shouldHaveBackgroundTask = manager.backgroundTaskId.isSome then
    ⟨true, manager, []⟩
  else if manager.shouldHaveBackgroundTask then manager.startBackgroundTask answer
  else
    { returned := true
      manager := { manager with backgroundTaskId := none }
      requests := manager.backgroundTaskId.toList.map .endBackgroundTask }

def applicationDidBecomeActive : BackgroundTaskChange Bool :=
  { manager with isAppActive := true }.ensureBackgroundTaskState isMainApp answer

def applicationWillResignActive : BackgroundTaskChange Bool :=
  { manager with isAppActive := false }.ensureBackgroundTaskState isMainApp answer

def registered (task : ℕ) : OWSBackgroundTaskManager :=
  { manager with
    idCounter := manager.idCounter + 1
    expirationMap := manager.expirationMap.insert (manager.idCounter + 1) task }

def addTaskWithExpirationBlock (task : ℕ) : BackgroundTaskChange (Option ℕ) :=
  let taskId := manager.idCounter + 1
  let ensured := (manager.registered task).ensureBackgroundTaskState isMainApp answer
  if !ensured.returned then
    { returned := none
      manager :=
        { ensured.manager with expirationMap := ensured.manager.expirationMap.erase taskId }
      requests := ensured.requests }
  else
    { returned := some taskId
      manager := { ensured.manager with continuityTimer := false }
      requests := ensured.requests }

def removeTask (taskId : ℕ) : BackgroundTaskChange Bool :=
  { manager with
    expirationMap := manager.expirationMap.erase taskId
    continuityTimer := true }.ensureBackgroundTaskState isMainApp answer

def timerDidFire : BackgroundTaskChange Bool :=
  { manager with continuityTimer := false }.ensureBackgroundTaskState isMainApp answer

/-- `backgroundTaskExpired`, as far as it holds the lock. -/
def backgroundTaskExpired : OWSBackgroundTaskManager :=
  { manager with
    backgroundTaskId := none
    expirationMap := ∅ }

end OWSBackgroundTaskManager

/-! ## The objects -/

inductive BackgroundTaskState where
  | success
  | couldNotStart
  | expired
deriving DecidableEq

/-- How far `startBackgroundTask` of an object is. -/
inductive BackgroundTaskStart where
  /-- The manager is called next. -/
  | adding
  /-- It has returned; what it returned is stored next. -/
  | added (taskId : Option ℕ)
  /-- It is stored, and looked at next. -/
  | assigned
  | started
deriving DecidableEq

structure OWSBackgroundTask where
  taskId : Option ℕ
  /-- Whether `completionBlock` is there still. -/
  completionBlock : Bool
  /-- Whether it was made with one. -/
  hasCompletionBlock : Bool
  start : BackgroundTaskStart
  /-- Whether weak references to it are nil. -/
  isDeallocating : Bool
deriving DecidableEq

namespace OWSBackgroundTask

variable (task : OWSBackgroundTask)

/-- `initWithLabel:completionBlock:`, up to where it starts. -/
def initWithLabel (hasCompletionBlock : Bool) : OWSBackgroundTask where
  taskId := none
  completionBlock := hasCompletionBlock
  hasCompletionBlock
  start := .adding
  isDeallocating := false

/-- A task that has ended, expired, or could not start. -/
def IsOver : Prop :=
  task.start = .started ∧ task.taskId = none

/-- What remains when it gives up its id and its block. -/
def completed : OWSBackgroundTask :=
  { task with
    taskId := none
    completionBlock := false }

end OWSBackgroundTask

/-! ## The threads -/

/-- An expiration that has let go of the manager's lock. -/
structure BackgroundExpiration where
  backgroundTaskId : Option ℕ
  /-- The objects whose blocks it has yet to call. -/
  expirationMap : List ℕ

/-- The manager, the objects, and what is under way between them. -/
structure BackgroundTasks where
  manager : OWSBackgroundTaskManager
  tasks : ℕ → Option OWSBackgroundTask
  expirations : List BackgroundExpiration
  /-- Completion blocks that were dispatched to the main thread. -/
  mainQueue : List (ℕ × BackgroundTaskState)
  /-- The calls of completion blocks. -/
  completions : List (ℕ × BackgroundTaskState)
  /-- What the system was asked, oldest first. -/
  requests : List BackgroundRequest

namespace BackgroundTasks

variable (s : BackgroundTasks)

/-- At launch. -/
def initial (isMainAppAndActive : Bool) : BackgroundTasks where
  manager := .initDefault isMainAppAndActive
  tasks := fun _ => none
  expirations := []
  mainQueue := []
  completions := []
  requests := []

/-- The ids obtained from the system. -/
def begun : List ℕ :=
  s.requests.filterMap BackgroundRequest.begun

def ended : List ℕ :=
  s.requests.filterMap BackgroundRequest.ended

/-- The ids that expirations have yet to end. -/
def expiring : List ℕ :=
  s.expirations.filterMap (·.backgroundTaskId)

/-- How often a completion block was called or dispatched. -/
def completionCount (object : ℕ) : ℕ :=
  ((s.mainQueue ++ s.completions).map Prod.fst).count object

/-- The manager has done something. -/
def manage {α : Type} (change : BackgroundTaskChange α) : BackgroundTasks :=
  { s with
    manager := change.manager
    requests := s.requests ++ change.requests }

def setTask (object : ℕ) (task : OWSBackgroundTask) : BackgroundTasks :=
  { s with tasks := Function.update s.tasks object (some task) }

/-- `DispatchMainThreadSafe` with a completion block, if there is one. -/
def dispatchMainThreadSafe (isMainThread : Bool) (object : ℕ) (task : OWSBackgroundTask)
    (state : BackgroundTaskState) : BackgroundTasks :=
  if !task.completionBlock then s
  else if isMainThread then { s with completions := s.completions ++ [(object, state)] }
  else { s with mainQueue := s.mainQueue ++ [(object, state)] }

/-- `startBackgroundTask` of an object, once the id is stored. -/
def checkStarted (isMainThread : Bool) (object : ℕ) (task : OWSBackgroundTask) :
    BackgroundTasks :=
  if task.taskId.isSome then s.setTask object { task with start := .started }
  else
    (s.dispatchMainThreadSafe isMainThread object task .couldNotStart).setTask object
      { task with
        completionBlock := false
        start := .started }

def expirationBlock (object : ℕ) (task : OWSBackgroundTask) : BackgroundTasks :=
  if task.isDeallocating then s
  else if task.taskId.isNone then s
  else (s.dispatchMainThreadSafe true object task .expired).setTask object task.completed

/-- What happens. -/
inductive Event where
  | applicationDidBecomeActive
  | applicationWillResignActive
  | timerDidFire
  | taskCreated (object : ℕ)
  | taskAdded (object : ℕ)
  | taskIdAssigned (object : ℕ)
  | startChecked (object : ℕ)
  | taskEnded (object : ℕ)
  | taskDeallocating (object : ℕ)
  | backgroundTaskExpired
  | expirationBlockCalled (object : ℕ)
  | expirationFinished
  | completionBlockCalled (object : ℕ) (state : BackgroundTaskState)

/-- One step.  Ids that the system gives out are distinct. -/
inductive Step (isMainApp : Bool) : BackgroundTasks → Event → BackgroundTasks → Prop
  | applicationDidBecomeActive {s : BackgroundTasks} {answer : Option ℕ}
      (observed : isMainApp = true) (fresh : ∀ id ∈ answer, id ∉ s.begun) :
      Step isMainApp s .applicationDidBecomeActive
        (s.manage (s.manager.applicationDidBecomeActive isMainApp answer))
  | applicationWillResignActive {s : BackgroundTasks} {answer : Option ℕ}
      (observed : isMainApp = true) (fresh : ∀ id ∈ answer, id ∉ s.begun) :
      Step isMainApp s .applicationWillResignActive
        (s.manage (s.manager.applicationWillResignActive isMainApp answer))
  | timerDidFire {s : BackgroundTasks} {answer : Option ℕ}
      (fresh : ∀ id ∈ answer, id ∉ s.begun) :
      Step isMainApp s .timerDidFire (s.manage (s.manager.timerDidFire isMainApp answer))
  | taskCreated {s : BackgroundTasks} {object : ℕ} (hasCompletionBlock : Bool)
      (new : s.tasks object = none) :
      Step isMainApp s (.taskCreated object)
        (s.setTask object (.initWithLabel hasCompletionBlock))
  | taskAdded {s : BackgroundTasks} {object : ℕ} {task : OWSBackgroundTask} {answer : Option ℕ}
      (known : s.tasks object = some task) (stage : task.start = .adding)
      (fresh : ∀ id ∈ answer, id ∉ s.begun) :
      Step isMainApp s (.taskAdded object)
        ((s.manage (s.manager.addTaskWithExpirationBlock isMainApp answer object)).setTask object
          { task with
            start :=
              .added (s.manager.addTaskWithExpirationBlock isMainApp answer object).returned })
  | taskIdAssigned {s : BackgroundTasks} {object : ℕ} {task : OWSBackgroundTask}
      {taskId : Option ℕ} (known : s.tasks object = some task)
      (stage : task.start = .added taskId) :
      Step isMainApp s (.taskIdAssigned object)
        (s.setTask object
          { task with
            taskId
            start := .assigned })
  | startChecked {s : BackgroundTasks} {object : ℕ} {task : OWSBackgroundTask}
      (isMainThread : Bool) (known : s.tasks object = some task)
      (stage : task.start = .assigned) :
      Step isMainApp s (.startChecked object) (s.checkStarted isMainThread object task)
  | taskEnded {s : BackgroundTasks} {object taskId : ℕ} {task : OWSBackgroundTask}
      {answer : Option ℕ} (isMainThread : Bool) (known : s.tasks object = some task)
      (stage : task.start = .started) (live : task.taskId = some taskId)
      (fresh : ∀ id ∈ answer, id ∉ s.begun) :
      Step isMainApp s (.taskEnded object)
        (((s.manage (s.manager.removeTask isMainApp answer taskId)).dispatchMainThreadSafe
          isMainThread object task .success).setTask object task.completed)
  | taskDeallocating {s : BackgroundTasks} {object : ℕ} {task : OWSBackgroundTask}
      (known : s.tasks object = some task) (stage : task.start = .started) :
      Step isMainApp s (.taskDeallocating object)
        (s.setTask object { task with isDeallocating := true })
  | backgroundTaskExpired {s : BackgroundTasks} {backgroundTaskId : ℕ}
      (begun : backgroundTaskId ∈ s.begun) :
      Step isMainApp s .backgroundTaskExpired
        { s with
          manager := s.manager.backgroundTaskExpired
          expirations := s.expirations ++
            [⟨s.manager.backgroundTaskId, s.manager.expirationMap.entries.map (·.snd)⟩] }
  | expirationBlockCalled {s : BackgroundTasks} {object : ℕ} {task : OWSBackgroundTask}
      {earlier later : List BackgroundExpiration} {expiration : BackgroundExpiration}
      (expirations : s.expirations = earlier ++ expiration :: later)
      (pending : object ∈ expiration.expirationMap) (known : s.tasks object = some task) :
      Step isMainApp s (.expirationBlockCalled object)
        { s.expirationBlock object task with
          expirations := earlier ++
            { expiration with expirationMap := expiration.expirationMap.erase object } :: later }
  | expirationFinished {s : BackgroundTasks} {backgroundTaskId : Option ℕ}
      {earlier later : List BackgroundExpiration}
      (expirations : s.expirations = earlier ++ ⟨backgroundTaskId, []⟩ :: later) :
      Step isMainApp s .expirationFinished
        { s with
          expirations := earlier ++ later
          requests := s.requests ++ backgroundTaskId.toList.map .endBackgroundTask }
  | completionBlockCalled {s : BackgroundTasks} {object : ℕ} {state : BackgroundTaskState}
      {earlier later : List (ℕ × BackgroundTaskState)}
      (queued : s.mainQueue = earlier ++ (object, state) :: later) :
      Step isMainApp s (.completionBlockCalled object state)
        { s with
          mainQueue := earlier ++ later
          completions := s.completions ++ [(object, state)] }

/-! ## What the objects leave alone -/

variable {s : BackgroundTasks} {isMainThread : Bool} {object : ℕ} {task : OWSBackgroundTask}
  {state : BackgroundTaskState}

@[simp] theorem manager_dispatchMainThreadSafe :
    (s.dispatchMainThreadSafe isMainThread object task state).manager = s.manager := by
  rw [dispatchMainThreadSafe]
  split
  · rfl
  · split <;> rfl

@[simp] theorem requests_dispatchMainThreadSafe :
    (s.dispatchMainThreadSafe isMainThread object task state).requests = s.requests := by
  rw [dispatchMainThreadSafe]
  split
  · rfl
  · split <;> rfl

@[simp] theorem expirations_dispatchMainThreadSafe :
    (s.dispatchMainThreadSafe isMainThread object task state).expirations = s.expirations := by
  rw [dispatchMainThreadSafe]
  split
  · rfl
  · split <;> rfl

@[simp] theorem tasks_dispatchMainThreadSafe :
    (s.dispatchMainThreadSafe isMainThread object task state).tasks = s.tasks := by
  rw [dispatchMainThreadSafe]
  split
  · rfl
  · split <;> rfl

@[simp] theorem manager_expirationBlock : (s.expirationBlock object task).manager = s.manager := by
  rw [expirationBlock]
  split
  · rfl
  · split
    · rfl
    · exact manager_dispatchMainThreadSafe

@[simp] theorem requests_expirationBlock :
    (s.expirationBlock object task).requests = s.requests := by
  rw [expirationBlock]
  split
  · rfl
  · split
    · rfl
    · exact requests_dispatchMainThreadSafe

end BackgroundTasks

/-! ## What a method of the manager does -/

namespace OWSBackgroundTaskManager

variable {manager : OWSBackgroundTaskManager} {isMainApp : Bool} {answer : Option ℕ}

/-- It leaves everything, begins a background task, or ends the one it holds. -/
theorem ensureBackgroundTaskState_cases :
    (manager.ensureBackgroundTaskState isMainApp answer = ⟨true, manager, []⟩ ∧
      (isMainApp = true → manager.shouldHaveBackgroundTask = manager.backgroundTaskId.isSome)) ∨
    (isMainApp = true ∧ manager.shouldHaveBackgroundTask = true ∧
      manager.backgroundTaskId = none ∧
      manager.ensureBackgroundTaskState isMainApp answer =
        ⟨answer.isSome, { manager with backgroundTaskId := answer },
          [.beginBackgroundTask answer]⟩) ∨
    ∃ id, isMainApp = true ∧ manager.shouldHaveBackgroundTask = false ∧
      manager.backgroundTaskId = some id ∧
      manager.ensureBackgroundTaskState isMainApp answer =
        ⟨true, { manager with backgroundTaskId := none }, [.endBackgroundTask id]⟩ := by
  cases isMainApp with
  | false => exact .inl ⟨rfl, fun h => absurd h (by decide)⟩
  | true =>
      rw [ensureBackgroundTaskState]
      cases hshould : manager.shouldHaveBackgroundTask with
      | false =>
          cases hheld : manager.backgroundTaskId with
          | none => exact .inl (by simp)
          | some id => exact .inr (.inr ⟨id, by simp⟩)
      | true =>
          cases hheld : manager.backgroundTaskId with
          | none => exact .inr (.inl (by simp [startBackgroundTask]))
          | some id => exact .inl (by simp)

end OWSBackgroundTaskManager

namespace BackgroundTaskChange

variable {α : Type}

/-- What a method does about background tasks, from a manager that holds `held`. -/
structure Accounted (change : BackgroundTaskChange α) (isMainApp : Bool) (held answer : Option ℕ) :
    Prop where
  /-- What it held or has begun it holds or has ended. -/
  balance : ∀ id, held.toList.count id +
      (change.requests.filterMap BackgroundRequest.begun).count id =
    change.manager.backgroundTaskId.toList.count id +
      (change.requests.filterMap BackgroundRequest.ended).count id
  begun : change.requests.filterMap BackgroundRequest.begun = [] ∨
    ∃ id, answer = some id ∧ change.requests.filterMap BackgroundRequest.begun = [id]
  /-- It begins none while it holds one. -/
  free : ∀ id, .beginBackgroundTask id ∈ change.requests → held = none
  /-- Unless it could not begin one, it holds one rightly. -/
  right : isMainApp = true → .beginBackgroundTask none ∉ change.requests →
    change.manager.backgroundTaskId.isSome = change.manager.shouldHaveBackgroundTask
  extension : isMainApp = false →
    change.requests = [] ∧ change.manager.backgroundTaskId = held

end BackgroundTaskChange

namespace OWSBackgroundTaskManager

variable {manager : OWSBackgroundTaskManager} {isMainApp : Bool} {answer : Option ℕ}

theorem accounted_ensureBackgroundTaskState :
    (manager.ensureBackgroundTaskState isMainApp answer).Accounted isMainApp
      manager.backgroundTaskId answer := by
  rcases @ensureBackgroundTaskState_cases manager isMainApp answer with
    ⟨heq, hright⟩ | ⟨hmain, hshould, hheld, heq⟩ | ⟨id, hmain, hshould, hheld, heq⟩
  · rw [heq]
    exact ⟨by simp, by simp, by simp, fun hmain _ => (hright hmain).symm, by simp⟩
  · rw [heq, hheld]
    refine ⟨?_, ?_, by simp, ?_, by simp [hmain]⟩
    · intro id
      cases answer <;> simp [List.filterMap_cons, BackgroundRequest.begun, BackgroundRequest.ended]
    · cases answer <;> simp [List.filterMap_cons, BackgroundRequest.begun]
    · intro _ hbegun
      cases answer with
      | none => simp at hbegun
      | some id => exact hshould.symm
  · rw [heq, hheld]
    refine ⟨?_, .inl rfl, by simp, fun _ _ => ?_, by simp [hmain]⟩
    · intro id
      simp [List.filterMap_cons, BackgroundRequest.begun, BackgroundRequest.ended]
    · exact hshould.symm

theorem accounted_applicationDidBecomeActive :
    (manager.applicationDidBecomeActive isMainApp answer).Accounted isMainApp
      manager.backgroundTaskId answer :=
  accounted_ensureBackgroundTaskState

theorem accounted_applicationWillResignActive :
    (manager.applicationWillResignActive isMainApp answer).Accounted isMainApp
      manager.backgroundTaskId answer :=
  accounted_ensureBackgroundTaskState

theorem accounted_timerDidFire :
    (manager.timerDidFire isMainApp answer).Accounted isMainApp manager.backgroundTaskId answer :=
  accounted_ensureBackgroundTaskState

theorem accounted_removeTask {taskId : ℕ} :
    (manager.removeTask isMainApp answer taskId).Accounted isMainApp manager.backgroundTaskId
      answer :=
  accounted_ensureBackgroundTaskState

theorem ensureBackgroundTaskState_manager :
    (manager.ensureBackgroundTaskState isMainApp answer).manager =
      { manager with
        backgroundTaskId :=
          (manager.ensureBackgroundTaskState isMainApp answer).manager.backgroundTaskId } := by
  rcases @ensureBackgroundTaskState_cases manager isMainApp answer with
    ⟨heq, -⟩ | ⟨-, -, -, heq⟩ | ⟨id, -, -, -, heq⟩
  all_goals rw [heq]

/-- It fails where the system begins none. -/
theorem beginBackgroundTask_of_not_returned
    (h : (manager.ensureBackgroundTaskState isMainApp answer).returned = false) :
    .beginBackgroundTask none ∈ (manager.ensureBackgroundTaskState isMainApp answer).requests := by
  rcases @ensureBackgroundTaskState_cases manager isMainApp answer with
    ⟨heq, -⟩ | ⟨-, -, -, heq⟩ | ⟨id, -, -, -, heq⟩
  all_goals rw [heq] at h ⊢
  · cases h
  · cases answer with
    | none => exact List.mem_singleton_self _
    | some id => cases h
  · cases h

theorem shouldHaveBackgroundTask_registered {task : ℕ} {backgroundTaskId : Option ℕ}
    {continuityTimer : Bool} :
    { manager.registered task with backgroundTaskId, continuityTimer }.shouldHaveBackgroundTask =
      (manager.registered task).shouldHaveBackgroundTask := by
  simp [shouldHaveBackgroundTask, registered]

theorem accounted_addTaskWithExpirationBlock {task : ℕ} :
    (manager.addTaskWithExpirationBlock isMainApp answer task).Accounted isMainApp
      manager.backgroundTaskId answer := by
  have h : ((manager.registered task).ensureBackgroundTaskState isMainApp answer).Accounted
      isMainApp manager.backgroundTaskId answer :=
    @accounted_ensureBackgroundTaskState (manager.registered task) isMainApp answer
  have hmanager := @ensureBackgroundTaskState_manager (manager.registered task) isMainApp answer
  rw [addTaskWithExpirationBlock]
  cases hreturned :
      ((manager.registered task).ensureBackgroundTaskState isMainApp answer).returned with
  | false =>
      have hfailed := beginBackgroundTask_of_not_returned hreturned
      simp only [Bool.not_false, if_true]
      exact { h with right := fun _ hbegun => absurd hfailed hbegun }
  | true =>
      simp only [Bool.not_true, Bool.false_eq_true, if_false]
      refine { h with right := fun hmain hbegun => ?_ }
      have hright := h.right hmain hbegun
      rw [hmanager] at hright ⊢
      exact hright.trans (shouldHaveBackgroundTask_registered.trans
        shouldHaveBackgroundTask_registered.symm)

@[simp] theorem expirationMap_ensureBackgroundTaskState :
    (manager.ensureBackgroundTaskState isMainApp answer).manager.expirationMap =
      manager.expirationMap := by
  rw [ensureBackgroundTaskState_manager]

@[simp] theorem idCounter_ensureBackgroundTaskState :
    (manager.ensureBackgroundTaskState isMainApp answer).manager.idCounter =
      manager.idCounter := by
  rw [ensureBackgroundTaskState_manager]

theorem addTaskWithExpirationBlock_cases {task : ℕ} :
    ((manager.addTaskWithExpirationBlock isMainApp answer task).returned =
        some (manager.idCounter + 1) ∧
      (manager.addTaskWithExpirationBlock isMainApp answer task).manager.expirationMap =
        manager.expirationMap.insert (manager.idCounter + 1) task) ∨
    ((manager.addTaskWithExpirationBlock isMainApp answer task).returned = none ∧
      (manager.addTaskWithExpirationBlock isMainApp answer task).manager.expirationMap =
        (manager.expirationMap.insert (manager.idCounter + 1) task).erase
          (manager.idCounter + 1)) := by
  rw [addTaskWithExpirationBlock]
  cases ((manager.registered task).ensureBackgroundTaskState isMainApp answer).returned with
  | false => exact .inr ⟨rfl, by simp [registered]⟩
  | true => exact .inl ⟨rfl, by simp [registered]⟩

theorem lookup_addTaskWithExpirationBlock {task taskId : ℕ} :
    (manager.addTaskWithExpirationBlock isMainApp answer task).manager.expirationMap.lookup taskId =
      if taskId = manager.idCounter + 1 then
        (manager.addTaskWithExpirationBlock isMainApp answer task).returned.map fun _ => task
      else manager.expirationMap.lookup taskId := by
  rcases @addTaskWithExpirationBlock_cases manager isMainApp answer task with
    ⟨hreturned, hmap⟩ | ⟨hreturned, hmap⟩
  · rw [hmap, hreturned]
    split
    · next heq => rw [heq, AList.lookup_insert, Option.map_some]
    · next hne => exact AList.lookup_insert_ne hne
  · rw [hmap, hreturned]
    split
    · next heq => rw [heq, AList.lookup_erase, Option.map_none]
    · next hne => rw [AList.lookup_erase_ne hne, AList.lookup_insert_ne hne]

theorem idCounter_addTaskWithExpirationBlock {task : ℕ} :
    (manager.addTaskWithExpirationBlock isMainApp answer task).manager.idCounter =
      manager.idCounter + 1 := by
  rw [addTaskWithExpirationBlock]
  cases ((manager.registered task).ensureBackgroundTaskState isMainApp answer).returned with
  | false => simp [registered]
  | true => simp [registered]

end OWSBackgroundTaskManager

end ObjcSwiftLearning.SignalServiceKit
