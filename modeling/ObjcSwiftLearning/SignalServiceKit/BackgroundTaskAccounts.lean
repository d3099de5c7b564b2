import ObjcSwiftLearning.SignalServiceKit.BackgroundTasks

/-!
# Background tasks are accounted for

Three accounts are kept by every step, and none of them is a guard of one.

* `BackgroundTasks.Balanced` — every id obtained is held, in the hands of an expiration, or ended.
* `BackgroundTasks.Completes` — every completion block is there still, or was called or
  dispatched.
* `BackgroundTasks.Registered` — the map of the manager and the ids of the objects agree, but for
  what an expiration took.
* `BackgroundTasks.background_tasks_accounted` — what follows for all runs, and for their steps.
* `BackgroundTasks.extension_holds_no_background_task` — an app extension begins none.
-/

namespace ObjcSwiftLearning.SignalServiceKit

/-! ## The ids -/

namespace BackgroundTasks

variable {isMainApp : Bool} {s s' : BackgroundTasks} {event : Event} {events : List Event}
  {state : BackgroundTaskState} {task : OWSBackgroundTask} {isMainThread : Bool} {object : ℕ}

/-- Every id obtained is held, in the hands of an expiration, or ended. -/
structure Balanced (isMainApp : Bool) (s : BackgroundTasks) : Prop where
  balance : ∀ id, s.begun.count id =
    s.ended.count id + s.manager.backgroundTaskId.toList.count id + s.expiring.count id
  nodup : s.begun.Nodup
  extension : isMainApp = false → s.requests = []

/-- What a step makes of the ids follows from its requests, from what the manager holds and from
the expirations. -/
theorem Balanced.of_eq (h : s.Balanced isMainApp) (hrequests : s'.requests = s.requests)
    (hheld : s'.manager.backgroundTaskId = s.manager.backgroundTaskId)
    (hexpiring : s'.expiring = s.expiring) : s'.Balanced isMainApp := by
  have hbegun : s'.begun = s.begun := by rw [begun, hrequests, begun]
  have hended : s'.ended = s.ended := by rw [ended, hrequests, ended]
  exact ⟨fun id => by rw [hbegun, hended, hheld, hexpiring, h.balance], hbegun ▸ h.nodup,
    fun hmain => hrequests.trans (h.extension hmain)⟩

/-- The manager keeps its accounts. -/
theorem Balanced.manage {α : Type} {change : BackgroundTaskChange α} {answer : Option ℕ}
    (h : s.Balanced isMainApp)
    (hchange : change.Accounted isMainApp s.manager.backgroundTaskId answer)
    (fresh : ∀ id ∈ answer, id ∉ s.begun) : (s.manage change).Balanced isMainApp := by
  have hbegun : (s.manage change).begun =
      s.begun ++ change.requests.filterMap BackgroundRequest.begun := List.filterMap_append
  have hended : (s.manage change).ended =
      s.ended ++ change.requests.filterMap BackgroundRequest.ended := List.filterMap_append
  refine ⟨fun id => ?_, ?_, fun hmain => ?_⟩
  · have hbalance := h.balance id
    have hmanager := hchange.balance id
    have hexpiring : (s.manage change).expiring = s.expiring := rfl
    rw [hbegun, hended, hexpiring, List.count_append, List.count_append]
    change _ = _ + change.manager.backgroundTaskId.toList.count id + _
    omega
  · rw [hbegun]
    rcases hchange.begun with hnone | ⟨id, hanswer, hone⟩
    · rw [hnone, List.append_nil]
      exact h.nodup
    · rw [hone]
      refine List.nodup_append'.mpr ⟨h.nodup, List.nodup_singleton _, ?_⟩
      exact List.disjoint_singleton.mpr (fresh id hanswer)
  · change s.requests ++ change.requests = []
    rw [h.extension hmain, (hchange.extension hmain).1, List.append_nil]

theorem Balanced.setTask (h : s.Balanced isMainApp) : (s.setTask object task).Balanced isMainApp :=
  h.of_eq rfl rfl rfl

theorem Balanced.dispatchMainThreadSafe (h : s.Balanced isMainApp) :
    (s.dispatchMainThreadSafe isMainThread object task state).Balanced isMainApp :=
  h.of_eq (by simp) (by simp) (by simp [expiring])

theorem balanced_initial {isMainAppAndActive : Bool} :
    (initial isMainAppAndActive).Balanced isMainApp where
  balance _ := rfl
  nodup := List.nodup_nil
  extension _ := rfl

/-- **Each step keeps the accounts of the ids.** -/
theorem Balanced.step (h : s.Balanced isMainApp) (hstep : Step isMainApp s event s') :
    s'.Balanced isMainApp := by
  cases hstep with
  | applicationDidBecomeActive observed fresh =>
      exact h.manage OWSBackgroundTaskManager.accounted_applicationDidBecomeActive fresh
  | applicationWillResignActive observed fresh =>
      exact h.manage OWSBackgroundTaskManager.accounted_applicationWillResignActive fresh
  | timerDidFire fresh => exact h.manage OWSBackgroundTaskManager.accounted_timerDidFire fresh
  | taskCreated hasCompletionBlock new => exact h.setTask
  | taskAdded known stage fresh =>
      exact (h.manage OWSBackgroundTaskManager.accounted_addTaskWithExpirationBlock fresh).setTask
  | taskIdAssigned known stage => exact h.setTask
  | startChecked isMainThread known stage =>
      rw [checkStarted]
      split
      · exact h.setTask
      · exact h.dispatchMainThreadSafe.setTask
  | taskEnded isMainThread known stage live fresh =>
      exact (h.manage OWSBackgroundTaskManager.accounted_removeTask
        fresh).dispatchMainThreadSafe.setTask
  | taskDeallocating known stage => exact h.setTask
  | backgroundTaskExpired begun =>
      -- The id changes hands.
      refine ⟨fun id => ?_, h.nodup, h.extension⟩
      have hbalance := h.balance id
      have hexpiring : ({ s with
          manager := s.manager.backgroundTaskExpired
          expirations := s.expirations ++ [⟨s.manager.backgroundTaskId,
            s.manager.expirationMap.entries.map (·.snd)⟩] } : BackgroundTasks).expiring =
          s.expiring ++ s.manager.backgroundTaskId.toList := by
        rw [expiring, List.filterMap_append]
        cases s.manager.backgroundTaskId <;> rfl
      rw [hexpiring, List.count_append]
      change s.begun.count id = s.ended.count id + 0 + _
      omega
  | @expirationBlockCalled object task earlier later expiration expirations pending known =>
      refine h.of_eq requests_expirationBlock (congrArg _ manager_expirationBlock) ?_
      simp [expiring, expirations, List.filterMap_cons]
  | @expirationFinished backgroundTaskId earlier later expirations =>
      have hexpiring : s.expiring = earlier.filterMap (·.backgroundTaskId) ++
          (backgroundTaskId.toList ++ later.filterMap (·.backgroundTaskId)) := by
        rw [expiring, expirations, List.filterMap_append]
        cases backgroundTaskId <;> rfl
      have hbegun : (s.requests ++ backgroundTaskId.toList.map
          BackgroundRequest.endBackgroundTask).filterMap BackgroundRequest.begun = s.begun := by
        rw [List.filterMap_append, begun]
        cases backgroundTaskId <;> simp [List.filterMap_cons, BackgroundRequest.begun]
      have hended : (s.requests ++ backgroundTaskId.toList.map
          BackgroundRequest.endBackgroundTask).filterMap BackgroundRequest.ended =
            s.ended ++ backgroundTaskId.toList := by
        rw [List.filterMap_append, ended]
        cases backgroundTaskId <;> simp [BackgroundRequest.ended]
      refine ⟨fun id => ?_, ?_, fun hmain => ?_⟩
      · have hbalance := h.balance id
        rw [hexpiring] at hbalance
        rw [begun, ended, expiring, hbegun, hended]
        simp only [List.filterMap_append, List.count_append] at hbalance ⊢
        omega
      · rw [begun, hbegun]
        exact h.nodup
      · have hnone := h.extension hmain
        cases backgroundTaskId with
        | none => simpa using hnone
        | some id =>
            have hbalance := h.balance id
            have hbegun : s.begun = [] := by rw [begun, hnone]; rfl
            rw [hbegun, hexpiring] at hbalance
            simp at hbalance
  | completionBlockCalled queued => exact h.of_eq rfl rfl rfl

/-! ## The completion blocks -/

/-- Every completion block is there still, or was called or dispatched. -/
structure Completes (s : BackgroundTasks) : Prop where
  balance : ∀ object task, s.tasks object = some task →
    s.completionCount object + task.completionBlock.toNat = task.hasCompletionBlock.toNat
  uncreated : ∀ object, s.tasks object = none → s.completionCount object = 0
  released : ∀ object task, s.tasks object = some task → task.IsOver → task.completionBlock = false

/-- The completion blocks depend on the objects and on the calls. -/
theorem Completes.of_eq (h : s.Completes) (htasks : s'.tasks = s.tasks)
    (hcount : ∀ object, s'.completionCount object = s.completionCount object) :
    s'.Completes where
  balance object task known := by rw [hcount, h.balance object task (htasks ▸ known)]
  uncreated object unknown := by rw [hcount, h.uncreated object (htasks ▸ unknown)]
  released object task known := h.released object task (htasks ▸ known)

/-- One object changes, and its block is called or dispatched as often as it goes. -/
theorem Completes.of_setTask {object : ℕ} {task : OWSBackgroundTask} (h : s.Completes)
    (htasks : s'.tasks = Function.update s.tasks object (some task))
    (hother : ∀ other, other ≠ object → s'.completionCount other = s.completionCount other)
    (hcount : s'.completionCount object + task.completionBlock.toNat =
      task.hasCompletionBlock.toNat)
    (hover : task.IsOver → task.completionBlock = false) : s'.Completes where
  balance other changed known := by
    rw [htasks] at known
    by_cases heq : other = object
    · subst heq
      rw [Function.update_self] at known
      obtain rfl := Option.some.inj known
      exact hcount
    · rw [Function.update_of_ne heq] at known
      rw [hother other heq, h.balance other changed known]
  uncreated other unknown := by
    rw [htasks] at unknown
    by_cases heq : other = object
    · subst heq
      rw [Function.update_self] at unknown
      cases unknown
    · rw [Function.update_of_ne heq] at unknown
      rw [hother other heq, h.uncreated other unknown]
  released other changed known := by
    rw [htasks] at known
    by_cases heq : other = object
    · subst heq
      rw [Function.update_self] at known
      obtain rfl := Option.some.inj known
      exact hover
    · rw [Function.update_of_ne heq] at known
      exact h.released other changed known

theorem completionCount_dispatchMainThreadSafe {object other : ℕ} :
    (s.dispatchMainThreadSafe isMainThread object task state).completionCount other =
      s.completionCount other + if other = object then task.completionBlock.toNat else 0 := by
  rw [dispatchMainThreadSafe]
  cases task.completionBlock with
  | false => simp
  | true =>
      cases isMainThread with
      | false =>
          simp only [completionCount, Bool.not_true, Bool.false_eq_true, if_false,
            List.map_append, List.count_append]
          by_cases heq : other = object
          · simp only [heq, List.map_cons, List.map_nil, List.count_singleton_self, if_true,
              Bool.toNat_true]
            omega
          · simp [heq, Ne.symm heq]
      | true =>
          simp only [completionCount, Bool.not_true, Bool.false_eq_true, if_false, if_true,
            List.map_append, List.count_append]
          by_cases heq : other = object
          · simp only [heq, List.map_cons, List.map_nil, List.count_singleton_self, if_true,
              Bool.toNat_true]
            omega
          · simp [heq, Ne.symm heq]

theorem completes_initial {isMainAppAndActive : Bool} :
    (initial isMainAppAndActive).Completes where
  balance object task known := by cases known
  uncreated _ _ := rfl
  released object task known := by cases known

/-- **An object that gives up its block** has called or dispatched it. -/
theorem Completes.complete {task task' : OWSBackgroundTask} (h : s.Completes)
    (known : s.tasks object = some task) (hblock : task'.completionBlock = false)
    (hhas : task'.hasCompletionBlock = task.hasCompletionBlock) :
    ((s.dispatchMainThreadSafe isMainThread object task state).setTask object task').Completes := by
  refine @Completes.of_setTask s _ object task' h ?_ ?_ ?_ fun _ => hblock
  · simp [setTask]
  · intro other hne
    exact completionCount_dispatchMainThreadSafe.trans (by simp [hne])
  · have hbalance := h.balance object task known
    have hcount : ((s.dispatchMainThreadSafe isMainThread object task state).setTask object
        task').completionCount object = s.completionCount object + task.completionBlock.toNat :=
      completionCount_dispatchMainThreadSafe.trans (by simp)
    rw [hcount, hblock, hhas, hbalance]
    rfl

/-- An object that keeps its block. -/
theorem Completes.setTask {task task' : OWSBackgroundTask} (h : s.Completes)
    (known : s.tasks object = some task) (hblock : task'.completionBlock = task.completionBlock)
    (hhas : task'.hasCompletionBlock = task.hasCompletionBlock)
    (hover : task'.IsOver → task'.completionBlock = false) : (s.setTask object task').Completes :=
  h.of_setTask rfl (fun _ _ => rfl) (by rw [hblock, hhas]; exact h.balance object task known) hover

/-- **Each step keeps the accounts of the completion blocks.** -/
theorem Completes.step (h : s.Completes) (hstep : Step isMainApp s event s') : s'.Completes := by
  cases hstep with
  | applicationDidBecomeActive observed fresh | applicationWillResignActive observed fresh
  | timerDidFire fresh | backgroundTaskExpired begun | expirationFinished expirations =>
      exact h.of_eq rfl fun _ => rfl
  | taskCreated hasCompletionBlock new =>
      refine h.of_setTask rfl (fun _ _ => rfl) ?_ fun hover => ?_
      · have hnone := h.uncreated _ new
        rw [show ∀ object task, (s.setTask object task).completionCount object =
          s.completionCount object from fun _ _ => rfl, hnone, Nat.zero_add]
        rfl
      · cases hover.1
  | taskAdded known stage fresh =>
      refine Completes.setTask (@Completes.of_eq s (s.manage _) h rfl fun _ => rfl) known rfl rfl
        fun hover => ?_
      cases hover.1
  | taskIdAssigned known stage =>
      refine h.setTask known rfl rfl fun hover => ?_
      cases hover.1
  | startChecked isMainThread known stage =>
      rw [checkStarted]
      split
      · next hsome =>
          refine h.setTask known rfl rfl fun hover => ?_
          have hnone : _ = none := hover.2
          rw [hnone] at hsome
          cases hsome
      · exact h.complete known rfl rfl
  | taskEnded isMainThread known stage live fresh =>
      exact Completes.complete (@Completes.of_eq s (s.manage _) h rfl fun _ => rfl) known rfl rfl
  | @taskDeallocating object task known stage =>
      refine h.setTask known rfl rfl fun hover => ?_
      exact h.released object task known ⟨stage, hover.2⟩
  | expirationBlockCalled expirations pending known =>
      refine Completes.of_eq (s := s.expirationBlock _ _) ?_ rfl fun _ => rfl
      rw [expirationBlock]
      split
      · exact h
      · split
        · exact h
        · exact h.complete known rfl rfl
  | completionBlockCalled queued =>
      -- A block that is called goes from those that are queued to those that were called.
      refine h.of_eq rfl fun object => ?_
      rw [completionCount, completionCount, queued]
      simp only [List.map_append, List.map_cons, List.count_append, List.count_cons]
      simp only [List.map_nil, List.count_nil]
      omega

/-! ## The live tasks -/

end BackgroundTasks

/-- The id that the manager gave an object, stored or not. -/
def OWSBackgroundTask.Holds (task : OWSBackgroundTask) (taskId : ℕ) : Prop :=
  task.start = .added (some taskId) ∨
    ((task.start = .assigned ∨ task.start = .started) ∧ task.taskId = some taskId)

namespace BackgroundTasks

variable {isMainApp : Bool} {s s' : BackgroundTasks} {event : Event} {events : List Event}
  {task : OWSBackgroundTask} {object : ℕ}

/-- A task is live from when the manager has registered it until it ends or an expiration takes
it. -/
def IsLive (s : BackgroundTasks) (object : ℕ) : Prop :=
  ∃ taskId, s.manager.expirationMap.lookup taskId = some object

theorem exists_isLive_iff :
    (∃ object, s.IsLive object) ↔ 0 < s.manager.expirationMap.entries.length := by
  rw [List.length_pos_iff_exists_mem]
  constructor
  · rintro ⟨object, taskId, hlookup⟩
    exact ⟨⟨taskId, object⟩, AList.mem_lookup_iff.mp hlookup⟩
  · rintro ⟨⟨taskId, object⟩, hmem⟩
    exact ⟨object, taskId, AList.mem_lookup_iff.mpr hmem⟩

/-- The map and the objects agree. -/
structure Registered (events : List Event) (s : BackgroundTasks) : Prop where
  bounded : ∀ object task taskId, s.tasks object = some task → task.Holds taskId →
    taskId ≤ s.manager.idCounter
  unique : ∀ object other task task' taskId, s.tasks object = some task →
    s.tasks other = some task' → task.Holds taskId → task'.Holds taskId → object = other
  holds : ∀ taskId object, s.manager.expirationMap.lookup taskId = some object →
    ∃ task, s.tasks object = some task ∧ task.Holds taskId
  /-- Only an expiration takes the id of an object that has one out of the map. -/
  live : ∀ object task taskId, s.tasks object = some task → task.Holds taskId →
    s.manager.expirationMap.lookup taskId = some object ∨ .backgroundTaskExpired ∈ events
  /-- Where an expiration has yet to call a block, the object is not registered again. -/
  pending : ∀ expiration ∈ s.expirations, ∀ object ∈ expiration.expirationMap,
    ¬s.IsLive object ∧ ∃ task, s.tasks object = some task ∧ task.start ≠ .adding

theorem registered_initial {isMainAppAndActive : Bool} :
    (initial isMainAppAndActive).Registered [] where
  bounded object task taskId known := by cases known
  unique object other task task' taskId known := by cases known
  holds taskId object hlookup := by cases hlookup
  live object task taskId known := by cases known
  pending expiration hmem := by cases hmem

/-- What is neither the map nor an object nor an expiration does not matter. -/
theorem Registered.of_eq (h : s.Registered events)
    (hmap : s'.manager.expirationMap = s.manager.expirationMap)
    (hcounter : s'.manager.idCounter = s.manager.idCounter) (htasks : s'.tasks = s.tasks)
    (hexpirations : ∀ expiration ∈ s'.expirations, ∀ object ∈ expiration.expirationMap,
      ∃ before ∈ s.expirations, object ∈ before.expirationMap) :
    s'.Registered events where
  bounded := by
    rw [htasks, hcounter]
    exact h.bounded
  unique := by
    rw [htasks]
    exact h.unique
  holds := by
    rw [htasks, hmap]
    exact h.holds
  live := by
    rw [htasks, hmap]
    exact h.live
  pending expiration hmem object hobject := by
    obtain ⟨before, hbefore, hpending⟩ := hexpirations expiration hmem object hobject
    rw [IsLive, hmap, htasks]
    exact h.pending before hbefore object hpending

theorem Registered.of_setTask {object : ℕ} {task : OWSBackgroundTask} (h : s.Registered events)
    (htasks : s'.tasks = Function.update s.tasks object (some task))
    (hcounter : s.manager.idCounter ≤ s'.manager.idCounter)
    (hother : ∀ taskId other, other ≠ object →
      (s'.manager.expirationMap.lookup taskId = some other ↔
        s.manager.expirationMap.lookup taskId = some other))
    (hregistered : ∀ taskId, s'.manager.expirationMap.lookup taskId = some object →
      task.Holds taskId)
    (hholds : ∀ taskId, task.Holds taskId → taskId ≤ s'.manager.idCounter ∧
      (∀ other changed, other ≠ object → s.tasks other = some changed → ¬changed.Holds taskId) ∧
      (s'.manager.expirationMap.lookup taskId = some object ∨
        .backgroundTaskExpired ∈ events))
    (hexpirations : ∀ expiration ∈ s'.expirations, ∀ other ∈ expiration.expirationMap,
      ∃ before ∈ s.expirations, other ∈ before.expirationMap)
    (hpending : ∀ expiration ∈ s'.expirations, object ∈ expiration.expirationMap →
      ¬s'.IsLive object ∧ task.start ≠ .adding) :
    s'.Registered events := by
  have hself : s'.tasks object = some task := by rw [htasks, Function.update_self]
  have hne : ∀ other, other ≠ object → s'.tasks other = s.tasks other := by
    intro other hne
    rw [htasks, Function.update_of_ne hne]
  constructor
  case bounded =>
    intro other changed taskId known hchanged
    by_cases heq : other = object
    · subst heq
      obtain rfl := Option.some.inj (hself.symm.trans known)
      exact (hholds taskId hchanged).1
    · exact le_trans (h.bounded other changed taskId (hne other heq ▸ known) hchanged) hcounter
  case unique =>
    intro one two task₁ task₂ taskId known₁ known₂ holds₁ holds₂
    -- Two objects that hold an id are old ones, or one of them is the one that has changed.
    by_cases heq₁ : one = object
    · by_cases heq₂ : two = object
      · rw [heq₁, heq₂]
      · rw [heq₁] at known₁
        obtain rfl := Option.some.inj (hself.symm.trans known₁)
        exact absurd holds₂ ((hholds taskId holds₁).2.1 two task₂ heq₂ (hne two heq₂ ▸ known₂))
    · rw [hne one heq₁] at known₁
      by_cases heq₂ : two = object
      · rw [heq₂] at known₂
        obtain rfl := Option.some.inj (hself.symm.trans known₂)
        exact absurd holds₁ ((hholds taskId holds₂).2.1 one task₁ heq₁ known₁)
      · exact h.unique one two task₁ task₂ taskId known₁ (hne two heq₂ ▸ known₂) holds₁ holds₂
  case holds =>
    intro taskId other hlookup
    by_cases heq : other = object
    · subst heq
      exact ⟨task, hself, hregistered taskId hlookup⟩
    · rw [hne other heq]
      exact h.holds taskId other ((hother taskId other heq).mp hlookup)
  case live =>
    intro other changed taskId known hchanged
    by_cases heq : other = object
    · subst heq
      obtain rfl := Option.some.inj (hself.symm.trans known)
      exact (hholds taskId hchanged).2.2
    · rw [hne other heq] at known
      exact (h.live other changed taskId known hchanged).imp (hother taskId other heq).mpr id
  case pending =>
    intro expiration hmem other hobject
    by_cases heq : other = object
    · subst heq
      exact (hpending expiration hmem hobject).imp id fun hstart => ⟨task, hself, hstart⟩
    · obtain ⟨before, hbefore, hbeforeObject⟩ := hexpirations expiration hmem other hobject
      rw [hne other heq]
      refine (h.pending before hbefore other hbeforeObject).imp (fun hnot hlive => ?_) id
      obtain ⟨taskId, hlookup⟩ := hlive
      exact hnot ⟨taskId, (hother taskId other heq).mp hlookup⟩

section

variable (h : s.Registered events)
include h

theorem Registered.shrink {task task' : OWSBackgroundTask} (known : s.tasks object = some task)
    (htasks : s'.tasks = Function.update s.tasks object (some task'))
    (hcounter : s'.manager.idCounter = s.manager.idCounter)
    (hsub : ∀ taskId, task'.Holds taskId → task.Holds taskId)
    (hother : ∀ taskId other, other ≠ object →
      (s'.manager.expirationMap.lookup taskId = some other ↔
        s.manager.expirationMap.lookup taskId = some other))
    (hregistered : ∀ taskId, s'.manager.expirationMap.lookup taskId = some object →
      s.manager.expirationMap.lookup taskId = some object ∧ task'.Holds taskId)
    (hlive : ∀ taskId, task'.Holds taskId → s.manager.expirationMap.lookup taskId = some object →
      s'.manager.expirationMap.lookup taskId = some object)
    (hexpirations : ∀ expiration ∈ s'.expirations, ∀ other ∈ expiration.expirationMap,
      ∃ before ∈ s.expirations, other ∈ before.expirationMap) (hstart : task'.start ≠ .adding) :
    s'.Registered events := by
  refine h.of_setTask htasks (Nat.le_of_eq hcounter.symm) hother
    (fun taskId hlookup => (hregistered taskId hlookup).2) (fun taskId hholds => ⟨?_, ?_, ?_⟩)
    hexpirations fun expiration hmem hobject => ⟨?_, hstart⟩
  · rw [hcounter]
    exact h.bounded object task taskId known (hsub taskId hholds)
  · intro other changed hne hchanged hother
    exact hne (h.unique other object changed task taskId hchanged known hother
      (hsub taskId hholds))
  · exact (h.live object task taskId known (hsub taskId hholds)).imp (hlive taskId hholds) id
  · rintro ⟨taskId, hlookup⟩
    obtain ⟨before, hbefore, hpending⟩ := hexpirations expiration hmem object hobject
    exact (h.pending before hbefore object hpending).1 ⟨taskId, (hregistered taskId hlookup).1⟩

theorem Registered.setTask {task task' : OWSBackgroundTask} (known : s.tasks object = some task)
    (hholds : ∀ taskId, task'.Holds taskId ↔ task.Holds taskId) (hstart : task'.start ≠ .adding) :
    (s.setTask object task').Registered events := by
  refine h.shrink known rfl rfl (fun taskId => (hholds taskId).mp) (fun _ _ _ => Iff.rfl)
    (fun taskId hlookup => ⟨hlookup, ?_⟩) (fun _ _ hlookup => hlookup)
    (fun expiration hmem other hother => ⟨expiration, hmem, hother⟩) hstart
  obtain ⟨before, hbefore, hholder⟩ := h.holds taskId object hlookup
  obtain rfl := Option.some.inj (known.symm.trans hbefore)
  exact (hholds taskId).mpr hholder

/-- A method of the manager that leaves the map. -/
theorem Registered.manage {α : Type} {change : BackgroundTaskChange α}
    (hmap : change.manager.expirationMap = s.manager.expirationMap)
    (hcounter : change.manager.idCounter = s.manager.idCounter) :
    (s.manage change).Registered events :=
  h.of_eq hmap hcounter rfl fun expiration hmem _ hobject => ⟨expiration, hmem, hobject⟩

theorem Registered.create {hasCompletionBlock : Bool} (new : s.tasks object = none) :
    (s.setTask object (.initWithLabel hasCompletionBlock)).Registered events := by
  refine h.of_setTask rfl le_rfl (fun _ _ _ => Iff.rfl) (fun taskId hlookup => ?_)
    (fun taskId hholds => ?_) (fun expiration hmem other hother => ⟨expiration, hmem, hother⟩)
    fun expiration hmem hobject => ?_
  · obtain ⟨task, known, -⟩ := h.holds taskId object hlookup
    cases new.symm.trans known
  · rcases hholds with hadded | ⟨hadded | hadded, -⟩
    all_goals cases hadded
  · obtain ⟨-, task, known, -⟩ := h.pending expiration hmem object hobject
    cases new.symm.trans known

theorem Registered.add {answer : Option ℕ} (known : s.tasks object = some task)
    (stage : task.start = .adding) :
    ((s.manage (s.manager.addTaskWithExpirationBlock isMainApp answer object)).setTask object
      { task with
        start := .added
          (s.manager.addTaskWithExpirationBlock isMainApp answer object).returned }).Registered
      events := by
  have hcounter := @OWSBackgroundTaskManager.idCounter_addTaskWithExpirationBlock s.manager
    isMainApp answer object
  have hlookup : ∀ taskId, (s.manager.addTaskWithExpirationBlock isMainApp answer
      object).manager.expirationMap.lookup taskId = _ := fun taskId =>
    OWSBackgroundTaskManager.lookup_addTaskWithExpirationBlock
  have hreturned : ∀ taskId,
      (s.manager.addTaskWithExpirationBlock isMainApp answer object).returned = some taskId →
        taskId = s.manager.idCounter + 1 := by
    intro taskId heq
    rcases @OWSBackgroundTaskManager.addTaskWithExpirationBlock_cases s.manager isMainApp answer
      object with ⟨hid, -⟩ | ⟨hnone, -⟩
    · exact Option.some.inj (heq.symm.trans hid)
    · cases hnone.symm.trans heq
  -- The object has no id yet, and nobody has the next one.
  have hunregistered : ∀ taskId, s.manager.expirationMap.lookup taskId ≠ some object := by
    intro taskId hregistered
    obtain ⟨before, hbefore, hholds⟩ := h.holds taskId object hregistered
    obtain rfl := Option.some.inj (known.symm.trans hbefore)
    rcases hholds with hadded | ⟨hadded | hadded, -⟩
    all_goals cases stage.symm.trans hadded
  have hfresh : ∀ other changed, s.tasks other = some changed →
      ¬changed.Holds (s.manager.idCounter + 1) := by
    intro other changed hchanged hholds
    have := h.bounded other changed _ hchanged hholds
    omega
  refine @Registered.of_setTask s _ events object _ h rfl (hcounter ▸ Nat.le_succ _ :
      s.manager.idCounter ≤ (s.manager.addTaskWithExpirationBlock isMainApp answer
        object).manager.idCounter)
    (fun taskId other hne => ?_) (fun taskId hregistered => ?_) (fun taskId hholds => ?_)
    (fun expiration hmem other hother => ⟨expiration, hmem, hother⟩)
    fun expiration hmem hobject => ?_
  · refine (Eq.congr_left (hlookup taskId)).trans ?_
    split
    · next heq =>
        subst heq
        constructor
        · intro hregistered
          obtain ⟨-, -, heq⟩ := Option.map_eq_some_iff.mp hregistered
          exact absurd heq.symm hne
        · intro hregistered
          obtain ⟨changed, hchanged, hholds⟩ := h.holds _ other hregistered
          exact absurd hholds (hfresh other changed hchanged)
    · exact Iff.rfl
  · replace hregistered := (hlookup taskId).symm.trans hregistered
    split at hregistered
    · next heq =>
        obtain ⟨returned, hid, -⟩ := Option.map_eq_some_iff.mp hregistered
        refine .inl (congrArg BackgroundTaskStart.added (hid.trans ?_))
        rw [hreturned returned hid, heq]
    · exact absurd hregistered (hunregistered taskId)
  · have hid : (s.manager.addTaskWithExpirationBlock isMainApp answer object).returned =
        some taskId := by
      rcases hholds with hadded | ⟨hadded | hadded, -⟩
      · exact BackgroundTaskStart.added.inj hadded
      all_goals cases hadded
    obtain rfl := hreturned taskId hid
    refine ⟨Nat.le_of_eq hcounter.symm, fun other changed _ => hfresh other changed, .inl ?_⟩
    refine (hlookup _).trans ?_
    rw [if_pos rfl, hid, Option.map_some]
  · obtain ⟨-, before, hbefore, hstart⟩ := h.pending expiration hmem object hobject
    obtain rfl := Option.some.inj (known.symm.trans hbefore)
    exact absurd stage hstart

theorem Registered.remove {object taskId : ℕ} {answer : Option ℕ} {isMainThread : Bool}
    {state : BackgroundTaskState} (known : s.tasks object = some task)
    (stage : task.start = .started) (live : task.taskId = some taskId) :
    (((s.manage (s.manager.removeTask isMainApp answer taskId)).dispatchMainThreadSafe
      isMainThread object task state).setTask object task.completed).Registered
      events := by
  have hmap : (((s.manage (s.manager.removeTask isMainApp answer taskId)).dispatchMainThreadSafe
      isMainThread object task state).setTask object
        task.completed).manager.expirationMap = s.manager.expirationMap.erase taskId := by
    refine (congrArg _ manager_dispatchMainThreadSafe).trans ?_
    exact OWSBackgroundTaskManager.expirationMap_ensureBackgroundTaskState
  have hholds : task.Holds taskId := .inr ⟨.inr stage, live⟩
  have hnot : ∀ other, ¬task.completed.Holds other := by
    rintro other (hadded | ⟨-, hid⟩)
    · cases stage.symm.trans hadded
    · cases hid
  refine h.shrink known ?_ ?_ (fun other hother => absurd hother (hnot other))
    (fun other holder hne => ?_) (fun other hlookup => ?_)
    (fun other hother => absurd hother (hnot other))
    (fun expiration hmem other hother => ⟨expiration, ?_, hother⟩) ?_
  · simp [BackgroundTasks.setTask, BackgroundTasks.manage]
  · refine (congrArg _ manager_dispatchMainThreadSafe).trans ?_
    exact OWSBackgroundTaskManager.idCounter_ensureBackgroundTaskState
  · rw [hmap]
    by_cases heq : other = taskId
    · subst heq
      rw [AList.lookup_erase]
      refine ⟨fun hnone => by simp at hnone, fun hlookup => ?_⟩
      -- The id was this object's and nobody else's.
      obtain ⟨changed, hchanged, hholder⟩ := h.holds other holder hlookup
      exact absurd (h.unique holder object changed task other hchanged known hholder hholds) hne
    · rw [AList.lookup_erase_ne heq]
  · rw [hmap] at hlookup
    by_cases heq : other = taskId
    · rw [heq, AList.lookup_erase] at hlookup
      cases hlookup
    · rw [AList.lookup_erase_ne heq] at hlookup
      obtain ⟨before, hbefore, hholder⟩ := h.holds other object hlookup
      obtain rfl := Option.some.inj (known.symm.trans hbefore)
      rcases hholder with hadded | ⟨-, hid⟩
      · cases stage.symm.trans hadded
      · exact absurd (Option.some.inj (hid.symm.trans live)) heq
  · simpa [BackgroundTasks.setTask, BackgroundTasks.manage] using hmem
  · intro hadding
    cases stage.symm.trans hadding

theorem Registered.couldNotStart {isMainThread : Bool} {state : BackgroundTaskState}
    (known : s.tasks object = some task) (stage : task.start = .assigned)
    (hnone : task.taskId = none) :
    ((s.dispatchMainThreadSafe isMainThread object task state).setTask object
      { task with
        completionBlock := false
        start := .started }).Registered events := by
  have hdispatched : (s.dispatchMainThreadSafe isMainThread object task state).Registered
      events :=
    h.of_eq (congrArg _ manager_dispatchMainThreadSafe) (congrArg _ manager_dispatchMainThreadSafe)
      tasks_dispatchMainThreadSafe fun expiration hmem other hother =>
        ⟨expiration, by rwa [expirations_dispatchMainThreadSafe] at hmem, hother⟩
  refine hdispatched.setTask (by rwa [tasks_dispatchMainThreadSafe]) (fun taskId => ?_)
    fun hadding => by cases hadding
  simp [OWSBackgroundTask.Holds, stage, hnone]

theorem Registered.expirationBlock (known : s.tasks object = some task)
    (hstart : task.start ≠ .adding) (hunregistered : ¬s.IsLive object) :
    (s.expirationBlock object task).Registered events := by
  rw [BackgroundTasks.expirationBlock]
  split
  · exact h
  · split
    · exact h
    · have htasks : ((s.dispatchMainThreadSafe true object task .expired).setTask object
          task.completed).tasks = Function.update s.tasks object (some task.completed) := by
        simp [BackgroundTasks.setTask]
      refine h.shrink known htasks
        (congrArg _ manager_dispatchMainThreadSafe) (fun taskId hholds => ?_)
        (fun taskId other _ => ?_) (fun taskId hlookup => ?_)
        (fun taskId _ hlookup => absurd ⟨taskId, hlookup⟩ hunregistered)
        (fun expiration hmem other hother => ⟨expiration, ?_, hother⟩) hstart
      · rcases hholds with hadded | ⟨-, hid⟩
        · exact .inl hadded
        · cases hid
      · simp [BackgroundTasks.setTask]
      · rw [show ((s.dispatchMainThreadSafe true object task .expired).setTask object
          task.completed).manager = s.manager from manager_dispatchMainThreadSafe] at hlookup
        exact absurd ⟨taskId, hlookup⟩ hunregistered
      · simpa [BackgroundTasks.setTask] using hmem

/-- An expiration takes every object out of the map. -/
theorem Registered.expire :
    ({ s with
      manager := s.manager.backgroundTaskExpired
      expirations := s.expirations ++ [⟨s.manager.backgroundTaskId,
        s.manager.expirationMap.entries.map (·.snd)⟩] } : BackgroundTasks).Registered
      (events ++ [.backgroundTaskExpired]) where
  bounded := h.bounded
  unique := h.unique
  holds taskId object hlookup := by cases hlookup
  live object task taskId known hholds := .inr (by simp)
  pending expiration hmem object hobject := by
    refine ⟨?_, ?_⟩
    · rintro ⟨taskId, hlookup⟩
      cases hlookup
    · rcases List.mem_append.mp hmem with hbefore | hnew
      · exact (h.pending expiration hbefore object hobject).2
      · obtain rfl := List.mem_singleton.mp hnew
        obtain ⟨⟨taskId, _⟩, hentry, rfl⟩ := List.mem_map.mp hobject
        obtain ⟨task, known, hholds⟩ := h.holds taskId _ (AList.mem_lookup_iff.mpr hentry)
        refine ⟨task, known, fun hadding => ?_⟩
        rcases hholds with hadded | ⟨hadded | hadded, -⟩
        all_goals cases hadding.symm.trans hadded

/-- What happened before has happened. -/
theorem Registered.more : s.Registered (events ++ [event]) :=
  { h with
    live := fun object task taskId known hholds =>
      (h.live object task taskId known hholds).imp id (List.mem_append_left _) }

/-- **Each step keeps the map and the objects in agreement.** -/
theorem Registered.step (hstep : Step isMainApp s event s') :
    s'.Registered (events ++ [event]) := by
  cases hstep with
  | applicationDidBecomeActive observed fresh | applicationWillResignActive observed fresh
  | timerDidFire fresh =>
      refine Registered.more (h.manage ?_ ?_)
      · exact OWSBackgroundTaskManager.expirationMap_ensureBackgroundTaskState
      · exact OWSBackgroundTaskManager.idCounter_ensureBackgroundTaskState
  | taskCreated hasCompletionBlock new => exact (h.create new).more
  | taskAdded known stage fresh => exact (h.add known stage).more
  | taskIdAssigned known stage =>
      refine (h.setTask known (fun taskId => ?_) fun hadding => by cases hadding).more
      simp [OWSBackgroundTask.Holds, stage]
  | @startChecked object task isMainThread known stage =>
      rw [checkStarted]
      split
      · refine (h.setTask known (fun taskId => ?_) fun hadding => by cases hadding).more
        simp [OWSBackgroundTask.Holds, stage]
      · next hnone => exact (h.couldNotStart known stage (by simpa using hnone)).more
  | taskEnded isMainThread known stage live fresh => exact (h.remove known stage live).more
  | taskDeallocating known stage =>
      refine Registered.more (h.setTask known (fun taskId => Iff.rfl) fun hadding => ?_)
      cases stage.symm.trans hadding
  | backgroundTaskExpired begun => exact h.expire
  | @expirationBlockCalled object task earlier later expiration expirations pending known =>
      have hmem : expiration ∈ s.expirations := by
        rw [expirations]
        exact List.mem_append_right _ List.mem_cons_self
      obtain ⟨hunregistered, before, hbefore, hstart⟩ := h.pending expiration hmem object pending
      obtain rfl := Option.some.inj (known.symm.trans hbefore)
      -- The object has been called, and the rest of the expiration is as before.
      have hexpired : (s.expirationBlock object task).expirations = s.expirations := by
        rw [BackgroundTasks.expirationBlock]
        split
        · rfl
        · split
          · rfl
          · exact expirations_dispatchMainThreadSafe
      refine Registered.more ((h.expirationBlock known hstart hunregistered).of_eq rfl rfl rfl
        fun after hafter other hother => ?_)
      rw [hexpired, expirations]
      rcases List.mem_append.mp hafter with hearlier | hrest
      · exact ⟨after, List.mem_append_left _ hearlier, hother⟩
      · rcases List.mem_cons.mp hrest with rfl | hlater
        · exact ⟨expiration, List.mem_append_right _ List.mem_cons_self,
            List.mem_of_mem_erase hother⟩
        · exact ⟨after, List.mem_append_right _ (List.mem_cons_of_mem _ hlater), hother⟩
  | @expirationFinished backgroundTaskId earlier later expirations =>
      refine Registered.more (h.of_eq rfl rfl rfl fun expiration hmem object hobject =>
        ⟨expiration, ?_, hobject⟩)
      rw [expirations]
      rcases List.mem_append.mp hmem with hearlier | hlater
      · exact List.mem_append_left _ hearlier
      · exact List.mem_append_right _ (List.mem_cons_of_mem _ hlater)
  | completionBlockCalled queued =>
      exact Registered.more (h.of_eq rfl rfl rfl fun expiration hmem object hobject =>
        ⟨expiration, hmem, hobject⟩)

end

/-! ## The accounts of a run -/

/-- What the methods of the manager do, but for an expiration. -/
def Event.IsManagerOperation : Event → Prop
  | .applicationDidBecomeActive | .applicationWillResignActive | .timerDidFire | .taskAdded _
  | .taskEnded _ => True
  | _ => False

/-- The system began no background task though it was asked to. -/
def BeginFailed (s s' : BackgroundTasks) : Prop :=
  ∃ requests, s'.requests = s.requests ++ requests ∧ .beginBackgroundTask none ∈ requests

/-- Such a method keeps the accounts of the manager. -/
theorem Step.exists_change (hstep : Step isMainApp s event s')
    (hmanager : event.IsManagerOperation) :
    ∃ (α : Type) (change : BackgroundTaskChange α) (answer : Option ℕ),
      change.Accounted isMainApp s.manager.backgroundTaskId answer ∧
        s'.manager = change.manager ∧ s'.requests = s.requests ++ change.requests := by
  cases hstep with
  | applicationDidBecomeActive observed fresh =>
      exact ⟨_, _, _, OWSBackgroundTaskManager.accounted_applicationDidBecomeActive, rfl, rfl⟩
  | applicationWillResignActive observed fresh =>
      exact ⟨_, _, _, OWSBackgroundTaskManager.accounted_applicationWillResignActive, rfl, rfl⟩
  | timerDidFire fresh =>
      exact ⟨_, _, _, OWSBackgroundTaskManager.accounted_timerDidFire, rfl, rfl⟩
  | taskAdded known stage fresh =>
      exact ⟨_, _, _, OWSBackgroundTaskManager.accounted_addTaskWithExpirationBlock, rfl, rfl⟩
  | taskEnded isMainThread known stage live fresh =>
      exact ⟨_, _, _, OWSBackgroundTaskManager.accounted_removeTask,
        manager_dispatchMainThreadSafe, requests_dispatchMainThreadSafe⟩
  | taskCreated | taskIdAssigned | startChecked | taskDeallocating | backgroundTaskExpired
  | expirationBlockCalled | expirationFinished | completionBlockCalled => exact hmanager.elim

theorem Step.not_begin (hstep : Step isMainApp s event s') (hmanager : ¬event.IsManagerOperation) :
    ∃ requests, s'.requests = s.requests ++ requests ∧
      ∀ answer, .beginBackgroundTask answer ∉ requests := by
  cases hstep with
  | applicationDidBecomeActive | applicationWillResignActive | timerDidFire | taskAdded
  | taskEnded => exact (hmanager trivial).elim
  | taskCreated | taskIdAssigned | taskDeallocating | backgroundTaskExpired
  | completionBlockCalled => exact ⟨[], (List.append_nil _).symm, fun _ => List.not_mem_nil⟩
  | @startChecked object task isMainThread known stage =>
      refine ⟨[], ?_, fun _ => List.not_mem_nil⟩
      rw [List.append_nil, checkStarted]
      split
      · rfl
      · exact requests_dispatchMainThreadSafe
  | expirationBlockCalled expirations pending known =>
      exact ⟨[], requests_expirationBlock.trans (List.append_nil _).symm, fun _ => List.not_mem_nil⟩
  | @expirationFinished backgroundTaskId earlier later expirations =>
      exact ⟨_, rfl, fun answer => by cases backgroundTaskId <;> simp⟩

theorem Balanced.extension_holds_none (h : s.Balanced isMainApp) (hextension : isMainApp = false) :
    s.manager.backgroundTaskId = none := by
  have hbegun : s.begun = [] := by
    rw [begun, h.extension hextension]
    rfl
  cases hheld : s.manager.backgroundTaskId with
  | none => rfl
  | some id =>
      have hbalance := h.balance id
      rw [hbegun, hheld] at hbalance
      simp at hbalance
      omega

structure Accounted (events : List Event) (s : BackgroundTasks) : Prop where
  /-- The system gives out each id once. -/
  begun_nodup : s.begun.Nodup
  /-- Each id is ended once, or held, or in the hands of an expiration. -/
  begun_perm : s.begun.Perm (s.ended ++ (s.manager.backgroundTaskId.toList ++ s.expiring))
  /-- A completion block is called once at most. -/
  completions_nodup : (s.completions.map Prod.fst).Nodup
  /-- Once a task is over, its block was called, or is on its way to the main thread. -/
  completes : ∀ object task, s.tasks object = some task → task.IsOver →
    s.completionCount object = task.hasCompletionBlock.toNat
  live : ∀ object, s.IsLive object → ∃ task, s.tasks object = some task ∧ ¬task.IsOver
  live_of_holds : ∀ object task taskId, s.tasks object = some task → task.Holds taskId →
    s.IsLive object ∨ .backgroundTaskExpired ∈ events

structure ManagedStep (isMainApp : Bool) (s : BackgroundTasks) (event : Event)
    (s' : BackgroundTasks) : Prop where
  /-- None is begun while the manager holds one. -/
  free : ∀ requests answer, s'.requests = s.requests ++ requests →
    .beginBackgroundTask answer ∈ requests → s.manager.backgroundTaskId = none
  /-- One is held exactly when there should be one. -/
  right : event.IsManagerOperation → ¬BeginFailed s s' →
    (s'.manager.backgroundTaskId.isSome ↔
      isMainApp = true ∧ s'.manager.isAppActive = false ∧
        ((∃ object, s'.IsLive object) ∨ s'.manager.continuityTimer = true))

theorem Completes.nodup (h : s.Completes) : (s.completions.map Prod.fst).Nodup := by
  rw [List.nodup_iff_count_le_one]
  intro object
  have hcount : (s.completions.map Prod.fst).count object ≤ s.completionCount object := by
    rw [completionCount, List.map_append, List.count_append]
    omega
  cases hknown : s.tasks object with
  | none =>
      have := h.uncreated object hknown
      omega
  | some task =>
      have := h.balance object task hknown
      have := task.hasCompletionBlock.toNat_le
      omega

theorem Balanced.managedStep (h : s.Balanced isMainApp) (hstep : Step isMainApp s event s') :
    ManagedStep isMainApp s event s' := by
  by_cases hmanager : event.IsManagerOperation
  · obtain ⟨α, change, answer, hchange, hs', hrequests⟩ := hstep.exists_change hmanager
    constructor
    · intro requests id heq hbegin
      obtain rfl := List.append_cancel_left (hrequests.symm.trans heq)
      exact hchange.free id hbegin
    · intro _ hsucceeded
      cases isMainApp with
      | false =>
          rw [(h.step hstep).extension_holds_none rfl]
          simp
      | true =>
          have hright := hchange.right rfl fun hfailed => hsucceeded ⟨_, hrequests, hfailed⟩
          rw [exists_isLive_iff, hs', hright]
          simp [OWSBackgroundTaskManager.shouldHaveBackgroundTask]
  · obtain ⟨requests, hrequests, hnone⟩ := hstep.not_begin hmanager
    constructor
    · intro other id heq hbegin
      obtain rfl := List.append_cancel_left (hrequests.symm.trans heq)
      exact absurd hbegin (hnone id)
    · exact fun hop => absurd hop hmanager

/-- **Background tasks are accounted for.** -/
theorem background_tasks_accounted {isMainAppAndActive : Bool}
    (run : LabelledRun (Step isMainApp) (initial isMainAppAndActive) events s) :
    s.Accounted events ∧
      ∀ event s', Step isMainApp s event s' → ManagedStep isMainApp s event s' := by
  have h : s.Balanced isMainApp ∧ s.Completes ∧ s.Registered events :=
    run.invariant (I := fun events s => s.Balanced isMainApp ∧ s.Completes ∧ s.Registered events)
      ⟨balanced_initial, completes_initial, registered_initial⟩
      fun _ _ _ _ hbefore hstep => ⟨hbefore.1.step hstep, hbefore.2.1.step hstep,
        hbefore.2.2.step hstep⟩
  obtain ⟨hbalanced, hcompletes, hregistered⟩ := h
  refine ⟨⟨hbalanced.nodup, List.perm_iff_count.mpr fun id => ?_, hcompletes.nodup,
    fun object task known hover => ?_, fun object hlive => ?_,
    fun object task taskId known hholds => ?_⟩, fun event s' => hbalanced.managedStep⟩
  · rw [List.count_append, List.count_append, hbalanced.balance, Nat.add_assoc]
  · rw [← hcompletes.balance object task known, hcompletes.released object task known hover]
    rfl
  · obtain ⟨taskId, hlookup⟩ := hlive
    obtain ⟨task, known, hholds⟩ := hregistered.holds taskId object hlookup
    refine ⟨task, known, fun hover => ?_⟩
    rcases hholds with hadded | ⟨-, hid⟩
    · cases hover.1.symm.trans hadded
    · cases hover.2.symm.trans hid
  · refine (hregistered.live object task taskId known hholds).imp (fun hlookup => ?_) id
    exact ⟨taskId, hlookup⟩

/-- The first task of an app that is not active. -/
def firstTaskCreated : BackgroundTasks :=
  (initial false).setTask 0 (.initWithLabel true)

/-- The manager has been asked to register it. -/
def firstTaskAdded (isMainApp : Bool) (answer : Option ℕ) : BackgroundTasks :=
  let change :=
    (OWSBackgroundTaskManager.initDefault false).addTaskWithExpirationBlock isMainApp answer 0
  (firstTaskCreated.manage change).setTask 0
    { OWSBackgroundTask.initWithLabel true with start := .added change.returned }

theorem run_firstTaskCreated :
    LabelledRun (Step isMainApp) (initial false) [.taskCreated 0] firstTaskCreated :=
  .single (.taskCreated true rfl)

theorem step_firstTaskAdded {answer : Option ℕ} :
    Step isMainApp firstTaskCreated (.taskAdded 0) (firstTaskAdded isMainApp answer) :=
  .taskAdded rfl rfl fun _ _ => List.not_mem_nil

/-- Of two tasks in the main app, which is not active, the first ends: the background task that
it was given is kept for the second. -/
theorem main_app_tasks_accounted :
    ∃ events s, LabelledRun (Step true) (initial false) events s ∧
      s.manager.backgroundTaskId = some 7 ∧ s.completions = [(0, .success)] ∧
        s.Accounted events := by
  have hrun := (@run_firstTaskCreated true).tail (@step_firstTaskAdded true (some 7))
  have assigned := hrun.tail (@Step.taskIdAssigned true _ 0 _ _ rfl rfl)
  have second := (assigned.tail (@Step.taskCreated true _ 1 false rfl)).tail
    (@Step.taskAdded true _ 1 _ none rfl rfl nofun)
  have started := second.tail (@Step.startChecked true _ 0 _ true rfl rfl)
  have ended := started.tail (@Step.taskEnded true _ 0 _ _ none true rfl rfl rfl nofun)
  exact ⟨_, _, ended, rfl, rfl, (background_tasks_accounted ended).1⟩

theorem extension_holds_no_background_task :
    ¬∀ (isMainApp isMainAppAndActive : Bool) (events : List Event) (s : BackgroundTasks)
        (event : Event) (s' : BackgroundTasks),
      LabelledRun (Step isMainApp) (initial isMainAppAndActive) events s →
      Step isMainApp s event s' → event.IsManagerOperation → ¬BeginFailed s s' →
        (s'.manager.backgroundTaskId.isSome ↔ s'.manager.isAppActive = false ∧
          ((∃ object, s'.IsLive object) ∨ s'.manager.continuityTimer = true)) := by
  intro h
  have hsucceeded : ¬BeginFailed firstTaskCreated (firstTaskAdded false none) := by
    rintro ⟨requests, hrequests, hfailed⟩
    obtain rfl : ([] : List BackgroundRequest) = requests := hrequests
    cases hfailed
  have hheld := (h false false _ _ _ _ run_firstTaskCreated step_firstTaskAdded trivial
    hsucceeded).mpr ⟨rfl, .inl ⟨0, 1, by decide⟩⟩
  revert hheld
  decide

end BackgroundTasks

end ObjcSwiftLearning.SignalServiceKit
