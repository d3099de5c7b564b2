import ObjcSwiftLearning.Library.LabelledRun
import ObjcSwiftLearning.SignalServiceKit.SystemContacts

/-!
# Contact intersection

The numbers of the contacts are looked up, to find who is registered.  All of them are looked up
from time to time; otherwise only those are that are not in the last known set, which the
intersections that go through write, each its own contacts.

* `IntersectionSystem.Step` — the serial queue and what goes on outside of it: lookups, callbacks,
  retries and the process itself, in any order.
* `IntersectionSystem.Sound` — **the last known numbers have been looked up,** and each
  intersection under way knows of what it leaves out that it has been.
* `IntersectionSystem.total_eq` — no step makes or loses a completion.
* `IntersectionSystem.noContactSkipped` — the two in every run.
-/

namespace ObjcSwiftLearning.SignalMessaging

open SignalServiceKit

/-! ## Intersections -/

/-- A call of `updateWithContacts:isUserRequested:shouldClearStaleCache:`, with its number. -/
structure ContactUpdate where
  id : ℕ
  contacts : List Contact
  isUserRequested : Bool
  shouldClearStaleCache : Bool

/-- The `NSError` of a lookup. -/
structure LookupError where
  domain : String
  code : ℤ

/-- `OWSErrorCodeContactsUpdaterRateLimit` in `OWSSignalServiceKitErrorDomain`. -/
def LookupError.IsRateLimit (error : LookupError) : Prop :=
  error.domain = "OWSSignalServiceKitErrorDomain" ∧ error.code = 777408

/-- What is stored under the two keys. -/
structure IntersectionDatabase where
  lastKnownContactPhoneNumbers : Option (Finset String)
  /-- In seconds. -/
  nextFullIntersectionDate : Option ℤ

def recipientIdsForIntersectionWithContacts (contacts : List Contact) : Finset String :=
  (contacts.flatMap fun contact => contact.parsedPhoneNumbers.map (·.e164)).toFinset

def ContactUpdate.allContactRecipientIds (update : ContactUpdate) : Finset String :=
  recipientIdsForIntersectionWithContacts update.contacts

/-- What the blocks of an intersection have captured. -/
structure ContactIntersection where
  update : ContactUpdate
  recipientIdsForIntersection : Finset String
  isFullIntersection : Bool

def IntersectionDatabase.intersection (database : IntersectionDatabase) (now : ℤ)
    (update : ContactUpdate) : ContactIntersection :=
  let isFullIntersection :=
    update.isUserRequested || !database.nextFullIntersectionDate.any (now < ·)
  match isFullIntersection, database.lastKnownContactPhoneNumbers with
  | false, some lastKnownContactPhoneNumbers =>
      { update
        recipientIdsForIntersection := update.allContactRecipientIds \ lastKnownContactPhoneNumbers
        isFullIntersection := false }
  | _, _ =>
      { update
        recipientIdsForIntersection := update.allContactRecipientIds
        isFullIntersection := true }

/-- `kMinFullIntersectionInterval`: six hours. -/
def minFullIntersectionInterval : ℤ := 6 * 3600

/-- What `markIntersectionAsComplete:isFullIntersection:` writes. -/
def IntersectionDatabase.markAsComplete (database : IntersectionDatabase) (now : ℤ)
    (recipientIds : Finset String) (isFullIntersection : Bool) : IntersectionDatabase where
  lastKnownContactPhoneNumbers := some recipientIds
  nextFullIntersectionDate :=
    if isFullIntersection then some (now + minFullIntersectionInterval)
    else database.nextFullIntersectionDate

/-! ## The queues -/

inductive SerialBlock where
  | buildContactsMap (update : ContactUpdate)
  | intersect (update : ContactUpdate)
  | markAsComplete (recipientIds : Finset String) (isFullIntersection : Bool)
  | buildSignalAccounts (shouldClearStaleCache : Bool)

/-- What goes on outside of the serial queue. -/
inductive IntersectionTask where
  /-- On the main queue: `intersectContacts:isUserRequested:completion:` is to be called. -/
  | beginIntersection (update : ContactUpdate)
  /-- On a global queue: there is nothing to intersect, and the completion is to be called. -/
  | completeSkipped (update : ContactUpdate)
  /-- `lookupIdentifiers:success:failure:` has been called. -/
  | lookup (intersection : ContactIntersection) (retryDelaySeconds : ℕ)
  /-- On the main queue: the blocks that the lookup calls. -/
  | success (intersection : ContactIntersection)
  | failure (intersection : ContactIntersection) (retryDelaySeconds : ℕ) (error : LookupError)
  /-- After the delay, the lookup is to be made again. -/
  | retry (intersection : ContactIntersection) (retryDelaySeconds : ℕ)

/-- How an intersection goes on after it has read the database. -/
def ContactIntersection.firstTask (intersection : ContactIntersection) : IntersectionTask :=
  if intersection.recipientIdsForIntersection.card < 1 then .completeSkipped intersection.update
  else .lookup intersection 1

/-- The database, the queues of the process, and what has happened so far. -/
structure IntersectionSystem where
  database : IntersectionDatabase
  serialQueue : List SerialBlock
  tasks : List IntersectionTask
  /-- The numbers of each lookup that succeeded. -/
  succeeded : List (Finset String)
  completions : List (ContactUpdate × Option LookupError)
  /-- How many updates there were, -/
  issued : ℕ
  /-- and how many of them before this process was launched. -/
  launched : ℕ

inductive IntersectionEvent where
  | updateWithContacts (update : ContactUpdate)
  | contactsMapBuilt
  | intersectionBegun
  | intersected (now : ℤ)
  | lookupSucceeded
  | lookupFailed (error : LookupError)
  | successHandled
  | rateLimited
  | rescheduled
  | retried
  | skippedCompleted
  | markedAsComplete (now : ℤ)
  | signalAccountsBuilt
  | terminated

namespace IntersectionSystem

/-- The app has been installed. -/
def start : IntersectionSystem where
  database := { lastKnownContactPhoneNumbers := none, nextFullIntersectionDate := none }
  serialQueue := []
  tasks := []
  succeeded := []
  completions := []
  issued := 0
  launched := 0

/-- A step.  The serial queue runs its first block; anything else may come in any order. -/
inductive Step : IntersectionSystem → IntersectionEvent → IntersectionSystem → Prop
  | updateWithContacts {s : IntersectionSystem} {update : ContactUpdate}
      (hid : update.id = s.issued) :
      Step s (.updateWithContacts update) { s with
        serialQueue := s.serialQueue ++ [.buildContactsMap update]
        issued := s.issued + 1 }
  | contactsMapBuilt {s : IntersectionSystem} {update : ContactUpdate} {rest : List SerialBlock}
      (hqueue : s.serialQueue = .buildContactsMap update :: rest) :
      Step s .contactsMapBuilt { s with
        serialQueue := rest
        tasks := s.tasks ++ [.beginIntersection update] }
  | intersectionBegun {s : IntersectionSystem} {update : ContactUpdate}
      {before after : List IntersectionTask}
      (htasks : s.tasks = before ++ .beginIntersection update :: after) :
      Step s .intersectionBegun { s with
        serialQueue := s.serialQueue ++ [.intersect update]
        tasks := before ++ after }
  | intersected {s : IntersectionSystem} {update : ContactUpdate} {rest : List SerialBlock}
      (now : ℤ) (hqueue : s.serialQueue = .intersect update :: rest) :
      Step s (.intersected now) { s with
        serialQueue := rest
        tasks := s.tasks ++ [(s.database.intersection now update).firstTask] }
  | lookupSucceeded {s : IntersectionSystem} {intersection : ContactIntersection}
      {retryDelaySeconds : ℕ} {before after : List IntersectionTask}
      (htasks : s.tasks = before ++ .lookup intersection retryDelaySeconds :: after) :
      Step s .lookupSucceeded { s with
        tasks := before ++ .success intersection :: after
        succeeded := s.succeeded ++ [intersection.recipientIdsForIntersection] }
  | lookupFailed {s : IntersectionSystem} {intersection : ContactIntersection}
      {retryDelaySeconds : ℕ} {before after : List IntersectionTask} (error : LookupError)
      (htasks : s.tasks = before ++ .lookup intersection retryDelaySeconds :: after) :
      Step s (.lookupFailed error) { s with
        tasks := before ++ .failure intersection retryDelaySeconds error :: after }
  | successHandled {s : IntersectionSystem} {intersection : ContactIntersection}
      {before after : List IntersectionTask}
      (htasks : s.tasks = before ++ .success intersection :: after) :
      Step s .successHandled { s with
        serialQueue := s.serialQueue ++
          [.markAsComplete intersection.update.allContactRecipientIds
            intersection.isFullIntersection,
           .buildSignalAccounts intersection.update.shouldClearStaleCache]
        tasks := before ++ after
        completions := s.completions ++ [(intersection.update, none)] }
  | rateLimited {s : IntersectionSystem} {intersection : ContactIntersection}
      {retryDelaySeconds : ℕ} {error : LookupError} {before after : List IntersectionTask}
      (htasks : s.tasks = before ++ .failure intersection retryDelaySeconds error :: after)
      (herror : error.IsRateLimit) :
      Step s .rateLimited { s with
        serialQueue := s.serialQueue ++
          [.buildSignalAccounts intersection.update.shouldClearStaleCache]
        tasks := before ++ after
        completions := s.completions ++ [(intersection.update, some error)] }
  | rescheduled {s : IntersectionSystem} {intersection : ContactIntersection}
      {retryDelaySeconds : ℕ} {error : LookupError} {before after : List IntersectionTask}
      (htasks : s.tasks = before ++ .failure intersection retryDelaySeconds error :: after)
      (herror : ¬error.IsRateLimit) :
      Step s .rescheduled { s with
        tasks := before ++ .retry intersection retryDelaySeconds :: after }
  | retried {s : IntersectionSystem} {intersection : ContactIntersection}
      {retryDelaySeconds : ℕ} {before after : List IntersectionTask}
      (htasks : s.tasks = before ++ .retry intersection retryDelaySeconds :: after) :
      Step s .retried { s with
        tasks := before ++ .lookup intersection (retryDelaySeconds * 2) :: after }
  | skippedCompleted {s : IntersectionSystem} {update : ContactUpdate}
      {before after : List IntersectionTask}
      (htasks : s.tasks = before ++ .completeSkipped update :: after) :
      Step s .skippedCompleted { s with
        serialQueue := s.serialQueue ++ [.buildSignalAccounts update.shouldClearStaleCache]
        tasks := before ++ after
        completions := s.completions ++ [(update, none)] }
  | markedAsComplete {s : IntersectionSystem} {recipientIds : Finset String}
      {isFullIntersection : Bool} {rest : List SerialBlock} (now : ℤ)
      (hqueue : s.serialQueue = .markAsComplete recipientIds isFullIntersection :: rest) :
      Step s (.markedAsComplete now) { s with
        database := s.database.markAsComplete now recipientIds isFullIntersection
        serialQueue := rest }
  | signalAccountsBuilt {s : IntersectionSystem} {shouldClearStaleCache : Bool}
      {rest : List SerialBlock}
      (hqueue : s.serialQueue = .buildSignalAccounts shouldClearStaleCache :: rest) :
      Step s .signalAccountsBuilt { s with serialQueue := rest }
  /-- The process ends, and another is launched. -/
  | terminated {s : IntersectionSystem} :
      Step s .terminated { s with serialQueue := [], tasks := [], launched := s.issued }

end IntersectionSystem

/-! ## What has been looked up -/

def LookedUp (succeeded : List (Finset String)) (numbers : Finset String) : Prop :=
  ∀ number ∈ numbers, ∃ recipientIds ∈ succeeded, number ∈ recipientIds

variable {succeeded : List (Finset String)} {numbers others : Finset String}

theorem LookedUp.append (h : LookedUp succeeded numbers) (recipientIds : Finset String) :
    LookedUp (succeeded ++ [recipientIds]) numbers := by
  intro number hnumber
  obtain ⟨found, hfound, hmem⟩ := h number hnumber
  exact ⟨found, List.mem_append_left _ hfound, hmem⟩

theorem LookedUp.last : LookedUp (succeeded ++ [numbers]) numbers :=
  fun _ hnumber => ⟨numbers, List.mem_append_right _ (List.mem_singleton_self _), hnumber⟩

/-- What is left out of some numbers has been looked up, and so have they all when the rest is. -/
theorem LookedUp.of_sdiff (h : LookedUp succeeded (numbers \ others))
    (hothers : LookedUp succeeded others) : LookedUp succeeded numbers := by
  intro number hnumber
  by_cases hmem : number ∈ others
  · exact hothers number hmem
  · exact h number (Finset.mem_sdiff.mpr ⟨hnumber, hmem⟩)

theorem LookedUp.mono (h : LookedUp succeeded others) (hsub : numbers ⊆ others) :
    LookedUp succeeded numbers :=
  fun number hnumber => h number (hsub hnumber)

/-- The numbers that an intersection does not look up. -/
def ContactIntersection.leftOut (intersection : ContactIntersection) : Finset String :=
  intersection.update.allContactRecipientIds \ intersection.recipientIdsForIntersection

def SerialBlock.IsSound (succeeded : List (Finset String)) : SerialBlock → Prop
  | markAsComplete recipientIds _ => LookedUp succeeded recipientIds
  | buildContactsMap _ | intersect _ | buildSignalAccounts _ => True

/-- What a task relies on: **what an intersection leaves out has been looked up.** -/
def IntersectionTask.IsSound (succeeded : List (Finset String)) : IntersectionTask → Prop
  | beginIntersection _ => True
  | completeSkipped update => LookedUp succeeded update.allContactRecipientIds
  | lookup intersection _ | failure intersection _ _ | retry intersection _ =>
      LookedUp succeeded intersection.leftOut
  | success intersection => LookedUp succeeded intersection.update.allContactRecipientIds

theorem SerialBlock.IsSound.append {block : SerialBlock} (h : block.IsSound succeeded)
    (recipientIds : Finset String) : block.IsSound (succeeded ++ [recipientIds]) := by
  cases block with
  | markAsComplete recipientIds isFullIntersection => exact LookedUp.append h _
  | buildContactsMap update => trivial
  | intersect update => trivial
  | buildSignalAccounts shouldClearStaleCache => trivial

theorem IntersectionTask.IsSound.append {task : IntersectionTask} (h : task.IsSound succeeded)
    (recipientIds : Finset String) : task.IsSound (succeeded ++ [recipientIds]) := by
  cases task with
  | beginIntersection update => trivial
  | completeSkipped update | lookup intersection retryDelaySeconds | success intersection
  | failure intersection retryDelaySeconds error | retry intersection retryDelaySeconds =>
      exact LookedUp.append h _

/-- An intersection leaves out only numbers that were known when it read the database. -/
theorem leftOut_intersection {database : IntersectionDatabase} {now : ℤ} {update : ContactUpdate}
    (hknown : ∀ known, database.lastKnownContactPhoneNumbers = some known →
      LookedUp succeeded known) :
    LookedUp succeeded (database.intersection now update).leftOut := by
  rw [IntersectionDatabase.intersection]
  split
  · rename_i known _ hdatabase
    refine (hknown _ hdatabase).mono ?_
    rw [ContactIntersection.leftOut, sdiff_sdiff_right_self]
    exact Finset.inter_subset_right
  · rw [ContactIntersection.leftOut, sdiff_self]
    exact fun _ hnumber => absurd hnumber (Finset.notMem_empty _)

/-- Where there is nothing to look up, everything has been looked up. -/
theorem isSound_firstTask {intersection : ContactIntersection}
    (h : LookedUp succeeded intersection.leftOut) : intersection.firstTask.IsSound succeeded := by
  rw [ContactIntersection.firstTask]
  split
  · rename_i hcard
    have hempty : intersection.recipientIdsForIntersection = ∅ :=
      Finset.card_eq_zero.mp (Nat.lt_one_iff.mp hcard)
    rw [ContactIntersection.leftOut, hempty, Finset.sdiff_empty] at h
    exact h
  · exact h

theorem forall_first_rest {α : Type} {p : α → Prop} {list rest : List α} {a : α}
    (h : ∀ b ∈ list, p b) (hlist : list = a :: rest) : p a ∧ ∀ b ∈ rest, p b := by
  rw [hlist] at h
  exact List.forall_mem_cons.mp h

theorem forall_around {α : Type} {p : α → Prop} {list before after : List α} {a : α}
    (h : ∀ b ∈ list, p b) (hlist : list = before ++ a :: after) :
    (∀ b ∈ before, p b) ∧ p a ∧ ∀ b ∈ after, p b := by
  rw [hlist] at h
  obtain ⟨hbefore, hrest⟩ := List.forall_mem_append.mp h
  exact ⟨hbefore, List.forall_mem_cons.mp hrest⟩

/-- One takes the place of another. -/
theorem forall_replaced {α : Type} {p : α → Prop} {list before after : List α} {a b : α}
    (h : ∀ c ∈ list, p c) (hlist : list = before ++ a :: after) (hnew : p a → p b) :
    ∀ c ∈ before ++ b :: after, p c := by
  obtain ⟨hbefore, ha, hafter⟩ := forall_around h hlist
  exact List.forall_mem_append.mpr ⟨hbefore, List.forall_mem_cons.mpr ⟨hnew ha, hafter⟩⟩

namespace IntersectionSystem

variable {s s' : IntersectionSystem} {event : IntersectionEvent}

/-- Only numbers that have been looked up are known, or left out. -/
structure Sound (s : IntersectionSystem) : Prop where
  known : ∀ known, s.database.lastKnownContactPhoneNumbers = some known →
    LookedUp s.succeeded known
  queue : ∀ block ∈ s.serialQueue, block.IsSound s.succeeded
  tasks : ∀ task ∈ s.tasks, task.IsSound s.succeeded
  completions : ∀ update, (update, none) ∈ s.completions →
    LookedUp s.succeeded update.allContactRecipientIds

/-- Blocks that rely on nothing may be added to the queue. -/
theorem Sound.forall_queue_append {blocks : List SerialBlock} (sound : s.Sound)
    (hblocks : ∀ block ∈ blocks, block.IsSound s.succeeded) :
    ∀ block ∈ s.serialQueue ++ blocks, block.IsSound s.succeeded :=
  List.forall_mem_append.mpr ⟨sound.queue, hblocks⟩

theorem Sound.completions_append {completed : ContactUpdate × Option LookupError}
    (sound : s.Sound) (hcompleted : completed.2 = none →
      LookedUp s.succeeded completed.1.allContactRecipientIds) :
    ∀ update, (update, none) ∈ s.completions ++ [completed] →
      LookedUp s.succeeded update.allContactRecipientIds := by
  intro update hmem
  rcases List.mem_append.mp hmem with hmem | hmem
  · exact sound.completions update hmem
  · obtain rfl := List.mem_singleton.mp hmem
    exact hcompleted rfl

/-- **A step keeps it so.** -/
theorem Sound.step (sound : s.Sound) (step : Step s event s') : s'.Sound := by
  cases step with
  | updateWithContacts hid =>
      refine ⟨sound.known, ?_, sound.tasks, sound.completions⟩
      exact sound.forall_queue_append (List.forall_mem_singleton.mpr trivial)
  | contactsMapBuilt hqueue =>
      obtain ⟨-, hrest⟩ := forall_first_rest sound.queue hqueue
      refine ⟨sound.known, hrest, ?_, sound.completions⟩
      exact List.forall_mem_append.mpr ⟨sound.tasks, List.forall_mem_singleton.mpr trivial⟩
  | intersectionBegun htasks =>
      obtain ⟨hbefore, -, hafter⟩ := forall_around sound.tasks htasks
      refine ⟨sound.known, ?_, List.forall_mem_append.mpr ⟨hbefore, hafter⟩, sound.completions⟩
      exact sound.forall_queue_append (List.forall_mem_singleton.mpr trivial)
  | intersected now hqueue =>
      obtain ⟨-, hrest⟩ := forall_first_rest sound.queue hqueue
      refine ⟨sound.known, hrest, ?_, sound.completions⟩
      refine List.forall_mem_append.mpr ⟨sound.tasks, List.forall_mem_singleton.mpr ?_⟩
      exact isSound_firstTask (leftOut_intersection sound.known)
  | @lookupSucceeded intersection _ _ _ htasks =>
      have htasksAfter := fun task hmem => (sound.tasks task hmem).append
        intersection.recipientIdsForIntersection
      refine ⟨fun known hknown => (sound.known known hknown).append _,
        fun block hmem => (sound.queue block hmem).append _,
        forall_replaced htasksAfter htasks fun hleftOut => ?_,
        fun update hmem => (sound.completions update hmem).append _⟩
      -- What was not known before has been looked up now.
      exact LookedUp.of_sdiff hleftOut LookedUp.last
  | lookupFailed error htasks | rescheduled htasks herror | retried htasks =>
      exact ⟨sound.known, sound.queue, forall_replaced sound.tasks htasks id, sound.completions⟩
  | successHandled htasks =>
      obtain ⟨hbefore, hall, hafter⟩ := forall_around sound.tasks htasks
      refine ⟨sound.known, ?_, List.forall_mem_append.mpr ⟨hbefore, hafter⟩,
        sound.completions_append fun _ => hall⟩
      exact sound.forall_queue_append
        (List.forall_mem_cons.mpr ⟨hall, List.forall_mem_singleton.mpr trivial⟩)
  | rateLimited htasks herror =>
      obtain ⟨hbefore, -, hafter⟩ := forall_around sound.tasks htasks
      refine ⟨sound.known, ?_, List.forall_mem_append.mpr ⟨hbefore, hafter⟩,
        sound.completions_append fun hnone => absurd hnone (Option.some_ne_none _)⟩
      exact sound.forall_queue_append (List.forall_mem_singleton.mpr trivial)
  | skippedCompleted htasks =>
      obtain ⟨hbefore, hall, hafter⟩ := forall_around sound.tasks htasks
      refine ⟨sound.known, ?_, List.forall_mem_append.mpr ⟨hbefore, hafter⟩,
        sound.completions_append fun _ => hall⟩
      exact sound.forall_queue_append (List.forall_mem_singleton.mpr trivial)
  | markedAsComplete now hqueue =>
      obtain ⟨hmarked, hrest⟩ := forall_first_rest sound.queue hqueue
      refine ⟨?_, hrest, sound.tasks, sound.completions⟩
      rintro known hknown
      cases hknown
      exact hmarked
  | signalAccountsBuilt hqueue =>
      obtain ⟨-, hrest⟩ := forall_first_rest sound.queue hqueue
      exact ⟨sound.known, hrest, sound.tasks, sound.completions⟩
  | terminated =>
      exact ⟨sound.known, fun _ hmem => absurd hmem List.not_mem_nil,
        fun _ hmem => absurd hmem List.not_mem_nil, sound.completions⟩

/-! ## Completions -/

end IntersectionSystem

/-- Whether a block brings the completion of an update about. -/
def SerialBlock.isOf (id : ℕ) : SerialBlock → Bool
  | buildContactsMap update | intersect update => update.id = id
  | markAsComplete _ _ | buildSignalAccounts _ => false

def IntersectionTask.isOf (id : ℕ) : IntersectionTask → Bool
  | beginIntersection update | completeSkipped update => update.id = id
  | lookup intersection _ | success intersection | failure intersection _ _
  | retry intersection _ => intersection.update.id = id

variable {id : ℕ} {update : ContactUpdate} {intersection : ContactIntersection}
  {retryDelaySeconds : ℕ}

@[simp] theorem isOf_buildContactsMap :
    (SerialBlock.buildContactsMap update).isOf id = decide (update.id = id) := rfl

@[simp] theorem isOf_intersect :
    (SerialBlock.intersect update).isOf id = decide (update.id = id) := rfl

@[simp] theorem isOf_markAsComplete {recipientIds : Finset String} {isFullIntersection : Bool} :
    (SerialBlock.markAsComplete recipientIds isFullIntersection).isOf id = false := rfl

@[simp] theorem isOf_buildSignalAccounts {shouldClearStaleCache : Bool} :
    (SerialBlock.buildSignalAccounts shouldClearStaleCache).isOf id = false := rfl

@[simp] theorem isOf_beginIntersection :
    (IntersectionTask.beginIntersection update).isOf id = decide (update.id = id) := rfl

@[simp] theorem isOf_completeSkipped :
    (IntersectionTask.completeSkipped update).isOf id = decide (update.id = id) := rfl

@[simp] theorem isOf_lookup :
    (IntersectionTask.lookup intersection retryDelaySeconds).isOf id =
      decide (intersection.update.id = id) := rfl

@[simp] theorem isOf_success :
    (IntersectionTask.success intersection).isOf id = decide (intersection.update.id = id) := rfl

@[simp] theorem isOf_failure {error : LookupError} :
    (IntersectionTask.failure intersection retryDelaySeconds error).isOf id =
      decide (intersection.update.id = id) := rfl

@[simp] theorem isOf_retry :
    (IntersectionTask.retry intersection retryDelaySeconds).isOf id =
      decide (intersection.update.id = id) := rfl

@[simp] theorem isOf_firstTask {database : IntersectionDatabase} {now : ℤ} :
    (database.intersection now update).firstTask.isOf id = decide (update.id = id) := by
  have hupdate : (database.intersection now update).update = update := by
    rw [IntersectionDatabase.intersection]
    split <;> rfl
  rw [ContactIntersection.firstTask]
  split <;> simp [hupdate]

namespace IntersectionSystem

/-- How often the completion of an update has been called. -/
def completed (s : IntersectionSystem) (id : ℕ) : ℕ := s.completions.countP (·.1.id = id)

/-- How many blocks and tasks will bring it about. -/
def underWay (s : IntersectionSystem) (id : ℕ) : ℕ :=
  s.serialQueue.countP (·.isOf id) + s.tasks.countP (·.isOf id)

/-- The calls that there were, and those that are to come. -/
def total (s : IntersectionSystem) (id : ℕ) : ℕ := s.completed id + s.underWay id

variable {s s' : IntersectionSystem} {event : IntersectionEvent}

/-- An update is to call its completion. -/
theorem total_updateWithContacts {update : ContactUpdate}
    (step : Step s (.updateWithContacts update) s') (id : ℕ) :
    s'.total id = s.total id + if id = s.issued then 1 else 0 := by
  cases step with
  | updateWithContacts hid =>
      simp only [total, completed, underWay, List.countP_append, List.countP_singleton,
        isOf_buildContactsMap, hid, decide_eq_true_eq, @eq_comm _ id]
      omega

/-- When the process ends, nothing is to come any more. -/
theorem total_terminated (step : Step s .terminated s') (id : ℕ) : s'.total id ≤ s.total id := by
  cases step with
  | terminated => exact Nat.le_add_right _ _

/-- **No other step makes or loses a completion.** -/
theorem total_eq (step : Step s event s')
    (hevent : ∀ update, event ≠ .updateWithContacts update) (hterminated : event ≠ .terminated)
    (id : ℕ) : s'.total id = s.total id := by
  cases step with
  | updateWithContacts hid => exact absurd rfl (hevent _)
  | contactsMapBuilt hqueue | intersected now hqueue =>
      simp [total, completed, underWay, hqueue, List.countP_cons]
      omega
  | intersectionBegun htasks | successHandled htasks | rateLimited htasks herror
  | skippedCompleted htasks =>
      simp [total, completed, underWay, htasks, List.countP_cons]
      omega
  | lookupSucceeded htasks | lookupFailed error htasks | rescheduled htasks herror
  | retried htasks =>
      simp [total, completed, underWay, htasks, List.countP_cons]
  | markedAsComplete now hqueue | signalAccountsBuilt hqueue =>
      simp [total, completed, underWay, hqueue]
  | terminated => exact absurd rfl hterminated

/-- Each update of this process is to call its completion, or has called it; those of earlier
processes may not have come to it. -/
structure Counted (s : IntersectionSystem) : Prop where
  launched_le : s.launched ≤ s.issued
  atMostOnce : ∀ id, s.total id ≤ 1
  once : ∀ id, s.launched ≤ id → id < s.issued → s.total id = 1
  later : ∀ id, s.issued ≤ id → s.total id = 0

theorem counted_start : start.Counted :=
  ⟨le_rfl, fun _ => Nat.zero_le _, fun _ _ hlt => absurd hlt (Nat.not_lt_zero _), fun _ _ => rfl⟩

/-- Only these two steps change which updates there are, and which are of this process. -/
theorem issued_eq (step : Step s event s')
    (hevent : ∀ update, event ≠ .updateWithContacts update) (hterminated : event ≠ .terminated) :
    s'.issued = s.issued ∧ s'.launched = s.launched := by
  cases step with
  | updateWithContacts hid => exact absurd rfl (hevent _)
  | terminated => exact absurd rfl hterminated
  | _ => exact ⟨rfl, rfl⟩

/-- **A step keeps the count.** -/
theorem Counted.step (counted : s.Counted) (step : Step s event s') : s'.Counted := by
  by_cases hupdate : ∃ update, event = .updateWithContacts update
  · obtain ⟨update, rfl⟩ := hupdate
    have htotal := total_updateWithContacts step
    have hlast := counted.later s.issued le_rfl
    cases step with
    | updateWithContacts hid =>
        refine ⟨Nat.le_succ_of_le counted.launched_le, fun id => ?_, fun id hle hlt => ?_,
          fun id hle => ?_⟩
        · rw [htotal]
          split
          · rename_i heq
            rw [heq, hlast]
          · exact counted.atMostOnce id
        · rw [htotal]
          rcases Nat.lt_succ_iff_lt_or_eq.mp hlt with hlt | rfl
          · rw [counted.once id hle hlt, if_neg (Nat.ne_of_lt hlt)]
          · rw [hlast, if_pos rfl]
        · rw [htotal, counted.later id (Nat.le_of_succ_le hle),
            if_neg (Nat.ne_of_gt (Nat.lt_of_succ_le hle))]
  by_cases hterminated : event = .terminated
  · subst hterminated
    have htotal := total_terminated step
    cases step with
    | terminated =>
        refine ⟨le_rfl, fun id => (htotal id).trans (counted.atMostOnce id),
          fun id hle hlt => absurd hlt (Nat.not_lt.mpr hle), fun id hle => ?_⟩
        exact Nat.le_zero.mp ((htotal id).trans (counted.later id hle).le)
  · have hevent : ∀ update, event ≠ .updateWithContacts update :=
      fun update heq => hupdate ⟨update, heq⟩
    obtain ⟨hissued, hlaunched⟩ := issued_eq step hevent hterminated
    have htotal := total_eq step hevent hterminated
    refine ⟨?_, fun id => ?_, fun id hle hlt => ?_, fun id hle => ?_⟩
    · rw [hissued, hlaunched]
      exact counted.launched_le
    · rw [htotal]
      exact counted.atMostOnce id
    · rw [htotal]
      exact counted.once id (hlaunched ▸ hle) (hissued ▸ hlt)
    · rw [htotal]
      exact counted.later id (hissued ▸ hle)

/-! ## Every run -/

theorem sound_start : start.Sound where
  known _ hknown := absurd hknown (Option.some_ne_none _).symm
  queue _ hmem := absurd hmem List.not_mem_nil
  tasks _ hmem := absurd hmem List.not_mem_nil
  completions _ hmem := absurd hmem List.not_mem_nil

/-- **No contact is skipped,** and completions are called once. -/
structure NoContactSkipped (s : IntersectionSystem) : Prop where
  known : ∀ known, s.database.lastKnownContactPhoneNumbers = some known →
    LookedUp s.succeeded known
  /-- So has every number of an intersection that completed without error. -/
  completed : ∀ update, (update, none) ∈ s.completions →
    LookedUp s.succeeded update.allContactRecipientIds
  atMostOnce : ∀ id, s.completed id ≤ 1
  /-- What has not completed in this process is under way, once, -/
  exactlyOnce : ∀ id, s.launched ≤ id → id < s.issued →
    s.completed id = 1 ∧ s.underWay id = 0 ∨ s.completed id = 0 ∧ s.underWay id = 1
  /-- which means, when nothing is left to do but to wait, that its lookup is in flight, or is to be
  retried. -/
  retried : s.serialQueue = [] →
    (∀ task ∈ s.tasks, ∃ intersection retryDelaySeconds,
      task = .lookup intersection retryDelaySeconds ∨
        task = .retry intersection retryDelaySeconds) →
      ∀ id, s.launched ≤ id → id < s.issued →
        s.completed id = 1 ∨ ∃ intersection retryDelaySeconds,
          intersection.update.id = id ∧
            (.lookup intersection retryDelaySeconds ∈ s.tasks ∨
              .retry intersection retryDelaySeconds ∈ s.tasks)

/-- **Over every run,** from the installation of the app, of updates whose intersections overlap in
any way. -/
theorem noContactSkipped {events : List IntersectionEvent}
    (run : LabelledRun Step start events s) : s.NoContactSkipped := by
  obtain ⟨sound, counted⟩ : s.Sound ∧ s.Counted := by
    refine run.invariant (I := fun _ s => s.Sound ∧ s.Counted) ⟨sound_start, counted_start⟩ ?_
    rintro _ _ _ _ ⟨sound, counted⟩ step
    exact ⟨sound.step step, counted.step step⟩
  have honce : ∀ id, s.launched ≤ id → id < s.issued →
      s.completed id = 1 ∧ s.underWay id = 0 ∨ s.completed id = 0 ∧ s.underWay id = 1 := by
    intro id hle hlt
    have htotal := counted.once id hle hlt
    rw [total] at htotal
    omega
  refine ⟨sound.known, sound.completions, fun id => ?_, honce, fun hqueue htasks id hle hlt => ?_⟩
  · exact (Nat.le_add_right _ _).trans (counted.atMostOnce id)
  · refine (honce id hle hlt).imp (·.1) fun hunderWay => ?_
    have hcount : s.tasks.countP (·.isOf id) = 1 := by
      have hsum := hunderWay.2
      rw [underWay, hqueue, List.countP_nil, Nat.zero_add] at hsum
      exact hsum
    obtain ⟨task, htask, hof⟩ := List.countP_pos_iff.mp (hcount ▸ Nat.one_pos)
    obtain ⟨intersection, retryDelaySeconds, heq | heq⟩ := htasks task htask
    · subst heq
      exact ⟨intersection, retryDelaySeconds, by simpa using hof, .inl htask⟩
    · subst heq
      exact ⟨intersection, retryDelaySeconds, by simpa using hof, .inr htask⟩

def sampleUpdate : ContactUpdate where
  id := 0
  contacts := [{
    cnContactId := "contact"
    firstName := some "Ann"
    lastName := none
    fullName := some "Ann"
    userTextPhoneNumbers := ["+14155550100"]
    parsedPhoneNumbers := [{
      phoneNumber := {
        countryCode := 1
        nationalNumber := 4155550100
        extension := none
        italianLeadingZero := false
        numberOfLeadingZeros := 1 }
      e164 := "+14155550100" }]
    phoneNumberNameMap := ∅
    emails := []
    imageHash := 0 }]
  isUserRequested := false
  shouldClearStaleCache := true

/-- Its number is looked up, is known then, and the completion is called. -/
theorem noContactSkipped_first : ∃ events s, LabelledRun Step start events s ∧
    s.database.lastKnownContactPhoneNumbers = some {"+14155550100"} ∧ s.completed 0 = 1 ∧
      s.NoContactSkipped := by
  have begun : LabelledRun Step start _ _ :=
    .tail (.tail (.single (@Step.updateWithContacts _ sampleUpdate rfl))
      (.contactsMapBuilt rfl)) (@Step.intersectionBegun _ _ [] _ rfl)
  have lookedUp : LabelledRun Step start _ _ :=
    .tail (.tail begun (.intersected 0 rfl)) (@Step.lookupSucceeded _ _ _ [] _ rfl)
  have marked : LabelledRun Step start _ _ :=
    .tail (.tail lookedUp (@Step.successHandled _ _ [] _ rfl)) (.markedAsComplete 0 rfl)
  exact ⟨_, _, marked, by decide, by decide, noContactSkipped marked⟩

end IntersectionSystem

end ObjcSwiftLearning.SignalMessaging
