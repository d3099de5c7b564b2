import Mathlib.Data.List.Nodup
import Mathlib.Data.List.Sort
import ObjcSwiftLearning.Library.LabelledRun

/-!
# Queues that outlive their worker

Jobs are stored until they have been worked on.  To work on some of them and to remove these
are two things that happen one after the other, and the worker alone knows what it has worked
on.  It may be killed in between; another then finds the jobs, and works on them again.

* `WorkQueue` — what is stored, and what has been worked on since.
* `WorkQueue.sound` — over every run, **a job is removed only after it has been worked on**,
  and **worked on once, and once more for each time that the worker was killed in between**.
-/

/-- The jobs, and what the worker remembers. -/
structure WorkQueue (α κ : Type) where
  /-- In the order in which they are worked on. -/
  stored : List α
  /-- Those worked on, and not removed yet. -/
  worked : List α
  keys : List κ

namespace WorkQueue

variable {α κ : Type} {key : α → κ} {before : α → α → Prop} [DecidableRel before]
  {queue queue' : WorkQueue α κ} {a b : α}

/-- A queue without jobs. -/
def empty : WorkQueue α κ where
  stored := []
  worked := []
  keys := []

/-- A job is stored, in front of those that it comes before. -/
def add (key : α → κ) (before : α → α → Prop) [DecidableRel before] (queue : WorkQueue α κ)
    (a : α) : WorkQueue α κ :=
  { queue with
    stored := queue.stored.orderedInsert before a
    keys := key a :: queue.keys }

/-- Some jobs have been worked on. -/
def work (queue : WorkQueue α κ) (batch : List α) : WorkQueue α κ :=
  { queue with worked := batch }

def removeWorked [DecidableEq κ] (key : α → κ) (queue : WorkQueue α κ) : WorkQueue α κ :=
  { queue with
    stored := queue.stored.filter (key · ∉ queue.worked.map key)
    worked := [] }

def kill (queue : WorkQueue α κ) : WorkQueue α κ :=
  { queue with worked := [] }

/-- What happens to a queue. -/
inductive Event (α : Type) where
  | added (a : α)
  | worked (batch : List α)
  | removed
  /-- The worker is killed, after it has worked on some jobs and before it removed them. -/
  | killed (unremoved : List α)

/-- The jobs that are worked on. -/
def Event.batch : Event α → List α
  | .worked batch => batch
  | _ => []

/-- The jobs that are forgotten to have been worked on. -/
def Event.unremoved : Event α → List α
  | .killed unremoved => unremoved
  | _ => []

/-- The jobs that have been worked on, as often as they have. -/
def workings (events : List (Event α)) : List α := events.flatMap Event.batch

/-- The jobs that have been forgotten to have been worked on, as often as they have. -/
def interruptions (events : List (Event α)) : List α := events.flatMap Event.unremoved

/-- One step.  A key is not used twice. -/
inductive Step [DecidableEq κ] (key : α → κ) (before : α → α → Prop) [DecidableRel before] :
    WorkQueue α κ → Event α → WorkQueue α κ → Prop
  | added {queue : WorkQueue α κ} (a : α) (hnew : key a ∉ queue.keys) :
      Step key before queue (.added a) (queue.add key before a)
  | worked {queue : WorkQueue α κ} (batch : List α) (hidle : queue.worked = [])
      (hbatch : batch <+: queue.stored) :
      Step key before queue (.worked batch) (queue.work batch)
  | removed {queue : WorkQueue α κ} :
      Step key before queue .removed (queue.removeWorked key)
  | killed {queue : WorkQueue α κ} :
      Step key before queue (.killed queue.worked) queue.kill

/-! ## What holds of every run -/

/-- What is known about a queue after some events. -/
structure Sound (key : α → κ) (events : List (Event α)) (queue : WorkQueue α κ)
    [DecidableEq α] : Prop where
  nodup : (queue.stored.map key).Nodup
  key_mem : ∀ a, .added a ∈ events → key a ∈ queue.keys
  added : ∀ a ∈ queue.stored, .added a ∈ events
  worked_subset : queue.worked ⊆ queue.stored
  worked_workings : queue.worked ⊆ workings events
  workings_added : ∀ a ∈ workings events, .added a ∈ events
  kept : ∀ a, .added a ∈ events → a ∈ queue.stored ∨ a ∈ workings events
  /-- A job is to be worked on as often as that was forgotten, and once more. -/
  count_le : ∀ a, (workings events).count a ≤
    (interruptions events).count a + if a ∈ queue.stored ∧ a ∉ queue.worked then 0 else 1

@[simp] theorem workings_append (events events' : List (Event α)) :
    workings (events ++ events') = workings events ++ workings events' :=
  List.flatMap_append

@[simp] theorem interruptions_append (events events' : List (Event α)) :
    interruptions (events ++ events') = interruptions events ++ interruptions events' :=
  List.flatMap_append

@[simp] theorem workings_singleton (event : Event α) : workings [event] = event.batch :=
  List.flatMap_singleton _ _

@[simp] theorem interruptions_singleton (event : Event α) :
    interruptions [event] = event.unremoved :=
  List.flatMap_singleton _ _

@[simp] theorem mem_stored_add : b ∈ (queue.add key before a).stored ↔ b = a ∨ b ∈ queue.stored :=
  List.mem_orderedInsert before

variable [DecidableEq α] {events : List (Event α)}

theorem sound_empty : Sound key [] (empty : WorkQueue α κ) where
  nodup := List.nodup_nil
  key_mem _ h := nomatch h
  added _ h := nomatch h
  worked_subset := List.Subset.refl _
  worked_workings := List.Subset.refl _
  workings_added _ h := nomatch h
  kept _ h := nomatch h
  count_le _ := Nat.zero_le _

section

variable (h : Sound key events queue)
include h

theorem Sound.eq_of_key_eq (ha : a ∈ queue.stored)
    (hb : b ∈ queue.stored) (hkey : key a = key b) : a = b :=
  List.inj_on_of_nodup_map h.nodup ha hb hkey

theorem Sound.mem_removeWorked_iff [DecidableEq κ] :
    a ∈ (queue.removeWorked key).stored ↔ a ∈ queue.stored ∧ a ∉ queue.worked := by
  simp only [removeWorked, List.mem_filter, decide_eq_true_eq]
  refine and_congr_right fun ha => not_congr ⟨fun hkey => ?_, List.mem_map_of_mem⟩
  obtain ⟨b, hb, hba⟩ := List.mem_map.mp hkey
  rwa [← h.eq_of_key_eq (h.worked_subset hb) ha hba]

/-- A new job. -/
theorem Sound.added_step (hnew : key a ∉ queue.keys) :
    Sound key (events ++ [.added a]) (queue.add key before a) := by
  have hunknown : .added a ∉ events := fun hadded => hnew (h.key_mem a hadded)
  constructor
  case nodup =>
    refine (((List.perm_orderedInsert before a queue.stored).map key).nodup_iff).mpr ?_
    refine List.nodup_cons.mpr ⟨fun hkey => ?_, h.nodup⟩
    obtain ⟨b, hb, hba⟩ := List.mem_map.mp hkey
    exact hnew (hba ▸ h.key_mem b (h.added b hb))
  case key_mem =>
    intro b hb
    rcases List.mem_append.mp hb with hb | hb
    · exact List.mem_cons_of_mem _ (h.key_mem b hb)
    · obtain rfl : b = a := by simpa using hb
      exact List.mem_cons_self
  case added =>
    intro b hb
    rcases mem_stored_add.mp hb with rfl | hb
    · simp
    · exact List.mem_append_left _ (h.added b hb)
  case worked_subset => exact fun b hb => mem_stored_add.mpr (.inr (h.worked_subset hb))
  case worked_workings => exact fun b hb => by simpa [Event.batch] using h.worked_workings hb
  case workings_added =>
    exact fun b hb => List.mem_append_left _ (h.workings_added b (by simpa [Event.batch] using hb))
  case kept =>
    intro b hb
    rcases List.mem_append.mp hb with hb | hb
    · exact (h.kept b hb).imp (fun hb => mem_stored_add.mpr (.inr hb))
        (fun hb => by simpa [Event.batch] using hb)
    · obtain rfl : b = a := by simpa using hb
      exact .inl (mem_stored_add.mpr (.inl rfl))
  case count_le =>
    intro b
    have hcount := h.count_le b
    simp only [workings_append, workings_singleton, Event.batch, interruptions_append,
      interruptions_singleton, Event.unremoved, List.append_nil, mem_stored_add]
    by_cases hb : b = a
    · -- a new job has not been worked on
      subst hb
      have hzero : (workings events).count b = 0 :=
        List.count_eq_zero.mpr fun hworked => hunknown (h.workings_added b hworked)
      omega
    · simpa [hb, add] using hcount

/-- A step that adds no job. -/
theorem Sound.append {event : Event α}
    (hother : ∀ a, event ≠ .added a) (hkeys : queue'.keys = queue.keys)
    (hstored : queue'.stored.Sublist queue.stored) (hworked : queue'.worked ⊆ queue'.stored)
    (hworkings : queue'.worked ⊆ workings events ++ event.batch)
    (hbatch : event.batch ⊆ queue.stored)
    (hkept : ∀ a ∈ queue.stored, a ∈ queue'.stored ∨ a ∈ workings events ++ event.batch)
    (hcount : ∀ a, (workings events).count a + event.batch.count a ≤
      (interruptions events).count a + event.unremoved.count a +
        if a ∈ queue'.stored ∧ a ∉ queue'.worked then 0 else 1) :
    Sound key (events ++ [event]) queue' := by
  have hadded : ∀ a, .added a ∈ events ++ [event] → .added a ∈ events := by
    intro a ha
    rcases List.mem_append.mp ha with ha | ha
    · exact ha
    · exact absurd (List.mem_singleton.mp ha).symm (hother a)
  constructor
  case nodup => exact (hstored.map key).nodup h.nodup
  case key_mem => exact fun a ha => hkeys ▸ h.key_mem a (hadded a ha)
  case added => exact fun a ha => List.mem_append_left _ (h.added a (hstored.subset ha))
  case worked_subset => exact hworked
  case worked_workings => rwa [workings_append, workings_singleton]
  case workings_added =>
    intro a ha
    rw [workings_append, workings_singleton] at ha
    refine List.mem_append_left _ ((List.mem_append.mp ha).elim (h.workings_added a) fun ha => ?_)
    exact h.added a (hbatch ha)
  case kept =>
    intro a ha
    rw [workings_append, workings_singleton]
    exact (h.kept a (hadded a ha)).elim (hkept a) fun ha => .inr (List.mem_append_left _ ha)
  case count_le =>
    intro a
    rw [workings_append, workings_singleton, interruptions_append, interruptions_singleton,
      List.count_append, List.count_append]
    exact hcount a

theorem Sound.worked_step {batch : List α}
    (hidle : queue.worked = []) (hbatch : batch <+: queue.stored) :
    Sound key (events ++ [.worked batch]) (queue.work batch) := by
  refine h.append nofun rfl (.refl _) hbatch.subset (List.subset_append_right _ _) hbatch.subset
    (fun a ha => .inl ha) fun a => ?_
  have hcount := h.count_le a
  have honce : batch.count a ≤ 1 :=
    List.nodup_iff_count_le_one.mp (h.nodup.of_map.sublist hbatch.sublist) a
  simp only [Event.batch, Event.unremoved, List.count_nil, work]
  rw [hidle] at hcount
  by_cases ha : a ∈ batch
  · -- it was stored, and not worked on
    simp only [hbatch.subset ha, List.not_mem_nil, not_false_eq_true, and_self, if_true] at hcount
    simp only [ha, not_true_eq_false, and_false, if_false]
    omega
  · rw [List.count_eq_zero.mpr ha]
    simpa [ha] using hcount

theorem Sound.removed_step [DecidableEq κ] :
    Sound key (events ++ [.removed]) (queue.removeWorked key) := by
  refine h.append nofun rfl List.filter_sublist (List.nil_subset _) (List.nil_subset _)
    (List.nil_subset _) (fun a ha => ?_) fun a => ?_
  · by_cases hworked : a ∈ queue.worked
    · exact .inr (List.mem_append_left _ (h.worked_workings hworked))
    · exact .inl (h.mem_removeWorked_iff.mpr ⟨ha, hworked⟩)
  · have hworked : (queue.removeWorked key).worked = [] := rfl
    simpa only [Event.batch, Event.unremoved, List.count_nil, Nat.add_zero, hworked,
      h.mem_removeWorked_iff, List.not_mem_nil, not_false_eq_true, and_true] using h.count_le a

theorem Sound.killed_step :
    Sound key (events ++ [.killed queue.worked]) queue.kill := by
  refine h.append nofun rfl (.refl _) (List.nil_subset _) (List.nil_subset _) (List.nil_subset _)
    (fun a ha => .inl ha) fun a => ?_
  have hcount := h.count_le a
  simp only [Event.batch, Event.unremoved, List.count_nil, Nat.add_zero, kill, List.not_mem_nil,
    not_false_eq_true, and_true]
  by_cases ha : a ∈ queue.worked
  · have hone : 0 < queue.worked.count a := List.count_pos_iff.mpr ha
    simp only [ha, not_true_eq_false, and_false, if_false] at hcount
    omega
  · simp only [ha, not_false_eq_true, and_true] at hcount
    omega

theorem Sound.step [DecidableEq κ] {event : Event α}
    (step : Step key before queue event queue') : Sound key (events ++ [event]) queue' := by
  cases step with
  | added a hnew => exact h.added_step hnew
  | worked batch hidle hbatch => exact h.worked_step hidle hbatch
  | removed => exact h.removed_step
  | killed => exact h.killed_step

end

/-- **What holds of every run.** -/
theorem sound [DecidableEq κ] (run : LabelledRun (Step key before) empty events queue) :
    Sound key events queue := by
  refine @LabelledRun.invariant _ _ _ _ _ _ (fun events queue => Sound key events queue) run
    sound_empty ?_
  intro events queue event queue' h step
  exact h.step step

/-- **A job is worked on once**, and once more for each time that this was forgotten. -/
theorem Sound.count_workings_le (h : Sound key events queue) (a : α) :
    (workings events).count a ≤ 1 + (interruptions events).count a := by
  have hcount := h.count_le a
  split at hcount
  · omega
  · omega

end WorkQueue
