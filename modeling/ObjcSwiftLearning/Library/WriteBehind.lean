import Mathlib.Data.List.Basic
import Mathlib.Tactic.Common

/-!
# A value that is stored after it has changed

Threads change a value in memory, and each of them then stores it: it reads the value and
writes what it has read, at times of its own.  When the process ends, what has been
written is what there is.

The value is versioned by the number of changes it has seen, and the changes are kept as a
history.  As long as no thread writes an older version than the one stored
(`Tracked.write`), every version is that of a beginning of the history, and nothing of the
history is lost whose thread has gone through (`Tracked.relaunch`); when no thread is on
its way, what is stored is what is in memory (`Tracked.stored_eq`).

An update that finds nothing to change is not a change, but has gone through at once: the
history of all updates is woven of the changes and of these (`Woven`), and outlives the
process if these find nothing to change in what is stored (`Woven.relaunch`).
-/

/-- A change, by whom, and whether its thread has gone through. -/
structure HistoryEntry (υ : Type) where
  thread : ℕ
  update : υ
  completed : Bool

/-- A value, and how many changes it has seen. -/
structure Versioned (α : Type) where
  value : α
  version : ℕ

/-- Where a thread is with the value. -/
inductive StoreStage (α : Type) where
  | toRead
  | toWrite (snapshot : Versioned α)
  | written

namespace HistoryEntry

variable {υ α : Type}

/-- The changes of a history applied to a value. -/
def applyAll (apply : υ → α → α) (base : α) (entries : List (HistoryEntry υ)) : α :=
  entries.foldl (fun value entry => apply entry.update value) base

/-- The change of a thread that has gone through. -/
def finish (entry : HistoryEntry υ) : HistoryEntry υ :=
  { entry with completed := true }

/-- A thread has gone through. -/
def complete (thread : ℕ) (entries : List (HistoryEntry υ)) : List (HistoryEntry υ) :=
  entries.map fun entry => if entry.thread = thread then entry.finish else entry

/-- What is left of a history when the process ends: changes whose thread was on its way
may be lost. -/
def Survives (entries entries' : List (HistoryEntry υ)) : Prop :=
  ∃ kept, kept.Sublist entries ∧ (entries.filter (·.completed)).Sublist kept ∧
    entries' = kept.map finish

variable {apply : υ → α → α} {base : α} {entries : List (HistoryEntry υ)} {thread : ℕ}

@[simp] theorem applyAll_append (entries' : List (HistoryEntry υ)) :
    applyAll apply base (entries ++ entries') =
      applyAll apply (applyAll apply base entries) entries' :=
  List.foldl_append

/-- It does not matter whose the changes are. -/
theorem applyAll_map {f : HistoryEntry υ → HistoryEntry υ} (hf : ∀ entry, (f entry).update =
    entry.update) : applyAll apply base (entries.map f) = applyAll apply base entries := by
  simp only [applyAll, List.foldl_map, hf]

theorem applyAll_map_value {β : Type} {view : α → β} {applyView : υ → β → β}
    (hview : ∀ update value, view (apply update value) = applyView update (view value)) :
    view (applyAll apply base entries) = applyAll applyView (view base) entries := by
  induction entries generalizing base with
  | nil => rfl
  | cons entry entries ih => rw [applyAll, List.foldl_cons, ← applyAll, ih, hview]; rfl

theorem update_complete (entry : HistoryEntry υ) :
    (if entry.thread = thread then entry.finish else entry).update = entry.update := by
  split
  · rfl
  · rfl

end HistoryEntry

open HistoryEntry

variable {υ α : Type}

/-- **How a history tracks the value**, in memory, stored, and on its way between them. -/
structure Tracked (apply : υ → α → α) (base : α) (entries : List (HistoryEntry υ))
    (memory stored : Versioned α) (stage : ℕ → StoreStage α) : Prop where
  memory_version : memory.version = entries.length
  memory_value : memory.value = applyAll apply base entries
  stored_le : stored.version ≤ entries.length
  stored_value : stored.value = applyAll apply base (entries.take stored.version)
  uncompleted : ∀ entry ∈ entries.drop stored.version, entry.completed = false
  snapshot_le : ∀ thread snapshot, stage thread = .toWrite snapshot →
    snapshot.version ≤ entries.length
  snapshot_value : ∀ thread snapshot, stage thread = .toWrite snapshot →
    snapshot.value = applyAll apply base (entries.take snapshot.version)
  snapshot_own : ∀ thread snapshot, stage thread = .toWrite snapshot →
    ∀ entry ∈ entries.drop snapshot.version, entry.thread ≠ thread
  written_own : ∀ thread, stage thread = .written →
    ∀ entry ∈ entries.drop stored.version, entry.thread ≠ thread

namespace Tracked

variable {apply : υ → α → α} {base : α} {entries : List (HistoryEntry υ)}
  {memory stored : Versioned α} {stage : ℕ → StoreStage α} {thread : ℕ}

theorem initial (hversion : stored.version = 0) :
    Tracked apply stored.value [] stored stored (fun _ => .written) where
  memory_version := hversion
  memory_value := rfl
  stored_le := Nat.le_of_eq hversion
  stored_value := by simp [applyAll]
  uncompleted := by simp
  snapshot_le := by simp
  snapshot_value := by simp
  snapshot_own := by simp
  written_own := by simp

/-- Who is not the one that has started anew is where it was. -/
theorem stage_of_update {other : ℕ} {found : StoreStage α} (hne : found ≠ .toRead)
    (hfound : Function.update stage thread .toRead other = found) :
    other ≠ thread ∧ stage other = found := by
  by_cases heq : other = thread
  · subst heq
    rw [Function.update_self] at hfound
    exact absurd hfound.symm hne
  · rw [Function.update_of_ne heq] at hfound
    exact ⟨heq, hfound⟩

section

variable (h : Tracked apply base entries memory stored stage)
include h

theorem change (update : υ) (thread : ℕ) :
    Tracked apply base (entries ++ [⟨thread, update, false⟩])
      ⟨apply update memory.value, memory.version + 1⟩ stored
      (Function.update stage thread .toRead) := by
  have hstored := h.stored_le
  constructor
  case memory_version => simp [h.memory_version]
  case memory_value =>
    rw [applyAll_append, ← h.memory_value]
    rfl
  case stored_le => simpa using Nat.le_succ_of_le hstored
  case stored_value => rw [List.take_append_of_le_length hstored, h.stored_value]
  case uncompleted =>
    rw [List.drop_append_of_le_length hstored]
    simpa [or_imp, forall_and] using h.uncompleted
  case snapshot_le =>
    intro other snapshot hfound
    obtain ⟨-, hstage⟩ := stage_of_update (by simp) hfound
    simpa using Nat.le_succ_of_le (h.snapshot_le other snapshot hstage)
  case snapshot_value =>
    intro other snapshot hfound
    obtain ⟨-, hstage⟩ := stage_of_update (by simp) hfound
    rw [List.take_append_of_le_length (h.snapshot_le other snapshot hstage)]
    exact h.snapshot_value other snapshot hstage
  case snapshot_own =>
    intro other snapshot hfound
    obtain ⟨hne, hstage⟩ := stage_of_update (by simp) hfound
    rw [List.drop_append_of_le_length (h.snapshot_le other snapshot hstage)]
    simpa [or_imp, forall_and, hne.symm] using h.snapshot_own other snapshot hstage
  case written_own =>
    intro other hfound
    obtain ⟨hne, hstage⟩ := stage_of_update (by simp) hfound
    rw [List.drop_append_of_le_length hstored]
    simpa [or_imp, forall_and, hne.symm] using h.written_own other hstage

/-- A thread that has changed something else is to store this value too. -/
theorem begin (thread : ℕ) :
    Tracked apply base entries memory stored (Function.update stage thread .toRead) :=
  { h with
    snapshot_le := fun other snapshot hfound =>
      h.snapshot_le other snapshot (stage_of_update (by simp) hfound).2
    snapshot_value := fun other snapshot hfound =>
      h.snapshot_value other snapshot (stage_of_update (by simp) hfound).2
    snapshot_own := fun other snapshot hfound =>
      h.snapshot_own other snapshot (stage_of_update (by simp) hfound).2
    written_own := fun other hfound =>
      h.written_own other (stage_of_update (by simp) hfound).2 }

theorem read (thread : ℕ) :
    Tracked apply base entries memory stored
      (Function.update stage thread (.toWrite memory)) := by
  have hstage {other : ℕ} {snapshot : Versioned α}
      (hfound : Function.update stage thread (.toWrite memory) other = .toWrite snapshot) :
      other = thread ∧ snapshot = memory ∨ stage other = .toWrite snapshot := by
    by_cases heq : other = thread
    · subst heq
      rw [Function.update_self, StoreStage.toWrite.injEq] at hfound
      exact .inl ⟨rfl, hfound.symm⟩
    · rw [Function.update_of_ne heq] at hfound
      exact .inr hfound
  refine { h with snapshot_le := ?_, snapshot_value := ?_, snapshot_own := ?_, written_own := ?_ }
  · intro other snapshot hfound
    obtain ⟨-, rfl⟩ | hfound := hstage hfound
    · exact Nat.le_of_eq h.memory_version
    · exact h.snapshot_le other snapshot hfound
  · intro other snapshot hfound
    obtain ⟨-, rfl⟩ | hfound := hstage hfound
    · rw [h.memory_version, List.take_length, h.memory_value]
    · exact h.snapshot_value other snapshot hfound
  · intro other snapshot hfound
    obtain ⟨-, rfl⟩ | hfound := hstage hfound
    · simp [h.memory_version]
    · exact h.snapshot_own other snapshot hfound
  · intro other hfound
    by_cases heq : other = thread
    · subst heq
      rw [Function.update_self] at hfound
      cases hfound
    · rw [Function.update_of_ne heq] at hfound
      exact h.written_own other hfound

/-- **A thread writes what it has read**, and that is no older than what is stored. -/
theorem write {snapshot : Versioned α} (hread : stage thread = .toWrite snapshot)
    (hnew : stored.version ≤ snapshot.version) :
    Tracked apply base entries memory snapshot (Function.update stage thread .written) := by
  have hsub : entries.drop snapshot.version ⊆ entries.drop stored.version := by
    intro entry hentry
    rw [← Nat.add_sub_cancel' hnew, ← List.drop_drop] at hentry
    exact List.mem_of_mem_drop hentry
  have hstage {other : ℕ} {later : Versioned α}
      (hfound : Function.update stage thread .written other = .toWrite later) :
      stage other = .toWrite later := by
    by_cases heq : other = thread
    · subst heq
      rw [Function.update_self] at hfound
      cases hfound
    · rwa [Function.update_of_ne heq] at hfound
  exact
    { memory_version := h.memory_version
      memory_value := h.memory_value
      stored_le := h.snapshot_le thread snapshot hread
      stored_value := h.snapshot_value thread snapshot hread
      uncompleted := fun entry hentry => h.uncompleted entry (hsub hentry)
      snapshot_le := fun other later hfound => h.snapshot_le other later (hstage hfound)
      snapshot_value := fun other later hfound => h.snapshot_value other later (hstage hfound)
      snapshot_own := fun other later hfound => h.snapshot_own other later (hstage hfound)
      written_own := by
        intro other hfound entry hentry
        by_cases heq : other = thread
        · subst heq
          exact h.snapshot_own other snapshot hread entry hentry
        · rw [Function.update_of_ne heq] at hfound
          exact h.written_own other hfound entry (hsub hentry) }

/-- **A thread has gone through**: its changes are stored. -/
theorem complete (hwritten : stage thread = .written) :
    Tracked apply base (HistoryEntry.complete thread entries) memory stored stage := by
  have hmem {entry : HistoryEntry υ} {version : ℕ}
      (hentry : entry ∈ (HistoryEntry.complete thread entries).drop version) :
      ∃ earlier ∈ entries.drop version, earlier.thread = entry.thread ∧
        (earlier.thread ≠ thread → entry = earlier) := by
    rw [HistoryEntry.complete, ← List.map_drop] at hentry
    obtain ⟨earlier, hearlier, rfl⟩ := List.mem_map.mp hentry
    refine ⟨earlier, hearlier, ?_, fun hne => if_neg hne⟩
    split
    · rfl
    · rfl
  -- Completing an entry keeps the update that it stands for.
  have hvalue (version : ℕ) : applyAll apply base
      ((HistoryEntry.complete thread entries).take version) =
        applyAll apply base (entries.take version) := by
    rw [HistoryEntry.complete, ← List.map_take]
    exact applyAll_map update_complete
  have hlength : (HistoryEntry.complete thread entries).length = entries.length :=
    List.length_map _
  constructor
  case memory_version => rw [hlength, h.memory_version]
  case memory_value => rw [h.memory_value, HistoryEntry.complete, applyAll_map update_complete]
  case stored_le => rw [hlength]; exact h.stored_le
  case stored_value => rw [hvalue, h.stored_value]
  case uncompleted =>
    intro entry hentry
    obtain ⟨earlier, hearlier, -, hsame⟩ := hmem hentry
    rw [hsame (h.written_own thread hwritten earlier hearlier)]
    exact h.uncompleted earlier hearlier
  case snapshot_le =>
    intro other snapshot hfound
    rw [hlength]
    exact h.snapshot_le other snapshot hfound
  case snapshot_value =>
    intro other snapshot hfound
    rw [hvalue]
    exact h.snapshot_value other snapshot hfound
  case snapshot_own =>
    intro other snapshot hfound entry hentry
    obtain ⟨earlier, hearlier, hthread, -⟩ := hmem hentry
    rw [← hthread]
    exact h.snapshot_own other snapshot hfound earlier hearlier
  case written_own =>
    intro other hfound entry hentry
    obtain ⟨earlier, hearlier, hthread, -⟩ := hmem hentry
    rw [← hthread]
    exact h.written_own other hfound earlier hearlier

/-- **The process ends**, and what has been stored is what there is. -/
theorem relaunch : Tracked apply base ((entries.take stored.version).map finish) stored stored
    (fun _ => .written) := by
  have hlength : ((entries.take stored.version).map finish).length = stored.version := by
    simp [h.stored_le]
  have hvalue : stored.value =
      applyAll apply base ((entries.take stored.version).map finish) := by
    rw [applyAll_map (f := finish) fun _ => rfl, h.stored_value]
  constructor
  case memory_version => exact hlength.symm
  case memory_value => exact hvalue
  case stored_le => exact Nat.le_of_eq hlength.symm
  case stored_value => rw [List.take_of_length_le (Nat.le_of_eq hlength), hvalue]
  case uncompleted => simp
  case snapshot_le => simp
  case snapshot_value => simp
  case snapshot_own => simp
  case written_own => simp

/-- **When no thread is on its way** the value in memory has been stored. -/
theorem stored_eq (idle : ∀ thread, stage thread = .written) : stored.value = memory.value := by
  have hnone : entries.drop stored.version = [] := by
    rw [List.eq_nil_iff_forall_not_mem]
    exact fun entry hentry => h.written_own entry.thread (idle _) entry hentry rfl
  rw [h.stored_value, h.memory_value, List.take_of_length_le (List.drop_eq_nil_iff.mp hnone)]

end

end Tracked

/-! ## Updates that change nothing -/

/-- **A history is woven** of its changes and of updates that found nothing to change, which have
gone through, and of which it is recorded how many changes they had seen. -/
inductive Woven (apply : υ → α → α) (recorded : υ → ℕ → Prop) :
    ℕ → α → List (HistoryEntry υ) → List (HistoryEntry υ) → Prop
  | nil {version : ℕ} {value : α} : Woven apply recorded version value [] []
  | change {version : ℕ} {value : α} {entries changes : List (HistoryEntry υ)}
      (entry : HistoryEntry υ)
      (rest : Woven apply recorded (version + 1) (apply entry.update value) entries changes) :
      Woven apply recorded version value (entry :: entries) (entry :: changes)
  | kept {version : ℕ} {value : α} {entries changes : List (HistoryEntry υ)}
      (entry : HistoryEntry υ) (same : apply entry.update value = value)
      (completed : entry.completed = true) (seen : recorded entry.update version)
      (rest : Woven apply recorded version value entries changes) :
      Woven apply recorded version value (entry :: entries) changes

namespace Woven

variable {apply : υ → α → α} {recorded recorded' : υ → ℕ → Prop} {version : ℕ} {value : α}
  {entries changes : List (HistoryEntry υ)}

variable (h : Woven apply recorded version value entries changes)
include h

theorem applyAll_eq : applyAll apply value entries = applyAll apply value changes := by
  induction h with
  | nil => rfl
  | change entry rest ih => exact ih
  | @kept version value entries changes entry same completed seen rest ih =>
      refine Eq.trans ?_ ih
      rw [applyAll, List.foldl_cons, same, applyAll]

theorem mono (hrecorded : ∀ update seen, recorded update seen → recorded' update seen) :
    Woven apply recorded' version value entries changes := by
  induction h with
  | nil => exact .nil
  | change entry rest ih => exact .change entry ih
  | kept entry same completed seen rest ih =>
      exact .kept entry same completed (hrecorded _ _ seen) ih

/-- A change is one of the history. -/
theorem concat_change (entry : HistoryEntry υ) :
    Woven apply recorded version value (entries ++ [entry]) (changes ++ [entry]) := by
  induction h with
  | nil => exact .change entry .nil
  | change other rest ih => exact .change other ih
  | kept other same completed seen rest ih => exact .kept other same completed seen ih

/-- An update finds nothing to change. -/
theorem concat_kept {entry : HistoryEntry υ}
    (same : apply entry.update (applyAll apply value changes) = applyAll apply value changes)
    (completed : entry.completed = true)
    (seen : recorded entry.update (version + changes.length)) :
    Woven apply recorded version value (entries ++ [entry]) changes := by
  induction h with
  | nil => exact .kept entry same completed seen .nil
  | change other rest ih =>
      refine .change other (ih same ?_)
      rwa [List.length_cons, ← Nat.add_assoc, Nat.add_right_comm] at seen
  | kept other hsame hcompleted hseen rest ih =>
      exact .kept other hsame hcompleted hseen (ih same seen)

/-- A thread has gone through. -/
theorem complete (thread : ℕ) :
    Woven apply recorded version value (HistoryEntry.complete thread entries)
      (HistoryEntry.complete thread changes) := by
  induction h with
  | nil => exact .nil
  | change entry rest ih =>
      refine .change (if entry.thread = thread then entry.finish else entry) ?_
      rw [update_complete]
      exact ih
  | @kept version value entries changes entry same completed seen rest ih =>
      refine .kept (if entry.thread = thread then entry.finish else entry) ?_ ?_ ?_ ih
      · rwa [update_complete]
      · split
        · rfl
        · exact completed
      · rwa [update_complete]

/-- The part of a history whose changes are lost. -/
theorem lost {stored : α} {floor : ℕ} (above : floor ≤ version)
    (uncompleted : ∀ entry ∈ changes, entry.completed = false)
    (redundant : ∀ update seen, recorded update seen → floor < seen →
      apply update stored = stored)
    (start : value = stored ∨ floor < version) :
    ∃ kept, kept.Sublist entries ∧ (entries.filter (·.completed)).Sublist kept ∧
      Woven apply (fun _ seen => seen ≤ floor) floor stored (kept.map finish) [] := by
  induction h with
  | nil => exact ⟨[], .slnil, .slnil, .nil⟩
  | change entry rest ih =>
      obtain ⟨hentry, hchanges⟩ := List.forall_mem_cons.mp uncompleted
      obtain ⟨kept, hsub, hcompleted, hwoven⟩ :=
        ih (Nat.le_succ_of_le above) hchanges (.inr (Nat.lt_succ_of_le above))
      refine ⟨kept, hsub.cons _, ?_, hwoven⟩
      rwa [List.filter_cons_of_neg (by simp [hentry])]
  | @kept version value entries changes entry same completed seen rest ih =>
      obtain ⟨kept, hsub, hcompleted, hwoven⟩ := ih above uncompleted start
      refine ⟨entry :: kept, hsub.cons_cons _, ?_, .kept entry.finish ?_ rfl (Nat.le_refl _) hwoven⟩
      · rw [List.filter_cons_of_pos (by simp [completed])]
        exact hcompleted.cons_cons _
      · rcases start with rfl | hlater
        · exact same
        · exact redundant _ _ seen hlater

/-- **The process ends.**  Changes are lost from some version on, none of which has gone through;
what found nothing to change after that still finds nothing to change. -/
theorem relaunch (count : ℕ)
    (uncompleted : ∀ entry ∈ changes.drop count, entry.completed = false)
    (redundant : ∀ update seen, recorded update seen → version + count < seen →
      apply update (applyAll apply value (changes.take count)) =
        applyAll apply value (changes.take count)) :
    ∃ entries', Survives entries entries' ∧
      Woven apply (fun _ seen => seen ≤ version + count) version value entries'
        ((changes.take count).map finish) := by
  suffices ∃ kept, kept.Sublist entries ∧ (entries.filter (·.completed)).Sublist kept ∧
      Woven apply (fun _ seen => seen ≤ version + count) version value (kept.map finish)
        ((changes.take count).map finish) by
    obtain ⟨kept, hsub, hcompleted, hwoven⟩ := this
    exact ⟨_, ⟨kept, hsub, hcompleted, rfl⟩, hwoven⟩
  induction h generalizing count with
  | nil => exact ⟨[], .slnil, .slnil, by rw [List.take_nil]; exact .nil⟩
  | @change version value entries changes entry rest ih =>
      cases count with
      | zero => exact (Woven.change entry rest).lost (Nat.le_refl _) uncompleted redundant (.inl rfl)
      | succ count =>
          have hsum : version + 1 + count = version + (count + 1) := by omega
          have hlater := ih count uncompleted
          rw [hsum] at hlater
          obtain ⟨kept, hsub, hcompleted, hwoven⟩ := hlater redundant
          refine ⟨entry :: kept, hsub.cons_cons _, ?_, .change entry.finish hwoven⟩
          rw [List.filter_cons]
          split
          · exact hcompleted.cons_cons _
          · exact hcompleted.cons _
  | @kept version value entries changes entry same completed seen rest ih =>
      obtain ⟨kept, hsub, hcompleted, hwoven⟩ := ih count uncompleted redundant
      refine ⟨entry :: kept, hsub.cons_cons _, ?_,
        .kept entry.finish same rfl (Nat.le_add_right ..) hwoven⟩
      rw [List.filter_cons_of_pos (by simp [completed])]
      exact hcompleted.cons_cons _

end Woven

/-- **How the history of all updates records the value**: with those that have found nothing to
change since the process began. -/
def Recorded (apply : υ → α → α) (base : α) (entries : List (HistoryEntry υ))
    (kept : List (Versioned υ)) (memory stored : Versioned α) (stage : ℕ → StoreStage α) : Prop :=
  ∃ changes, Woven apply (fun update seen => seen ≤ stored.version ∨ ⟨update, seen⟩ ∈ kept)
    0 base entries changes ∧ Tracked apply base changes memory stored stage

namespace Recorded

variable {apply : υ → α → α} {base : α} {entries : List (HistoryEntry υ)}
  {kept : List (Versioned υ)} {memory stored : Versioned α} {stage : ℕ → StoreStage α}
  {thread : ℕ}

theorem initial (hversion : stored.version = 0) :
    Recorded apply stored.value [] [] stored stored (fun _ => .written) :=
  ⟨[], .nil, .initial hversion⟩

section

variable (h : Recorded apply base entries kept memory stored stage)
include h

theorem memory_value : memory.value = applyAll apply base entries := by
  obtain ⟨changes, hwoven, htracked⟩ := h
  rw [htracked.memory_value, hwoven.applyAll_eq]

/-- **An update finds nothing to change**, and has gone through. -/
theorem keep (update : υ) (thread : ℕ) (same : apply update memory.value = memory.value) :
    Recorded apply base (entries ++ [⟨thread, update, true⟩])
      (kept ++ [⟨update, memory.version⟩]) memory stored stage := by
  obtain ⟨changes, hwoven, htracked⟩ := h
  refine ⟨changes, (hwoven.mono fun _ _ => Or.imp_right (List.mem_append_left _)).concat_kept
    ?_ rfl (.inr ?_), htracked⟩
  · rw [← htracked.memory_value]
    exact same
  · rw [Nat.zero_add, ← htracked.memory_version]
    exact List.mem_append_right _ (List.mem_singleton_self _)

theorem change (update : υ) (thread : ℕ) :
    Recorded apply base (entries ++ [⟨thread, update, false⟩]) kept
      ⟨apply update memory.value, memory.version + 1⟩ stored
      (Function.update stage thread .toRead) := by
  obtain ⟨changes, hwoven, htracked⟩ := h
  exact ⟨_, hwoven.concat_change _, htracked.change update thread⟩

theorem begin (thread : ℕ) :
    Recorded apply base entries kept memory stored (Function.update stage thread .toRead) := by
  obtain ⟨changes, hwoven, htracked⟩ := h
  exact ⟨changes, hwoven, htracked.begin thread⟩

theorem read (thread : ℕ) :
    Recorded apply base entries kept memory stored
      (Function.update stage thread (.toWrite memory)) := by
  obtain ⟨changes, hwoven, htracked⟩ := h
  exact ⟨changes, hwoven, htracked.read thread⟩

theorem write {snapshot : Versioned α} (hread : stage thread = .toWrite snapshot)
    (hnew : stored.version ≤ snapshot.version) :
    Recorded apply base entries kept memory snapshot (Function.update stage thread .written) := by
  obtain ⟨changes, hwoven, htracked⟩ := h
  exact ⟨changes, hwoven.mono fun _ _ => Or.imp_left fun hle => Nat.le_trans hle hnew,
    htracked.write hread hnew⟩

theorem complete (hwritten : stage thread = .written) :
    Recorded apply base (HistoryEntry.complete thread entries) kept memory stored stage := by
  obtain ⟨changes, hwoven, htracked⟩ := h
  exact ⟨_, hwoven.complete thread, htracked.complete hwritten⟩

/-- **The process ends**, and what is stored answers for all that has gone through, if what found
nothing to change finds nothing to change there. -/
theorem relaunch (redundant : ∀ update ∈ kept, stored.version < update.version →
      apply update.value stored.value = stored.value) :
    ∃ entries', Survives entries entries' ∧
      Recorded apply base entries' [] stored stored (fun _ => .written) := by
  obtain ⟨changes, hwoven, htracked⟩ := h
  obtain ⟨entries', hsurvives, hwoven'⟩ := hwoven.relaunch stored.version htracked.uncompleted (by
    rintro update seen (hle | hmem) hlater
    · omega
    · rw [← htracked.stored_value]
      exact redundant _ hmem (by simpa using hlater))
  refine ⟨entries', hsurvives, _, hwoven'.mono fun _ _ hle => .inl ?_, htracked.relaunch⟩
  rwa [Nat.zero_add] at hle

theorem stored_eq (idle : ∀ thread, stage thread = .written) : stored.value = memory.value := by
  obtain ⟨changes, hwoven, htracked⟩ := h
  exact htracked.stored_eq idle

end

end Recorded
