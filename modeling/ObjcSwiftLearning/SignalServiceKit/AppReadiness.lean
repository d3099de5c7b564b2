import Mathlib.Data.List.Flatten
import Mathlib.Data.List.Nodup
import Mathlib.Data.Nat.Notation
import Mathlib.Tactic.Common

/-!
# App readiness

Blocks are registered to be run when the app becomes ready, or at once if it is.  The flag is set
before the first block is run, so that what a block registers is run in the middle of it.

* `ReadyScript` — what code on the main thread registers, with what each block registers in turn.
* `ReadyLaunch.log_eq` — what is run, in which order.
* `runsInOrder_iff` — when each will-become-ready block comes before the did-become-ready blocks.
-/

namespace ObjcSwiftLearning.SignalServiceKit

/-! ## Registering blocks -/

/-- The two kinds of blocks. -/
inductive ReadyKind where
  | willBecomeReady
  | didBecomeReady
deriving DecidableEq

/-- Registrations one after the other, each of a block with a number and with the registrations
that it makes when it is run. -/
inductive ReadyScript where
  | done
  | register (kind : ReadyKind) (id : ℕ) (block rest : ReadyScript)
deriving DecidableEq

/-- What can be observed of a block. -/
inductive ReadyEvent where
  | started (kind : ReadyKind) (id : ℕ)
  | finished (kind : ReadyKind) (id : ℕ)
deriving DecidableEq

/-- `AppReadiness`, with what has happened so far. -/
structure AppReadiness where
  isAppReady : Bool
  appWillBecomeReadyBlocks : List (ℕ × ReadyScript)
  appDidBecomeReadyBlocks : List (ℕ × ReadyScript)
  log : List ReadyEvent

namespace AppReadiness

def initDefault : AppReadiness where
  isAppReady := false
  appWillBecomeReadyBlocks := []
  appDidBecomeReadyBlocks := []
  log := []

def call (kind : ReadyKind) (id : ℕ) (block : AppReadiness → AppReadiness)
    (readiness : AppReadiness) : AppReadiness :=
  let after := block { readiness with log := readiness.log ++ [.started kind id] }
  { after with log := after.log ++ [.finished kind id] }

def addObject (kind : ReadyKind) (id : ℕ) (block : ReadyScript) (readiness : AppReadiness) :
    AppReadiness :=
  match kind with
  | .willBecomeReady =>
      { readiness with
        appWillBecomeReadyBlocks := readiness.appWillBecomeReadyBlocks ++ [(id, block)] }
  | .didBecomeReady =>
      { readiness with
        appDidBecomeReadyBlocks := readiness.appDidBecomeReadyBlocks ++ [(id, block)] }

end AppReadiness

/-- `runNowOrWhenAppWillBecomeReady:` and `runNowOrWhenAppDidBecomeReady:`, for each registration
in turn. -/
def ReadyScript.run : ReadyScript → AppReadiness → AppReadiness
  | .done, readiness => readiness
  | .register kind id block rest, readiness =>
      if readiness.isAppReady then rest.run (readiness.call kind id block.run)
      else rest.run (readiness.addObject kind id block)

namespace AppReadiness

def runAppReadyBlocks (readiness : AppReadiness) : AppReadiness :=
  let emptied :=
    { readiness with appWillBecomeReadyBlocks := [], appDidBecomeReadyBlocks := [] }
  let afterWill := readiness.appWillBecomeReadyBlocks.foldl
    (fun readiness block => readiness.call .willBecomeReady block.1 block.2.run) emptied
  readiness.appDidBecomeReadyBlocks.foldl
    (fun readiness block => readiness.call .didBecomeReady block.1 block.2.run) afterWill

def setAppIsReady (readiness : AppReadiness) : AppReadiness :=
  { readiness with isAppReady := true }.runAppReadyBlocks

end AppReadiness

/-! ## What a script runs -/

namespace ReadyScript

/-- All registrations of a script, those that its blocks make included. -/
def registrations : ReadyScript → List (ReadyKind × ℕ)
  | .done => []
  | .register kind id block rest => (kind, id) :: (block.registrations ++ rest.registrations)

def registered (kind : ReadyKind) : ReadyScript → List (ℕ × ReadyScript)
  | .done => []
  | .register kind' id block rest =>
      if kind' = kind then (id, block) :: rest.registered kind else rest.registered kind

/-- What happens where each block is run when it is registered. -/
def trace : ReadyScript → List ReadyEvent
  | .done => []
  | .register kind id block rest =>
      .started kind id :: (block.trace ++ .finished kind id :: rest.trace)

/-- What happens when a block is run. -/
def blockTrace (kind : ReadyKind) (block : ℕ × ReadyScript) : List ReadyEvent :=
  .started kind block.1 :: (block.2.trace ++ [.finished kind block.1])

variable {readiness : AppReadiness} {script : ReadyScript} {kind : ReadyKind} {id : ℕ}

/-- **When the app is ready,** everything is run at once. -/
theorem run_of_ready (hready : readiness.isAppReady = true) :
    script.run readiness = { readiness with log := readiness.log ++ script.trace } := by
  induction script generalizing readiness with
  | done => simp [run, trace]
  | register kind id block rest ihblock ihrest =>
      rw [run, if_pos hready, AppReadiness.call, ihblock (by exact hready),
        ihrest (by exact hready)]
      simp [trace]

/-- **Before that,** nothing is. -/
theorem run_of_not_ready (hready : readiness.isAppReady = false) :
    script.run readiness =
      { readiness with
        appWillBecomeReadyBlocks :=
          readiness.appWillBecomeReadyBlocks ++ script.registered .willBecomeReady
        appDidBecomeReadyBlocks :=
          readiness.appDidBecomeReadyBlocks ++ script.registered .didBecomeReady } := by
  induction script generalizing readiness with
  | done => simp [run, registered]
  | register kind id block rest _ ih =>
      rw [run, if_neg (by simp [hready])]
      cases kind with
      | willBecomeReady | didBecomeReady =>
          rw [ih (by exact hready)]
          simp [AppReadiness.addObject, registered]

end ReadyScript

theorem AppReadiness.foldl_call {readiness : AppReadiness} (hready : readiness.isAppReady = true)
    (kind : ReadyKind) (blocks : List (ℕ × ReadyScript)) :
    blocks.foldl (fun readiness block => readiness.call kind block.1 block.2.run) readiness =
      { readiness with log := readiness.log ++ blocks.flatMap (ReadyScript.blockTrace kind) } := by
  induction blocks generalizing readiness with
  | nil => simp
  | cons block blocks ih =>
      have hcall : readiness.call kind block.1 block.2.run =
          { readiness with log := readiness.log ++ ReadyScript.blockTrace kind block } := by
        rw [AppReadiness.call, ReadyScript.run_of_ready (by exact hready)]
        simp [ReadyScript.blockTrace]
      rw [List.foldl_cons, hcall, ih (by exact hready)]
      simp

/-! ## Launches -/

/-- What is registered before `setAppIsReady` and after it, each block with a number of its own. -/
structure ReadyLaunch where
  before : ReadyScript
  after : ReadyScript
  nodup : ((before.registrations ++ after.registrations).map Prod.snd).Nodup

namespace ReadyLaunch

variable (launch : ReadyLaunch)

def registrations : List (ReadyKind × ℕ) :=
  launch.before.registrations ++ launch.after.registrations

/-- What has happened up to `setAppIsReady`. -/
def logBefore : List ReadyEvent := (launch.before.run .initDefault).log

/-- What happens in all. -/
def log : List ReadyEvent :=
  (launch.after.run (launch.before.run .initDefault).setAppIsReady).log

theorem logBefore_eq : launch.logBefore = [] := by
  rw [logBefore, ReadyScript.run_of_not_ready rfl]
  rfl

/-- **The will-become-ready blocks, the did-become-ready blocks and the rest,** each with what it
registers. -/
theorem log_eq :
    launch.log =
      (launch.before.registered .willBecomeReady).flatMap
          (ReadyScript.blockTrace .willBecomeReady) ++
        ((launch.before.registered .didBecomeReady).flatMap
            (ReadyScript.blockTrace .didBecomeReady) ++ launch.after.trace) := by
  have hready : (launch.before.run .initDefault).setAppIsReady =
      { (AppReadiness.initDefault) with
        isAppReady := true
        log := (launch.before.registered .willBecomeReady).flatMap
            (ReadyScript.blockTrace .willBecomeReady) ++
          (launch.before.registered .didBecomeReady).flatMap
            (ReadyScript.blockTrace .didBecomeReady) } := by
    rw [ReadyScript.run_of_not_ready rfl, AppReadiness.setAppIsReady,
      AppReadiness.runAppReadyBlocks, AppReadiness.foldl_call (by rfl) .willBecomeReady,
      AppReadiness.foldl_call (by rfl) .didBecomeReady]
    rfl
  rw [log, hready, ReadyScript.run_of_ready rfl, List.append_assoc]

end ReadyLaunch

/-! ## Each block once -/

namespace ReadyScript

variable {script : ReadyScript} {kind : ReadyKind} {id : ℕ}

theorem count_started_trace (script : ReadyScript) (kind : ReadyKind) (id : ℕ) :
    script.trace.count (.started kind id) = script.registrations.count (kind, id) := by
  induction script with
  | done => rfl
  | register kind' id' block rest ihblock ihrest =>
      simp [trace, registrations, List.count_cons, ihblock, ihrest]

theorem count_finished_trace (script : ReadyScript) (kind : ReadyKind) (id : ℕ) :
    script.trace.count (.finished kind id) = script.registrations.count (kind, id) := by
  induction script with
  | done => rfl
  | register kind' id' block rest ihblock ihrest =>
      simp [trace, registrations, List.count_cons, ihblock, ihrest]
      omega

theorem registered_perm_trace (script : ReadyScript) :
    ((script.registered .willBecomeReady).flatMap (blockTrace .willBecomeReady) ++
      (script.registered .didBecomeReady).flatMap (blockTrace .didBecomeReady)).Perm
      script.trace := by
  induction script with
  | done => exact .refl _
  | register kind id block rest _ ih =>
      have hblock : (register kind id block rest).trace =
          blockTrace kind (id, block) ++ rest.trace := by
        simp [trace, blockTrace]
      rw [hblock]
      cases kind with
      | willBecomeReady =>
          simp only [registered, if_true, List.flatMap_cons, List.append_assoc]
          exact ih.append_left _
      | didBecomeReady =>
          have hother : ReadyKind.didBecomeReady ≠ .willBecomeReady := ReadyKind.noConfusion
          simp only [registered, if_neg hother, if_true, List.flatMap_cons]
          exact (List.perm_append_comm_assoc _ _ _).trans (ih.append_left _)

end ReadyScript

namespace ReadyLaunch

variable {launch : ReadyLaunch} {kind : ReadyKind} {id : ℕ}

theorem log_perm (launch : ReadyLaunch) :
    launch.log.Perm (launch.before.trace ++ launch.after.trace) := by
  rw [log_eq, ← List.append_assoc]
  exact launch.before.registered_perm_trace.append_right _

theorem count_started_log (launch : ReadyLaunch) (kind : ReadyKind) (id : ℕ) :
    launch.log.count (.started kind id) = launch.registrations.count (kind, id) := by
  rw [launch.log_perm.count_eq, List.count_append, ReadyScript.count_started_trace,
    ReadyScript.count_started_trace, registrations, List.count_append]

theorem count_finished_log (launch : ReadyLaunch) (kind : ReadyKind) (id : ℕ) :
    launch.log.count (.finished kind id) = launch.registrations.count (kind, id) := by
  rw [launch.log_perm.count_eq, List.count_append, ReadyScript.count_finished_trace,
    ReadyScript.count_finished_trace, registrations, List.count_append]

theorem count_registrations_le (launch : ReadyLaunch) (kind : ReadyKind) (id : ℕ) :
    launch.registrations.count (kind, id) ≤ 1 :=
  List.nodup_iff_count_le_one.mp launch.nodup.of_map _

theorem nodup_log (launch : ReadyLaunch) : launch.log.Nodup := by
  refine List.nodup_iff_count_le_one.mpr fun event => ?_
  cases event with
  | started kind id =>
      rw [count_started_log]
      exact launch.count_registrations_le kind id
  | finished kind id =>
      rw [count_finished_log]
      exact launch.count_registrations_le kind id

theorem started_mem_log (h : (kind, id) ∈ launch.registrations) :
    .started kind id ∈ launch.log := by
  rw [← List.count_pos_iff, count_started_log]
  exact List.count_pos_iff.mpr h

end ReadyLaunch

/-! ## The order -/

def ComesBefore {α : Type} (list : List α) (a b : α) : Prop := List.Sublist [a, b] list

instance {α : Type} [DecidableEq α] (list : List α) (a b : α) :
    Decidable (ComesBefore list a b) :=
  inferInstanceAs (Decidable (List.Sublist [a, b] list))

section

variable {α : Type} {list left right : List α} {a b : α}

theorem ComesBefore.mono (h : ComesBefore left a b) (hsublist : left.Sublist list) :
    ComesBefore list a b := List.Sublist.trans h hsublist

theorem comesBefore_append (ha : a ∈ left) (hb : b ∈ right) :
    ComesBefore (left ++ right) a b :=
  (List.singleton_sublist.mpr ha).append (List.singleton_sublist.mpr hb)

theorem ComesBefore.asymm (hnodup : list.Nodup) (h : ComesBefore list a b) :
    ¬ ComesBefore list b a := by
  induction list with
  | nil => cases h
  | cons c list ih =>
      obtain ⟨hnew, hrest⟩ := List.nodup_cons.mp hnodup
      intro h'
      cases h with
      | cons _ h =>
          cases h' with
          | cons _ h' => exact ih hrest h h'
          | cons_cons _ h' => exact hnew (h.subset (List.mem_pair.mpr (.inr rfl)))
      | cons_cons _ h =>
          cases h' with
          | cons _ h' => exact hnew (h'.subset (List.mem_pair.mpr (.inr rfl)))
          | cons_cons _ h' => exact hnew (List.singleton_sublist.mp h)

end

structure RunsInOrder (launch : ReadyLaunch) : Prop where
  once : ∀ kind id, (kind, id) ∈ launch.registrations →
    launch.log.count (.started kind id) = 1 ∧ launch.log.count (.finished kind id) = 1
  notBefore : launch.logBefore = []
  inOrder : ∀ kind a b, ComesBefore ((launch.before.registered kind).map Prod.fst) a b →
    ComesBefore launch.log (.finished kind a) (.started kind b)
  willBeforeDid : ∀ block ∈ launch.before.registered .willBecomeReady, ∀ id,
    (ReadyKind.didBecomeReady, id) ∈ launch.registrations →
      ComesBefore launch.log (.finished .willBecomeReady block.1) (.started .didBecomeReady id)

namespace ReadyScript

variable {kind : ReadyKind} {block : ℕ × ReadyScript}

theorem started_mem_blockTrace : .started kind block.1 ∈ blockTrace kind block :=
  List.mem_cons_self

theorem finished_mem_blockTrace : .finished kind block.1 ∈ blockTrace kind block :=
  List.mem_cons_of_mem _ (List.mem_append_right _ (List.mem_singleton.mpr rfl))

theorem comesBefore_blockTrace {kind' : ReadyKind} {id : ℕ}
    (h : (kind', id) ∈ block.2.registrations) :
    ComesBefore (blockTrace kind block) (.started kind' id) (.finished kind block.1) := by
  have hstarted : .started kind' id ∈ block.2.trace := by
    rw [← List.count_pos_iff, count_started_trace]
    exact List.count_pos_iff.mpr h
  exact (comesBefore_append hstarted (List.mem_singleton.mpr rfl)).mono (List.sublist_cons_self _ _)

theorem started_mem_flatMap {kind' : ReadyKind} {id : ℕ} {blocks : List (ℕ × ReadyScript)}
    (hne : kind' ≠ kind) (h : .started kind' id ∈ blocks.flatMap (blockTrace kind)) :
    ∃ block ∈ blocks, (kind', id) ∈ block.2.registrations := by
  obtain ⟨block, hblock, hmem⟩ := List.mem_flatMap.mp h
  refine ⟨block, hblock, ?_⟩
  rw [blockTrace, List.mem_cons, List.mem_append, List.mem_singleton] at hmem
  rcases hmem with heq | htrace | heq
  · exact absurd (ReadyEvent.started.inj heq).1 hne
  · rw [← List.count_pos_iff, count_started_trace] at htrace
    exact List.count_pos_iff.mp htrace
  · cases heq

end ReadyScript

namespace ReadyLaunch

variable {launch : ReadyLaunch} {kind : ReadyKind}

/-- The blocks that are registered before are run one after the other. -/
theorem flatMap_sublist_log (launch : ReadyLaunch) (kind : ReadyKind) :
    ((launch.before.registered kind).flatMap (ReadyScript.blockTrace kind)).Sublist
      launch.log := by
  rw [log_eq]
  cases kind with
  | willBecomeReady => exact List.sublist_append_left _ _
  | didBecomeReady =>
      exact (List.sublist_append_left _ _).trans (List.sublist_append_right _ _)

theorem inOrder {a b : ℕ}
    (h : ComesBefore ((launch.before.registered kind).map Prod.fst) a b) :
    ComesBefore launch.log (.finished kind a) (.started kind b) := by
  obtain ⟨blocks, hblocks, hids⟩ := List.sublist_map_iff.mp h
  obtain ⟨first, rest, rfl, rfl, hrest⟩ := List.map_eq_cons_iff.mp hids.symm
  obtain ⟨second, rest, rfl, rfl, hempty⟩ := List.map_eq_cons_iff.mp hrest
  obtain rfl := List.map_eq_nil_iff.mp hempty
  have hpair : ComesBefore ([first, second].flatMap (ReadyScript.blockTrace kind))
      (.finished kind first.1) (.started kind second.1) := by
    rw [List.flatMap_cons, List.flatMap_singleton]
    exact comesBefore_append ReadyScript.finished_mem_blockTrace
      ReadyScript.started_mem_blockTrace
  exact hpair.mono ((hblocks.flatMap _).trans (launch.flatMap_sublist_log kind))

end ReadyLaunch

/-- **The blocks run in the promised order** if and only if no will-become-ready block that is
registered before `setAppIsReady` registers, itself or through others, a did-become-ready
block. -/
theorem runsInOrder_iff (launch : ReadyLaunch) :
    RunsInOrder launch ↔ ∀ block ∈ launch.before.registered .willBecomeReady, ∀ id,
      (ReadyKind.didBecomeReady, id) ∉ block.2.registrations := by
  have hnodup := launch.nodup_log
  constructor
  · intro hruns block hblock id hid
    have hpart : ([block].flatMap (ReadyScript.blockTrace .willBecomeReady)).Sublist launch.log :=
      ((List.singleton_sublist.mpr hblock).flatMap _).trans
        (launch.flatMap_sublist_log .willBecomeReady)
    rw [List.flatMap_singleton] at hpart
    have hearly := (ReadyScript.comesBefore_blockTrace hid).mono hpart
    have hregistered : (ReadyKind.didBecomeReady, id) ∈ launch.registrations := by
      rw [← List.count_pos_iff, ← ReadyLaunch.count_started_log, List.count_pos_iff]
      exact hearly.subset (List.mem_pair.mpr (.inl rfl))
    exact hearly.asymm hnodup (hruns.willBeforeDid block hblock id hregistered)
  · intro hnone
    refine ⟨fun kind id hid => ?_, launch.logBefore_eq, fun kind a b => ReadyLaunch.inOrder, ?_⟩
    · have hone := Nat.le_antisymm (launch.count_registrations_le kind id)
        (List.count_pos_iff.mpr hid)
      exact ⟨(launch.count_started_log kind id).trans hone,
        (launch.count_finished_log kind id).trans hone⟩
    · intro block hblock id hid
      have hstarted := ReadyLaunch.started_mem_log hid
      rw [launch.log_eq, List.mem_append] at hstarted
      rw [launch.log_eq]
      rcases hstarted with hwill | hlater
      · obtain ⟨other, hother, hmem⟩ :=
          ReadyScript.started_mem_flatMap ReadyKind.noConfusion hwill
        exact absurd hmem (hnone other hother id)
      · exact comesBefore_append
          (List.mem_flatMap.mpr ⟨block, hblock, ReadyScript.finished_mem_blockTrace⟩) hlater

/-- Two will-become-ready blocks, of which the first registers a did-become-ready block. -/
def impatientLaunch : ReadyLaunch where
  before := .register .willBecomeReady 0 (.register .didBecomeReady 1 .done .done)
    (.register .willBecomeReady 2 .done .done)
  after := .done
  nodup := by decide

/-- The did-become-ready block comes before both have finished. -/
theorem not_runsInOrder_impatient : ¬ RunsInOrder impatientLaunch := by
  intro hruns
  have horder := hruns.willBeforeDid (2, .done) (by decide) 1 (by decide)
  revert horder
  decide

end ObjcSwiftLearning.SignalServiceKit
