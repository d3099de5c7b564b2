import Mathlib.Data.List.AList
import Mathlib.Data.List.Forall2
import ObjcSwiftLearning.Library.LabelledRun
import ObjcSwiftLearning.SignalServiceKit.LinkedDeviceReadReceipts

/-!
# The batches of read receipts for our linked devices

What we read here our linked devices are told.  `OWSReadReceiptManager` gathers
the receipts in `toLinkedDevicesReadReceiptMap`, one for each thread, and hands
them over in batches: `scheduleProcessing` starts a pass unless one is due, and a
pass that found something to do is followed by another three seconds later.
`isProcessing` says that one is due.

Each block runs synchronized on the manager, so a block is one step; the global
queue runs the blocks dispatched to it in any order.

* `process_handsOverNewest` — the receipt a batch carries for a thread is the one
  of the greatest timestamp read there since the batch before.
* `passScheduled_and_handsOverNewest` — **nothing waits without a pass being due**, as long as
  what we read of our own is read while one is; the read of such a message returns before it gets
  to `scheduleProcessing`.
-/

namespace ObjcSwiftLearning.SignalServiceKit

structure OWSReadReceiptsForLinkedDevicesMessage where
  readReceipts : List OWSLinkedDeviceReadReceipt
  deriving DecidableEq

/-- The manager, with the blocks that wait to be run on it and what it has handed
to the other managers. -/
structure OWSReadReceiptManager where
  /-- By the unique id of the thread. -/
  toLinkedDevicesReadReceiptMap : AList fun _ : String => OWSLinkedDeviceReadReceipt
  isProcessing : Bool
  /-- The blocks of `messageWasReadLocally:` not run yet, by their message. -/
  readBlocks : List TSIncomingMessage
  /-- How many blocks of `scheduleProcessing` have not run yet. -/
  scheduleBlocks : ℕ
  /-- How many passes `dispatch_after` is still to run. -/
  delayedPasses : ℕ
  /-- The receipts enqueued for senders with `OWSOutgoingReceiptManager`. -/
  enqueuedForSenders : List (String × ℕ)
  addedMessages : List OWSReadReceiptsForLinkedDevicesMessage

/-- What a block reads of its surroundings. -/
structure ReadContext where
  /-- `[TSAccountManager localNumber]`. -/
  localNumber : Option String
  areReadReceiptsEnabled : Bool
  /-- `[NSDate ows_millisecondTimeStamp]`. -/
  now : ℕ

def OWSLinkedDeviceReadReceipt.ofMessage (message : TSIncomingMessage) (now : ℕ) :
    OWSLinkedDeviceReadReceipt where
  senderId := message.messageAuthorId
  messageIdTimestamp := message.timestamp
  readTimestamp := now

namespace OWSReadReceiptManager

/-- Nothing read yet. -/
def new : OWSReadReceiptManager where
  toLinkedDevicesReadReceiptMap := ∅
  isProcessing := false
  readBlocks := []
  scheduleBlocks := 0
  delayedPasses := 0
  enqueuedForSenders := []
  addedMessages := []

/-! ## The operations -/

variable (manager : OWSReadReceiptManager)

/-- `scheduleProcessing`: the block is dispatched. -/
def scheduleProcessing : OWSReadReceiptManager :=
  { manager with scheduleBlocks := manager.scheduleBlocks + 1 }

/-- `messageWasReadLocally:`: the block is dispatched. -/
def messageWasReadLocally (message : TSIncomingMessage) : OWSReadReceiptManager :=
  { manager with readBlocks := manager.readBlocks ++ [message] }

/-- The message of the batch `process` hands over, if there is anything in it. -/
def batch : Option OWSReadReceiptsForLinkedDevicesMessage :=
  let readReceiptsForLinkedDevices := manager.toLinkedDevicesReadReceiptMap.entries.map (·.snd)
  if 0 < readReceiptsForLinkedDevices.length then some ⟨readReceiptsForLinkedDevices⟩ else none

def process : OWSReadReceiptManager :=
  match manager.batch with
  | some message =>
      { manager with
        toLinkedDevicesReadReceiptMap := ∅
        addedMessages := manager.addedMessages ++ [message]
        delayedPasses := manager.delayedPasses + 1 }
  | none =>
      { manager with
        toLinkedDevicesReadReceiptMap := ∅
        isProcessing := false }

/-- The map with the receipt of a message just read, unless it has a newer one. -/
def enqueueReadReceipt (message : TSIncomingMessage) (now : ℕ) :
    AList fun _ : String => OWSLinkedDeviceReadReceipt :=
  let newReadReceipt := OWSLinkedDeviceReadReceipt.ofMessage message now
  match manager.toLinkedDevicesReadReceiptMap.lookup message.uniqueThreadId with
  | some oldReadReceipt =>
      if newReadReceipt.messageIdTimestamp < oldReadReceipt.messageIdTimestamp then
        manager.toLinkedDevicesReadReceiptMap
      else manager.toLinkedDevicesReadReceiptMap.insert message.uniqueThreadId newReadReceipt
  | none => manager.toLinkedDevicesReadReceiptMap.insert message.uniqueThreadId newReadReceipt

def runReadBlock (message : TSIncomingMessage) (context : ReadContext) : OWSReadReceiptManager :=
  let enqueued : OWSReadReceiptManager :=
    { manager with
      readBlocks := manager.readBlocks.erase message
      toLinkedDevicesReadReceiptMap := manager.enqueueReadReceipt message context.now }
  -- the return that leaves the receipt in the map and schedules nothing
  if context.localNumber = some message.messageAuthorId then enqueued
  else
    scheduleProcessing
      { enqueued with
        enqueuedForSenders :=
          if context.areReadReceiptsEnabled then
            enqueued.enqueuedForSenders ++ [(message.messageAuthorId, message.timestamp)]
          else enqueued.enqueuedForSenders }

/-- The block of `scheduleProcessing`. -/
def runScheduleBlock : OWSReadReceiptManager :=
  let taken : OWSReadReceiptManager :=
    { manager with scheduleBlocks := manager.scheduleBlocks - 1 }
  if taken.isProcessing then taken else { taken with isProcessing := true }.process

def runDelayedPass : OWSReadReceiptManager :=
  { manager with delayedPasses := manager.delayedPasses - 1 }.process

/-! ## Runs -/

/-- The steps, with the batch each pass hands over. -/
inductive Event where
  | scheduleProcessing
  | messageWasReadLocally (message : TSIncomingMessage)
  | readBlock (message : TSIncomingMessage) (context : ReadContext)
  | scheduleBlockIgnored
  | pass (message : Option OWSReadReceiptsForLinkedDevicesMessage)

inductive Step : OWSReadReceiptManager → Event → OWSReadReceiptManager → Prop
  | scheduleProcessing {manager : OWSReadReceiptManager} :
     Step manager .scheduleProcessing manager.scheduleProcessing
  | messageWasReadLocally {manager : OWSReadReceiptManager} (message : TSIncomingMessage) :
      Step manager (.messageWasReadLocally message) (manager.messageWasReadLocally message)
  | readBlock {manager : OWSReadReceiptManager} {message : TSIncomingMessage}
      (context : ReadContext) (dispatched : message ∈ manager.readBlocks) :
      Step manager (.readBlock message context) (manager.runReadBlock message context)
  | scheduleBlockIgnored {manager : OWSReadReceiptManager} (dispatched : 0 < manager.scheduleBlocks)
      (processing : manager.isProcessing = true) :
      Step manager .scheduleBlockIgnored manager.runScheduleBlock
  | scheduleBlock {manager : OWSReadReceiptManager} (dispatched : 0 < manager.scheduleBlocks)
      (idle : manager.isProcessing = false) :
      Step manager (.pass manager.batch) manager.runScheduleBlock
  | delayedPass {manager : OWSReadReceiptManager} (due : 0 < manager.delayedPasses) :
      Step manager (.pass manager.batch) manager.runDelayedPass

/-- A pass is running or will be: a block of `scheduleProcessing` waits, or a
delayed pass does. -/
def PassScheduled (manager : OWSReadReceiptManager) : Prop :=
  0 < manager.scheduleBlocks ∨ 0 < manager.delayedPasses

/-- A step that does not read a message of our own while no pass is due. -/
def Event.Covered (manager : OWSReadReceiptManager) : Event → Prop
  | .readBlock message context =>
      context.localNumber = some message.messageAuthorId → manager.PassScheduled
  | _ => True

def readsSince : List Event → List TSIncomingMessage :=
  List.foldl
    (fun reads event =>
      match event with
      | .readBlock message _ => reads ++ [message]
      | .pass _ => []
      | _ => reads)
    []

end OWSReadReceiptManager

/-- Of the messages read, `readReceipt` is for one of the thread's with the greatest
timestamp. -/
structure IsNewest (reads : List TSIncomingMessage) (threadId : String)
    (readReceipt : OWSLinkedDeviceReadReceipt) : Prop where
  ofMessage : ∃ message ∈ reads, message.uniqueThreadId = threadId ∧
    ∃ now, readReceipt = .ofMessage message now
  greatest : ∀ message ∈ reads, message.uniqueThreadId = threadId →
    message.timestamp ≤ readReceipt.messageIdTimestamp

/-- The batch carries the newest receipt of each thread read in, and nothing else. -/
def CarriesNewest (reads : List TSIncomingMessage)
    (message : Option OWSReadReceiptsForLinkedDevicesMessage) : Prop :=
  ∃ threadIds : List String, threadIds.Nodup ∧
    (∀ threadId, threadId ∈ threadIds ↔ ∃ read ∈ reads, read.uniqueThreadId = threadId) ∧
    List.Forall₂ (IsNewest reads) threadIds
      (message.elim [] OWSReadReceiptsForLinkedDevicesMessage.readReceipts)

structure HoldsNewest (reads : List TSIncomingMessage)
    (map : AList fun _ : String => OWSLinkedDeviceReadReceipt) : Prop where
  found : ∀ threadId readReceipt, map.lookup threadId = some readReceipt →
    IsNewest reads threadId readReceipt
  missing : ∀ threadId, map.lookup threadId = none →
    ∀ message ∈ reads, message.uniqueThreadId ≠ threadId

/-! ## What each operation does to the map -/

section Map

variable {reads : List TSIncomingMessage} {message : TSIncomingMessage} {threadId : String}
  {readReceipt : OWSLinkedDeviceReadReceipt} {now : ℕ}

/-- A later read in another thread, or of no newer message, does not touch a thread's newest
receipt. -/
theorem IsNewest.concat (h : IsNewest reads threadId readReceipt)
    (hle : message.uniqueThreadId = threadId →
      message.timestamp ≤ readReceipt.messageIdTimestamp) :
    IsNewest (reads ++ [message]) threadId readReceipt := by
  obtain ⟨source, hsource, hthread, now, rfl⟩ := h.ofMessage
  refine ⟨⟨source, List.mem_append_left _ hsource, hthread, now, rfl⟩, ?_⟩
  intro other hother hotherThread
  rcases List.mem_append.mp hother with hmem | hmem
  · exact h.greatest other hmem hotherThread
  · obtain rfl := List.mem_singleton.mp hmem
    exact hle hotherThread

/-- A read that nothing in its thread exceeds makes the newest receipt. -/
theorem IsNewest.ofMessage_concat
    (hle : ∀ other ∈ reads, other.uniqueThreadId = message.uniqueThreadId →
      other.timestamp ≤ message.timestamp) :
    IsNewest (reads ++ [message]) message.uniqueThreadId (.ofMessage message now) := by
  refine ⟨⟨message, by simp, rfl, now, rfl⟩, ?_⟩
  intro other hother hthread
  rcases List.mem_append.mp hother with hmem | hmem
  · exact hle other hmem hthread
  · rw [List.mem_singleton] at hmem
    exact hmem ▸ le_rfl

theorem HoldsNewest.empty : HoldsNewest [] ∅ where
  found := by simp
  missing := by simp

theorem HoldsNewest.keep {map : AList fun _ : String => OWSLinkedDeviceReadReceipt}
    (h : HoldsNewest reads map) (hold : map.lookup message.uniqueThreadId = some readReceipt)
    (hle : message.timestamp ≤ readReceipt.messageIdTimestamp) :
    HoldsNewest (reads ++ [message]) map where
  found := by
    intro threadId other hother
    by_cases hthread : message.uniqueThreadId = threadId
    · subst hthread
      obtain rfl : readReceipt = other := Option.some.inj (hold.symm.trans hother)
      exact (h.found _ _ hold).concat fun _ => hle
    · exact (h.found _ _ hother).concat fun heq => absurd heq hthread
  missing := by
    intro threadId hnone other hother
    rcases List.mem_append.mp hother with hmem | hmem
    · exact h.missing threadId hnone other hmem
    · rw [List.mem_singleton] at hmem
      rintro rfl
      rw [hmem, hold] at hnone
      exact absurd hnone (by simp)

theorem HoldsNewest.insert {map : AList fun _ : String => OWSLinkedDeviceReadReceipt}
    (h : HoldsNewest reads map)
    (hle : ∀ other ∈ reads, other.uniqueThreadId = message.uniqueThreadId →
      other.timestamp ≤ message.timestamp) :
    HoldsNewest (reads ++ [message])
      (map.insert message.uniqueThreadId (.ofMessage message now)) where
  found := by
    intro threadId readReceipt hlookup
    by_cases hthread : threadId = message.uniqueThreadId
    · subst hthread
      rw [AList.lookup_insert, Option.some.injEq] at hlookup
      exact hlookup ▸ IsNewest.ofMessage_concat hle
    · rw [AList.lookup_insert_ne hthread] at hlookup
      exact (h.found _ _ hlookup).concat fun heq => absurd heq.symm hthread
  missing := by
    intro threadId hnone other hother
    by_cases hthread : threadId = message.uniqueThreadId
    · subst hthread
      rw [AList.lookup_insert] at hnone
      exact absurd hnone (by simp)
    · rw [AList.lookup_insert_ne hthread] at hnone
      rcases List.mem_append.mp hother with hmem | hmem
      · exact h.missing threadId hnone other hmem
      · rw [List.mem_singleton] at hmem
        exact hmem ▸ Ne.symm hthread

namespace OWSReadReceiptManager

variable {manager : OWSReadReceiptManager} {manager' : OWSReadReceiptManager}

theorem enqueueReadReceipt_holdsNewest
    (h : HoldsNewest reads manager.toLinkedDevicesReadReceiptMap) :
    HoldsNewest (reads ++ [message]) (manager.enqueueReadReceipt message now) := by
  unfold enqueueReadReceipt
  cases hold : manager.toLinkedDevicesReadReceiptMap.lookup message.uniqueThreadId with
  | none =>
      exact h.insert fun other hother hthread =>
        absurd hthread (h.missing _ hold other hother)
  | some oldReadReceipt =>
      dsimp only
      split
      · rename_i hnewer
        exact h.keep hold (Nat.le_of_lt hnewer)
      · rename_i hnewer
        refine h.insert fun other hother hthread => ?_
        exact Nat.le_trans ((h.found _ _ hold).greatest other hother hthread)
          (Nat.le_of_not_lt hnewer)

@[simp] theorem readReceipts_batch :
    manager.batch.elim [] OWSReadReceiptsForLinkedDevicesMessage.readReceipts =
      manager.toLinkedDevicesReadReceiptMap.entries.map (·.snd) := by
  unfold batch
  cases manager.toLinkedDevicesReadReceiptMap.entries <;> simp

/-- **A pass hands over the newest receipt of each thread.** -/
theorem batch_carriesNewest (h : HoldsNewest reads manager.toLinkedDevicesReadReceiptMap) :
    CarriesNewest reads manager.batch := by
  refine ⟨manager.toLinkedDevicesReadReceiptMap.keys,
    manager.toLinkedDevicesReadReceiptMap.keys_nodup, ?_, ?_⟩
  · intro threadId
    rw [← AList.mem_keys, ← AList.lookup_isSome, Option.isSome_iff_exists]
    constructor
    · rintro ⟨readReceipt, hlookup⟩
      obtain ⟨message, hmessage, hthread, -⟩ := (h.found _ _ hlookup).ofMessage
      exact ⟨message, hmessage, hthread⟩
    · rintro ⟨message, hmessage, hthread⟩
      rw [← Option.isSome_iff_exists, ← Option.ne_none_iff_isSome]
      exact fun hnone => h.missing _ hnone message hmessage hthread
  · rw [readReceipts_batch, AList.keys, List.keys, List.forall₂_map_left_iff,
      List.forall₂_map_right_iff, List.forall₂_same]
    intro entry hentry
    exact h.found _ _ (AList.mem_lookup_iff.mpr hentry)

@[simp] theorem toLinkedDevicesReadReceiptMap_process :
    manager.process.toLinkedDevicesReadReceiptMap = ∅ := by
  unfold process
  split <;> rfl

/-! ## Passes are due -/

/-- The manager is awake: `isProcessing` is set only while a delayed pass is due, and
receipts wait only while a pass is. -/
structure Awake (manager : OWSReadReceiptManager) : Prop where
  processing : manager.isProcessing = true → 0 < manager.delayedPasses
  waiting : manager.toLinkedDevicesReadReceiptMap ≠ ∅ → manager.PassScheduled

theorem awake_new : Awake new where
  processing := by simp [new]
  waiting := by simp [new]

/-- A pass leaves the manager awake, however it found it. -/
theorem awake_process : Awake manager.process := by
  refine ⟨?_, by simp⟩
  unfold process
  split <;> simp

/-- **What a covered step keeps.** -/
theorem Step.awake {event : Event} (h : Step manager event manager')
    (covered : event.Covered manager) (awake : manager.Awake) : manager'.Awake := by
  cases h with
  | scheduleProcessing =>
      exact ⟨awake.processing, fun _ => .inl (Nat.succ_pos _)⟩
  | messageWasReadLocally message => exact ⟨awake.processing, awake.waiting⟩
  | @readBlock message context dispatched =>
      unfold runReadBlock
      by_cases hself : context.localNumber = some message.messageAuthorId
      · rw [if_pos hself]
        exact ⟨awake.processing, fun _ => covered hself⟩
      · rw [if_neg hself]
        exact ⟨awake.processing, fun _ => .inl (Nat.succ_pos _)⟩
  | scheduleBlockIgnored dispatched processing =>
      have hdue := awake.processing processing
      rw [runScheduleBlock, if_pos processing]
      exact ⟨fun _ => hdue, fun _ => .inr hdue⟩
  | scheduleBlock dispatched idle =>
      rw [runScheduleBlock, if_neg (by simp [idle])]
      exact awake_process
  | delayedPass due => exact awake_process

/-! ## The batches of a run -/

theorem readsSince_concat (events : List Event) (event : Event) :
    readsSince (events ++ [event]) =
      match event with
      | .readBlock message _ => readsSince events ++ [message]
      | .pass _ => []
      | _ => readsSince events := by
  rw [readsSince, List.foldl_append]
  rfl

theorem Step.holdsNewest {events : List Event} {event : Event} (h : Step manager event manager')
    (holds : HoldsNewest (readsSince events) manager.toLinkedDevicesReadReceiptMap) :
    HoldsNewest (readsSince (events ++ [event])) manager'.toLinkedDevicesReadReceiptMap := by
  rw [readsSince_concat]
  cases h with
  | scheduleProcessing => exact holds
  | messageWasReadLocally message => exact holds
  | @readBlock message context dispatched =>
      have hmap : (manager.runReadBlock message context).toLinkedDevicesReadReceiptMap =
          manager.enqueueReadReceipt message context.now := by
        unfold runReadBlock
        split <;> rfl
      rw [hmap]
      exact enqueueReadReceipt_holdsNewest holds
  | scheduleBlockIgnored dispatched processing =>
      rw [runScheduleBlock, if_pos processing]
      exact holds
  | scheduleBlock dispatched idle =>
      rw [runScheduleBlock, if_neg (by simp [idle]), toLinkedDevicesReadReceiptMap_process]
      exact .empty
  | delayedPass due =>
      rw [runDelayedPass, toLinkedDevicesReadReceiptMap_process]
      exact .empty

theorem Step.pass_eq {message : Option OWSReadReceiptsForLinkedDevicesMessage}
    (h : Step manager (.pass message) manager') : message = manager.batch := by
  cases h <;> rfl

/-- Every batch handed over carries the newest receipt of each thread read in since
the batch before. -/
def HandsOverNewest (events : List Event) : Prop :=
  ∀ before message after, events = before ++ .pass message :: after →
    CarriesNewest (readsSince before) message

/-- **The batches of every run**, covered or not. -/
theorem process_handsOverNewest {events : List Event} (h : LabelledRun Step new events manager) :
    HandsOverNewest events := by
  suffices HandsOverNewest events ∧
      HoldsNewest (readsSince events) manager.toLinkedDevicesReadReceiptMap from this.1
  apply h.invariant (I := fun events manager => HandsOverNewest events ∧
    HoldsNewest (readsSince events) manager.toLinkedDevicesReadReceiptMap)
  · refine ⟨?_, .empty⟩
    intro before message after hevents
    exact absurd hevents (by simp)
  · rintro events manager event manager' ⟨handsOver, holds⟩ step
    refine ⟨?_, step.holdsNewest holds⟩
    intro before message after hevents
    -- the pass is the last event, or one of the earlier ones
    rcases List.eq_nil_or_concat after with rfl | ⟨after, last, rfl⟩
    · obtain ⟨rfl, hlast⟩ := List.append_inj' hevents rfl
      obtain rfl := List.singleton_inj.mp hlast
      rw [step.pass_eq]
      exact batch_carriesNewest holds
    · rw [List.concat_eq_append, ← List.cons_append, ← List.append_assoc] at hevents
      exact handsOver before message after (List.append_inj' hevents rfl).1

/-- **No receipt is stranded** in a run that reads nothing of our own while no pass is
due, and the batches carry the newest receipts. -/
theorem passScheduled_and_handsOverNewest {events : List Event}
    (h : LabelledRun (fun manager event manager' =>
      Step manager event manager' ∧ event.Covered manager) new events manager) :
    (manager.toLinkedDevicesReadReceiptMap ≠ ∅ → manager.PassScheduled) ∧
      HandsOverNewest events := by
  refine ⟨?_, process_handsOverNewest (h.mono fun _ _ _ step => step.1)⟩
  have awake : manager.Awake :=
    h.invariant (I := fun _ manager => manager.Awake) awake_new
      fun _ _ _ _ awake step => step.1.awake step.2 awake
  exact awake.waiting

theorem passScheduled_of_read_of_other :
    let message : TSIncomingMessage :=
      ⟨"one", "c+15550001", 50, 60, some "+15550001", true, 0, 0⟩
    let context : ReadContext := ⟨some "+15550009", true, 70⟩
    let manager := (new.messageWasReadLocally message).runReadBlock message context
    (manager.toLinkedDevicesReadReceiptMap ≠ ∅ → manager.PassScheduled) ∧
      HandsOverNewest [.messageWasReadLocally message, .readBlock message context] := by
  intro message context manager
  have dispatched : LabelledRun (fun manager event manager' =>
      Step manager event manager' ∧ event.Covered manager) new [.messageWasReadLocally message]
      (new.messageWasReadLocally message) := .single ⟨.messageWasReadLocally message, trivial⟩
  refine passScheduled_and_handsOverNewest (dispatched.tail ⟨.readBlock context ?_, ?_⟩)
  · exact List.mem_singleton.mpr rfl
  · exact fun hself => absurd hself (by decide)

/-- A message of our own is read while no pass is due: its receipt is in the map, and
nothing will hand it over. -/
theorem stranded_of_read_of_own :
    ∃ events manager, LabelledRun Step new events manager ∧
      manager.toLinkedDevicesReadReceiptMap ≠ ∅ ∧ ¬manager.PassScheduled := by
  let message : TSIncomingMessage := ⟨"one", "c+15550009", 50, 60, some "+15550009", true, 0, 0⟩
  let context : ReadContext := ⟨some "+15550009", true, 70⟩
  have dispatched : LabelledRun Step new [.messageWasReadLocally message]
      (new.messageWasReadLocally message) := .single (.messageWasReadLocally message)
  have read : Step (new.messageWasReadLocally message) (.readBlock message context)
      ((new.messageWasReadLocally message).runReadBlock message context) :=
    .readBlock context (List.mem_singleton.mpr rfl)
  refine ⟨_, _, dispatched.tail read, ?_, ?_⟩
  · intro hempty
    exact absurd (congrArg (fun map => map.keys) hempty) (by decide)
  · unfold PassScheduled
    decide

end OWSReadReceiptManager

end Map

end ObjcSwiftLearning.SignalServiceKit
