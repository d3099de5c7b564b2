import Mathlib.Data.Finset.Card
import Mathlib.Data.List.AList
import ObjcSwiftLearning.Library.LabelledRun

/-!
# The receipts we owe to senders

`OWSOutgoingReceiptManager` keeps, for each kind of receipt and each recipient, the
timestamps to be acknowledged.  Everything that writes them runs on one serial
queue: enqueueing, dequeueing after a message has been sent, and the passes that
send.  A pass sends a message for each recipient with what is stored by then, and
while the messages are out the store goes on changing.

* `SerialQueueBlock`, `runBlock` — the queue, block by block.
* `enqueued_until_succeeded` — a receipt is stored, or about to be, until a message
  with it has succeeded.
* `removed_only_by_dequeue` — and nothing else takes one out of the store.
* `work_is_scheduled` — while there is something to send and a network to send it,
  the manager is not asleep.

The manager starts when the app is ready, on whatever an earlier run left stored.  That the
network has changed is posted by a notifier which the main app starts.
-/

namespace ObjcSwiftLearning.SignalServiceKit

/-! ## The store -/

inductive OWSReceiptType where
  | delivery
  | read
  deriving DecidableEq

/-- One receipt: what `enqueueReceiptWithRecipientId:timestamp:receiptType:` is given. -/
structure Receipt where
  receiptType : OWSReceiptType
  recipientId : String
  timestamp : ℕ
  deriving DecidableEq

/-- The guards of `enqueueReceiptWithRecipientId:timestamp:receiptType:`. -/
def Receipt.IsValid (receipt : Receipt) : Prop :=
  ¬receipt.recipientId.length < 1 ∧ ¬receipt.timestamp < 1

instance (receipt : Receipt) : Decidable receipt.IsValid :=
  inferInstanceAs (Decidable (_ ∧ _))

structure OWSReceiptsForSenderMessage where
  receiptType : OWSReceiptType
  recipientId : String
  messageTimestamps : Finset ℕ
  deriving DecidableEq

/-- The message acknowledges the receipt. -/
def OWSReceiptsForSenderMessage.Contains (message : OWSReceiptsForSenderMessage)
    (receipt : Receipt) : Prop :=
  message.receiptType = receipt.receiptType ∧ message.recipientId = receipt.recipientId ∧
    receipt.timestamp ∈ message.messageTimestamps

instance (message : OWSReceiptsForSenderMessage) (receipt : Receipt) :
    Decidable (message.Contains receipt) :=
  inferInstanceAs (Decidable (_ ∧ _ ∧ _))

/-- A collection of the database: the timestamps of each recipient. -/
abbrev ReceiptCollection := AList fun _ : String => Finset ℕ

abbrev ReceiptStore := OWSReceiptType → ReceiptCollection

namespace ReceiptStore

variable (store : ReceiptStore)

def timestamps (receiptType : OWSReceiptType) (recipientId : String) : Finset ℕ :=
  ((store receiptType).lookup recipientId).getD ∅

def Holds (receipt : Receipt) : Prop :=
  receipt.timestamp ∈ store.timestamps receipt.receiptType receipt.recipientId

instance (receipt : Receipt) : Decidable (store.Holds receipt) :=
  inferInstanceAs (Decidable (_ ∈ _))

def setCollection (receiptType : OWSReceiptType) (collection : ReceiptCollection) : ReceiptStore :=
  fun otherType => if otherType = receiptType then collection else store otherType

/-- The transaction of `enqueueReceiptWithRecipientId:timestamp:receiptType:`. -/
def enqueue (receipt : Receipt) : ReceiptStore :=
  store.setCollection receipt.receiptType
    ((store receipt.receiptType).insert receipt.recipientId
      (insert receipt.timestamp (store.timestamps receipt.receiptType receipt.recipientId)))

/-- The transaction of `dequeueReceiptsWithRecipientId:timestamps:receiptType:`. -/
def dequeue (message : OWSReceiptsForSenderMessage) : ReceiptStore :=
  let newTimestamps :=
    store.timestamps message.receiptType message.recipientId \ message.messageTimestamps
  store.setCollection message.receiptType
    (if 0 < newTimestamps.card then
      (store message.receiptType).insert message.recipientId newTimestamps
    else (store message.receiptType).erase message.recipientId)

def receiptsFor (receiptType : OWSReceiptType) : List OWSReceiptsForSenderMessage :=
  (store receiptType).entries.filterMap fun entry =>
    if entry.snd.card < 1 then none
    else
      some
        { receiptType
          recipientId := entry.fst
          messageTimestamps := entry.snd }

def messagesToSend : List OWSReceiptsForSenderMessage :=
  store.receiptsFor .delivery ++ store.receiptsFor .read

end ReceiptStore

/-! ## The manager -/

inductive SerialQueueBlock where
  | process
  /-- The end of the delay after a pass. -/
  | delayElapsed
  | enqueue (receipt : Receipt)
  | dequeue (message : OWSReceiptsForSenderMessage)
  deriving DecidableEq

structure OWSOutgoingReceiptManager where
  store : ReceiptStore
  /-- The blocks not run yet, first to be run first. -/
  serialQueue : List SerialQueueBlock
  isProcessing : Bool
  /-- `reachability.isReachable`. -/
  isReachable : Bool
  /-- The passes whose `PMKJoin` has not completed, each with its messages that have
  no answer yet. -/
  passes : List (List OWSReceiptsForSenderMessage)
  /-- How many delays of `dispatch_after` run. -/
  delays : ℕ
  /-- How many reachability notifications have not arrived yet. -/
  notifications : ℕ

namespace OWSOutgoingReceiptManager

variable (manager : OWSOutgoingReceiptManager)

/-- The manager as the app becomes ready: the block of the first `process` waits. -/
def start (store : ReceiptStore) (isReachable : Bool) : OWSOutgoingReceiptManager where
  store
  serialQueue := [.process]
  isProcessing := false
  isReachable
  passes := []
  delays := 0
  notifications := 0

/-- `dispatch_async(self.serialQueue, …)`. -/
def dispatch (block : SerialQueueBlock) : OWSOutgoingReceiptManager :=
  { manager with serialQueue := manager.serialQueue ++ [block] }

/-- `enqueueReceiptWithRecipientId:timestamp:receiptType:`. -/
def enqueueReceipt (receipt : Receipt) : OWSOutgoingReceiptManager :=
  if receipt.recipientId.length < 1 ∨ receipt.timestamp < 1 then manager
  else manager.dispatch (.enqueue receipt)

/-- `dequeueReceiptsWithRecipientId:timestamps:receiptType:`. -/
def dequeueReceipts (message : OWSReceiptsForSenderMessage) : OWSOutgoingReceiptManager :=
  if message.recipientId.length < 1 ∨ message.messageTimestamps.card < 1 then manager
  else manager.dispatch (.dequeue message)

/-- The block of `process`. -/
def runProcess : OWSOutgoingReceiptManager :=
  if manager.isProcessing then manager
  else if !manager.isReachable then { manager with isProcessing := false }
  else
    let sendPromises := manager.store.messagesToSend
    if sendPromises.length < 1 then { manager with isProcessing := false }
    else { manager with isProcessing := true, passes := manager.passes ++ [sendPromises] }

def runBlock : SerialQueueBlock → OWSOutgoingReceiptManager
  | .process => manager.runProcess
  | .delayElapsed => { manager with isProcessing := false }.dispatch .process
  | .enqueue receipt => { manager with store := manager.store.enqueue receipt }.dispatch .process
  | .dequeue message => { manager with store := manager.store.dequeue message }

/-- What happens. -/
inductive Event where
  | enqueueReceipt (receipt : Receipt)
  | blockRun (block : SerialQueueBlock)
  | succeeded (message : OWSReceiptsForSenderMessage)
  | failed (message : OWSReceiptsForSenderMessage)
  | passCompleted
  | delayElapsed
  | networkChanged (isReachable : Bool)
  | reachabilityChanged

inductive Step : OWSOutgoingReceiptManager → Event → OWSOutgoingReceiptManager → Prop
  | enqueueReceipt {manager : OWSOutgoingReceiptManager} (receipt : Receipt) :
      Step manager (.enqueueReceipt receipt) (manager.enqueueReceipt receipt)
  | blockRun {manager : OWSOutgoingReceiptManager} {block : SerialQueueBlock}
      {blocks : List SerialQueueBlock} (first : manager.serialQueue = block :: blocks) :
      Step manager (.blockRun block) ({ manager with serialQueue := blocks }.runBlock block)
  | succeeded {manager : OWSOutgoingReceiptManager} {message : OWSReceiptsForSenderMessage}
      {before after : List (List OWSReceiptsForSenderMessage)}
      {pass : List OWSReceiptsForSenderMessage} (inFlight : manager.passes = before ++ pass :: after)
      (sent : message ∈ pass) :
      Step manager (.succeeded message)
        ({ manager with passes := before ++ pass.erase message :: after }.dequeueReceipts message)
  | failed {manager : OWSOutgoingReceiptManager} {message : OWSReceiptsForSenderMessage}
      {before after : List (List OWSReceiptsForSenderMessage)}
      {pass : List OWSReceiptsForSenderMessage} (inFlight : manager.passes = before ++ pass :: after)
      (sent : message ∈ pass) :
      Step manager (.failed message)
        { manager with passes := before ++ pass.erase message :: after }
  | passCompleted {manager : OWSOutgoingReceiptManager}
      {before after : List (List OWSReceiptsForSenderMessage)}
      (answered : manager.passes = before ++ [] :: after) :
      Step manager .passCompleted
        { manager with passes := before ++ after, delays := manager.delays + 1 }
  | delayElapsed {manager : OWSOutgoingReceiptManager} (running : 0 < manager.delays) :
      Step manager .delayElapsed
        ({ manager with delays := manager.delays - 1 }.dispatch .delayElapsed)
  | networkChanged {manager : OWSOutgoingReceiptManager} (isReachable : Bool) :
      Step manager (.networkChanged isReachable)
        { manager with isReachable, notifications := manager.notifications + 1 }
  | reachabilityChanged {manager : OWSOutgoingReceiptManager} (posted : 0 < manager.notifications) :
      Step manager .reachabilityChanged
        ({ manager with notifications := manager.notifications - 1 }.dispatch .process)

end OWSOutgoingReceiptManager

/-! ## What the transactions do -/

namespace ReceiptStore

variable {store : ReceiptStore} {receipt other : Receipt} {message : OWSReceiptsForSenderMessage}

variable {collection : ReceiptCollection} {receiptType otherType : OWSReceiptType}
  {recipientId : String}

@[simp] theorem timestamps_setCollection :
    (store.setCollection receiptType collection).timestamps receiptType recipientId =
      (collection.lookup recipientId).getD ∅ := by
  simp [timestamps, setCollection]

theorem timestamps_setCollection_of_ne (h : otherType ≠ receiptType) :
    (store.setCollection receiptType collection).timestamps otherType recipientId =
      store.timestamps otherType recipientId := by
  simp [timestamps, setCollection, h]

/-- What enqueueing does to the timestamps of each recipient. -/
theorem timestamps_enqueue :
    (store.enqueue receipt).timestamps otherType recipientId =
      if otherType = receipt.receiptType ∧ recipientId = receipt.recipientId then
        insert receipt.timestamp (store.timestamps otherType recipientId)
      else store.timestamps otherType recipientId := by
  by_cases htype : otherType = receipt.receiptType
  · subst htype
    rw [enqueue, timestamps_setCollection]
    by_cases hid : recipientId = receipt.recipientId
    · subst hid
      rw [AList.lookup_insert, if_pos ⟨rfl, rfl⟩]
      rfl
    · rw [AList.lookup_insert_ne hid, if_neg (by simp [hid])]
      rfl
  · rw [enqueue, timestamps_setCollection_of_ne htype, if_neg (by simp [htype])]

theorem timestamps_dequeue :
    (store.dequeue message).timestamps otherType recipientId =
      if otherType = message.receiptType ∧ recipientId = message.recipientId then
        store.timestamps otherType recipientId \ message.messageTimestamps
      else store.timestamps otherType recipientId := by
  by_cases htype : otherType = message.receiptType
  · subst htype
    rw [dequeue, timestamps_setCollection]
    by_cases hid : recipientId = message.recipientId
    · subst hid
      by_cases hcard : 0 < (store.timestamps message.receiptType message.recipientId \
          message.messageTimestamps).card
      · rw [if_pos hcard, AList.lookup_insert, if_pos ⟨rfl, rfl⟩]
        rfl
      · rw [if_neg hcard, AList.lookup_erase, if_pos ⟨rfl, rfl⟩]
        exact (Finset.card_eq_zero.mp (Nat.eq_zero_of_not_pos hcard)).symm
    · have hdifferent : ¬(message.receiptType = message.receiptType ∧
          recipientId = message.recipientId) := fun h => hid h.2
      rw [if_neg hdifferent]
      by_cases hcard : 0 < (store.timestamps message.receiptType message.recipientId \
          message.messageTimestamps).card
      · rw [if_pos hcard, AList.lookup_insert_ne hid]
        rfl
      · rw [if_neg hcard, AList.lookup_erase_ne hid]
        rfl
  · rw [dequeue, timestamps_setCollection_of_ne htype, if_neg (by simp [htype])]

/-- Enqueueing adds the receipt and nothing else. -/
theorem holds_enqueue :
    (store.enqueue receipt).Holds other ↔ other = receipt ∨ store.Holds other := by
  obtain ⟨otherType, otherId, otherTimestamp⟩ := other
  obtain ⟨receiptType, recipientId, timestamp⟩ := receipt
  simp only [Holds, timestamps_enqueue, Receipt.mk.injEq]
  split
  · rename_i hsame
    simp [hsame]
  · rename_i hdifferent
    constructor
    · exact .inr
    · rintro (⟨htype, hid, -⟩ | hheld)
      · exact absurd ⟨htype, hid⟩ hdifferent
      · exact hheld

/-- Dequeueing removes what the message contains and nothing else. -/
theorem holds_dequeue :
    (store.dequeue message).Holds other ↔ store.Holds other ∧ ¬message.Contains other := by
  simp only [Holds, timestamps_dequeue, OWSReceiptsForSenderMessage.Contains]
  split
  · rename_i hsame
    simp [hsame]
  · rename_i hdifferent
    refine (and_iff_left ?_).symm
    rintro ⟨htype, hid, -⟩
    exact hdifferent ⟨htype.symm, hid.symm⟩

theorem messagesToSend_ne_nil (h : store.Holds receipt) : store.messagesToSend ≠ [] := by
  have hentry : ∃ timestamps, (store receipt.receiptType).lookup receipt.recipientId =
      some timestamps ∧ receipt.timestamp ∈ timestamps := by
    unfold Holds timestamps at h
    cases hlookup : (store receipt.receiptType).lookup receipt.recipientId with
    | none => simp [hlookup] at h
    | some timestamps => exact ⟨timestamps, rfl, by simpa [hlookup] using h⟩
  obtain ⟨timestamps, hlookup, htimestamp⟩ := hentry
  have hmessage : OWSReceiptsForSenderMessage.mk receipt.receiptType receipt.recipientId timestamps ∈
      store.receiptsFor receipt.receiptType := by
    rw [receiptsFor, List.mem_filterMap]
    refine ⟨⟨receipt.recipientId, timestamps⟩, AList.mem_lookup_iff.mp hlookup, ?_⟩
    have hcard : ¬timestamps.card < 1 := by
      have := Finset.card_pos.mpr ⟨_, htimestamp⟩
      omega
    simp [hcard]
  apply List.ne_nil_of_mem (a := ⟨receipt.receiptType, receipt.recipientId, timestamps⟩)
  rw [messagesToSend, List.mem_append]
  cases htype : receipt.receiptType with
  | delivery => exact .inl (htype ▸ hmessage)
  | read => exact .inr (htype ▸ hmessage)

end ReceiptStore

/-! ## The store once the queue has run -/

namespace SerialQueueBlock

def transaction (store : ReceiptStore) : SerialQueueBlock → ReceiptStore
  | .process | .delayElapsed => store
  | .enqueue receipt => store.enqueue receipt
  | .dequeue message => store.dequeue message

def storeAfter (store : ReceiptStore) (blocks : List SerialQueueBlock) : ReceiptStore :=
  blocks.foldl transaction store

theorem storeAfter_concat (store : ReceiptStore) (blocks : List SerialQueueBlock)
    (block : SerialQueueBlock) :
    storeAfter store (blocks ++ [block]) = block.transaction (storeAfter store blocks) := by
  rw [storeAfter, List.foldl_append]
  rfl

theorem holds_or_mem_of_storeAfter {store : ReceiptStore} {blocks : List SerialQueueBlock}
    {receipt : Receipt} (h : (storeAfter store blocks).Holds receipt) :
    store.Holds receipt ∨ .enqueue receipt ∈ blocks := by
  induction blocks generalizing store with
  | nil => exact .inl h
  | cons block blocks ih =>
      rcases ih h with hstore | hmem
      · cases block with
        | process => exact .inl hstore
        | delayElapsed => exact .inl hstore
        | enqueue other =>
            rcases ReceiptStore.holds_enqueue.mp hstore with rfl | hheld
            · exact .inr List.mem_cons_self
            · exact .inl hheld
        | dequeue message => exact .inl (ReceiptStore.holds_dequeue.mp hstore).1
      · exact .inr (List.mem_cons_of_mem _ hmem)

end SerialQueueBlock

namespace OWSOutgoingReceiptManager

open SerialQueueBlock

variable {manager manager' : OWSOutgoingReceiptManager} {event : Event} {receipt : Receipt}
  {message : OWSReceiptsForSenderMessage} {block : SerialQueueBlock}

/-- The store once the serial queue has run. -/
def settledStore (manager : OWSOutgoingReceiptManager) : ReceiptStore :=
  storeAfter manager.store manager.serialQueue

@[simp] theorem settledStore_dispatch :
    (manager.dispatch block).settledStore = block.transaction manager.settledStore :=
  storeAfter_concat _ _ _

@[simp] theorem store_runBlock : (manager.runBlock block).store = block.transaction manager.store := by
  cases block with
  | process =>
      rw [runBlock, runProcess]
      split
      · rfl
      · split
        · rfl
        · dsimp only
          split <;> rfl
  | delayElapsed => rfl
  | enqueue receipt => rfl
  | dequeue message => rfl

/-- Running a block leaves the rest of the queue, with a block of `process` perhaps. -/
theorem serialQueue_runBlock :
    (manager.runBlock block).serialQueue = manager.serialQueue ∨
      (manager.runBlock block).serialQueue = manager.serialQueue ++ [.process] := by
  cases block with
  | process =>
      left
      rw [runBlock, runProcess]
      split
      · rfl
      · split
        · rfl
        · dsimp only
          split <;> rfl
  | delayElapsed => exact .inr rfl
  | enqueue receipt => exact .inr rfl
  | dequeue message => exact .inl rfl

theorem settledStore_runBlock {blocks : List SerialQueueBlock}
    (first : manager.serialQueue = block :: blocks) :
    ({ manager with serialQueue := blocks }.runBlock block).settledStore = manager.settledStore := by
  have hrest : storeAfter ({ manager with serialQueue := blocks }.runBlock block).store blocks =
      manager.settledStore := by
    rw [store_runBlock, settledStore, first]
    rfl
  rcases @serialQueue_runBlock { manager with serialQueue := blocks } block with hqueue | hqueue
  · rw [settledStore, hqueue]
    exact hrest
  · rw [settledStore, hqueue, storeAfter_concat]
    exact hrest

/-- **What a step leaves of a receipt**: it will still be stored, unless a message with
it has just succeeded. -/
theorem Step.settledStore_holds (h : Step manager event manager')
    (hheld : manager.settledStore.Holds receipt) :
    manager'.settledStore.Holds receipt ∨
      ∃ message, event = .succeeded message ∧ message.Contains receipt := by
  cases h with
  | enqueueReceipt other =>
      left
      unfold OWSOutgoingReceiptManager.enqueueReceipt
      split
      · exact hheld
      · rw [settledStore_dispatch]
        exact ReceiptStore.holds_enqueue.mpr (.inr hheld)
  | blockRun first =>
      rw [settledStore_runBlock first]
      exact .inl hheld
  | @succeeded message before after pass inFlight sent =>
      by_cases hcontains : message.Contains receipt
      · exact .inr ⟨message, rfl, hcontains⟩
      · left
        unfold dequeueReceipts
        split
        · exact hheld
        · rw [settledStore_dispatch]
          exact ReceiptStore.holds_dequeue.mpr ⟨hheld, hcontains⟩
  | failed inFlight sent | passCompleted answered | networkChanged isReachable => exact .inl hheld
  | delayElapsed running | reachabilityChanged posted =>
      rw [settledStore_dispatch]
      exact .inl hheld

theorem Step.settledStore_holds_of_enqueueReceipt
    (h : Step manager (.enqueueReceipt receipt) manager') (valid : receipt.IsValid) :
    manager'.settledStore.Holds receipt := by
  cases h
  rw [OWSOutgoingReceiptManager.enqueueReceipt, if_neg (not_or.mpr valid), settledStore_dispatch]
  exact ReceiptStore.holds_enqueue.mpr (.inl rfl)

/-! ## Nothing is lost -/

variable {events : List Event} {store : ReceiptStore} {isReachable : Bool}

/-- **A receipt enqueued will be stored until a message with it has succeeded.** -/
theorem enqueued_until_succeeded (h : LabelledRun Step (start store isReachable) events manager) :
    ∀ before receipt after, events = before ++ .enqueueReceipt receipt :: after →
      receipt.IsValid → manager.settledStore.Holds receipt ∨
        ∃ message, .succeeded message ∈ after ∧ message.Contains receipt := by
  refine h.invariant (I := fun events manager => ∀ before receipt after,
    events = before ++ .enqueueReceipt receipt :: after → receipt.IsValid →
      manager.settledStore.Holds receipt ∨
        ∃ message, .succeeded message ∈ after ∧ message.Contains receipt) ?_ ?_
  · intro before receipt after hevents
    exact absurd hevents (by simp)
  · intro events manager event manager' ih step before receipt after hevents valid
    -- the receipt has just been enqueued, or had been before
    rcases List.eq_nil_or_concat after with rfl | ⟨after, last, rfl⟩
    · obtain ⟨-, hlast⟩ := List.append_inj' hevents rfl
      obtain rfl := List.singleton_inj.mp hlast
      exact .inl (step.settledStore_holds_of_enqueueReceipt valid)
    · rw [List.concat_eq_append, ← List.cons_append, ← List.append_assoc] at hevents
      obtain ⟨hbefore, hlast⟩ := List.append_inj' hevents rfl
      obtain rfl := List.singleton_inj.mp hlast
      rw [List.concat_eq_append]
      rcases ih before receipt after hbefore valid with hheld | ⟨message, hmem, hcontains⟩
      · rcases step.settledStore_holds hheld with hstill | ⟨message, rfl, hcontains⟩
        · exact .inl hstill
        · exact .inr ⟨message, by simp, hcontains⟩
      · exact .inr ⟨message, List.mem_append_left _ hmem, hcontains⟩

theorem dequeue_of_succeeded (h : LabelledRun Step (start store isReachable) events manager) :
    ∀ message, .dequeue message ∈ manager.serialQueue → .succeeded message ∈ events := by
  refine h.invariant (I := fun events manager => ∀ message,
    .dequeue message ∈ manager.serialQueue → .succeeded message ∈ events) ?_ ?_
  · intro message hmem
    exact absurd hmem (by simp [start])
  · intro events manager event manager' ih step message hmem
    have hold : .dequeue message ∈ manager.serialQueue → .succeeded message ∈ events ++ [event] :=
      fun hqueue => List.mem_append_left _ (ih message hqueue)
    cases step with
    | enqueueReceipt other =>
        apply hold
        unfold OWSOutgoingReceiptManager.enqueueReceipt at hmem
        split at hmem
        · exact hmem
        · simpa [dispatch] using hmem
    | @blockRun block blocks first =>
        apply hold
        rw [first]
        apply List.mem_cons_of_mem
        rcases @serialQueue_runBlock { manager with serialQueue := blocks } block with
          hqueue | hqueue
        · rwa [hqueue] at hmem
        · rw [hqueue] at hmem
          simpa using hmem
    | @succeeded other before after pass inFlight sent =>
        unfold dequeueReceipts at hmem
        split at hmem
        · exact hold hmem
        · simp only [dispatch, List.mem_append, List.mem_singleton,
            SerialQueueBlock.dequeue.injEq] at hmem
          rcases hmem with hqueue | rfl
          · exact hold hqueue
          · simp
    | failed inFlight sent | passCompleted answered | networkChanged isReachable => exact hold hmem
    | delayElapsed running | reachabilityChanged posted =>
        exact hold (by simpa [dispatch] using hmem)

/-- **Nothing but dequeueing takes a receipt out of the store.** -/
theorem Step.removed_only_by_dequeue (h : Step manager event manager')
    (hbefore : manager.store.Holds receipt) (hafter : ¬manager'.store.Holds receipt) :
    ∃ message, .dequeue message ∈ manager.serialQueue ∧ event = .blockRun (.dequeue message) ∧
      message.Contains receipt := by
  cases h with
  | @blockRun block blocks first =>
      rw [store_runBlock] at hafter
      cases block with
      | process => exact absurd hbefore hafter
      | delayElapsed => exact absurd hbefore hafter
      | enqueue other => exact absurd (ReceiptStore.holds_enqueue.mpr (.inr hbefore)) hafter
      | dequeue message =>
          refine ⟨message, first ▸ List.mem_cons_self, rfl, ?_⟩
          by_contra hcontains
          exact hafter (ReceiptStore.holds_dequeue.mpr ⟨hbefore, hcontains⟩)
  | enqueueReceipt other =>
      unfold OWSOutgoingReceiptManager.enqueueReceipt at hafter
      split at hafter <;> exact absurd hbefore hafter
  | succeeded inFlight sent =>
      unfold dequeueReceipts at hafter
      split at hafter <;> exact absurd hbefore hafter
  | _ => exact absurd hbefore hafter

/-! ## The manager is not asleep -/

/-- The manager is awake: `isProcessing` is set only from a pass to the end of the
delay after it, and while there is a receipt to send and a network, a pass is in
flight or one is to come. -/
structure Awake (manager : OWSOutgoingReceiptManager) : Prop where
  processing : manager.isProcessing = true →
    manager.passes ≠ [] ∨ 0 < manager.delays ∨ .delayElapsed ∈ manager.serialQueue
  working : ∀ receipt, manager.store.Holds receipt → manager.isReachable = true →
    manager.passes ≠ [] ∨ 0 < manager.delays ∨ 0 < manager.notifications ∨
      ∃ block ∈ manager.serialQueue, ∀ message, block ≠ .dequeue message

theorem awake_start : (start store isReachable).Awake where
  processing := by simp [start]
  working := fun _ _ _ => .inr (.inr (.inr ⟨.process, List.mem_singleton.mpr rfl, by simp⟩))

/-- One more block does not put the manager to sleep. -/
theorem Awake.dispatch (h : manager.Awake) : (manager.dispatch block).Awake where
  processing := by
    intro hprocessing
    rcases h.processing hprocessing with hpass | hdelay | hqueue
    · exact .inl hpass
    · exact .inr (.inl hdelay)
    · exact .inr (.inr (List.mem_append_left _ hqueue))
  working := by
    intro receipt hheld hreachable
    rcases h.working receipt hheld hreachable with hpass | hdelay | hposted | ⟨other, hother, hne⟩
    · exact .inl hpass
    · exact .inr (.inl hdelay)
    · exact .inr (.inr (.inl hposted))
    · exact .inr (.inr (.inr ⟨other, List.mem_append_left _ hother, hne⟩))

theorem awake_dispatch_process
    (hprocessing : manager.isProcessing = true →
      manager.passes ≠ [] ∨ 0 < manager.delays ∨ .delayElapsed ∈ manager.serialQueue) :
    (manager.dispatch .process).Awake where
  processing := by
    intro h
    rcases hprocessing h with hpass | hdelay | hqueue
    · exact .inl hpass
    · exact .inr (.inl hdelay)
    · exact .inr (.inr (List.mem_append_left _ hqueue))
  working := fun _ _ _ => .inr (.inr (.inr ⟨.process, by simp [OWSOutgoingReceiptManager.dispatch],
    by simp⟩))

/-- The block of `process` ends with a pass in flight, or with nothing to send, or
with no network to send it; or it found a pass in flight. -/
theorem awake_runProcess
    (hprocessing : manager.isProcessing = true →
      manager.passes ≠ [] ∨ 0 < manager.delays ∨ .delayElapsed ∈ manager.serialQueue) :
    manager.runProcess.Awake := by
  unfold runProcess
  by_cases hbusy : manager.isProcessing = true
  · rw [if_pos hbusy]
    refine ⟨hprocessing, fun _ _ _ => ?_⟩
    rcases hprocessing hbusy with hpass | hdelay | hqueue
    · exact .inl hpass
    · exact .inr (.inl hdelay)
    · exact .inr (.inr (.inr ⟨.delayElapsed, hqueue, by simp⟩))
  · rw [if_neg hbusy]
    by_cases hreachable : manager.isReachable = true
    · rw [if_neg (by simp [hreachable])]
      by_cases hwork : manager.store.messagesToSend.length < 1
      · rw [if_pos hwork]
        refine ⟨by simp, fun receipt hheld _ => ?_⟩
        have hnone : manager.store.messagesToSend = [] := List.length_eq_zero_iff.mp (by omega)
        exact absurd hnone (ReceiptStore.messagesToSend_ne_nil hheld)
      · rw [if_neg hwork]
        exact ⟨fun _ => .inl (by simp), fun _ _ _ => .inl (by simp)⟩
    · rw [if_pos (by simp [hreachable])]
      exact ⟨by simp, fun _ _ hnow => absurd hnow hreachable⟩

/-- **A block leaves the manager awake.** -/
theorem Awake.runBlock {blocks : List SerialQueueBlock} (h : manager.Awake)
    (first : manager.serialQueue = block :: blocks) :
    ({ manager with serialQueue := blocks }.runBlock block).Awake := by
  have hprocessing := h.processing
  have hworking := h.working
  rw [first] at hprocessing hworking
  cases block with
  | process =>
      -- a block of `process` is no delay that has elapsed
      apply awake_runProcess
      simpa using hprocessing
  | delayElapsed => exact awake_dispatch_process (by simp)
  | enqueue receipt => exact awake_dispatch_process (by simpa using hprocessing)
  | dequeue message =>
      have hrest : manager.isProcessing = true →
          manager.passes ≠ [] ∨ 0 < manager.delays ∨ .delayElapsed ∈ blocks := by
        simpa using hprocessing
      refine ⟨hrest, ?_⟩
      intro receipt hheld hreachable
      have hstored := (ReceiptStore.holds_dequeue.mp hheld).1
      rcases hworking receipt hstored hreachable with hpass | hdelay | hposted | ⟨other, hother, hne⟩
      · exact .inl hpass
      · exact .inr (.inl hdelay)
      · exact .inr (.inr (.inl hposted))
      · rcases List.mem_cons.mp hother with rfl | hmem
        · exact absurd rfl (hne message)
        · exact .inr (.inr (.inr ⟨other, hmem, hne⟩))

theorem awake_of_pass (h : manager.passes ≠ []) : manager.Awake :=
  ⟨fun _ => .inl h, fun _ _ _ => .inl h⟩

/-- **What one step keeps.** -/
theorem Step.awake (h : Step manager event manager') (awake : manager.Awake) : manager'.Awake := by
  cases h with
  | enqueueReceipt other =>
      unfold OWSOutgoingReceiptManager.enqueueReceipt
      split
      · exact awake
      · exact awake.dispatch
  | blockRun first => exact awake.runBlock first
  | succeeded inFlight sent =>
      unfold dequeueReceipts
      split
      · exact awake_of_pass (by simp)
      · exact (awake_of_pass (by simp)).dispatch
  | failed inFlight sent => exact awake_of_pass (by simp)
  | passCompleted answered =>
      exact ⟨fun _ => .inr (.inl (Nat.succ_pos _)), fun _ _ _ => .inr (.inl (Nat.succ_pos _))⟩
  | delayElapsed running =>
      have hlast : SerialQueueBlock.delayElapsed ∈ manager.serialQueue ++ [.delayElapsed] := by simp
      exact ⟨fun _ => .inr (.inr hlast), fun _ _ _ => .inr (.inr (.inr ⟨_, hlast, by simp⟩))⟩
  | networkChanged isReachable =>
      exact ⟨awake.processing, fun _ _ _ => .inr (.inr (.inl (Nat.succ_pos _)))⟩
  | reachabilityChanged posted => exact awake_dispatch_process awake.processing

/-- **Outgoing receipts are never lost**: one enqueued is stored, or about to be, until
a message with it has succeeded; only what a succeeded message contained is ever
removed; and while there is something to send, a pass is in flight or to come. -/
theorem receipts_never_lost (h : LabelledRun Step (start store isReachable) events manager) :
    (∀ before receipt after, events = before ++ .enqueueReceipt receipt :: after →
      receipt.IsValid →
        manager.store.Holds receipt ∨ .enqueue receipt ∈ manager.serialQueue ∨
          ∃ message, .succeeded message ∈ after ∧ message.Contains receipt) ∧
      (∀ event manager' receipt, Step manager event manager' → manager.store.Holds receipt →
        ¬manager'.store.Holds receipt →
          ∃ message, event = .blockRun (.dequeue message) ∧ .succeeded message ∈ events ∧
            message.Contains receipt) ∧
      ((∃ receipt, manager.store.Holds receipt) → manager.isReachable = true →
        manager.serialQueue = [] →
          manager.passes ≠ [] ∨ 0 < manager.delays ∨ 0 < manager.notifications) := by
  refine ⟨?_, ?_, ?_⟩
  · intro before receipt after hevents valid
    rcases enqueued_until_succeeded h before receipt after hevents valid with hheld | hsent
    · rcases holds_or_mem_of_storeAfter hheld with hstored | hwaiting
      · exact .inl hstored
      · exact .inr (.inl hwaiting)
    · exact .inr (.inr hsent)
  · intro event manager' receipt step hbefore hafter
    obtain ⟨message, hqueue, hevent, hcontains⟩ := step.removed_only_by_dequeue hbefore hafter
    exact ⟨message, hevent, dequeue_of_succeeded h message hqueue, hcontains⟩
  · rintro ⟨receipt, hheld⟩ hreachable hidle
    have awake : manager.Awake :=
      h.invariant (I := fun _ manager => manager.Awake) awake_start
        fun _ _ _ _ awake step => step.awake awake
    rcases awake.working receipt hheld hreachable with hpass | hdelay | hposted | ⟨block, hblock, -⟩
    · exact .inl hpass
    · exact .inr (.inl hdelay)
    · exact .inr (.inr hposted)
    · rw [hidle] at hblock
      exact absurd hblock List.not_mem_nil

theorem read_receipt_not_lost :
    let receipt : Receipt := ⟨.read, "+15550001", 50⟩
    let manager := (start (fun _ => ∅) true).enqueueReceipt receipt
    manager.store.Holds receipt ∨ .enqueue receipt ∈ manager.serialQueue ∨
      ∃ message, .succeeded message ∈ ([] : List Event) ∧ message.Contains receipt := by
  intro receipt manager
  exact (receipts_never_lost (.single (.enqueueReceipt receipt))).1 [] receipt [] rfl (by decide)

/-- **A network that has come back is not news yet**: a receipt is stored, and neither a pass nor a
re-run is under way, until the change is posted. -/
theorem asleep_before_reachabilityChanged :
    ¬∀ (store : ReceiptStore) (isReachable : Bool) (events : List Event)
      (manager : OWSOutgoingReceiptManager),
      LabelledRun Step (start store isReachable) events manager →
        (∃ receipt, manager.store.Holds receipt) → manager.isReachable = true →
          manager.serialQueue = [] → manager.passes ≠ [] ∨ 0 < manager.delays := by
  intro hworks
  have processed := LabelledRun.single (@Step.blockRun
    (start (ReceiptStore.enqueue (fun _ => ∅) ⟨.read, "+15550001", 50⟩) false) _ _ rfl)
  rcases hworks _ false _ _ (processed.tail (.networkChanged true))
    ⟨⟨.read, "+15550001", 50⟩, by decide⟩ rfl rfl with hpass | hdelay
  · exact hpass rfl
  · exact Nat.lt_irrefl 0 hdelay

end OWSOutgoingReceiptManager

end ObjcSwiftLearning.SignalServiceKit
