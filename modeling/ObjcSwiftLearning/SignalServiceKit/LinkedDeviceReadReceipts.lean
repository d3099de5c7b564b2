import ObjcSwiftLearning.SignalServiceKit.IncomingMessages

/-!
# Read receipts from our linked devices

When another of our devices reads a message it tells us: message of this sender
and this timestamp, read at that time.  `OWSReadReceiptManager` has two ways with
it.  If some incoming message has the timestamp, every such message is marked as
read, whoever sent it, and with each the unread messages before it in its thread
(`markAsReadOnLinkedDevice:`).  If none has, the receipt is stored by sender and
timestamp, and applied to the next message of that sender and timestamp to arrive
(`applyEarlyReadReceiptsForIncomingMessage:`), to that one alone.

* `messagesFirst_incomingMessages`, `receiptFirst_incomingMessages` — what each
  order leaves, in closed form.
* `orderIrrelevant_iff` — **the two orders agree exactly when** the receipt's
  message is the only one the first way would touch.

The messages arrive at the same times in both orders; only the receipt moves.
-/

namespace ObjcSwiftLearning.SignalServiceKit

open TSIncomingMessage

/-! ## The collections and the two ways -/

structure OWSLinkedDeviceReadReceipt where
  senderId : String
  messageIdTimestamp : ℕ
  readTimestamp : ℕ
  deriving DecidableEq

structure SSKProtoSyncMessageRead where
  sender : String
  timestamp : ℕ

/-- The incoming messages, oldest row first, and the early receipts by the sender
and timestamp their unique id is made of. -/
structure Inbox where
  incomingMessages : List TSIncomingMessage
  linkedDeviceReadReceipts : String → ℕ → Option OWSLinkedDeviceReadReceipt

namespace Inbox

variable (inbox : Inbox)

/-- Nothing received yet. -/
def empty : Inbox where
  incomingMessages := []
  linkedDeviceReadReceipts := fun _ _ => none

/-- `interactionsWithTimestamp:ofClass:withTransaction:`, of `TSIncomingMessage`. -/
def interactionsWithTimestamp (timestamp : ℕ) : List TSIncomingMessage :=
  inbox.incomingMessages.filter fun row => row.timestamp == timestamp

/-- `saveWithTransaction:` of an early receipt. -/
def saveReadReceipt (readReceipt : OWSLinkedDeviceReadReceipt) : Inbox :=
  { inbox with
    linkedDeviceReadReceipts := fun senderId timestamp =>
      if senderId = readReceipt.senderId ∧ timestamp = readReceipt.messageIdTimestamp then
        some readReceipt
      else inbox.linkedDeviceReadReceipts senderId timestamp }

/-- `removeWithTransaction:` of an early receipt. -/
def removeReadReceipt (readReceipt : OWSLinkedDeviceReadReceipt) : Inbox :=
  { inbox with
    linkedDeviceReadReceipts := fun senderId timestamp =>
      if senderId = readReceipt.senderId ∧ timestamp = readReceipt.messageIdTimestamp then none
      else inbox.linkedDeviceReadReceipts senderId timestamp }

def markAsRead (uniqueId : String) (readTimestamp now : ℕ) : Inbox :=
  { inbox with
    incomingMessages :=
      markWhere (fun row => row.uniqueId == uniqueId) readTimestamp now inbox.incomingMessages }

def applyEarlyReadReceiptsForIncomingMessage (message : TSIncomingMessage) (now : ℕ) : Inbox :=
  if message.messageAuthorId.length < 1 ∨ message.timestamp < 1 then inbox
  else
    match inbox.linkedDeviceReadReceipts message.messageAuthorId message.timestamp with
    | none => inbox
    | some readReceipt =>
        (inbox.markAsRead message.uniqueId readReceipt.readTimestamp now).removeReadReceipt
          readReceipt

end Inbox

def markAsReadOnLinkedDevice (message : TSIncomingMessage) (readTimestamp now : ℕ)
    (rows : List TSIncomingMessage) : List TSIncomingMessage :=
  markAsReadBeforeTimestamp message.timestampForSorting message.uniqueThreadId readTimestamp now
    (markWhere (fun row => row.uniqueId == message.uniqueId) readTimestamp now rows)

namespace Inbox

/-- One turn of the loop of `processReadReceiptsFromLinkedDevice:…`. -/
def processReadReceipt (readReceiptProto : SSKProtoSyncMessageRead) (readTimestamp now : ℕ)
    (inbox : Inbox) : Inbox :=
  if readReceiptProto.sender.length = 0 ∨ readReceiptProto.timestamp = 0 then inbox
  else
    let messages := inbox.interactionsWithTimestamp readReceiptProto.timestamp
    -- the sender is not asked about here: a message is found by its timestamp
    if 0 < messages.length then
      { inbox with
        incomingMessages := messages.foldl
          (fun rows message => markAsReadOnLinkedDevice message readTimestamp now rows)
          inbox.incomingMessages }
    else
      inbox.saveReadReceipt
        { senderId := readReceiptProto.sender
          messageIdTimestamp := readReceiptProto.timestamp
          readTimestamp }

def processReadReceiptsFromLinkedDevice (readReceiptProtos : List SSKProtoSyncMessageRead)
    (readTimestamp now : ℕ) (inbox : Inbox) : Inbox :=
  readReceiptProtos.foldl
    (fun inbox readReceiptProto => inbox.processReadReceipt readReceiptProto readTimestamp now)
    inbox

end Inbox

/-! ## Arrivals -/

/-- A data message as it arrives: what `TSIncomingMessage` is made of, and the
clock at that moment. -/
structure ReceivedDataMessage where
  uniqueId : String
  threadId : String
  source : String
  timestamp : ℕ
  expireTimer : ℕ
  now : ℕ
  deriving DecidableEq

namespace ReceivedDataMessage

variable (received : ReceivedDataMessage)

def incomingMessage : TSIncomingMessage :=
  initIncomingMessage received.uniqueId received.threadId received.source received.timestamp
    received.now received.expireTimer

/-- The message as it stands when no receipt is waiting for it: read if it is our
own. -/
def arrived (localNumber : Option String) : TSIncomingMessage :=
  if localNumber = some received.source then
    received.incomingMessage.markAsReadAtTimestamp received.timestamp received.now
  else received.incomingMessage

def isNamedBy (readReceiptProto : SSKProtoSyncMessageRead) : Bool :=
  received.source == readReceiptProto.sender && received.timestamp == readReceiptProto.timestamp

/-- A message of ours, read on arrival, on which a receipt of that time has no
effect: it does not expire, or its expiration started no later. -/
def SettledBy (localNumber : Option String) (readTimestamp : ℕ) : Prop :=
  localNumber = some received.source ∧
    (received.expireTimer = 0 ∨ min received.now received.timestamp ≤ readTimestamp)

instance (localNumber : Option String) (readTimestamp : ℕ) :
    Decidable (received.SettledBy localNumber readTimestamp) :=
  inferInstanceAs (Decidable (_ ∧ _))

end ReceivedDataMessage

namespace Inbox

/-- `finalizeIncomingMessage:thread:envelope:transaction:`, on the message just
made: its id is new, so saving it adds a row. -/
def finalizeIncomingMessage (localNumber : Option String) (inbox : Inbox)
    (received : ReceivedDataMessage) : Inbox :=
  let saved : Inbox :=
    { inbox with incomingMessages := inbox.incomingMessages ++ [received.incomingMessage] }
  let marked :=
    if localNumber = some received.source then
      saved.markAsRead received.uniqueId received.timestamp received.now
    else saved
  marked.applyEarlyReadReceiptsForIncomingMessage received.incomingMessage received.now

def receiptFirst (localNumber : Option String) (readReceiptProto : SSKProtoSyncMessageRead)
    (readTimestamp now : ℕ) (messages : List ReceivedDataMessage) : Inbox :=
  messages.foldl (finalizeIncomingMessage localNumber)
    (processReadReceiptsFromLinkedDevice [readReceiptProto] readTimestamp now empty)

def messagesFirst (localNumber : Option String) (readReceiptProto : SSKProtoSyncMessageRead)
    (readTimestamp now : ℕ) (messages : List ReceivedDataMessage) : Inbox :=
  processReadReceiptsFromLinkedDevice [readReceiptProto] readTimestamp now
    (messages.foldl (finalizeIncomingMessage localNumber) empty)

end Inbox

/-! ## What an arrival leaves -/

section Arrivals

variable {localNumber : Option String} {received : ReceivedDataMessage} {inbox : Inbox}
  {messages : List ReceivedDataMessage} {readReceipt : OWSLinkedDeviceReadReceipt}
  {readReceiptProto : SSKProtoSyncMessageRead} {readTimestamp now : ℕ}

namespace ReceivedDataMessage

/-- The rows the messages make when no receipt is about. -/
def arrivedRows (localNumber : Option String) (messages : List ReceivedDataMessage) :
    List TSIncomingMessage :=
  messages.map (·.arrived localNumber)

@[simp] theorem uniqueId_arrived : (received.arrived localNumber).uniqueId = received.uniqueId := by
  unfold arrived
  split
  · exact uniqueId_markAsReadAtTimestamp
  · rfl

@[simp] theorem uniqueThreadId_arrived :
    (received.arrived localNumber).uniqueThreadId = received.threadId := by
  unfold arrived
  split
  · exact uniqueThreadId_markAsReadAtTimestamp
  · rfl

@[simp] theorem timestamp_arrived :
    (received.arrived localNumber).timestamp = received.timestamp := by
  unfold arrived
  split
  · exact timestamp_markAsReadAtTimestamp
  · rfl

@[simp] theorem timestampForSorting_arrived :
    (received.arrived localNumber).timestampForSorting =
      received.incomingMessage.timestampForSorting := by
  unfold arrived
  split
  · exact timestampForSorting_markAsReadAtTimestamp
  · rfl

theorem read_arrived :
    (received.arrived localNumber).read = false ↔ localNumber ≠ some received.source := by
  unfold arrived
  split
  · simp_all
  · simp_all [incomingMessage, initIncomingMessage]

theorem expireStartedAt_arrived :
    (received.arrived localNumber).expireStartedAt =
      if localNumber = some received.source ∧ 0 < received.expireTimer then
        min received.now received.timestamp
      else 0 := by
  unfold arrived
  split
  · simp_all [markAsReadAtTimestamp_eq, incomingMessage, initIncomingMessage]
  · simp_all [incomingMessage, initIncomingMessage]

@[simp] theorem expiresInSeconds_arrived :
    (received.arrived localNumber).expiresInSeconds = received.expireTimer := by
  unfold arrived
  split
  · rw [markAsReadAtTimestamp_eq]
    rfl
  · rfl

end ReceivedDataMessage

open ReceivedDataMessage

theorem markWhere_append_singleton {rows : List TSIncomingMessage} (row : TSIncomingMessage)
    (readTimestamp now : ℕ) (hnew : row.uniqueId ∉ rows.map (·.uniqueId)) :
    markWhere (fun other => other.uniqueId == row.uniqueId) readTimestamp now (rows ++ [row]) =
      rows ++ [row.markAsReadAtTimestamp readTimestamp now] := by
  have hrows : markWhere (fun other => other.uniqueId == row.uniqueId) readTimestamp now rows =
      rows := by
    apply markWhere_false
    intro other hother
    rw [beq_eq_false_iff_ne]
    intro hid
    exact hnew (hid ▸ List.mem_map_of_mem hother)
  have hrow : markWhere (fun other => other.uniqueId == row.uniqueId) readTimestamp now [row] =
      [row.markAsReadAtTimestamp readTimestamp now] := by
    simp [markWhere]
  calc markWhere (fun other => other.uniqueId == row.uniqueId) readTimestamp now (rows ++ [row])
      = markWhere (fun other => other.uniqueId == row.uniqueId) readTimestamp now rows ++
          markWhere (fun other => other.uniqueId == row.uniqueId) readTimestamp now [row] :=
        List.map_append
    _ = rows ++ [row.markAsReadAtTimestamp readTimestamp now] := by rw [hrows, hrow]

namespace Inbox

section

variable (hnew : received.uniqueId ∉ inbox.incomingMessages.map (·.uniqueId))
include hnew

/-- An arrival, before early receipts are looked up. -/
theorem finalizeIncomingMessage_eq :
    inbox.finalizeIncomingMessage localNumber received =
      applyEarlyReadReceiptsForIncomingMessage
        { inbox with
          incomingMessages := inbox.incomingMessages ++ [received.arrived localNumber] }
        received.incomingMessage received.now := by
  unfold finalizeIncomingMessage arrived
  split
  · rw [← markWhere_append_singleton received.incomingMessage _ _ hnew]
    simp only [markAsRead, *]
    rfl
  · simp [*]

theorem finalizeIncomingMessage_of_none
    (hnone : inbox.linkedDeviceReadReceipts received.source received.timestamp = none) :
    inbox.finalizeIncomingMessage localNumber received =
      { inbox with
        incomingMessages := inbox.incomingMessages ++ [received.arrived localNumber] } := by
  rw [finalizeIncomingMessage_eq hnew, applyEarlyReadReceiptsForIncomingMessage]
  split
  · rfl
  · have hlookup : inbox.linkedDeviceReadReceipts received.incomingMessage.messageAuthorId
        received.incomingMessage.timestamp = none := hnone
    simp [hlookup]

/-- A message an early receipt is stored for is added read, and the receipt is
used up. -/
theorem finalizeIncomingMessage_of_some
    (hvalid : ¬(received.source.length < 1 ∨ received.timestamp < 1))
    (hsome : inbox.linkedDeviceReadReceipts received.source received.timestamp =
      some readReceipt) :
    inbox.finalizeIncomingMessage localNumber received =
      removeReadReceipt
        { inbox with
          incomingMessages := inbox.incomingMessages ++
            [(received.arrived localNumber).markAsReadAtTimestamp readReceipt.readTimestamp
              received.now] }
        readReceipt := by
  have hlookup : inbox.linkedDeviceReadReceipts received.incomingMessage.messageAuthorId
      received.incomingMessage.timestamp = some readReceipt := hsome
  have hguard : ¬(received.incomingMessage.messageAuthorId.length < 1 ∨
      received.incomingMessage.timestamp < 1) := hvalid
  have hrow := markWhere_append_singleton (received.arrived localNumber)
    readReceipt.readTimestamp received.now (by rwa [uniqueId_arrived])
  rw [uniqueId_arrived] at hrow
  rw [finalizeIncomingMessage_eq hnew, applyEarlyReadReceiptsForIncomingMessage, if_neg hguard]
  simp only [hlookup, markAsRead]
  rw [← hrow]
  rfl

end

theorem foldl_finalizeIncomingMessage_of_none
    (hnodup : (inbox.incomingMessages.map (·.uniqueId) ++ messages.map (·.uniqueId)).Nodup)
    (hnone : ∀ received ∈ messages,
      inbox.linkedDeviceReadReceipts received.source received.timestamp = none) :
    messages.foldl (finalizeIncomingMessage localNumber) inbox =
      { inbox with
        incomingMessages := inbox.incomingMessages ++ arrivedRows localNumber messages } := by
  induction messages generalizing inbox with
  | nil => simp [arrivedRows]
  | cons received messages ih =>
      have hnew : received.uniqueId ∉ inbox.incomingMessages.map (·.uniqueId) := by
        intro hmem
        exact (List.nodup_append.mp hnodup).2.2 _ hmem _ (by simp) rfl
      rw [List.foldl_cons,
        finalizeIncomingMessage_of_none hnew (hnone received List.mem_cons_self), ih]
      · simp [arrivedRows]
      · simpa using hnodup
      · intro later hlater
        exact hnone later (List.mem_cons_of_mem _ hlater)

theorem foldl_finalizeIncomingMessage_of_some {before after : List ReceivedDataMessage}
    (hnodup : (inbox.incomingMessages.map (·.uniqueId) ++
      (before ++ received :: after).map (·.uniqueId)).Nodup)
    (hvalid : ¬(received.source.length < 1 ∨ received.timestamp < 1))
    (hbefore : ∀ earlier ∈ before,
      inbox.linkedDeviceReadReceipts earlier.source earlier.timestamp = none)
    (hsome : inbox.linkedDeviceReadReceipts received.source received.timestamp =
      some readReceipt)
    (hafter : ∀ later ∈ after, (inbox.removeReadReceipt readReceipt).linkedDeviceReadReceipts
      later.source later.timestamp = none) :
    ((before ++ received :: after).foldl (finalizeIncomingMessage localNumber)
        inbox).incomingMessages =
      inbox.incomingMessages ++ arrivedRows localNumber before ++
        (received.arrived localNumber).markAsReadAtTimestamp readReceipt.readTimestamp
            received.now :: arrivedRows localNumber after := by
  have hids : (inbox.incomingMessages.map (·.uniqueId) ++ (before.map (·.uniqueId) ++
      received.uniqueId :: after.map (·.uniqueId))).Nodup := by
    simpa using hnodup
  -- the rows once `before` has arrived, and once `received` has
  have hfirst : before.foldl (finalizeIncomingMessage localNumber) inbox =
      { inbox with
        incomingMessages := inbox.incomingMessages ++ arrivedRows localNumber before } := by
    apply foldl_finalizeIncomingMessage_of_none _ hbefore
    rw [← List.append_assoc] at hids
    exact (List.nodup_append.mp hids).1
  have hnew : received.uniqueId ∉
      (inbox.incomingMessages ++ arrivedRows localNumber before).map (·.uniqueId) := by
    intro hmem
    rw [← List.append_assoc] at hids
    refine (List.nodup_append.mp hids).2.2 _ ?_ _ List.mem_cons_self rfl
    simpa [arrivedRows, Function.comp_def] using hmem
  have hthis : finalizeIncomingMessage localNumber
      { inbox with
        incomingMessages := inbox.incomingMessages ++ arrivedRows localNumber before } received =
      _ := finalizeIncomingMessage_of_some hnew hvalid hsome
  rw [List.foldl_append, List.foldl_cons, hfirst, hthis, foldl_finalizeIncomingMessage_of_none]
  · simp [removeReadReceipt]
  · simpa [removeReadReceipt, arrivedRows, Function.comp_def] using hids
  · exact hafter

/-! ## What each order leaves -/

theorem processReadReceiptsFromLinkedDevice_empty
    (hvalid : ¬(readReceiptProto.sender.length = 0 ∨ readReceiptProto.timestamp = 0)) :
    processReadReceiptsFromLinkedDevice [readReceiptProto] readTimestamp now empty =
      empty.saveReadReceipt ⟨readReceiptProto.sender, readReceiptProto.timestamp, readTimestamp⟩ := by
  rw [processReadReceiptsFromLinkedDevice, List.foldl_cons, List.foldl_nil, processReadReceipt,
    if_neg hvalid]
  rfl

theorem linkedDeviceReadReceipts_saved (received : ReceivedDataMessage)
    (readReceiptProto : SSKProtoSyncMessageRead) (readTimestamp : ℕ) :
    (empty.saveReadReceipt ⟨readReceiptProto.sender, readReceiptProto.timestamp,
        readTimestamp⟩).linkedDeviceReadReceipts received.source received.timestamp =
      if received.isNamedBy readReceiptProto then
        some ⟨readReceiptProto.sender, readReceiptProto.timestamp, readTimestamp⟩
      else none := by
  simp [saveReadReceipt, empty, isNamedBy]

/-- **The receipt first**: of the messages it names, the first to arrive is marked. -/
theorem receiptFirst_incomingMessages
    (hvalid : ¬(readReceiptProto.sender.length = 0 ∨ readReceiptProto.timestamp = 0))
    (hnodup : (messages.map (·.uniqueId)).Nodup) :
    (receiptFirst localNumber readReceiptProto readTimestamp now messages).incomingMessages =
      messages.map fun received =>
        if messages.find? (·.isNamedBy readReceiptProto) = some received then
          (received.arrived localNumber).markAsReadAtTimestamp readTimestamp received.now
        else received.arrived localNumber := by
  rw [receiptFirst, processReadReceiptsFromLinkedDevice_empty hvalid]
  cases hfind : messages.find? (·.isNamedBy readReceiptProto) with
  | none =>
      have hnone := List.find?_eq_none.mp hfind
      rw [foldl_finalizeIncomingMessage_of_none]
      · simp [saveReadReceipt, empty, arrivedRows]
      · simpa [saveReadReceipt, empty] using hnodup
      · intro received hreceived
        rw [linkedDeviceReadReceipts_saved, if_neg (hnone received hreceived)]
  | some named =>
      obtain ⟨hnamed, before, after, rfl, hbefore⟩ := List.find?_eq_some_iff_append.mp hfind
      obtain ⟨hsender, htimestamp⟩ : named.source = readReceiptProto.sender ∧
          named.timestamp = readReceiptProto.timestamp := by
        simpa [isNamedBy] using hnamed
      have hstored := linkedDeviceReadReceipts_saved named readReceiptProto readTimestamp
      rw [if_pos hnamed] at hstored
      have hlookup : ¬(named.source.length < 1 ∨ named.timestamp < 1) := by
        rw [hsender, htimestamp]
        omega
      rw [foldl_finalizeIncomingMessage_of_some (by simpa [saveReadReceipt, empty] using hnodup)
        hlookup _ hstored]
      · -- the ids tell the message marked from the others
        have hne : ∀ received ∈ before ++ after, named ≠ received := by
          rintro received hreceived rfl
          rw [List.map_append, List.map_cons, List.nodup_append, List.nodup_cons] at hnodup
          rcases List.mem_append.mp hreceived with hmem | hmem
          · exact hnodup.2.2 _ (List.mem_map_of_mem hmem) _ List.mem_cons_self rfl
          · exact hnodup.2.1.1 (List.mem_map_of_mem hmem)
        rw [List.map_append, List.map_cons, if_pos rfl, arrivedRows, arrivedRows]
        congr 1
        · apply List.map_congr_left
          intro received hreceived
          rw [if_neg (by simpa using hne received (List.mem_append_left _ hreceived))]
        · congr 1
          apply List.map_congr_left
          intro received hreceived
          rw [if_neg (by simpa using hne received (List.mem_append_right _ hreceived))]
      · intro later _
        simp only [removeReadReceipt, saveReadReceipt, empty]
        split <;> rfl
      · intro earlier hearlier
        rw [linkedDeviceReadReceipts_saved, if_neg]
        simpa using hbefore earlier hearlier

theorem incomingMessages_processReadReceipt
    (hvalid : ¬(readReceiptProto.sender.length = 0 ∨ readReceiptProto.timestamp = 0)) :
    (inbox.processReadReceipt readReceiptProto readTimestamp now).incomingMessages =
      (inbox.interactionsWithTimestamp readReceiptProto.timestamp).foldl
        (fun rows message => markAsReadOnLinkedDevice message readTimestamp now rows)
        inbox.incomingMessages := by
  rw [processReadReceipt, if_neg hvalid]
  cases inbox.interactionsWithTimestamp readReceiptProto.timestamp with
  | nil => rfl
  | cons message messages => simp

/-- What the loop over the messages of a timestamp marks on account of `message`:
the message itself, and the unread ones up to it in its thread. -/
def isMarkedWith (message row : TSIncomingMessage) : Bool :=
  row.uniqueId == message.uniqueId ||
    !row.read && row.uniqueThreadId == message.uniqueThreadId &&
      decide (row.timestampForSorting ≤ message.timestampForSorting)

/-- The loop over the messages of a timestamp is one pass over the rows. -/
theorem foldl_markAsReadOnLinkedDevice {items rows : List TSIncomingMessage}
    {p : TSIncomingMessage → Bool} (hnodup : (rows.map (·.uniqueId)).Nodup) :
    items.foldl (fun rows message => markAsReadOnLinkedDevice message readTimestamp now rows)
        (markWhere p readTimestamp now rows) =
      markWhere (fun row => p row || items.any fun message => isMarkedWith message row)
        readTimestamp now rows := by
  induction items generalizing p with
  | nil => simp
  | cons message items ih =>
      rw [List.foldl_cons, markAsReadOnLinkedDevice, markWhere_markWhere,
        markAsReadBeforeTimestamp_eq (by simpa using hnodup), markWhere_markWhere, ih]
      simp only [List.any_cons, isMarkedWith, Bool.or_assoc]

/-- **The messages first**: every message of the timestamp is marked, and with it the
unread ones up to it in its thread. -/
theorem messagesFirst_incomingMessages
    (hvalid : ¬(readReceiptProto.sender.length = 0 ∨ readReceiptProto.timestamp = 0))
    (hnodup : (messages.map (·.uniqueId)).Nodup) :
    (messagesFirst localNumber readReceiptProto readTimestamp now messages).incomingMessages =
      markWhere
        (fun row => (arrivedRows localNumber messages).any fun message =>
          message.timestamp == readReceiptProto.timestamp && isMarkedWith message row)
        readTimestamp now (arrivedRows localNumber messages) := by
  have hrows : messages.foldl (finalizeIncomingMessage localNumber) empty =
      { empty with incomingMessages := arrivedRows localNumber messages } :=
    foldl_finalizeIncomingMessage_of_none (by simpa [empty] using hnodup) fun _ _ => rfl
  have hpass := @foldl_markAsReadOnLinkedDevice readTimestamp now
    ((arrivedRows localNumber messages).filter
      fun row => row.timestamp == readReceiptProto.timestamp)
    (arrivedRows localNumber messages) (fun _ => false)
    (by simpa [arrivedRows, Function.comp_def] using hnodup)
  rw [markWhere_false fun _ _ => rfl] at hpass
  rw [messagesFirst, hrows, processReadReceiptsFromLinkedDevice, List.foldl_cons, List.foldl_nil,
    incomingMessages_processReadReceipt hvalid, interactionsWithTimestamp, hpass]
  simp only [Bool.false_or, List.any_filter]

end Inbox

/-! ## When the order does not matter -/

namespace ReceivedDataMessage

/-- The messages a receipt leaves alone on arrival are our own settled ones. -/
theorem markAsReadAtTimestamp_arrived_eq_iff :
    (received.arrived localNumber).markAsReadAtTimestamp readTimestamp now =
        received.arrived localNumber ↔
      received.SettledBy localNumber readTimestamp := by
  have hread := @read_arrived localNumber received
  have hstarted := @expireStartedAt_arrived localNumber received
  rw [markAsReadAtTimestamp_eq, TSIncomingMessage.ext_iff]
  simp only [true_and, and_true, expiresInSeconds_arrived, hstarted, SettledBy]
  cases hvalue : (received.arrived localNumber).read
  · have hother := hread.mp hvalue
    simp [hother]
  · have hown : localNumber = some received.source := by simpa [hvalue] using hread
    simp only [hown, true_and]
    grind

/-- Two marks of an arrival differ in the clock an expiration starts by. -/
theorem markAsReadAtTimestamp_arrived_eq_markAsReadAtTimestamp_iff {now' : ℕ} :
    (received.arrived localNumber).markAsReadAtTimestamp readTimestamp now =
        (received.arrived localNumber).markAsReadAtTimestamp readTimestamp now' ↔
      received.SettledBy localNumber readTimestamp ∨ received.expireTimer = 0 ∨
        min now readTimestamp = min now' readTimestamp := by
  have hread := @read_arrived localNumber received
  have hstarted := @expireStartedAt_arrived localNumber received
  rw [markAsReadAtTimestamp_eq, markAsReadAtTimestamp_eq, TSIncomingMessage.ext_iff]
  simp only [true_and, and_true, expiresInSeconds_arrived, hstarted, SettledBy]
  cases hvalue : (received.arrived localNumber).read
  · have hother := hread.mp hvalue
    simp only [hother, false_and, if_false]
    grind
  · have hown : localNumber = some received.source := by simpa [hvalue] using hread
    simp only [hown, true_and]
    grind

end ReceivedDataMessage

/-- The receipt concerns the first message it names and no other: nothing else has
its timestamp, unless settled; nothing unread lies before it in its thread; and its
time, where an expiration starts by it, is past by both clocks. -/
structure Isolated (localNumber : Option String) (readReceiptProto : SSKProtoSyncMessageRead)
    (readTimestamp now : ℕ) (messages : List ReceivedDataMessage) : Prop where
  alone : ∀ received ∈ messages, received.timestamp = readReceiptProto.timestamp →
    messages.find? (·.isNamedBy readReceiptProto) = some received ∨
      received.SettledBy localNumber readTimestamp
  nothingBefore : ∀ received ∈ messages, received.timestamp = readReceiptProto.timestamp →
    ∀ earlier ∈ messages, earlier.threadId = received.threadId →
      earlier.incomingMessage.timestampForSorting ≤
          received.incomingMessage.timestampForSorting →
        messages.find? (·.isNamedBy readReceiptProto) = some earlier ∨
          localNumber = some earlier.source
  sameClock : ∀ received, messages.find? (·.isNamedBy readReceiptProto) = some received →
    received.SettledBy localNumber readTimestamp ∨ received.expireTimer = 0 ∨
      min received.now readTimestamp = min now readTimestamp

/-- The order is of no consequence: the rows come out the same, and one that a
receipt changed is the named sender's message or precedes it in its thread. -/
structure OrderIrrelevant (localNumber : Option String)
    (readReceiptProto : SSKProtoSyncMessageRead) (readTimestamp early late : ℕ)
    (messages : List ReceivedDataMessage) : Prop where
  sameRows :
    (Inbox.receiptFirst localNumber readReceiptProto readTimestamp early
        messages).incomingMessages =
      (Inbox.messagesFirst localNumber readReceiptProto readTimestamp late
        messages).incomingMessages
  onlyNamed : ∀ row ∈ (Inbox.messagesFirst localNumber readReceiptProto readTimestamp late
      messages).incomingMessages,
    row ∉ arrivedRows localNumber messages →
      ∃ named ∈ messages, named.isNamedBy readReceiptProto = true ∧
        row.uniqueThreadId = named.threadId ∧
        row.timestampForSorting ≤ named.incomingMessage.timestampForSorting

namespace Inbox

/-- What the messages-first order marks, told of the arrivals. -/
theorem any_isMarkedWith_arrived_iff (hnodup : (messages.map (·.uniqueId)).Nodup)
    (hreceived : received ∈ messages) :
    ((arrivedRows localNumber messages).any fun message =>
        message.timestamp == readReceiptProto.timestamp &&
          isMarkedWith message (received.arrived localNumber)) = true ↔
      received.timestamp = readReceiptProto.timestamp ∨
        localNumber ≠ some received.source ∧
          ∃ message ∈ messages, message.timestamp = readReceiptProto.timestamp ∧
            received.threadId = message.threadId ∧
            received.incomingMessage.timestampForSorting ≤
              message.incomingMessage.timestampForSorting := by
  have hsame : ∀ message ∈ messages, received.uniqueId = message.uniqueId → received = message :=
    fun message hmessage => List.inj_on_of_nodup_map hnodup hreceived hmessage
  simp only [arrivedRows, List.any_map, List.any_eq_true, Function.comp_apply, timestamp_arrived,
    isMarkedWith, uniqueId_arrived, uniqueThreadId_arrived, timestampForSorting_arrived,
    Bool.and_eq_true, Bool.or_eq_true, beq_iff_eq, Bool.not_eq_true', decide_eq_true_eq,
    read_arrived]
  constructor
  · rintro ⟨message, hmessage, htimestamp, hid | ⟨⟨hother, hthread⟩, hsorting⟩⟩
    · rw [hsame message hmessage hid]
      exact .inl htimestamp
    · exact .inr ⟨hother, message, hmessage, htimestamp, hthread, hsorting⟩
  · rintro (htimestamp | ⟨hother, message, hmessage, htimestamp, hthread, hsorting⟩)
    · exact ⟨received, hreceived, htimestamp, .inl rfl⟩
    · exact ⟨message, hmessage, htimestamp, .inr ⟨⟨hother, hthread⟩, hsorting⟩⟩

/-- The two orders leave the same rows exactly when the receipt is isolated. -/
theorem sameRows_iff (early late : ℕ)
    (hvalid : ¬(readReceiptProto.sender.length = 0 ∨ readReceiptProto.timestamp = 0))
    (hnodup : (messages.map (·.uniqueId)).Nodup) :
    (receiptFirst localNumber readReceiptProto readTimestamp early messages).incomingMessages =
        (messagesFirst localNumber readReceiptProto readTimestamp late
          messages).incomingMessages ↔
      Isolated localNumber readReceiptProto readTimestamp late messages := by
  rw [receiptFirst_incomingMessages hvalid hnodup, messagesFirst_incomingMessages hvalid hnodup,
    markWhere, arrivedRows, List.map_map, List.map_inj_left]
  have hmarked := fun received hreceived =>
    @any_isMarkedWith_arrived_iff localNumber received messages readReceiptProto hnodup hreceived
  have hnamed : ∀ received, messages.find? (·.isNamedBy readReceiptProto) = some received →
      received ∈ messages ∧ received.timestamp = readReceiptProto.timestamp := by
    intro received hfind
    have hname := List.find?_some hfind
    simp only [isNamedBy, Bool.and_eq_true, beq_iff_eq] at hname
    exact ⟨List.mem_of_find?_eq_some hfind, hname.2⟩
  simp only [arrivedRows] at hmarked
  dsimp only [Function.comp]
  constructor
  · intro hrows
    refine ⟨?_, ?_, ?_⟩
    · intro received hreceived htimestamp
      by_cases hfind : messages.find? (·.isNamedBy readReceiptProto) = some received
      · exact .inl hfind
      · have hrow := hrows received hreceived
        rw [if_neg hfind, if_pos ((hmarked received hreceived).mpr (.inl htimestamp))] at hrow
        exact .inr (markAsReadAtTimestamp_arrived_eq_iff.mp hrow.symm)
    -- A row before a named one is marked when the receipt comes last, and only then.
    · intro received hreceived htimestamp earlier hearlier hthread hsorting
      by_cases hfind : messages.find? (·.isNamedBy readReceiptProto) = some earlier
      · exact .inl hfind
      · right
        by_contra hother
        have hrow := hrows earlier hearlier
        rw [if_neg hfind, if_pos ((hmarked earlier hearlier).mpr
          (.inr ⟨hother, received, hreceived, htimestamp, hthread, hsorting⟩))] at hrow
        exact hother (markAsReadAtTimestamp_arrived_eq_iff.mp hrow.symm).1
    · intro received hfind
      obtain ⟨hreceived, htimestamp⟩ := hnamed received hfind
      have hrow := hrows received hreceived
      rw [if_pos hfind, if_pos ((hmarked received hreceived).mpr (.inl htimestamp))] at hrow
      exact markAsReadAtTimestamp_arrived_eq_markAsReadAtTimestamp_iff.mp hrow
  · intro isolated received hreceived
    by_cases hfind : messages.find? (·.isNamedBy readReceiptProto) = some received
    · rw [if_pos hfind, if_pos ((hmarked received hreceived).mpr (.inl (hnamed received hfind).2))]
      exact markAsReadAtTimestamp_arrived_eq_markAsReadAtTimestamp_iff.mpr
        (isolated.sameClock received hfind)
    · rw [if_neg hfind]
      split
      · rename_i hrow
        rcases (hmarked received hreceived).mp hrow with
          htimestamp | ⟨hother, message, hmessage, htimestamp, hthread, hsorting⟩
        · rcases isolated.alone received hreceived htimestamp with hfirst | hsettled
          · exact absurd hfirst hfind
          · exact (markAsReadAtTimestamp_arrived_eq_iff.mpr hsettled).symm
        · rcases isolated.nothingBefore message hmessage htimestamp received hreceived hthread
            hsorting with hfirst | hown
          · exact absurd hfirst hfind
          · exact absurd hown hother
      · rfl

/-- **The order of a receipt and its messages is of no consequence exactly when** the
receipt is not a valid one, or concerns the first message it names and no other. -/
theorem orderIrrelevant_iff {early late : ℕ} (hnodup : (messages.map (·.uniqueId)).Nodup) :
    OrderIrrelevant localNumber readReceiptProto readTimestamp early late messages ↔
      (readReceiptProto.sender.length = 0 ∨ readReceiptProto.timestamp = 0) ∨
        Isolated localNumber readReceiptProto readTimestamp late messages := by
  by_cases hvalid : readReceiptProto.sender.length = 0 ∨ readReceiptProto.timestamp = 0
  · have hnothing : ∀ inbox now, processReadReceiptsFromLinkedDevice [readReceiptProto]
        readTimestamp now inbox = inbox := by
      intro inbox now
      rw [processReadReceiptsFromLinkedDevice, List.foldl_cons, List.foldl_nil,
        processReadReceipt, if_pos hvalid]
    have hrows : (messages.foldl (finalizeIncomingMessage localNumber) empty).incomingMessages =
        arrivedRows localNumber messages := by
      rw [foldl_finalizeIncomingMessage_of_none (by simpa [empty] using hnodup) fun _ _ => rfl]
      rfl
    refine iff_of_true ⟨?_, ?_⟩ (.inl hvalid)
    · rw [receiptFirst, messagesFirst, hnothing, hnothing]
    · intro row hrow hnew
      rw [messagesFirst, hnothing, hrows] at hrow
      exact absurd hrow hnew
  · constructor
    · intro irrelevant
      exact .inr ((sameRows_iff early late hvalid hnodup).mp irrelevant.sameRows)
    · rintro (hinvalid | isolated)
      · exact absurd hinvalid hvalid
      · have hrows := (sameRows_iff early late hvalid hnodup).mpr isolated
        refine ⟨hrows, ?_⟩
        intro row hrow hnew
        rw [← hrows, receiptFirst_incomingMessages hvalid hnodup, List.mem_map] at hrow
        obtain ⟨received, hreceived, rfl⟩ := hrow
        split at hnew
        · rename_i hfind
          rw [if_pos hfind]
          have hnamed : received.isNamedBy readReceiptProto = true := by
            simpa using List.find?_some hfind
          exact ⟨received, hreceived, hnamed, by simp, by simp⟩
        · exact absurd (List.mem_map_of_mem hreceived) hnew

theorem orderIrrelevant_of_two_threads :
    OrderIrrelevant none ⟨"+15550001", 50⟩ 90 80 120
      [⟨"one", "c+15550001", "+15550001", 50, 30, 100⟩,
        ⟨"two", "c+15550002", "+15550002", 51, 0, 99⟩] := by
  refine (orderIrrelevant_iff (by decide)).mpr (.inr ⟨by decide, by decide, ?_⟩)
  intro received hfind
  obtain rfl : ReceivedDataMessage.mk "one" "c+15550001" "+15550001" 50 30 100 = received := by
    simpa [isNamedBy] using hfind
  decide

/-- Two senders whose clocks agree: the receipt for one marks the message of the other
as well, if it comes last. -/
theorem not_orderIrrelevant_of_equal_timestamps :
    ¬OrderIrrelevant none ⟨"+15550001", 50⟩ 90 80 120
      [⟨"one", "c+15550001", "+15550001", 50, 0, 100⟩,
        ⟨"two", "c+15550002", "+15550002", 50, 0, 101⟩] := by
  intro irrelevant
  exact absurd irrelevant.sameRows (by decide +kernel)

end Inbox

end Arrivals

end ObjcSwiftLearning.SignalServiceKit
