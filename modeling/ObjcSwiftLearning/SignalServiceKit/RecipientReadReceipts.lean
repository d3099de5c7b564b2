import Mathlib.Data.List.Induction
import ObjcSwiftLearning.SignalServiceKit.OutgoingMessages

/-!
# Read receipts for messages another of our devices has sent

A recipient's read receipt names the messages it is for by their timestamps alone.
If we have outgoing messages of a timestamp, their recipient's state is changed; if
not, the receipt is kept by timestamp (`TSRecipientReadReceipt`) for the message a
sync transcript may yet bring, and applied to it as the transcript is recorded.

* `lastRead` — what a sequence of receipts says of a recipient: the last word.
* `recipientStates_after_transcript` — **receipts commute with the transcript**: as
  long as no other message has its timestamp, the message ends up with the same
  recipient states wherever the transcript stands among the receipts, and no receipt
  is left waiting.

The receipts processed are those that arrive while read receipts are enabled.
-/

namespace ObjcSwiftLearning.SignalServiceKit

open TSOutgoingMessageRecipientState

structure OWSIncomingSentMessageTranscript where
  /-- The id the message made of it gets. -/
  uniqueId : String
  timestamp : ℕ
  threadRecipientIds : List String
  udRecipientIds : List String
  nonUdRecipientIds : List String
  isEndSessionMessage : Bool
  isExpirationTimerUpdate : Bool
  /-- It has no body, no attachments and no contact share. -/
  isEmpty : Bool

namespace OWSIncomingSentMessageTranscript

variable (transcript : OWSIncomingSentMessageTranscript)

/-- `runWithAttachmentHandler:transaction:` gets as far as saving the message. -/
def isRecorded : Bool :=
  !transcript.isEndSessionMessage && !transcript.isExpirationTimerUpdate && !transcript.isEmpty

/-- The recipients it was sent to: those listed, or the thread's if none are. -/
def recipientIds : List String :=
  if 0 < transcript.udRecipientIds.length ∨ 0 < transcript.nonUdRecipientIds.length then
    transcript.udRecipientIds ++ transcript.nonUdRecipientIds
  else transcript.threadRecipientIds

/-- The message as it is saved, marked as sent from a linked device. -/
def outgoingMessage : TSOutgoingMessage :=
  (TSOutgoingMessage.initOutgoingMessage transcript.uniqueId transcript.timestamp
    transcript.threadRecipientIds).updateWithWasSentFromLinkedDevice transcript.udRecipientIds
      transcript.nonUdRecipientIds

theorem timestamp_outgoingMessage : transcript.outgoingMessage.timestamp = transcript.timestamp := by
  unfold outgoingMessage TSOutgoingMessage.updateWithWasSentFromLinkedDevice
  split <;> rfl

end OWSIncomingSentMessageTranscript

/-- The loop of `applyEarlyReadReceiptsForOutgoingMessageFromLinkedDevice:transaction:`
over a map of read timestamps. -/
def TSOutgoingMessage.applyEarlyReadReceipts (message : TSOutgoingMessage)
    (recipientMap : AList fun _ : String => ℕ) : TSOutgoingMessage :=
  { message with
    recipientStateMap := message.recipientStateMap.modifyAll recipientMap
      fun readTimestamp recipientState => recipientState.markRead readTimestamp }

/-- The outgoing messages, oldest row first, and the `TSRecipientReadReceipt` objects
by the timestamp their unique id is made of. -/
structure Outbox where
  outgoingMessages : List TSOutgoingMessage
  recipientReadReceipts : ℕ → Option (AList fun _ : String => ℕ)

namespace Outbox

variable (outbox : Outbox)

/-- `interactionsWithTimestamp:ofClass:withTransaction:`, of `TSOutgoingMessage`. -/
def interactionsWithTimestamp (timestamp : ℕ) : List TSOutgoingMessage :=
  outbox.outgoingMessages.filter fun row => row.timestamp == timestamp

/-- `+[TSRecipientReadReceipt addRecipientId:sentTimestamp:readTimestamp:transaction:]`. -/
def addRecipientId (recipientId : String) (sentTimestamp readTimestamp : ℕ) : Outbox :=
  { outbox with
    recipientReadReceipts := fun timestamp =>
      if timestamp = sentTimestamp then
        some (((outbox.recipientReadReceipts sentTimestamp).getD ∅).insert recipientId readTimestamp)
      else outbox.recipientReadReceipts timestamp }

/-- `+[TSRecipientReadReceipt removeRecipientIdsForTimestamp:transaction:]`. -/
def removeRecipientIds (sentTimestamp : ℕ) : Outbox :=
  { outbox with
    recipientReadReceipts := fun timestamp =>
      if timestamp = sentTimestamp then none else outbox.recipientReadReceipts timestamp }

/-- One turn of the loop of `processReadReceiptsFromRecipientId:…`. -/
def processReadReceipt (recipientId : String) (readTimestamp : ℕ) (outbox : Outbox)
    (sentTimestamp : ℕ) : Outbox :=
  if 0 < (outbox.interactionsWithTimestamp sentTimestamp).length then
    { outbox with
      outgoingMessages := outbox.outgoingMessages.map fun row =>
        if row.timestamp == sentTimestamp then
          row.updateWithReadRecipientId recipientId readTimestamp
        else row }
  else outbox.addRecipientId recipientId sentTimestamp readTimestamp

def processReadReceipts (recipientId : String) (sentTimestamps : List ℕ) (readTimestamp : ℕ) :
    Outbox :=
  sentTimestamps.foldl (processReadReceipt recipientId readTimestamp) outbox

/-- `runWithAttachmentHandler:transaction:`; the message is new, so saving it adds a
row, and the early receipts of its timestamp are applied to it and removed. -/
def recordTranscript (transcript : OWSIncomingSentMessageTranscript) : Outbox :=
  if !transcript.isRecorded then outbox
  else
    let outgoingMessage := transcript.outgoingMessage
    match outbox.recipientReadReceipts transcript.timestamp with
    | none => { outbox with outgoingMessages := outbox.outgoingMessages ++ [outgoingMessage] }
    | some recipientMap =>
        removeRecipientIds
          { outbox with
            outgoingMessages :=
              outbox.outgoingMessages ++ [outgoingMessage.applyEarlyReadReceipts recipientMap] }
          transcript.timestamp

end Outbox

/-! ## Sequences of receipts and transcripts -/

/-- What reaches the outbox: a recipient's receipt, or a transcript. -/
inductive OutboxEvent where
  | readReceipts (recipientId : String) (sentTimestamps : List ℕ) (readTimestamp : ℕ)
  | transcript (transcript : OWSIncomingSentMessageTranscript)

namespace OutboxEvent

def apply (outbox : Outbox) : OutboxEvent → Outbox
  | .readReceipts recipientId sentTimestamps readTimestamp =>
      outbox.processReadReceipts recipientId sentTimestamps readTimestamp
  | .transcript sent => outbox.recordTranscript sent

/-- What is known of when each recipient read the message of a timestamp, after one
more event: the receipt processed last is the one that counts. -/
def updateLast (sentTimestamp : ℕ) (last : String → Option ℕ) : OutboxEvent → String → Option ℕ
  | .readReceipts recipientId sentTimestamps readTimestamp => fun other =>
      if other = recipientId ∧ sentTimestamp ∈ sentTimestamps then some readTimestamp
      else last other
  | .transcript _ => last

def lastRead (sentTimestamp : ℕ) (events : List OutboxEvent) : String → Option ℕ :=
  events.foldl (updateLast sentTimestamp) fun _ => none

def RecordsNone (timestamp : ℕ) : OutboxEvent → Prop
  | .readReceipts _ _ _ => True
  | .transcript sent => sent.isRecorded = true → sent.timestamp ≠ timestamp

end OutboxEvent

open OutboxEvent

/-! ## The message of one timestamp -/

section Timestamp

variable {outbox : Outbox} {sentTimestamp timestamp readTimestamp : ℕ}
  {recipientId other : String} {message : TSOutgoingMessage}

/-- No message of the timestamp yet: the receipts so far wait for it, each recipient's
last one. -/
structure Outbox.Waits (outbox : Outbox) (timestamp : ℕ) (last : String → Option ℕ) : Prop where
  noMessage : outbox.interactionsWithTimestamp timestamp = []
  waiting : ∀ recipientId, ((outbox.recipientReadReceipts timestamp).getD ∅).lookup recipientId =
    last recipientId

/-- One message of the timestamp: its recipients' states are `states`, with each
recipient's last receipt, and nothing waits. -/
structure Outbox.Has (outbox : Outbox) (timestamp : ℕ)
    (states : String → Option TSOutgoingMessageRecipientState) (last : String → Option ℕ) :
    Prop where
  message : ∃ message, outbox.interactionsWithTimestamp timestamp = [message] ∧
    ∀ recipientId, message.recipientState recipientId =
      (states recipientId).map fun recipientState =>
        (last recipientId).elim recipientState recipientState.markRead
  noneWaiting : outbox.recipientReadReceipts timestamp = none

namespace Outbox

variable {states : String → Option TSOutgoingMessageRecipientState} {last : String → Option ℕ}

theorem interactionsWithTimestamp_map {f : TSOutgoingMessage → TSOutgoingMessage}
    (h : ∀ row, (f row).timestamp = row.timestamp) :
    ({ outbox with outgoingMessages := outbox.outgoingMessages.map f } :
        Outbox).interactionsWithTimestamp timestamp =
      (outbox.interactionsWithTimestamp timestamp).map f := by
  simp only [interactionsWithTimestamp, List.filter_map]
  congr 1
  apply List.filter_congr
  intro row _
  simp [h]

theorem timestamp_of_mem (h : message ∈ outbox.interactionsWithTimestamp timestamp) :
    message.timestamp = timestamp := by
  simpa using (List.mem_filter.mp h).2

/-- A receipt for another timestamp is of no concern. -/
theorem processReadReceipt_of_ne (h : sentTimestamp ≠ timestamp) :
    (outbox.processReadReceipt recipientId readTimestamp sentTimestamp).interactionsWithTimestamp
        timestamp = outbox.interactionsWithTimestamp timestamp ∧
      (outbox.processReadReceipt recipientId readTimestamp sentTimestamp).recipientReadReceipts
        timestamp = outbox.recipientReadReceipts timestamp := by
  unfold processReadReceipt
  split
  · refine ⟨?_, rfl⟩
    rw [interactionsWithTimestamp_map]
    · nth_rewrite 2 [← List.map_id (outbox.interactionsWithTimestamp timestamp)]
      apply List.map_congr_left
      intro row hrow
      rw [if_neg (by simpa [timestamp_of_mem hrow] using Ne.symm h)]
      rfl
    · intro row
      split <;> rfl
  · refine ⟨rfl, ?_⟩
    simp [addRecipientId, Ne.symm h]

theorem Waits.processReadReceipt (h : outbox.Waits timestamp last) :
    (outbox.processReadReceipt recipientId readTimestamp timestamp).Waits timestamp
      fun other => if other = recipientId then some readTimestamp else last other := by
  have hnone : ¬0 < (outbox.interactionsWithTimestamp timestamp).length := by
    simp [h.noMessage]
  rw [Outbox.processReadReceipt, if_neg hnone]
  refine ⟨h.noMessage, ?_⟩
  intro other
  simp only [addRecipientId, if_true, Option.getD_some]
  by_cases heq : other = recipientId
  · subst heq
    simp
  · rw [AList.lookup_insert_ne heq, if_neg heq]
    exact h.waiting other

theorem Has.processReadReceipt (h : outbox.Has timestamp states last) :
    (outbox.processReadReceipt recipientId readTimestamp timestamp).Has timestamp states
      fun other => if other = recipientId then some readTimestamp else last other := by
  obtain ⟨message, hmessage, hstates⟩ := h.message
  have hsome : 0 < (outbox.interactionsWithTimestamp timestamp).length := by
    simp [hmessage]
  rw [Outbox.processReadReceipt, if_pos hsome]
  refine ⟨⟨message.updateWithReadRecipientId recipientId readTimestamp, ?_, ?_⟩, h.noneWaiting⟩
  · have htimestamp : message.timestamp = timestamp :=
      timestamp_of_mem (hmessage ▸ List.mem_singleton.mpr rfl)
    rw [interactionsWithTimestamp_map]
    · simp [hmessage, htimestamp]
    · intro row
      split <;> rfl
  · intro other
    by_cases heq : other = recipientId
    · subst heq
      rw [TSOutgoingMessage.recipientState_updateWithReadRecipientId, hstates, Option.map_map,
        if_pos rfl]
      cases states other with
      | none => rfl
      | some recipientState =>
          cases last other <;> rfl
    · rw [TSOutgoingMessage.recipientState_updateWithReadRecipientId_of_ne heq, hstates, if_neg heq]

theorem Waits.congr {outbox' : Outbox} (h : outbox.Waits timestamp last)
    (hmessages : outbox'.interactionsWithTimestamp timestamp =
      outbox.interactionsWithTimestamp timestamp)
    (hreceipts : outbox'.recipientReadReceipts timestamp =
      outbox.recipientReadReceipts timestamp) : outbox'.Waits timestamp last :=
  ⟨hmessages.trans h.noMessage, by rw [hreceipts]; exact h.waiting⟩

theorem Has.congr {outbox' : Outbox} (h : outbox.Has timestamp states last)
    (hmessages : outbox'.interactionsWithTimestamp timestamp =
      outbox.interactionsWithTimestamp timestamp)
    (hreceipts : outbox'.recipientReadReceipts timestamp =
      outbox.recipientReadReceipts timestamp) : outbox'.Has timestamp states last :=
  ⟨by rw [hmessages]; exact h.message, hreceipts.trans h.noneWaiting⟩

/-- What a receipt for `timestamp` keeps as it updates what is known of the recipient, and what
depends on nothing but the messages and the receipts of `timestamp`. -/
structure Follows (timestamp : ℕ) (P : Outbox → (String → Option ℕ) → Prop) : Prop where
  receipt {outbox : Outbox} {last : String → Option ℕ} (recipientId : String)
    (readTimestamp : ℕ) : P outbox last →
      P (outbox.processReadReceipt recipientId readTimestamp timestamp)
        fun other => if other = recipientId then some readTimestamp else last other
  congr {outbox outbox' : Outbox} {last : String → Option ℕ} : P outbox last →
    outbox'.interactionsWithTimestamp timestamp = outbox.interactionsWithTimestamp timestamp →
    outbox'.recipientReadReceipts timestamp = outbox.recipientReadReceipts timestamp →
      P outbox' last

theorem follows_waits : Follows timestamp fun outbox last => outbox.Waits timestamp last where
  receipt _ _ h := h.processReadReceipt
  congr h := h.congr

theorem follows_has : Follows timestamp fun outbox last => outbox.Has timestamp states last where
  receipt _ _ h := h.processReadReceipt
  congr h := h.congr

variable {P : Outbox → (String → Option ℕ) → Prop}

/-- **The loop over the timestamps of a receipt.** -/
theorem Follows.processReadReceipts {sentTimestamps : List ℕ} (follows : Follows timestamp P)
    (h : P outbox last) :
    P (outbox.processReadReceipts recipientId sentTimestamps readTimestamp)
      (updateLast timestamp last (.readReceipts recipientId sentTimestamps readTimestamp)) := by
  induction sentTimestamps generalizing outbox last with
  | nil => simpa [processReadReceipts, updateLast] using h
  | cons sentTimestamp sentTimestamps ih =>
      by_cases heq : sentTimestamp = timestamp
      · subst heq
        have hlast : updateLast sentTimestamp last
              (.readReceipts recipientId (sentTimestamp :: sentTimestamps) readTimestamp) =
            updateLast sentTimestamp
              (fun other => if other = recipientId then some readTimestamp else last other)
              (.readReceipts recipientId sentTimestamps readTimestamp) := by
          funext other
          by_cases hrecipient : other = recipientId <;> simp [updateLast, hrecipient]
        rw [hlast]
        exact ih (follows.receipt _ _ h)
      · have hlast : updateLast timestamp last
              (.readReceipts recipientId (sentTimestamp :: sentTimestamps) readTimestamp) =
            updateLast timestamp last
              (.readReceipts recipientId sentTimestamps readTimestamp) := by
          funext other
          simp [updateLast, Ne.symm heq]
        rw [hlast]
        exact ih
          (follows.congr h (processReadReceipt_of_ne heq).1 (processReadReceipt_of_ne heq).2)

theorem recordTranscript_of_recordsNone {sent : OWSIncomingSentMessageTranscript}
    (h : RecordsNone timestamp (.transcript sent)) :
    (outbox.recordTranscript sent).interactionsWithTimestamp timestamp =
        outbox.interactionsWithTimestamp timestamp ∧
      (outbox.recordTranscript sent).recipientReadReceipts timestamp =
        outbox.recipientReadReceipts timestamp := by
  unfold recordTranscript
  cases hrecorded : sent.isRecorded with
  | false => exact ⟨rfl, rfl⟩
  | true =>
      have hne : sent.timestamp ≠ timestamp := h hrecorded
      have htimestamp := sent.timestamp_outgoingMessage
      simp only [Bool.not_true, Bool.false_eq_true, if_false]
      cases outbox.recipientReadReceipts sent.timestamp with
      | none => simp [interactionsWithTimestamp, htimestamp, hne]
      | some recipientMap =>
          simp [interactionsWithTimestamp, removeRecipientIds,
            TSOutgoingMessage.applyEarlyReadReceipts, htimestamp, hne, Ne.symm hne]

/-- **A transcript is recorded**: its message takes up the receipts that waited. -/
theorem Waits.recordTranscript {sent : OWSIncomingSentMessageTranscript}
    (h : outbox.Waits sent.timestamp last) (recorded : sent.isRecorded = true) :
    (outbox.recordTranscript sent).Has sent.timestamp sent.outgoingMessage.recipientState last := by
  have htimestamp := sent.timestamp_outgoingMessage
  have hnone : outbox.outgoingMessages.filter (fun row => row.timestamp == sent.timestamp) = [] :=
    h.noMessage
  have hwaiting := h.waiting
  simp only [Outbox.recordTranscript, recorded, Bool.not_true, Bool.false_eq_true, if_false]
  cases hstored : outbox.recipientReadReceipts sent.timestamp with
  | none =>
      refine ⟨⟨sent.outgoingMessage, ?_, ?_⟩, hstored⟩
      · simp [interactionsWithTimestamp, hnone, htimestamp]
      · intro recipientId
        have hlast : last recipientId = none := by
          simpa [hstored] using (hwaiting recipientId).symm
        simp [hlast]
  | some recipientMap =>
      refine ⟨⟨sent.outgoingMessage.applyEarlyReadReceipts recipientMap, ?_, ?_⟩,
        by simp [removeRecipientIds]⟩
      · simp [interactionsWithTimestamp, removeRecipientIds, hnone,
          TSOutgoingMessage.applyEarlyReadReceipts, htimestamp]
      · intro recipientId
        have hlast : recipientMap.lookup recipientId = last recipientId := by
          simpa [hstored] using hwaiting recipientId
        rw [← hlast]
        exact AList.lookup_modifyAll

/-! ## Every interleaving -/

theorem Follows.foldl {events : List OutboxEvent} (follows : Follows timestamp P)
    (hevents : ∀ event ∈ events, event.RecordsNone timestamp) (h : P outbox last) :
    P (events.foldl OutboxEvent.apply outbox) (events.foldl (updateLast timestamp) last) := by
  induction events generalizing outbox last with
  | nil => exact h
  | cons event events ih =>
      refine ih (fun later hlater => hevents later (.tail _ hlater)) ?_
      cases event with
      | readReceipts => exact follows.processReadReceipts h
      | transcript sent =>
          have hnone := @recordTranscript_of_recordsNone outbox timestamp sent
            (hevents (.transcript sent) (.head _))
          exact follows.congr h hnone.1 hnone.2

end Outbox

end Timestamp

namespace OWSIncomingSentMessageTranscript

variable {transcript : OWSIncomingSentMessageTranscript} {recipientId : String}

theorem recipientState_outgoingMessage :
    transcript.outgoingMessage.recipientState recipientId =
      if recipientId ∈ transcript.recipientIds then
        some { ofState .sent with wasSentByUD := recipientId ∈ transcript.udRecipientIds }
      else none := by
  unfold outgoingMessage TSOutgoingMessage.updateWithWasSentFromLinkedDevice recipientIds
  by_cases hlisted : 0 < transcript.udRecipientIds.length ∨ 0 < transcript.nonUdRecipientIds.length
  · rw [if_pos hlisted, if_pos hlisted]
    simp only [List.mem_append]
    exact TSOutgoingMessage.lookup_sentRecipientStates
  · rw [if_neg hlisted, if_neg hlisted]
    have hud : transcript.udRecipientIds = [] := by
      rw [← List.length_eq_zero_iff]
      omega
    have hinit := @TSOutgoingMessage.recipientState_initOutgoingMessage recipientId
      transcript.uniqueId transcript.timestamp transcript.threadRecipientIds
    unfold TSOutgoingMessage.recipientState at hinit ⊢
    rw [AList.lookup_mapValues, hinit]
    by_cases hthread : recipientId ∈ transcript.threadRecipientIds <;>
      simp [hthread, hud, replaceState, ofState]

end OWSIncomingSentMessageTranscript

/-- **Read receipts commute with the transcript of the message they are for**, as long
as no other message has its timestamp: wherever it stands among them, each recipient
of the transcript ends up sent to, with the read timestamp of the last receipt
processed for it, nobody else has a state, and no receipt is left waiting. -/
theorem recipientStates_after_transcript {outbox : Outbox}
    {transcript : OWSIncomingSentMessageTranscript} {before after : List OutboxEvent}
    (hmessages : outbox.interactionsWithTimestamp transcript.timestamp = [])
    (hreceipts : outbox.recipientReadReceipts transcript.timestamp = none)
    (recorded : transcript.isRecorded = true)
    (hothers : ∀ event ∈ before ++ after, event.RecordsNone transcript.timestamp) :
    let reached := (before ++ .transcript transcript :: after).foldl OutboxEvent.apply outbox
    (∃ message, reached.interactionsWithTimestamp transcript.timestamp = [message] ∧
      ∀ recipientId, message.recipientState recipientId =
        if recipientId ∈ transcript.recipientIds then
          some
            { state := .sent
              deliveryTimestamp := none
              readTimestamp := lastRead transcript.timestamp (before ++ after) recipientId
              wasSentByUD := recipientId ∈ transcript.udRecipientIds }
        else none) ∧
      reached.recipientReadReceipts transcript.timestamp = none := by
  intro reached
  have hstart : outbox.Waits transcript.timestamp fun _ => none :=
    ⟨hmessages, by simp [hreceipts]⟩
  have hwaits := Outbox.follows_waits.foldl
    (fun event hevent => hothers event (List.mem_append_left _ hevent)) hstart
  have hhas := Outbox.follows_has.foldl
    (fun event hevent => hothers event (List.mem_append_right _ hevent))
    (hwaits.recordTranscript recorded)
  rw [← List.foldl_append, ← lastRead.eq_def] at hhas
  have hreached : reached = after.foldl OutboxEvent.apply
      ((before.foldl OutboxEvent.apply outbox).recordTranscript transcript) := by
    simp only [reached, List.foldl_append, List.foldl_cons]
    rfl
  rw [hreached]
  obtain ⟨message, hmessage, hstates⟩ := hhas.message
  refine ⟨⟨message, hmessage, ?_⟩, hhas.noneWaiting⟩
  intro recipientId
  rw [hstates, OWSIncomingSentMessageTranscript.recipientState_outgoingMessage]
  split
  · rw [Option.map_some]
    cases lastRead transcript.timestamp (before ++ after) recipientId <;> rfl
  · rfl

/-- A contact reads a message of another device twice, once before we have heard of
it. -/
theorem recipientStates_of_two_receipts :
    let transcript : OWSIncomingSentMessageTranscript :=
      ⟨"one", 50, ["+15550001"], [], [], false, false, false⟩
    let reached := [.readReceipts "+15550001" [50] 90, .transcript transcript,
      .readReceipts "+15550001" [50] 95].foldl OutboxEvent.apply ⟨[], fun _ => none⟩
    (∃ message, reached.interactionsWithTimestamp 50 = [message] ∧
      ∀ recipientId, message.recipientState recipientId =
        if recipientId ∈ transcript.recipientIds then
          some
            { state := .sent
              deliveryTimestamp := none
              readTimestamp := lastRead 50
                ([.readReceipts "+15550001" [50] 90] ++ [.readReceipts "+15550001" [50] 95])
                recipientId
              wasSentByUD := recipientId ∈ transcript.udRecipientIds }
        else none) ∧
      reached.recipientReadReceipts 50 = none :=
  @recipientStates_after_transcript ⟨[], fun _ => none⟩
    ⟨"one", 50, ["+15550001"], [], [], false, false, false⟩
    [.readReceipts "+15550001" [50] 90] [.readReceipts "+15550001" [50] 95]
    rfl rfl rfl (by simp [RecordsNone])

theorem receipts_do_not_commute_in_general :
    let transcript : OWSIncomingSentMessageTranscript :=
      ⟨"one", 50, ["+15550001"], [], [], false, false, false⟩
    let outbox : Outbox :=
      ⟨[TSOutgoingMessage.initOutgoingMessage "other" 50 ["+15550002"]], fun _ => none⟩
    let readStates (events : List OutboxEvent) (outbox : Outbox) (recipientId : String) :=
      ((events.foldl OutboxEvent.apply outbox).interactionsWithTimestamp 50).map
        fun message => (message.recipientState recipientId).map (·.readTimestamp)
    readStates [.readReceipts "+15550001" [50] 90, .transcript transcript] outbox "+15550001" =
        [none, some none] ∧
      readStates [.transcript transcript, .readReceipts "+15550001" [50] 90] outbox "+15550001" =
        [none, some (some 90)] ∧
      readStates [.transcript transcript, .readReceipts "+15550009" [50] 90] ⟨[], fun _ => none⟩
        "+15550009" = [none] := by
  decide

end ObjcSwiftLearning.SignalServiceKit
