import Mathlib.Data.List.Nodup
import Mathlib.Tactic.Common

/-!
# Incoming messages and what marking them as read does

`TSIncomingMessage` as far as read tracking looks at it, the collection the
messages are saved in, and the view of the unread ones that
`markAsReadBeforeTimestamp:` walks.  Times are in milliseconds.

* `TSIncomingMessage.markAsReadAtTimestamp` — the one way a message becomes read,
  and the one that starts its expiration.
* `markWhere` — marking some of the rows at one time; marking twice is marking
  once what either picks (`markWhere_markWhere`), so a batch of receipts comes to
  one pass over the rows.
* `mem_newlyReadList` — the walk over the sorted view, stopped at the first later
  message, finds every unread message that is not later.

Rows other than incoming messages (calls, errors, info messages) are left out of
the view: the walk treats each row by itself.  `sendReadReceipt` is `NO` here;
what a local read sends is in `ReadReceiptBatches`.
-/

namespace ObjcSwiftLearning.SignalServiceKit

/-! ## `TSIncomingMessage` -/

/-- `TSIncomingMessage`; an object cached by the connection, so a change to it is
a change to the row. -/
@[ext]
structure TSIncomingMessage where
  uniqueId : String
  uniqueThreadId : String
  /-- When the sender sent it, by the sender's clock. -/
  timestamp : ℕ
  receivedAtTimestamp : ℕ
  /-- Missing on legacy messages. -/
  authorId : Option String
  read : Bool
  expireStartedAt : ℕ
  expiresInSeconds : ℕ
  deriving DecidableEq

/-- `+[TSContactThread contactIdFromThreadId:]`: the id less its first character. -/
def contactIdFromThreadId (threadId : String) : String := (threadId.drop 1).toString

namespace TSIncomingMessage

variable (message : TSIncomingMessage)

def initIncomingMessage (uniqueId threadId authorId : String)
    (timestamp now expiresInSeconds : ℕ) : TSIncomingMessage where
  uniqueId
  uniqueThreadId := threadId
  timestamp
  receivedAtTimestamp := now
  authorId := some authorId
  read := false
  expireStartedAt := 0
  expiresInSeconds

def messageAuthorId : String :=
  match message.authorId with
  | some authorId => authorId
  | none => contactIdFromThreadId message.uniqueThreadId

def timestampForSorting : ℕ :=
  if 0 < message.receivedAtTimestamp then message.receivedAtTimestamp else message.timestamp

def isExpiringMessage : Bool := 0 < message.expiresInSeconds

/-- `setExpireStartedAt:`: an earlier start is kept, and none lies in the future. -/
def setExpireStartedAt (expireStartedAt now : ℕ) : TSIncomingMessage :=
  if message.expireStartedAt ≠ 0 ∧ message.expireStartedAt < expireStartedAt then message
  else { message with expireStartedAt := min now expireStartedAt }

def startAnyExpiration (expirationStartedAt now : ℕ) : TSIncomingMessage :=
  if !message.isExpiringMessage then message
  else if message.expireStartedAt = 0 ∨ expirationStartedAt < message.expireStartedAt then
    message.setExpireStartedAt expirationStartedAt now
  else message

/-- `markAsReadAtTimestamp:sendReadReceipt:transaction:`. -/
def markAsReadAtTimestamp (readTimestamp now : ℕ) : TSIncomingMessage :=
  if message.read && message.expireStartedAt ≤ readTimestamp then message
  else { message with read := true }.startAnyExpiration readTimestamp now

/-! ### What a mark keeps, and what it changes -/

variable {message} {readTimestamp now : ℕ}

/-- A mark in closed form: the message is read, and an expiring one whose
expiration has not started by then starts it. -/
theorem markAsReadAtTimestamp_eq :
    message.markAsReadAtTimestamp readTimestamp now =
      { message with
        read := true
        expireStartedAt :=
          if 0 < message.expiresInSeconds ∧
              (message.expireStartedAt = 0 ∧ message.read = false ∨
                readTimestamp < message.expireStartedAt) then min now readTimestamp
          else message.expireStartedAt } := by
  cases hread : message.read <;>
    by_cases hexpires : 0 < message.expiresInSeconds <;>
    by_cases hstarted : message.expireStartedAt = 0 <;>
    by_cases hlater : readTimestamp < message.expireStartedAt <;>
    ext <;>
    simp_all [markAsReadAtTimestamp, startAnyExpiration, setExpireStartedAt,
      isExpiringMessage] <;> grind

@[simp] theorem uniqueId_markAsReadAtTimestamp :
    (message.markAsReadAtTimestamp readTimestamp now).uniqueId = message.uniqueId := by
  rw [markAsReadAtTimestamp_eq]

@[simp] theorem read_markAsReadAtTimestamp :
    (message.markAsReadAtTimestamp readTimestamp now).read = true := by
  rw [markAsReadAtTimestamp_eq]

@[simp] theorem markAsReadAtTimestamp_idem :
    (message.markAsReadAtTimestamp readTimestamp now).markAsReadAtTimestamp readTimestamp now =
      message.markAsReadAtTimestamp readTimestamp now := by
  simp only [markAsReadAtTimestamp_eq]
  ext <;> simp
  grind

@[simp] theorem uniqueThreadId_markAsReadAtTimestamp :
    (message.markAsReadAtTimestamp readTimestamp now).uniqueThreadId = message.uniqueThreadId := by
  rw [markAsReadAtTimestamp_eq]

@[simp] theorem timestamp_markAsReadAtTimestamp :
    (message.markAsReadAtTimestamp readTimestamp now).timestamp = message.timestamp := by
  rw [markAsReadAtTimestamp_eq]

@[simp] theorem timestampForSorting_markAsReadAtTimestamp :
    (message.markAsReadAtTimestamp readTimestamp now).timestampForSorting =
      message.timestampForSorting := by
  rw [markAsReadAtTimestamp_eq]
  rfl

end TSIncomingMessage

open TSIncomingMessage

/-! ## Marking rows -/

/-- The rows, those that `p` picks marked as read. -/
def markWhere (p : TSIncomingMessage → Bool) (readTimestamp now : ℕ)
    (rows : List TSIncomingMessage) : List TSIncomingMessage :=
  rows.map fun row => if p row then row.markAsReadAtTimestamp readTimestamp now else row

section markWhere

variable {p q : TSIncomingMessage → Bool} {readTimestamp now : ℕ} {rows : List TSIncomingMessage}

theorem markWhere_congr (h : ∀ row ∈ rows, p row = q row) :
    markWhere p readTimestamp now rows = markWhere q readTimestamp now rows := by
  apply List.map_congr_left
  intro row hrow
  rw [h row hrow]

/-- Nothing is marked where nothing is picked. -/
theorem markWhere_false (h : ∀ row ∈ rows, p row = false) :
    markWhere p readTimestamp now rows = rows := by
  rw [markWhere_congr h]
  simp [markWhere]

/-- **Two passes are one**: a row either picks is marked, and a second mark at
the same time does nothing. -/
theorem markWhere_markWhere :
    markWhere q readTimestamp now (markWhere p readTimestamp now rows) =
      markWhere (fun row => p row || q row) readTimestamp now rows := by
  simp only [markWhere, List.map_map]
  apply List.map_congr_left
  intro row _
  dsimp only [Function.comp]
  by_cases hp : p row = true
  · simp [hp]
  · simp [hp]

@[simp] theorem map_uniqueId_markWhere :
    (markWhere p readTimestamp now rows).map (·.uniqueId) = rows.map (·.uniqueId) := by
  rw [markWhere, List.map_map]
  apply List.map_congr_left
  intro row _
  dsimp only [Function.comp]
  split
  · exact uniqueId_markAsReadAtTimestamp
  · rfl

end markWhere

/-! ## The view of the unread -/

/-- The rows of a thread's group in `TSUnseenDatabaseViewExtension`, in the order
of the view. -/
def unseenMessages (threadId : String) (rows : List TSIncomingMessage) :
    List TSIncomingMessage :=
  (rows.filter fun row => row.uniqueThreadId == threadId && !row.read).mergeSort
    fun row row' => row.timestampForSorting ≤ row'.timestampForSorting

/-- `newlyReadList` of `markAsReadBeforeTimestamp:…`: the walk stops at the first
row sorted after the timestamp. -/
def newlyReadList (timestamp : ℕ) (threadId : String) (rows : List TSIncomingMessage) :
    List TSIncomingMessage :=
  ((unseenMessages threadId rows).takeWhile fun row => row.timestampForSorting ≤ timestamp).filter
    fun row => !row.read

def markAsReadBeforeTimestamp (timestamp : ℕ) (threadId : String) (readTimestamp now : ℕ)
    (rows : List TSIncomingMessage) : List TSIncomingMessage :=
  (newlyReadList timestamp threadId rows).foldl
    (fun rows readItem =>
      markWhere (fun row => row.uniqueId == readItem.uniqueId) readTimestamp now rows)
    rows

/-- A sorted list is walked up to a bound exactly through what is within it. -/
theorem mem_takeWhile_iff_of_pairwise {l : List TSIncomingMessage} {timestamp : ℕ}
    (hsorted : l.Pairwise fun row row' => row.timestampForSorting ≤ row'.timestampForSorting)
    {row : TSIncomingMessage} :
    row ∈ l.takeWhile (fun row => row.timestampForSorting ≤ timestamp) ↔
      row ∈ l ∧ row.timestampForSorting ≤ timestamp := by
  induction l with
  | nil => simp
  | cons head l ih =>
      rw [List.pairwise_cons] at hsorted
      by_cases hhead : head.timestampForSorting ≤ timestamp
      · rw [List.takeWhile_cons_of_pos (by simpa using hhead), List.mem_cons, List.mem_cons,
          ih hsorted.2]
        grind
      · rw [List.takeWhile_cons_of_neg (by simpa using hhead)]
        simp only [List.not_mem_nil, List.mem_cons, false_iff, not_and]
        rintro (rfl | hmem)
        · exact hhead
        · have := hsorted.1 row hmem
          omega

theorem mem_newlyReadList {timestamp : ℕ} {threadId : String} {rows : List TSIncomingMessage}
    {row : TSIncomingMessage} :
    row ∈ newlyReadList timestamp threadId rows ↔
      row ∈ rows ∧ row.read = false ∧ row.uniqueThreadId = threadId ∧
        row.timestampForSorting ≤ timestamp := by
  have hsorted : (unseenMessages threadId rows).Pairwise
      fun row row' => row.timestampForSorting ≤ row'.timestampForSorting := by
    refine (List.pairwise_mergeSort ?_ ?_ _).imp of_decide_eq_true
    · intro a b c
      simpa using Nat.le_trans
    · intro a b
      simpa using Nat.le_total _ _
  rw [newlyReadList, List.mem_filter, mem_takeWhile_iff_of_pairwise hsorted, unseenMessages,
    List.mem_mergeSort, List.mem_filter]
  simp only [beq_iff_eq, Bool.and_eq_true, Bool.not_eq_true']
  tauto

theorem foldl_markWhere {items rows : List TSIncomingMessage} {readTimestamp now : ℕ}
    {p : TSIncomingMessage → Bool} :
    items.foldl
        (fun rows readItem =>
          markWhere (fun row => row.uniqueId == readItem.uniqueId) readTimestamp now rows)
        (markWhere p readTimestamp now rows) =
      markWhere (fun row => p row || items.any fun readItem => row.uniqueId == readItem.uniqueId)
        readTimestamp now rows := by
  induction items generalizing p with
  | nil => simp
  | cons item items ih =>
      rw [List.foldl_cons, markWhere_markWhere, ih]
      simp [Bool.or_assoc]

/-- `markAsReadBeforeTimestamp:` in closed form, on rows with ids of their own. -/
theorem markAsReadBeforeTimestamp_eq {timestamp : ℕ} {threadId : String} {readTimestamp now : ℕ}
    {rows : List TSIncomingMessage} (hnodup : (rows.map (·.uniqueId)).Nodup) :
    markAsReadBeforeTimestamp timestamp threadId readTimestamp now rows =
      markWhere
        (fun row => !row.read && row.uniqueThreadId == threadId &&
          decide (row.timestampForSorting ≤ timestamp)) readTimestamp now rows := by
  have hnone : markWhere (fun _ => false) readTimestamp now rows = rows :=
    markWhere_false fun _ _ => rfl
  have hpass := @foldl_markWhere (newlyReadList timestamp threadId rows) rows readTimestamp now
    fun _ => false
  rw [hnone] at hpass
  rw [markAsReadBeforeTimestamp, hpass]
  apply markWhere_congr
  intro row hrow
  have hsame : ∀ item ∈ rows, row.uniqueId = item.uniqueId → row = item :=
    fun item hitem => List.inj_on_of_nodup_map hnodup hrow hitem
  rw [Bool.eq_iff_iff]
  simp only [Bool.false_or, List.any_eq_true, beq_iff_eq, mem_newlyReadList, Bool.and_eq_true,
    Bool.not_eq_true', decide_eq_true_eq]
  constructor
  · rintro ⟨item, ⟨hitem, hunread, hthread, hsorting⟩, hid⟩
    obtain rfl := hsame item hitem hid
    exact ⟨⟨hunread, hthread⟩, hsorting⟩
  · rintro ⟨⟨hunread, hthread⟩, hsorting⟩
    exact ⟨row, ⟨hrow, hunread, hthread, hsorting⟩, rfl⟩

end ObjcSwiftLearning.SignalServiceKit
