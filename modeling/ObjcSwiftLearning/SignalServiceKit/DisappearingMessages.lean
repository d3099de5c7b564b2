import ObjcSwiftLearning.Library.Dictionary
import ObjcSwiftLearning.Library.LabelledRun
import ObjcSwiftLearning.Library.WakeUp

/-!
# Disappearing messages

A message with a timer expires some seconds after it was read or sent; the time is kept with
the message and, when the message is saved, in a secondary index.
`OWSDisappearingMessagesJob` deletes what the index has as expired, and schedules its next
run.  Starting an expiration, a run of the job and the app's becoming active all ask for a
run by some date, and the main queue answers one request after the other.

* `ExpirationDatabase` — the interactions, and the index, which leaves out an incoming message
  with an attachment to be downloaded.
* `DisappearingMessagesJob.Step` — the job, and what goes on around it.

The app is ready from the start.  A block reads the clock once, except that a run of the job
reads it once itself and once in the finder; the clock may say anything.  Dates are in
milliseconds.
-/

namespace ObjcSwiftLearning.SignalServiceKit

/-! ## Messages -/

/-- What expiration depends on beyond the timer. -/
inductive TSMessageKind where
  | incoming (attachmentIds : List String) (wasRead : Bool)
  /-- Whether `messageState` is sent. -/
  | outgoing (isSent : Bool)
  | other

/-- `TSMessage`, as far as it expires. -/
structure TSMessage where
  kind : TSMessageKind
  timestampForSorting : UInt64
  expiresInSeconds : UInt32
  expireStartedAt : UInt64

namespace TSMessage

variable (message : TSMessage)

def isExpiringMessage : Bool := 0 < message.expiresInSeconds

/-- `updateExpiresAt`; the product is one of 32-bit numbers. -/
def expiresAt : UInt64 :=
  if 0 < message.expiresInSeconds ∧ 0 < message.expireStartedAt then
    message.expireStartedAt + (message.expiresInSeconds * 1000).toUInt64
  else 0

/-- `setExpireStartedAt:`: a later start is ignored, and none lies in the future. -/
def setExpireStartedAt (expireStartedAt now : UInt64) : TSMessage :=
  if message.expireStartedAt ≠ 0 ∧ message.expireStartedAt < expireStartedAt then message
  else { message with expireStartedAt := min now expireStartedAt }

/-- `shouldStartExpireTimerWithTransaction:`, where the attachments that are still pointers
are given. -/
def shouldStartExpireTimer (attachmentPointers : List String) : Bool :=
  match message.kind with
  | .incoming attachmentIds _ =>
      if attachmentIds.any (· ∈ attachmentPointers) then false else message.isExpiringMessage
  | .outgoing isSent =>
      if !message.isExpiringMessage then false
      else if isSent then true
      else 0 < message.expireStartedAt
  | .other => message.isExpiringMessage

end TSMessage

/-- `TSInteraction`: a message, or a call, an error and the like. -/
inductive TSInteraction where
  | message (message : TSMessage)
  | other

/-- A number in a column of integers, which are signed. -/
def signed (n : UInt64) : ℤ := n.toInt64.toInt

/-! ## The database -/

/-- What the job finds in the database. -/
structure ExpirationDatabase where
  /-- By unique id. -/
  interactions : AList fun _ : String => TSInteraction
  /-- The attachments that are `TSAttachmentPointer`s. -/
  attachmentPointers : List String
  /-- The column of `OWSDisappearingMessageFinderExpiresAtIndex`. -/
  expiresAtIndex : AList fun _ : String => ℤ

namespace ExpirationDatabase

variable (database : ExpirationDatabase)

def indexRow : TSInteraction → Option ℤ
  | .message message =>
      if message.shouldStartExpireTimer database.attachmentPointers then
        some (signed message.expiresAt)
      else none
  | .other => none

/-- `saveWithTransaction:`, which invokes the handler. -/
def save (uniqueId : String) (interaction : TSInteraction) : ExpirationDatabase :=
  { database with
    interactions := database.interactions.insert uniqueId interaction
    expiresAtIndex :=
      match database.indexRow interaction with
      | some expiresAt => database.expiresAtIndex.insert uniqueId expiresAt
      | none => database.expiresAtIndex.erase uniqueId }

/-- `touchWithTransaction:`, which invokes the handler as a save does. -/
def touch (uniqueId : String) : ExpirationDatabase :=
  match database.interactions.lookup uniqueId with
  | some interaction =>
      { database with expiresAtIndex := (database.save uniqueId interaction).expiresAtIndex }
  | none => database

/-- `removeWithTransaction:`. -/
def remove (uniqueId : String) : ExpirationDatabase :=
  { database with
    interactions := database.interactions.erase uniqueId
    expiresAtIndex := database.expiresAtIndex.erase uniqueId }

/-- `updateWithExpireStartedAt:transaction:` of the stored copy, if there is one. -/
def updateWithExpireStartedAt (uniqueId : String) (expireStartedAt now : UInt64) :
    ExpirationDatabase :=
  match database.interactions.lookup uniqueId with
  | some (.message latest) =>
      database.save uniqueId (.message (latest.setExpireStartedAt expireStartedAt now))
  | _ => database

/-! ### The finder -/

def fetchMessageIdsWhichFailedToStartExpiring : List String :=
  (database.expiresAtIndex.keysWhere fun expiresAt => expiresAt = 0).filter fun uniqueId =>
    match database.interactions.lookup uniqueId with
    | some (.message message) =>
        message.shouldStartExpireTimer database.attachmentPointers &&
          match message.kind with
          | .incoming _ wasRead => wasRead
          | _ => true
    | _ => false

def fetchExpiredMessageIds (now : UInt64) : List String :=
  database.expiresAtIndex.keysWhere fun expiresAt => 0 < expiresAt ∧ expiresAt ≤ signed now

/-- The first row in the order of the column, among those with a positive one. -/
def firstExpiringRow : List (Σ _ : String, ℤ) → Option (Σ _ : String, ℤ)
  | [] => none
  | row :: rows =>
      match firstExpiringRow rows with
      | none => if 0 < row.snd then some row else none
      | some first => if 0 < row.snd ∧ row.snd ≤ first.snd then some row else some first

def nextExpirationTimestamp : Option UInt64 :=
  match firstExpiringRow database.expiresAtIndex.entries with
  | some row =>
      match database.interactions.lookup row.fst with
      | some (.message firstMessage) =>
          if 0 < firstMessage.expiresAt then some firstMessage.expiresAt else none
      | _ => none
  | none => none

/-- The block of `deleteExpiredMessages` for one of the ids that were fetched. -/
def deleteIfExpired (now : UInt64) (database : ExpirationDatabase) (uniqueId : String) :
    ExpirationDatabase :=
  match database.interactions.lookup uniqueId with
  | some (.message message) =>
      if now < message.expiresAt then database else database.remove uniqueId
  | _ => database

/-- The transaction of `deleteExpiredMessages`; the finder has read the clock anew. -/
def deleteExpiredMessages (now finderNow : UInt64) : ExpirationDatabase :=
  (database.fetchExpiredMessageIds finderNow).foldl (deleteIfExpired now) database

end ExpirationDatabase

/-! ## The job -/

inductive ExpirationMainBlock where
  | startIfNecessary
  | expirationStarted (expiresAt : UInt64)
  | scheduleRunByDate (date : ℤ)

/-- A transaction on `serialQueue`; a block there is some of them in a row. -/
inductive ExpirationSerialBlock where
  | cleanupMessagesWhichFailedToStartExpiring
  | deleteExpiredMessages
  | scheduleNextRun

def runLoop : List ExpirationSerialBlock := [.deleteExpiredMessages, .scheduleNextRun]

/-- `OWSDisappearingMessagesJob`, with what it works on. -/
structure DisappearingMessagesJob where
  database : ExpirationDatabase
  isMainAppAndActive : Bool
  hasStarted : Bool
  /-- `nextDisappearanceTimer` and `nextDisappearanceDate`, which are set together. -/
  nextDisappearance : WakeUp
  mainQueue : List ExpirationMainBlock
  serialQueue : List ExpirationSerialBlock

/-- `kMinDelaySeconds`. -/
def minDelayMilliseconds : ℤ := 1000

namespace DisappearingMessagesJob

variable (job : DisappearingMessagesJob)

/-- `startAnyExpirationForMessage:expirationStartedAt:transaction:` of an object in memory. -/
def startAnyExpiration (uniqueId : String) (message : TSMessage)
    (expirationStartedAt now : UInt64) : DisappearingMessagesJob :=
  if !message.isExpiringMessage then job
  else if message.expireStartedAt = 0 ∨ expirationStartedAt < message.expireStartedAt then
    { job with
      database := job.database.updateWithExpireStartedAt uniqueId expirationStartedAt now
      mainQueue := job.mainQueue ++
        [.expirationStarted (message.setExpireStartedAt expirationStartedAt now).expiresAt] }
  else { job with mainQueue := job.mainQueue ++ [.expirationStarted message.expiresAt] }

/-- The block of `cleanupMessagesWhichFailedToStartExpiring` for one of the ids. -/
def startFailedExpiration (now : UInt64) (job : DisappearingMessagesJob) (uniqueId : String) :
    DisappearingMessagesJob :=
  match job.database.interactions.lookup uniqueId with
  | some (.message message) =>
      if message.shouldStartExpireTimer job.database.attachmentPointers then
        job.startAnyExpiration uniqueId message message.timestampForSorting now
      else job
  | _ => job

def runMainBlock (now : ℤ) : ExpirationMainBlock → DisappearingMessagesJob
  | .startIfNecessary =>
      if job.hasStarted then job
      else
        { job with
          hasStarted := true
          serialQueue :=
            job.serialQueue ++ .cleanupMessagesWhichFailedToStartExpiring :: runLoop }
  | .expirationStarted expiresAt =>
      { job with mainQueue := job.mainQueue ++ [.scheduleRunByDate expiresAt.toNat] }
  | .scheduleRunByDate date =>
      if !job.isMainAppAndActive then job
      else
        { job with
          nextDisappearance := job.nextDisappearance.request minDelayMilliseconds date now }

def runSerialBlock (now finderNow : UInt64) : ExpirationSerialBlock → DisappearingMessagesJob
  | .cleanupMessagesWhichFailedToStartExpiring =>
      job.database.fetchMessageIdsWhichFailedToStartExpiring.foldl (startFailedExpiration now) job
  | .deleteExpiredMessages =>
      { job with database := job.database.deleteExpiredMessages now finderNow }
  | .scheduleNextRun =>
      match job.database.nextExpirationTimestamp with
      | none => job
      | some nextExpirationAt =>
          { job with mainQueue := job.mainQueue ++ [.scheduleRunByDate nextExpirationAt.toNat] }

def disappearanceTimerDidFire : DisappearingMessagesJob :=
  if !job.isMainAppAndActive then job
  else
    { job with
      nextDisappearance := .unset
      serialQueue := job.serialQueue ++ runLoop }

def fallbackTimerDidFire : DisappearingMessagesJob :=
  if !job.isMainAppAndActive then job
  else { job with serialQueue := job.serialQueue ++ runLoop }

def applicationDidBecomeActive : DisappearingMessagesJob :=
  { job with
    isMainAppAndActive := true
    serialQueue := job.serialQueue ++ runLoop }

def applicationWillResignActive : DisappearingMessagesJob :=
  { job with
    isMainAppAndActive := false
    nextDisappearance := .unset }

/-- What a launch finds: what is stored. -/
def launch : DisappearingMessagesJob where
  database := job.database
  isMainAppAndActive := false
  hasStarted := false
  nextDisappearance := .unset
  mainQueue := []
  serialQueue := []

/-! ## The steps -/

/-- What happens. -/
inductive Event where
  | saved (uniqueId : String) (interaction : TSInteraction)
  | removed (uniqueId : String)
  /-- A message is touched: one of its attachments is being downloaded, has been, or has failed
  to be. -/
  | touched (uniqueId : String)
  /-- Some attachments have been downloaded, or are to be; their message is touched after it. -/
  | attachmentsChanged (attachmentPointers : List String)
  | expirationStarted (uniqueId : String) (message : TSMessage)
      (expirationStartedAt now : UInt64)
  /-- In one transaction an object is saved and starts its expiration: an incoming message
  that is marked as read, or a transcript. -/
  | savedAndStarted (uniqueId : String) (message : TSMessage)
      (expirationStartedAt now : UInt64)
  | startIfNecessary
  | mainBlockRan (now : ℤ)
  | serialBlockRan (now finderNow : UInt64)
  | disappearanceTimerFired
  | fallbackTimerFired
  | becameActive
  | willResignActive
  /-- The app is killed, and launched. -/
  | relaunched

/-- The object whose expiration is started is that of an outgoing message, with the timer that
its stored copy has, or is the stored copy. -/
def IsStartable (database : ExpirationDatabase) (uniqueId : String) (message : TSMessage) :
    Prop :=
  (∀ latest, database.interactions.lookup uniqueId = some (.message latest) →
      (∃ isSent, latest.kind = .outgoing isSent) ∧
        latest.expiresInSeconds = message.expiresInSeconds) ∨
    database.interactions.lookup uniqueId = some (.message message)

inductive Step : DisappearingMessagesJob → Event → DisappearingMessagesJob → Prop
  | saved {job : DisappearingMessagesJob} (uniqueId : String) (interaction : TSInteraction) :
      Step job (.saved uniqueId interaction)
        { job with database := job.database.save uniqueId interaction }
  | removed {job : DisappearingMessagesJob} (uniqueId : String) :
      Step job (.removed uniqueId) { job with database := job.database.remove uniqueId }
  | touched {job : DisappearingMessagesJob} (uniqueId : String) :
      Step job (.touched uniqueId) { job with database := job.database.touch uniqueId }
  | attachmentsChanged {job : DisappearingMessagesJob} (attachmentPointers : List String) :
      Step job (.attachmentsChanged attachmentPointers)
        { job with database := { job.database with attachmentPointers } }
  | expirationStarted {job : DisappearingMessagesJob} {uniqueId : String} {message : TSMessage}
      {expirationStartedAt now : UInt64}
      (startable : IsStartable job.database uniqueId message) :
      Step job (.expirationStarted uniqueId message expirationStartedAt now)
        (job.startAnyExpiration uniqueId message expirationStartedAt now)
  | savedAndStarted {job : DisappearingMessagesJob} (uniqueId : String) (message : TSMessage)
      (expirationStartedAt now : UInt64) :
      Step job (.savedAndStarted uniqueId message expirationStartedAt now)
        ({ job with
            database := job.database.save uniqueId (.message message) }.startAnyExpiration
          uniqueId message expirationStartedAt now)
  | startIfNecessary {job : DisappearingMessagesJob} :
      Step job .startIfNecessary { job with mainQueue := job.mainQueue ++ [.startIfNecessary] }
  | mainBlockRan {job : DisappearingMessagesJob} {block : ExpirationMainBlock}
      {blocks : List ExpirationMainBlock} (now : ℤ) (first : job.mainQueue = block :: blocks) :
      Step job (.mainBlockRan now) ({ job with mainQueue := blocks }.runMainBlock now block)
  | serialBlockRan {job : DisappearingMessagesJob} {block : ExpirationSerialBlock}
      {blocks : List ExpirationSerialBlock} (now finderNow : UInt64)
      (first : job.serialQueue = block :: blocks) :
      Step job (.serialBlockRan now finderNow)
        ({ job with serialQueue := blocks }.runSerialBlock now finderNow block)
  | disappearanceTimerFired {job : DisappearingMessagesJob}
      (set : job.nextDisappearance.due.isSome = true) :
      Step job .disappearanceTimerFired job.disappearanceTimerDidFire
  | fallbackTimerFired {job : DisappearingMessagesJob} :
      Step job .fallbackTimerFired job.fallbackTimerDidFire
  | becameActive {job : DisappearingMessagesJob} :
      Step job .becameActive job.applicationDidBecomeActive
  | willResignActive {job : DisappearingMessagesJob} :
      Step job .willResignActive job.applicationWillResignActive
  | relaunched {job : DisappearingMessagesJob} : Step job .relaunched job.launch

/-- A save or a touch starts no expiration: where the index then has a positive time, it had one
before, no later. -/
def SavesStartNothing (job : DisappearingMessagesJob) (event : Event)
    (_ : DisappearingMessagesJob) : Prop :=
  ∀ uniqueId interaction expiresAt,
    (event = .saved uniqueId interaction ∨ event = .touched uniqueId ∧
      job.database.interactions.lookup uniqueId = some interaction) →
    job.database.indexRow interaction = some expiresAt → 0 < expiresAt →
      ∃ earlier, job.database.expiresAtIndex.lookup uniqueId = some earlier ∧ 0 < earlier ∧
        earlier ≤ expiresAt

end DisappearingMessagesJob

end ObjcSwiftLearning.SignalServiceKit
