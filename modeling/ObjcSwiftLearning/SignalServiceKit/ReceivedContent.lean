import ObjcSwiftLearning.SignalServiceKit.GroupMembership

/-!
# What a received envelope leaves in the database

`throws_processEnvelope:plaintextData:transaction:` handles what an envelope was decrypted to.
A data message leaves an incoming message, or an info message for what it announces.  A
transcript of a message that a linked device has sent leaves an outgoing message, or the info
message of a session that ended.  Either may differ from its conversation in the timer; then
it sets the timer, and leaves an info message that says so.

An envelope is ignored when there is an incoming message with its timestamp, from its source
and device.  No such check is made for the other interactions.

* `ContentDatabase` — the interactions, each with the job that left it, the groups and the
  timers.
* `ContentDatabase.processEnvelope` — what becomes of an envelope.
* `interactions_processJob` — **what one handling leaves**.

Only data messages and transcripts are followed; what else an envelope may contain leaves
nothing here.  An exception is raised before anything is saved, so it leaves nothing either.
-/

namespace ObjcSwiftLearning.SignalServiceKit

open AxolotlKit

/-! ## Data -/

structure OWSMessageContentJob where
  uniqueId : String
  createdAt : ℤ
  envelopeData : NSData
  plaintextData : Option NSData
  deriving DecidableEq

/-- `SSKProtoDataMessage`, with what decides on the interactions it leaves. -/
structure ContentDataMessage extends SSKProtoDataMessage where
  body : Option String
  /-- `0` when there is none. -/
  expireTimer : UInt32
  /-- Whether `contactForDataMessage:transaction:` finds a contact in it. -/
  hasContactShare : Bool
  groupAvatar : Option SSKProtoAttachmentPointer

structure SSKProtoSyncMessageSent where
  destination : Option String
  timestamp : UInt64
  message : Option ContentDataMessage

structure SSKProtoSyncMessage where
  sent : Option SSKProtoSyncMessageSent

structure SSKProtoContent where
  syncMessage : Option SSKProtoSyncMessage
  dataMessage : Option ContentDataMessage

/-- `parseData:error:` of the classes that are generated. -/
structure ProtoParser where
  parseEnvelope : NSData → Option SSKProtoEnvelope
  parseContent : NSData → Option SSKProtoContent
  parseDataMessage : NSData → Option ContentDataMessage

/-- The unique id of a `TSThread`. -/
inductive TSThreadId where
  | contact (contactId : String)
  | group (groupId : NSData)
  deriving DecidableEq

structure OWSDisappearingMessagesConfiguration where
  isEnabled : Bool
  durationSeconds : UInt32
  deriving DecidableEq

/-- `initDefaultWithThreadId:`; the duration is that of a day. -/
def OWSDisappearingMessagesConfiguration.initDefault : OWSDisappearingMessagesConfiguration where
  isEnabled := false
  durationSeconds := 86400

def OWSDisappearingMessagesConfiguration.changed
    (configuration : OWSDisappearingMessagesConfiguration) (duration : UInt32) :
    OWSDisappearingMessagesConfiguration :=
  if duration = 0 then { configuration with isEnabled := false }
  else { isEnabled := true, durationSeconds := duration }

/-- `TSInfoMessageType`, the two that content leaves. -/
inductive TSInfoMessageType where
  | sessionDidEnd
  | groupUpdate
  deriving DecidableEq

/-- What `OWSIncomingMessageFinder` has of an incoming message. -/
structure MessageKey where
  timestamp : UInt64
  sourceId : String
  sourceDeviceId : UInt32
  deriving DecidableEq

/-- A `TSInteraction` as it is saved. -/
inductive SavedInteraction where
  | incomingMessage (key : MessageKey) (thread : TSThreadId)
  | outgoingMessage (timestamp : UInt64) (thread : TSThreadId)
  | infoMessage (messageType : TSInfoMessageType) (thread : TSThreadId)
  | disappearingConfigurationUpdate (configuration : OWSDisappearingMessagesConfiguration)
      (thread : TSThreadId)
  deriving DecidableEq

def SavedInteraction.isTimerUpdate : SavedInteraction → Bool
  | .disappearingConfigurationUpdate _ _ => true
  | _ => false

def SavedInteraction.isIncoming (key : MessageKey) : SavedInteraction → Bool
  | .incomingMessage key' _ => key' = key
  | _ => false

/-- What the handling of content reads and writes. -/
structure ContentDatabase where
  /-- With the job that left each, which the database does not keep. -/
  interactions : List (OWSMessageContentJob × SavedInteraction)
  threads : GroupThreads
  /-- By the thread. -/
  configurations : TSThreadId → Option OWSDisappearingMessagesConfiguration

structure JobEnvironment where
  manager : OWSMessageManager
  isRegistered : Bool
  /-- Read after the job. -/
  isAppInBackground : Bool

/-! ## The content of an envelope -/

/-- What there is to be handled. -/
inductive ReceivedContent where
  | syncMessage (syncMessage : SSKProtoSyncMessage)
  | dataMessage (dataMessage : ContentDataMessage)
  /-- A call, a receipt and the like, or nothing that can be parsed. -/
  | other

/-- The cases of `throws_handleEnvelope:plaintextData:transaction:`. -/
def ProtoParser.receivedContent (parser : ProtoParser) (envelope : SSKProtoEnvelope)
    (plaintextData : NSData) : ReceivedContent :=
  if envelope.content.isSome then
    match parser.parseContent plaintextData with
    | none => .other
    | some contentProto =>
        match contentProto.syncMessage, contentProto.dataMessage with
        | some syncMessage, _ => .syncMessage syncMessage
        | none, some dataMessage => .dataMessage dataMessage
        | none, none => .other
  else if envelope.legacyMessage.isSome then
    match parser.parseDataMessage plaintextData with
    | none => .other
    | some dataMessage => .dataMessage dataMessage
  else .other

namespace ContentDataMessage

variable (dataMessage : ContentDataMessage)

/-- There is nothing to be shown. -/
def isEmpty (hasAttachmentIds : Bool) : Bool :=
  (dataMessage.body.getD "").isEmpty && !hasAttachmentIds && !dataMessage.hasContactShare

/-- What its group asks for is that it be delivered. -/
def isForConversation : Bool :=
  match dataMessage.group with
  | none => true
  | some group => group.id.length = 0 || group.type = .deliver

/-- The message is for its conversation, and announces nothing. -/
def isDelivered : Bool :=
  dataMessage.flags &&& sskProtoDataMessageFlagsEndSession = 0 &&
    dataMessage.flags &&& sskProtoDataMessageFlagsExpirationTimerUpdate = 0 &&
    dataMessage.flags &&& sskProtoDataMessageFlagsProfileKeyUpdate = 0 &&
    dataMessage.isForConversation

def transcriptAttachments : List SSKProtoAttachmentPointer :=
  match dataMessage.group, dataMessage.groupAvatar with
  | some group, some avatar =>
      if group.type = .update then [avatar] else dataMessage.attachments
  | _, _ => dataMessage.attachments

end ContentDataMessage

/-- The key of the incoming message that a job may leave: one, if it is of a data message that
is delivered. -/
def ProtoParser.messageKey (parser : ProtoParser) (job : OWSMessageContentJob) :
    Option MessageKey :=
  match parser.parseEnvelope job.envelopeData with
  | none => none
  | some envelope =>
      match envelope.source, envelope.sourceDevice, job.plaintextData with
      | some source, some sourceDevice, some plaintextData =>
          match parser.receivedContent envelope plaintextData with
          | .dataMessage dataMessage =>
              if dataMessage.isDelivered then
                some
                  { timestamp := envelope.timestamp
                    sourceId := source
                    sourceDeviceId := sourceDevice }
              else none
          | .syncMessage _ | .other => none
      | _, _, _ => none

namespace ContentDatabase

/-! ## Handling it -/

variable (manager : OWSMessageManager) (database : ContentDatabase) (job : OWSMessageContentJob)

/-- `saveWithTransaction:` of an interaction. -/
def save (interaction : SavedInteraction) : ContentDatabase :=
  { database with interactions := database.interactions ++ [(job, interaction)] }

def saveConfiguration (thread : TSThreadId)
    (configuration : OWSDisappearingMessagesConfiguration) : ContentDatabase :=
  { database with
    configurations := fun key =>
      if key = thread then some configuration else database.configurations key }

/-- `existsMessageWithTimestamp:sourceId:sourceDeviceId:transaction:`. -/
def existsMessage (key : MessageKey) : Bool :=
  database.interactions.any fun row => row.2.isIncoming key

def becomeConsistent (duration : UInt32) (thread : TSThreadId) : ContentDatabase :=
  let stored := (database.configurations thread).getD .initDefault
  let configuration := stored.changed duration
  if configuration = stored then database
  else
    (database.saveConfiguration thread configuration).save job
      (.disappearingConfigurationUpdate configuration thread)

section DataMessage

variable (envelope : SSKProtoEnvelope) (key : MessageKey) (dataMessage : ContentDataMessage)

/-- `threadForEnvelope:dataMessage:transaction:`. -/
def threadForEnvelope : Option TSThreadId :=
  match dataMessage.group with
  | some group => if (database.threads group.id).isSome then some (.group group.id) else none
  | none => some (.contact key.sourceId)

/-- `handleExpirationTimerUpdateMessageWithEnvelope:dataMessage:transaction:`. -/
def handleExpirationTimerUpdateMessage : ContentDatabase :=
  match database.threadForEnvelope key dataMessage with
  | none => database
  | some thread =>
      let configuration : OWSDisappearingMessagesConfiguration :=
        if 0 < dataMessage.expireTimer then
          { isEnabled := true, durationSeconds := dataMessage.expireTimer }
        else .initDefault
      (database.saveConfiguration thread configuration).save job
        (.disappearingConfigurationUpdate configuration thread)

/-- `finalizeIncomingMessage:thread:envelope:transaction:` of the message made of the data. -/
def finalizeIncomingMessage (thread : TSThreadId) : ContentDatabase :=
  (database.save job (.incomingMessage key thread)).becomeConsistent job
    dataMessage.expireTimer thread

/-- The message is not of a group, or its group has no id. -/
def handleContactMessage (hasAttachmentIds : Bool) : ContentDatabase :=
  if dataMessage.isEmpty hasAttachmentIds then database
  else database.finalizeIncomingMessage job key dataMessage (.contact key.sourceId)

/-- The types that `handleReceivedEnvelope:…` switches on. -/
def handleGroupMessage (group : SSKProtoGroupContext) (hasAttachmentIds : Bool) :
    ContentDatabase :=
  match group.type with
  | .update =>
      let updated := database.save job (.infoMessage .groupUpdate (.group group.id))
      if 0 < dataMessage.expireTimer then
        updated.becomeConsistent job dataMessage.expireTimer (.group group.id)
      else updated
  | .quit =>
      if (database.threads group.id).isNone then database
      else database.save job (.infoMessage .groupUpdate (.group group.id))
  | .deliver =>
      -- A message for an unknown group is dropped.
      if (database.threads group.id).isNone then database
      else if dataMessage.isEmpty hasAttachmentIds then database
      else database.finalizeIncomingMessage job key dataMessage (.group group.id)
  | .unknown | .requestInfo => database

/-- `handleReceivedEnvelope:withDataMessage:attachmentIds:transaction:`.  The answer to a
request for information is not saved. -/
def handleReceivedEnvelope (hasAttachmentIds : Bool) : ContentDatabase :=
  match dataMessage.group with
  | none => database.handleContactMessage job key dataMessage hasAttachmentIds
  | some group =>
      if group.type = .requestInfo then database
      else if group.id.length = 0 then
        database.handleContactMessage job key dataMessage hasAttachmentIds
      else if group.members.any (!manager.isValidE164 ·) then database
      else database.handleGroupMessage job key dataMessage group hasAttachmentIds

/-- `handleReceivedMediaWithEnvelope:dataMessage:transaction:`. -/
def handleReceivedMedia : ContentDatabase :=
  match database.threadForEnvelope key dataMessage with
  | none => database
  | some _ =>
      if !manager.hasSupportedAttachments dataMessage.attachments then database
      else database.handleReceivedEnvelope manager job key dataMessage true

/-- The kinds of data messages. -/
def handleFlags : ContentDatabase :=
  if dataMessage.flags &&& sskProtoDataMessageFlagsEndSession ≠ 0 then
    database.save job (.infoMessage .sessionDidEnd (.contact key.sourceId))
  else if dataMessage.flags &&& sskProtoDataMessageFlagsExpirationTimerUpdate ≠ 0 then
    database.handleExpirationTimerUpdateMessage job key dataMessage
  else if dataMessage.flags &&& sskProtoDataMessageFlagsProfileKeyUpdate ≠ 0 then database
  else if 0 < dataMessage.attachments.length then
    database.handleReceivedMedia manager job key dataMessage
  else database.handleReceivedEnvelope manager job key dataMessage false

/-- What `handleIncomingEnvelope:withDataMessage:transaction:` ignores. -/
def ignores : Bool :=
  manager.isDataMessageBlocked envelope dataMessage.toSSKProtoDataMessage ||
    OWSMessageManager.hasInvalidTimestamp envelope dataMessage.toSSKProtoDataMessage ||
    match dataMessage.group with
    | none => false
    | some group =>
        group.type ≠ .update &&
          match database.threads group.id with
          | some groupModel => manager.localNumber ∉ groupModel.groupMemberIds
          | none => true

/-- `handleIncomingEnvelope:withDataMessage:transaction:`. -/
def handleDataMessage : ContentDatabase :=
  if database.ignores manager envelope dataMessage then database
  else
    { database.handleFlags manager job key dataMessage with
      threads := manager.handleIncomingEnvelope database.threads envelope
        dataMessage.toSSKProtoDataMessage }

end DataMessage

section SyncMessage

def getOrCreateGroupThread (groupId : NSData) : ContentDatabase :=
  if (database.threads groupId).isSome then database
  else
    { database with
      threads := database.threads.save groupId
        { groupName := none
          groupMemberIds := {manager.localNumber}
          groupImage := none
          groupId } }

/-- `runWithAttachmentHandler:transaction:` of `OWSRecordTranscriptJob`. -/
def recordTranscript (timestamp : UInt64) (thread : TSThreadId)
    (dataMessage : ContentDataMessage) : ContentDatabase :=
  if dataMessage.flags &&& sskProtoDataMessageFlagsEndSession ≠ 0 then
    database.save job (.infoMessage .sessionDidEnd thread)
  else if dataMessage.flags &&& sskProtoDataMessageFlagsExpirationTimerUpdate ≠ 0 then
    database.becomeConsistent job dataMessage.expireTimer thread
  else if dataMessage.isEmpty
      (manager.hasSupportedAttachments dataMessage.transcriptAttachments) then database
  else
    (database.save job (.outgoingMessage timestamp thread)).becomeConsistent job
      dataMessage.expireTimer thread

/-- `throws_handleIncomingEnvelope:withSyncMessage:transaction:`.  A transcript is of a group,
or it needs a destination: without one an exception is raised. -/
def handleSyncMessage (sourceId : String) (syncMessage : SSKProtoSyncMessage) :
    ContentDatabase :=
  if manager.localNumber ≠ sourceId then database
  else
    match syncMessage.sent with
    | none => database
    | some sent =>
        match sent.message with
        | none => database
        | some dataMessage =>
            match dataMessage.group, sent.destination with
            | some group, _ =>
                (database.getOrCreateGroupThread manager group.id).recordTranscript manager job
                  sent.timestamp (.group group.id) dataMessage
            | none, some destination =>
                database.recordTranscript manager job sent.timestamp (.contact destination)
                  dataMessage
            | none, none => database

end SyncMessage

variable (parser : ProtoParser)

/-- `throws_handleEnvelope:plaintextData:transaction:`. -/
def handleEnvelope (envelope : SSKProtoEnvelope) (key : MessageKey) (plaintextData : NSData) :
    ContentDatabase :=
  if envelope.timestamp < 1 then database
  else if database.existsMessage key then database
  else
    match parser.receivedContent envelope plaintextData with
    | .syncMessage syncMessage => database.handleSyncMessage manager job key.sourceId syncMessage
    | .dataMessage dataMessage =>
        database.handleDataMessage manager job envelope key dataMessage
    | .other => database

def hasContentType (envelope : SSKProtoEnvelope) : Bool :=
  match envelope.type with
  | .ciphertext | .prekeyBundle | .unidentifiedSender => true
  | .receipt | .keyExchange | .unknown => false

/-- `throws_processEnvelope:plaintextData:transaction:`. -/
def processEnvelope (environment : JobEnvironment) (envelope : SSKProtoEnvelope) :
    ContentDatabase :=
  if !environment.isRegistered then database
  else
    match envelope.source, envelope.sourceDevice, job.plaintextData with
    | some source, some sourceDevice, some plaintextData =>
        if source.length < 1 ∨ environment.manager.isValidE164 source = false then database
        else if sourceDevice < 1 then database
        else if !hasContentType envelope then database
        else
          database.handleEnvelope environment.manager job parser envelope
            { timestamp := envelope.timestamp
              sourceId := source
              sourceDeviceId := sourceDevice } plaintextData
    | _, _, _ => database

/-- The body of the loop of `processJobs:`. -/
def processJob (environment : JobEnvironment) : ContentDatabase :=
  match parser.parseEnvelope job.envelopeData with
  | none => database
  | some envelope => database.processEnvelope job parser environment envelope

/-! ## What one handling leaves -/

/-- There is at most one info message, and it says that a timer was set. -/
def AtMostOneTimerUpdate (updates : List SavedInteraction) : Prop :=
  updates = [] ∨ ∃ configuration thread,
    updates = [.disappearingConfigurationUpdate configuration thread]

/-- What content leaves: nothing, or one interaction of its own, or one that says that a timer
was set, or both.  Only a message that is delivered leaves an incoming message. -/
inductive Left (key : MessageKey) (isDelivered : Bool) : List SavedInteraction → Prop
  | nothing : Left key isDelivered []
  | incoming {thread : TSThreadId} {updates : List SavedInteraction}
      (hdelivered : isDelivered = true) (hupdates : AtMostOneTimerUpdate updates) :
      Left key isDelivered (.incomingMessage key thread :: updates)
  | outgoing {timestamp : UInt64} {thread : TSThreadId} {updates : List SavedInteraction}
      (hdelivered : isDelivered = false) (hupdates : AtMostOneTimerUpdate updates) :
      Left key isDelivered (.outgoingMessage timestamp thread :: updates)
  | info {messageType : TSInfoMessageType} {thread : TSThreadId}
      {updates : List SavedInteraction} (hdelivered : isDelivered = false)
      (hupdates : AtMostOneTimerUpdate updates) :
      Left key isDelivered (.infoMessage messageType thread :: updates)
  | timerUpdate {updates : List SavedInteraction} (hdelivered : isDelivered = false)
      (hupdates : AtMostOneTimerUpdate updates) :
      Left key isDelivered updates

def Leaves (database : ContentDatabase) (job : OWSMessageContentJob)
    (p : List SavedInteraction → Prop) (database' : ContentDatabase) : Prop :=
  ∃ left, p left ∧ database'.interactions = database.interactions ++ left.map (Prod.mk job)

variable {manager database job parser} {key : MessageKey} {isDelivered : Bool}

theorem leaves_self : database.Leaves job (Left key isDelivered) database :=
  ⟨[], .nothing, by simp⟩

@[simp] theorem interactions_save (interaction : SavedInteraction) :
    (database.save job interaction).interactions =
      database.interactions ++ [(job, interaction)] := rfl

@[simp] theorem interactions_saveConfiguration (thread : TSThreadId)
    (configuration : OWSDisappearingMessagesConfiguration) :
    (database.saveConfiguration thread configuration).interactions = database.interactions := rfl

theorem leaves_becomeConsistent (duration : UInt32) (thread : TSThreadId) :
    database.Leaves job AtMostOneTimerUpdate (database.becomeConsistent job duration thread) := by
  unfold becomeConsistent
  dsimp only
  split
  · exact ⟨[], .inl rfl, by simp⟩
  · exact ⟨[_], .inr ⟨_, _, rfl⟩, rfl⟩

theorem leaves_save_becomeConsistent {interaction : SavedInteraction} {duration : UInt32}
    {thread : TSThreadId}
    (h : ∀ updates, AtMostOneTimerUpdate updates → Left key isDelivered (interaction :: updates)) :
    database.Leaves job (Left key isDelivered)
      ((database.save job interaction).becomeConsistent job duration thread) := by
  obtain ⟨updates, hupdates, heq⟩ := @leaves_becomeConsistent (database.save job interaction) job
    duration thread
  exact ⟨interaction :: updates, h updates hupdates, by simp [heq]⟩

section DataMessage

variable {envelope : SSKProtoEnvelope} {dataMessage : ContentDataMessage}
  {hasAttachmentIds : Bool}

theorem leaves_handleContactMessage :
    database.Leaves job (Left key true)
      (database.handleContactMessage job key dataMessage hasAttachmentIds) := by
  unfold handleContactMessage
  split
  · exact leaves_self
  · exact leaves_save_becomeConsistent fun _ => .incoming rfl

theorem leaves_handleGroupMessage (group : SSKProtoGroupContext) :
    database.Leaves job (Left key (group.type = .deliver))
      (database.handleGroupMessage job key dataMessage group hasAttachmentIds) := by
  unfold handleGroupMessage
  cases htype : group.type with
  | update =>
      dsimp only
      split
      · exact leaves_save_becomeConsistent fun _ => .info (by simp)
      · exact ⟨[_], .info (by simp) (.inl rfl), rfl⟩
  | quit =>
      dsimp only
      split
      · exact leaves_self
      · exact ⟨[_], .info (by simp) (.inl rfl), rfl⟩
  | deliver =>
      dsimp only
      split
      · exact leaves_self
      split
      · exact leaves_self
      · exact leaves_save_becomeConsistent fun _ => .incoming (by simp)
  | unknown | requestInfo => exact leaves_self

theorem leaves_handleReceivedEnvelope :
    database.Leaves job (Left key dataMessage.isForConversation)
      (database.handleReceivedEnvelope manager job key dataMessage hasAttachmentIds) := by
  unfold handleReceivedEnvelope ContentDataMessage.isForConversation
  cases dataMessage.group with
  | none => exact leaves_handleContactMessage
  | some group =>
      dsimp only
      split
      · exact leaves_self
      split
      · next hid => simpa [hid] using leaves_handleContactMessage
      split
      · exact leaves_self
      · next hid _ => simpa [hid] using leaves_handleGroupMessage group

theorem leaves_handleFlags :
    database.Leaves job (Left key dataMessage.isDelivered)
      (database.handleFlags manager job key dataMessage) := by
  unfold handleFlags
  split
  · next hflag =>
      have hdelivered : dataMessage.isDelivered = false := by
        simp [ContentDataMessage.isDelivered, hflag]
      exact ⟨[_], .info hdelivered (.inl rfl), rfl⟩
  split
  · next hflag =>
      have hdelivered : dataMessage.isDelivered = false := by
        simp [ContentDataMessage.isDelivered, hflag]
      unfold handleExpirationTimerUpdateMessage
      split
      · exact leaves_self
      · exact ⟨[_], .timerUpdate hdelivered (.inr ⟨_, _, rfl⟩), rfl⟩
  split
  · exact leaves_self
  next hsession htimer hprofile =>
    have hdelivered : dataMessage.isDelivered = dataMessage.isForConversation := by
      simp [ContentDataMessage.isDelivered, not_not.mp hsession, not_not.mp htimer,
        not_not.mp hprofile]
    rw [hdelivered]
    split
    · unfold handleReceivedMedia
      split
      · exact leaves_self
      split
      · exact leaves_self
      · exact leaves_handleReceivedEnvelope
    · exact leaves_handleReceivedEnvelope

theorem leaves_handleDataMessage :
    database.Leaves job (Left key dataMessage.isDelivered)
      (database.handleDataMessage manager job envelope key dataMessage) := by
  unfold handleDataMessage
  split
  · exact leaves_self
  · exact leaves_handleFlags

end DataMessage

/-- A transcript leaves no incoming message. -/
theorem leaves_recordTranscript {timestamp : UInt64} {thread : TSThreadId}
    {dataMessage : ContentDataMessage} :
    database.Leaves job (Left key false)
      (database.recordTranscript manager job timestamp thread dataMessage) := by
  unfold recordTranscript
  split
  · exact ⟨[_], .info rfl (.inl rfl), rfl⟩
  split
  · obtain ⟨updates, hupdates, heq⟩ :=
      @leaves_becomeConsistent database job dataMessage.expireTimer thread
    exact ⟨updates, .timerUpdate rfl hupdates, heq⟩
  split
  · exact leaves_self
  · exact leaves_save_becomeConsistent fun _ => .outgoing rfl

theorem leaves_handleSyncMessage {sourceId : String} {syncMessage : SSKProtoSyncMessage} :
    database.Leaves job (Left key false)
      (database.handleSyncMessage manager job sourceId syncMessage) := by
  unfold handleSyncMessage
  split
  · exact leaves_self
  split
  · exact leaves_self
  split
  · exact leaves_self
  split
  · have hinteractions : ∀ groupId,
        (database.getOrCreateGroupThread manager groupId).interactions = database.interactions := by
      intro groupId
      unfold getOrCreateGroupThread
      split
      · rfl
      · rfl
    obtain ⟨left, hleft, heq⟩ := leaves_recordTranscript
    exact ⟨left, hleft, by rw [heq, hinteractions]⟩
  · exact leaves_recordTranscript
  · exact leaves_self

/-- What a job leaves: an incoming message only with its key, and if there is none yet. -/
inductive LeftByJob (parser : ProtoParser) (database : ContentDatabase)
    (job : OWSMessageContentJob) : List SavedInteraction → Prop
  | nothing : LeftByJob parser database job []
  | delivered {key : MessageKey} {left : List SavedInteraction}
      (hkey : parser.messageKey job = some key) (hnew : database.existsMessage key = false)
      (hleft : Left key true left) : LeftByJob parser database job left
  | announced {key : MessageKey} {left : List SavedInteraction}
      (hkey : parser.messageKey job = none) (hleft : Left key false left) :
      LeftByJob parser database job left

theorem leaves_nothing : database.Leaves job (LeftByJob parser database job) database :=
  ⟨[], .nothing, by simp⟩

/-- **What one handling leaves.** -/
theorem leaves_processJob {environment : JobEnvironment} :
    database.Leaves job (LeftByJob parser database job)
      (database.processJob job parser environment) := by
  unfold processJob
  cases hparse : parser.parseEnvelope job.envelopeData with
  | none => exact leaves_nothing
  | some envelope =>
  unfold processEnvelope
  dsimp only
  split
  · exact leaves_nothing
  split
  · next source sourceDevice plaintextData hsource hdevice hplaintext =>
      split
      · exact leaves_nothing
      split
      · exact leaves_nothing
      split
      · exact leaves_nothing
      unfold handleEnvelope
      split
      · exact leaves_nothing
      split
      · exact leaves_nothing
      -- What is left to handle is an envelope that is not a duplicate.
      next hnew =>
        have hkey : parser.messageKey job =
            match parser.receivedContent envelope plaintextData with
            | .dataMessage dataMessage =>
                if dataMessage.isDelivered then
                  some
                    { timestamp := envelope.timestamp
                      sourceId := source
                      sourceDeviceId := sourceDevice }
                else none
            | .syncMessage _ | .other => none := by
          simp only [ProtoParser.messageKey, hparse, hsource, hdevice, hplaintext]
        cases hcontent : parser.receivedContent envelope plaintextData with
        | syncMessage syncMessage =>
            obtain ⟨left, hleft, heq⟩ := @leaves_handleSyncMessage environment.manager database
              job ⟨envelope.timestamp, source, sourceDevice⟩ source syncMessage
            exact ⟨left, .announced (by rw [hkey, hcontent]) hleft, heq⟩
        | dataMessage dataMessage =>
            obtain ⟨left, hleft, heq⟩ := leaves_handleDataMessage
            refine ⟨left, ?_, heq⟩
            simp only [hcontent] at hkey
            cases hdelivered : dataMessage.isDelivered with
            | true =>
                rw [hdelivered] at hkey hleft
                exact .delivered hkey (by simpa using hnew) hleft
            | false =>
                rw [hdelivered] at hkey hleft
                exact .announced hkey hleft
        | other => exact leaves_nothing
  · exact leaves_nothing

end ContentDatabase

end ObjcSwiftLearning.SignalServiceKit
