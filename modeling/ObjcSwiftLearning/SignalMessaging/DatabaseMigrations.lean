import ObjcSwiftLearning.SignalServiceKit.SendToService
import ObjcSwiftLearning.SignalServiceKit.Stores

/-!
# Database migrations

At each launch the migrations that have not been recorded run, one after the other.  Most make
their changes in one transaction and are recorded in the next; others wait for the network, for
the main queue, or go through a collection in batches.

* `MigratedDatabase` — what the migrations read and write.
* `ResaveBatch.resaveRecord` — one turn of the loop of a batch.
* `MigrationPhase`, `MigrationLaunch` — how far a launch is.
* `MigrationWorld.Step` — what happens; a launch may be killed at any time.
-/

namespace ObjcSwiftLearning.SignalMessaging

open AxolotlKit SignalServiceKit

/-! ## What is stored -/

/-- `OWSSound`, as far as it is set. -/
inductive OWSSound where
  | signalClassic
  | other (rawValue : ℕ)
  deriving DecidableEq

/-- `TSOutgoingMessage`. -/
structure ResavedMessage where
  groupMetaMessage : TSGroupMetaMessage
  /-- Its class is never saved. -/
  isTransient : Bool
  archive : NSData

def ResavedMessage.shouldBeSaved (message : ResavedMessage) : Bool :=
  !message.isTransient &&
    (message.groupMetaMessage == .deliver || message.groupMetaMessage == .unspecified)

/-- An object in the collection of `TSInteraction`.  Outgoing messages get there only by
`saveWithTransaction:`. -/
inductive ResavedInteraction where
  | outgoing (message : ResavedMessage) (saved : message.shouldBeSaved = true)
  | other (archive : NSData)

/-- `isKindOfClass:[TSOutgoingMessage class]`. -/
def ResavedInteraction.isOutgoing : ResavedInteraction → Bool
  | outgoing _ _ => true
  | other _ => false

/-- `TSAttachment`, with whether its path is stored. -/
structure MigratedAttachment where
  isStream : Bool
  hasLocalRelativeFilePath : Bool

inductive OWSDatabaseMigration where
  | removeTSRecipients
  | moveLoggingPreferenceToUserDefaults
  | enableVideoCalling
  | createRecipientIdentities
  | attachmentFilePaths
  | ensureProfileComplete
  | legacySounds
  | callLoggingPreference
  | outgoingMessageState
  | udAttributes
  | typingIndicators
  deriving DecidableEq

namespace OWSDatabaseMigration

def migrationId : OWSDatabaseMigration → String
  | removeTSRecipients => "100"
  | moveLoggingPreferenceToUserDefaults => "102"
  | enableVideoCalling => "103"
  | createRecipientIdentities => "104"
  | attachmentFilePaths => "105"
  | ensureProfileComplete => "106"
  | legacySounds => "107"
  | callLoggingPreference => "108"
  | outgoingMessageState => "109"
  | udAttributes => "111.1"
  | typingIndicators => "112"

def allMigrations : List OWSDatabaseMigration :=
  [removeTSRecipients, moveLoggingPreferenceToUserDefaults, enableVideoCalling,
    createRecipientIdentities, attachmentFilePaths, ensureProfileComplete, legacySounds,
    callLoggingPreference, outgoingMessageState, udAttributes, typingIndicators]

/-- It does not override `runUpWithCompletion:`. -/
def isPlain : OWSDatabaseMigration → Bool
  | removeTSRecipients | moveLoggingPreferenceToUserDefaults | createRecipientIdentities
  | attachmentFilePaths | legacySounds | callLoggingPreference => true
  | _ => false

end OWSDatabaseMigration

/-- What the migrations read and write, with the preference that is kept beside the database. -/
structure MigratedDatabase where
  /-- The ids in the collection `OWSDatabaseMigration`. -/
  migrations : List String
  tsRecipients : List String
  enableDebugLog : Option Bool
  isLoggingEnabled : Option Bool
  /-- The objects that are data. -/
  trustedKeys : AList fun _ : String => Option NSData
  recipientIdentities : AList fun _ : String => OWSRecipientIdentity
  attachments : AList fun _ : String => MigratedAttachment
  /-- The signed prekeys, each with whether the service has accepted it. -/
  signedPreKeys : AList fun _ : ℕ => Bool
  currentSignedPrekeyId : Option ℕ
  globalNotificationSound : Option OWSSound
  callKitEnabled : Option Bool
  callKitPrivacyEnabled : Option Bool
  systemCallLogEnabled : Option Bool
  interactions : AList fun _ : String => ResavedInteraction
  needsAccountAttributesUpdate : Bool
  typingIndicatorsEnabled : Option Bool

namespace MigratedDatabase

variable (database : MigratedDatabase)

def HasRun (migration : OWSDatabaseMigration) : Prop :=
  migration.migrationId ∈ database.migrations

def IsOutgoing (messageId : String) : Prop :=
  ∃ interaction, database.interactions.lookup messageId = some interaction ∧
    interaction.isOutgoing = true

def save (migration : OWSDatabaseMigration) : MigratedDatabase :=
  { database with
    migrations := migration.migrationId :: database.migrations.erase migration.migrationId }

def runUpWithTransaction : OWSDatabaseMigration → MigratedDatabase
  | .removeTSRecipients => { database with tsRecipients := [] }
  | .moveLoggingPreferenceToUserDefaults =>
      { database with isLoggingEnabled := database.enableDebugLog <|> database.isLoggingEnabled }
  | .createRecipientIdentities =>
      { database with
        recipientIdentities := database.recipientIdentities.insertValues
          (database.trustedKeys.keysWhere Option.isSome) fun recipientId =>
            { identityKey := (database.trustedKeys.lookup recipientId).join
              isFirstKnownKey := false
              createdAt := 0
              verificationState := .default } }
  | .attachmentFilePaths =>
      { database with
        attachments := database.attachments.mapValues fun _ attachment =>
          if attachment.isStream then { attachment with hasLocalRelativeFilePath := true }
          else attachment }
  | .legacySounds => { database with globalNotificationSound := some .signalClassic }
  | .callLoggingPreference =>
      { database with
        systemCallLogEnabled :=
          some (database.callKitEnabled.getD true && !database.callKitPrivacyEnabled.getD true) }
  | _ => database

end MigratedDatabase

/-! ## Saving again in batches -/

/-- A batch: the collection, the ids that are left, and those whose objects were saved. -/
structure ResaveBatch where
  interactions : AList fun _ : String => ResavedInteraction
  recordIds : List String
  saved : List String

namespace ResaveBatch

/-- One turn: the last id is taken, and its object saved where the filter lets it pass. -/
def resaveRecord (batch : ResaveBatch) : ResaveBatch :=
  match batch.recordIds.getLast? with
  | none => batch
  | some messageId =>
      match batch.interactions.lookup messageId with
      | some (.outgoing message saved) =>
          { interactions := batch.interactions.insert messageId (.outgoing message saved)
            recordIds := batch.recordIds.dropLast
            saved := batch.saved ++ [messageId] }
      | _ => { batch with recordIds := batch.recordIds.dropLast }

/-- The transaction of `resaveBatch:`. -/
@[irreducible] def resaveBatch (interactions : AList fun _ : String => ResavedInteraction)
    (recordIds : List String) : ResaveBatch :=
  resaveRecord^[1000] ⟨interactions, recordIds, []⟩

end ResaveBatch

/-! ## How far a launch is -/

/-- How far a migration is that is under way. -/
inductive MigrationPhase where
  | transaction
  /-- The attributes are being sent. -/
  | attributesRequest
  /-- The profile is being fetched. -/
  | profileRequest
  /-- Prekeys are to be created. -/
  | preKeysCreation
  /-- This signed prekey is being sent. -/
  | preKeysRequest (signedPreKeyId : ℕ)
  /-- The ids of the records are to be collected. -/
  | collection
  | batches (recordIds : List String)
  | attributesUpdate
  | typingIndicatorsOff
  /-- It is to be recorded. -/
  | save
  | completion
  deriving DecidableEq

/-- `runUpWithCompletion:`, up to what it waits for. -/
def OWSDatabaseMigration.runUp (isRegistered hasLocalNumber : Bool) :
    OWSDatabaseMigration → MigrationPhase
  | .enableVideoCalling => if isRegistered then .attributesRequest else .save
  | .ensureProfileComplete =>
      if isRegistered then if hasLocalNumber then .profileRequest else .save else .save
  | .outgoingMessageState => .collection
  | .udAttributes => .attributesUpdate
  | .typingIndicators => .typingIndicatorsOff
  | _ => .transaction

/-- `resaveBatch:` where there are ids left, and its completion where there are none. -/
def MigrationPhase.ofRecordIds : List String → MigrationPhase
  | [] => .save
  | recordId :: recordIds => .batches (recordId :: recordIds)

inductive MigrationLaunch where
  | notRunning
  | runMigrations (migrations : List OWSDatabaseMigration)
  | runUp (migration : OWSDatabaseMigration) (phase : MigrationPhase)
      (migrations : List OWSDatabaseMigration)
  /-- The completion is on the main queue. -/
  | completing
  | completed
  deriving DecidableEq

/-- What comes of fetching the local profile. -/
inductive ProfileOutcome where
  | complete
  | invalidIdentityKey
  /-- `TSNetworkManagerErrorDomain`, 401. -/
  | unauthorized
  | otherError
  deriving DecidableEq

/-- What happens. -/
inductive MigrationEvent where
  | launch
  | kill
  | noMoreMigrations
  | complete
  | skip (migration : OWSDatabaseMigration)
  | start (migration : OWSDatabaseMigration) (isRegistered hasLocalNumber : Bool)
  | transaction (migration : OWSDatabaseMigration)
  | attributesSent (succeeds : Bool)
  | profileFetched (outcome : ProfileOutcome)
  | preKeysStored (signedPreKeyId : ℕ)
  | preKeysSent (succeeds : Bool)
  | collect (recordIds : List String)
  | resave (saved : List String)
  | requestAttributesUpdate
  | disableTypingIndicators
  | record (migration : OWSDatabaseMigration)
  | finish (migration : OWSDatabaseMigration)
  | insert (messageId : String) (message : ResavedMessage)
  | change (messageId : String) (message : ResavedMessage)
  | delete (messageId : String)
  | attributesUpdated

namespace MigrationEvent

/-- A step of the launch that is running. -/
def isOfLaunch : MigrationEvent → Bool
  | launch | kill | insert _ _ | change _ _ | delete _ | attributesUpdated => false
  | _ => true

/-- An outgoing message is inserted, changed or deleted beside the migrations. -/
def isOfMessage : MigrationEvent → Bool
  | insert _ _ | change _ _ | delete _ => true
  | _ => false

def isLaunch : MigrationEvent → Bool
  | launch => true
  | _ => false

def starts (migration : OWSDatabaseMigration) : MigrationEvent → Bool
  | start migration' _ _ => migration' == migration
  | _ => false

def started? : MigrationEvent → Option OWSDatabaseMigration
  | start migration _ _ => some migration
  | _ => none

end MigrationEvent

/-! ## Steps -/

/-- What is stored, and the launch that is running. -/
structure MigrationWorld where
  database : MigratedDatabase
  launch : MigrationLaunch

namespace MigrationWorld

open OWSDatabaseMigration

/-- What happens. -/
inductive Step : MigrationWorld → MigrationEvent → MigrationWorld → Prop
  | launch {database : MigratedDatabase} :
      Step ⟨database, .notRunning⟩ .launch ⟨database, .runMigrations allMigrations⟩
  | kill {database : MigratedDatabase} {launch : MigrationLaunch}
      (hrunning : launch ≠ .notRunning) :
      Step ⟨database, launch⟩ .kill ⟨database, .notRunning⟩
  | noMoreMigrations {database : MigratedDatabase} :
      Step ⟨database, .runMigrations []⟩ .noMoreMigrations ⟨database, .completing⟩
  | complete {database : MigratedDatabase} :
      Step ⟨database, .completing⟩ .complete ⟨database, .completed⟩
  | skip {database : MigratedDatabase} {migration : OWSDatabaseMigration}
      {migrations : List OWSDatabaseMigration} (hrun : database.HasRun migration) :
      Step ⟨database, .runMigrations (migration :: migrations)⟩ (.skip migration)
        ⟨database, .runMigrations migrations⟩
  | start {database : MigratedDatabase} {migration : OWSDatabaseMigration}
      {migrations : List OWSDatabaseMigration} (isRegistered hasLocalNumber : Bool)
      (hrun : ¬database.HasRun migration) :
      Step ⟨database, .runMigrations (migration :: migrations)⟩
        (.start migration isRegistered hasLocalNumber)
        ⟨database, .runUp migration (migration.runUp isRegistered hasLocalNumber) migrations⟩
  | transaction {database : MigratedDatabase} {migration : OWSDatabaseMigration}
      {migrations : List OWSDatabaseMigration} :
      Step ⟨database, .runUp migration .transaction migrations⟩ (.transaction migration)
        ⟨database.runUpWithTransaction migration, .runUp migration .save migrations⟩
  | attributesSent {database : MigratedDatabase} {migrations : List OWSDatabaseMigration}
      (succeeds : Bool) :
      Step ⟨database, .runUp enableVideoCalling .attributesRequest migrations⟩
        (.attributesSent succeeds)
        ⟨database, .runUp enableVideoCalling (if succeeds then .save else .completion) migrations⟩
  | profileFetched {database : MigratedDatabase} {migrations : List OWSDatabaseMigration}
      (outcome : ProfileOutcome) :
      Step ⟨database, .runUp ensureProfileComplete .profileRequest migrations⟩
        (.profileFetched outcome)
        ⟨database, .runUp ensureProfileComplete
          (match outcome with
          | .complete | .unauthorized => .save
          | .invalidIdentityKey => .preKeysCreation
          | .otherError => .completion) migrations⟩
  | preKeysStored {database : MigratedDatabase} {migrations : List OWSDatabaseMigration}
      (signedPreKeyId : ℕ) :
      Step ⟨database, .runUp ensureProfileComplete .preKeysCreation migrations⟩
        (.preKeysStored signedPreKeyId)
        ⟨{ database with signedPreKeys := database.signedPreKeys.insert signedPreKeyId false },
          .runUp ensureProfileComplete (.preKeysRequest signedPreKeyId) migrations⟩
  | preKeysAccepted {database : MigratedDatabase} {migrations : List OWSDatabaseMigration}
      {signedPreKeyId : ℕ} :
      Step ⟨database, .runUp ensureProfileComplete (.preKeysRequest signedPreKeyId) migrations⟩
        (.preKeysSent true)
        ⟨{ database with
            signedPreKeys := database.signedPreKeys.insert signedPreKeyId true
            currentSignedPrekeyId := some signedPreKeyId },
          .runUp ensureProfileComplete .save migrations⟩
  | preKeysFailed {database : MigratedDatabase} {migrations : List OWSDatabaseMigration}
      {signedPreKeyId : ℕ} :
      Step ⟨database, .runUp ensureProfileComplete (.preKeysRequest signedPreKeyId) migrations⟩
        (.preKeysSent false)
        ⟨database, .runUp ensureProfileComplete .completion migrations⟩
  | collect {database : MigratedDatabase} {migrations : List OWSDatabaseMigration}
      (recordIds : List String) (hkeys : recordIds.Perm database.interactions.keys) :
      Step ⟨database, .runUp outgoingMessageState .collection migrations⟩ (.collect recordIds)
        ⟨database, .runUp outgoingMessageState (.ofRecordIds recordIds) migrations⟩
  | resave {database : MigratedDatabase} {migrations : List OWSDatabaseMigration}
      {recordIds : List String} :
      Step ⟨database, .runUp outgoingMessageState (.batches recordIds) migrations⟩
        (.resave (ResaveBatch.resaveBatch database.interactions recordIds).saved)
        ⟨{ database with
            interactions := (ResaveBatch.resaveBatch database.interactions recordIds).interactions },
          .runUp outgoingMessageState
            (.ofRecordIds (ResaveBatch.resaveBatch database.interactions recordIds).recordIds)
            migrations⟩
  | requestAttributesUpdate {database : MigratedDatabase}
      {migrations : List OWSDatabaseMigration} :
      Step ⟨database, .runUp udAttributes .attributesUpdate migrations⟩ .requestAttributesUpdate
        ⟨{ database with needsAccountAttributesUpdate := true },
          .runUp udAttributes .save migrations⟩
  | disableTypingIndicators {database : MigratedDatabase}
      {migrations : List OWSDatabaseMigration} :
      Step ⟨database, .runUp typingIndicators .typingIndicatorsOff migrations⟩
        .disableTypingIndicators
        ⟨{ database with typingIndicatorsEnabled := some false },
          .runUp typingIndicators .save migrations⟩
  | record {database : MigratedDatabase} {migration : OWSDatabaseMigration}
      {migrations : List OWSDatabaseMigration} :
      Step ⟨database, .runUp migration .save migrations⟩ (.record migration)
        ⟨database.save migration, .runUp migration .completion migrations⟩
  | finish {database : MigratedDatabase} {migration : OWSDatabaseMigration}
      {migrations : List OWSDatabaseMigration} :
      Step ⟨database, .runUp migration .completion migrations⟩ (.finish migration)
        ⟨database, .runMigrations migrations⟩
  | insert {database : MigratedDatabase} {launch : MigrationLaunch} (messageId : String)
      (message : ResavedMessage) (hnew : database.interactions.lookup messageId = none)
      (saved : message.shouldBeSaved = true) :
      Step ⟨database, launch⟩ (.insert messageId message)
        ⟨{ database with
            interactions := database.interactions.insert messageId (.outgoing message saved) },
          launch⟩
  | change {database : MigratedDatabase} {launch : MigrationLaunch} (messageId : String)
      (message : ResavedMessage) (hold : database.IsOutgoing messageId)
      (saved : message.shouldBeSaved = true) :
      Step ⟨database, launch⟩ (.change messageId message)
        ⟨{ database with
            interactions := database.interactions.insert messageId (.outgoing message saved) },
          launch⟩
  | delete {database : MigratedDatabase} {launch : MigrationLaunch} (messageId : String)
      (hold : database.IsOutgoing messageId) :
      Step ⟨database, launch⟩ (.delete messageId)
        ⟨{ database with interactions := database.interactions.erase messageId }, launch⟩
  | attributesUpdated {database : MigratedDatabase} {launch : MigrationLaunch} :
      Step ⟨database, launch⟩ .attributesUpdated
        ⟨{ database with needsAccountAttributesUpdate := false }, launch⟩

end MigrationWorld

end ObjcSwiftLearning.SignalMessaging
