import Mathlib.Data.Int.Notation
import Mathlib.Data.Nat.Notation
import Mathlib.Logic.Function.Basic
import ObjcSwiftLearning.AxolotlKit.Foundation

/-!
# What a backup is of

Threads, attachments, interactions and migrations, each in a collection of its own, and what saving
one of them does: an interaction without an id is given one, and its thread takes note of it.

* `BackupDatabase.save` — `saveWithTransaction:`, by class.
* `BackupDatabase.cleared` — the database without the four collections.
* `BackupDatabase.SameContents` — two databases with the same four collections.
-/

namespace ObjcSwiftLearning.Signal

open AxolotlKit

/-! ## Objects -/

/-- `TSThread`. -/
structure StoredThread where
  uniqueId : Option String
  hasEverHadMessage : Bool
  lastMessageDate : Option ℤ
  contents : NSData
  deriving DecidableEq

/-- `TSAttachment`; `originalFilePath` is that of a `TSAttachmentStream`. -/
structure StoredAttachment where
  uniqueId : Option String
  isStream : Bool
  originalFilePath : Option String
  lazyRestoreFragmentId : Option String
  contents : NSData
  deriving DecidableEq

/-- `TSInteraction`, with what its class makes of it. -/
structure StoredInteraction where
  uniqueId : Option String
  uniqueThreadId : String
  dateForSorting : ℤ
  /-- `NO` for some of the outgoing messages about groups. -/
  shouldBeSaved : Bool
  /-- `+[TSThread shouldInteractionAppearInInbox:]`. -/
  appearsInInbox : Bool
  /-- A `TSMessage` that is expiring. -/
  isExpiringMessage : Bool
  isDynamicInteraction : Bool
  contents : NSData
  deriving DecidableEq

/-- `OWSDatabaseMigration`. -/
structure StoredMigration where
  uniqueId : Option String
  contents : NSData
  deriving DecidableEq

/-- A `TSYapDatabaseObject`. -/
inductive StoredObject where
  | thread (thread : StoredThread)
  | attachment (attachment : StoredAttachment)
  | interaction (interaction : StoredInteraction)
  | migration (migration : StoredMigration)
  /-- Of another class. -/
  | other (collection : String) (uniqueId : Option String) (contents : NSData)
  deriving DecidableEq

/-- `OWSBackupFragment`: an item of the manifest, and the metadata of a record. -/
structure OWSBackupFragment where
  uniqueId : Option String
  recordName : String
  encryptionKey : NSData
  relativeFilePath : Option String
  attachmentId : Option String
  downloadFilePath : Option String
  uncompressedDataLength : Option ℕ
  deriving DecidableEq

def StoredObject.IsBackedUp : StoredObject → Prop
  | other _ _ _ => False
  | _ => True

instance (object : StoredObject) : Decidable object.IsBackedUp := by
  cases object <;> unfold StoredObject.IsBackedUp <;> infer_instance

/-! ## The database -/

/-- The database, collection by collection. -/
structure BackupDatabase where
  threads : String → Option StoredThread
  attachments : String → Option StoredAttachment
  interactions : String → Option StoredInteraction
  migrations : String → Option StoredMigration
  latestMessageId : UInt64
  others : String → String → Option NSData

namespace BackupDatabase

variable (database : BackupDatabase)

/-- `setObject:forKey:inCollection:`; without a key nothing is stored. -/
def store {α : Type} (collection : String → Option α) (key : Option String) (object : α) :
    String → Option α :=
  match key with
  | none => collection
  | some key => Function.update collection key (some object)

def updatedWithLastMessage (thread : StoredThread) (lastMessage : StoredInteraction) :
    Option StoredThread :=
  if lastMessage.appearsInInbox = false then none
  else if thread.lastMessageDate.elim true (· < lastMessage.dateForSorting) then
    some { thread with
      hasEverHadMessage := true
      lastMessageDate := some lastMessage.dateForSorting }
  else none

def updateWithLastMessage (lastMessage : StoredInteraction) : BackupDatabase :=
  match (database.threads lastMessage.uniqueThreadId).bind
      (updatedWithLastMessage · lastMessage) with
  | none => database
  | some thread => { database with threads := store database.threads thread.uniqueId thread }

/-- The id of an interaction, which is given one where it has none. -/
def idForInteraction (interaction : StoredInteraction) : String × BackupDatabase :=
  match interaction.uniqueId with
  | some uniqueId => (uniqueId, database)
  | none => (toString database.latestMessageId.toNat,
      { database with latestMessageId := database.latestMessageId + 1 })

/-- `saveWithTransaction:` of an interaction. -/
def saveInteraction (interaction : StoredInteraction) : BackupDatabase :=
  if interaction.shouldBeSaved = false then database
  else
    let (uniqueId, identified) := database.idForInteraction interaction
    updateWithLastMessage
      { identified with
        interactions := Function.update identified.interactions uniqueId
          (some { interaction with uniqueId := some uniqueId }) }
      interaction

/-- `saveWithTransaction:`. -/
def save : StoredObject → BackupDatabase
  | .thread thread => { database with threads := store database.threads thread.uniqueId thread }
  | .attachment attachment =>
      { database with
        attachments := store database.attachments attachment.uniqueId attachment }
  | .interaction interaction => database.saveInteraction interaction
  | .migration migration =>
      { database with migrations := store database.migrations migration.uniqueId migration }
  | .other collection uniqueId contents =>
      { database with
        others := Function.update database.others collection
          (store (database.others collection) uniqueId contents) }

def saveAll (objects : List StoredObject) : BackupDatabase := objects.foldl save database

/-- The four collections are cleared. -/
def cleared : BackupDatabase :=
  { database with
    threads := fun _ => none
    attachments := fun _ => none
    interactions := fun _ => none
    migrations := fun _ => none }

/-- The same threads, attachments, interactions and migrations. -/
structure SameContents (database database' : BackupDatabase) : Prop where
  threads : database.threads = database'.threads
  attachments : database.attachments = database'.attachments
  interactions : database.interactions = database'.interactions
  migrations : database.migrations = database'.migrations

theorem SameContents.refl : SameContents database database := ⟨rfl, rfl, rfl, rfl⟩

@[simp] theorem saveAll_nil : database.saveAll [] = database := rfl

@[simp] theorem saveAll_cons (object : StoredObject) (objects : List StoredObject) :
    database.saveAll (object :: objects) = (database.save object).saveAll objects := rfl

theorem saveAll_append (objects objects' : List StoredObject) :
    database.saveAll (objects ++ objects') = (database.saveAll objects).saveAll objects' :=
  List.foldl_append

end BackupDatabase

end ObjcSwiftLearning.Signal
