import ObjcSwiftLearning.Signal.BackupDatabase

/-!
# Restoring the database

The import clears the four collections and saves the entities of each database item, in one write
transaction.  Where an item or an entity cannot be read, or the job was cancelled, it returns from
the block, and what it has done by then is committed.

* `OWSBackupImportJob.restoreDatabase` — the method.
* `OWSBackupImportJob.reached` — what is saved before the restore comes to its end, and why it ends.
* `OWSBackupImportJob.restoreDatabase_eq` — **what a restore comes to**.
* `OWSBackupImportJob.restoresAllOrNothing_iff` — when everything is restored, or nothing touched.
-/

namespace ObjcSwiftLearning.Signal

open AxolotlKit BackupDatabase

/-! ## The job -/

/-- What unarchiving the data of an entity comes to. -/
inductive Unarchived where
  | raised
  | missing
  /-- An object which has no `saveWithTransaction:`. -/
  | foreign
  | object (object : StoredObject)

/-- The files that were downloaded, and what is done to their data. -/
structure RestoreServices where
  contentsOfFile : String → Option NSData
  decompressData : NSData → ℕ → Option NSData
  /-- `+[SignalIOSProtoBackupSnapshot parseData:error:]`: the data of the entities. -/
  parseSnapshot : NSData → Option (List NSData)
  /-- `decodeObjectForKey:@"root"`. -/
  unarchive : NSData → Unarchived

/-- The database in a write transaction, and what was saved in it. -/
structure RestoreTransaction where
  database : BackupDatabase
  saved : List StoredObject

def RestoreTransaction.save (transaction : RestoreTransaction) (object : StoredObject) :
    RestoreTransaction where
  database := transaction.database.save object
  saved := transaction.saved ++ [object]

/-- How a part of the block ends. -/
inductive RestoreProgress where
  | goesOn (transaction : RestoreTransaction)
  /-- `isComplete` was read, and the block returns. -/
  | cancelled (transaction : RestoreTransaction)
  /-- `aborted = YES; return completion(NO)`. -/
  | aborted (transaction : RestoreTransaction)
  /-- An exception leaves the block. -/
  | raised

/-- What a restore leaves behind. -/
structure RestoreOutcome where
  database : BackupDatabase
  saved : List StoredObject
  completions : List Bool

namespace OWSBackupImportJob

variable (S : RestoreServices)

def unsignedIntValue (number : ℕ) : ℕ := number % 4294967296

/-- `decryptFileAsData:encryptionKey:`; the data is stored as it is. -/
def decryptFileAsData (filePath : Option String) : Option NSData :=
  (filePath.bind S.contentsOfFile).filter fun data => 0 < data.length

def snapshotEntities (item : OWSBackupFragment) : Option (List NSData) :=
  if item.recordName.length < 1 then none
  else
    match item.uncompressedDataLength.map unsignedIntValue with
    | none => none
    | some uncompressedDataLength =>
        if uncompressedDataLength < 1 then none
        else
          (((decryptFileAsData S item.downloadFilePath).bind
            (S.decompressData · uncompressedDataLength)).bind S.parseSnapshot).filter
              fun entities => 0 < entities.length

/-- The loop over the entities of an item.  What was unarchived is of its own class, unless there
is nothing. -/
def restoreEntities : RestoreTransaction → List NSData → RestoreProgress
  | transaction, [] => .goesOn transaction
  | transaction, entityData :: rest =>
      if entityData.length < 1 then .aborted transaction
      else
        match S.unarchive entityData with
        | .raised => .aborted transaction
        | .missing => .aborted transaction
        | .foreign => .raised
        | .object object => restoreEntities (transaction.save object) rest

/-- The loop over the items; `isComplete` is read before each. -/
def restoreItems (isComplete : ℕ → Bool) :
    ℕ → RestoreTransaction → List OWSBackupFragment → RestoreProgress
  | _, transaction, [] => .goesOn transaction
  | reads, transaction, item :: items =>
      if isComplete reads then .cancelled transaction
      else
        match snapshotEntities S item with
        | none => .aborted transaction
        | some entities =>
            match restoreEntities S transaction entities with
            | .goesOn transaction => restoreItems isComplete (reads + 1) transaction items
            | progress => progress

/-- `restoreDatabaseWithCompletion:`.  `isComplete` is read at the start, before each item and at
the end. -/
def restoreDatabase (isComplete : ℕ → Bool) (hasConnection : Bool) (database : BackupDatabase)
    (databaseItems : List OWSBackupFragment) : RestoreOutcome :=
  if isComplete 0 then ⟨database, [], [false]⟩
  else if hasConnection = false then ⟨database, [], [false]⟩
  else
    match restoreItems S isComplete 1 ⟨database.cleared, []⟩ databaseItems with
    | .raised => ⟨database, [], []⟩
    | .aborted transaction => ⟨transaction.database, transaction.saved, [false]⟩
    | .cancelled transaction => ⟨transaction.database, transaction.saved, []⟩
    | .goesOn transaction =>
        if isComplete (databaseItems.length + 1) then
          ⟨transaction.database, transaction.saved, []⟩
        else ⟨transaction.database, transaction.saved, [true]⟩

/-! ## What a restore is to do -/

def listedEntity (entityData : NSData) : Option StoredObject :=
  if entityData.length < 1 then none
  else
    match S.unarchive entityData with
    | .object object => some object
    | _ => none

/-- Every entity of every item, where all of them can be read. -/
def listedObjects (databaseItems : List OWSBackupFragment) : Option (List StoredObject) :=
  (databaseItems.mapM fun item =>
    (snapshotEntities S item).bind fun entities => entities.mapM (listedEntity S)).map List.flatten

/-- **Everything is restored, or nothing touched.** -/
structure RestoresAllOrNothing (database : BackupDatabase) (databaseItems : List OWSBackupFragment)
    (outcome : RestoreOutcome) : Prop where
  allOrNothing :
    (∃ objects, listedObjects S databaseItems = some objects ∧
      outcome.database = database.cleared.saveAll objects ∧ true ∈ outcome.completions) ∨
    (database.SameContents outcome.database ∧ true ∉ outcome.completions)
  once : outcome.completions.length ≤ 1
  backedUp : ∀ object ∈ outcome.saved, object.IsBackedUp

/-! ## What it comes to -/

/-- Why a restore comes to its end. -/
inductive RestoreStop where
  | ended
  | cancelled
  | unreadable
  | raised
  deriving DecidableEq

/-- The entities that come before the first that is none, and what that one is. -/
def reachedEntities : List NSData → List StoredObject × RestoreStop
  | [] => ([], .ended)
  | entityData :: rest =>
      if entityData.length < 1 then ([], .unreadable)
      else
        match S.unarchive entityData with
        | .raised => ([], .unreadable)
        | .missing => ([], .unreadable)
        | .foreign => ([], .raised)
        | .object object => ((reachedEntities rest).1.cons object, (reachedEntities rest).2)

/-- The entities that come before the restore ends, and why it does. -/
def reached (isComplete : ℕ → Bool) : ℕ → List OWSBackupFragment → List StoredObject × RestoreStop
  | _, [] => ([], .ended)
  | reads, item :: items =>
      if isComplete reads then ([], .cancelled)
      else
        match snapshotEntities S item with
        | none => ([], .unreadable)
        | some entities =>
            match reachedEntities S entities with
            | (objects, .ended) =>
                (objects ++ (reached isComplete (reads + 1) items).1,
                  (reached isComplete (reads + 1) items).2)
            | (objects, stop) => (objects, stop)

def RestoreStop.progress (transaction : RestoreTransaction) : RestoreStop → RestoreProgress
  | ended => .goesOn transaction
  | cancelled => .cancelled transaction
  | unreadable => .aborted transaction
  | raised => .raised

def savedAll (transaction : RestoreTransaction) (objects : List StoredObject) :
    RestoreTransaction where
  database := transaction.database.saveAll objects
  saved := transaction.saved ++ objects

variable {S} {isComplete : ℕ → Bool} {database : BackupDatabase}
  {databaseItems : List OWSBackupFragment}

theorem savedAll_append (transaction : RestoreTransaction) (objects objects' : List StoredObject) :
    savedAll (savedAll transaction objects) objects' =
      savedAll transaction (objects ++ objects') := by
  simp [savedAll, saveAll_append]

/-- The loop over the entities saves those that are reached. -/
theorem restoreEntities_eq (transaction : RestoreTransaction) (entities : List NSData) :
    restoreEntities S transaction entities =
      (reachedEntities S entities).2.progress
        (savedAll transaction (reachedEntities S entities).1) := by
  induction entities generalizing transaction with
  | nil => simp [restoreEntities, reachedEntities, RestoreStop.progress, savedAll]
  | cons entityData rest ih =>
      rw [restoreEntities, reachedEntities]
      split
      · simp [RestoreStop.progress, savedAll]
      · cases S.unarchive entityData with
        | raised => simp [RestoreStop.progress, savedAll]
        | missing => simp [RestoreStop.progress, savedAll]
        | foreign => rfl
        | object object =>
            simp only
            rw [ih]
            simp [savedAll, RestoreTransaction.save]

theorem restoreItems_eq (reads : ℕ) (transaction : RestoreTransaction) :
    restoreItems S isComplete reads transaction databaseItems =
      (reached S isComplete reads databaseItems).2.progress
        (savedAll transaction (reached S isComplete reads databaseItems).1) := by
  induction databaseItems generalizing reads transaction with
  | nil => simp [restoreItems, reached, RestoreStop.progress, savedAll]
  | cons item items ih =>
      rw [restoreItems, reached]
      split
      · simp [RestoreStop.progress, savedAll]
      · cases snapshotEntities S item with
        | none => simp [RestoreStop.progress, savedAll]
        | some entities =>
            simp only [restoreEntities_eq]
            rcases reachedEntities S entities with ⟨objects, stop⟩
            cases stop with
            | ended =>
                simp only [RestoreStop.progress]
                rw [ih, savedAll_append]
                rfl
            | cancelled => rfl
            | unreadable => rfl
            | raised => rfl

theorem mapM_listedEntity_of_ended {entities : List NSData}
    (h : (reachedEntities S entities).2 = .ended) :
    entities.mapM (listedEntity S) = some (reachedEntities S entities).1 := by
  induction entities with
  | nil => rfl
  | cons entityData rest ih =>
      rw [reachedEntities] at h ⊢
      rw [List.mapM_cons, listedEntity]
      split at h
      · cases h
      · rename_i hlength
        rw [if_neg hlength, if_neg hlength]
        cases hunarchive : S.unarchive entityData with
        | raised => simp [hunarchive] at h
        | missing => simp [hunarchive] at h
        | foreign => simp [hunarchive] at h
        | object object =>
            simp only [hunarchive] at h
            simp [ih h]

theorem listedObjects_of_ended {reads : ℕ}
    (h : (reached S isComplete reads databaseItems).2 = .ended) :
    listedObjects S databaseItems = some (reached S isComplete reads databaseItems).1 := by
  induction databaseItems generalizing reads with
  | nil => rfl
  | cons item items ih =>
      rw [reached] at h ⊢
      rw [listedObjects, List.mapM_cons]
      split at h
      · cases h
      · rename_i hcomplete
        rw [if_neg hcomplete]
        cases hentities : snapshotEntities S item with
        | none => simp [hentities] at h
        | some entities =>
            simp only [hentities] at h ⊢
            rcases hreached : reachedEntities S entities with ⟨objects, stop⟩
            cases stop with
            | ended =>
                simp only [hreached] at h ⊢
                have hmapM : entities.mapM (listedEntity S) =
                    some (reachedEntities S entities).1 :=
                  mapM_listedEntity_of_ended (by rw [hreached])
                have hrest := ih h
                rw [listedObjects, Option.map_eq_some_iff] at hrest
                obtain ⟨lists, hlists, hflatten⟩ := hrest
                simp [hmapM, hreached, hlists, ← hflatten]
            | cancelled => simp [hreached] at h
            | unreadable => simp [hreached] at h
            | raised => simp [hreached] at h

/-- What is left by a restore that saved some objects and ended for some reason. -/
def outcomeOf (database : BackupDatabase) (isCompleteAtTheEnd : Bool) :
    List StoredObject × RestoreStop → RestoreOutcome
  | (_, .raised) => ⟨database, [], []⟩
  | (objects, .unreadable) => ⟨database.cleared.saveAll objects, objects, [false]⟩
  | (objects, .cancelled) => ⟨database.cleared.saveAll objects, objects, []⟩
  | (objects, .ended) =>
      ⟨database.cleared.saveAll objects, objects, if isCompleteAtTheEnd then [] else [true]⟩

/-- **What a restore comes to.**  What is saved before it ends stays, whatever it ends for, unless
an exception takes the app down. -/
theorem restoreDatabase_eq (hstart : isComplete 0 = false) :
    restoreDatabase S isComplete true database databaseItems =
      outcomeOf database (isComplete (databaseItems.length + 1))
        (reached S isComplete 1 databaseItems) := by
  rw [restoreDatabase, hstart, if_neg Bool.false_ne_true, if_neg (by decide),
    restoreItems_eq]
  rcases reached S isComplete 1 databaseItems with ⟨objects, stop⟩
  cases stop with
  | ended =>
      simp only [RestoreStop.progress, savedAll, outcomeOf, List.nil_append]
      split
      · rfl
      · rfl
  | cancelled => rfl
  | unreadable => rfl
  | raised => rfl

/-! ## When everything is restored, or nothing touched -/

/-- The restore does not begin, or an exception takes the app down; or it is not cancelled, all can
be read, and all is of the classes that are backed up; or the objects that come before its end are
of those classes, and just what was stored before. -/
def RestoresSafely (S : RestoreServices) (isComplete : ℕ → Bool) (hasConnection : Bool)
    (database : BackupDatabase) (databaseItems : List OWSBackupFragment) : Prop :=
  isComplete 0 = true ∨ hasConnection = false ∨
    (reached S isComplete 1 databaseItems).2 = .raised ∨
    (∀ object ∈ (reached S isComplete 1 databaseItems).1, object.IsBackedUp) ∧
      ((reached S isComplete 1 databaseItems).2 = .ended ∧
          isComplete (databaseItems.length + 1) = false ∨
        database.SameContents (database.cleared.saveAll (reached S isComplete 1 databaseItems).1))

/-- An outcome without a `YES` touches nothing, or it is none that was asked for. -/
theorem restoresAllOrNothing_of_not_completed {outcome : RestoreOutcome}
    (hcompletions : true ∉ outcome.completions) (hlength : outcome.completions.length ≤ 1) :
    RestoresAllOrNothing S database databaseItems outcome ↔
      (∀ object ∈ outcome.saved, object.IsBackedUp) ∧
        database.SameContents outcome.database := by
  constructor
  · intro h
    refine ⟨h.backedUp, ?_⟩
    rcases h.allOrNothing with ⟨-, -, -, hcompleted⟩ | ⟨hsame, -⟩
    · exact absurd hcompleted hcompletions
    · exact hsame
  · rintro ⟨hbackedUp, hsame⟩
    exact ⟨.inr ⟨hsame, hcompletions⟩, hlength, hbackedUp⟩

/-- **When a restore is of everything, or of nothing.** -/
theorem restoresAllOrNothing_iff (S : RestoreServices) (isComplete : ℕ → Bool)
    (hasConnection : Bool) (database : BackupDatabase) (databaseItems : List OWSBackupFragment) :
    RestoresAllOrNothing S database databaseItems
        (restoreDatabase S isComplete hasConnection database databaseItems) ↔
      RestoresSafely S isComplete hasConnection database databaseItems := by
  have hnothing : RestoresAllOrNothing S database databaseItems ⟨database, [], [false]⟩ :=
    ⟨.inr ⟨SameContents.refl database, by simp⟩, Nat.le_refl 1, by simp⟩
  cases hstart : isComplete 0 with
  | true =>
      rw [restoreDatabase, hstart, if_pos rfl]
      exact iff_of_true hnothing (.inl hstart)
  | false =>
      cases hasConnection with
      | false =>
          rw [restoreDatabase, hstart, if_neg Bool.false_ne_true, if_pos rfl]
          exact iff_of_true hnothing (.inr (.inl rfl))
      | true =>
          rw [restoreDatabase_eq hstart, RestoresSafely]
          simp only [hstart, Bool.false_eq_true, Bool.true_eq_false, false_or]
          rcases hreached : reached S isComplete 1 databaseItems with ⟨objects, stop⟩
          cases stop with
          | raised =>
              exact iff_of_true ⟨.inr ⟨SameContents.refl database, by simp [outcomeOf]⟩,
                Nat.zero_le 1, by simp [outcomeOf]⟩ (.inl rfl)
          | unreadable | cancelled =>
              rw [restoresAllOrNothing_of_not_completed (by simp [outcomeOf])
                (by simp [outcomeOf])]
              simp [outcomeOf]
          | ended =>
              -- Everything was read; the job may still be over before the last step.
              cases hlate : isComplete (databaseItems.length + 1) with
              | true =>
                  rw [restoresAllOrNothing_of_not_completed (by simp [outcomeOf])
                    (by simp [outcomeOf])]
                  simp [outcomeOf]
              | false =>
                  have hlisted : listedObjects S databaseItems = some objects := by
                    have hended : (reached S isComplete 1 databaseItems).2 = .ended := by
                      rw [hreached]
                    rw [listedObjects_of_ended hended, hreached]
                  refine ⟨fun h => .inr ⟨h.backedUp, .inl ⟨rfl, rfl⟩⟩, ?_⟩
                  rintro (hraised | ⟨hbackedUp, -⟩)
                  · cases hraised
                  · exact ⟨.inl ⟨objects, hlisted, rfl, by simp [outcomeOf]⟩,
                      by simp [outcomeOf], hbackedUp⟩

/-! ### Samples -/

/-- A file has two entities: a thread, and what cannot be unarchived or is of another class. -/
def sampleRestoreServices (second : Unarchived) : RestoreServices where
  contentsOfFile _ := some [1]
  decompressData data _ := some data
  parseSnapshot _ := some [[1], [2]]
  unarchive entityData :=
    if entityData = [1] then .object (.thread ⟨some "new", false, none, []⟩) else second

def sampleItem : OWSBackupFragment where
  uniqueId := some "1"
  recordName := "ephemeralFile-1"
  encryptionKey := []
  relativeFilePath := none
  attachmentId := none
  downloadFilePath := some "ephemeralFile-1"
  uncompressedDataLength := some 1

/-- One thread, and nothing else. -/
def sampleDatabase : BackupDatabase where
  threads := fun key => if key = "old" then some ⟨some "old", false, none, []⟩ else none
  attachments := fun _ => none
  interactions := fun _ => none
  migrations := fun _ => none
  latestMessageId := 0
  others := fun _ _ => none

/-- Of another class. -/
def sampleOther : StoredObject := .other "SignalRecipient" (some "+1") []

/-- After an entity that cannot be read, the old thread is gone and the new one is there; an
object of another class is saved. -/
theorem restore_is_partial :
    ¬RestoresAllOrNothing (sampleRestoreServices .raised) sampleDatabase [sampleItem]
      (restoreDatabase (sampleRestoreServices .raised) (fun _ => false) true sampleDatabase
        [sampleItem]) ∧
    ¬RestoresAllOrNothing (sampleRestoreServices (.object sampleOther)) sampleDatabase
      [sampleItem]
      (restoreDatabase (sampleRestoreServices (.object sampleOther)) (fun _ => false) true
        sampleDatabase [sampleItem]) := by
  constructor
  · rintro ⟨⟨objects, -, -, hcompleted⟩ | ⟨hsame, -⟩, -, -⟩
    · exact absurd hcompleted (by decide)
    · exact absurd (congrFun hsame.threads "old") (by decide)
  · intro h
    exact absurd (h.backedUp sampleOther (by decide)) (by decide)

end OWSBackupImportJob

end ObjcSwiftLearning.Signal
