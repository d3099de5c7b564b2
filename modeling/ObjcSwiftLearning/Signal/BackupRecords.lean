import ObjcSwiftLearning.Library.LabelledRun
import ObjcSwiftLearning.Signal.BackupDatabase

/-!
# The records of incremental backups

An export saves the database anew, and of the attachments only those whose record is not in the
cloud yet, or whose metadata it does not find.  Its manifest names the records with their keys.
After that the metadata and the records that are not in use any more are deleted.

* `BackupSystem.Step` — the cloud, the local metadata, the attachments that wait for a lazy
  restore, and an export, which may end after any step.
* `BackupSystem.Restorable` — **what makes a backup restorable**, and each step keeps where the
  record of an attachment that is stored is new, together with its metadata.
* `BackupSystem.backups_stay_restorable` — what that means for the manifest and the cleanup.
-/

namespace ObjcSwiftLearning.Signal

open AxolotlKit

/-! ## Metadata -/

/-- The collection of the `OWSBackupFragment`s. -/
abbrev BackupFragments := String → Option OWSBackupFragment

/-- `-[OWSBackupFragment saveWithTransaction:]`: without an id it is given its record name. -/
def OWSBackupFragment.save (fragment : OWSBackupFragment) (fragments : BackupFragments) :
    BackupFragments :=
  let uniqueId := fragment.uniqueId.getD fragment.recordName
  Function.update fragments uniqueId (some { fragment with uniqueId := some uniqueId })

def recordNameForPersistentFile (fileId : String) : String := "persistentFile-" ++ fileId

/-! ## The cloud and an export -/

structure ManifestEntry where
  recordName : String
  encryptionKey : NSData
  deriving DecidableEq

structure BackupManifest where
  databaseFiles : List ManifestEntry
  attachmentFiles : List ManifestEntry

structure OWSAttachmentExport where
  attachmentId : String
  attachmentFilePath : String
  /-- Without a value until `prepareForUpload`. -/
  relativeFilePath : Option String

namespace OWSAttachmentExport

def recordName (attachmentExport : OWSAttachmentExport) : String :=
  recordNameForPersistentFile attachmentExport.attachmentId

/-- The metadata of a record that was saved.  `init` has given it an id of its own. -/
def backupFragment (attachmentExport : OWSAttachmentExport) (uuid : String)
    (encryptionKey : NSData) : OWSBackupFragment where
  uniqueId := some uuid
  recordName := attachmentExport.recordName
  encryptionKey := encryptionKey
  relativeFilePath := attachmentExport.relativeFilePath
  attachmentId := some attachmentExport.attachmentId
  downloadFilePath := none
  uncompressedDataLength := none

end OWSAttachmentExport

inductive ExportPhase where
  /-- In `saveNextFileToCloud`. -/
  | saving
  /-- The record of an attachment is in the cloud; the success is to be reported. -/
  | storedAttachment (attachmentExport : OWSAttachmentExport) (encryptionKey : NSData)
  | savedManifest
  | cleaning (activeRecordNames : List String)

structure OWSBackupExportJob where
  lastValidRecordNames : String → Bool
  unsavedDatabaseItems : List NSData
  unsavedAttachmentExports : List OWSAttachmentExport
  savedDatabaseItems : List ManifestEntry
  savedAttachmentItems : List ManifestEntry
  phase : ExportPhase

/-- The metadata an attachment is recycled with: it is known, and so is the record. -/
def OWSBackupExportJob.lastBackupFragment (job : OWSBackupExportJob) (fragments : BackupFragments)
    (attachmentExport : OWSAttachmentExport) : Option OWSBackupFragment :=
  if job.lastValidRecordNames attachmentExport.recordName then
    fragments attachmentExport.recordName
  else none

/-- The cloud, and what the device knows of it. -/
structure BackupSystem where
  /-- The records but for the manifest, each with the key its payload was encrypted with. -/
  files : String → Option NSData
  manifest : Option BackupManifest
  fragments : BackupFragments
  /-- The attachments that wait for a lazy restore, each with the id of its fragment. -/
  lazyRestores : List (String × String)
  job : Option OWSBackupExportJob

inductive BackupEvent where
  | exportStarted
  | databaseItemSaved
  | attachmentRecycled
  | attachmentSkipped
  | attachmentStored (attachmentExport : OWSAttachmentExport)
  | attachmentSaved
  | attachmentFailed
  | manifestSaved
  | metadataCleaned
  | recordsDeleted (recordNames : List String)
  /-- It succeeded, failed, was cancelled or killed. -/
  | exportEnded
  | lazyRestored (attachmentId : String)

namespace BackupSystem

def attachmentRecordNamesForLazyRestore (s : BackupSystem) : List String :=
  s.lazyRestores.filterMap fun lazyRestore => (s.fragments lazyRestore.2).map (·.recordName)

def saveFileOnceToCloud (files : String → Option NSData) (recordName : String)
    (encryptionKey : NSData) : String → Option NSData :=
  if (files recordName).isSome then files
  else Function.update files recordName (some encryptionKey)

def activeRecordNames (s : BackupSystem) (job : OWSBackupExportJob) : List String :=
  (job.savedDatabaseItems ++ job.savedAttachmentItems).map (·.recordName) ++
    ["manifest"] ++ s.attachmentRecordNamesForLazyRestore

inductive Step : BackupSystem → BackupEvent → BackupSystem → Prop
  | exportStarted {s : BackupSystem} (hjob : s.job = none) (unsavedDatabaseItems : List NSData)
      (unsavedAttachmentExports : List OWSAttachmentExport) :
      Step s .exportStarted { s with
        job := some
          { lastValidRecordNames := fun recordName => (s.files recordName).isSome
            unsavedDatabaseItems, unsavedAttachmentExports
            savedDatabaseItems := [], savedAttachmentItems := [], phase := .saving } }
  | databaseItemSaved {s : BackupSystem} {job : OWSBackupExportJob} (hjob : s.job = some job)
      (hphase : job.phase = .saving) {encryptionKey : NSData} {rest : List NSData}
      (hunsaved : job.unsavedDatabaseItems = encryptionKey :: rest) (recordName : String)
      (hfile : s.files recordName = none) (hfragment : s.fragments recordName = none) :
      Step s .databaseItemSaved { s with
        files := Function.update s.files recordName (some encryptionKey)
        job := some { job with
          unsavedDatabaseItems := rest
          savedDatabaseItems := job.savedDatabaseItems ++ [⟨recordName, encryptionKey⟩] } }
  | attachmentRecycled {s : BackupSystem} {job : OWSBackupExportJob} (hjob : s.job = some job)
      (hphase : job.phase = .saving) (hdatabase : job.unsavedDatabaseItems = [])
      {rest : List OWSAttachmentExport} {attachmentExport : OWSAttachmentExport}
      (hunsaved : job.unsavedAttachmentExports = rest ++ [attachmentExport])
      {fragment : OWSBackupFragment}
      (hknown : job.lastBackupFragment s.fragments attachmentExport = some fragment) :
      Step s .attachmentRecycled { s with
        job := some { job with
          unsavedAttachmentExports := rest
          savedAttachmentItems := job.savedAttachmentItems ++
            [⟨attachmentExport.recordName, fragment.encryptionKey⟩] } }
  | attachmentSkipped {s : BackupSystem} {job : OWSBackupExportJob} (hjob : s.job = some job)
      (hphase : job.phase = .saving) (hdatabase : job.unsavedDatabaseItems = [])
      {rest : List OWSAttachmentExport} {attachmentExport : OWSAttachmentExport}
      (hunsaved : job.unsavedAttachmentExports = rest ++ [attachmentExport])
      (hunknown : job.lastBackupFragment s.fragments attachmentExport = none) :
      Step s .attachmentSkipped { s with
        job := some { job with unsavedAttachmentExports := rest } }
  | attachmentStored {s : BackupSystem} {job : OWSBackupExportJob} (hjob : s.job = some job)
      (hphase : job.phase = .saving) (hdatabase : job.unsavedDatabaseItems = [])
      {rest : List OWSAttachmentExport} {attachmentExport : OWSAttachmentExport}
      (hunsaved : job.unsavedAttachmentExports = rest ++ [attachmentExport])
      (hunknown : job.lastBackupFragment s.fragments attachmentExport = none)
      (encryptionKey : NSData) :
      Step s (.attachmentStored attachmentExport) { s with
        files := saveFileOnceToCloud s.files attachmentExport.recordName encryptionKey
        job := some { job with
          unsavedAttachmentExports := rest
          phase := .storedAttachment attachmentExport encryptionKey } }
  | attachmentSaved {s : BackupSystem} {job : OWSBackupExportJob} (hjob : s.job = some job)
      {attachmentExport : OWSAttachmentExport} {encryptionKey : NSData}
      (hphase : job.phase = .storedAttachment attachmentExport encryptionKey) (uuid : String)
      (hfile : s.files uuid = none) (hfragment : s.fragments uuid = none) :
      Step s .attachmentSaved { s with
        fragments := (attachmentExport.backupFragment uuid encryptionKey).save s.fragments
        job := some { job with
          savedAttachmentItems := job.savedAttachmentItems ++
            [⟨attachmentExport.recordName, encryptionKey⟩]
          phase := .saving } }
  -- the record is in the cloud, but what is reported is a failure
  | attachmentFailed {s : BackupSystem} {job : OWSBackupExportJob} (hjob : s.job = some job)
      {attachmentExport : OWSAttachmentExport} {encryptionKey : NSData}
      (hphase : job.phase = .storedAttachment attachmentExport encryptionKey) :
      Step s .attachmentFailed { s with job := some { job with phase := .saving } }
  | manifestSaved {s : BackupSystem} {job : OWSBackupExportJob} (hjob : s.job = some job)
      (hphase : job.phase = .saving) (hdatabase : job.unsavedDatabaseItems = [])
      (hattachments : job.unsavedAttachmentExports = []) :
      Step s .manifestSaved { s with
        manifest := some ⟨job.savedDatabaseItems, job.savedAttachmentItems⟩
        job := some { job with phase := .savedManifest } }
  | metadataCleaned {s : BackupSystem} {job : OWSBackupExportJob} (hjob : s.job = some job)
      (hphase : job.phase = .savedManifest) :
      Step s .metadataCleaned { s with
        fragments := fun uniqueId =>
          if uniqueId ∈ s.activeRecordNames job then s.fragments uniqueId else none
        job := some { job with phase := .cleaning (s.activeRecordNames job) } }
  | recordsDeleted {s : BackupSystem} {job : OWSBackupExportJob} (hjob : s.job = some job)
      {activeRecordNames : List String} (hphase : job.phase = .cleaning activeRecordNames)
      (recordNames : List String)
      (hobsolete : ∀ recordName ∈ recordNames, recordName ∉ activeRecordNames) :
      Step s (.recordsDeleted recordNames) { s with
        files := fun recordName => if recordName ∈ recordNames then none else s.files recordName }
  | exportEnded {s : BackupSystem} {job : OWSBackupExportJob} (hjob : s.job = some job) :
      Step s .exportEnded { s with job := none }
  | lazyRestored {s : BackupSystem} (attachmentId : String) :
      Step s (.lazyRestored attachmentId) { s with
        lazyRestores := s.lazyRestores.filter fun lazyRestore => lazyRestore.1 ≠ attachmentId }

/-! ## What is to be kept -/

def HasRecords (s : BackupSystem) (entries : List ManifestEntry) : Prop :=
  ∀ entry ∈ entries, s.files entry.recordName = some entry.encryptionKey

/-- **The attachments of the manifest can be restored.** -/
def KeysMatch (s : BackupSystem) : Prop :=
  ∀ manifest, s.manifest = some manifest → s.HasRecords manifest.attachmentFiles

/-- Metadata that is found by the name of a record has the key of the record. -/
def MetadataMatches (s : BackupSystem) : Prop :=
  ∀ recordName fragment encryptionKey, s.fragments recordName = some fragment →
    s.files recordName = some encryptionKey → fragment.encryptionKey = encryptionKey

/-- The manifest or a pending lazy restore names the record. -/
def Names (s : BackupSystem) (recordName : String) : Prop :=
  (∃ manifest, s.manifest = some manifest ∧
    ∃ entry ∈ manifest.attachmentFiles, entry.recordName = recordName) ∨
  recordName ∈ s.attachmentRecordNamesForLazyRestore

/-- A cleanup is under way that knows the record to be in use. -/
def IsActive (s : BackupSystem) (recordName : String) : Prop :=
  ∃ job activeRecordNames, s.job = some job ∧ job.phase = .cleaning activeRecordNames ∧
    recordName ∈ activeRecordNames

/-- What a step is not to do: lose metadata, delete a record in use, or store an attachment anew
whose record and metadata are there. -/
def StepKeeps (s : BackupSystem) (event : BackupEvent) (s' : BackupSystem) : Prop :=
  match event with
  | .metadataCleaned =>
      ∀ recordName, s.Names recordName → s'.fragments recordName ≠ none ∧ s'.IsActive recordName
  | .recordsDeleted recordNames => ∀ recordName, s.IsActive recordName → recordName ∉ recordNames
  | .attachmentStored attachmentExport =>
      ¬(s.files attachmentExport.recordName ≠ none ∧ ∃ uniqueId fragment,
        s.fragments uniqueId = some fragment ∧
          fragment.recordName = attachmentExport.recordName)
  | _ => True

/-- When a step is safe: an attachment is stored that has neither a record nor metadata under its
name; the metadata is cleaned up where that of each record which is named is found by its name. -/
def IsSafe (s : BackupSystem) (event : BackupEvent) : Prop :=
  match event with
  | .metadataCleaned => ∀ recordName, s.Names recordName → s.fragments recordName ≠ none
  | .attachmentStored attachmentExport =>
      s.files attachmentExport.recordName = none ∧
        s.fragments attachmentExport.recordName = none
  | _ => True

structure JobRestorable (s : BackupSystem) (job : OWSBackupExportJob) : Prop where
  saved : s.HasRecords job.savedAttachmentItems
  lastValid : (∀ activeRecordNames, job.phase ≠ .cleaning activeRecordNames) →
    ∀ recordName, job.lastValidRecordNames recordName = true → s.files recordName ≠ none
  stored : ∀ attachmentExport encryptionKey,
    job.phase = .storedAttachment attachmentExport encryptionKey →
      s.files attachmentExport.recordName = some encryptionKey
  manifested : (job.phase = .savedManifest ∨
      ∃ activeRecordNames, job.phase = .cleaning activeRecordNames) →
    s.manifest = some ⟨job.savedDatabaseItems, job.savedAttachmentItems⟩
  active : ∀ activeRecordNames, job.phase = .cleaning activeRecordNames →
    ∀ entry ∈ job.savedAttachmentItems, entry.recordName ∈ activeRecordNames

/-- **What makes a backup restorable**, at any time. -/
structure Restorable (s : BackupSystem) : Prop where
  keysMatch : s.KeysMatch
  metadata : s.MetadataMatches
  job : ∀ job, s.job = some job → s.JobRestorable job

variable {s s' : BackupSystem} {files : String → Option NSData} {job : OWSBackupExportJob}
  {recordName : String}

/-- Records are only added. -/
def Extends (files files' : String → Option NSData) : Prop :=
  ∀ recordName encryptionKey, files recordName = some encryptionKey →
    files' recordName = some encryptionKey

theorem extends_update (hnew : files recordName = none) (encryptionKey : Option NSData) :
    Extends files (Function.update files recordName encryptionKey) := by
  intro other key hother
  have hne : other ≠ recordName := by
    rintro rfl
    rw [hnew] at hother
    cases hother
  rw [Function.update_of_ne hne, hother]

theorem HasRecords.extends {entries : List ManifestEntry} (h : s.HasRecords entries)
    (hextends : Extends s.files files) (hfiles : s'.files = files) : s'.HasRecords entries := by
  intro entry hentry
  rw [hfiles]
  exact hextends _ _ (h entry hentry)

/-- Metadata still matches where a new record has none under its name. -/
theorem MetadataMatches.update (h : s.MetadataMatches) {recordName : String}
    {encryptionKey : NSData} (hfragment : s.fragments recordName = none)
    (hfiles : s'.files = Function.update s.files recordName (some encryptionKey))
    (hfragments : s'.fragments = s.fragments) : s'.MetadataMatches := by
  intro other fragment key hother hkey
  rw [hfragments] at hother
  have hne : other ≠ recordName := by
    rintro rfl
    rw [hfragment] at hother
    cases hother
  rw [hfiles, Function.update_of_ne hne] at hkey
  exact h other fragment key hother hkey

theorem MetadataMatches.save (h : s.MetadataMatches) {fragment : OWSBackupFragment}
    {uuid : String} (huuid : fragment.uniqueId = some uuid) (hfile : s.files uuid = none)
    (hfiles : s'.files = s.files) (hfragments : s'.fragments = fragment.save s.fragments) :
    s'.MetadataMatches := by
  intro other found key hother hkey
  rw [hfiles] at hkey
  have hne : other ≠ uuid := by
    rintro rfl
    rw [hfile] at hkey
    cases hkey
  rw [hfragments, OWSBackupFragment.save, huuid] at hother
  simp only [Option.getD_some, Function.update_of_ne hne] at hother
  exact h other found key hother hkey

/-- What is saved, and what is recycled, is restorable. -/
theorem HasRecords.append {entries : List ManifestEntry} (h : s.HasRecords entries)
    {entry : ManifestEntry} (hentry : s.files entry.recordName = some entry.encryptionKey) :
    s.HasRecords (entries ++ [entry]) := by
  intro other hother
  rcases List.mem_append.mp hother with hother | hother
  · exact h other hother
  · rw [List.mem_singleton.mp hother]
    exact hentry

theorem JobRestorable.of_saving (hphase : job.phase = .saving)
    (saved : s.HasRecords job.savedAttachmentItems)
    (lastValid : ∀ recordName, job.lastValidRecordNames recordName = true →
      s.files recordName ≠ none) : s.JobRestorable job where
  saved := saved
  lastValid := fun _ => lastValid
  stored := by simp [hphase]
  manifested := by simp [hphase]
  active := by simp [hphase]

theorem JobRestorable.valid_of_extends (h : s.JobRestorable job)
    (hcleaning : ∀ activeRecordNames, job.phase ≠ .cleaning activeRecordNames)
    (hextends : Extends s.files files) :
    ∀ recordName, job.lastValidRecordNames recordName = true → files recordName ≠ none := by
  intro recordName hvalid
  obtain ⟨key, hkey⟩ := Option.ne_none_iff_exists'.mp (h.lastValid hcleaning recordName hvalid)
  exact Option.ne_none_iff_exists'.mpr ⟨key, hextends _ _ hkey⟩

/-- `savedDatabaseItems` and `savedAttachmentItems` are what the manifest is to name. -/
theorem JobRestorable.names_active (h : s.JobRestorable job) (hphase : job.phase = .savedManifest)
    (hnames : s.Names recordName) : recordName ∈ s.activeRecordNames job := by
  rw [activeRecordNames, List.mem_append, List.mem_append]
  rcases hnames with ⟨manifest, hmanifest, entry, hentry, rfl⟩ | hlazy
  · rw [h.manifested (.inl hphase)] at hmanifest
    obtain rfl := Option.some.inj hmanifest
    exact .inl (.inl (List.mem_map_of_mem (List.mem_append_right _ hentry)))
  · exact .inr hlazy

theorem saveFileOnceToCloud_of_none (hnew : files recordName = none) (encryptionKey : NSData) :
    saveFileOnceToCloud files recordName encryptionKey =
      Function.update files recordName (some encryptionKey) := by
  rw [saveFileOnceToCloud, if_neg]
  rw [hnew]
  exact Bool.false_ne_true

/-- An export gets on, and the records and the metadata stay. -/
theorem Restorable.of_job (h : s.Restorable)
    (hjob : JobRestorable { s with job := some job } job) :
    Restorable { s with job := some job } :=
  ⟨h.keysMatch, h.metadata, fun _ heq => Option.some.inj heq ▸ hjob⟩

/-- **A safe step keeps it.** -/
theorem Restorable.step (h : s.Restorable) {event : BackupEvent} (hstep : Step s event s')
    (hsafe : s.IsSafe event) : s'.Restorable := by
  cases hstep with
  | exportStarted hjob unsavedDatabaseItems unsavedAttachmentExports =>
      exact h.of_job (.of_saving rfl (List.forall_mem_nil _) fun recordName hvalid =>
        Option.isSome_iff_ne_none.mp hvalid)
  | @databaseItemSaved job hjob hphase encryptionKey rest hunsaved recordName hfile hfragment =>
      have hextends := extends_update hfile (some encryptionKey)
      have hold := h.job job hjob
      refine ⟨fun manifest hmanifest => (h.keysMatch manifest hmanifest).extends hextends rfl,
        h.metadata.update hfragment rfl rfl, fun job' hjob' => ?_⟩
      obtain rfl := Option.some.inj hjob'
      exact .of_saving hphase (hold.saved.extends hextends rfl)
        (hold.valid_of_extends (by simp [hphase]) hextends)
  | @attachmentRecycled job hjob hphase hdatabase rest attachmentExport hunsaved fragment hknown =>
      have hold := h.job job hjob
      -- metadata is found, and the record was there when the export began
      have hvalid : job.lastValidRecordNames attachmentExport.recordName = true ∧
          s.fragments attachmentExport.recordName = some fragment := by
        rw [OWSBackupExportJob.lastBackupFragment] at hknown
        split at hknown
        next hvalid => exact ⟨hvalid, hknown⟩
        next => cases hknown
      have hcleaning : ∀ activeRecordNames, job.phase ≠ .cleaning activeRecordNames := by
        simp [hphase]
      obtain ⟨key, hkey⟩ :=
        Option.ne_none_iff_exists'.mp (hold.lastValid hcleaning _ hvalid.1)
      have hmatch : fragment.encryptionKey = key := h.metadata _ _ _ hvalid.2 hkey
      exact h.of_job (.of_saving hphase (hold.saved.append (by rw [hkey, hmatch]))
        (hold.lastValid hcleaning))
  | @attachmentSkipped job hjob hphase hdatabase rest attachmentExport hunsaved hunknown =>
      have hold := h.job job hjob
      exact h.of_job (.of_saving hphase hold.saved (hold.lastValid (by simp [hphase])))
  | @attachmentStored job hjob hphase hdatabase rest attachmentExport hunsaved hunknown
      encryptionKey =>
      have hfiles := saveFileOnceToCloud_of_none hsafe.1 encryptionKey
      have hextends := extends_update hsafe.1 (some encryptionKey)
      have hold := h.job job hjob
      refine ⟨fun manifest hmanifest => (h.keysMatch manifest hmanifest).extends hextends hfiles,
        h.metadata.update hsafe.2 hfiles rfl, fun job' hjob' => ?_⟩
      obtain rfl := Option.some.inj hjob'
      refine ⟨hold.saved.extends hextends hfiles, fun _ => ?_, ?_, by simp, by simp⟩
      · rw [hfiles]
        exact hold.valid_of_extends (by simp [hphase]) hextends
      · intro stored key hstored
        obtain ⟨rfl, rfl⟩ := ExportPhase.storedAttachment.inj hstored
        exact (congrFun hfiles _).trans (Function.update_self _ _ _)
  | @attachmentSaved job hjob attachmentExport encryptionKey hphase uuid hfile hfragment =>
      have hold := h.job job hjob
      refine ⟨h.keysMatch, h.metadata.save rfl hfile rfl rfl, fun job' hjob' => ?_⟩
      obtain rfl := Option.some.inj hjob'
      exact .of_saving rfl (hold.saved.append (hold.stored _ _ hphase))
        (hold.lastValid (by simp [hphase]))
  | @attachmentFailed job hjob attachmentExport encryptionKey hphase =>
      have hold := h.job job hjob
      exact h.of_job (.of_saving rfl hold.saved (hold.lastValid (by simp [hphase])))
  | @manifestSaved job hjob hphase hdatabase hattachments =>
      have hold := h.job job hjob
      refine ⟨fun manifest hmanifest => ?_, h.metadata, fun job' hjob' => ?_⟩
      · obtain rfl := Option.some.inj hmanifest
        exact hold.saved
      · obtain rfl := Option.some.inj hjob'
        exact ⟨hold.saved, fun _ => hold.lastValid (by simp [hphase]), by simp, fun _ => rfl,
          by simp⟩
  | @metadataCleaned job hjob hphase =>
      have hold := h.job job hjob
      refine ⟨h.keysMatch, fun recordName fragment key hfragment hkey => ?_, fun job' hjob' => ?_⟩
      · have hkept : s.fragments recordName = some fragment := by
          dsimp only at hfragment
          split at hfragment
          next => exact hfragment
          next => cases hfragment
        exact h.metadata recordName fragment key hkept hkey
      · obtain rfl := Option.some.inj hjob'
        refine ⟨hold.saved, fun hcleaning => absurd rfl (hcleaning _), by simp,
          fun _ => hold.manifested (.inl hphase), ?_⟩
        intro activeRecordNames hcleaning entry hentry
        obtain rfl := ExportPhase.cleaning.inj hcleaning
        exact hold.names_active hphase
          (.inl ⟨_, hold.manifested (.inl hphase), entry, hentry, rfl⟩)
  | @recordsDeleted job hjob activeRecordNames hphase recordNames hobsolete =>
      have hold := h.job job hjob
      -- what the manifest names is what the export saved, and that is active
      have hsaved : ∀ entry ∈ job.savedAttachmentItems,
          (if entry.recordName ∈ recordNames then none else s.files entry.recordName) =
            some entry.encryptionKey := by
        intro entry hentry
        rw [if_neg, hold.saved entry hentry]
        exact fun hdeleted => hobsolete _ hdeleted (hold.active _ hphase entry hentry)
      refine ⟨fun manifest hmanifest => ?_, fun recordName fragment key hfragment hkey => ?_,
        fun job' hjob' => ?_⟩
      · rw [hold.manifested (.inr ⟨_, hphase⟩)] at hmanifest
        obtain rfl := Option.some.inj hmanifest
        exact hsaved
      · dsimp only at hkey
        split at hkey
        next => cases hkey
        next => exact h.metadata recordName fragment key hfragment hkey
      · rw [hjob] at hjob'
        obtain rfl := Option.some.inj hjob'
        exact ⟨hsaved, fun hcleaning => absurd hphase (hcleaning _), by simp [hphase],
          hold.manifested, hold.active⟩
  | exportEnded hjob =>
      exact ⟨h.keysMatch, h.metadata, fun job hjob => (by cases hjob)⟩
  | lazyRestored attachmentId =>
      exact ⟨h.keysMatch, h.metadata, fun job hjob =>
        have hold := h.job job hjob
        { hold with }⟩

/-- **A safe step does not do what a step is not to do.** -/
theorem Restorable.stepKeeps (h : s.Restorable) {event : BackupEvent} (hstep : Step s event s')
    (hsafe : s.IsSafe event) : StepKeeps s event s' := by
  cases hstep with
  | attachmentStored hjob hphase hdatabase hunsaved hunknown encryptionKey =>
      rintro ⟨hfile, -⟩
      exact hfile hsafe.1
  | @metadataCleaned job hjob hphase =>
      intro recordName hnames
      have hactive := (h.job job hjob).names_active hphase hnames
      refine ⟨?_, _, _, rfl, rfl, hactive⟩
      dsimp only
      rw [if_pos hactive]
      exact hsafe recordName hnames
  | @recordsDeleted job hjob activeRecordNames hphase recordNames hobsolete =>
      rintro recordName ⟨job', active, hjob', hphase', hactive⟩ hdeleted
      obtain rfl := Option.some.inj (hjob.symm.trans hjob')
      obtain rfl := ExportPhase.cleaning.inj (hphase.symm.trans hphase')
      exact hobsolete recordName hdeleted hactive
  | _ => trivial

def SafeStep (s : BackupSystem) (event : BackupEvent) (s' : BackupSystem) : Prop :=
  Step s event s' ∧ s.IsSafe event

theorem Restorable.run {start : BackupSystem} {events : List BackupEvent} (h : start.Restorable)
    (run : LabelledRun SafeStep start events s) : s.Restorable :=
  run.invariant (I := fun _ => Restorable) h fun _ _ _ _ hs hstep => hs.step hstep.1 hstep.2

/-- **Backups stay restorable** over exports and lazy restores whose steps are safe: at every
moment the manifest names records with their keys, and no step loses metadata that is named,
deletes a record that is named, or stores an attachment anew that is backed up. -/
theorem backups_stay_restorable {start : BackupSystem} {events : List BackupEvent}
    (hjob : start.job = none) (hkeys : start.KeysMatch) (hmetadata : start.MetadataMatches)
    (run : LabelledRun SafeStep start events s) :
    s.KeysMatch ∧ ∀ event s', SafeStep s event s' → StepKeeps s event s' := by
  have hstart : start.Restorable := by
    refine ⟨hkeys, hmetadata, fun job hsome => ?_⟩
    rw [hjob] at hsome
    cases hsome
  have hs := hstart.run run
  exact ⟨hs.keysMatch, fun event s' hstep => hs.stepKeeps hstep.1 hstep.2⟩

def nothingBackedUp : BackupSystem where
  files _ := none
  manifest := none
  fragments _ := none
  lazyRestores := []
  job := none

/-- An export of the database, with its cleanup, and another with an attachment. -/
theorem backups_stay_restorable_sample :
    ∃ s, s.manifest = some ⟨[⟨"ephemeralFile-2", [3]⟩], [⟨"persistentFile-a", [1]⟩]⟩ ∧
      s.KeysMatch ∧ ∀ event s', SafeStep s event s' → StepKeeps s event s' := by
  have hkeys : nothingBackedUp.KeysMatch := nofun
  have hmetadata : nothingBackedUp.MetadataMatches := nofun
  have started : LabelledRun SafeStep nothingBackedUp [.exportStarted] _ :=
    .single ⟨.exportStarted rfl [[2]] [], trivial⟩
  have saved := started.tail ⟨.databaseItemSaved rfl rfl rfl "ephemeralFile-1" rfl rfl, trivial⟩
  have manifested := saved.tail ⟨.manifestSaved rfl rfl rfl rfl, trivial⟩
  have cleaned := manifested.tail ⟨.metadataCleaned rfl rfl, by
    rintro recordName (⟨manifest, hmanifest, entry, hentry, -⟩ | hlazy)
    · obtain rfl := Option.some.inj hmanifest
      cases hentry
    · cases hlazy⟩
  have restarted := (cleaned.tail ⟨.exportEnded rfl, trivial⟩).tail
    ⟨.exportStarted rfl [[3]] [⟨"a", "a", some "a"⟩], trivial⟩
  have saved := restarted.tail
    ⟨.databaseItemSaved rfl rfl rfl "ephemeralFile-2" (by decide) (by decide), trivial⟩
  have stored := saved.tail ⟨.attachmentStored rfl rfl rfl (List.nil_append _).symm (by decide) [1],
    by decide, by decide⟩
  have known := stored.tail ⟨.attachmentSaved rfl rfl "5F0A" (by decide) (by decide), trivial⟩
  have manifested := known.tail ⟨.manifestSaved rfl rfl rfl rfl, trivial⟩
  exact ⟨_, rfl, backups_stay_restorable rfl hkeys hmetadata manifested⟩

/-! ## What is lost -/

/-- What an export has done when its manifest is in the cloud, where there is one attachment and
its metadata is not found: a new key is in the manifest, whether or not there is a record. -/
def storedAnew (s : BackupSystem) (attachmentExport : OWSAttachmentExport)
    (databaseItem : ManifestEntry) (uuid : String) (encryptionKey : NSData) : BackupSystem where
  files := saveFileOnceToCloud
    (Function.update s.files databaseItem.recordName (some databaseItem.encryptionKey))
    attachmentExport.recordName encryptionKey
  manifest := some ⟨[databaseItem], [⟨attachmentExport.recordName, encryptionKey⟩]⟩
  fragments := Function.update s.fragments uuid
    (some (attachmentExport.backupFragment uuid encryptionKey))
  lazyRestores := s.lazyRestores
  job := some
    { lastValidRecordNames := fun recordName => (s.files recordName).isSome
      unsavedDatabaseItems := [], unsavedAttachmentExports := []
      savedDatabaseItems := [databaseItem]
      savedAttachmentItems := [⟨attachmentExport.recordName, encryptionKey⟩]
      phase := .savedManifest }

/-- **Metadata that is not found by the name of the record** has the attachment stored anew. -/
theorem run_storedAnew (hjob : s.job = none) (attachmentExport : OWSAttachmentExport)
    (databaseItem : ManifestEntry) (uuid : String) (encryptionKey : NSData)
    (hlost : s.fragments attachmentExport.recordName = none)
    (hdatabase : s.files databaseItem.recordName = none)
    (hdatabase' : s.fragments databaseItem.recordName = none)
    (hfile : saveFileOnceToCloud
      (Function.update s.files databaseItem.recordName (some databaseItem.encryptionKey))
        attachmentExport.recordName encryptionKey uuid = none)
    (hfragment : s.fragments uuid = none) :
    LabelledRun Step s
      [.exportStarted, .databaseItemSaved, .attachmentStored attachmentExport, .attachmentSaved,
        .manifestSaved]
      (s.storedAnew attachmentExport databaseItem uuid encryptionKey) := by
  have started : LabelledRun Step s [.exportStarted] _ :=
    .single (.exportStarted hjob [databaseItem.encryptionKey] [attachmentExport])
  have saved := started.tail
    (.databaseItemSaved rfl rfl rfl databaseItem.recordName hdatabase hdatabase')
  have stored := saved.tail (.attachmentStored rfl rfl rfl (List.nil_append _).symm
    (by rw [OWSBackupExportJob.lastBackupFragment, hlost, ite_self]) encryptionKey)
  have known := stored.tail (.attachmentSaved rfl rfl uuid hfile hfragment)
  have manifested := known.tail (.manifestSaved rfl rfl rfl rfl)
  exact manifested

/-- Two exports of one attachment in a row.  Its metadata is saved under the id that `init` gave
the fragment: the first cleanup loses it, and the second export gives the attachment a new key,
while its record stays as it is. -/
theorem attachment_rekeyed :
    ∃ first before cleaned second last, LabelledRun Step nothingBackedUp first before ∧
      Step before .metadataCleaned cleaned ∧ ¬StepKeeps before .metadataCleaned cleaned ∧
        LabelledRun Step cleaned second last ∧ ¬last.KeysMatch := by
  have manifested : LabelledRun Step nothingBackedUp _ _ :=
    run_storedAnew rfl ⟨"a", "a", some "a"⟩ ⟨"ephemeralFile-1", [2]⟩ "5F0A" [1] rfl rfl rfl
      (by decide) rfl
  refine ⟨_, _, _, [.exportEnded] ++ _, _, manifested, .metadataCleaned rfl rfl,
    fun hkept => ?_, .trans (.single (.exportEnded rfl)) (run_storedAnew rfl ⟨"a", "a", some "a"⟩
      ⟨"ephemeralFile-2", [3]⟩ "5F0B" [4] (by decide) (by decide) (by decide) (by decide)
      (by decide)), fun hkeys => ?_⟩
  · have hnamed := hkept "persistentFile-a" (.inl ⟨_, rfl, _, List.mem_singleton.mpr rfl, rfl⟩)
    exact hnamed.1 (by decide)
  · have hkey := hkeys _ rfl ⟨"persistentFile-a", [4]⟩ (List.mem_singleton.mpr rfl)
    exact absurd hkey (by decide)

end BackupSystem

end ObjcSwiftLearning.Signal
