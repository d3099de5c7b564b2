import ObjcSwiftLearning.Library.Abortable
import ObjcSwiftLearning.Signal.OrphanData

/-!
# The cleanup of orphan data

`auditAndCleanup:` searches for orphans and removes those that are old enough.  A message is
removed with its attachments and their files, whether these are orphans and old or not.

* `StoredData.without` — what a removal leaves; **every step of the cleanup is one**.
* `StoredData.removeInteraction_eq` — what is removed with an interaction.
* `auditAndCleanup` — the search and the three loops, which may be given up anywhere.
-/

namespace ObjcSwiftLearning.Signal

/-! ## Removing -/

/-- Things that are removed. -/
structure Removal where
  interactionIds : List String
  attachmentIds : List String
  filePaths : List ComponentPath

instance : Append Removal where
  append r r' := ⟨r.interactionIds ++ r'.interactionIds, r.attachmentIds ++ r'.attachmentIds,
    r.filePaths ++ r'.filePaths⟩

namespace Removal

variable {removal removal' : Removal}

@[simp] theorem append_attachmentIds :
    (removal ++ removal').attachmentIds = removal.attachmentIds ++ removal'.attachmentIds := rfl

@[simp] theorem append_filePaths :
    (removal ++ removal').filePaths = removal.filePaths ++ removal'.filePaths := rfl

end Removal

namespace StoredData

variable (data : StoredData)

/-- `[TSAttachmentStream removeFileWithTransaction:]`. -/
def removeFile (stream : KeptStream) : StoredData :=
  { data with
    disk := (stream.itemPaths data.directories).foldl DiskFiles.removeItemAtPath data.disk }

/-- `[TSAttachment removeWithTransaction:]`. -/
def removeAttachment : KeptAttachment → StoredData
  | .stream s => { data with attachments := data.attachments.remove s.uniqueId }.removeFile s
  | .pointer id => { data with attachments := data.attachments.remove id }

/-- One round of the loop of `[TSMessage removeWithTransaction:]`. -/
def removeAttachmentWithId (id : String) : StoredData :=
  match data.attachments.find id with
  | none => data
  | some attachment => data.removeAttachment attachment

/-- `[TSInteraction removeWithTransaction:]`, with that of `TSMessage`. -/
def removeInteraction (interaction : KeptInteraction) : StoredData :=
  interaction.cascade.foldl removeAttachmentWithId
    { data with interactions := data.interactions.remove interaction.uniqueId }

/-- What is left after a removal.  The files of an attachment go with it. -/
def without (removal : Removal) : StoredData :=
  { data with
    interactions := data.interactions.without removal.interactionIds
    attachments := data.attachments.without removal.attachmentIds
    disk := data.disk.filter fun file =>
      (∀ path ∈ removal.filePaths, ¬ path <+: file.path) ∧
        ∀ stream ∈ data.streams, stream.uniqueId ∈ removal.attachmentIds →
          ¬ stream.Owns data.directories file.path }

variable {data} {removal removal' : Removal}

@[simp] theorem without_directories : (data.without removal).directories = data.directories := rfl

@[simp] theorem mem_without_interactions {interaction : KeptInteraction} :
    interaction ∈ (data.without removal).interactions.objects ↔
      interaction ∈ data.interactions.objects ∧
        interaction.uniqueId ∉ removal.interactionIds :=
  Collection.mem_without

@[simp] theorem mem_without_streams {stream : KeptStream} :
    stream ∈ (data.without removal).streams ↔
      stream ∈ data.streams ∧ stream.uniqueId ∉ removal.attachmentIds := by
  rw [mem_streams, mem_streams]
  exact Collection.mem_without

@[simp] theorem mem_without_disk {file : DiskFile} :
    file ∈ (data.without removal).disk.objects ↔
      file ∈ data.disk.objects ∧ (∀ path ∈ removal.filePaths, ¬ path <+: file.path) ∧
        ∀ stream ∈ data.streams, stream.uniqueId ∈ removal.attachmentIds →
          ¬ stream.Owns data.directories file.path := by
  simp [without]

theorem without_empty : data.without ⟨[], [], []⟩ = data := by
  have hinteractions := data.interactions.without_eq_self
    fun (_ : KeptInteraction) _ => List.not_mem_nil
  have hattachments := data.attachments.without_eq_self
    fun (_ : KeptAttachment) _ => List.not_mem_nil
  ext1
  · rfl
  · rfl
  · exact hinteractions
  · exact hattachments
  · rfl
  · ext1
    simp [without, Collection.filter]

/-- Two removals one after the other are one. -/
theorem without_without :
    (data.without removal).without removal' = data.without (removal ++ removal') := by
  ext1
  · rfl
  · rfl
  · exact Collection.without_without _
  · exact Collection.without_without _
  · rfl
  · ext1
    refine (List.filter_filter ..).trans (List.filter_congr fun file _ => ?_)
    rw [Bool.eq_iff_iff, Bool.and_eq_true, decide_eq_true_eq, decide_eq_true_eq,
      decide_eq_true_eq]
    simp only [mem_without_streams, Removal.append_filePaths, Removal.append_attachmentIds,
      List.mem_append, without_directories]
    constructor
    · rintro ⟨⟨hpaths', hstreams'⟩, hpaths, hstreams⟩
      refine ⟨fun path hpath => hpath.elim (hpaths path) (hpaths' path), ?_⟩
      intro stream hstream hid
      by_cases hremoved : stream.uniqueId ∈ removal.attachmentIds
      · exact hstreams stream hstream hremoved
      · exact hstreams' stream ⟨hstream, hremoved⟩ (hid.resolve_left hremoved)
    · rintro ⟨hpaths, hstreams⟩
      exact ⟨⟨fun path hpath => hpaths path (.inr hpath),
          fun stream hstream hid => hstreams stream hstream.1 (.inr hid)⟩,
        fun path hpath => hpaths path (.inl hpath),
        fun stream hstream hid => hstreams stream hstream (.inl hid)⟩

theorem disk_without_of_forall_ne {id : String}
    (hne : ∀ stream ∈ data.streams, stream.uniqueId ≠ id) :
    (data.without ⟨[], [id], []⟩).disk = data.disk := by
  ext1
  refine List.filter_eq_self.mpr fun file _ => ?_
  have hstreams : ∀ stream ∈ data.streams, stream.uniqueId ∈ [id] →
      ¬ stream.Owns data.directories file.path := by
    intro stream hstream hid
    exact absurd (List.mem_singleton.mp hid) (hne stream hstream)
  simpa using hstreams

theorem disk_without_stream {stream : KeptStream} (hstream : stream ∈ data.streams) :
    (data.without ⟨[], [stream.uniqueId], []⟩).disk =
      (stream.itemPaths data.directories).foldl DiskFiles.removeItemAtPath data.disk := by
  rw [DiskFiles.foldl_removeItemAtPath]
  ext1
  refine List.filter_congr fun file _ => ?_
  rw [Bool.eq_iff_iff, decide_eq_true_eq, decide_eq_true_eq]
  constructor
  · rintro ⟨-, howns⟩ item hitem hin
    exact howns stream hstream (List.mem_singleton.mpr rfl) ⟨item, hitem, hin⟩
  · intro hitems
    refine ⟨fun path hpath => absurd hpath List.not_mem_nil, fun other hother hid => ?_⟩
    have heq : other = stream := stream_eq_of_uniqueId hother hstream (List.mem_singleton.mp hid)
    rintro ⟨item, hitem, hin⟩
    exact hitems item (heq ▸ hitem) hin

theorem removeAttachmentWithId_eq (id : String) :
    data.removeAttachmentWithId id = data.without ⟨[], [id], []⟩ := by
  have hinteractions : (data.without ⟨[], [id], []⟩).interactions = data.interactions :=
    data.interactions.without_eq_self fun (_ : KeptInteraction) _ => List.not_mem_nil
  rw [removeAttachmentWithId]
  cases hfind : data.attachments.find id with
  | none =>
      have hnone := Collection.find_eq_none_iff.mp hfind
      have hattachments : (data.without ⟨[], [id], []⟩).attachments = data.attachments :=
        data.attachments.without_eq_self fun attachment hmem =>
          mt List.mem_singleton.mp (hnone attachment hmem)
      have hdisk := disk_without_of_forall_ne fun stream hstream =>
        hnone (.stream stream) (mem_streams.mp hstream)
      exact StoredData.ext rfl rfl hinteractions.symm hattachments.symm rfl hdisk.symm
  | some attachment =>
      obtain ⟨hmem, rfl⟩ := Collection.find_eq_some_iff.mp hfind
      cases attachment with
      | stream stream =>
          have hdisk := disk_without_stream (mem_streams.mpr hmem)
          exact StoredData.ext rfl rfl hinteractions.symm rfl rfl hdisk.symm
      | pointer id =>
          have hdisk := disk_without_of_forall_ne fun stream hstream hid => by
            have heq := Collection.eq_of_key (mem_streams.mp hstream) hmem hid
            cases heq
          exact StoredData.ext rfl rfl hinteractions.symm rfl rfl hdisk.symm

theorem foldl_removeAttachmentWithId (ids : List String) :
    ids.foldl removeAttachmentWithId data = data.without ⟨[], ids, []⟩ := by
  induction ids generalizing data with
  | nil => exact without_empty.symm
  | cons id ids ih =>
      rw [List.foldl_cons, ih, removeAttachmentWithId_eq, without_without]
      rfl

/-- **An interaction is removed with its cascade,** and with the files of that. -/
theorem removeInteraction_eq (interaction : KeptInteraction) :
    data.removeInteraction interaction =
      data.without ⟨[interaction.uniqueId], interaction.cascade, []⟩ := by
  have hfirst : { data with interactions := data.interactions.remove interaction.uniqueId } =
      data.without ⟨[interaction.uniqueId], [], []⟩ := by
    have hattachments := data.attachments.without_eq_self
      fun (_ : KeptAttachment) _ => List.not_mem_nil
    refine StoredData.ext rfl rfl rfl hattachments.symm rfl ?_
    ext1
    simp [without, Collection.filter]
  rw [removeInteraction, hfirst, foldl_removeAttachmentWithId, without_without]
  rfl

theorem removeItem_eq (path : ComponentPath) :
    { data with disk := data.disk.removeItemAtPath path } = data.without ⟨[], [], [path]⟩ := by
  have hinteractions := data.interactions.without_eq_self
    fun (_ : KeptInteraction) _ => List.not_mem_nil
  have hattachments := data.attachments.without_eq_self
    fun (_ : KeptAttachment) _ => List.not_mem_nil
  refine StoredData.ext rfl rfl hinteractions.symm hattachments.symm rfl ?_
  ext1
  simp [without, DiskFiles.removeItemAtPath, Collection.filter]

/-! ## Processing -/

variable (thresholdDate : ℤ) (shouldRemoveOrphans : Bool)

/-- The body of the loop over `interactionIds`. -/
def processInteraction (interactionId : String) (data : StoredData) : StoredData :=
  match data.interactions.find interactionId with
  | none => data
  | some interaction =>
      if thresholdDate < interaction.creationDate then data
      else if !shouldRemoveOrphans then data
      else data.removeInteraction interaction

/-- The body of the loop over `attachmentIds`. -/
def processAttachment (attachmentId : String) (data : StoredData) : StoredData :=
  match data.attachments.find attachmentId with
  | none => data
  | some attachment =>
      match attachment.stream? with
      | none => data
      | some attachmentStream =>
          if thresholdDate < attachmentStream.creationTimestamp then data
          else if !shouldRemoveOrphans then data
          else data.removeAttachment attachment

/-- The body of the loop over `filePaths`. -/
def processFile (filePath : ComponentPath) (data : StoredData) : StoredData :=
  match data.disk.find filePath with
  | none => data
  | some file =>
      if thresholdDate < file.modificationDate then data
      else if !shouldRemoveOrphans then data
      else { data with disk := data.disk.removeItemAtPath filePath }

end StoredData

/-- What the cleanup reads of `CurrentAppContext()` and `AppReadiness`. -/
structure CleanupContext where
  isAppReady : Bool
  isMainApp : Bool
  isRunningTests : Bool
  /-- In milliseconds since 1970. -/
  appLaunchTime : ℤ

/-- `thresholdDate`: 15 minutes before the launch, outside of tests. -/
def CleanupContext.thresholdDate (context : CleanupContext) : ℤ :=
  context.appLaunchTime - if context.isRunningTests then 0 else 15 * 60 * 1000

/-- The order in which the elements of a set come; any will do.  That of the file paths is theirs
as strings. -/
structure SetOrder where
  ids : List String → List String
  paths : List ComponentPath → List ComponentPath
  ids_perm : ∀ list, (ids list).Perm list
  paths_perm : ∀ list, (paths list).Perm list

def kMaxRetries : ℕ := 3

section

variable (context : CleanupContext) (order : SetOrder) (active : ℕ → Bool)
  (shouldRemoveOrphans : Bool)

/-- `processOrphansSync:databaseConnection:shouldRemoveOrphans:`, where `active` says what
`isMainAppAndActive` is at each look. -/
def processOrphansSync (orphanData : OrphanData) : Abortable StoredData :=
  ((Abortable.forEach active
      (StoredData.processInteraction context.thresholdDate shouldRemoveOrphans)
      (order.ids orphanData.interactionIds)).andThen
    (Abortable.forEach active
      (StoredData.processAttachment context.thresholdDate shouldRemoveOrphans)
      (order.ids orphanData.attachmentIds))).andThen
    (Abortable.forEach active
      (StoredData.processFile context.thresholdDate shouldRemoveOrphans)
      (order.paths orphanData.filePaths))

def processOrphans (orphanData : OrphanData) (remainingRetries : ℕ) : Abortable StoredData :=
  (processOrphansSync context order active shouldRemoveOrphans orphanData).retry remainingRetries

/-- `findOrphanDataWithRetries:…`.  A search that is given up counts as one look. -/
def findOrphanDataWithRetries (data : StoredData) : ℕ → ℕ → Option OrphanData × ℕ
  | 0, looks => (none, looks)
  | remainingRetries + 1, looks =>
      match data.findOrphanDataSync (active looks) with
      | some orphanData => (some orphanData, looks + 1)
      | none => findOrphanDataWithRetries data remainingRetries (looks + 1)

/-- `auditAndCleanup:databaseConnection:completion:`, up to what it writes about itself. -/
def auditAndCleanup (data : StoredData) : StoredData :=
  if !context.isAppReady then data
  else if !context.isMainApp then data
  else if context.isRunningTests then data
  else
    match findOrphanDataWithRetries active data kMaxRetries 0 with
    | (none, _) => data
    | (some orphanData, looks) =>
        (processOrphans context order active shouldRemoveOrphans orphanData kMaxRetries
          data looks).2.1

end

end ObjcSwiftLearning.Signal
