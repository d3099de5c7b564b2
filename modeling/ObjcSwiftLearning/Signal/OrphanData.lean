import Mathlib.Data.Int.Notation
import Mathlib.Data.List.Dedup
import ObjcSwiftLearning.Library.Collection

/-!
# Orphan data

Interactions whose thread is gone, attachments that no message refers to, and files that belong
to nothing: what the app has stored, and what `findOrphanDataSync:` finds in it.

* `KeptStream.itemPaths`, `KeptStream.filePaths` — where the files of an attachment are.
* `StoredData.orphanData` — the orphans.
* `StoredData.FilesApart` — no two things that are stored share a file.
-/

namespace ObjcSwiftLearning.Signal

/-! ## Files -/

abbrev ComponentPath := List String

/-- A file, with its date in milliseconds since 1970. -/
structure DiskFile where
  path : ComponentPath
  modificationDate : ℤ
deriving DecidableEq

abbrev DiskFiles := Collection DiskFile.path

namespace DiskFiles

/-- `fileExistsAtPath:`, of a file or of a directory with something in it. -/
def fileExistsAtPath (disk : DiskFiles) (path : ComponentPath) : Bool :=
  disk.objects.any fun file => path <+: file.path

def contentsOfDirectoryAtPath (disk : DiskFiles) (dirPath : ComponentPath) : List String :=
  (disk.objects.filter fun file => dirPath <+: file.path).filterMap fun file =>
    (file.path.drop dirPath.length).head?

/-- `filePathsInDirectorySafe:`, which looks into the directories in it as well. -/
def filePathsInDirectorySafe (disk : DiskFiles) (dirPath : ComponentPath) : List ComponentPath :=
  (disk.objects.map (·.path)).filter fun path => dirPath <+: path ∧ dirPath ≠ path

/-- `removeItemAtPath:error:`, with what is in it if it is a directory. -/
def removeItemAtPath (disk : DiskFiles) (path : ComponentPath) : DiskFiles :=
  disk.filter fun file => ¬ path <+: file.path

theorem fileExistsAtPath_of_mem {disk : DiskFiles} {file : DiskFile} (hfile : file ∈ disk.objects) :
    disk.fileExistsAtPath file.path = true :=
  List.any_eq_true.mpr ⟨file, hfile, by simp⟩

theorem mem_contentsOfDirectoryAtPath {disk : DiskFiles} {file : DiskFile} {dirPath : ComponentPath}
    {fileName : String} (hfile : file ∈ disk.objects) (hpath : file.path = dirPath ++ [fileName]) :
    fileName ∈ disk.contentsOfDirectoryAtPath dirPath := by
  refine List.mem_filterMap.mpr ⟨file, List.mem_filter.mpr ⟨hfile, ?_⟩, ?_⟩
  · simp [hpath]
  · simp [hpath]

theorem mem_filePathsInDirectorySafe {disk : DiskFiles} {dirPath path : ComponentPath} :
    path ∈ disk.filePathsInDirectorySafe dirPath ↔
      (∃ file ∈ disk.objects, file.path = path) ∧ dirPath <+: path ∧ dirPath ≠ path := by
  simp [filePathsInDirectorySafe]

theorem foldl_removeItemAtPath (disk : DiskFiles) (items : List ComponentPath) :
    items.foldl removeItemAtPath disk =
      disk.filter fun file => ∀ item ∈ items, ¬ item <+: file.path := by
  induction items generalizing disk with
  | nil => ext1; simp [Collection.filter]
  | cons item items ih =>
      rw [List.foldl_cons, ih]
      ext1
      simp only [Collection.filter, removeItemAtPath, List.filter_filter]
      refine List.filter_congr fun file _ => ?_
      simp [Bool.and_comm]

end DiskFiles

structure AppDirectories where
  appDocumentDirectoryPath : ComponentPath
  appSharedDataDirectoryPath : ComponentPath
  cachesDirectoryPath : ComponentPath
  temporaryDirectory : ComponentPath
  temporaryDirectoryAccessibleAfterFirstAuth : ComponentPath

namespace AppDirectories

variable (directories : AppDirectories)

def legacyAttachmentsDirPath : ComponentPath :=
  directories.appDocumentDirectoryPath ++ ["Attachments"]

def sharedDataAttachmentsDirPath : ComponentPath :=
  directories.appSharedDataDirectoryPath ++ ["Attachments"]

def attachmentsFolder : ComponentPath := directories.sharedDataAttachmentsDirPath

def legacyProfileAvatarsDirPath : ComponentPath :=
  directories.appDocumentDirectoryPath ++ ["ProfileAvatars"]

def sharedDataProfileAvatarsDirPath : ComponentPath :=
  directories.appSharedDataDirectoryPath ++ ["ProfileAvatars"]

def profileAvatarsDirPath : ComponentPath := directories.sharedDataProfileAvatarsDirPath

def searched : List ComponentPath :=
  [directories.legacyAttachmentsDirPath, directories.sharedDataAttachmentsDirPath,
    directories.legacyProfileAvatarsDirPath, directories.sharedDataProfileAvatarsDirPath,
    directories.temporaryDirectory, directories.temporaryDirectoryAccessibleAfterFirstAuth]

end AppDirectories

/-- `stringByDeletingPathExtension` of a component.  A dot at its start begins no extension. -/
def deletingPathExtension (component : String) : String :=
  match component.toList.reverse.dropWhile (· ≠ '.') with
  | _ :: c :: rest => String.ofList (c :: rest).reverse
  | _ => component

/-! ## Attachments -/

/-- `TSAttachmentStream`, as far as the cleanup reads it. -/
structure KeptStream where
  uniqueId : String
  localRelativeFilePath : Option ComponentPath
  isImage : Bool
  isVideo : Bool
  isAnimated : Bool
  /-- In milliseconds since 1970. -/
  creationTimestamp : ℤ
deriving DecidableEq

namespace KeptStream

variable (stream : KeptStream) (directories : AppDirectories)

def originalFilePath : Option ComponentPath :=
  stream.localRelativeFilePath.map (directories.attachmentsFolder ++ ·)

def legacyThumbnailPath : Option ComponentPath :=
  (stream.originalFilePath directories).bind fun filePath =>
    if !stream.isImage && !stream.isVideo && !stream.isAnimated then none
    else
      let filename := deletingPathExtension (filePath.getLastD "")
      some (filePath.dropLast ++ [filename ++ "-signal-ios-thumbnail" ++ ".jpg"])

def thumbnailsDirPath : Option ComponentPath :=
  stream.localRelativeFilePath.map fun _ =>
    directories.cachesDirectoryPath ++ [stream.uniqueId ++ "-thumbnails"]

def allThumbnailPaths (disk : DiskFiles) : List ComponentPath :=
  ((stream.thumbnailsDirPath directories).toList.flatMap fun dirPath =>
      (disk.contentsOfDirectoryAtPath dirPath).map fun fileName => dirPath ++ [fileName]) ++
    (stream.legacyThumbnailPath directories).toList.filter disk.fileExistsAtPath

def filePaths (disk : DiskFiles) : List ComponentPath :=
  (stream.originalFilePath directories).toList ++ stream.allThumbnailPaths directories disk

/-- What `removeFileWithTransaction:` removes, in this order. -/
def itemPaths : List ComponentPath :=
  (stream.thumbnailsDirPath directories).toList ++
    (stream.legacyThumbnailPath directories).toList ++
    (stream.originalFilePath directories).toList

/-- What is removed with the attachment: its items and what is in them. -/
def Owns (path : ComponentPath) : Prop := ∃ item ∈ stream.itemPaths directories, item <+: path

instance (path : ComponentPath) : Decidable (stream.Owns directories path) :=
  inferInstanceAs (Decidable (∃ item ∈ stream.itemPaths directories, item <+: path))

variable {stream directories} {disk : DiskFiles} {path : ComponentPath}

/-- The files of an attachment are removed with it. -/
theorem owns_of_mem_filePaths (hpath : path ∈ stream.filePaths directories disk) :
    stream.Owns directories path := by
  rw [filePaths, allThumbnailPaths, List.mem_append, List.mem_append, List.mem_flatMap] at hpath
  rcases hpath with horiginal | ⟨dirPath, hdir, hthumbnail⟩ | hlegacy
  · exact ⟨path, List.mem_append_right _ horiginal, List.prefix_refl path⟩
  · obtain ⟨fileName, -, rfl⟩ := List.mem_map.mp hthumbnail
    exact ⟨dirPath, List.mem_append_left _ (List.mem_append_left _ hdir),
      List.prefix_append dirPath [fileName]⟩
  · have hmem := List.mem_of_mem_filter hlegacy
    exact ⟨path, List.mem_append_left _ (List.mem_append_right _ hmem), List.prefix_refl path⟩

theorem mem_filePaths_of_mem {file : DiskFile} {left : DiskFiles} (hfile : file ∈ left.objects)
    (hpath : file.path ∈ stream.filePaths directories disk) :
    file.path ∈ stream.filePaths directories left := by
  rw [filePaths, allThumbnailPaths, List.mem_append, List.mem_append, List.mem_flatMap] at hpath ⊢
  rcases hpath with horiginal | ⟨dirPath, hdir, hthumbnail⟩ | hlegacy
  · exact .inl horiginal
  · obtain ⟨fileName, -, heq⟩ := List.mem_map.mp hthumbnail
    have hname := DiskFiles.mem_contentsOfDirectoryAtPath hfile heq.symm
    exact .inr (.inl ⟨dirPath, hdir, List.mem_map.mpr ⟨fileName, hname, heq⟩⟩)
  · have hmem := List.mem_of_mem_filter hlegacy
    exact .inr (.inr (List.mem_filter.mpr ⟨hmem, DiskFiles.fileExistsAtPath_of_mem hfile⟩))

end KeptStream

/-- `TSAttachment`. -/
inductive KeptAttachment where
  | stream (stream : KeptStream)
  | pointer (uniqueId : String)

def KeptAttachment.uniqueId : KeptAttachment → String
  | .stream s => s.uniqueId
  | .pointer id => id

/-- `isKindOfClass:[TSAttachmentStream class]`. -/
def KeptAttachment.stream? : KeptAttachment → Option KeptStream
  | .stream s => some s
  | .pointer _ => none

/-! ## Interactions -/

/-- What a `TSMessage` refers to. -/
structure MessageAttachments where
  attachmentIds : List String
  /-- The `thumbnailAttachmentStreamId` of each `OWSAttachmentInfo`, if a message is quoted. -/
  quotedMessage : Option (List (Option String))
  /-- The `avatarAttachmentId`, if a contact is shared. -/
  contactShare : Option (Option String)

namespace MessageAttachments

variable (message : MessageAttachments)

def thumbnailAttachmentStreamIds : List String := (message.quotedMessage.getD []).reduceOption

def avatarAttachmentId : Option String := message.contactShare.join

end MessageAttachments

/-- `TSInteraction`, as far as the cleanup reads it. -/
structure KeptInteraction where
  uniqueId : String
  uniqueThreadId : String
  /-- In milliseconds since 1970. -/
  timestamp : UInt64
  /-- Of a `TSMessage`. -/
  message : Option MessageAttachments

namespace KeptInteraction

variable (interaction : KeptInteraction)

/-- `ows_dateWithMillisecondsSince1970:`, of its timestamp. -/
def creationDate : ℤ := interaction.timestamp.toNat

/-- The attachments that an interaction refers to. -/
def references : List String :=
  interaction.message.elim [] fun message =>
    message.attachmentIds ++ message.thumbnailAttachmentStreamIds ++
      message.avatarAttachmentId.toList

/-- The attachments that `removeWithTransaction:` removes with an interaction. -/
def cascade : List String :=
  interaction.message.elim [] fun message =>
    message.attachmentIds ++ message.avatarAttachmentId.toList

end KeptInteraction

/-! ## The search -/

/-- What is stored, and what the cleanup relates it to. -/
@[ext] structure StoredData where
  directories : AppDirectories
  threadIds : List String
  interactions : Collection KeptInteraction.uniqueId
  attachments : Collection KeptAttachment.uniqueId
  avatarFileNames : List (Option String)
  disk : DiskFiles

/-- `OWSOrphanData`. -/
structure OrphanData where
  interactionIds : List String
  attachmentIds : List String
  filePaths : List ComponentPath
deriving DecidableEq

namespace StoredData

variable (data : StoredData)

def streams : List KeptStream := data.attachments.objects.filterMap KeptAttachment.stream?

/-- Whether an interaction has no thread. -/
def IsOrphan (interaction : KeptInteraction) : Prop :=
  interaction.uniqueThreadId.length < 1 ∨ interaction.uniqueThreadId ∉ data.threadIds

instance (interaction : KeptInteraction) : Decidable (data.IsOrphan interaction) :=
  inferInstanceAs (Decidable (_ ∨ _))

def orphanInteractionIds : List String :=
  (data.interactions.objects.filter data.IsOrphan).map (·.uniqueId)

/-- `messageAttachmentIds`, `quotedReplyThumbnailAttachmentIds` and
`contactShareAvatarAttachmentIds`. -/
def referencedIds : List String := data.interactions.objects.flatMap (·.references)

def orphanAttachmentIds : List String :=
  (data.streams.map (·.uniqueId)).filter (· ∉ data.referencedIds)

def allOnDiskFilePaths : List ComponentPath :=
  (data.directories.searched.flatMap data.disk.filePathsInDirectorySafe).dedup

def allAttachmentFilePaths : List ComponentPath :=
  data.streams.flatMap fun stream => stream.filePaths data.directories data.disk

def allProfileAvatarFilePaths : List ComponentPath :=
  data.avatarFileNames.reduceOption.map fun avatarFileName =>
    data.directories.profileAvatarsDirPath ++ [avatarFileName]

def orphanFilePaths : List ComponentPath :=
  data.allOnDiskFilePaths.filter fun path =>
    path ∉ data.allAttachmentFilePaths ∧ path ∉ data.allProfileAvatarFilePaths

/-- What a search that is not given up finds. -/
def orphanData : OrphanData where
  interactionIds := data.orphanInteractionIds
  attachmentIds := data.orphanAttachmentIds
  filePaths := data.orphanFilePaths

/-- `findOrphanDataSync:`, which changes nothing and is given up if the app stops being active
in the course of it. -/
def findOrphanDataSync (staysActive : Bool) : Option OrphanData :=
  if staysActive then some data.orphanData else none

variable {data} {id : String} {path : ComponentPath}

theorem mem_streams {stream : KeptStream} :
    stream ∈ data.streams ↔ .stream stream ∈ data.attachments.objects := by
  rw [streams, List.mem_filterMap]
  constructor
  · rintro ⟨attachment, hmem, hstream⟩
    cases attachment with
    | stream other =>
        cases hstream
        exact hmem
    | pointer id => cases hstream
  · exact fun hmem => ⟨_, hmem, rfl⟩

theorem stream_eq_of_uniqueId {stream other : KeptStream} (hstream : stream ∈ data.streams)
    (hother : other ∈ data.streams) (hid : stream.uniqueId = other.uniqueId) : stream = other := by
  have heq := Collection.eq_of_key (mem_streams.mp hstream) (mem_streams.mp hother) hid
  exact KeptAttachment.stream.inj heq

theorem mem_orphanInteractionIds :
    id ∈ data.orphanInteractionIds ↔
      ∃ interaction ∈ data.interactions.objects,
        data.IsOrphan interaction ∧ interaction.uniqueId = id := by
  simp [orphanInteractionIds, and_assoc]

theorem mem_orphanAttachmentIds :
    id ∈ data.orphanAttachmentIds ↔
      (∃ stream ∈ data.streams, stream.uniqueId = id) ∧
        ∀ interaction ∈ data.interactions.objects, id ∉ interaction.references := by
  simp [orphanAttachmentIds, referencedIds]

theorem mem_orphanFilePaths :
    path ∈ data.orphanFilePaths ↔
      (∃ file ∈ data.disk.objects, file.path = path) ∧
        (∃ dirPath ∈ data.directories.searched, dirPath <+: path ∧ dirPath ≠ path) ∧
        (∀ stream ∈ data.streams, path ∉ stream.filePaths data.directories data.disk) ∧
        path ∉ data.allProfileAvatarFilePaths := by
  simp only [orphanFilePaths, allOnDiskFilePaths, allAttachmentFilePaths, List.mem_filter,
    List.mem_dedup, List.mem_flatMap, DiskFiles.mem_filePathsInDirectorySafe, decide_eq_true_eq,
    not_exists, not_and]
  constructor
  · rintro ⟨⟨dirPath, hdir, hfile, hin⟩, hstreams, havatars⟩
    exact ⟨hfile, ⟨dirPath, hdir, hin⟩, hstreams, havatars⟩
  · rintro ⟨hfile, ⟨dirPath, hdir, hin⟩, hstreams, havatars⟩
    exact ⟨⟨dirPath, hdir, hfile, hin⟩, hstreams, havatars⟩

variable (data) in
/-- Different attachments keep their files apart, profiles keep theirs in other places, and
nothing is in a file.  The name of each attachment's files contains its id. -/
structure FilesApart : Prop where
  streams : ∀ s ∈ data.streams, ∀ t ∈ data.streams, ∀ path,
    s.Owns data.directories path → t.Owns data.directories path → s = t
  avatars : ∀ s ∈ data.streams, ∀ path ∈ data.allProfileAvatarFilePaths,
    ¬ s.Owns data.directories path
  disk : ∀ file ∈ data.disk.objects, ∀ other ∈ data.disk.objects,
    file.path <+: other.path → file = other

end StoredData

end ObjcSwiftLearning.Signal
