import ObjcSwiftLearning.Signal.OrphanRemovals

/-!
# When the cleanup removes exactly the orphans

* `CleansExactly` — what belongs to a thread, to an attachment that is kept or to a profile is
  kept, and so is what is recent; of what is not, nothing is left over.
* `CanBeCleaned` — the condition: no attachment goes with an orphan message unless it is an
  orphan itself and old, and none is left behind by one.
* `cleansExactly_iff` — it is exact.
-/

namespace ObjcSwiftLearning.Signal

/-! ## The purpose -/

structure RemovesOrphansOnly (thresholdDate : ℤ) (data left : StoredData) : Prop where
  interactions : ∀ interaction ∈ data.interactions.objects, ¬ data.IsOrphan interaction →
    interaction ∈ left.interactions.objects
  streams : ∀ interaction ∈ data.interactions.objects, ¬ data.IsOrphan interaction →
    ∀ stream ∈ data.streams, stream.uniqueId ∈ interaction.references → stream ∈ left.streams
  files : ∀ stream ∈ left.streams, ∀ file ∈ data.disk.objects,
    file.path ∈ stream.filePaths data.directories data.disk → file ∈ left.disk.objects
  avatars : ∀ file ∈ data.disk.objects, file.path ∈ data.allProfileAvatarFilePaths →
    file ∈ left.disk.objects
  recentInteractions : ∀ interaction ∈ data.interactions.objects,
    thresholdDate < interaction.creationDate → interaction ∈ left.interactions.objects
  recentStreams : ∀ stream ∈ data.streams, thresholdDate < stream.creationTimestamp →
    stream ∈ left.streams
  recentFiles : ∀ file ∈ data.disk.objects, thresholdDate < file.modificationDate →
    file ∈ left.disk.objects

structure StoredData.IsOld (thresholdDate : ℤ) (data : StoredData) : Prop where
  interactions : ∀ interaction ∈ data.interactions.objects,
    interaction.creationDate ≤ thresholdDate
  streams : ∀ stream ∈ data.streams, stream.creationTimestamp ≤ thresholdDate
  files : ∀ file ∈ data.disk.objects, file.modificationDate ≤ thresholdDate

/-- **The cleanup removes exactly the orphans**: only these, wherever it is given up, and all of
them if everything is old and the app stays active. -/
structure CleansExactly (context : CleanupContext) (order : SetOrder) (data : StoredData) :
    Prop where
  onlyOrphans : ∀ active : ℕ → Bool, RemovesOrphansOnly context.thresholdDate data
    (auditAndCleanup context order active true data)
  allOrphans : context.CanAudit → data.IsOld context.thresholdDate →
    (auditAndCleanup context order (fun _ => true) true data).orphanData = ⟨[], [], []⟩

/-! ## The condition -/

/-- The files that are removed with a stream are not dated after the threshold. -/
def StoredData.OwnsOldFiles (thresholdDate : ℤ) (data : StoredData) (stream : KeptStream) :
    Prop :=
  ∀ file ∈ data.disk.objects, stream.Owns data.directories file.path →
    file.modificationDate ≤ thresholdDate

/-- What may go wrong does not. -/
structure CanBeCleaned (thresholdDate : ℤ) (data : StoredData) : Prop where
  /-- What an old orphan takes with it is old, and no other message's. -/
  cascades : ∀ interaction ∈ data.interactions.objects, data.IsOrphan interaction →
    interaction.creationDate ≤ thresholdDate →
    ∀ stream ∈ data.streams, stream.uniqueId ∈ interaction.cascade →
      (∀ other ∈ data.interactions.objects, ¬ data.IsOrphan other →
        stream.uniqueId ∉ other.references) ∧
      stream.creationTimestamp ≤ thresholdDate ∧ data.OwnsOldFiles thresholdDate stream
  /-- An old stream that nothing refers to has no recent files. -/
  orphans : ∀ stream ∈ data.streams,
    (∀ interaction ∈ data.interactions.objects, stream.uniqueId ∉ interaction.references) →
    stream.creationTimestamp ≤ thresholdDate → data.OwnsOldFiles thresholdDate stream
  /-- What orphans only quote does not stay behind. -/
  quoted : data.IsOld thresholdDate →
    ∀ interaction ∈ data.interactions.objects, data.IsOrphan interaction →
    ∀ stream ∈ data.streams, stream.uniqueId ∈ interaction.references →
      ∃ other ∈ data.interactions.objects,
        ¬ data.IsOrphan other ∧ stream.uniqueId ∈ other.references ∨
          data.IsOrphan other ∧ stream.uniqueId ∈ other.cascade

/-! ## Only orphans -/

variable {thresholdDate : ℤ} {data : StoredData} {removal : Removal}

theorem RemovesOrphansOnly.refl (data : StoredData) :
    RemovesOrphansOnly thresholdDate data data where
  interactions _ hmem _ := hmem
  streams _ _ _ _ hmem _ := hmem
  files _ _ _ hmem _ := hmem
  avatars _ hmem _ := hmem
  recentInteractions _ hmem _ := hmem
  recentStreams _ hmem _ := hmem
  recentFiles _ hmem _ := hmem

/-- What else is in the way of a removed file is the file itself. -/
theorem Removal.IsDue.mem_disk (hdue : removal.IsDue thresholdDate data)
    (hapart : data.FilesApart) {file : DiskFile} (hfile : file ∈ data.disk.objects)
    (hkept : file.path ∉ data.orphanFilePaths ∨ thresholdDate < file.modificationDate)
    (howns : ∀ stream ∈ data.streams, stream.uniqueId ∈ removal.attachmentIds →
      ¬ stream.Owns data.directories file.path) :
    file ∈ (data.without removal).disk.objects := by
  refine StoredData.mem_without_disk.mpr ⟨hfile, fun path hpath hin => ?_, howns⟩
  obtain ⟨horphan, other, hother, rfl, hold⟩ := hdue.files path hpath
  cases hapart.disk other hother file hfile hin
  rcases hkept with hkept | hrecent
  · exact hkept horphan
  · exact absurd hold (Int.not_le.mpr hrecent)

/-- A stream that goes is old, its files are, and no other message refers to it. -/
theorem CanBeCleaned.of_removed (hclean : CanBeCleaned thresholdDate data)
    (hdue : removal.IsDue thresholdDate data) {stream : KeptStream}
    (hstream : stream ∈ data.streams) (hid : stream.uniqueId ∈ removal.attachmentIds) :
    (∀ other ∈ data.interactions.objects, ¬ data.IsOrphan other →
        stream.uniqueId ∉ other.references) ∧
      stream.creationTimestamp ≤ thresholdDate ∧ data.OwnsOldFiles thresholdDate stream := by
  rcases hdue.streams stream hstream hid with
    ⟨interaction, hinteraction, hremoved, hcascade⟩ | ⟨horphan, hold⟩
  · obtain ⟨hisOrphan, hdate⟩ := hdue.interactions interaction hinteraction hremoved
    exact hclean.cascades interaction hinteraction hisOrphan hdate stream hstream hcascade
  · have hunreferenced := (StoredData.mem_orphanAttachmentIds.mp horphan).2
    exact ⟨fun other hother _ => hunreferenced other hother, hold,
      hclean.orphans stream hstream hunreferenced hold⟩

/-- **What is due is orphans only,** if no cascade takes anything else. -/
theorem CanBeCleaned.removesOrphansOnly (hclean : CanBeCleaned thresholdDate data)
    (hapart : data.FilesApart) (hdue : removal.IsDue thresholdDate data) :
    RemovesOrphansOnly thresholdDate data (data.without removal) where
  interactions interaction hmem hthread := by
    refine StoredData.mem_without_interactions.mpr ⟨hmem, fun hid => ?_⟩
    exact hthread (hdue.interactions interaction hmem hid).1
  streams interaction hmem hthread stream hstream hreference := by
    refine StoredData.mem_without_streams.mpr ⟨hstream, fun hid => ?_⟩
    exact (hclean.of_removed hdue hstream hid).1 interaction hmem hthread hreference
  files stream hleft file hfile hpath := by
    obtain ⟨hstream, hkept⟩ := StoredData.mem_without_streams.mp hleft
    have horphan : file.path ∉ data.orphanFilePaths := fun horphan =>
      (StoredData.mem_orphanFilePaths.mp horphan).2.2.1 stream hstream hpath
    refine hdue.mem_disk hapart hfile (.inl horphan) fun other hother hid howns => ?_
    have hsame := hapart.streams other hother stream hstream file.path howns
      (KeptStream.owns_of_mem_filePaths hpath)
    exact hkept (hsame ▸ hid)
  avatars file hfile hpath := by
    have horphan : file.path ∉ data.orphanFilePaths := fun horphan =>
      (StoredData.mem_orphanFilePaths.mp horphan).2.2.2 hpath
    exact hdue.mem_disk hapart hfile (.inl horphan) fun other hother _ =>
      hapart.avatars other hother file.path hpath
  recentInteractions interaction hmem hrecent := by
    refine StoredData.mem_without_interactions.mpr ⟨hmem, fun hid => ?_⟩
    exact Int.not_le.mpr hrecent (hdue.interactions interaction hmem hid).2
  recentStreams stream hstream hrecent := by
    refine StoredData.mem_without_streams.mpr ⟨hstream, fun hid => ?_⟩
    exact Int.not_le.mpr hrecent (hclean.of_removed hdue hstream hid).2.1
  recentFiles file hfile hrecent := by
    refine hdue.mem_disk hapart hfile (.inr hrecent) fun other hother hid howns => ?_
    exact Int.not_le.mpr hrecent ((hclean.of_removed hdue hother hid).2.2 file hfile howns)

/-! ## All orphans -/

/-- **Nothing is left over** of what is old, unless an orphan only quoted it. -/
theorem CanBeCleaned.orphanData_eq (hclean : CanBeCleaned thresholdDate data)
    (hold : data.IsOld thresholdDate) (hcomplete : removal.IsComplete thresholdDate data) :
    (data.without removal).orphanData = ⟨[], [], []⟩ := by
  have hall : ∀ interaction ∈ data.interactions.objects, data.IsOrphan interaction →
      interaction.uniqueId ∈ removal.interactionIds := fun interaction hmem horphan =>
    hcomplete.allInteractions interaction hmem horphan (hold.interactions interaction hmem)
  have hinteractions : (data.without removal).orphanInteractionIds = [] := by
    refine List.eq_nil_iff_forall_not_mem.mpr fun id hid => ?_
    obtain ⟨interaction, hleft, horphan, -⟩ := StoredData.mem_orphanInteractionIds.mp hid
    obtain ⟨hmem, hkept⟩ := StoredData.mem_without_interactions.mp hleft
    exact hkept (hall interaction hmem horphan)
  have hattachments : (data.without removal).orphanAttachmentIds = [] := by
    refine List.eq_nil_iff_forall_not_mem.mpr fun id hid => ?_
    obtain ⟨⟨stream, hleft, rfl⟩, hunreferenced⟩ := StoredData.mem_orphanAttachmentIds.mp hid
    obtain ⟨hstream, hkept⟩ := StoredData.mem_without_streams.mp hleft
    have horphan : stream.uniqueId ∉ data.orphanAttachmentIds := fun horphan =>
      hkept (hcomplete.allStreams stream hstream horphan (hold.streams stream hstream))
    have hthreads : ∀ other ∈ data.interactions.objects, ¬ data.IsOrphan other →
        stream.uniqueId ∉ other.references := by
      intro other hother hthread
      refine hunreferenced other (StoredData.mem_without_interactions.mpr ⟨hother, fun hid => ?_⟩)
      exact hthread (hcomplete.interactions other hother hid).1
    -- Some interaction refers to it, and none that has a thread does.
    have hquoted : ∃ interaction ∈ data.interactions.objects,
        stream.uniqueId ∈ interaction.references := by
      by_contra hnone
      refine horphan (StoredData.mem_orphanAttachmentIds.mpr ⟨⟨stream, hstream, rfl⟩, ?_⟩)
      exact fun interaction hmem href => hnone ⟨interaction, hmem, href⟩
    obtain ⟨interaction, hinteraction, hreference⟩ := hquoted
    have hisOrphan : data.IsOrphan interaction := by
      by_contra hthread
      exact hthreads interaction hinteraction hthread hreference
    obtain ⟨other, hother, ⟨hthread, href⟩ | ⟨horphan', hcascade⟩⟩ :=
      hclean.quoted hold interaction hinteraction hisOrphan stream hstream hreference
    · exact hthreads other hother hthread href
    · exact hkept (hcomplete.cascaded other hother (hall other hother horphan') _ hcascade)
  have hfiles : (data.without removal).orphanFilePaths = [] := by
    refine List.eq_nil_iff_forall_not_mem.mpr fun path hpath => ?_
    obtain ⟨⟨file, hleft, rfl⟩, hdir, hstreams, havatars⟩ :=
      StoredData.mem_orphanFilePaths.mp hpath
    obtain ⟨hfile, -, howns⟩ := StoredData.mem_without_disk.mp hleft
    refine hcomplete.allFiles file hfile ?_ (hold.files file hfile) hleft
    refine StoredData.mem_orphanFilePaths.mpr ⟨⟨file, hfile, rfl⟩, hdir, ?_, havatars⟩
    intro stream hstream hmem
    have hkept : stream.uniqueId ∉ removal.attachmentIds := fun hid =>
      howns stream hstream hid (KeptStream.owns_of_mem_filePaths hmem)
    exact hstreams stream (StoredData.mem_without_streams.mpr ⟨hstream, hkept⟩)
      (KeptStream.mem_filePaths_of_mem hleft hmem)
  rw [StoredData.orphanData, hinteractions, hattachments, hfiles]

/-! ## The condition is exact -/

/-- What the cleanup takes with an old orphan it may take, if it removes only orphans. -/
theorem Removal.IsComplete.canBeCleaned (hcomplete : removal.IsComplete thresholdDate data)
    (honly : RemovesOrphansOnly thresholdDate data (data.without removal))
    (hall : data.IsOld thresholdDate → (data.without removal).orphanData = ⟨[], [], []⟩) :
    CanBeCleaned thresholdDate data := by
  have hfiles : ∀ stream ∈ data.streams, stream.uniqueId ∈ removal.attachmentIds →
      data.OwnsOldFiles thresholdDate stream := by
    intro stream hstream hid file hfile howns
    by_contra hrecent
    have hleft := honly.recentFiles file hfile (Int.not_le.mp hrecent)
    exact (StoredData.mem_without_disk.mp hleft).2.2 stream hstream hid howns
  have hstreams : ∀ stream ∈ data.streams, stream.uniqueId ∈ removal.attachmentIds →
      stream ∉ (data.without removal).streams := fun _ _ hid hleft =>
    (StoredData.mem_without_streams.mp hleft).2 hid
  constructor
  · intro interaction hmem horphan hdate stream hstream hcascade
    have hid := hcomplete.cascaded interaction hmem
      (hcomplete.allInteractions interaction hmem horphan hdate) _ hcascade
    have hgone := hstreams stream hstream hid
    refine ⟨fun other hother hthread href => ?_, ?_, hfiles stream hstream hid⟩
    · exact hgone (honly.streams other hother hthread stream hstream href)
    · by_contra hrecent
      exact hgone (honly.recentStreams stream hstream (Int.not_le.mp hrecent))
  · intro stream hstream hunreferenced hdate
    have horphan := StoredData.mem_orphanAttachmentIds.mpr ⟨⟨stream, hstream, rfl⟩, hunreferenced⟩
    exact hfiles stream hstream (hcomplete.allStreams stream hstream horphan hdate)
  · intro hold interaction hinteraction hisOrphan stream hstream hreference
    by_contra hnone
    have hkept : stream.uniqueId ∉ removal.attachmentIds := by
      intro hid
      rcases hcomplete.streams stream hstream hid with
        ⟨other, hother, hremoved, hcascade⟩ | ⟨horphan, -⟩
      · exact hnone ⟨other, hother,
          .inr ⟨(hcomplete.interactions other hother hremoved).1, hcascade⟩⟩
      · exact (StoredData.mem_orphanAttachmentIds.mp horphan).2 interaction hinteraction hreference
    have hleft := StoredData.mem_without_streams.mpr ⟨hstream, hkept⟩
    have hfound : stream.uniqueId ∈ (data.without removal).orphanAttachmentIds := by
      refine StoredData.mem_orphanAttachmentIds.mpr ⟨⟨stream, hleft, rfl⟩, ?_⟩
      intro other hother href
      obtain ⟨hmem, hnot⟩ := StoredData.mem_without_interactions.mp hother
      refine hnone ⟨other, hmem, .inl ⟨fun horphan => hnot ?_, href⟩⟩
      exact hcomplete.allInteractions other hmem horphan (hold.interactions other hmem)
    have hempty : (data.without removal).orphanAttachmentIds = [] :=
      congrArg OrphanData.attachmentIds (hall hold)
    rw [hempty] at hfound
    exact absurd hfound List.not_mem_nil

/-- What is stored, where everything has files of its own. -/
structure SoundData extends StoredData where
  filesApart : toStoredData.FilesApart

/-- **The cleanup removes exactly the orphans if and only if the data can be cleaned,** or it does
not get to the search. -/
theorem cleansExactly_iff (context : CleanupContext) (order : SetOrder) (data : SoundData) :
    CleansExactly context order data.toStoredData ↔
      (context.CanAudit → CanBeCleaned context.thresholdDate data.toStoredData) := by
  constructor
  · intro hexact hcontext
    obtain ⟨removal, hcomplete, heq⟩ :=
      isComplete_auditAndCleanup order data.toStoredData hcontext
    have honly := hexact.onlyOrphans fun _ => true
    have hall := hexact.allOrphans hcontext
    rw [heq] at honly hall
    exact hcomplete.canBeCleaned honly hall
  · intro hclean
    constructor
    · intro active
      by_cases hcontext : context.CanAudit
      · obtain ⟨removal, hdue, heq⟩ := @leftOver_auditAndCleanup context order active true
          data.toStoredData
        rw [heq]
        exact (hclean hcontext).removesOrphansOnly data.filesApart hdue
      · rw [auditAndCleanup_of_not hcontext]
        exact .refl _
    · intro hcontext hold
      obtain ⟨removal, hcomplete, heq⟩ :=
        isComplete_auditAndCleanup order data.toStoredData hcontext
      rw [heq]
      exact (hclean hcontext).orphanData_eq hold hcomplete

/-! ## An attachment that was downloaded after the launch -/

/-- The launch, and with it the threshold of 100 seconds after 1970. -/
def lateLaunch : CleanupContext where
  isAppReady := true
  isMainApp := true
  isRunningTests := false
  appLaunchTime := 1000000

def storedOrder : SetOrder where
  ids list := list
  paths list := list
  ids_perm _ := .refl _
  paths_perm _ := .refl _

def downloadedStream : KeptStream where
  uniqueId := "A"
  localRelativeFilePath := some ["A", "a.pdf"]
  isImage := false
  isVideo := false
  isAnimated := false
  creationTimestamp := 2000000

/-- The message with it, whose thread has been deleted since. -/
def orphanWithDownload : StoredData where
  directories := ⟨["documents"], ["shared"], ["caches"], ["tmp", "ows"], ["tmp"]⟩
  threadIds := []
  interactions := ⟨[⟨"M", "T", 1000, some ⟨["A"], none, none⟩⟩], by decide⟩
  attachments := ⟨[.stream downloadedStream], by decide⟩
  avatarFileNames := []
  disk := ⟨[⟨["shared", "Attachments", "A", "a.pdf"], 2000000⟩], by decide⟩

theorem orphanWithDownload_filesApart : orphanWithDownload.FilesApart where
  streams _ hs _ ht _ _ _ := (List.mem_singleton.mp hs).trans (List.mem_singleton.mp ht).symm
  avatars _ _ _ hpath := absurd hpath List.not_mem_nil
  disk _ hfile _ hother _ := (List.mem_singleton.mp hfile).trans (List.mem_singleton.mp hother).symm

/-- The old message goes, and takes with it what is recent. -/
theorem not_cleansExactly_downloaded :
    ¬ CleansExactly lateLaunch storedOrder
      (SoundData.mk orphanWithDownload orphanWithDownload_filesApart).toStoredData := by
  intro hexact
  have hkept := (hexact.onlyOrphans fun _ => true).recentStreams downloadedStream (by decide)
    (by decide)
  revert hkept
  decide

end ObjcSwiftLearning.Signal
