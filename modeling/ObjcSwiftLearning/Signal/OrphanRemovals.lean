import ObjcSwiftLearning.Signal.OrphanCleanup

/-!
# What the cleanup of orphan data removes

* `Removal.IsDue`, `leftOver_auditAndCleanup` — what the cleanup removes, **wherever it is given
  up**.
* `Removal.IsComplete`, `isComplete_auditAndCleanup` — what it has removed where it is not.
-/

namespace ObjcSwiftLearning.Signal

/-! ## Removals that are due -/

/-- What may be removed, and with what: orphans that are not dated after the threshold, and the
cascades of the interactions among them. -/
structure Removal.IsDue (thresholdDate : ℤ) (data : StoredData) (removal : Removal) : Prop where
  interactions : ∀ interaction ∈ data.interactions.objects,
    interaction.uniqueId ∈ removal.interactionIds →
      data.IsOrphan interaction ∧ interaction.creationDate ≤ thresholdDate
  cascaded : ∀ interaction ∈ data.interactions.objects,
    interaction.uniqueId ∈ removal.interactionIds →
      ∀ id ∈ interaction.cascade, id ∈ removal.attachmentIds
  streams : ∀ stream ∈ data.streams, stream.uniqueId ∈ removal.attachmentIds →
    (∃ interaction ∈ data.interactions.objects,
      interaction.uniqueId ∈ removal.interactionIds ∧ stream.uniqueId ∈ interaction.cascade) ∨
    stream.uniqueId ∈ data.orphanAttachmentIds ∧ stream.creationTimestamp ≤ thresholdDate
  files : ∀ path ∈ removal.filePaths, path ∈ data.orphanFilePaths ∧
    ∃ file ∈ data.disk.objects, file.path = path ∧ file.modificationDate ≤ thresholdDate

namespace Removal.IsDue

variable {thresholdDate : ℤ} {data : StoredData} {removal removal' : Removal}

/-- Nothing is removed. -/
theorem empty : IsDue thresholdDate data ⟨[], [], []⟩ where
  interactions _ _ hid := absurd hid List.not_mem_nil
  cascaded _ _ hid := absurd hid List.not_mem_nil
  streams _ _ hid := absurd hid List.not_mem_nil
  files _ hpath := absurd hpath List.not_mem_nil

theorem append (h : removal.IsDue thresholdDate data) (h' : removal'.IsDue thresholdDate data) :
    (removal ++ removal').IsDue thresholdDate data where
  interactions interaction hmem hid := by
    rcases List.mem_append.mp hid with hid | hid
    · exact h.interactions interaction hmem hid
    · exact h'.interactions interaction hmem hid
  cascaded interaction hmem hid id hcascade := by
    rcases List.mem_append.mp hid with hid | hid
    · exact List.mem_append_left _ (h.cascaded interaction hmem hid id hcascade)
    · exact List.mem_append_right _ (h'.cascaded interaction hmem hid id hcascade)
  streams stream hmem hid := by
    rcases List.mem_append.mp hid with hid | hid
    · refine (h.streams stream hmem hid).imp_left ?_
      rintro ⟨interaction, hinteraction, hremoved, hcascade⟩
      exact ⟨interaction, hinteraction, List.mem_append_left _ hremoved, hcascade⟩
    · refine (h'.streams stream hmem hid).imp_left ?_
      rintro ⟨interaction, hinteraction, hremoved, hcascade⟩
      exact ⟨interaction, hinteraction, List.mem_append_right _ hremoved, hcascade⟩
  files path hpath := (List.mem_append.mp hpath).elim (h.files path) (h'.files path)

/-- An old orphan and its cascade. -/
theorem interaction {interaction : KeptInteraction}
    (hmem : interaction ∈ data.interactions.objects)
    (horphan : interaction.uniqueId ∈ data.orphanInteractionIds)
    (hold : interaction.creationDate ≤ thresholdDate) :
    IsDue thresholdDate data ⟨[interaction.uniqueId], interaction.cascade, []⟩ := by
  obtain ⟨other, hother, hisOrphan, hid⟩ := StoredData.mem_orphanInteractionIds.mp horphan
  cases Collection.eq_of_key hother hmem hid
  constructor
  · intro other hother hid
    cases Collection.eq_of_key hother hmem (List.mem_singleton.mp hid)
    exact ⟨hisOrphan, hold⟩
  · intro other hother hid id hcascade
    cases Collection.eq_of_key hother hmem (List.mem_singleton.mp hid)
    exact hcascade
  · exact fun stream _ hid => .inl ⟨_, hmem, List.mem_singleton.mpr rfl, hid⟩
  · exact fun _ hpath => absurd hpath List.not_mem_nil

theorem stream {stream : KeptStream} (hmem : stream ∈ data.streams)
    (horphan : stream.uniqueId ∈ data.orphanAttachmentIds)
    (hold : stream.creationTimestamp ≤ thresholdDate) :
    IsDue thresholdDate data ⟨[], [stream.uniqueId], []⟩ where
  interactions _ _ hid := absurd hid List.not_mem_nil
  cascaded _ _ hid := absurd hid List.not_mem_nil
  streams other hother hid := by
    cases StoredData.stream_eq_of_uniqueId hother hmem (List.mem_singleton.mp hid)
    exact .inr ⟨horphan, hold⟩
  files _ hpath := absurd hpath List.not_mem_nil

theorem file {file : DiskFile} (hmem : file ∈ data.disk.objects)
    (horphan : file.path ∈ data.orphanFilePaths) (hold : file.modificationDate ≤ thresholdDate) :
    IsDue thresholdDate data ⟨[], [], [file.path]⟩ where
  interactions _ _ hid := absurd hid List.not_mem_nil
  cascaded _ _ hid := absurd hid List.not_mem_nil
  streams _ _ hid := absurd hid List.not_mem_nil
  files path hpath := by
    cases List.mem_singleton.mp hpath
    exact ⟨horphan, file, hmem, rfl, hold⟩

end Removal.IsDue

/-! ## What each step removes -/

namespace StoredData

variable (thresholdDate : ℤ)

/-- An interaction that is left with the id is dated after the threshold. -/
def InteractionDone (id : String) (data : StoredData) : Prop :=
  ∀ interaction ∈ data.interactions.objects, interaction.uniqueId = id →
    thresholdDate < interaction.creationDate

def StreamDone (id : String) (data : StoredData) : Prop :=
  ∀ stream ∈ data.streams, stream.uniqueId = id → thresholdDate < stream.creationTimestamp

def FileDone (path : ComponentPath) (data : StoredData) : Prop :=
  ∀ file ∈ data.disk.objects, file.path = path → thresholdDate < file.modificationDate

variable {thresholdDate} {shouldRemoveOrphans : Bool} {data : StoredData} {removal : Removal}
  {id : String} {path : ComponentPath} {P : StoredData → Prop}

theorem InteractionDone.without (h : InteractionDone thresholdDate id data) :
    InteractionDone thresholdDate id (data.without removal) :=
  fun interaction hmem => h interaction (mem_without_interactions.mp hmem).1

theorem StreamDone.without (h : StreamDone thresholdDate id data) :
    StreamDone thresholdDate id (data.without removal) :=
  fun stream hmem => h stream (mem_without_streams.mp hmem).1

theorem FileDone.without (h : FileDone thresholdDate path data) :
    FileDone thresholdDate path (data.without removal) :=
  fun file hmem => h file (mem_without_disk.mp hmem).1

section

variable (thresholdDate) (shouldRemoveOrphans) (data)

theorem processInteraction_cases (id : String) :
    (data.processInteraction thresholdDate shouldRemoveOrphans id = data ∧
      (shouldRemoveOrphans = true → InteractionDone thresholdDate id data)) ∨
      ∃ interaction ∈ data.interactions.objects, interaction.uniqueId = id ∧
        interaction.creationDate ≤ thresholdDate ∧
        data.processInteraction thresholdDate shouldRemoveOrphans id =
          data.without ⟨[interaction.uniqueId], interaction.cascade, []⟩ := by
  rw [processInteraction]
  cases hfind : data.interactions.find id with
  | none =>
      have hnone := Collection.find_eq_none_iff.mp hfind
      exact .inl ⟨rfl, fun _ interaction hmem hid => absurd hid (hnone interaction hmem)⟩
  | some interaction =>
      obtain ⟨hmem, hid⟩ := Collection.find_eq_some_iff.mp hfind
      by_cases hrecent : thresholdDate < interaction.creationDate
      · refine .inl ⟨if_pos hrecent, fun _ other hother hother' => ?_⟩
        cases Collection.eq_of_key hother hmem (hother'.trans hid.symm)
        exact hrecent
      · cases shouldRemoveOrphans with
        | false => exact .inl ⟨if_neg hrecent, fun h => absurd h Bool.false_ne_true⟩
        | true =>
            refine .inr ⟨interaction, hmem, hid, Int.not_lt.mp hrecent, ?_⟩
            rw [← removeInteraction_eq]
            exact if_neg hrecent

theorem processAttachment_cases (id : String) :
    (data.processAttachment thresholdDate shouldRemoveOrphans id = data ∧
      (shouldRemoveOrphans = true → StreamDone thresholdDate id data)) ∨
      ∃ stream ∈ data.streams, stream.uniqueId = id ∧
        stream.creationTimestamp ≤ thresholdDate ∧
        data.processAttachment thresholdDate shouldRemoveOrphans id =
          data.without ⟨[], [stream.uniqueId], []⟩ := by
  rw [processAttachment]
  cases hfind : data.attachments.find id with
  | none =>
      have hnone := Collection.find_eq_none_iff.mp hfind
      exact .inl ⟨rfl, fun _ stream hmem hid => absurd hid (hnone _ (mem_streams.mp hmem))⟩
  | some attachment =>
      obtain ⟨hmem, hid⟩ := Collection.find_eq_some_iff.mp hfind
      cases attachment with
      | pointer other =>
          refine .inl ⟨rfl, fun _ stream hstream hid' => ?_⟩
          have heq := Collection.eq_of_key (mem_streams.mp hstream) hmem (hid'.trans hid.symm)
          cases heq
      | stream stream =>
          have hstream := mem_streams.mpr hmem
          by_cases hrecent : thresholdDate < stream.creationTimestamp
          · refine .inl ⟨if_pos hrecent, fun _ other hother hother' => ?_⟩
            cases stream_eq_of_uniqueId hother hstream (hother'.trans hid.symm)
            exact hrecent
          · cases shouldRemoveOrphans with
            | false => exact .inl ⟨if_neg hrecent, fun h => absurd h Bool.false_ne_true⟩
            | true =>
                refine .inr ⟨stream, hstream, hid, Int.not_lt.mp hrecent, ?_⟩
                have hremove := @removeAttachmentWithId_eq data id
                rw [removeAttachmentWithId, hfind] at hremove
                rw [show stream.uniqueId = id from hid, ← hremove]
                exact if_neg hrecent

theorem processFile_cases (path : ComponentPath) :
    (data.processFile thresholdDate shouldRemoveOrphans path = data ∧
      (shouldRemoveOrphans = true → FileDone thresholdDate path data)) ∨
      ∃ file ∈ data.disk.objects, file.path = path ∧ file.modificationDate ≤ thresholdDate ∧
        data.processFile thresholdDate shouldRemoveOrphans path =
          data.without ⟨[], [], [file.path]⟩ := by
  rw [processFile]
  cases hfind : data.disk.find path with
  | none =>
      have hnone := Collection.find_eq_none_iff.mp hfind
      exact .inl ⟨rfl, fun _ file hmem hpath => absurd hpath (hnone file hmem)⟩
  | some file =>
      obtain ⟨hmem, hpath⟩ := Collection.find_eq_some_iff.mp hfind
      by_cases hrecent : thresholdDate < file.modificationDate
      · refine .inl ⟨if_pos hrecent, fun _ other hother hother' => ?_⟩
        cases Collection.eq_of_key hother hmem (hother'.trans hpath.symm)
        exact hrecent
      · cases shouldRemoveOrphans with
        | false => exact .inl ⟨if_neg hrecent, fun h => absurd h Bool.false_ne_true⟩
        | true =>
            refine .inr ⟨file, hmem, hpath, Int.not_lt.mp hrecent, ?_⟩
            rw [hpath, ← removeItem_eq]
            exact if_neg hrecent

end

section

variable (hP : ∀ data removal, P data → P (data.without removal)) (h : P data)
include hP h

/-- What every removal keeps, the three bodies keep. -/
theorem processInteraction_keeps :
    P (data.processInteraction thresholdDate shouldRemoveOrphans id) := by
  rcases processInteraction_cases thresholdDate shouldRemoveOrphans data id with
    ⟨heq, -⟩ | ⟨_, -, -, -, heq⟩
  · rw [heq]
    exact h
  · rw [heq]
    exact hP data _ h

theorem processAttachment_keeps :
    P (data.processAttachment thresholdDate shouldRemoveOrphans id) := by
  rcases processAttachment_cases thresholdDate shouldRemoveOrphans data id with
    ⟨heq, -⟩ | ⟨_, -, -, -, heq⟩
  · rw [heq]
    exact h
  · rw [heq]
    exact hP data _ h

theorem processFile_keeps : P (data.processFile thresholdDate shouldRemoveOrphans path) := by
  rcases processFile_cases thresholdDate shouldRemoveOrphans data path with
    ⟨heq, -⟩ | ⟨_, -, -, -, heq⟩
  · rw [heq]
    exact h
  · rw [heq]
    exact hP data _ h

end

/-- **After its round an old orphan is gone.** -/
theorem interactionDone_processInteraction (id : String) :
    InteractionDone thresholdDate id (data.processInteraction thresholdDate true id) := by
  rcases processInteraction_cases thresholdDate true data id with
    ⟨heq, hdone⟩ | ⟨_, -, rfl, -, heq⟩
  · rw [heq]
    exact hdone rfl
  · rw [heq]
    intro interaction hmem hid
    exact absurd (List.mem_singleton.mpr hid) (mem_without_interactions.mp hmem).2

theorem streamDone_processAttachment (id : String) :
    StreamDone thresholdDate id (data.processAttachment thresholdDate true id) := by
  rcases processAttachment_cases thresholdDate true data id with
    ⟨heq, hdone⟩ | ⟨_, -, rfl, -, heq⟩
  · rw [heq]
    exact hdone rfl
  · rw [heq]
    intro stream hmem hid
    exact absurd (List.mem_singleton.mpr hid) (mem_without_streams.mp hmem).2

theorem fileDone_processFile (path : ComponentPath) :
    FileDone thresholdDate path (data.processFile thresholdDate true path) := by
  rcases processFile_cases thresholdDate true data path with
    ⟨heq, hdone⟩ | ⟨_, -, rfl, -, heq⟩
  · rw [heq]
    exact hdone rfl
  · rw [heq]
    intro file hmem hpath
    have hnot := (mem_without_disk.mp hmem).2.1 _ (List.mem_singleton.mpr rfl)
    exact absurd (hpath ▸ List.prefix_refl _) hnot

end StoredData

/-! ## Runs -/

def LeftOver (thresholdDate : ℤ) (data left : StoredData) : Prop :=
  ∃ removal : Removal, removal.IsDue thresholdDate data ∧ left = data.without removal

namespace LeftOver

variable {thresholdDate : ℤ} {shouldRemoveOrphans : Bool} {data left : StoredData} {id : String}
  {path : ComponentPath}

theorem refl (data : StoredData) : LeftOver thresholdDate data data :=
  ⟨_, .empty, StoredData.without_empty.symm⟩

theorem without {removal : Removal} (h : LeftOver thresholdDate data left)
    (hdue : removal.IsDue thresholdDate data) :
    LeftOver thresholdDate data (left.without removal) := by
  obtain ⟨before, hbefore, rfl⟩ := h
  exact ⟨before ++ removal, hbefore.append hdue, StoredData.without_without⟩

section

variable (h : LeftOver thresholdDate data left)
include h

theorem subset :
    left.interactions.objects ⊆ data.interactions.objects ∧ left.streams ⊆ data.streams ∧
      left.disk.objects ⊆ data.disk.objects := by
  obtain ⟨removal, -, rfl⟩ := h
  exact ⟨fun _ hmem => (StoredData.mem_without_interactions.mp hmem).1,
    fun _ hmem => (StoredData.mem_without_streams.mp hmem).1,
    fun _ hmem => (StoredData.mem_without_disk.mp hmem).1⟩

theorem processInteraction (hid : id ∈ data.orphanInteractionIds) :
    LeftOver thresholdDate data
      (left.processInteraction thresholdDate shouldRemoveOrphans id) := by
  rcases StoredData.processInteraction_cases thresholdDate shouldRemoveOrphans left id with
    ⟨heq, -⟩ | ⟨interaction, hmem, rfl, hold, heq⟩
  · rw [heq]
    exact h
  · rw [heq]
    exact h.without (.interaction (h.subset.1 hmem) hid hold)

theorem processAttachment (hid : id ∈ data.orphanAttachmentIds) :
    LeftOver thresholdDate data
      (left.processAttachment thresholdDate shouldRemoveOrphans id) := by
  rcases StoredData.processAttachment_cases thresholdDate shouldRemoveOrphans left id with
    ⟨heq, -⟩ | ⟨stream, hmem, rfl, hold, heq⟩
  · rw [heq]
    exact h
  · rw [heq]
    exact h.without (.stream (h.subset.2.1 hmem) hid hold)

theorem processFile (hpath : path ∈ data.orphanFilePaths) :
    LeftOver thresholdDate data (left.processFile thresholdDate shouldRemoveOrphans path) := by
  rcases StoredData.processFile_cases thresholdDate shouldRemoveOrphans left path with
    ⟨heq, -⟩ | ⟨file, hmem, rfl, hold, heq⟩
  · rw [heq]
    exact h
  · rw [heq]
    exact h.without (.file (h.subset.2.2 hmem) hpath hold)

end

end LeftOver

section

variable {context : CleanupContext} {order : SetOrder} {active : ℕ → Bool}
  {shouldRemoveOrphans : Bool} {data : StoredData}

/-- Wherever the processing of the orphans is given up, only what is due has been removed. -/
theorem keeps_processOrphansSync :
    Abortable.Keeps (LeftOver context.thresholdDate data)
      (processOrphansSync context order active shouldRemoveOrphans data.orphanData) := by
  refine .andThen (.andThen ?_ ?_) ?_
  · refine Abortable.keeps_forEach fun id hid left h => h.processInteraction ?_
    exact (order.ids_perm _).mem_iff.mp hid
  · refine Abortable.keeps_forEach fun id hid left h => h.processAttachment ?_
    exact (order.ids_perm _).mem_iff.mp hid
  · refine Abortable.keeps_forEach fun path hpath left h => h.processFile ?_
    exact (order.paths_perm _).mem_iff.mp hpath

/-- **Where the app stays active every orphan is dealt with.** -/
theorem achieves_processOrphansSync (hactive : ∀ looks, active looks = true) :
    Abortable.Achieves (LeftOver context.thresholdDate data)
      (processOrphansSync context order active true data.orphanData)
      fun left => ((LeftOver context.thresholdDate data left ∧
        ∀ id ∈ order.ids data.orphanInteractionIds,
          left.InteractionDone context.thresholdDate id) ∧
        ∀ id ∈ order.ids data.orphanAttachmentIds, left.StreamDone context.thresholdDate id) ∧
        ∀ path ∈ order.paths data.orphanFilePaths, left.FileDone context.thresholdDate path := by
  have hinteraction := fun id left removal =>
    @StoredData.InteractionDone.without context.thresholdDate left removal id
  have hstream := fun id left removal =>
    @StoredData.StreamDone.without context.thresholdDate left removal id
  have hfile := fun path left removal =>
    @StoredData.FileDone.without context.thresholdDate left removal path
  refine ((Abortable.achieves_forEach hactive ?_ ?_ ?_).andThen
    (Abortable.achieves_forEach hactive ?_ ?_ ?_)).andThen
    (Abortable.achieves_forEach hactive ?_ ?_ ?_)
  · exact fun id hid left h => h.processInteraction ((order.ids_perm _).mem_iff.mp hid)
  · exact fun id left _ => StoredData.interactionDone_processInteraction id
  · exact fun id _ left => StoredData.processInteraction_keeps (hinteraction id)
  · intro id hid left h
    exact ⟨h.1.processAttachment ((order.ids_perm _).mem_iff.mp hid),
      fun id hid => StoredData.processAttachment_keeps (hinteraction id) (h.2 id hid)⟩
  · exact fun id left _ => StoredData.streamDone_processAttachment id
  · exact fun id _ left => StoredData.processAttachment_keeps (hstream id)
  · intro path hpath left h
    exact ⟨⟨h.1.1.processFile ((order.paths_perm _).mem_iff.mp hpath),
      fun id hid => StoredData.processFile_keeps (hinteraction id) (h.1.2 id hid)⟩,
      fun id hid => StoredData.processFile_keeps (hstream id) (h.2 id hid)⟩
  · exact fun path left _ => StoredData.fileDone_processFile path
  · exact fun path _ left => StoredData.processFile_keeps (hfile path)

theorem findOrphanDataWithRetries_eq (active : ℕ → Bool) (data : StoredData)
    (remainingRetries looks : ℕ) :
    (findOrphanDataWithRetries active data remainingRetries looks).1 = none ∨
      (findOrphanDataWithRetries active data remainingRetries looks).1 = some data.orphanData := by
  induction remainingRetries generalizing looks with
  | zero => exact .inl rfl
  | succ remainingRetries ih =>
      rw [findOrphanDataWithRetries, StoredData.findOrphanDataSync]
      cases active looks with
      | true => exact .inr rfl
      | false => exact ih (looks + 1)

/-- **Wherever the cleanup is given up, only what is due has been removed.** -/
theorem leftOver_auditAndCleanup :
    LeftOver context.thresholdDate data
      (auditAndCleanup context order active shouldRemoveOrphans data) := by
  rw [auditAndCleanup]
  split
  · exact .refl data
  split
  · exact .refl data
  split
  · exact .refl data
  split
  · exact .refl data
  · rename_i orphanData looks hfind
    have horphans : orphanData = data.orphanData := by
      rcases findOrphanDataWithRetries_eq active data kMaxRetries 0 with hnone | hsome
      · rw [hfind] at hnone
        cases hnone
      · rw [hfind] at hsome
        exact Option.some.inj hsome
    rw [horphans]
    exact keeps_processOrphansSync.retry kMaxRetries data looks (.refl data)

end

/-- Whether `auditAndCleanup:` gets to the search. -/
def CleanupContext.CanAudit (context : CleanupContext) : Prop :=
  context.isAppReady = true ∧ context.isMainApp = true ∧ context.isRunningTests = false

theorem auditAndCleanup_of_not {context : CleanupContext} {order : SetOrder} {active : ℕ → Bool}
    {shouldRemoveOrphans : Bool} {data : StoredData} (hcontext : ¬ context.CanAudit) :
    auditAndCleanup context order active shouldRemoveOrphans data = data := by
  rw [auditAndCleanup]
  split
  · rfl
  split
  · rfl
  split
  · rfl
  · rename_i hready hmain htests
    exact absurd ⟨by simpa using hready, by simpa using hmain, by simpa using htests⟩ hcontext

/-- What has been removed where nothing was given up. -/
structure Removal.IsComplete (thresholdDate : ℤ) (data : StoredData) (removal : Removal) : Prop
    extends removal.IsDue thresholdDate data where
  allInteractions : ∀ interaction ∈ data.interactions.objects, data.IsOrphan interaction →
    interaction.creationDate ≤ thresholdDate → interaction.uniqueId ∈ removal.interactionIds
  allStreams : ∀ stream ∈ data.streams, stream.uniqueId ∈ data.orphanAttachmentIds →
    stream.creationTimestamp ≤ thresholdDate → stream.uniqueId ∈ removal.attachmentIds
  allFiles : ∀ file ∈ data.disk.objects, file.path ∈ data.orphanFilePaths →
    file.modificationDate ≤ thresholdDate → file ∉ (data.without removal).disk.objects

/-- **Where the app stays active the cleanup removes all that is due.** -/
theorem isComplete_auditAndCleanup {context : CleanupContext} (order : SetOrder)
    (data : StoredData) (hcontext : context.CanAudit) :
    ∃ removal : Removal, removal.IsComplete context.thresholdDate data ∧
      auditAndCleanup context order (fun _ => true) true data = data.without removal := by
  obtain ⟨hready, hmain, htests⟩ := hcontext
  have hrun : auditAndCleanup context order (fun _ => true) true data =
      (processOrphans context order (fun _ => true) true data.orphanData kMaxRetries
        data 1).2.1 := by
    simp [auditAndCleanup, hready, hmain, htests, findOrphanDataWithRetries, kMaxRetries,
      StoredData.findOrphanDataSync]
  obtain ⟨-, ⟨⟨⟨removal, hdue, heq⟩, hinteractions⟩, hstreams⟩, hfiles⟩ :=
    (achieves_processOrphansSync fun _ => rfl).retry 2 data 1 (.refl data)
  rw [heq] at hinteractions hstreams hfiles
  refine ⟨removal, ⟨hdue, ?_, ?_, ?_⟩, hrun.trans heq⟩
  · intro interaction hmem horphan hold
    by_contra hkept
    have hid := StoredData.mem_orphanInteractionIds.mpr ⟨interaction, hmem, horphan, rfl⟩
    have hleft := StoredData.mem_without_interactions.mpr ⟨hmem, hkept⟩
    have hrecent := hinteractions _ ((order.ids_perm _).mem_iff.mpr hid) interaction hleft rfl
    exact absurd hold (Int.not_le.mpr hrecent)
  · intro stream hmem hid hold
    by_contra hkept
    have hleft := StoredData.mem_without_streams.mpr ⟨hmem, hkept⟩
    have hrecent := hstreams _ ((order.ids_perm _).mem_iff.mpr hid) stream hleft rfl
    exact absurd hold (Int.not_le.mpr hrecent)
  · intro file _ hpath hold hleft
    have hrecent := hfiles _ ((order.paths_perm _).mem_iff.mpr hpath) file hleft rfl
    exact absurd hold (Int.not_le.mpr hrecent)

end ObjcSwiftLearning.Signal
