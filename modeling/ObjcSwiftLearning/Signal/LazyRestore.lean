import ObjcSwiftLearning.Signal.BackupDatabase

/-!
# Lazy restore

After a backup was imported, the files of its attachments are restored one after the other, while
attachments may be deleted.

* `RestoreStore.lazyRestoreAttachment` — the restore of one attachment.
* `LazyRestoreJob.tryToRestoreNextAttachment` — one call of the job's recursion.
* `LazyRestoreJob.clears_of_moves` — **a mark is cleared only by the move into place.**
* `LazyRestoreJob.restores_iff` — **the job ends, having tried every attachment,** if and only if
  none is deleted before its turn.
-/

namespace ObjcSwiftLearning.Signal

open AxolotlKit

/-! ## One attachment -/

/-- `TSAttachmentStream`, as far as it is lazily restored. -/
structure LazyAttachment where
  originalFilePath : Option String
  /-- The mark: with a fragment the attachment is pending. -/
  lazyRestoreFragment : Option OWSBackupFragment
  deriving DecidableEq

/-- The stored attachments, and the files. -/
structure RestoreStore where
  attachments : String → Option LazyAttachment
  files : String → Option NSData

/-- How the steps of a restore end. -/
structure LazyRestoreOutcome where
  /-- `downloadFileFromCloudWithRecordName:…`. -/
  downloads : Bool
  /-- `dataWithContentsOfFile:`. -/
  loads : Bool
  /-- `decryptFileAsFile:…`, with what is in the file. -/
  decrypts : Option NSData
  ensuresDirectory : Bool
  /-- `moveItemAtPath:toPath:`. -/
  moves : Bool

namespace RestoreStore

variable (store : RestoreStore)

/-- `updateWithLazyRestoreComplete`; nothing is stored that has been deleted. -/
def updateWithLazyRestoreComplete (attachmentId : String) : RestoreStore :=
  { store with attachments := fun key =>
      if key = attachmentId then
        (store.attachments key).map fun attachment =>
          { attachment with lazyRestoreFragment := none }
      else store.attachments key }

/-- The second part of `lazyRestoreAttachment:…`, with the downloaded file. -/
def lazyRestoreDownloaded (attachmentId attachmentFilePath : String)
    (outcome : LazyRestoreOutcome) : Bool × RestoreStore :=
  if !outcome.loads then (false, store)
  else
    match outcome.decrypts with
    | none => (false, store)
    | some decryptedFile =>
        if !outcome.ensuresDirectory then (false, store)
        else if !outcome.moves then (false, store)
        else
          let moved := { store with
            files := Function.update store.files attachmentFilePath (some decryptedFile) }
          (true, moved.updateWithLazyRestoreComplete attachmentId)

/-- `lazyRestoreAttachment:backupIO:completion:`, with what it completes with. -/
def lazyRestoreAttachment (attachmentId : String) (attachment : LazyAttachment)
    (outcome : LazyRestoreOutcome) : Bool × RestoreStore :=
  match attachment.originalFilePath with
  | none => (false, store)
  | some attachmentFilePath =>
      if attachmentFilePath.length < 1 then (false, store)
      else if (store.files attachmentFilePath).isSome then (false, store)
      else
        match attachment.lazyRestoreFragment with
        | none => (false, store)
        | some lazyRestoreFragment =>
            if lazyRestoreFragment.recordName.length < 1 ∨
                lazyRestoreFragment.encryptionKey.length < 1 then (false, store)
            else if !outcome.downloads then (false, store)
            else store.lazyRestoreDownloaded attachmentId attachmentFilePath outcome

def delete (deleted : String → Bool) : RestoreStore :=
  { store with attachments := fun key => if deleted key then none else store.attachments key }

end RestoreStore

/-! ## The job -/

/-- `OWSBackupLazyRestoreJob`, in the course of its recursion. -/
structure LazyRestoreJob where
  attachmentIds : List String
  store : RestoreStore
  /-- The ids considered so far, and whether there was such an attachment. -/
  considered : List (String × Bool)
  /-- The calls of `lazyRestoreAttachment:…` so far. -/
  restored : List String

namespace LazyRestoreJob

/-- One call of `tryToRestoreNextAttachment(attachmentIds:backupIO:)`; with an attachment, until it
is called again on completion. -/
def tryToRestoreNextAttachment (job : LazyRestoreJob) (outcome : LazyRestoreOutcome) :
    LazyRestoreJob :=
  match job.attachmentIds.getLast? with
  | none => job
  | some attachmentId =>
      match job.store.attachments attachmentId with
      | none =>
          -- the ids of the next call are those of this one
          { job with considered := job.considered ++ [(attachmentId, false)] }
      | some attachment =>
          { attachmentIds := job.attachmentIds.dropLast
            store := (job.store.lazyRestoreAttachment attachmentId attachment outcome).2
            considered := job.considered ++ [(attachmentId, true)]
            restored := job.restored ++ [attachmentId] }

/-- What comes from outside, call by call. -/
structure Events where
  /-- The attachments deleted before the call. -/
  deleted : ℕ → String → Bool
  outcome : ℕ → LazyRestoreOutcome

def start (attachmentIds : List String) (store : RestoreStore) : LazyRestoreJob where
  attachmentIds
  store
  considered := []
  restored := []

/-- The job when a call is made. -/
def delete (job : LazyRestoreJob) (deleted : String → Bool) : LazyRestoreJob :=
  { job with store := job.store.delete deleted }

/-- The job after some calls. -/
def run (attachmentIds : List String) (store : RestoreStore) (events : Events) :
    ℕ → LazyRestoreJob
  | 0 => start attachmentIds store
  | count + 1 =>
      ((run attachmentIds store events count).delete
        (events.deleted count)).tryToRestoreNextAttachment (events.outcome count)

/-! ## What a restore does -/

end LazyRestoreJob

namespace RestoreStore

variable {store : RestoreStore}

/-- A restore leaves the store, or it moves a file into place and clears the mark. -/
theorem lazyRestoreAttachment_cases (attachmentId : String) (attachment : LazyAttachment)
    (outcome : LazyRestoreOutcome) :
    (store.lazyRestoreAttachment attachmentId attachment outcome).2 = store ∨
      ∃ attachmentFilePath decryptedFile,
        attachment.originalFilePath = some attachmentFilePath ∧
        (outcome.moves = true ∧ store.files attachmentFilePath = none ∧
          outcome.decrypts = some decryptedFile) ∧
        (store.lazyRestoreAttachment attachmentId attachment outcome).2 =
          { store with
            files := Function.update store.files attachmentFilePath
              (some decryptedFile) }.updateWithLazyRestoreComplete attachmentId := by
  unfold lazyRestoreAttachment lazyRestoreDownloaded
  split
  · exact .inl rfl
  · next attachmentFilePath hpath =>
      split
      · exact .inl rfl
      · split
        · exact .inl rfl
        · next hfree =>
          split
          · exact .inl rfl
          · split
            · exact .inl rfl
            · split
              · exact .inl rfl
              · split
                · exact .inl rfl
                · split
                  · exact .inl rfl
                  · next decryptedFile hdecrypts =>
                      split
                      · exact .inl rfl
                      · split
                        · exact .inl rfl
                        · next hmoves =>
                            exact .inr ⟨attachmentFilePath, decryptedFile, hpath,
                              ⟨by simpa using hmoves, by simpa using hfree, hdecrypts⟩, rfl⟩

theorem isSome_lazyRestoreAttachment (attachmentId : String) (attachment : LazyAttachment)
    (outcome : LazyRestoreOutcome) (key : String) :
    ((store.lazyRestoreAttachment attachmentId attachment outcome).2.attachments key).isSome =
      (store.attachments key).isSome := by
  rcases lazyRestoreAttachment_cases attachmentId attachment outcome with hsame | hmoved
  · rw [hsame]
  · obtain ⟨attachmentFilePath, decryptedFile, -, -, hmoved⟩ := hmoved
    rw [hmoved, updateWithLazyRestoreComplete]
    dsimp only
    split
    · exact Option.isSome_map
    · rfl

end RestoreStore

namespace LazyRestoreJob

variable {attachmentIds : List String} {store : RestoreStore} {events : Events}
  {attachmentId : String} {others : List String}

theorem isSome_tryToRestoreNextAttachment (job : LazyRestoreJob) (outcome : LazyRestoreOutcome)
    (key : String) :
    ((job.tryToRestoreNextAttachment outcome).store.attachments key).isSome =
      (job.store.attachments key).isSome := by
  unfold tryToRestoreNextAttachment
  split
  · rfl
  · split
    · rfl
    · exact RestoreStore.isSome_lazyRestoreAttachment _ _ _ _

theorem isSome_delete (job : LazyRestoreJob) (deleted : String → Bool) (key : String) :
    ((job.delete deleted).store.attachments key).isSome =
      (!deleted key && (job.store.attachments key).isSome) := by
  unfold delete RestoreStore.delete
  dsimp only
  cases deleted key with
  | true => rfl
  | false => rfl

/-- Whether there is an attachment when a call is made. -/
def there (attachmentIds : List String) (store : RestoreStore) (events : Events) (count : ℕ)
    (key : String) : Bool :=
  (((run attachmentIds store events count).delete (events.deleted count)).store.attachments
    key).isSome

/-- What is there was stored, and has not been deleted. -/
theorem there_iff (count : ℕ) (key : String) :
    there attachmentIds store events count key = true ↔
      (store.attachments key).isSome = true ∧ ∀ time ≤ count, events.deleted time key = false := by
  induction count with
  | zero =>
      rw [there, isSome_delete, Bool.and_eq_true, Bool.not_eq_true']
      constructor
      · rintro ⟨hdeleted, hstored⟩
        exact ⟨hstored, fun time htime => Nat.le_zero.mp htime ▸ hdeleted⟩
      · rintro ⟨hstored, hdeleted⟩
        exact ⟨hdeleted 0 (Nat.le_refl 0), hstored⟩
  | succ count ih =>
      rw [there, isSome_delete, run, isSome_tryToRestoreNextAttachment, Bool.and_eq_true,
        Bool.not_eq_true']
      change _ ∧ there attachmentIds store events count key = true ↔ _
      rw [ih]
      constructor
      · rintro ⟨hlast, hstored, hdeleted⟩
        refine ⟨hstored, fun time htime => ?_⟩
        rcases Nat.le_succ_iff.mp htime with hle | rfl
        · exact hdeleted time hle
        · exact hlast
      · rintro ⟨hstored, hdeleted⟩
        exact ⟨hdeleted _ (Nat.le_refl _), hstored,
          fun time htime => hdeleted time (Nat.le_trans htime (Nat.le_succ _))⟩

theorem getLast?_delete {job : LazyRestoreJob} {deleted : String → Bool}
    (hids : job.attachmentIds = others ++ [attachmentId]) :
    (job.delete deleted).attachmentIds.getLast? = some attachmentId := by
  rw [delete, hids, List.getLast?_concat]

section

variable {count : ℕ}
  (hids : (run attachmentIds store events count).attachmentIds = others ++ [attachmentId])
include hids

theorem run_succ_of_there (hthere : there attachmentIds store events count attachmentId = true) :
    (run attachmentIds store events (count + 1)).attachmentIds = others ∧
      (run attachmentIds store events (count + 1)).considered =
        (run attachmentIds store events count).considered ++ [(attachmentId, true)] ∧
      (run attachmentIds store events (count + 1)).restored =
        (run attachmentIds store events count).restored ++ [attachmentId] := by
  obtain ⟨attachment, hattachment⟩ := Option.isSome_iff_exists.mp hthere
  rw [run, tryToRestoreNextAttachment, getLast?_delete hids]
  dsimp only
  rw [hattachment]
  refine ⟨?_, rfl, rfl⟩
  simp only [delete, hids, List.dropLast_concat]

/-- A call for an attachment that is not there changes nothing that the next call goes by. -/
theorem run_succ_of_not_there
    (hthere : there attachmentIds store events count attachmentId = false) :
    (run attachmentIds store events (count + 1)).attachmentIds = others ++ [attachmentId] := by
  have hattachment := Option.isSome_eq_false_iff.mp hthere
  rw [run, tryToRestoreNextAttachment, getLast?_delete hids]
  dsimp only
  rw [Option.isNone_iff_eq_none.mp hattachment]
  exact hids

/-- **The job does not get past an attachment that is not there.** -/
theorem stuck (hthere : there attachmentIds store events count attachmentId = false) (more : ℕ) :
    (run attachmentIds store events (count + more)).attachmentIds = others ++ [attachmentId] := by
  induction more with
  | zero => exact hids
  | succ more ih =>
      refine run_succ_of_not_there ih ?_
      rw [← Bool.not_eq_true, there_iff] at hthere ⊢
      rintro ⟨hstored, hdeleted⟩
      exact hthere ⟨hstored, fun time htime =>
        hdeleted time (Nat.le_trans htime (Nat.le_add_right _ _))⟩

end

/-! ## The run -/

/-- Every attachment is there at its turn. -/
def AllThere (attachmentIds : List String) (store : RestoreStore) (events : Events) : Prop :=
  ∀ count attachmentId, attachmentIds.reverse[count]? = some attachmentId →
    (store.attachments attachmentId).isSome = true ∧
      ∀ time ≤ count, events.deleted time attachmentId = false

/-- As long as the attachments are there, one is done with each call. -/
theorem run_of_there {count : ℕ} (hcount : count ≤ attachmentIds.length)
    (hthere : ∀ time attachmentId, time < count →
      attachmentIds.reverse[time]? = some attachmentId →
      there attachmentIds store events time attachmentId = true) :
    (run attachmentIds store events count).attachmentIds =
        (attachmentIds.reverse.drop count).reverse ∧
      (run attachmentIds store events count).considered =
        (attachmentIds.reverse.take count).map (fun attachmentId => (attachmentId, true)) ∧
      (run attachmentIds store events count).restored = attachmentIds.reverse.take count := by
  induction count with
  | zero => exact ⟨(List.reverse_reverse attachmentIds).symm, rfl, rfl⟩
  | succ count ih =>
      have hlt : count < attachmentIds.reverse.length := by
        rw [List.length_reverse]
        exact hcount
      obtain ⟨hids, hconsidered, hrestored⟩ := ih (Nat.le_of_succ_le hcount)
        fun time attachmentId htime => hthere time attachmentId (Nat.lt_succ_of_lt htime)
      have hget := List.getElem?_eq_getElem hlt
      rw [List.drop_eq_getElem_cons hlt, List.reverse_cons] at hids
      obtain ⟨hids', hconsidered', hrestored'⟩ :=
        run_succ_of_there hids (hthere count _ (Nat.lt_succ_self count) hget)
      refine ⟨hids', ?_, ?_⟩
      · rw [hconsidered', hconsidered, List.take_succ_eq_append_getElem hlt, List.map_append]
        rfl
      · rw [hrestored', hrestored, List.take_succ_eq_append_getElem hlt]

/-- A call moves the file that it has decrypted to a path where there is none. -/
def MovesInto (outcome : LazyRestoreOutcome) (before after : RestoreStore) (path : String) : Prop :=
  outcome.moves = true ∧ before.files path = none ∧
    ∃ decryptedFile, outcome.decrypts = some decryptedFile ∧ after.files path = some decryptedFile

/-- **A mark is cleared only by the call that moves the file into place.** -/
theorem clears_of_moves {count : ℕ} {attachment attachment' : LazyAttachment}
    (hbefore : (run attachmentIds store events count).store.attachments attachmentId =
      some attachment) (hmarked : attachment.lazyRestoreFragment ≠ none)
    (hafter : (run attachmentIds store events (count + 1)).store.attachments attachmentId =
      some attachment') (hcleared : attachment'.lazyRestoreFragment = none) :
    ∃ attachmentFilePath, attachment.originalFilePath = some attachmentFilePath ∧
      MovesInto (events.outcome count) (run attachmentIds store events count).store
        (run attachmentIds store events (count + 1)).store attachmentFilePath := by
  have hsame : ∀ other, ((run attachmentIds store events count).delete
      (events.deleted count)).store.attachments attachmentId = some other →
      other = attachment := by
    intro other hother
    unfold delete RestoreStore.delete at hother
    dsimp only at hother
    split at hother
    · cases hother
    · exact Option.some.inj (hother.symm.trans hbefore)
  -- Every other way through the turn leaves the attachment as it was, with its mark.
  rw [run, tryToRestoreNextAttachment] at hafter ⊢
  split at hafter
  · exact absurd (hsame _ hafter ▸ hcleared) hmarked
  · next restoredId _ =>
      split at hafter
      · exact absurd (hsame _ hafter ▸ hcleared) hmarked
      · next restored hrestored =>
          rcases RestoreStore.lazyRestoreAttachment_cases restoredId restored
            (events.outcome count) with hstore | ⟨path, file, hpath, ⟨hmoves, hfree, hfile⟩, hstore⟩
          · dsimp only at hafter
            rw [hstore] at hafter
            exact absurd (hsame _ hafter ▸ hcleared) hmarked
          · dsimp only at hafter ⊢
            rw [hstore] at hafter ⊢
            unfold RestoreStore.updateWithLazyRestoreComplete at hafter ⊢
            dsimp only at hafter ⊢
            split at hafter
            · next heq =>
                subst heq
                rw [hsame restored hrestored] at hpath
                exact ⟨path, hpath, hmoves, hfree, file, hfile, Function.update_self _ _ _⟩
            · exact absurd (hsame _ hafter ▸ hcleared) hmarked

/-- The job ends, having considered each id once, last to first, and restored the attachments that
were there; and a mark is cleared only by the call that moves the file into place. -/
structure Restores (attachmentIds : List String) (store : RestoreStore) (events : Events) :
    Prop where
  ends : ∃ count,
    (run attachmentIds store events count).attachmentIds = [] ∧
    (run attachmentIds store events count).considered.map Prod.fst = attachmentIds.reverse ∧
    (run attachmentIds store events count).restored =
      ((run attachmentIds store events count).considered.filter Prod.snd).map Prod.fst
  clears : ∀ count attachmentId attachment attachment',
    (run attachmentIds store events count).store.attachments attachmentId = some attachment →
    attachment.lazyRestoreFragment ≠ none →
    (run attachmentIds store events (count + 1)).store.attachments attachmentId =
      some attachment' →
    attachment'.lazyRestoreFragment = none →
    ∃ attachmentFilePath, attachment.originalFilePath = some attachmentFilePath ∧
      MovesInto (events.outcome count) (run attachmentIds store events count).store
        (run attachmentIds store events (count + 1)).store attachmentFilePath

/-- If the job ends, no attachment was missing: before one that is, it makes progress; from there on
it makes none. -/
theorem allThere_of_ends {count : ℕ}
    (hends : (run attachmentIds store events count).attachmentIds = []) :
    AllThere attachmentIds store events := by
  intro index
  induction index using Nat.strongRecOn with
  | ind index ih =>
      intro attachmentId hget
      obtain ⟨hlt, hget'⟩ := List.getElem?_eq_some_iff.mp hget
      have hlength : index < attachmentIds.length := by rwa [List.length_reverse] at hlt
      have hprogress : ∀ time ≤ index, (run attachmentIds store events time).attachmentIds =
          (attachmentIds.reverse.drop time).reverse := fun time htime =>
        (run_of_there (Nat.le_trans htime (Nat.le_of_lt hlength))
          fun earlier attachmentId hearlier hget => (there_iff earlier attachmentId).mpr
            (ih earlier (Nat.lt_of_lt_of_le hearlier htime) attachmentId hget)).1
      rw [← there_iff]
      by_contra hthere
      rw [Bool.not_eq_true] at hthere
      have hids := hprogress index (Nat.le_refl index)
      rw [List.drop_eq_getElem_cons hlt, List.reverse_cons, hget'] at hids
      rcases Nat.le_total index count with hle | hle
      · obtain ⟨more, rfl⟩ := Nat.exists_eq_add_of_le hle
        rw [stuck hids hthere more] at hends
        exact List.append_ne_nil_of_right_ne_nil _ (List.cons_ne_nil _ _) hends
      · rw [hprogress count hle, List.reverse_eq_nil_iff, List.drop_eq_nil_iff] at hends
        omega

/-- **The job ends, having tried every attachment**, if and only if each of them is there at its
turn. -/
theorem restores_iff (attachmentIds : List String) (store : RestoreStore) (events : Events) :
    Restores attachmentIds store events ↔ AllThere attachmentIds store events := by
  constructor
  · rintro ⟨⟨count, hends, -⟩, -⟩
    exact allThere_of_ends hends
  · intro hall
    have hthere : ∀ time attachmentId, time < attachmentIds.length →
        attachmentIds.reverse[time]? = some attachmentId →
        there attachmentIds store events time attachmentId = true :=
      fun time attachmentId _ hget =>
        (there_iff time attachmentId).mpr (hall time attachmentId hget)
    obtain ⟨hids, hconsidered, hrestored⟩ :=
      run_of_there (Nat.le_refl attachmentIds.length) hthere
    have hlength : attachmentIds.reverse.length ≤ attachmentIds.length :=
      Nat.le_of_eq List.length_reverse
    rw [List.drop_of_length_le hlength] at hids
    rw [List.take_of_length_le hlength] at hconsidered hrestored
    refine ⟨⟨attachmentIds.length, hids, ?_, ?_⟩,
      fun _ _ _ _ hbefore hmarked hafter hcleared =>
        clears_of_moves hbefore hmarked hafter hcleared⟩
    · rw [hconsidered, List.map_map]
      exact List.map_id _
    · rw [hconsidered, hrestored, List.filter_eq_self.mpr (by simp), List.map_map]
      exact (List.map_id _).symm

/-! ## A job that does not end -/

def samplePending : RestoreStore where
  attachments key :=
    if key = "attachment" then
      some {
        originalFilePath := some "attachment/photo.jpg"
        lazyRestoreFragment := some {
          uniqueId := some "record"
          recordName := "record"
          encryptionKey := [1]
          relativeFilePath := none
          attachmentId := some "attachment"
          downloadFilePath := none
          uncompressedDataLength := none } }
    else none
  files _ := none

/-- The attachment is deleted before the job gets to it. -/
def sampleDeletion : Events where
  deleted _ _ := true
  outcome _ :=
    { downloads := true, loads := true, decrypts := some [9], ensuresDirectory := true,
      moves := true }

/-- **A deleted attachment** is tried again and again. -/
theorem deleted_attachment_repeats : ¬Restores ["attachment"] samplePending sampleDeletion := by
  rintro ⟨⟨count, hends, -⟩, -⟩
  have hdeleted := (allThere_of_ends hends 0 "attachment" rfl).2 0 (Nat.le_refl 0)
  cases hdeleted

end LazyRestoreJob

end ObjcSwiftLearning.Signal
