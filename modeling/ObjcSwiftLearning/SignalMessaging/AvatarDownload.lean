import ObjcSwiftLearning.SignalMessaging.ProfileKeyRotation

/-!
# Downloading avatars

The avatar of a profile is downloaded, decrypted, written to a new file and, if the profile has not
changed meanwhile, named in the profile.

* `AvatarProfiles.finishDownload` — `downloadAvatarForUserProfile:` after the download.
* `AvatarProfiles.Atomic` — a file is named only if it is the avatar of the profile as it is; else
  no profile changes and no file is deleted.
* `AvatarProfiles.atomic_iff` — **a download is atomic** unless it is one for the local number that
  comes to nothing, or the key was replaced in the object that it was started with.
-/

namespace ObjcSwiftLearning.SignalMessaging

open AxolotlKit

/-! ## Profiles -/

def kLocalProfileUniqueId : String := "kLocalProfileUniqueId"

/-- The stored profiles, the manager's own object of the local one, and the avatar files. -/
structure AvatarProfiles where
  userProfiles : String → Option OWSUserProfile
  /-- Stored from the first time that the manager has it on. -/
  storedLocalUserProfile : OWSUserProfile
  localUserProfile : OWSUserProfile
  avatarFiles : String → Option NSData
  /-- The files whose deletion was dispatched. -/
  deletions : List String
  currentAvatarDownloads : Finset String

/-- `initWithRecipientId:`; no key is an empty one. -/
def OWSUserProfile.initWithRecipientId : OWSUserProfile where
  profileKey := []
  profileName := none
  avatarUrlPath := none
  avatarFileName := none

def OWSUserProfile.naming (userProfile : OWSUserProfile) (fileName : String) : OWSUserProfile :=
  { userProfile with avatarFileName := some fileName }

/-- What a download needs of the rest of the app. -/
structure AvatarServices where
  localNumber : Option String
  decryptAESGCM : NSData → NSData → Option NSData
  /-- Whether `imageWithContentsOfFile:` finds an image. -/
  isImage : NSData → Bool

structure AvatarDownload where
  recipientId : String
  profileKeyAtStart : NSData
  avatarUrlPathAtStart : String
  fileName : String
  deriving DecidableEq

structure DownloadOutcome where
  error : Bool
  /-- `dataWithContentsOfFile:` of the temporary file. -/
  tempFile : Option NSData
  /-- Whether `writeToFile:` succeeds. -/
  writes : Bool

namespace AvatarProfiles

variable (profiles : AvatarProfiles)

def getOrBuildUserProfile (recipientId : String) : OWSUserProfile :=
  if recipientId = kLocalProfileUniqueId then profiles.storedLocalUserProfile
  else (profiles.userProfiles recipientId).getD .initWithRecipientId

/-- `saveWithTransaction:`. -/
def save (recipientId : String) (userProfile : OWSUserProfile) : AvatarProfiles :=
  if recipientId = kLocalProfileUniqueId then
    { profiles with storedLocalUserProfile := userProfile }
  else
    { profiles with
      userProfiles := Function.update profiles.userProfiles recipientId (some userProfile) }

def delete (fileName : Option String) : AvatarProfiles :=
  { profiles with deletions := profiles.deletions ++ fileName.toList }

/-- `updateWithAvatarFileName:…` of a profile just fetched. -/
def updateWithAvatarFileName (recipientId fileName : String) : AvatarProfiles :=
  let updated := (profiles.getOrBuildUserProfile recipientId).setAvatarFileName (some fileName)
  (profiles.save recipientId updated.1).delete updated.2

/-- `updateWithAvatarFileName:…` of the manager's own object, and of the stored profile. -/
def updateLocalUserProfile (fileName : String) : AvatarProfiles :=
  let updated := profiles.localUserProfile.setAvatarFileName (some fileName)
  ({ profiles with localUserProfile := updated.1 }.delete updated.2).updateWithAvatarFileName
    kLocalProfileUniqueId fileName

/-! ## `downloadAvatarForUserProfile:` -/

end AvatarProfiles

namespace AvatarDownload

variable (S : AvatarServices) (download : AvatarDownload) (outcome : DownloadOutcome)

def encryptedData : Option NSData := if outcome.error then none else outcome.tempFile

def decryptedData : Option NSData :=
  (encryptedData outcome).bind (S.decryptAESGCM download.profileKeyAtStart)

/-- Whether there is an `image`. -/
def hasImage : Bool := (download.decryptedData S outcome).any fun decryptedData =>
  outcome.writes && S.isImage decryptedData

end AvatarDownload

namespace AvatarProfiles

variable (S : AvatarServices) (profiles : AvatarProfiles) (download : AvatarDownload)
  (outcome : DownloadOutcome)

/-- The file is written, and the recipient is no longer among the current downloads. -/
def writeAvatarFile : AvatarProfiles :=
  let avatarFiles :=
    match download.decryptedData S outcome with
    | none => profiles.avatarFiles
    | some decryptedData =>
        if outcome.writes then
          Function.update profiles.avatarFiles download.fileName (some decryptedData)
        else profiles.avatarFiles
  { profiles with
    avatarFiles
    currentAvatarDownloads := profiles.currentAvatarDownloads.erase download.recipientId }

/-- The chain of conditions; `profileKey` is the one that the object has by now that the download
was started with. Answers also whether another download is to be started. -/
def updateLatestUserProfile (profileKey : NSData) : AvatarProfiles × Bool :=
  let latestUserProfile := profiles.getOrBuildUserProfile download.recipientId
  if latestUserProfile.profileKey.length < 1 ∨ latestUserProfile.profileKey ≠ profileKey then
    (profiles, false)
  else if latestUserProfile.avatarUrlPath ≠ some download.avatarUrlPathAtStart then
    (profiles, decide (0 < latestUserProfile.avatarUrlPath.elim 0 String.length))
  else if outcome.error then (profiles, false)
  else if AvatarDownload.encryptedData outcome = none then (profiles, false)
  else if download.decryptedData S outcome = none then (profiles, false)
  else if !download.hasImage S outcome then (profiles, false)
  else (profiles.updateWithAvatarFileName download.recipientId download.fileName, false)

/-- `completionHandler`. -/
def finishDownload (profileKey : NSData) : AvatarProfiles × Bool :=
  let written := profiles.writeAvatarFile S download outcome
  let updated := written.updateLatestUserProfile S download outcome profileKey
  if S.localNumber = some download.recipientId then
    (updated.1.updateLocalUserProfile download.fileName, updated.2)
  else updated

/-! ## What atomic means -/

/-- The download brought the avatar of the profile as it is stored: data fetched from its path,
decrypted under its key, and written. -/
def Current : Prop :=
  outcome.error = false ∧
    (profiles.getOrBuildUserProfile download.recipientId).avatarUrlPath =
      some download.avatarUrlPathAtStart ∧
    (profiles.getOrBuildUserProfile download.recipientId).profileKey =
      download.profileKeyAtStart ∧
    outcome.writes = true ∧
    ∃ encryptedData decryptedData, outcome.tempFile = some encryptedData ∧
      S.decryptAESGCM (profiles.getOrBuildUserProfile download.recipientId).profileKey
        encryptedData = some decryptedData ∧
      S.isImage decryptedData = true

/-- No profile changes, and no file is deleted. -/
structure SameProfiles (profiles profiles' : AvatarProfiles) : Prop where
  userProfiles : profiles'.userProfiles = profiles.userProfiles
  storedLocalUserProfile : profiles'.storedLocalUserProfile = profiles.storedLocalUserProfile
  localUserProfile : profiles'.localUserProfile = profiles.localUserProfile
  deletions : profiles'.deletions = profiles.deletions

def LeftOrNames (fileName : String) (userProfile userProfile' : OWSUserProfile) : Prop :=
  userProfile' = userProfile ∨ userProfile' = userProfile.naming fileName

/-- A file is named only if it holds the avatar of the profile as it is, and only by the profiles of
the recipient and of the local user; else no profile changes and no file is deleted. The download is
over. -/
structure Atomic (profiles' : AvatarProfiles) : Prop where
  sameProfiles : ¬profiles.Current S download outcome → SameProfiles profiles profiles'
  avatarFile : profiles.Current S download outcome →
    ∃ encryptedData decryptedData, outcome.tempFile = some encryptedData ∧
      S.decryptAESGCM (profiles.getOrBuildUserProfile download.recipientId).profileKey
        encryptedData = some decryptedData ∧
      profiles'.avatarFiles download.fileName = some decryptedData
  leftOrNames : ∀ recipientId, LeftOrNames download.fileName
    (profiles.getOrBuildUserProfile recipientId) (profiles'.getOrBuildUserProfile recipientId)
  left : ∀ recipientId, recipientId ≠ download.recipientId →
    recipientId ≠ kLocalProfileUniqueId →
    profiles'.getOrBuildUserProfile recipientId = profiles.getOrBuildUserProfile recipientId
  localLeftOrNames :
    LeftOrNames download.fileName profiles.localUserProfile profiles'.localUserProfile
  notCurrent : download.recipientId ∉ profiles'.currentAvatarDownloads

/-! ## Names -/

end AvatarProfiles

namespace OWSUserProfile

theorem setAvatarFileName_fst (userProfile : OWSUserProfile) (fileName : String) :
    (userProfile.setAvatarFileName (some fileName)).1 = userProfile.naming fileName := by
  unfold setAvatarFileName naming
  split
  · next hsame => rw [← hsame]
  · rfl

theorem setAvatarFileName_of_same {userProfile : OWSUserProfile} {fileName : String}
    (hsame : userProfile.avatarFileName = some fileName) :
    userProfile.setAvatarFileName (some fileName) = (userProfile, none) := by
  rw [setAvatarFileName, if_pos hsame]

end OWSUserProfile

namespace AvatarProfiles

variable {S : AvatarServices} {profiles : AvatarProfiles} {download : AvatarDownload}
  {outcome : DownloadOutcome}

theorem SameProfiles.refl (profiles : AvatarProfiles) : SameProfiles profiles profiles :=
  ⟨rfl, rfl, rfl, rfl⟩

theorem SameProfiles.trans {first second third : AvatarProfiles} (h : SameProfiles first second)
    (h' : SameProfiles second third) : SameProfiles first third where
  userProfiles := h'.userProfiles.trans h.userProfiles
  storedLocalUserProfile := h'.storedLocalUserProfile.trans h.storedLocalUserProfile
  localUserProfile := h'.localUserProfile.trans h.localUserProfile
  deletions := h'.deletions.trans h.deletions

theorem SameProfiles.getOrBuildUserProfile {profiles' : AvatarProfiles}
    (h : SameProfiles profiles profiles') (recipientId : String) :
    profiles'.getOrBuildUserProfile recipientId = profiles.getOrBuildUserProfile recipientId := by
  unfold AvatarProfiles.getOrBuildUserProfile
  rw [h.userProfiles, h.storedLocalUserProfile]

theorem sameProfiles_writeAvatarFile :
    SameProfiles profiles (profiles.writeAvatarFile S download outcome) :=
  ⟨rfl, rfl, rfl, rfl⟩

theorem getOrBuildUserProfile_save (profiles : AvatarProfiles) (recipientId other : String)
    (userProfile : OWSUserProfile) :
    (profiles.save recipientId userProfile).getOrBuildUserProfile other =
      if other = recipientId then userProfile else profiles.getOrBuildUserProfile other := by
  unfold save getOrBuildUserProfile
  by_cases hlocal : recipientId = kLocalProfileUniqueId
  · rw [if_pos hlocal, hlocal]
    split
    · rfl
    · rfl
  · rw [if_neg hlocal]
    by_cases hother : other = recipientId
    · subst hother
      dsimp only
      rw [if_neg hlocal, if_pos rfl, Function.update_self, Option.getD_some]
    · dsimp only
      rw [if_neg hother, Function.update_of_ne hother]

theorem getOrBuildUserProfile_updateWithAvatarFileName (profiles : AvatarProfiles)
    (recipientId other fileName : String) :
    (profiles.updateWithAvatarFileName recipientId fileName).getOrBuildUserProfile other =
      if other = recipientId then
        (profiles.getOrBuildUserProfile recipientId).naming fileName
      else profiles.getOrBuildUserProfile other := by
  refine (getOrBuildUserProfile_save profiles recipientId other _).trans ?_
  rw [OWSUserProfile.setAvatarFileName_fst]

theorem sameProfiles_updateWithAvatarFileName {recipientId fileName : String}
    (hsame : (profiles.getOrBuildUserProfile recipientId).avatarFileName = some fileName) :
    SameProfiles profiles (profiles.updateWithAvatarFileName recipientId fileName) := by
  unfold updateWithAvatarFileName
  rw [OWSUserProfile.setAvatarFileName_of_same hsame]
  unfold save
  split
  · next hlocal =>
      have hstored : profiles.getOrBuildUserProfile recipientId = profiles.storedLocalUserProfile :=
        if_pos hlocal
      exact ⟨rfl, hstored, rfl, List.append_nil _⟩
  · next hlocal =>
      have hfetched : profiles.getOrBuildUserProfile recipientId =
          (profiles.userProfiles recipientId).getD .initWithRecipientId := if_neg hlocal
      refine ⟨?_, rfl, rfl, List.append_nil _⟩
      cases hprofile : profiles.userProfiles recipientId with
      | none =>
          rw [hfetched, hprofile] at hsame
          cases hsame
      | some userProfile =>
          have hupdate := Function.update_eq_self recipientId profiles.userProfiles
          rw [hprofile] at hupdate
          rw [hfetched, hprofile]
          exact hupdate

theorem sameProfiles_updateLocalUserProfile {fileName : String}
    (hobject : profiles.localUserProfile.avatarFileName = some fileName)
    (hstored : profiles.storedLocalUserProfile.avatarFileName = some fileName) :
    SameProfiles profiles (profiles.updateLocalUserProfile fileName) := by
  unfold updateLocalUserProfile
  rw [OWSUserProfile.setAvatarFileName_of_same hobject]
  have hdelete : SameProfiles profiles (profiles.delete none) :=
    ⟨rfl, rfl, rfl, List.append_nil _⟩
  exact hdelete.trans (sameProfiles_updateWithAvatarFileName hstored)

/-! ## What a download comes to -/

def namedByLatest (profiles : AvatarProfiles) (recipientId fileName : String) (latest : Bool) :
    AvatarProfiles :=
  if latest then profiles.updateWithAvatarFileName recipientId fileName else profiles

def namedByLocal (profiles : AvatarProfiles) (fileName : String) (isLocal : Bool) :
    AvatarProfiles :=
  if isLocal then profiles.updateLocalUserProfile fileName else profiles

section

variable (profiles)

theorem getOrBuildUserProfile_namedByLatest (recipientId fileName : String) (latest : Bool)
    (other : String) :
    (profiles.namedByLatest recipientId fileName latest).getOrBuildUserProfile other =
      if latest = true ∧ other = recipientId then
        (profiles.getOrBuildUserProfile other).naming fileName
      else profiles.getOrBuildUserProfile other := by
  cases latest with
  | false => exact (if_neg fun h => Bool.false_ne_true h.1).symm
  | true =>
      refine (getOrBuildUserProfile_updateWithAvatarFileName profiles _ _ _).trans ?_
      by_cases hother : other = recipientId
      · rw [if_pos hother, if_pos ⟨rfl, hother⟩, hother]
      · rw [if_neg hother, if_neg fun h => hother h.2]

theorem getOrBuildUserProfile_namedByLocal (fileName : String) (isLocal : Bool) (other : String) :
    (profiles.namedByLocal fileName isLocal).getOrBuildUserProfile other =
      if isLocal = true ∧ other = kLocalProfileUniqueId then
        (profiles.getOrBuildUserProfile other).naming fileName
      else profiles.getOrBuildUserProfile other := by
  cases isLocal with
  | false => exact (if_neg fun h => Bool.false_ne_true h.1).symm
  | true => exact getOrBuildUserProfile_namedByLatest _ kLocalProfileUniqueId fileName true other

theorem localUserProfile_namedByLatest (recipientId fileName : String) (latest : Bool) :
    (profiles.namedByLatest recipientId fileName latest).localUserProfile =
      profiles.localUserProfile := by
  cases latest with
  | false => rfl
  | true =>
      rw [namedByLatest, if_pos rfl, updateWithAvatarFileName, save]
      split <;> rfl

theorem localUserProfile_namedByLocal (fileName : String) (isLocal : Bool) :
    (profiles.namedByLocal fileName isLocal).localUserProfile =
      if isLocal then profiles.localUserProfile.naming fileName
      else profiles.localUserProfile := by
  cases isLocal with
  | false => rfl
  | true => exact OWSUserProfile.setAvatarFileName_fst profiles.localUserProfile fileName

/-- **No profile changes** if and only if those that are to name the file do so already. -/
theorem sameProfiles_named_iff (recipientId fileName : String) (latest isLocal : Bool) :
    SameProfiles profiles
        ((profiles.namedByLatest recipientId fileName latest).namedByLocal fileName isLocal) ↔
      (latest = true →
        (profiles.getOrBuildUserProfile recipientId).avatarFileName = some fileName) ∧
      (isLocal = true → profiles.localUserProfile.avatarFileName = some fileName ∧
        profiles.storedLocalUserProfile.avatarFileName = some fileName) := by
  constructor
  · intro hsame
    refine ⟨fun hlatest => ?_, fun hlocal => ⟨?_, ?_⟩⟩
    · have hnamed := getOrBuildUserProfile_namedByLatest profiles recipientId fileName latest
        recipientId
      rw [if_pos ⟨hlatest, rfl⟩] at hnamed
      rw [← hsame.getOrBuildUserProfile recipientId, getOrBuildUserProfile_namedByLocal, hnamed]
      split
      · rfl
      · rfl
    · rw [← hsame.localUserProfile, localUserProfile_namedByLocal, if_pos hlocal]
      rfl
    · have hstored := hsame.getOrBuildUserProfile kLocalProfileUniqueId
      rw [getOrBuildUserProfile_namedByLocal, if_pos ⟨hlocal, rfl⟩] at hstored
      have hname := congrArg OWSUserProfile.avatarFileName hstored
      exact hname.symm
  · rintro ⟨hlatest, hlocal⟩
    have hfirst : SameProfiles profiles (profiles.namedByLatest recipientId fileName latest) := by
      cases latest with
      | false => exact .refl profiles
      | true => exact sameProfiles_updateWithAvatarFileName (hlatest rfl)
    refine hfirst.trans ?_
    cases isLocal with
    | false => exact .refl _
    | true =>
        refine sameProfiles_updateLocalUserProfile ?_ ?_
        · rw [hfirst.localUserProfile]
          exact (hlocal rfl).1
        · rw [hfirst.storedLocalUserProfile]
          exact (hlocal rfl).2

end

/-- The chain of conditions comes to naming the file. -/
def accepts (S : AvatarServices) (profiles : AvatarProfiles) (download : AvatarDownload)
    (outcome : DownloadOutcome) (profileKey : NSData) : Bool :=
  let latestUserProfile := profiles.getOrBuildUserProfile download.recipientId
  0 < latestUserProfile.profileKey.length && latestUserProfile.profileKey = profileKey &&
    latestUserProfile.avatarUrlPath = some download.avatarUrlPathAtStart &&
    download.hasImage S outcome

end AvatarProfiles

theorem AvatarDownload.hasImage_iff {S : AvatarServices} {download : AvatarDownload}
    {outcome : DownloadOutcome} :
    download.hasImage S outcome = true ↔
      outcome.error = false ∧ outcome.writes = true ∧
        ∃ encryptedData decryptedData, outcome.tempFile = some encryptedData ∧
          S.decryptAESGCM download.profileKeyAtStart encryptedData = some decryptedData ∧
          S.isImage decryptedData = true := by
  unfold hasImage decryptedData encryptedData
  cases outcome.error with
  | true => simp
  | false =>
      cases outcome.tempFile with
      | none => simp
      | some encryptedData => simp [Option.any_eq_true, and_left_comm]

namespace AvatarProfiles

variable {S : AvatarServices} {profiles : AvatarProfiles} {download : AvatarDownload}
  {outcome : DownloadOutcome}

/-- Each condition of the chain is one of these. -/
theorem updateLatestUserProfile_fst (profiles : AvatarProfiles) (profileKey : NSData) :
    (profiles.updateLatestUserProfile S download outcome profileKey).1 =
      profiles.namedByLatest download.recipientId download.fileName
        (profiles.accepts S download outcome profileKey) := by
  unfold updateLatestUserProfile namedByLatest accepts
  dsimp only
  split
  · next hkey =>
      rcases hkey with hkey | hkey
      · have hempty :
            ¬0 < (profiles.getOrBuildUserProfile download.recipientId).profileKey.length :=
          Nat.not_lt.mpr (Nat.lt_one_iff.mp hkey).le
        simp [hempty]
      · simp [hkey]
  · next hkey =>
      rw [not_or, not_not] at hkey
      split
      · next hpath => simp [hpath]
      · next hpath =>
          rw [not_not] at hpath
          cases himage : download.hasImage S outcome with
          | false => simp
          | true =>
              obtain ⟨herror, hwrites, encryptedData, decryptedData, htemp, hdecrypt, -⟩ :=
                AvatarDownload.hasImage_iff.mp himage
              have hne : profileKey ≠ [] := by
                rintro rfl
                exact hkey.1 (hkey.2 ▸ Nat.zero_lt_one)
              simp [AvatarDownload.encryptedData, AvatarDownload.decryptedData, herror, htemp,
                hdecrypt, hpath, hkey.2, hne]

theorem current_iff : profiles.Current S download outcome ↔
    (profiles.getOrBuildUserProfile download.recipientId).avatarUrlPath =
        some download.avatarUrlPathAtStart ∧
      (profiles.getOrBuildUserProfile download.recipientId).profileKey =
        download.profileKeyAtStart ∧
      download.hasImage S outcome = true := by
  rw [AvatarDownload.hasImage_iff]
  constructor
  · rintro ⟨herror, hpath, hkey, hwrites, hdata⟩
    rw [hkey] at hdata
    exact ⟨hpath, hkey, herror, hwrites, hdata⟩
  · rintro ⟨hpath, hkey, herror, hwrites, hdata⟩
    rw [← hkey] at hdata
    exact ⟨herror, hpath, hkey, hwrites, hdata⟩

theorem finishDownload_fst (profileKey : NSData) :
    (profiles.finishDownload S download outcome profileKey).1 =
      ((profiles.writeAvatarFile S download outcome).namedByLatest download.recipientId
        download.fileName (profiles.accepts S download outcome profileKey)).namedByLocal
        download.fileName (decide (S.localNumber = some download.recipientId)) := by
  have hlatest : ((profiles.writeAvatarFile S download outcome).updateLatestUserProfile S download
        outcome profileKey).1 =
      (profiles.writeAvatarFile S download outcome).namedByLatest download.recipientId
        download.fileName (profiles.accepts S download outcome profileKey) :=
    updateLatestUserProfile_fst _ profileKey
  unfold finishDownload namedByLocal
  dsimp only
  rw [← hlatest]
  by_cases hlocal : S.localNumber = some download.recipientId
  · rw [if_pos hlocal, if_pos (decide_eq_true hlocal)]
  · rw [if_neg hlocal, if_neg (by simpa using hlocal)]

theorem avatarFiles_named (profiles : AvatarProfiles) (recipientId fileName : String)
    (latest isLocal : Bool) :
    ((profiles.namedByLatest recipientId fileName latest).namedByLocal fileName
        isLocal).avatarFiles = profiles.avatarFiles ∧
      ((profiles.namedByLatest recipientId fileName latest).namedByLocal fileName
        isLocal).currentAvatarDownloads = profiles.currentAvatarDownloads := by
  have hupdate : ∀ (profiles : AvatarProfiles) recipientId,
      (profiles.updateWithAvatarFileName recipientId fileName).avatarFiles =
          profiles.avatarFiles ∧
        (profiles.updateWithAvatarFileName recipientId fileName).currentAvatarDownloads =
          profiles.currentAvatarDownloads := by
    intro profiles recipientId
    unfold updateWithAvatarFileName save
    split
    · exact ⟨rfl, rfl⟩
    · exact ⟨rfl, rfl⟩
  have hlatest : (profiles.namedByLatest recipientId fileName latest).avatarFiles =
        profiles.avatarFiles ∧
      (profiles.namedByLatest recipientId fileName latest).currentAvatarDownloads =
        profiles.currentAvatarDownloads := by
    cases latest with
    | false => exact ⟨rfl, rfl⟩
    | true => exact hupdate profiles recipientId
  cases isLocal with
  | false => exact hlatest
  | true =>
      obtain ⟨hfiles, hdownloads⟩ := hupdate
        ({ (profiles.namedByLatest recipientId fileName latest) with
          localUserProfile := ((profiles.namedByLatest recipientId fileName
            latest).localUserProfile.setAvatarFileName (some fileName)).1 }.delete
          ((profiles.namedByLatest recipientId fileName
            latest).localUserProfile.setAvatarFileName (some fileName)).2) kLocalProfileUniqueId
      exact ⟨hfiles.trans hlatest.1, hdownloads.trans hlatest.2⟩

/-- What a download is atomic under: one for the local number brings the avatar of the profile as
it is, and one whose file is named was decrypted under the key of the profile as it is; or the
profiles concerned name the file already. -/
structure Undisturbed (S : AvatarServices) (profiles : AvatarProfiles) (download : AvatarDownload)
    (outcome : DownloadOutcome) (profileKey : NSData) : Prop where
  localNumber : S.localNumber = some download.recipientId →
    profiles.Current S download outcome ∨
      profiles.localUserProfile.avatarFileName = some download.fileName ∧
        profiles.storedLocalUserProfile.avatarFileName = some download.fileName
  profileKey : profiles.accepts S download outcome profileKey = true →
    (profiles.getOrBuildUserProfile download.recipientId).profileKey =
        download.profileKeyAtStart ∨
      (profiles.getOrBuildUserProfile download.recipientId).avatarFileName =
        some download.fileName

/-- No profile changes in a download that does not name a file anew. -/
theorem sameProfiles_finishDownload_iff (profileKey : NSData) :
    SameProfiles profiles (profiles.finishDownload S download outcome profileKey).1 ↔
      (profiles.accepts S download outcome profileKey = true →
        (profiles.getOrBuildUserProfile download.recipientId).avatarFileName =
          some download.fileName) ∧
      (S.localNumber = some download.recipientId →
        profiles.localUserProfile.avatarFileName = some download.fileName ∧
          profiles.storedLocalUserProfile.avatarFileName = some download.fileName) := by
  have hnamed := sameProfiles_named_iff (profiles.writeAvatarFile S download outcome)
    download.recipientId download.fileName (profiles.accepts S download outcome profileKey)
    (decide (S.localNumber = some download.recipientId))
  rw [decide_eq_true_eq] at hnamed
  rw [finishDownload_fst]
  refine Iff.trans ⟨fun hsame => ?_, fun hsame => ?_⟩ hnamed
  · exact { hsame with }
  · exact sameProfiles_writeAvatarFile.trans hsame

theorem leftOrNames_finishDownload (profileKey : NSData) (recipientId : String) :
    LeftOrNames download.fileName (profiles.getOrBuildUserProfile recipientId)
      ((profiles.finishDownload S download outcome profileKey).1.getOrBuildUserProfile
        recipientId) := by
  rw [finishDownload_fst, getOrBuildUserProfile_namedByLocal, getOrBuildUserProfile_namedByLatest,
    sameProfiles_writeAvatarFile.getOrBuildUserProfile]
  split
  · split
    · exact .inr rfl
    · exact .inr rfl
  · split
    · exact .inr rfl
    · exact .inl rfl

/-- **A download is atomic** if and only if it is undisturbed: the profiles of the recipient and of
the local user name only a file that holds the avatar of the profile as it is; else no profile
changes and no file is deleted. -/
theorem atomic_iff (S : AvatarServices) (profiles : AvatarProfiles) (download : AvatarDownload)
    (outcome : DownloadOutcome) (profileKey : NSData) :
    profiles.Atomic S download outcome
        (profiles.finishDownload S download outcome profileKey).1 ↔
      profiles.Undisturbed S download outcome profileKey := by
  constructor
  · intro hatomic
    by_cases hcurrent : profiles.Current S download outcome
    · exact ⟨fun _ => .inl hcurrent, fun _ => .inl (current_iff.mp hcurrent).2.1⟩
    · obtain ⟨hlatest, hlocal⟩ :=
        (sameProfiles_finishDownload_iff profileKey).mp (hatomic.sameProfiles hcurrent)
      exact ⟨fun h => .inr (hlocal h), fun h => .inr (hlatest h)⟩
  · intro hundisturbed
    -- What the profiles name after it depends on what is accepted, and on whose avatar it is.
    have hwritten := avatarFiles_named (profiles.writeAvatarFile S download outcome)
      download.recipientId download.fileName (profiles.accepts S download outcome profileKey)
      (decide (S.localNumber = some download.recipientId))
    rw [← finishDownload_fst] at hwritten
    obtain ⟨hfiles, hdownloads⟩ := hwritten
    refine ⟨fun hnot => ?_, fun hcurrent => ?_, leftOrNames_finishDownload profileKey,
      fun recipientId hrecipient hlocal => ?_, ?_, ?_⟩
    · refine (sameProfiles_finishDownload_iff profileKey).mpr
        ⟨fun haccepts => ?_, fun hlocal => ?_⟩
      · refine (hundisturbed.profileKey haccepts).resolve_left fun hkey => hnot ?_
        simp only [accepts, Bool.and_eq_true, decide_eq_true_eq] at haccepts
        exact current_iff.mpr ⟨haccepts.1.2, hkey, haccepts.2⟩
      · exact (hundisturbed.localNumber hlocal).resolve_left hnot
    · obtain ⟨herror, -, hkey, hwrites, encryptedData, decryptedData, htemp, hdecrypt, -⟩ :=
        hcurrent
      refine ⟨encryptedData, decryptedData, htemp, hdecrypt, ?_⟩
      rw [hkey] at hdecrypt
      rw [hfiles]
      simp [writeAvatarFile, AvatarDownload.decryptedData, AvatarDownload.encryptedData, herror,
        htemp, hdecrypt, hwrites]
    · rw [finishDownload_fst, getOrBuildUserProfile_namedByLocal, if_neg fun h => hlocal h.2,
        getOrBuildUserProfile_namedByLatest, if_neg fun h => hrecipient h.2,
        sameProfiles_writeAvatarFile.getOrBuildUserProfile]
    · rw [finishDownload_fst, localUserProfile_namedByLocal, localUserProfile_namedByLatest]
      split
      · exact .inr rfl
      · exact .inl rfl
    · rw [hdownloads]
      exact Finset.notMem_erase _ _

/-! ## A download that fails -/

/-- A local profile with an avatar, whose own number's avatar is being downloaded. -/
def sampleAvatarProfiles : AvatarProfiles where
  userProfiles recipientId :=
    if recipientId = "+15550100" then some ⟨[1], none, some "profiles/1", none⟩ else none
  storedLocalUserProfile := ⟨[1], none, some "profiles/1", some "old.jpg"⟩
  localUserProfile := ⟨[1], none, some "profiles/1", some "old.jpg"⟩
  avatarFiles fileName := if fileName = "old.jpg" then some [9] else none
  deletions := []
  currentAvatarDownloads := {"+15550100"}

/-- The local number; nothing needs to be decrypted. -/
def sampleAvatarServices : AvatarServices where
  localNumber := some "+15550100"
  decryptAESGCM _ _ := none
  isImage _ := false

def sampleAvatarDownload : AvatarDownload where
  recipientId := "+15550100"
  profileKeyAtStart := [1]
  avatarUrlPathAtStart := "profiles/1"
  fileName := "new.jpg"

/-- **The avatar of the local user is lost** when the download of the same avatar for the local
number fails. -/
theorem local_avatar_lost :
    ¬sampleAvatarProfiles.Atomic sampleAvatarServices sampleAvatarDownload ⟨true, none, false⟩
      (sampleAvatarProfiles.finishDownload sampleAvatarServices sampleAvatarDownload
        ⟨true, none, false⟩ [1]).1 := by
  intro hatomic
  have hnot : ¬sampleAvatarProfiles.Current sampleAvatarServices sampleAvatarDownload
      ⟨true, none, false⟩ := by
    rintro ⟨herror, -⟩
    cases herror
  have hsame := (sameProfiles_finishDownload_iff [1]).mp (hatomic.sameProfiles hnot)
  have hname : some "old.jpg" = some "new.jpg" := (hsame.2 rfl).1
  exact absurd hname (by decide)

end AvatarProfiles

end ObjcSwiftLearning.SignalMessaging
