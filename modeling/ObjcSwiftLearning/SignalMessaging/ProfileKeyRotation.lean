import ObjcSwiftLearning.SignalMessaging.ProfileWhitelist

/-!
# Profile key rotation

Where somebody who is blocked may have the profile key, the manager replaces it, uploads the
profile again under the new key, takes the blocked ones out of the whitelist and tells the service
and the other devices.  Most of it may fail, and then the rest is not done.

* `ProfileManager.rotateProfileKey` — the chain of promises, as a procedure.
* `ProfileManager.run_rotateProfileKey` — **what a rotation comes to**: the key is new, and the
  whitelist is as it was or cleaned.
* `ProfileManager.rotation_cuts_blocked_off` — what that means for those who are blocked, and for
  the next run.
-/

namespace ObjcSwiftLearning.SignalMessaging

open AxolotlKit SignalServiceKit

/-! ## The local profile -/

structure OWSUserProfile where
  profileKey : NSData
  profileName : Option String
  avatarUrlPath : Option String
  avatarFileName : Option String
  deriving DecidableEq

namespace OWSUserProfile

variable (profile : OWSUserProfile)

/-- `setAvatarFileName:`, and the file whose deletion it dispatches. -/
def setAvatarFileName (avatarFileName : Option String) : OWSUserProfile × Option String :=
  if profile.avatarFileName = avatarFileName then (profile, none)
  else ({ profile with avatarFileName }, profile.avatarFileName)

/-- `setAvatarUrlPath:`.  With another URL the file name can't be valid. -/
def setAvatarUrlPath (avatarUrlPath : Option String) : OWSUserProfile × Option String :=
  if profile.avatarUrlPath = avatarUrlPath then (profile, none)
  else setAvatarFileName { profile with avatarUrlPath } none

def updateWithAvatar (avatarUrlPath avatarFileName : Option String) :
    OWSUserProfile × List String :=
  let withUrlPath := profile.setAvatarUrlPath avatarUrlPath
  let withFileName := withUrlPath.1.setAvatarFileName avatarFileName
  (withFileName.1, withUrlPath.2.toList ++ withFileName.2.toList)

def updateWithProfileKey (profileKey : NSData) : OWSUserProfile := { profile with profileKey }

variable {profile}

@[simp] theorem profileKey_setAvatarFileName {avatarFileName : Option String} :
    (profile.setAvatarFileName avatarFileName).1.profileKey = profile.profileKey := by
  unfold setAvatarFileName
  split
  · rfl
  · rfl

@[simp] theorem profileKey_setAvatarUrlPath {avatarUrlPath : Option String} :
    (profile.setAvatarUrlPath avatarUrlPath).1.profileKey = profile.profileKey := by
  unfold setAvatarUrlPath
  split
  · rfl
  · exact profileKey_setAvatarFileName

@[simp] theorem profileKey_updateWithAvatar {avatarUrlPath avatarFileName : Option String} :
    (profile.updateWithAvatar avatarUrlPath avatarFileName).1.profileKey = profile.profileKey := by
  simp [updateWithAvatar]

end OWSUserProfile

/-! ## The manager -/

/-- `OWSProfileManager`, what it has stored, and the avatar files. -/
structure ProfileManager where
  localUserProfile : OWSUserProfile
  avatarFiles : String → Option NSData
  /-- The files whose deletion was dispatched. -/
  deletions : List String
  profileWhitelist : ProfileWhitelist

/-- What a rotation asks of the service and of the other devices. -/
inductive RotationRequest where
  | profileName
  | avatar
  | accountAttributes
  | localProfile
  | localContact
  deriving DecidableEq

inductive RotationEffect where
  | replacedProfileKey
  | requested (request : RotationRequest)
  | cleanedWhitelist
  deriving DecidableEq

/-- How `uploadAvatarToService:` ends; some failures clear the local avatar. -/
inductive AvatarUpload where
  | uploaded (avatarUrlPath : String)
  | failed (clearsLocalAvatar : Bool)

/-- What comes from outside in the course of one rotation. -/
structure RotationServices where
  generateRandomKey : NSData
  generateAvatarFilename : String
  updateServiceWithProfileName : Bool
  uploadAvatarToService : AvatarUpload
  updateAccountAttributes : Bool
  syncLocalContact : Bool

/-- The manager in the course of a run, with what the run has done so far. -/
structure RotationRun where
  manager : ProfileManager
  effects : List RotationEffect

namespace ProfileManager

/-- `loadProfileDataWithFilename:` of the file named in the profile, if any. -/
def profileAvatarData (manager : ProfileManager) : Option NSData :=
  manager.localUserProfile.avatarFileName.bind manager.avatarFiles

def updateWithAvatar (manager : ProfileManager) (avatarUrlPath avatarFileName : Option String) :
    ProfileManager :=
  let updated := manager.localUserProfile.updateWithAvatar avatarUrlPath avatarFileName
  { manager with
    localUserProfile := updated.1
    deletions := manager.deletions ++ updated.2 }

/-- `copyItemAtPath:toPath:`, which leaves no file where there is none to copy. -/
def copyAvatarFile (manager : ProfileManager) (oldFileName newFileName : String) :
    ProfileManager :=
  match manager.avatarFiles oldFileName with
  | none => manager
  | some avatarData =>
      { manager with avatarFiles := Function.update manager.avatarFiles newFileName avatarData }

abbrev Rotation := Procedure RotationRequest RotationRun Unit

/-- Something is done. -/
def perform (effect : RotationEffect) (change : ProfileManager → ProfileManager) : Rotation :=
  Procedure.modify fun run => ⟨change run.manager, run.effects ++ [effect]⟩

/-- A request, after which the manager is changed; where it fails, so does the rotation. -/
def request (request : RotationRequest) (succeeds : Bool)
    (change : ProfileManager → ProfileManager) : Rotation := do
  perform (.requested request) change
  if succeeds then pure () else Procedure.raise request

variable (S : RotationServices)

/-- Try to re-upload our profile name, if any. -/
def reuploadProfileName (oldProfileName : Option String) : Rotation :=
  if (oldProfileName.elim 0 String.length) < 1 then pure ()
  else request .profileName S.updateServiceWithProfileName id

/-- Try to re-upload our profile avatar, if any. -/
def reuploadProfileAvatar (oldAvatarFileName : Option String) (oldAvatarData : Option NSData) :
    Rotation :=
  if oldAvatarData.elim 0 List.length < 1 ∨ oldAvatarFileName.elim 0 String.length < 1 then pure ()
  else
    match S.uploadAvatarToService with
    | .uploaded avatarUrlPath =>
        request .avatar true fun manager =>
          let copied :=
            manager.copyAvatarFile (oldAvatarFileName.getD "") S.generateAvatarFilename
          copied.updateWithAvatar (some avatarUrlPath) (some S.generateAvatarFilename)
    | .failed clearsLocalAvatar =>
        request .avatar false fun manager =>
          if clearsLocalAvatar then manager.updateWithAvatar none none else manager

/-- The blocked users and groups are removed from the profile whitelist. -/
def cleanWhitelist (recipientIds : Finset String) (groupIds : Finset NSData) : Rotation :=
  perform .cleanedWhitelist fun manager =>
    { manager with profileWhitelist := manager.profileWhitelist.remove recipientIds groupIds }

/-- `rotateProfileKeyWithIntersectingRecipientIds:…`: the chain of promises. -/
def rotateProfileKey (recipientIds : Finset String) (groupIds : Finset NSData) : Rotation := do
  let old ← Procedure.read
  perform .replacedProfileKey fun manager =>
    { manager with
      localUserProfile := manager.localUserProfile.updateWithProfileKey S.generateRandomKey }
  reuploadProfileName S old.manager.localUserProfile.profileName
  reuploadProfileAvatar S old.manager.localUserProfile.avatarFileName old.manager.profileAvatarData
  cleanWhitelist recipientIds groupIds
  request .accountAttributes S.updateAccountAttributes id
  perform (.requested .localProfile) id
  request .localContact S.syncLocalContact id

/-- `rotateLocalProfileKeyIfNecessaryWithSuccess:failure:`. -/
def rotateLocalProfileKeyIfNecessary (C : ProfileContext) : Rotation :=
  if C.isRegistered = false then pure ()
  else do
    let run ← Procedure.read
    let whitelist := run.manager.profileWhitelist
    if C.isProfileKeySharedWithBlocked whitelist then
      rotateProfileKey S (C.intersectingRecipientIds whitelist) (C.intersectingGroupIds whitelist)
    else pure ()

/-! ## What a rotation comes to -/

/-- Nothing but requests was done: neither key nor whitelist changed. -/
def OnlyRequests (run run' : RotationRun) : Prop :=
  run'.manager.localUserProfile.profileKey = run.manager.localUserProfile.profileKey ∧
    run'.manager.profileWhitelist = run.manager.profileWhitelist ∧
    ∃ requests : List RotationRequest,
      run'.effects = run.effects ++ requests.map RotationEffect.requested

theorem OnlyRequests.refl (run : RotationRun) : OnlyRequests run run :=
  ⟨rfl, rfl, [], by simp⟩

theorem OnlyRequests.trans (first second third : RotationRun) (h : OnlyRequests first second)
    (h' : OnlyRequests second third) : OnlyRequests first third := by
  obtain ⟨hkey, hwhitelist, requests, heffects⟩ := h
  obtain ⟨hkey', hwhitelist', requests', heffects'⟩ := h'
  refine ⟨hkey'.trans hkey, hwhitelist'.trans hwhitelist, requests ++ requests', ?_⟩
  rw [heffects', heffects, List.map_append, List.append_assoc]

def KeepsKeyAndWhitelist (change : ProfileManager → ProfileManager) : Prop :=
  ∀ manager, (change manager).localUserProfile.profileKey = manager.localUserProfile.profileKey ∧
    (change manager).profileWhitelist = manager.profileWhitelist

theorem keepsKeyAndWhitelist_id : KeepsKeyAndWhitelist id := fun _ => ⟨rfl, rfl⟩

theorem keepsKeyAndWhitelist_updateWithAvatar (avatarUrlPath avatarFileName : Option String) :
    KeepsKeyAndWhitelist (·.updateWithAvatar avatarUrlPath avatarFileName) :=
  fun _ => ⟨OWSUserProfile.profileKey_updateWithAvatar, rfl⟩

theorem keepsKeyAndWhitelist_copyAvatarFile (oldFileName newFileName : String) :
    KeepsKeyAndWhitelist (·.copyAvatarFile oldFileName newFileName) := by
  intro manager
  simp only [copyAvatarFile]
  split
  · exact ⟨rfl, rfl⟩
  · exact ⟨rfl, rfl⟩

theorem keeps_perform {change : ProfileManager → ProfileManager}
    (h : KeepsKeyAndWhitelist change) (request : RotationRequest) :
    Procedure.Keeps OnlyRequests (perform (.requested request) change) :=
  Procedure.Keeps.modify fun run => ⟨(h run.manager).1, (h run.manager).2, [request], rfl⟩

theorem keeps_request {change : ProfileManager → ProfileManager}
    (h : KeepsKeyAndWhitelist change) (rotationRequest : RotationRequest) (succeeds : Bool) :
    Procedure.Keeps OnlyRequests (request rotationRequest succeeds change) :=
  Procedure.Keeps.bind OnlyRequests.trans (keeps_perform h rotationRequest) fun _ =>
    Procedure.Keeps.ite (Procedure.Keeps.pure OnlyRequests.refl _)
      (Procedure.Keeps.raise OnlyRequests.refl _)

theorem keeps_reuploadProfileName (oldProfileName : Option String) :
    Procedure.Keeps OnlyRequests (reuploadProfileName S oldProfileName) :=
  Procedure.Keeps.ite (Procedure.Keeps.pure OnlyRequests.refl _)
    (keeps_request keepsKeyAndWhitelist_id _ _)

theorem keeps_reuploadProfileAvatar (oldAvatarFileName : Option String)
    (oldAvatarData : Option NSData) :
    Procedure.Keeps OnlyRequests (reuploadProfileAvatar S oldAvatarFileName oldAvatarData) := by
  refine Procedure.Keeps.ite (Procedure.Keeps.pure OnlyRequests.refl _) ?_
  cases S.uploadAvatarToService with
  | uploaded avatarUrlPath =>
      refine keeps_request (fun manager => ?_) _ _
      obtain ⟨hkey, hwhitelist⟩ := keepsKeyAndWhitelist_copyAvatarFile
        (oldAvatarFileName.getD "") S.generateAvatarFilename manager
      obtain ⟨hkey', hwhitelist'⟩ := keepsKeyAndWhitelist_updateWithAvatar (some avatarUrlPath)
        (some S.generateAvatarFilename)
        (manager.copyAvatarFile (oldAvatarFileName.getD "") S.generateAvatarFilename)
      exact ⟨hkey'.trans hkey, hwhitelist'.trans hwhitelist⟩
  | failed clearsLocalAvatar =>
      refine keeps_request (fun manager => ?_) _ _
      cases clearsLocalAvatar with
      | false => exact ⟨rfl, rfl⟩
      | true => exact keepsKeyAndWhitelist_updateWithAvatar none none manager

/-- What follows the cleaning of the whitelist. -/
theorem keeps_requests_after_cleaning :
    Procedure.Keeps OnlyRequests (do
      request .accountAttributes S.updateAccountAttributes id
      perform (.requested .localProfile) id
      request .localContact S.syncLocalContact id) :=
  Procedure.Keeps.bind OnlyRequests.trans (keeps_request keepsKeyAndWhitelist_id _ _) fun _ =>
    Procedure.Keeps.bind OnlyRequests.trans (keeps_perform keepsKeyAndWhitelist_id _) fun _ =>
      keeps_request keepsKeyAndWhitelist_id _ _

def replaceProfileKey (manager : ProfileManager) : ProfileManager :=
  { manager with
    localUserProfile := manager.localUserProfile.updateWithProfileKey S.generateRandomKey }

/-- **What a rotation comes to.**  The key is replaced first; then it fails with nothing but
requests done, or the whitelist is cleaned, with nothing but requests after that. -/
theorem run_rotateProfileKey (recipientIds : Finset String) (groupIds : Finset NSData)
    (manager : ProfileManager) :
    ∃ before : RotationRun,
      OnlyRequests ⟨replaceProfileKey S manager, [.replacedProfileKey]⟩ before ∧
      ((∃ failure, (rotateProfileKey S recipientIds groupIds).run ⟨manager, []⟩ =
          (.error failure, before)) ∨
        ∃ outcome after, (rotateProfileKey S recipientIds groupIds).run ⟨manager, []⟩ =
            (outcome, after) ∧
          OnlyRequests ((cleanWhitelist recipientIds groupIds).run before).2 after) := by
  have hname := keeps_reuploadProfileName S manager.localUserProfile.profileName
  have havatar := keeps_reuploadProfileAvatar S manager.localUserProfile.avatarFileName
    manager.profileAvatarData
  have hrun : (rotateProfileKey S recipientIds groupIds).run ⟨manager, []⟩ =
      (reuploadProfileName S manager.localUserProfile.profileName >>= fun _ =>
        reuploadProfileAvatar S manager.localUserProfile.avatarFileName
          manager.profileAvatarData >>= fun _ =>
        cleanWhitelist recipientIds groupIds >>= fun _ =>
        request .accountAttributes S.updateAccountAttributes id >>= fun _ =>
        perform (.requested .localProfile) id >>= fun _ =>
        request .localContact S.syncLocalContact id).run
          ⟨replaceProfileKey S manager, [.replacedProfileKey]⟩ := rfl
  rw [hrun]
  rcases hname_run : (reuploadProfileName S manager.localUserProfile.profileName).run
    ⟨replaceProfileKey S manager, [.replacedProfileKey]⟩ with ⟨_ | _, named⟩
  · exact ⟨named, hname.of_run hname_run, .inl ⟨_, Procedure.run_bind_of_error hname_run⟩⟩
  · rw [Procedure.run_bind_of_ok hname_run]
    rcases havatar_run : (reuploadProfileAvatar S manager.localUserProfile.avatarFileName
      manager.profileAvatarData).run named with ⟨_ | _, before⟩
    · exact ⟨before, (hname.of_run hname_run).trans _ _ _ (havatar.of_run havatar_run),
        .inl ⟨_, Procedure.run_bind_of_error havatar_run⟩⟩
    · rw [Procedure.run_bind_of_ok havatar_run]
      exact ⟨before, (hname.of_run hname_run).trans _ _ _ (havatar.of_run havatar_run),
        .inr ⟨_, _, rfl, keeps_requests_after_cleaning S _⟩⟩

/-! ## Who is cut off -/

variable {S} {C : ProfileContext} {manager : ProfileManager}

def runRotation (S : RotationServices) (C : ProfileContext) (manager : ProfileManager) :
    Except RotationRequest Unit × RotationRun :=
  (rotateLocalProfileKeyIfNecessary S C).run ⟨manager, []⟩

/-- What a run is for those who are blocked, and for the runs to come. -/
structure CutsOffBlocked (S : RotationServices) (C : ProfileContext) (manager : ProfileManager)
    (outcome : Except RotationRequest Unit) (after : RotationRun) : Prop where
  /-- The key is replaced before anything is asked of anybody. -/
  replaces : C.SharesWithBlocked manager.profileWhitelist →
    after.manager.localUserProfile.profileKey = S.generateRandomKey ∧
      ∃ rest, after.effects = .replacedProfileKey :: rest ∧ .replacedProfileKey ∉ rest
  /-- Whatever fails before the whitelist is cleaned leaves it for the next run. -/
  retries : outcome ≠ .ok () → .cleanedWhitelist ∉ after.effects →
    after.manager.profileWhitelist = manager.profileWhitelist ∧
      ∀ S', ∃ rest, (runRotation S' C after.manager).2.effects = .replacedProfileKey :: rest
  /-- A success leaves nothing to rotate, where no blocked number is in a group that stays. -/
  settles : outcome = .ok () →
    (∀ groupId, manager.profileWhitelist.HasGroup groupId → groupId.length = kGroupIdLength →
      groupId ∉ C.blockedGroupIds → ∀ recipientId ∈ C.blockedPhoneNumbers,
        C.localNumber ≠ some recipientId → recipientId ∉ C.groupThreads.memberIds groupId) →
    ∀ S', runRotation S' C after.manager = (.ok (), ⟨after.manager, []⟩)
  /-- Nothing is done where there is nothing to do. -/
  rests : ¬C.SharesWithBlocked manager.profileWhitelist →
    outcome = .ok () ∧ after = ⟨manager, []⟩
  keepsUsers : ∀ recipientId ∈ manager.profileWhitelist.userWhitelist,
    recipientId ∉ C.blockedPhoneNumbers → recipientId ∈ after.manager.profileWhitelist.userWhitelist
  keepsGroups : ∀ groupId, manager.profileWhitelist.HasGroup groupId →
    groupId ∉ C.blockedGroupIds → after.manager.profileWhitelist.HasGroup groupId

/-- Where nobody blocked has the key, a run does nothing. -/
theorem runRotation_of_not_shares (S : RotationServices)
    (h : ¬C.SharesWithBlocked manager.profileWhitelist) :
    runRotation S C manager = (.ok (), ⟨manager, []⟩) := by
  rw [← ProfileContext.isProfileKeySharedWithBlocked_iff] at h
  rw [runRotation, rotateLocalProfileKeyIfNecessary]
  split
  · rfl
  · rw [Procedure.run_read_bind]
    simp only [if_neg h]
    rfl

theorem runRotation_of_shares (S : RotationServices) (hregistered : C.isRegistered = true)
    (h : C.SharesWithBlocked manager.profileWhitelist) :
    runRotation S C manager =
      (rotateProfileKey S (C.intersectingRecipientIds manager.profileWhitelist)
        (C.intersectingGroupIds manager.profileWhitelist)).run ⟨manager, []⟩ := by
  rw [← ProfileContext.isProfileKeySharedWithBlocked_iff] at h
  rw [runRotation, rotateLocalProfileKeyIfNecessary, if_neg (by rw [hregistered]; decide),
    Procedure.run_read_bind]
  simp only [if_pos h]

theorem OnlyRequests.effects_eq {run run' : RotationRun} (h : OnlyRequests run run')
    {effect : RotationEffect} (hrun : run.effects = [effect]) :
    ∃ requests : List RotationRequest,
      run'.effects = effect :: requests.map RotationEffect.requested := by
  obtain ⟨-, -, requests, heffects⟩ := h
  exact ⟨requests, by rw [heffects, hrun]; rfl⟩

theorem replacedProfileKey_notMem_requests (requests : List RotationRequest) :
    RotationEffect.replacedProfileKey ∉ requests.map RotationEffect.requested := by
  simp

theorem exists_effects_of_shares (S : RotationServices) (hregistered : C.isRegistered = true)
    (h : C.SharesWithBlocked manager.profileWhitelist) :
    ∃ rest, (runRotation S C manager).2.effects = .replacedProfileKey :: rest ∧
      RotationEffect.replacedProfileKey ∉ rest := by
  rw [runRotation_of_shares S hregistered h]
  obtain ⟨before, hbefore, ⟨failure, hrun⟩ | ⟨outcome, after, hrun, hafter⟩⟩ :=
    run_rotateProfileKey S (C.intersectingRecipientIds manager.profileWhitelist)
      (C.intersectingGroupIds manager.profileWhitelist) manager
  · obtain ⟨requests, heffects⟩ := hbefore.effects_eq rfl
    rw [hrun]
    exact ⟨_, heffects, replacedProfileKey_notMem_requests requests⟩
  · obtain ⟨requests, heffects⟩ := hbefore.effects_eq rfl
    obtain ⟨-, -, requests', heffects'⟩ := hafter
    refine ⟨requests.map .requested ++ .cleanedWhitelist :: requests'.map .requested, ?_, ?_⟩
    · rw [hrun, heffects']
      simp [cleanWhitelist, perform, heffects]
    · simp

theorem not_shares_remove {whitelist : ProfileWhitelist}
    (hmembers : ∀ groupId, whitelist.HasGroup groupId → groupId.length = kGroupIdLength →
      groupId ∉ C.blockedGroupIds → ∀ recipientId ∈ C.blockedPhoneNumbers,
        C.localNumber ≠ some recipientId → recipientId ∉ C.groupThreads.memberIds groupId) :
    ¬C.SharesWithBlocked (whitelist.remove (C.intersectingRecipientIds whitelist)
      (C.intersectingGroupIds whitelist)) := by
  rintro (⟨recipientId, hblocked, hlocal, huser | ⟨groupId, hgroup, hlength, hmember⟩⟩ |
    ⟨groupId, hblocked, hgroup, hlength⟩)
  · obtain ⟨huser, hnot⟩ := ProfileWhitelist.mem_userWhitelist_remove.mp huser
    exact hnot (ProfileContext.mem_intersectingRecipientIds.mpr ⟨hblocked, hlocal, .inl huser⟩)
  · obtain ⟨hgroup, hnot⟩ := ProfileWhitelist.hasGroup_remove.mp hgroup
    refine hmembers groupId hgroup hlength (fun hblockedGroup => hnot ?_) recipientId hblocked hlocal
      hmember
    exact ProfileContext.mem_intersectingGroupIds.mpr ⟨hblockedGroup, hgroup, hlength⟩
  · obtain ⟨hgroup, hnot⟩ := ProfileWhitelist.hasGroup_remove.mp hgroup
    exact hnot (ProfileContext.mem_intersectingGroupIds.mpr ⟨hblocked, hgroup, hlength⟩)

/-- **Rotation cuts the blocked off.**  Where somebody blocked is in the whitelist, or in a group
of it, the key is replaced before anything that may fail.  A run that fails before the whitelist is
cleaned leaves it, and the next one rotates again; after a success the next one has nothing to do,
where nobody blocked is in a group that stays.  Else nothing changes, and no other entry goes. -/
theorem rotation_cuts_blocked_off (S : RotationServices) (C : ProfileContext)
    (manager : ProfileManager) (hregistered : C.isRegistered = true) :
    CutsOffBlocked S C manager (runRotation S C manager).1 (runRotation S C manager).2 := by
  by_cases hshares : C.SharesWithBlocked manager.profileWhitelist
  · obtain ⟨rest, heffects, hrest⟩ := exists_effects_of_shares S hregistered hshares
    rw [runRotation_of_shares S hregistered hshares] at heffects ⊢
    obtain ⟨before, hbefore, ⟨failure, hrun⟩ | ⟨outcome, after, hrun, hafter⟩⟩ :=
      run_rotateProfileKey S (C.intersectingRecipientIds manager.profileWhitelist)
        (C.intersectingGroupIds manager.profileWhitelist) manager
    -- It fails before the whitelist is cleaned, and the next run finds what this one has found.
    · obtain ⟨hkey, hwhitelist, -⟩ := hbefore
      have hsame : before.manager.profileWhitelist = manager.profileWhitelist := hwhitelist
      rw [hrun] at heffects ⊢
      refine ⟨fun _ => ⟨hkey, rest, heffects, hrest⟩, fun _ _ => ⟨hsame, fun S' => ?_⟩,
        fun hok => (by cases hok), fun hnot => absurd hshares hnot, fun recipientId hmem _ => ?_,
        fun groupId hgroup _ => ?_⟩
      · obtain ⟨rest', heffects', -⟩ :=
          exists_effects_of_shares S' hregistered (hsame.symm ▸ hshares)
        exact ⟨rest', heffects'⟩
      · exact hsame.symm ▸ hmem
      · exact hsame.symm ▸ hgroup
    -- The whitelist is cleaned, and what comes after leaves it.
    · obtain ⟨hkey, hwhitelist, -⟩ := hbefore
      obtain ⟨hkey', hwhitelist', requests, heffects'⟩ := hafter
      have hcleaned : after.manager.profileWhitelist =
          manager.profileWhitelist.remove (C.intersectingRecipientIds manager.profileWhitelist)
            (C.intersectingGroupIds manager.profileWhitelist) := by
        rw [hwhitelist']
        simp only [cleanWhitelist, perform, Procedure.run_modify]
        rw [hwhitelist]
        rfl
      rw [hrun] at heffects ⊢
      refine ⟨fun _ => ⟨hkey'.trans hkey, rest, heffects, hrest⟩, fun _ hnot => ?_,
        fun _ hmembers S' => ?_, fun hnot => absurd hshares hnot,
        fun recipientId hmem hblocked => ?_, fun groupId hgroup hblocked => ?_⟩
      · refine absurd ?_ hnot
        rw [heffects']
        simp [cleanWhitelist, perform]
      · refine runRotation_of_not_shares S' ?_
        rw [hcleaned]
        exact not_shares_remove hmembers
      · rw [hcleaned]
        exact ProfileWhitelist.mem_userWhitelist_remove.mpr ⟨hmem, fun hintersecting =>
          hblocked (ProfileContext.mem_intersectingRecipientIds.mp hintersecting).1⟩
      · rw [hcleaned]
        exact ProfileWhitelist.hasGroup_remove.mpr ⟨hgroup, fun hintersecting =>
          hblocked (ProfileContext.mem_intersectingGroupIds.mp hintersecting).1⟩
  · rw [runRotation_of_not_shares S hshares]
    exact ⟨fun h => absurd h hshares, fun hfailed => absurd rfl hfailed,
      fun _ _ S' => runRotation_of_not_shares S' hshares, fun _ => ⟨rfl, rfl⟩,
      fun _ hmem _ => hmem, fun _ hgroup _ => hgroup⟩

/-! ### Samples -/

/-- Everything succeeds. -/
def sampleServices : RotationServices where
  generateRandomKey := [9]
  generateAvatarFilename := "new.jpg"
  updateServiceWithProfileName := true
  uploadAvatarToService := .uploaded "profiles/2"
  updateAccountAttributes := true
  syncLocalContact := true

/-- Registered as `+1`, with one group of which `+2` is a member. -/
def sampleContext (groupId : NSData) (blockedPhoneNumbers : Finset String)
    (blockedGroupIds : Finset NSData) : ProfileContext where
  isRegistered := true
  localNumber := some "+1"
  groupThreads key := if key = groupId then some ⟨none, {"+1", "+2"}, none, groupId⟩ else none
  blockedPhoneNumbers := blockedPhoneNumbers
  blockedGroupIds := blockedGroupIds

/-- Nobody has the key. -/
def emptyWhitelist : ProfileWhitelist where
  userWhitelist := ∅
  groupWhitelist := ∅
  isGroupKey groupKey hkey := absurd hkey (Finset.notMem_empty groupKey)

/-- A profile without a name or an avatar. -/
def sampleManager (whitelist : ProfileWhitelist) : ProfileManager where
  localUserProfile := ⟨[1], none, none, none⟩
  avatarFiles _ := none
  deletions := []
  profileWhitelist := whitelist

/-- A blocked user of the whitelist: the key is replaced. -/
theorem rotation_cuts_blocked_off_sample :
    let after := (runRotation sampleServices (sampleContext [] {"+2"} ∅)
      (sampleManager (emptyWhitelist.addUsersToProfileWhitelist ["+2"]))).2
    after.manager.localUserProfile.profileKey = [9] :=
  ((rotation_cuts_blocked_off sampleServices (sampleContext [] {"+2"} ∅)
    (sampleManager (emptyWhitelist.addUsersToProfileWhitelist ["+2"])) rfl).replaces
      (ProfileContext.isProfileKeySharedWithBlocked_iff.mp (by decide))).1

def sampleGroupId : NSData := List.replicate 16 7

theorem blocked_but_passed_over :
    runRotation sampleServices (sampleContext [] {"+1"} ∅)
        (sampleManager (emptyWhitelist.addUsersToProfileWhitelist ["+1"])) =
      (.ok (), ⟨sampleManager (emptyWhitelist.addUsersToProfileWhitelist ["+1"]), []⟩) ∧
    runRotation sampleServices (sampleContext [7] ∅ {[7]})
        (sampleManager (emptyWhitelist.addGroupIdToProfileWhitelist [7])) =
      (.ok (), ⟨sampleManager (emptyWhitelist.addGroupIdToProfileWhitelist [7]), []⟩) ∧
    (runRotation sampleServices (sampleContext sampleGroupId {"+2"} ∅)
        (sampleManager (emptyWhitelist.addGroupIdToProfileWhitelist sampleGroupId))).1 = .ok () ∧
    (runRotation sampleServices (sampleContext sampleGroupId {"+2"} ∅)
        (runRotation sampleServices (sampleContext sampleGroupId {"+2"} ∅)
          (sampleManager (emptyWhitelist.addGroupIdToProfileWhitelist
            sampleGroupId))).2.manager).2.effects ≠ [] := by
  refine ⟨runRotation_of_not_shares _ ?_, runRotation_of_not_shares _ ?_, ?_, ?_⟩
  · rw [← ProfileContext.isProfileKeySharedWithBlocked_iff]
    decide
  · rw [← ProfileContext.isProfileKeySharedWithBlocked_iff]
    decide
  · decide
  · decide

end ProfileManager

end ObjcSwiftLearning.SignalMessaging
