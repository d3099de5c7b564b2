import Mathlib.Data.List.AList
import ObjcSwiftLearning.Library.WriteBehind
import ObjcSwiftLearning.SignalServiceKit.GroupMembership

/-!
# The block list

The blocked phone numbers and groups are loaded by whoever asks for them first, but for
`isGroupIdBlocked:`, which looks at the dictionary as it is.  An update changes them under
a lock; it then stores the phone numbers, and after that the groups, each as it read them
before, outside the lock.

* `OWSBlockingManager.Step` — the calls of any threads, step by step, and relaunches.
* `BlockSet.Step` — **what a block list is for**: a set of phone numbers and one of group
  ids, which answer for all that has been done to them, and of which a relaunch forgets
  only what was on its way.
* `blockList_is_persistent_set` — the one is the other, as long as no thread stores a list
  older than the one stored, groups are asked for once the lists are loaded, and a relaunch
  loses no change that a call has found made.
-/

namespace ObjcSwiftLearning.SignalServiceKit

open AxolotlKit HistoryEntry

/-! ## Updates -/

inductive PhoneNumberUpdate where
  | addBlockedPhoneNumber (phoneNumber : String)
  | removeBlockedPhoneNumber (phoneNumber : String)
  | setBlockedPhoneNumbers (blockedPhoneNumbers : List String)

inductive GroupUpdate where
  | addBlockedGroup (groupModel : TSGroupModel)
  | removeBlockedGroupId (groupId : NSData)

abbrev BlockedGroupMap := AList fun _ : NSData => TSGroupModel

/-- `addBlockedPhoneNumber:`, `removeBlockedPhoneNumber:` and `setBlockedPhoneNumbers:…`
under the lock; redundant changes are ignored. -/
def PhoneNumberUpdate.change (blockedPhoneNumberSet : Finset String) :
    PhoneNumberUpdate → Option (Finset String)
  | .addBlockedPhoneNumber phoneNumber =>
      if phoneNumber ∈ blockedPhoneNumberSet then none
      else some (insert phoneNumber blockedPhoneNumberSet)
  | .removeBlockedPhoneNumber phoneNumber =>
      if phoneNumber ∉ blockedPhoneNumberSet then none
      else some (blockedPhoneNumberSet.erase phoneNumber)
  | .setBlockedPhoneNumbers blockedPhoneNumbers =>
      let newSet := blockedPhoneNumbers.toFinset
      if blockedPhoneNumberSet = newSet then none else some newSet

/-- `addBlockedGroup:` and `removeBlockedGroupId:` under the lock. -/
def GroupUpdate.change (blockedGroupMap : BlockedGroupMap) : GroupUpdate → Option BlockedGroupMap
  | .addBlockedGroup groupModel =>
      if groupModel.groupId ∈ blockedGroupMap then none
      else some (blockedGroupMap.insert groupModel.groupId groupModel)
  | .removeBlockedGroupId groupId =>
      if groupId ∉ blockedGroupMap then none else some (blockedGroupMap.erase groupId)

/-! ## The manager -/

/-- Both lists, each with the number of changes it has seen.  What is stored is read back
as a set and a dictionary; before anything has been stored they are empty. -/
structure BlockLists where
  blockedPhoneNumbers : Versioned (Finset String)
  blockedGroupMap : Versioned BlockedGroupMap

def BlockLists.changePhoneNumbers (lists : BlockLists) (changed : Finset String) : BlockLists :=
  { lists with blockedPhoneNumbers := ⟨changed, lists.blockedPhoneNumbers.version + 1⟩ }

def BlockLists.changeGroupMap (lists : BlockLists) (changed : BlockedGroupMap) : BlockLists :=
  { lists with blockedGroupMap := ⟨changed, lists.blockedGroupMap.version + 1⟩ }

/-- Where a thread is in `handleUpdate:`, with what it has read. -/
inductive HandleUpdate where
  | called
  | phoneNumbersRead (blockedPhoneNumbers : Versioned (Finset String))
  | phoneNumbersStored
  | groupMapRead (blockedGroupMap : Versioned BlockedGroupMap)

/-- `OWSBlockingManager`, the database and the threads that are in `handleUpdate:`. -/
structure OWSBlockingManager where
  memory : Option BlockLists
  database : BlockLists
  threads : ℕ → Option HandleUpdate
  /-- The updates since the launch that found nothing to change, and how many changes they had
  seen. -/
  keptPhoneNumbers : List (Versioned PhoneNumberUpdate)
  keptGroups : List (Versioned GroupUpdate)

/-- What threads and the system do. -/
inductive BlockListEvent where
  | phoneNumbersUpdated (thread : ℕ) (update : PhoneNumberUpdate)
  | phoneNumbersKept (thread : ℕ) (update : PhoneNumberUpdate)
  | groupsUpdated (thread : ℕ) (update : GroupUpdate)
  | groupsKept (thread : ℕ) (update : GroupUpdate)
  | storing (thread : ℕ)
  | stored (thread : ℕ)
  | isRecipientIdBlocked (recipientId : String) (answer : Bool)
  | isGroupIdBlocked (groupId : NSData) (answer : Bool)
  | blockedGroupIds (answer : List NSData)
  | relaunched

namespace OWSBlockingManager

variable (manager : OWSBlockingManager)

/-- The lists after `ensureLazyInitialization`. -/
def lists : BlockLists := manager.memory.getD manager.database

def ensureLazyInitialization : OWSBlockingManager :=
  { manager with memory := some manager.lists }

/-- An update has changed the lists, and its thread goes on to `handleUpdate:`. -/
def updated (thread : ℕ) (lists : BlockLists) : OWSBlockingManager :=
  { manager with
    memory := some lists
    threads := Function.update manager.threads thread (some .called) }

def goOn (thread : ℕ) (handleUpdate : Option HandleUpdate) : OWSBlockingManager :=
  { manager with threads := Function.update manager.threads thread handleUpdate }

/-- `[self.dbConnection setObject:…]` with the phone numbers. -/
def storePhoneNumbers (blockedPhoneNumbers : Versioned (Finset String)) : OWSBlockingManager :=
  { manager with database := { manager.database with blockedPhoneNumbers } }

/-- `[self.dbConnection setObject:…]` with the groups. -/
def storeGroupMap (blockedGroupMap : Versioned BlockedGroupMap) : OWSBlockingManager :=
  { manager with database := { manager.database with blockedGroupMap } }

/-- **What may happen**: each step is what a thread does at once, under the lock or in one
transaction. -/
inductive Step : OWSBlockingManager → BlockListEvent → OWSBlockingManager → Prop
  | phoneNumbersUpdated {manager : OWSBlockingManager} {thread : ℕ} {update : PhoneNumberUpdate}
      {changed : Finset String} (idle : manager.threads thread = none)
      (hchange : update.change manager.lists.blockedPhoneNumbers.value = some changed) :
      Step manager (.phoneNumbersUpdated thread update)
        (manager.updated thread (manager.lists.changePhoneNumbers changed))
  | phoneNumbersKept {manager : OWSBlockingManager} (thread : ℕ) {update : PhoneNumberUpdate}
      (hchange : update.change manager.lists.blockedPhoneNumbers.value = none) :
      Step manager (.phoneNumbersKept thread update)
        { manager.ensureLazyInitialization with
          keptPhoneNumbers := manager.keptPhoneNumbers ++
            [⟨update, manager.lists.blockedPhoneNumbers.version⟩] }
  | groupsUpdated {manager : OWSBlockingManager} {thread : ℕ} {update : GroupUpdate}
      {changed : BlockedGroupMap} (idle : manager.threads thread = none)
      (hchange : update.change manager.lists.blockedGroupMap.value = some changed) :
      Step manager (.groupsUpdated thread update)
        (manager.updated thread (manager.lists.changeGroupMap changed))
  | groupsKept {manager : OWSBlockingManager} (thread : ℕ) {update : GroupUpdate}
      (hchange : update.change manager.lists.blockedGroupMap.value = none) :
      Step manager (.groupsKept thread update)
        { manager.ensureLazyInitialization with
          keptGroups := manager.keptGroups ++ [⟨update, manager.lists.blockedGroupMap.version⟩] }
  | readPhoneNumbers {manager : OWSBlockingManager} {thread : ℕ}
      (hthread : manager.threads thread = some .called) :
      Step manager (.storing thread) (manager.ensureLazyInitialization.goOn thread
        (some (.phoneNumbersRead manager.lists.blockedPhoneNumbers)))
  | storePhoneNumbers {manager : OWSBlockingManager} {thread : ℕ}
      {blockedPhoneNumbers : Versioned (Finset String)}
      (hthread : manager.threads thread = some (.phoneNumbersRead blockedPhoneNumbers)) :
      Step manager (.storing thread)
        ((manager.storePhoneNumbers blockedPhoneNumbers).goOn thread (some .phoneNumbersStored))
  | readGroupMap {manager : OWSBlockingManager} {thread : ℕ}
      (hthread : manager.threads thread = some .phoneNumbersStored) :
      Step manager (.storing thread)
        (manager.goOn thread (some (.groupMapRead manager.lists.blockedGroupMap)))
  | storeGroupMap {manager : OWSBlockingManager} {thread : ℕ}
      {blockedGroupMap : Versioned BlockedGroupMap}
      (hthread : manager.threads thread = some (.groupMapRead blockedGroupMap)) :
      Step manager (.stored thread) ((manager.storeGroupMap blockedGroupMap).goOn thread none)
  | isRecipientIdBlocked {manager : OWSBlockingManager} (recipientId : String) :
      Step manager (.isRecipientIdBlocked recipientId
        (decide (recipientId ∈ manager.lists.blockedPhoneNumbers.value)))
        manager.ensureLazyInitialization
  /-- It does not load the lists. -/
  | isGroupIdBlocked {manager : OWSBlockingManager} (groupId : NSData) :
      Step manager (.isGroupIdBlocked groupId
        (manager.memory.any fun lists => decide (groupId ∈ lists.blockedGroupMap.value)))
        manager
  | blockedGroupIds {manager : OWSBlockingManager} :
      Step manager (.blockedGroupIds manager.lists.blockedGroupMap.value.keys)
        manager.ensureLazyInitialization
  /-- Memory is dropped, with the threads that are on their way. -/
  | relaunched {manager : OWSBlockingManager} :
      Step manager .relaunched ⟨none, manager.database, fun _ => none, [], []⟩

/-- What a step must not do: store a list that was read before the one stored, look for
a group among lists that are not loaded, when it is in the stored one, or drop changes because
of which an update found nothing to change, which it would find in what is stored. -/
def Orderly (manager : OWSBlockingManager) : BlockListEvent → Prop
  | .storing thread => ∀ blockedPhoneNumbers,
      manager.threads thread = some (.phoneNumbersRead blockedPhoneNumbers) →
      manager.database.blockedPhoneNumbers.version ≤ blockedPhoneNumbers.version
  | .stored thread => ∀ blockedGroupMap,
      manager.threads thread = some (.groupMapRead blockedGroupMap) →
      manager.database.blockedGroupMap.version ≤ blockedGroupMap.version
  | .isGroupIdBlocked groupId _ =>
      manager.memory.isSome = true ∨ groupId ∉ manager.database.blockedGroupMap.value
  | .relaunched =>
      (∀ update ∈ manager.keptPhoneNumbers,
        manager.database.blockedPhoneNumbers.version < update.version →
          update.value.change manager.database.blockedPhoneNumbers.value = none) ∧
      ∀ update ∈ manager.keptGroups,
        manager.database.blockedGroupMap.version < update.version →
          update.value.change manager.database.blockedGroupMap.value = none
  | _ => True

/-- The app has just been launched; the stored lists have seen no changes yet. -/
structure Launched (manager : OWSBlockingManager) : Prop where
  memory : manager.memory = none
  threads : ∀ thread, manager.threads thread = none
  phoneNumbers : manager.database.blockedPhoneNumbers.version = 0
  groups : manager.database.blockedGroupMap.version = 0
  keptPhoneNumbers : manager.keptPhoneNumbers = []
  keptGroups : manager.keptGroups = []

end OWSBlockingManager

/-! ## What a block list is for -/

def PhoneNumberUpdate.apply : PhoneNumberUpdate → Finset String → Finset String
  | .addBlockedPhoneNumber phoneNumber, phoneNumbers => insert phoneNumber phoneNumbers
  | .removeBlockedPhoneNumber phoneNumber, phoneNumbers => phoneNumbers.erase phoneNumber
  | .setBlockedPhoneNumbers blockedPhoneNumbers, _ => blockedPhoneNumbers.toFinset

def GroupUpdate.apply : GroupUpdate → Finset NSData → Finset NSData
  | .addBlockedGroup groupModel, groupIds => insert groupModel.groupId groupIds
  | .removeBlockedGroupId groupId, groupIds => groupIds.erase groupId

/-- Two sets, by what they were at first and what has been done to them. -/
structure BlockSet where
  phoneNumbers : Finset String
  groupIds : Finset NSData
  phoneNumberUpdates : List (HistoryEntry PhoneNumberUpdate)
  groupUpdates : List (HistoryEntry GroupUpdate)

namespace BlockSet

def blockedPhoneNumbers (set : BlockSet) : Finset String :=
  applyAll PhoneNumberUpdate.apply set.phoneNumbers set.phoneNumberUpdates

def blockedGroupIds (set : BlockSet) : Finset NSData :=
  applyAll GroupUpdate.apply set.groupIds set.groupUpdates

/-- **The steps of a persistent set**: an update is applied, and one that returns at once has
gone through; a relaunch may lose those whose thread has not. -/
inductive Step : BlockSet → BlockListEvent → BlockSet → Prop
  | phoneNumbersUpdated {set : BlockSet} (thread : ℕ) (update : PhoneNumberUpdate) :
      Step set (.phoneNumbersUpdated thread update)
        { set with phoneNumberUpdates := set.phoneNumberUpdates ++ [⟨thread, update, false⟩] }
  | phoneNumbersKept {set : BlockSet} (thread : ℕ) (update : PhoneNumberUpdate) :
      Step set (.phoneNumbersKept thread update)
        { set with phoneNumberUpdates := set.phoneNumberUpdates ++ [⟨thread, update, true⟩] }
  | groupsUpdated {set : BlockSet} (thread : ℕ) (update : GroupUpdate) :
      Step set (.groupsUpdated thread update)
        { set with groupUpdates := set.groupUpdates ++ [⟨thread, update, false⟩] }
  | groupsKept {set : BlockSet} (thread : ℕ) (update : GroupUpdate) :
      Step set (.groupsKept thread update)
        { set with groupUpdates := set.groupUpdates ++ [⟨thread, update, true⟩] }
  | storing {set : BlockSet} (thread : ℕ) : Step set (.storing thread) set
  | stored {set : BlockSet} (thread : ℕ) :
      Step set (.stored thread)
        { set with
          phoneNumberUpdates := complete thread set.phoneNumberUpdates
          groupUpdates := complete thread set.groupUpdates }
  | isRecipientIdBlocked {set : BlockSet} (recipientId : String) :
      Step set (.isRecipientIdBlocked recipientId
        (decide (recipientId ∈ set.blockedPhoneNumbers))) set
  | isGroupIdBlocked {set : BlockSet} (groupId : NSData) :
      Step set (.isGroupIdBlocked groupId (decide (groupId ∈ set.blockedGroupIds))) set
  | blockedGroupIds {set : BlockSet} {answer : List NSData}
      (hanswer : answer.toFinset = set.blockedGroupIds) :
      Step set (.blockedGroupIds answer) set
  | relaunched {set : BlockSet} {phoneNumberUpdates : List (HistoryEntry PhoneNumberUpdate)}
      {groupUpdates : List (HistoryEntry GroupUpdate)}
      (hphoneNumbers : Survives set.phoneNumberUpdates phoneNumberUpdates)
      (hgroups : Survives set.groupUpdates groupUpdates) :
      Step set .relaunched { set with phoneNumberUpdates, groupUpdates }

end BlockSet

/-! ## What the updates do to the sets -/

def BlockedGroupMap.groupIds (blockedGroupMap : BlockedGroupMap) : Finset NSData :=
  blockedGroupMap.keys.toFinset

theorem BlockedGroupMap.mem_groupIds {groupId : NSData} {blockedGroupMap : BlockedGroupMap} :
    groupId ∈ blockedGroupMap.groupIds ↔ groupId ∈ blockedGroupMap :=
  List.mem_toFinset

/-- The dictionary after an update. -/
def GroupUpdate.applyMap (update : GroupUpdate) (blockedGroupMap : BlockedGroupMap) :
    BlockedGroupMap :=
  (update.change blockedGroupMap).getD blockedGroupMap

/-- The code adds, removes and sets. -/
theorem PhoneNumberUpdate.getD_change (update : PhoneNumberUpdate)
    (blockedPhoneNumberSet : Finset String) :
    (update.change blockedPhoneNumberSet).getD blockedPhoneNumberSet =
      update.apply blockedPhoneNumberSet := by
  cases update with
  | addBlockedPhoneNumber phoneNumber | removeBlockedPhoneNumber phoneNumber =>
      by_cases hmem : phoneNumber ∈ blockedPhoneNumberSet
      · simp [change, apply, hmem]
      · simp [change, apply, hmem]
  | setBlockedPhoneNumbers blockedPhoneNumbers =>
      by_cases hsame : blockedPhoneNumberSet = blockedPhoneNumbers.toFinset
      · simp [change, apply, ← hsame]
      · simp [change, apply, hsame]

theorem GroupUpdate.groupIds_applyMap (update : GroupUpdate) (blockedGroupMap : BlockedGroupMap) :
    (update.applyMap blockedGroupMap).groupIds = update.apply blockedGroupMap.groupIds := by
  ext key
  cases update with
  | addBlockedGroup groupModel =>
      by_cases hmem : groupModel.groupId ∈ blockedGroupMap
      · simp +contextual [applyMap, change, apply, hmem, BlockedGroupMap.mem_groupIds]
      · simp [applyMap, change, apply, hmem, BlockedGroupMap.mem_groupIds, AList.mem_insert]
  | removeBlockedGroupId groupId =>
      by_cases hmem : groupId ∈ blockedGroupMap
      · simp [applyMap, change, apply, hmem, BlockedGroupMap.mem_groupIds]
      · simp +contextual [applyMap, change, apply, hmem, BlockedGroupMap.mem_groupIds]

/-! ## The code keeps a persistent set -/

namespace OWSBlockingManager

def HandleUpdate.phoneNumberStage : Option HandleUpdate → StoreStage (Finset String)
  | some .called => .toRead
  | some (.phoneNumbersRead blockedPhoneNumbers) => .toWrite blockedPhoneNumbers
  | none | some .phoneNumbersStored | some (.groupMapRead _) => .written

/-- How far a thread is with the groups. -/
def HandleUpdate.groupStage : Option HandleUpdate → StoreStage BlockedGroupMap
  | some .called | some (.phoneNumbersRead _) | some .phoneNumbersStored => .toRead
  | some (.groupMapRead blockedGroupMap) => .toWrite blockedGroupMap
  | none => .written

/-- **The manager holds the set**: both lists, in memory and stored, are tracked by what
has been done to the set. -/
structure Holds (manager : OWSBlockingManager) (set : BlockSet) : Prop where
  loaded : ∀ thread, manager.threads thread ≠ none → manager.memory.isSome = true
  phoneNumbers : Recorded PhoneNumberUpdate.apply set.phoneNumbers set.phoneNumberUpdates
    manager.keptPhoneNumbers manager.lists.blockedPhoneNumbers manager.database.blockedPhoneNumbers
    (fun thread => HandleUpdate.phoneNumberStage (manager.threads thread))
  groups : ∃ initial : BlockedGroupMap, initial.groupIds = set.groupIds ∧
    Recorded GroupUpdate.applyMap initial set.groupUpdates manager.keptGroups
      manager.lists.blockedGroupMap manager.database.blockedGroupMap
      (fun thread => HandleUpdate.groupStage (manager.threads thread))

variable {manager manager' : OWSBlockingManager} {set : BlockSet} {event : BlockListEvent}

theorem Holds.blockedPhoneNumbers (holds : manager.Holds set) :
    manager.lists.blockedPhoneNumbers.value = set.blockedPhoneNumbers :=
  holds.phoneNumbers.memory_value

theorem Holds.blockedGroupIds (holds : manager.Holds set) :
    manager.lists.blockedGroupMap.value.groupIds = set.blockedGroupIds := by
  obtain ⟨initial, hinitial, htracked⟩ := holds.groups
  rw [htracked.memory_value, BlockSet.blockedGroupIds, ← hinitial]
  exact applyAll_map_value GroupUpdate.groupIds_applyMap

/-- Loading the lists is not seen. -/
theorem Holds.ensureLazyInitialization (holds : manager.Holds set) :
    manager.ensureLazyInitialization.Holds set :=
  ⟨fun _ _ => rfl, holds.phoneNumbers, holds.groups⟩

/-- How far the threads are when one of them has gone on. -/
theorem stage_goOn {β : Type} (stage : Option HandleUpdate → β)
    (threads : ℕ → Option HandleUpdate) (thread : ℕ) (handleUpdate : Option HandleUpdate) :
    (fun other => stage (Function.update threads thread handleUpdate other)) =
      Function.update (fun other => stage (threads other)) thread (stage handleUpdate) :=
  Function.comp_update stage threads thread handleUpdate

theorem lists_store (loaded : manager.memory.isSome = true) (database : BlockLists)
    (threads : ℕ → Option HandleUpdate) (keptPhoneNumbers : List (Versioned PhoneNumberUpdate))
    (keptGroups : List (Versioned GroupUpdate)) :
    (⟨manager.memory, database, threads, keptPhoneNumbers, keptGroups⟩ :
      OWSBlockingManager).lists = manager.lists := by
  obtain ⟨found, hmemory⟩ := Option.isSome_iff_exists.mp loaded
  simp [lists, hmemory]

/-- The answer about a group is right when the lists are loaded, or it is in neither. -/
theorem Holds.isGroupIdBlocked (holds : manager.Holds set) {groupId : NSData}
    (loaded : manager.memory.isSome = true ∨ groupId ∉ manager.database.blockedGroupMap.value) :
    (manager.memory.any fun lists => decide (groupId ∈ lists.blockedGroupMap.value)) =
      decide (groupId ∈ set.blockedGroupIds) := by
  rw [← holds.blockedGroupIds, lists]
  cases hmemory : manager.memory with
  | none =>
      rw [hmemory] at loaded
      simp [BlockedGroupMap.mem_groupIds, loaded.resolve_left (by simp)]
  | some lists => simp [BlockedGroupMap.mem_groupIds]

/-- **Each orderly step is one of the set.** -/
theorem Holds.step (holds : manager.Holds set) (step : Step manager event manager')
    (orderly : manager.Orderly event) : ∃ set', BlockSet.Step set event set' ∧
      manager'.Holds set' := by
  obtain ⟨initial, hinitial, hgroups⟩ := holds.groups
  cases step with
  | @phoneNumbersUpdated thread update changed idle hchange =>
      have hchanged : changed = update.apply manager.lists.blockedPhoneNumbers.value := by
        rw [← update.getD_change, hchange]
        rfl
      refine ⟨_, .phoneNumbersUpdated thread update, fun _ _ => rfl, ?_, initial, hinitial, ?_⟩
      · simp only [updated, stage_goOn, hchanged]
        exact holds.phoneNumbers.change update thread
      · simp only [updated, stage_goOn]
        exact hgroups.begin thread
  | @phoneNumbersKept thread update hchange =>
      refine ⟨_, .phoneNumbersKept thread update, fun _ _ => rfl,
        holds.phoneNumbers.keep update thread ?_, initial, hinitial, hgroups⟩
      rw [← update.getD_change, hchange]
      rfl
  | @groupsUpdated thread update changed idle hchange =>
      have hchanged : changed = update.applyMap manager.lists.blockedGroupMap.value := by
        rw [GroupUpdate.applyMap, hchange]
        rfl
      refine ⟨_, .groupsUpdated thread update, fun _ _ => rfl, ?_, initial, hinitial, ?_⟩
      · simp only [updated, stage_goOn]
        exact holds.phoneNumbers.begin thread
      · simp only [updated, stage_goOn, hchanged]
        exact hgroups.change update thread
  | @groupsKept thread update hchange =>
      refine ⟨_, .groupsKept thread update, fun _ _ => rfl, holds.phoneNumbers, initial, hinitial,
        hgroups.keep update thread ?_⟩
      rw [GroupUpdate.applyMap, hchange]
      rfl
  | @readPhoneNumbers thread hthread =>
      refine ⟨set, .storing thread, fun _ _ => rfl, ?_, initial, hinitial, ?_⟩
      · simp only [goOn, OWSBlockingManager.ensureLazyInitialization, stage_goOn]
        exact holds.phoneNumbers.read thread
      · simp only [goOn, OWSBlockingManager.ensureLazyInitialization, stage_goOn]
        exact hgroups.begin thread
  | @storePhoneNumbers thread blockedPhoneNumbers hthread =>
      have loaded := holds.loaded thread (by simp [hthread])
      -- The thread writes what it has read, which in order is what is held.
      have hread : HandleUpdate.phoneNumberStage (manager.threads thread) =
          .toWrite blockedPhoneNumbers := by rw [hthread]; rfl
      refine ⟨set, .storing thread, fun _ _ => loaded, ?_, initial, hinitial, ?_⟩
      · simp only [goOn, storePhoneNumbers, stage_goOn, lists_store loaded]
        exact holds.phoneNumbers.write hread (orderly _ hthread)
      · simp only [goOn, storePhoneNumbers, stage_goOn, lists_store loaded]
        exact hgroups.begin thread
  | @readGroupMap thread hthread =>
      have loaded := holds.loaded thread (by simp [hthread])
      -- For the phone numbers, reading the groups changes nothing.
      have hwritten : HandleUpdate.phoneNumberStage (manager.threads thread) =
          HandleUpdate.phoneNumberStage (some (.groupMapRead manager.lists.blockedGroupMap)) := by
        rw [hthread]
        rfl
      refine ⟨set, .storing thread, fun _ _ => loaded, ?_, initial, hinitial, ?_⟩
      · simp only [goOn, stage_goOn]
        rw [← hwritten, Function.update_eq_self]
        exact holds.phoneNumbers
      · simp only [goOn, stage_goOn]
        exact hgroups.read thread
  | @storeGroupMap thread blockedGroupMap hthread =>
      have loaded := holds.loaded thread (by simp [hthread])
      have hread : HandleUpdate.groupStage (manager.threads thread) =
          .toWrite blockedGroupMap := by rw [hthread]; rfl
      have hwritten : HandleUpdate.phoneNumberStage (manager.threads thread) =
          HandleUpdate.phoneNumberStage none := by rw [hthread]; rfl
      refine ⟨_, .stored thread, fun _ _ => loaded, ?_, initial, hinitial, ?_⟩
      · simp only [goOn, storeGroupMap, stage_goOn, lists_store loaded]
        rw [← hwritten, Function.update_eq_self]
        exact holds.phoneNumbers.complete hwritten
      · simp only [goOn, storeGroupMap, stage_goOn, lists_store loaded]
        exact (hgroups.write hread (orderly _ hthread)).complete (Function.update_self _ _ _)
  | isRecipientIdBlocked recipientId =>
      rw [holds.blockedPhoneNumbers]
      exact ⟨set, .isRecipientIdBlocked recipientId, holds.ensureLazyInitialization⟩
  | isGroupIdBlocked groupId =>
      rw [holds.isGroupIdBlocked orderly]
      exact ⟨set, .isGroupIdBlocked groupId, holds⟩
  | blockedGroupIds =>
      exact ⟨set, .blockedGroupIds holds.blockedGroupIds, holds.ensureLazyInitialization⟩
  | relaunched =>
      -- A launch finds what was stored, without the updates that had not got so far.
      obtain ⟨phoneNumberUpdates, hphoneNumbers, htracked⟩ :=
        holds.phoneNumbers.relaunch fun update hkept hlater => by
          rw [← update.value.getD_change, orderly.1 update hkept hlater]
          rfl
      obtain ⟨groupUpdates, hsurvives, htracked'⟩ :=
        hgroups.relaunch fun update hkept hlater => by
          rw [GroupUpdate.applyMap, orderly.2 update hkept hlater]
          rfl
      exact ⟨_, .relaunched hphoneNumbers hsurvives, by simp, htracked, initial, hinitial,
        htracked'⟩

/-- **The manager and a set are one**: what it has answered is what the set answers, it
holds the set at the end, and then, when no thread is on its way, it has stored it. -/
def IsPersistentSet (start : OWSBlockingManager) (events : List BlockListEvent)
    (manager : OWSBlockingManager) : Prop :=
  ∃ set, LabelledRun BlockSet.Step
      ⟨start.database.blockedPhoneNumbers.value, start.database.blockedGroupMap.value.groupIds,
        [], []⟩ events set ∧
    manager.lists.blockedPhoneNumbers.value = set.blockedPhoneNumbers ∧
    manager.lists.blockedGroupMap.value.groupIds = set.blockedGroupIds ∧
    ((∀ thread, manager.threads thread = none) →
      manager.database.blockedPhoneNumbers.value = manager.lists.blockedPhoneNumbers.value ∧
      manager.database.blockedGroupMap.value = manager.lists.blockedGroupMap.value)

/-- When no thread is on its way everything is stored. -/
theorem Holds.stored (holds : manager.Holds set)
    (idle : ∀ thread, manager.threads thread = none) :
    manager.database.blockedPhoneNumbers.value = manager.lists.blockedPhoneNumbers.value ∧
      manager.database.blockedGroupMap.value = manager.lists.blockedGroupMap.value := by
  obtain ⟨initial, -, hgroups⟩ := holds.groups
  refine ⟨holds.phoneNumbers.stored_eq fun thread => ?_, hgroups.stored_eq fun thread => ?_⟩
  · rw [idle thread]
    rfl
  · rw [idle thread]
    rfl

variable {start : OWSBlockingManager} {events : List BlockListEvent}

theorem Launched.holds (launched : start.Launched) :
    start.Holds ⟨start.database.blockedPhoneNumbers.value,
      start.database.blockedGroupMap.value.groupIds, [], []⟩ := by
  have hthreads : start.threads = fun _ => none := funext launched.threads
  refine ⟨fun thread h => absurd (launched.threads thread) h, ?_, _, rfl, ?_⟩
  · simp only [lists, launched.memory, hthreads, launched.keptPhoneNumbers]
    exact Recorded.initial launched.phoneNumbers
  · simp only [lists, launched.memory, hthreads, launched.keptGroups]
    exact Recorded.initial launched.groups

/-- **The block list is a persistent set**, over runs whose steps are orderly. -/
theorem blockList_is_persistent_set (launched : start.Launched)
    (run : LabelledRun (fun manager event manager' =>
      Step manager event manager' ∧ manager.Orderly event) start events manager) :
    start.IsPersistentSet events manager := by
  obtain ⟨set, hrun, holds⟩ := run.invariant (I := fun events manager =>
      ∃ set, LabelledRun BlockSet.Step _ events set ∧ manager.Holds set)
    ⟨_, .refl, launched.holds⟩ (by
      rintro events manager event manager' ⟨set, hrun, holds⟩ ⟨step, orderly⟩
      obtain ⟨set', hstep, holds'⟩ := holds.step step orderly
      exact ⟨set', hrun.tail hstep, holds'⟩)
  exact ⟨set, hrun, holds.blockedPhoneNumbers, holds.blockedGroupIds, holds.stored⟩

/-! ## Where it does not -/

def sampleBlockedGroup : TSGroupModel where
  groupName := none
  groupMemberIds := {"+1", "+2"}
  groupImage := none
  groupId := [7]

/-- The app is launched; `"+5"` and a group have been blocked before. -/
def sampleBlockingManager : OWSBlockingManager where
  memory := none
  database :=
    { blockedPhoneNumbers := ⟨{"+5"}, 0⟩
      blockedGroupMap := ⟨AList.singleton [7] sampleBlockedGroup, 0⟩ }
  threads _ := none
  keptPhoneNumbers := []
  keptGroups := []

theorem launched_sampleBlockingManager : sampleBlockingManager.Launched :=
  ⟨rfl, fun _ => rfl, rfl, rfl, rfl, rfl⟩

/-- `"+6"` is blocked and stored, then blocked once more, and still blocked after a relaunch. -/
theorem isPersistentSet_sample :
    ∃ manager, sampleBlockingManager.IsPersistentSet
      [.isRecipientIdBlocked "+5" true, .isGroupIdBlocked [7] true,
        .phoneNumbersUpdated 1 (.addBlockedPhoneNumber "+6"), .storing 1, .storing 1,
        .phoneNumbersKept 2 (.addBlockedPhoneNumber "+6"), .relaunched,
        .isRecipientIdBlocked "+6" true] manager := by
  obtain ⟨manager, run⟩ : ∃ manager, LabelledRun (fun manager event manager' =>
      Step manager event manager' ∧ manager.Orderly event) sampleBlockingManager
      [.isRecipientIdBlocked "+5" true, .isGroupIdBlocked [7] true,
        .phoneNumbersUpdated 1 (.addBlockedPhoneNumber "+6"), .storing 1, .storing 1,
        .phoneNumbersKept 2 (.addBlockedPhoneNumber "+6"), .relaunched,
        .isRecipientIdBlocked "+6" true] manager := by
    refine ⟨_, (((((((LabelledRun.single ⟨.isRecipientIdBlocked "+5", trivial⟩).tail
      ⟨.isGroupIdBlocked [7], .inl rfl⟩).tail ⟨.phoneNumbersUpdated rfl rfl, trivial⟩).tail
        ⟨.readPhoneNumbers rfl, ?_⟩).tail ⟨.storePhoneNumbers rfl, ?_⟩).tail
          ⟨.phoneNumbersKept 2 rfl, trivial⟩).tail ⟨.relaunched, ?_, ?_⟩).tail
            ⟨.isRecipientIdBlocked "+6", trivial⟩⟩
    · intro blockedPhoneNumbers hread
      cases hread
    · intro blockedPhoneNumbers hread
      cases hread
      exact Nat.zero_le _
    -- What the second call has found is stored when the app is relaunched.
    · intro update hkept hlater
      obtain rfl := List.mem_singleton.mp hkept
      exact absurd hlater (Nat.lt_irrefl _)
    · intro update hkept
      cases hkept
  exact ⟨manager, blockList_is_persistent_set launched_sampleBlockingManager run⟩

/-- **The first call after a launch** asks for a group that is blocked. -/
theorem not_isPersistentSet_of_first_call :
    ¬∀ (start : OWSBlockingManager) (events : List BlockListEvent) (manager : OWSBlockingManager),
      start.Launched → LabelledRun Step start events manager →
      start.IsPersistentSet events manager := by
  intro hpersistent
  obtain ⟨set, hrun, -⟩ := hpersistent sampleBlockingManager [.isGroupIdBlocked [7] false] _
    launched_sampleBlockingManager (.single (.isGroupIdBlocked [7]))
  -- the set answers that it is blocked
  cases hrun.of_single

end OWSBlockingManager

end ObjcSwiftLearning.SignalServiceKit
