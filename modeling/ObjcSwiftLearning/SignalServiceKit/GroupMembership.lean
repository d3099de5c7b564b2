import Mathlib.Data.Finset.Basic
import Mathlib.Data.Finset.Dedup
import ObjcSwiftLearning.Library.LabelledRun
import ObjcSwiftLearning.SignalServiceKit.MessageDecrypter

/-!
# Who is in a group

`handleIncomingEnvelope:withDataMessage:` drops a message of a blocked group, one that
was replayed, and one of a group that is unknown or that we have left, unless it is an
update; `handleReceivedEnvelope:withDataMessage:` then switches on the type.  It joins the
listed members and those it knows before it looks at the type, so a message that leaves
the group also brings those it lists.

* `handleIncomingEnvelope` — what a data message does to the group threads.
* `memberIds_handleIncomingEnvelope` — **who is in a group after a message**.
* `announced_iff` — the membership changes as announced exactly when no message that quits
  names somebody new.
* `membership_changes_as_announced` — **the same of runs**, and what it means for those who
  are in the group at the end.
-/

namespace ObjcSwiftLearning.SignalServiceKit

open AxolotlKit

/-! ## Data -/

structure SSKProtoAttachmentPointer where
  id : UInt64
  deriving DecidableEq

inductive SSKProtoGroupContextType where
  | unknown
  | update
  | deliver
  | quit
  | requestInfo
  deriving DecidableEq

structure SSKProtoGroupContext where
  id : NSData
  type : SSKProtoGroupContextType
  name : Option String
  members : List String
  deriving DecidableEq

/-- `SSKProtoDataMessage`, the fields that decide what becomes of a group. -/
structure SSKProtoDataMessage where
  timestamp : Option UInt64
  flags : UInt32
  group : Option SSKProtoGroupContext
  attachments : List SSKProtoAttachmentPointer
  deriving DecidableEq

def sskProtoDataMessageFlagsEndSession : UInt32 := 1

def sskProtoDataMessageFlagsExpirationTimerUpdate : UInt32 := 2

def sskProtoDataMessageFlagsProfileKeyUpdate : UInt32 := 4

/-- `TSGroupModel`; the array of members is always that of a set. -/
structure TSGroupModel where
  groupName : Option String
  groupMemberIds : Finset String
  groupImage : Option NSData
  groupId : NSData
  deriving DecidableEq

/-- The group models of the stored `TSGroupThread`s. -/
abbrev GroupThreads := NSData → Option TSGroupModel

namespace GroupThreads

variable (threads : GroupThreads)

def save (groupId : NSData) (groupModel : TSGroupModel) : GroupThreads :=
  fun key => if key = groupId then some groupModel else threads key

/-- The members stored for a group: none of a group we do not know. -/
def memberIds (groupId : NSData) : Finset String :=
  (threads groupId).elim ∅ (·.groupMemberIds)

@[simp] theorem memberIds_save (groupId key : NSData) (groupModel : TSGroupModel) :
    (threads.save groupId groupModel).memberIds key =
      if key = groupId then groupModel.groupMemberIds else threads.memberIds key := by
  unfold memberIds save
  split
  · rfl
  · rfl

end GroupThreads

/-- `OWSMessageManager`: the account, the block list, and what it asks others. -/
structure OWSMessageManager where
  localNumber : String
  isGroupIdBlocked : NSData → Bool
  isEnvelopeSenderBlocked : SSKProtoEnvelope → Bool
  isValidE164 : String → Bool
  hasSupportedAttachments : List SSKProtoAttachmentPointer → Bool

namespace OWSMessageManager

variable (manager : OWSMessageManager) (threads : GroupThreads) (envelope : SSKProtoEnvelope)
  (dataMessage : SSKProtoDataMessage)

/-! ## Handling a message -/

def isDataMessageBlocked : Bool :=
  match dataMessage.group with
  | some group => manager.isGroupIdBlocked group.id
  | none => manager.isEnvelopeSenderBlocked envelope

/-- A timestamp of the message is that of its envelope. -/
def hasInvalidTimestamp : Bool :=
  match dataMessage.timestamp with
  | some timestamp => timestamp == 0 || timestamp != envelope.timestamp
  | none => false

/-- The types of group messages that `handleReceivedEnvelope:…` switches on. -/
def handleGroupContext (group : SSKProtoGroupContext) : GroupThreads :=
  if group.members.any (!manager.isValidE164 ·) then threads
  else
    let oldGroupThread := threads group.id
    -- all known members remain, whatever the type
    let newMemberIds := group.members.toFinset ∪ threads.memberIds group.id
    match group.type with
    | .update =>
        threads.save group.id
          { groupName := group.name
            groupMemberIds := newMemberIds
            groupImage := oldGroupThread.bind (·.groupImage)
            groupId := group.id }
    | .quit =>
        match oldGroupThread with
        | none => threads
        | some groupModel =>
            threads.save group.id
              { groupModel with
                groupMemberIds := newMemberIds.filter (envelope.source ≠ some ·) }
    | .deliver | .unknown | .requestInfo => threads

/-- `handleReceivedEnvelope:withDataMessage:attachmentIds:transaction:`, as far as group
threads go: a request is answered, and a message without a group goes to its contact. -/
def handleReceivedEnvelope : GroupThreads :=
  match dataMessage.group with
  | none => threads
  | some group =>
      if group.type = .requestInfo then threads
      else if group.id.length = 0 then threads
      else manager.handleGroupContext threads envelope group

/-- `handleReceivedMediaWithEnvelope:dataMessage:transaction:`. -/
def handleReceivedMedia : GroupThreads :=
  match dataMessage.group with
  | none => threads
  | some group =>
      if (threads group.id).isNone then threads
      else if !manager.hasSupportedAttachments dataMessage.attachments then threads
      else manager.handleReceivedEnvelope threads envelope dataMessage

/-- The last part of `handleIncomingEnvelope:withDataMessage:transaction:`.  The three
kinds of flags end sessions, set timers and save profile keys. -/
def handleContent : GroupThreads :=
  if dataMessage.flags &&& sskProtoDataMessageFlagsEndSession ≠ 0 then threads
  else if dataMessage.flags &&& sskProtoDataMessageFlagsExpirationTimerUpdate ≠ 0 then threads
  else if dataMessage.flags &&& sskProtoDataMessageFlagsProfileKeyUpdate ≠ 0 then threads
  else if 0 < dataMessage.attachments.length then
    manager.handleReceivedMedia threads envelope dataMessage
  else manager.handleReceivedEnvelope threads envelope dataMessage

/-- `handleIncomingEnvelope:withDataMessage:transaction:`, as far as group threads go. -/
def handleIncomingEnvelope : GroupThreads :=
  if manager.isDataMessageBlocked envelope dataMessage then threads
  else if hasInvalidTimestamp envelope dataMessage then threads
  else
    match dataMessage.group with
    | none => manager.handleContent threads envelope dataMessage
    | some group =>
        match threads group.id with
        | some groupModel =>
            if group.type ≠ .update ∧ manager.localNumber ∉ groupModel.groupMemberIds then threads
            else manager.handleContent threads envelope dataMessage
        | none =>
            -- for a message of an unknown group we ask its sender who is in it
            if group.type = .update then manager.handleContent threads envelope dataMessage
            else threads

/-! ## What is ignored -/

/-- A message for the group that is dropped by one of the checks before or in
`handleReceivedEnvelope:…`, or whose flags make it one of another kind. -/
def Ignores (group : SSKProtoGroupContext) : Prop :=
  manager.isGroupIdBlocked group.id = true ∨ hasInvalidTimestamp envelope dataMessage = true ∨
    (group.type ≠ .update ∧ manager.localNumber ∉ threads.memberIds group.id) ∨
    dataMessage.flags &&& sskProtoDataMessageFlagsEndSession ≠ 0 ∨
    dataMessage.flags &&& sskProtoDataMessageFlagsExpirationTimerUpdate ≠ 0 ∨
    dataMessage.flags &&& sskProtoDataMessageFlagsProfileKeyUpdate ≠ 0 ∨
    (0 < dataMessage.attachments.length ∧ ((threads group.id).isNone = true ∨
      manager.hasSupportedAttachments dataMessage.attachments = false)) ∨
    group.id.length = 0 ∨ group.members.any (!manager.isValidE164 ·) = true

instance (group : SSKProtoGroupContext) :
    Decidable (manager.Ignores threads envelope dataMessage group) :=
  inferInstanceAs (Decidable (_ ∨ _))

variable {manager threads envelope dataMessage} {group : SSKProtoGroupContext}

theorem handleIncomingEnvelope_of_group_eq_none (h : dataMessage.group = none) :
    manager.handleIncomingEnvelope threads envelope dataMessage = threads := by
  simp [handleIncomingEnvelope, handleContent, handleReceivedMedia, handleReceivedEnvelope, h]

/-- A request for information is of no other type. -/
theorem handleReceivedEnvelope_of_group_eq_some (h : dataMessage.group = some group) :
    manager.handleReceivedEnvelope threads envelope dataMessage =
      if group.id.length = 0 then threads
      else manager.handleGroupContext threads envelope group := by
  simp only [handleReceivedEnvelope, h]
  by_cases hrequest : group.type = .requestInfo
  · simp [hrequest, handleGroupContext]
  · rw [if_neg hrequest]

theorem handleContent_of_group_eq_some (h : dataMessage.group = some group) :
    manager.handleContent threads envelope dataMessage =
      if dataMessage.flags &&& sskProtoDataMessageFlagsEndSession ≠ 0 ∨
        dataMessage.flags &&& sskProtoDataMessageFlagsExpirationTimerUpdate ≠ 0 ∨
        dataMessage.flags &&& sskProtoDataMessageFlagsProfileKeyUpdate ≠ 0 ∨
        (0 < dataMessage.attachments.length ∧ ((threads group.id).isNone = true ∨
          manager.hasSupportedAttachments dataMessage.attachments = false)) ∨
        group.id.length = 0 ∨ group.members.any (!manager.isValidE164 ·) = true then threads
      else manager.handleGroupContext threads envelope group := by
  have hmembers : (if group.members.any (!manager.isValidE164 ·) = true then threads
      else manager.handleGroupContext threads envelope group) =
        manager.handleGroupContext threads envelope group := by
    split
    · rename_i hinvalid
      rw [handleGroupContext, if_pos hinvalid]
    · rfl
  simp only [handleContent, handleReceivedMedia, h, ite_or,
    handleReceivedEnvelope_of_group_eq_some h, hmembers]
  by_cases hattachments : 0 < dataMessage.attachments.length
  · simp [hattachments, ite_or]
  · simp [hattachments]

/-- **A message of a group** is ignored, or its type is switched on. -/
theorem handleIncomingEnvelope_of_group_eq_some (h : dataMessage.group = some group) :
    manager.handleIncomingEnvelope threads envelope dataMessage =
      if manager.Ignores threads envelope dataMessage group then threads
      else manager.handleGroupContext threads envelope group := by
  have hignores : (if manager.Ignores threads envelope dataMessage group then threads
      else manager.handleGroupContext threads envelope group) =
        if manager.isGroupIdBlocked group.id = true then threads
        else if hasInvalidTimestamp envelope dataMessage = true then threads
        else if group.type ≠ .update ∧ manager.localNumber ∉ threads.memberIds group.id then threads
        else manager.handleContent threads envelope dataMessage := by
    rw [handleContent_of_group_eq_some h, ← ite_or, ← ite_or, ← ite_or]
    exact if_congr (or_assoc.symm.trans or_assoc.symm) rfl rfl
  simp only [hignores, handleIncomingEnvelope, isDataMessageBlocked, h]
  obtain hthread | ⟨groupModel, hthread⟩ := Option.eq_none_or_eq_some (threads group.id)
  · simp [GroupThreads.memberIds, hthread]
  · simp [GroupThreads.memberIds, hthread]

end OWSMessageManager

/-! ## Who is in the group -/

/-- A data message as it is handled: the manager with the block list of that time. -/
structure HandledDataMessage where
  manager : OWSMessageManager
  envelope : SSKProtoEnvelope
  dataMessage : SSKProtoDataMessage

namespace HandledDataMessage

variable (message : HandledDataMessage) (threads : GroupThreads) (groupId : NSData)

def handle : GroupThreads :=
  message.manager.handleIncomingEnvelope threads message.envelope message.dataMessage

/-- The message is one of the group, of this type, and is not ignored. -/
def Takes (type : SSKProtoGroupContextType) (members : List String) : Prop :=
  ∃ group, message.dataMessage.group = some group ∧ group.id = groupId ∧ group.type = type ∧
    group.members = members ∧
    ¬message.manager.Ignores threads message.envelope message.dataMessage group

/-- The membership that the message announces. -/
inductive Announces : Finset String → Prop
  | update {members : List String} (h : message.Takes threads groupId .update members) :
      Announces (threads.memberIds groupId ∪ members.toFinset)
  | quit {members : List String} (h : message.Takes threads groupId .quit members) :
      Announces ((threads.memberIds groupId).filter (message.envelope.source ≠ some ·))
  | other (hupdate : ∀ members, ¬message.Takes threads groupId .update members)
      (hquit : ∀ members, ¬message.Takes threads groupId .quit members) :
      Announces (threads.memberIds groupId)

/-- A message that quits lists nobody new, but for its sender. -/
def NamesNobodyNew : Prop :=
  ∀ members, message.Takes threads groupId .quit members →
    ∀ member ∈ members, message.envelope.source ≠ some member →
      member ∈ threads.memberIds groupId

variable {message threads groupId} {members : List String}

theorem Takes.unique {type type' : SSKProtoGroupContextType} {members' : List String}
    (h : message.Takes threads groupId type members)
    (h' : message.Takes threads groupId type' members') : type = type' ∧ members = members' := by
  obtain ⟨group, hgroup, -, rfl, rfl, -⟩ := h
  obtain ⟨group', hgroup', -, rfl, rfl, -⟩ := h'
  obtain rfl : group = group' := Option.some.inj (hgroup.symm.trans hgroup')
  exact ⟨rfl, rfl⟩

/-- A message that takes effect is switched on. -/
theorem Takes.handle_eq {type : SSKProtoGroupContextType}
    (h : message.Takes threads groupId type members) :
    ∃ group, group.id = groupId ∧ group.type = type ∧ group.members = members ∧
      group.members.any (!message.manager.isValidE164 ·) = false ∧
      (type ≠ .update → message.manager.localNumber ∈ threads.memberIds groupId) ∧
      message.handle threads =
        message.manager.handleGroupContext threads message.envelope group := by
  obtain ⟨group, hgroup, rfl, rfl, rfl, hignores⟩ := h
  refine ⟨group, rfl, rfl, rfl, ?_, ?_, ?_⟩
  · by_contra hinvalid
    exact hignores (by simp [OWSMessageManager.Ignores, Bool.eq_true_of_not_eq_false hinvalid])
  · intro htype
    by_contra hlocal
    exact hignores (.inr (.inr (.inl ⟨htype, hlocal⟩)))
  · rw [handle, OWSMessageManager.handleIncomingEnvelope_of_group_eq_some hgroup,
      if_neg hignores]

theorem memberIds_handle_of_update (h : message.Takes threads groupId .update members) :
    (message.handle threads).memberIds groupId =
      threads.memberIds groupId ∪ members.toFinset := by
  obtain ⟨group, rfl, htype, rfl, hvalid, -, hhandle⟩ := h.handle_eq
  rw [hhandle, OWSMessageManager.handleGroupContext, hvalid]
  simp [htype, Finset.union_comm]

/-- Those who were listed stay, as those who were known do. -/
theorem memberIds_handle_of_quit (h : message.Takes threads groupId .quit members) :
    (message.handle threads).memberIds groupId =
      (members.toFinset ∪ threads.memberIds groupId).filter
        (message.envelope.source ≠ some ·) := by
  obtain ⟨group, rfl, htype, rfl, hvalid, hlocal, hhandle⟩ := h.handle_eq
  rw [hhandle, OWSMessageManager.handleGroupContext, hvalid]
  cases hthread : threads group.id with
  | none => simp [GroupThreads.memberIds, hthread] at hlocal
  | some groupModel =>
      have hmemberIds : threads.memberIds group.id = groupModel.groupMemberIds := by
        rw [GroupThreads.memberIds, hthread]
        rfl
      simp [htype, hmemberIds]

/-- Other messages leave everybody where they are. -/
theorem memberIds_handle_of_other
    (hupdate : ∀ members, ¬message.Takes threads groupId .update members)
    (hquit : ∀ members, ¬message.Takes threads groupId .quit members) :
    (message.handle threads).memberIds groupId = threads.memberIds groupId := by
  cases hgroup : message.dataMessage.group with
  | none => rw [handle, OWSMessageManager.handleIncomingEnvelope_of_group_eq_none hgroup]
  | some group =>
      rw [handle, OWSMessageManager.handleIncomingEnvelope_of_group_eq_some hgroup]
      split
      · rfl
      rename_i hignores
      unfold OWSMessageManager.handleGroupContext
      split
      · rfl
      by_cases hid : group.id = groupId
      · cases htype : group.type with
        | update => exact absurd ⟨group, hgroup, hid, htype, rfl, hignores⟩ (hupdate group.members)
        | quit => exact absurd ⟨group, hgroup, hid, htype, rfl, hignores⟩ (hquit group.members)
        | deliver | unknown | requestInfo => rfl
      · cases htype : group.type with
        | update => simp [Ne.symm hid]
        | quit => cases hthread : threads group.id with
          | none => simp
          | some groupModel => simp [Ne.symm hid]
        | deliver | unknown | requestInfo => rfl

/-- **The membership changes as announced exactly when** nobody new is named by who quits. -/
theorem announced_iff :
    message.Announces threads groupId ((message.handle threads).memberIds groupId) ↔
      message.NamesNobodyNew threads groupId := by
  constructor
  · intro h members hquit member hmember hother
    rw [memberIds_handle_of_quit hquit] at h
    generalize hmemberIds : (members.toFinset ∪ threads.memberIds groupId).filter
      (message.envelope.source ≠ some ·) = memberIds at h
    have hmem : member ∈ memberIds := by
      rw [← hmemberIds]
      simp [hmember, hother]
    cases h with
    | update hupdate => exact absurd (hquit.unique hupdate).1 (by simp)
    | quit _ => exact (Finset.mem_filter.mp hmem).1
    | other _ hnone => exact absurd hquit (hnone members)
  · intro hnames
    by_cases hupdate : ∃ members, message.Takes threads groupId .update members
    · obtain ⟨members, hupdate⟩ := hupdate
      rw [memberIds_handle_of_update hupdate]
      exact .update hupdate
    by_cases hquit : ∃ members, message.Takes threads groupId .quit members
    · obtain ⟨members, hquit⟩ := hquit
      have hsame : (message.handle threads).memberIds groupId =
          (threads.memberIds groupId).filter (message.envelope.source ≠ some ·) := by
        rw [memberIds_handle_of_quit hquit]
        ext member
        simp only [Finset.mem_filter, Finset.mem_union, List.mem_toFinset]
        constructor
        · rintro ⟨hmember | hmember, hother⟩
          · exact ⟨hnames members hquit member hmember hother, hother⟩
          · exact ⟨hmember, hother⟩
        · rintro ⟨hmember, hother⟩
          exact ⟨.inr hmember, hother⟩
      rw [hsame]
      exact .quit hquit
    · rw [memberIds_handle_of_other (not_exists.mp hupdate) (not_exists.mp hquit)]
      exact .other (not_exists.mp hupdate) (not_exists.mp hquit)

/-! ## Runs -/

def Step (threads : GroupThreads) (message : HandledDataMessage) (threads' : GroupThreads) :
    Prop :=
  message.handle threads = threads'

/-- Some message of a run finds what `p` says. -/
def SomeMessage (start : GroupThreads) (messages : List HandledDataMessage)
    (p : GroupThreads → HandledDataMessage → Prop) : Prop :=
  ∃ earlier message later before, messages = earlier ++ message :: later ∧
    LabelledRun Step start earlier before ∧ p before message

/-- Whoever a message removes from a group has quit, and whoever it adds is listed by an
update. -/
theorem Announces.changes {memberIds : Finset String}
    (h : message.Announces threads groupId memberIds) (member : String) :
    (member ∈ threads.memberIds groupId → member ∉ memberIds →
      ∃ members, message.Takes threads groupId .quit members ∧
        message.envelope.source = some member) ∧
    (member ∉ threads.memberIds groupId → member ∈ memberIds →
      ∃ members, message.Takes threads groupId .update members ∧ member ∈ members) := by
  cases h with
  | @update members hupdate =>
      refine ⟨fun hold hnew => absurd (Finset.mem_union_left _ hold) hnew, fun hold hnew => ?_⟩
      have hmember := (Finset.mem_union.mp hnew).resolve_left hold
      exact ⟨members, hupdate, List.mem_toFinset.mp hmember⟩
  | @quit members hquit =>
      refine ⟨fun hold hnew => ⟨members, hquit, ?_⟩,
        fun hold hnew => absurd (Finset.mem_filter.mp hnew).1 hold⟩
      by_contra hother
      exact hnew (Finset.mem_filter.mpr ⟨hold, hother⟩)
  | other _ _ => exact ⟨fun hold hnew => absurd hold hnew, fun hold hnew => absurd hnew hold⟩

/-- **Group membership changes as announced**, message by message, exactly when nobody new
is named by a message that quits; and then whoever left the group has quit, and whoever
came is listed by an update. -/
theorem membership_changes_as_announced (groupId : NSData) (start : GroupThreads)
    (messages : List HandledDataMessage) :
    (LabelledRun.EveryStep Step start messages (fun threads message threads' =>
        message.Announces threads groupId (threads'.memberIds groupId)) ↔
      LabelledRun.EveryStep Step start messages (fun threads message _ =>
        message.NamesNobodyNew threads groupId)) ∧
    ∀ threads, LabelledRun Step start messages threads →
      LabelledRun.EveryStep Step start messages (fun threads message _ =>
        message.NamesNobodyNew threads groupId) →
      ∀ member,
        (member ∈ start.memberIds groupId → member ∉ threads.memberIds groupId →
          SomeMessage start messages fun before message => ∃ members,
            message.Takes before groupId .quit members ∧
              message.envelope.source = some member) ∧
        (member ∉ start.memberIds groupId → member ∈ threads.memberIds groupId →
          SomeMessage start messages fun before message => ∃ members,
            message.Takes before groupId .update members ∧ member ∈ members) := by
  have hiff : LabelledRun.EveryStep Step start messages (fun threads message threads' =>
        message.Announces threads groupId (threads'.memberIds groupId)) ↔
      LabelledRun.EveryStep Step start messages (fun threads message _ =>
        message.NamesNobodyNew threads groupId) := by
    constructor
    · refine fun h => h.mono ?_
      rintro threads message _ rfl hannounces
      exact announced_iff.mp hannounces
    · refine fun h => h.mono ?_
      rintro threads message _ rfl hnames
      exact announced_iff.mpr hnames
  refine ⟨hiff, fun threads run hnames member => ?_⟩
  have hannounced := run.restrict (hiff.mpr hnames)
  -- Whoever left or came did so at one message of the run, which announces it.
  constructor
  · intro hstart hend
    obtain ⟨earlier, message, later, before, after, hmessages, hearlier, ⟨-, hannounces⟩, -,
        hbefore, hafter⟩ := hannounced.exists_crossing
      (p := fun threads => member ∉ threads.memberIds groupId) (not_not.mpr hstart) hend
    obtain ⟨members, hquit⟩ := (hannounces.changes member).1 (not_not.mp hbefore) hafter
    exact ⟨earlier, message, later, before, hmessages, hearlier.mono fun _ _ _ step => step.1,
      members, hquit⟩
  · intro hstart hend
    obtain ⟨earlier, message, later, before, after, hmessages, hearlier, ⟨-, hannounces⟩, -,
        hbefore, hafter⟩ := hannounced.exists_crossing
      (p := fun threads => member ∈ threads.memberIds groupId) hstart hend
    obtain ⟨members, hupdate⟩ := (hannounces.changes member).2 hbefore hafter
    exact ⟨earlier, message, later, before, hmessages, hearlier.mono fun _ _ _ step => step.1,
      members, hupdate⟩

/-- The group `[7]` of us, `"+1"`, and `"+2"`. -/
def sampleGroupThreads : GroupThreads := fun groupId =>
  if groupId = [7] then
    some
      { groupName := none
        groupMemberIds := {"+1", "+2"}
        groupImage := none
        groupId := [7] }
  else none

/-- `"+2"` leaves the group, and lists some members. -/
def sampleQuit (members : List String) : HandledDataMessage where
  manager :=
    { localNumber := "+1"
      isGroupIdBlocked := fun _ => false
      isEnvelopeSenderBlocked := fun _ => false
      isValidE164 := fun _ => true
      hasSupportedAttachments := fun _ => true }
  envelope :=
    { type := .ciphertext, timestamp := 1, source := some "+2", sourceDevice := some 1
      relay := none, legacyMessage := none, content := none, serverGuid := none
      serverTimestamp := none }
  dataMessage :=
    { timestamp := some 1, flags := 0, attachments := []
      group := some { id := [7], type := .quit, name := none, members := members } }

theorem takes_sampleQuit (members : List String) :
    (sampleQuit members).Takes sampleGroupThreads [7] .quit members := by
  refine ⟨_, rfl, rfl, rfl, rfl, ?_⟩
  simp [OWSMessageManager.Ignores, sampleQuit, OWSMessageManager.hasInvalidTimestamp,
    GroupThreads.memberIds, sampleGroupThreads]

theorem namesNobodyNew_sampleQuit : (sampleQuit []).NamesNobodyNew threads groupId := by
  rintro members ⟨group, hgroup, -, -, rfl, -⟩ member hmember
  obtain rfl := Option.some.inj hgroup
  cases hmember

/-- `"+2"` has left. -/
theorem someMessage_sampleQuit :
    SomeMessage sampleGroupThreads [sampleQuit []] fun before message => ∃ members,
      message.Takes before [7] .quit members ∧ message.envelope.source = some "+2" := by
  refine ((membership_changes_as_announced [7] sampleGroupThreads [sampleQuit []]).2 _
    (.single rfl) ?_ "+2").1 ?_ ?_
  · rintro earlier message later before _ hmessages - -
    have hmem : message ∈ [sampleQuit []] := by
      rw [hmessages]
      simp
    rw [List.mem_singleton.mp hmem]
    exact namesNobodyNew_sampleQuit
  · simp [GroupThreads.memberIds, sampleGroupThreads]
  · rw [memberIds_handle_of_quit (takes_sampleQuit [])]
    simp [sampleQuit]

/-- `"+2"` leaves, and brings `"+3"` into the group. -/
theorem quit_adds_member :
    ¬∀ (groupId : NSData) (start : GroupThreads) (messages : List HandledDataMessage),
      LabelledRun.EveryStep Step start messages (fun threads message threads' =>
        message.Announces threads groupId (threads'.memberIds groupId)) := by
  intro hevery
  have hannounces := hevery [7] sampleGroupThreads [sampleQuit ["+3"]] [] (sampleQuit ["+3"]) []
    sampleGroupThreads _ rfl .refl rfl
  have hmember := announced_iff.mp hannounces ["+3"] (takes_sampleQuit ["+3"]) "+3" (by simp)
    (by simp [sampleQuit])
  simp [GroupThreads.memberIds, sampleGroupThreads] at hmember

end HandledDataMessage

end ObjcSwiftLearning.SignalServiceKit
