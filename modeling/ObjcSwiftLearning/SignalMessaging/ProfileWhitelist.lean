import Mathlib.Data.Finset.Image
import Mathlib.Data.Finset.Option
import Mathlib.Data.Finset.Union
import Mathlib.Data.List.ReduceOption
import ObjcSwiftLearning.SignalServiceKit.ContactDiscovery
import ObjcSwiftLearning.SignalServiceKit.GroupMembership

/-!
# The profile whitelist

The profile key is shared with the users and the groups of a whitelist.  Both are stored by key, a
group under the hexadecimal digits of its id, and read back from there when the manager looks for
those of them that are blocked.

* `groupIdForGroupKey_groupKeyForGroupId` — a key is read back as the id it was made of, where that
  has the length of a group id.
* `ProfileContext.mem_intersectingRecipientIds`, `ProfileContext.mem_intersectingGroupIds` — who is
  found to be blocked and to have the profile key.
* `ProfileWhitelist.remove` — what a rotation takes out.
-/

namespace ObjcSwiftLearning.SignalMessaging

open AxolotlKit SignalServiceKit

/-! ## Group keys -/

def hexDigitValue (digit : Char) : Option ℕ :=
  if '0' ≤ digit ∧ digit ≤ '9' then some (digit.toNat - '0'.toNat)
  else if 'a' ≤ digit ∧ digit ≤ 'f' then some (digit.toNat - 'a'.toNat + 10)
  else if 'A' ≤ digit ∧ digit ≤ 'F' then some (digit.toNat - 'A'.toNat + 10)
  else none

/-- What follows `0x` or `0X`, where a digit does. -/
def afterHexPrefix : List Char → List Char
  | '0' :: 'x' :: digit :: rest =>
      if (hexDigitValue digit).isSome then digit :: rest else '0' :: 'x' :: digit :: rest
  | '0' :: 'X' :: digit :: rest =>
      if (hexDigitValue digit).isSome then digit :: rest else '0' :: 'X' :: digit :: rest
  | characters => characters

/-- `-[NSScanner scanHexInt:]`: white space is skipped, and so is a prefix; the number ends where
the digits do. -/
def scanHexInt (characters : List Char) : Option ℕ :=
  match ((afterHexPrefix (characters.dropWhile Char.isWhitespace)).map hexDigitValue).takeWhile
      Option.isSome with
  | [] => none
  | digits => some (digits.reduceOption.foldl (fun value digit => 16 * value + digit) 0)

def groupKeyBytes : List Char → Option NSData
  | [] => some []
  | [_] => none
  | first :: second :: rest =>
      match scanHexInt [first, second] with
      | none => none
      | some byteValue =>
          if 0xff < byteValue then none
          else (groupKeyBytes rest).map (UInt8.ofNat byteValue :: ·)

def kGroupIdLength : ℕ := 16

def groupKeyForGroupId (groupId : NSData) : String := hexadecimalString groupId

/-- `groupIdForGroupKey:`.  A character outside the first plane is two for Foundation; one of them
begins a byte string, and is no digit. -/
def groupIdForGroupKey (groupKey : String) : Option NSData :=
  if groupKey.toList.any fun character => 0xffff < character.toNat then none
  else
    match groupKeyBytes groupKey.toList with
    | none => none
    | some groupId => if groupId.length ≠ kGroupIdLength then none else some groupId

/-- A digit is read back. -/
theorem hexDigitValue_digitChar {n : ℕ} (h : n < 16) :
    hexDigitValue (Nat.digitChar n) = some n := by
  revert n
  decide

theorem isWhitespace_digitChar {n : ℕ} (h : n < 16) :
    (Nat.digitChar n).isWhitespace = false := by
  revert n
  decide

theorem digitChar_toNat_le {n : ℕ} (h : n < 16) : ¬0xffff < (Nat.digitChar n).toNat := by
  revert n
  decide

theorem afterHexPrefix_pair (first second : Char) :
    afterHexPrefix [first, second] = [first, second] := by
  unfold afterHexPrefix
  split
  · rename_i heq
    simp at heq
  · rename_i heq
    simp at heq
  · rfl

theorem scanHexInt_digits {high low : ℕ} (hhigh : high < 16) (hlow : low < 16) :
    scanHexInt [Nat.digitChar high, Nat.digitChar low] = some (16 * high + low) := by
  rw [scanHexInt, List.dropWhile_cons_of_neg (by simp [isWhitespace_digitChar hhigh]),
    afterHexPrefix_pair]
  simp [hexDigitValue_digitChar hhigh, hexDigitValue_digitChar hlow,
    List.reduceOption_cons_of_some]

theorem groupKeyBytes_hexadecimalString (groupId : NSData) :
    groupKeyBytes (groupId.flatMap fun byte =>
      [Nat.digitChar (byte.toNat / 16), Nat.digitChar (byte.toNat % 16)]) = some groupId := by
  induction groupId with
  | nil => rfl
  | cons byte groupId ih =>
      have hbyte : byte.toNat < 256 := byte.toNat_lt
      have hscan : scanHexInt [Nat.digitChar (byte.toNat / 16), Nat.digitChar (byte.toNat % 16)] =
          some byte.toNat := by
        rw [scanHexInt_digits (by omega) (by omega), Nat.div_add_mod]
      rw [List.flatMap_cons, List.cons_append, List.cons_append, List.nil_append, groupKeyBytes,
        hscan]
      simp only [ih, Option.map_some, UInt8.ofNat_toNat]
      rw [if_neg (by omega)]

/-- **A key is read back as the id it was made of**, unless that has another length. -/
theorem groupIdForGroupKey_groupKeyForGroupId (groupId : NSData) :
    groupIdForGroupKey (groupKeyForGroupId groupId) =
      if groupId.length = kGroupIdLength then some groupId else none := by
  have hplane : (groupKeyForGroupId groupId).toList.any
      (fun character => 0xffff < character.toNat) = false := by
    simp only [groupKeyForGroupId, hexadecimalString, String.toList_ofList]
    refine List.any_eq_false.mpr fun character hcharacter => ?_
    obtain ⟨byte, -, hdigit⟩ := List.mem_flatMap.mp hcharacter
    have hbyte : byte.toNat < 256 := byte.toNat_lt
    simp only [List.mem_cons, List.not_mem_nil, or_false] at hdigit
    rw [decide_eq_true_eq]
    rcases hdigit with rfl | rfl
    · exact digitChar_toNat_le (by omega)
    · exact digitChar_toNat_le (by omega)
  have hbytes : groupKeyBytes (groupKeyForGroupId groupId).toList = some groupId := by
    rw [groupKeyForGroupId, hexadecimalString, String.toList_ofList]
    exact groupKeyBytes_hexadecimalString groupId
  rw [groupIdForGroupKey, hplane, hbytes]
  simp only [Bool.false_eq_true, if_false]
  by_cases hlength : groupId.length = kGroupIdLength
  · rw [if_neg (not_not.mpr hlength), if_pos hlength]
  · rw [if_pos hlength, if_neg hlength]

theorem groupKeyForGroupId_injective : Function.Injective groupKeyForGroupId := by
  intro groupId other h
  have hbytes := groupKeyBytes_hexadecimalString groupId
  have hother := groupKeyBytes_hexadecimalString other
  have hsame := congrArg String.toList h
  simp only [groupKeyForGroupId, hexadecimalString, String.toList_ofList] at hsame
  rw [hsame, hother] at hbytes
  exact (Option.some.inj hbytes).symm

/-! ## The whitelist -/

/-- The keys of both collections; what is stored under them is `@(YES)`. -/
structure ProfileWhitelist where
  userWhitelist : Finset String
  groupWhitelist : Finset String
  isGroupKey : ∀ groupKey ∈ groupWhitelist, ∃ groupId, groupKey = groupKeyForGroupId groupId

namespace ProfileWhitelist

variable (whitelist : ProfileWhitelist)

def addUsersToProfileWhitelist (recipientIds : List String) : ProfileWhitelist :=
  { whitelist with userWhitelist := whitelist.userWhitelist ∪ recipientIds.toFinset }

def addGroupIdToProfileWhitelist (groupId : NSData) : ProfileWhitelist where
  userWhitelist := whitelist.userWhitelist
  groupWhitelist := insert (groupKeyForGroupId groupId) whitelist.groupWhitelist
  isGroupKey := by
    intro groupKey hkey
    rcases Finset.mem_insert.mp hkey with rfl | hkey
    · exact ⟨groupId, rfl⟩
    · exact whitelist.isGroupKey groupKey hkey

/-- The users and groups that are taken out at the end of a rotation. -/
def remove (recipientIds : Finset String) (groupIds : Finset NSData) : ProfileWhitelist where
  userWhitelist := whitelist.userWhitelist \ recipientIds
  groupWhitelist := whitelist.groupWhitelist \ groupIds.image groupKeyForGroupId
  isGroupKey groupKey hkey := whitelist.isGroupKey groupKey (Finset.mem_sdiff.mp hkey).1

def HasGroup (groupId : NSData) : Prop := groupKeyForGroupId groupId ∈ whitelist.groupWhitelist

/-- The groups that are read back. -/
def whitelistedGroupIds : Finset NSData :=
  whitelist.groupWhitelist.biUnion fun groupKey => (groupIdForGroupKey groupKey).toFinset

variable {whitelist} {recipientIds : Finset String} {groupIds : Finset NSData} {groupId : NSData}

/-- **The groups that are read back** are those whose id has the length of one. -/
theorem mem_whitelistedGroupIds :
    groupId ∈ whitelist.whitelistedGroupIds ↔
      whitelist.HasGroup groupId ∧ groupId.length = kGroupIdLength := by
  simp only [whitelistedGroupIds, Finset.mem_biUnion, Option.mem_toFinset, Option.mem_def]
  constructor
  · rintro ⟨groupKey, hkey, hread⟩
    obtain ⟨stored, rfl⟩ := whitelist.isGroupKey groupKey hkey
    rw [groupIdForGroupKey_groupKeyForGroupId] at hread
    split at hread
    · rename_i hlength
      obtain rfl := Option.some.inj hread
      exact ⟨hkey, hlength⟩
    · cases hread
  · rintro ⟨hgroup, hlength⟩
    refine ⟨_, hgroup, ?_⟩
    rw [groupIdForGroupKey_groupKeyForGroupId, if_pos hlength]

theorem hasGroup_remove :
    (whitelist.remove recipientIds groupIds).HasGroup groupId ↔
      whitelist.HasGroup groupId ∧ groupId ∉ groupIds := by
  simp only [HasGroup, remove, Finset.mem_sdiff, Finset.mem_image,
    groupKeyForGroupId_injective.eq_iff, exists_eq_right]

theorem mem_userWhitelist_remove {recipientId : String} :
    recipientId ∈ (whitelist.remove recipientIds groupIds).userWhitelist ↔
      recipientId ∈ whitelist.userWhitelist ∧ recipientId ∉ recipientIds :=
  Finset.mem_sdiff

end ProfileWhitelist

/-! ## Who is blocked and may have the profile key -/

/-- What the manager asks the account, the threads and the block list. -/
structure ProfileContext where
  isRegistered : Bool
  localNumber : Option String
  groupThreads : GroupThreads
  blockedPhoneNumbers : Finset String
  blockedGroupIds : Finset NSData

namespace ProfileContext

variable (C : ProfileContext) (whitelist : ProfileWhitelist)

/-- The others in a group: `thread.recipientIdentifiers`, and none where there is no thread. -/
def recipientIdentifiers (groupId : NSData) : Finset String :=
  C.groupThreads.memberIds groupId \ C.localNumber.toFinset

/-- The users of the whitelist and the members of its groups, but for oneself. -/
def whitelistedRecipientIds : Finset String :=
  (whitelist.userWhitelist ∪ whitelist.whitelistedGroupIds.biUnion C.recipientIdentifiers) \
    C.localNumber.toFinset

def intersectingRecipientIds : Finset String :=
  C.blockedPhoneNumbers ∩ C.whitelistedRecipientIds whitelist

def intersectingGroupIds : Finset NSData :=
  C.blockedGroupIds ∩ whitelist.whitelistedGroupIds

def isProfileKeySharedWithBlocked : Bool :=
  decide (0 < (C.intersectingRecipientIds whitelist).card) ||
    decide (0 < (C.intersectingGroupIds whitelist).card)

def IsMemberOfWhitelistedGroup (recipientId : String) : Prop :=
  ∃ groupId, whitelist.HasGroup groupId ∧ groupId.length = kGroupIdLength ∧
    recipientId ∈ C.groupThreads.memberIds groupId

/-- **Who it is about**: a blocked number of somebody else that is in the whitelist, itself or as
a member of a group, or a blocked group that is. -/
def SharesWithBlocked : Prop :=
  (∃ recipientId ∈ C.blockedPhoneNumbers, C.localNumber ≠ some recipientId ∧
    (recipientId ∈ whitelist.userWhitelist ∨
      C.IsMemberOfWhitelistedGroup whitelist recipientId)) ∨
  ∃ groupId ∈ C.blockedGroupIds, whitelist.HasGroup groupId ∧ groupId.length = kGroupIdLength

variable {C whitelist}

theorem mem_intersectingRecipientIds {recipientId : String} :
    recipientId ∈ C.intersectingRecipientIds whitelist ↔
      recipientId ∈ C.blockedPhoneNumbers ∧ C.localNumber ≠ some recipientId ∧
        (recipientId ∈ whitelist.userWhitelist ∨
          C.IsMemberOfWhitelistedGroup whitelist recipientId) := by
  simp only [intersectingRecipientIds, whitelistedRecipientIds, recipientIdentifiers,
    IsMemberOfWhitelistedGroup, Finset.mem_inter, Finset.mem_sdiff, Finset.mem_union,
    Finset.mem_biUnion, Option.mem_toFinset, Option.mem_def,
    ProfileWhitelist.mem_whitelistedGroupIds]
  constructor
  · rintro ⟨hblocked, hwhitelisted, hlocal⟩
    refine ⟨hblocked, hlocal, hwhitelisted.imp_right ?_⟩
    rintro ⟨groupId, ⟨hgroup, hlength⟩, hmember, -⟩
    exact ⟨groupId, hgroup, hlength, hmember⟩
  · rintro ⟨hblocked, hlocal, hwhitelisted⟩
    refine ⟨hblocked, hwhitelisted.imp_right ?_, hlocal⟩
    rintro ⟨groupId, hgroup, hlength, hmember⟩
    exact ⟨groupId, ⟨hgroup, hlength⟩, hmember, hlocal⟩

theorem mem_intersectingGroupIds {groupId : NSData} :
    groupId ∈ C.intersectingGroupIds whitelist ↔
      groupId ∈ C.blockedGroupIds ∧ whitelist.HasGroup groupId ∧
        groupId.length = kGroupIdLength := by
  rw [intersectingGroupIds, Finset.mem_inter, ProfileWhitelist.mem_whitelistedGroupIds]

/-- **What the manager looks for is what it is about.** -/
theorem isProfileKeySharedWithBlocked_iff :
    C.isProfileKeySharedWithBlocked whitelist = true ↔ C.SharesWithBlocked whitelist := by
  rw [isProfileKeySharedWithBlocked, Bool.or_eq_true, decide_eq_true_eq, decide_eq_true_eq,
    Finset.card_pos, Finset.card_pos]
  simp only [Finset.Nonempty, mem_intersectingRecipientIds, mem_intersectingGroupIds]
  rfl

end ProfileContext

end ObjcSwiftLearning.SignalMessaging
