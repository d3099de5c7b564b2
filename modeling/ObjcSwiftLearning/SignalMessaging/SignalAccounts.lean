import ObjcSwiftLearning.Library.Collection
import ObjcSwiftLearning.SignalServiceKit.ContactMerge
import ObjcSwiftLearning.SignalServiceKit.DeviceLists

/-!
# Signal accounts

For each registered number of the contacts there is a `SignalAccount`, in memory and in the
database.  When the contacts have changed, the accounts are built anew and the database is brought
up to date; what it has of contacts that are no more there is removed, or is kept where the system
may have returned only some of the contacts.

* `buildSignalAccountsAndClearStaleCache` — the building, and the comparison with what is stored.
* `find_builtAccounts`, `accounts_find` — what is built, and what is stored then.
* `Mirrors` — the accounts mirror the contacts.
* `mirrors_iff` — **when they do.**
-/

namespace ObjcSwiftLearning.SignalMessaging

open SignalServiceKit

/-! ## Recipients and contacts -/

abbrev RecipientCollection := Collection SignalRecipient.recipientId

/-- `registeredRecipientForRecipientId:mustHaveDevices:transaction:`. -/
def registeredRecipientForRecipientId (recipients : RecipientCollection) (recipientId : String)
    (mustHaveDevices : Bool) : Option SignalRecipient :=
  (recipients.find recipientId).filter fun signalRecipient =>
    !(mustHaveDevices && decide (signalRecipient.devices.elements.length < 1))

/-- `isRegisteredRecipient:transaction:`. -/
def isRegisteredRecipient (recipients : RecipientCollection) (recipientId : String) : Bool :=
  (registeredRecipientForRecipientId recipients recipientId true).isSome

/-- `signalRecipientsWithTransaction:`. -/
def signalRecipients (recipients : RecipientCollection) (contact : Contact) :
    List SignalRecipient :=
  (contact.parsedPhoneNumbers.insertionSort PhoneNumber.Precedes).filterMap fun number =>
    registeredRecipientForRecipientId recipients number.e164 true

/-- `textSecureIdentifiers`: the registered numbers of a contact, as often as they are parsed. -/
def textSecureIdentifiers (recipients : RecipientCollection) (contact : Contact) : List String :=
  (contact.parsedPhoneNumbers.map (·.e164)).filter (isRegisteredRecipient recipients)

/-- The texts that labels are made of. -/
structure AccountLabels where
  phoneNumberTypeUnknown : String
  phoneNumberTypeAndIndex : String → ℕ → String
  filterStringForDisplay : String → String

def nameForPhoneNumber (labels : AccountLabels) (contact : Contact) (recipientId : String) :
    String :=
  (contact.phoneNumberNameMap.lookup recipientId).getD labels.phoneNumberTypeUnknown

def accountLabelForContact (labels : AccountLabels) (recipients : RecipientCollection)
    (contact : Contact) (recipientId : String) : Option String :=
  let identifiers := textSecureIdentifiers recipients contact
  if identifiers.length ≤ 1 then none
  else
    let phoneNumberLabel := nameForPhoneNumber labels contact recipientId
    let withTheSameName := identifiers.filter fun textSecureIdentifier =>
      phoneNumberLabel = nameForPhoneNumber labels contact textSecureIdentifier
    let index := (withTheSameName.insertionSort (· ≤ ·)).idxOf recipientId
    some (labels.filterStringForDisplay
      (if 1 < withTheSameName.length then
        labels.phoneNumberTypeAndIndex phoneNumberLabel (index + 1)
      else phoneNumberLabel))

/-! ## Accounts -/

/-- `SignalAccount`, with its label as the getter returns it.  `isEqual:` compares these. -/
structure SignalAccount where
  recipientId : String
  contact : Option Contact
  hasMultipleAccountContact : Bool
  multipleAccountLabelText : Option String
  deriving DecidableEq

/-- The stored accounts, and those in a dictionary: their `uniqueId` is the `recipientId`. -/
abbrev SignalAccountCollection := Collection SignalAccount.recipientId

structure SystemContacts where
  contacts : List Contact
  distinct : (contacts.map (·.uniqueId)).Nodup

/-- `OWSContactsManager`, with the database. -/
structure ContactsManager where
  recipients : RecipientCollection
  accounts : SignalAccountCollection
  allContacts : SystemContacts
  signalAccounts : List SignalAccount
  signalAccountMap : SignalAccountCollection
  /-- The two are set together. -/
  map_eq : signalAccountMap = Collection.empty.saveEach signalAccounts

/-- The order in which a user sees accounts, and the texts of their labels. -/
structure AccountDisplay extends AccountLabels where
  signalAccountComparator : SignalAccount → SignalAccount → Ordering

variable (D : AccountDisplay)

def newSignalAccount (recipients : RecipientCollection) (contact : Contact) (multiple : Bool)
    (recipientId : String) : SignalAccount where
  recipientId := recipientId
  contact := some contact
  hasMultipleAccountContact := multiple
  multipleAccountLabelText :=
    if multiple then accountLabelForContact D.toAccountLabels recipients contact recipientId
    else none

/-- What the loop over the contacts has built. -/
structure BuiltAccounts where
  seenRecipientIds : List String
  signalAccounts : List SignalAccount

def BuiltAccounts.add (recipients : RecipientCollection) (contact : Contact) (multiple : Bool)
    (built : BuiltAccounts) (signalRecipient : SignalRecipient) : BuiltAccounts :=
  if signalRecipient.recipientId ∈ built.seenRecipientIds then built
  else
    { seenRecipientIds := built.seenRecipientIds ++ [signalRecipient.recipientId]
      signalAccounts := built.signalAccounts ++
        [newSignalAccount D recipients contact multiple signalRecipient.recipientId] }

/-- `compare:` of recipients. -/
def SignalRecipient.Precedes (recipient other : SignalRecipient) : Prop :=
  recipient.recipientId ≤ other.recipientId

instance : DecidableRel SignalRecipient.Precedes :=
  fun recipient other => inferInstanceAs (Decidable (recipient.recipientId ≤ other.recipientId))

def BuiltAccounts.addContact (recipients : RecipientCollection) (built : BuiltAccounts)
    (contact : Contact) (signalRecipients : List SignalRecipient) : BuiltAccounts :=
  (signalRecipients.insertionSort SignalRecipient.Precedes).foldl
    (BuiltAccounts.add D recipients contact (1 < signalRecipients.length)) built

def contactIdToSignalRecipientsMap (recipients : RecipientCollection) (contacts : List Contact) :
    Finmap fun _ : String => List SignalRecipient :=
  contacts.foldl (fun map contact => map.insert contact.uniqueId
    (signalRecipients recipients contact)) ∅

/-- The body of the loop over the contacts. -/
def BuiltAccounts.addNext (recipients : RecipientCollection)
    (map : Finmap fun _ : String => List SignalRecipient) (built : BuiltAccounts)
    (contact : Contact) : BuiltAccounts :=
  built.addContact D recipients contact ((map.lookup contact.uniqueId).getD [])

def BuiltAccounts.empty : BuiltAccounts where
  seenRecipientIds := []
  signalAccounts := []

/-- The loop over the contacts. -/
def builtAccounts (recipients : RecipientCollection) (contacts : List Contact) : BuiltAccounts :=
  contacts.foldl
    (BuiltAccounts.addNext D recipients (contactIdToSignalRecipientsMap recipients contacts)) .empty

/-- The body of the loop that compares the accounts with the old ones: those that are left of
these, and those that are to be saved. -/
def compareAccount (compared : SignalAccountCollection × List SignalAccount)
    (signalAccount : SignalAccount) : SignalAccountCollection × List SignalAccount :=
  let oldSignalAccounts := compared.1.remove signalAccount.recipientId
  match compared.1.find signalAccount.recipientId with
  | none => (oldSignalAccounts, compared.2 ++ [signalAccount])
  | some oldSignalAccount =>
      if oldSignalAccount = signalAccount then (oldSignalAccounts, compared.2)
      else (oldSignalAccounts, compared.2 ++ [signalAccount])

namespace ContactsManager

def updateSignalAccounts (manager : ContactsManager) (signalAccounts : List SignalAccount) :
    ContactsManager :=
  if signalAccounts = manager.signalAccounts then manager
  else
    { manager with
      signalAccounts := signalAccounts
      signalAccountMap := Collection.empty.saveEach signalAccounts
      map_eq := rfl }

def buildSignalAccountsAndClearStaleCache (shouldClearStaleCache : Bool)
    (manager : ContactsManager) : ContactsManager :=
  let signalAccounts :=
    (builtAccounts D manager.recipients manager.allContacts.contacts).signalAccounts
  let compared := signalAccounts.foldl compareAccount (manager.accounts, [])
  let saved := manager.accounts.saveEach compared.2
  if shouldClearStaleCache then
    let accounts := saved.removeEach (compared.1.objects.map (·.recipientId))
    { manager with accounts }.updateSignalAccounts signalAccounts
  else if 0 < compared.1.objects.length then
    { manager with accounts := saved }.updateSignalAccounts
      ((signalAccounts ++ compared.1.objects).insertionSort fun left right =>
        D.signalAccountComparator left right ≠ Ordering.gt)
  else { manager with accounts := saved }.updateSignalAccounts signalAccounts

end ContactsManager

/-! ## What is built -/

section Built

variable {D} {recipients : RecipientCollection} {contact : Contact} {recipientId : String}

theorem map_registeredRecipient :
    (registeredRecipientForRecipientId recipients recipientId true).map (·.recipientId) =
      if isRegisteredRecipient recipients recipientId then some recipientId else none := by
  rw [isRegisteredRecipient]
  cases hfound : registeredRecipientForRecipientId recipients recipientId true with
  | none => rfl
  | some signalRecipient =>
      rw [registeredRecipientForRecipientId] at hfound
      have hid := (Collection.find_eq_some_iff.mp (Option.eq_some_of_filter_eq_some hfound)).2
      simp [hid]

/-- The recipients of a contact are its registered numbers, as often as they are parsed. -/
theorem recipientIds_perm :
    ((signalRecipients recipients contact).map (·.recipientId)).Perm
      (textSecureIdentifiers recipients contact) := by
  have hfilter : ∀ numbers : List PhoneNumber,
      (numbers.filterMap fun number =>
        registeredRecipientForRecipientId recipients number.e164 true).map (·.recipientId) =
          (numbers.map (·.e164)).filter (isRegisteredRecipient recipients) := by
    intro numbers
    induction numbers with
    | nil => rfl
    | cons number numbers ih =>
        have hmap := @map_registeredRecipient recipients number.e164
        rw [List.filterMap_cons, List.map_cons, List.filter_cons, ← ih]
        split
        · rename_i hnone
          rw [hnone] at hmap
          rw [if_neg (by intro h; rw [if_pos h] at hmap; cases hmap)]
        · rename_i signalRecipient hsome
          rw [hsome] at hmap
          by_cases hregistered : isRegisteredRecipient recipients number.e164 = true
          · rw [if_pos hregistered] at hmap ⊢
            have hid : signalRecipient.recipientId = number.e164 := Option.some_inj.mp hmap
            rw [List.map_cons, hid]
          · rw [if_neg hregistered] at hmap
            cases hmap
  rw [signalRecipients, hfilter]
  exact ((List.perm_insertionSort _ _).map _).filter _

theorem length_signalRecipients :
    (signalRecipients recipients contact).length =
      (textSecureIdentifiers recipients contact).length := by
  rw [← recipientIds_perm.length_eq, List.length_map]

namespace BuiltAccounts

variable {built : BuiltAccounts} {multiple : Bool} {signalRecipient : SignalRecipient}

def find (built : BuiltAccounts) (id : String) : Option SignalAccount :=
  built.signalAccounts.find? (·.recipientId = id)

/-- The ids that were seen are those that have an account, once each. -/
structure Consistent (built : BuiltAccounts) : Prop where
  seen : built.signalAccounts.map (·.recipientId) = built.seenRecipientIds
  nodup : built.seenRecipientIds.Nodup

theorem Consistent.mem_seen_iff (consistent : built.Consistent) {id : String} :
    id ∈ built.seenRecipientIds ↔ (built.find id).isSome := by
  rw [← consistent.seen, find, List.find?_isSome, List.mem_map]
  simp

theorem Consistent.add (consistent : built.Consistent) :
    (built.add D recipients contact multiple signalRecipient).Consistent := by
  rw [BuiltAccounts.add]
  split
  · exact consistent
  · rename_i hnew
    refine ⟨?_, consistent.nodup.append (List.nodup_singleton _)
      (List.disjoint_singleton.mpr hnew)⟩
    rw [List.map_append, consistent.seen]
    rfl

/-- A recipient without an account gets one. -/
theorem Consistent.find_add (consistent : built.Consistent) (id : String) :
    (built.add D recipients contact multiple signalRecipient).find id =
      (built.find id).or (if id = signalRecipient.recipientId then
        some (newSignalAccount D recipients contact multiple id) else none) := by
  rw [BuiltAccounts.add]
  split
  · rename_i hseen
    split
    · rename_i hid
      obtain ⟨account, haccount⟩ := Option.isSome_iff_exists.mp
        (consistent.mem_seen_iff.mp (hid ▸ hseen))
      rw [haccount]
      rfl
    · exact (Option.or_none).symm
  · rw [find, find, List.find?_append]
    congr 1
    by_cases hid : id = signalRecipient.recipientId
    · simp [hid, newSignalAccount]
    · simp [hid, Ne.symm hid, newSignalAccount]

theorem Consistent.foldl_add (consistent : built.Consistent)
    (recipientList : List SignalRecipient) :
    (recipientList.foldl (BuiltAccounts.add D recipients contact multiple) built).Consistent ∧
      ∀ id, (recipientList.foldl (BuiltAccounts.add D recipients contact multiple) built).find id =
        (built.find id).or (if id ∈ recipientList.map (·.recipientId) then
          some (newSignalAccount D recipients contact multiple id) else none) := by
  induction recipientList generalizing built with
  | nil => exact ⟨consistent, fun id => by simp⟩
  | cons signalRecipient recipientList ih =>
      obtain ⟨hconsistent, hfind⟩ := ih consistent.add
      refine ⟨hconsistent, fun id => (hfind id).trans ?_⟩
      rw [consistent.find_add, Option.or_assoc]
      congr 1
      by_cases hid : id = signalRecipient.recipientId <;> simp [hid]

end BuiltAccounts

def madeAccount (D : AccountDisplay) (recipients : RecipientCollection) (contact : Contact)
    (id : String) : SignalAccount :=
  newSignalAccount D recipients contact (1 < (textSecureIdentifiers recipients contact).length) id

theorem BuiltAccounts.Consistent.addContact {built : BuiltAccounts} (consistent : built.Consistent)
    (contact : Contact) :
    (built.addContact D recipients contact (signalRecipients recipients contact)).Consistent ∧
      ∀ id, (built.addContact D recipients contact (signalRecipients recipients contact)).find id =
        (built.find id).or (if id ∈ textSecureIdentifiers recipients contact then
          some (madeAccount D recipients contact id) else none) := by
  obtain ⟨hconsistent, hfind⟩ := @BuiltAccounts.Consistent.foldl_add D recipients contact built
    (1 < (signalRecipients recipients contact).length) consistent
    ((signalRecipients recipients contact).insertionSort SignalRecipient.Precedes)
  refine ⟨hconsistent, fun id => (hfind id).trans ?_⟩
  have hmem : id ∈ ((signalRecipients recipients contact).insertionSort
      SignalRecipient.Precedes).map (·.recipientId) ↔
        id ∈ textSecureIdentifiers recipients contact :=
    (((List.perm_insertionSort _ _).map _).trans recipientIds_perm).mem_iff
  simp only [hmem, length_signalRecipients, madeAccount]

def firstContact (recipients : RecipientCollection) (contacts : List Contact) (id : String) :
    Option Contact :=
  contacts.find? (id ∈ textSecureIdentifiers recipients ·)

theorem lookup_contactIdToSignalRecipientsMap {contacts : List Contact}
    (hdistinct : (contacts.map (·.uniqueId)).Nodup) (hcontact : contact ∈ contacts) :
    (contactIdToSignalRecipientsMap recipients contacts).lookup contact.uniqueId =
      some (signalRecipients recipients contact) := by
  induction contacts using List.reverseRecOn with
  | nil => exact absurd hcontact List.not_mem_nil
  | append_singleton contacts last ih =>
      rw [contactIdToSignalRecipientsMap, List.foldl_append]
      rw [List.map_append, List.nodup_append] at hdistinct
      rcases List.mem_append.mp hcontact with hmem | hmem
      · have hne : contact.uniqueId ≠ last.uniqueId :=
          hdistinct.2.2 _ (List.mem_map_of_mem hmem) _ (List.mem_singleton_self _)
        exact (Finmap.lookup_insert_of_ne _ hne).trans (ih hdistinct.1 hmem)
      · obtain rfl := List.mem_singleton.mp hmem
        exact Finmap.lookup_insert _

/-- **What is built:** for each registered number an account of the first contact that has it. -/
theorem find_builtAccounts {contacts : List Contact}
    (hdistinct : (contacts.map (·.uniqueId)).Nodup) :
    (builtAccounts D recipients contacts).Consistent ∧
      ∀ id, (builtAccounts D recipients contacts).find id =
        (firstContact recipients contacts id).map (madeAccount D recipients · id) := by
  have hloop : ∀ done : List Contact, (∀ contact ∈ done, contact ∈ contacts) →
      (done.foldl (BuiltAccounts.addNext D recipients
        (contactIdToSignalRecipientsMap recipients contacts)) .empty).Consistent ∧
      ∀ id, (done.foldl (BuiltAccounts.addNext D recipients
        (contactIdToSignalRecipientsMap recipients contacts)) .empty).find id =
          (firstContact recipients done id).map (madeAccount D recipients · id) := by
    intro done
    induction done using List.reverseRecOn with
    | nil => exact fun _ => ⟨⟨rfl, List.nodup_nil⟩, fun _ => rfl⟩
    | append_singleton done contact ih =>
        intro hmem
        obtain ⟨hdone, hcontact⟩ := List.forall_mem_append.mp hmem
        obtain ⟨consistent, hfind⟩ := ih hdone
        have hlookup := @lookup_contactIdToSignalRecipientsMap recipients _ contacts hdistinct
          (hcontact contact (List.mem_singleton_self _))
        obtain ⟨hconsistent, hfindAfter⟩ := @BuiltAccounts.Consistent.addContact D recipients _
          consistent contact
        rw [List.foldl_append, List.foldl_cons, List.foldl_nil, BuiltAccounts.addNext, hlookup,
          Option.getD_some]
        refine ⟨hconsistent, fun id => ?_⟩
        rw [hfindAfter, hfind, firstContact, firstContact, List.find?_append, Option.map_or]
        congr 1
        by_cases hid : id ∈ textSecureIdentifiers recipients contact <;> simp [hid]
  exact hloop contacts fun _ hmem => hmem

end Built

/-! ## What is stored -/

theorem compareAccount_eq (compared : SignalAccountCollection × List SignalAccount)
    (signalAccount : SignalAccount) :
    compareAccount compared signalAccount =
      (compared.1.remove signalAccount.recipientId,
        compared.2 ++ [signalAccount].filter fun account =>
          compared.1.find account.recipientId ≠ some account) := by
  rw [compareAccount]
  cases hfind : compared.1.find signalAccount.recipientId with
  | none => simp [hfind]
  | some oldSignalAccount =>
      by_cases heq : oldSignalAccount = signalAccount <;> simp [hfind, heq]

/-- The comparison leaves what is under other ids, and finds what is new or has changed. -/
theorem foldl_compareAccount {signalAccounts : List SignalAccount}
    (hnodup : (signalAccounts.map (·.recipientId)).Nodup)
    (compared : SignalAccountCollection × List SignalAccount) :
    signalAccounts.foldl compareAccount compared =
      (compared.1.without (signalAccounts.map (·.recipientId)),
        compared.2 ++ signalAccounts.filter fun account =>
          compared.1.find account.recipientId ≠ some account) := by
  induction signalAccounts generalizing compared with
  | nil =>
      rw [List.filter_nil, List.append_nil, List.map_nil,
        Collection.without_eq_self fun _ _ => List.not_mem_nil]
      rfl
  | cons signalAccount signalAccounts ih =>
      obtain ⟨hnew, hrest⟩ := List.nodup_cons.mp hnodup
      rw [List.foldl_cons, compareAccount_eq, ih hrest]
      have hsame : signalAccounts.filter (fun account =>
          (compared.1.remove signalAccount.recipientId).find account.recipientId ≠ some account) =
            signalAccounts.filter fun account =>
              compared.1.find account.recipientId ≠ some account := by
        refine List.filter_congr fun account haccount => ?_
        have hne : account.recipientId ∉ [signalAccount.recipientId] := by
          rw [List.mem_singleton]
          intro heq
          exact hnew (List.mem_map.mpr ⟨account, haccount, heq⟩)
        rw [Collection.remove, Collection.find_without, if_neg hne]
      simp only [Collection.remove] at hsame ⊢
      rw [Collection.without_without, hsame, List.append_assoc, ← List.filter_append]
      rfl

namespace ContactsManager

variable {D}

def built (D : AccountDisplay) (manager : ContactsManager) : List SignalAccount :=
  (builtAccounts D manager.recipients manager.allContacts.contacts).signalAccounts

def builtIds (D : AccountDisplay) (manager : ContactsManager) : List String :=
  (manager.built D).map (·.recipientId)

/-- The stored accounts without a contact. -/
def stale (D : AccountDisplay) (manager : ContactsManager) : SignalAccountCollection :=
  manager.accounts.without (manager.builtIds D)

/-- The accounts that are not stored, or not as they are built. -/
def changed (D : AccountDisplay) (manager : ContactsManager) : List SignalAccount :=
  (manager.built D).filter fun account =>
    manager.accounts.find account.recipientId ≠ some account

variable (manager : ContactsManager)

theorem nodup_builtIds : (manager.builtIds D).Nodup := by
  obtain ⟨consistent, -⟩ :=
    @find_builtAccounts D manager.recipients _ manager.allContacts.distinct
  rw [builtIds, built, consistent.seen]
  exact consistent.nodup

/-- The accounts that are stored afterwards. -/
def accountsAfter (D : AccountDisplay) (shouldClearStaleCache : Bool) (manager : ContactsManager) :
    SignalAccountCollection :=
  if shouldClearStaleCache then
    (manager.accounts.saveEach (manager.changed D)).without
      ((manager.stale D).objects.map (·.recipientId))
  else manager.accounts.saveEach (manager.changed D)

/-- The accounts that are in memory afterwards. -/
def signalAccountsAfter (D : AccountDisplay) (shouldClearStaleCache : Bool)
    (manager : ContactsManager) : List SignalAccount :=
  if shouldClearStaleCache ∨ (manager.stale D).objects = [] then manager.built D
  else
    (manager.built D ++ (manager.stale D).objects).insertionSort fun left right =>
      D.signalAccountComparator left right ≠ Ordering.gt

/-- The whole function. -/
theorem build_eq (shouldClearStaleCache : Bool) :
    manager.buildSignalAccountsAndClearStaleCache D shouldClearStaleCache =
      { manager with accounts := manager.accountsAfter D shouldClearStaleCache
        }.updateSignalAccounts (manager.signalAccountsAfter D shouldClearStaleCache) := by
  have hcompared : (manager.built D).foldl compareAccount (manager.accounts, []) =
      (manager.stale D, manager.changed D) :=
    foldl_compareAccount manager.nodup_builtIds _
  rw [built] at hcompared
  simp only [buildSignalAccountsAndClearStaleCache, hcompared, accountsAfter, signalAccountsAfter,
    Collection.removeEach_eq_without]
  cases shouldClearStaleCache with
  | true => rfl
  | false =>
      by_cases hstale : (manager.stale D).objects = []
      · simp [hstale, built]
      · have hpos : 0 < (manager.stale D).objects.length := List.length_pos_iff.mpr hstale
        simp [hstale, hpos, built]

def builtCollection (D : AccountDisplay) (manager : ContactsManager) : SignalAccountCollection :=
  ⟨manager.built D, manager.nodup_builtIds⟩

theorem mem_builtIds_iff {id : String} :
    id ∈ manager.builtIds D ↔ ((manager.builtCollection D).find id).isSome := by
  rw [builtIds, List.mem_map, Collection.find, List.find?_isSome]
  simp [builtCollection]

/-- **What is stored after the saving:** what is built, and what there was under other ids. -/
theorem find_saved (id : String) :
    (manager.accounts.saveEach (manager.changed D)).find id =
      ((manager.builtCollection D).find id).or (manager.accounts.find id) := by
  have hnodup : ((manager.changed D).map (·.recipientId)).Nodup :=
    manager.nodup_builtIds.sublist (List.filter_sublist.map _)
  rw [Collection.find_saveEach hnodup]
  cases hbuilt : (manager.builtCollection D).find id with
  | none =>
      have hnone : (manager.changed D).find? (·.recipientId = id) = none := by
        refine List.find?_eq_none.mpr fun account haccount => ?_
        have hne := Collection.find_eq_none_iff.mp hbuilt account (List.mem_filter.mp haccount).1
        simpa using hne
      rw [hnone]
  | some account =>
      obtain ⟨hmem, hid⟩ := Collection.find_eq_some_iff.mp hbuilt
      by_cases hstored : manager.accounts.find id = some account
      · have hnone : (manager.changed D).find? (·.recipientId = id) = none := by
          refine List.find?_eq_none.mpr fun other hother => ?_
          obtain ⟨hotherMem, hotherNew⟩ := List.mem_filter.mp hother
          by_contra heq
          have hotherId : other.recipientId = id := by simpa using heq
          have hsame : other = account := by
            have hfound := (manager.builtCollection D).find_eq_some_iff.mpr ⟨hotherMem, hotherId⟩
            exact Option.some_inj.mp (hfound.symm.trans hbuilt)
          rw [hsame, hid] at hotherNew
          simp [hstored] at hotherNew
        rw [hnone, hstored]
        rfl
      · have hchanged : account ∈ manager.changed D := by
          refine List.mem_filter.mpr ⟨hmem, ?_⟩
          rw [hid]
          simpa using hstored
        have hfound : (manager.changed D).find? (·.recipientId = id) = some account :=
          (@Collection.find_eq_some_iff _ _ _ _ ⟨manager.changed D, hnodup⟩ _ _).mpr
            ⟨hchanged, hid⟩
        rw [hfound]

/-- The stored accounts without a contact. -/
theorem mem_staleIds_iff {id : String} :
    id ∈ (manager.stale D).objects.map (·.recipientId) ↔
      (manager.accounts.find id).isSome ∧ (manager.builtCollection D).find id = none := by
  have hnone : (manager.builtCollection D).find id = none ↔ id ∉ manager.builtIds D := by
    rw [mem_builtIds_iff, Option.not_isSome_iff_eq_none]
  rw [hnone, List.mem_map]
  constructor
  · rintro ⟨account, haccount, rfl⟩
    obtain ⟨hmem, hid⟩ := Collection.mem_without.mp haccount
    exact ⟨by rw [Collection.find_key hmem]; rfl, hid⟩
  · rintro ⟨hsome, hid⟩
    obtain ⟨account, haccount⟩ := Option.isSome_iff_exists.mp hsome
    obtain ⟨hmem, rfl⟩ := Collection.find_eq_some_iff.mp haccount
    exact ⟨account, Collection.mem_without.mpr ⟨hmem, hid⟩, rfl⟩

/-- **What is stored afterwards.** -/
theorem accounts_find (shouldClearStaleCache : Bool) (id : String) :
    (manager.accountsAfter D shouldClearStaleCache).find id =
      ((manager.builtCollection D).find id).or
        (if shouldClearStaleCache then none else manager.accounts.find id) := by
  cases shouldClearStaleCache with
  | false => exact manager.find_saved id
  | true =>
      simp only [accountsAfter, if_true, Collection.find_without, mem_staleIds_iff, find_saved]
      cases hbuilt : (manager.builtCollection D).find id with
      | some account => simp
      | none => cases manager.accounts.find id <;> simp

/-- **What is in memory afterwards** is what is stored. -/
theorem mem_signalAccountsAfter (shouldClearStaleCache : Bool) {account : SignalAccount} :
    account ∈ manager.signalAccountsAfter D shouldClearStaleCache ↔
      account ∈ (manager.accountsAfter D shouldClearStaleCache).objects := by
  have hbuilt : account ∈ manager.built D ↔
      (manager.builtCollection D).find account.recipientId = some account :=
    (manager.builtCollection D).mem_iff_find
  have hstale : account ∈ (manager.stale D).objects ↔
      manager.accounts.find account.recipientId = some account ∧
        (manager.builtCollection D).find account.recipientId = none := by
    rw [stale, Collection.mem_without, Collection.mem_iff_find, mem_builtIds_iff,
      Option.not_isSome_iff_eq_none]
  rw [Collection.mem_iff_find, accounts_find, signalAccountsAfter]
  cases shouldClearStaleCache with
  | true => simp [hbuilt]
  | false =>
      have hmem : account ∈ manager.built D ++ (manager.stale D).objects ↔
          ((manager.builtCollection D).find account.recipientId).or
            (manager.accounts.find account.recipientId) = some account := by
        rw [List.mem_append, hbuilt, hstale]
        cases (manager.builtCollection D).find account.recipientId with
        | none => simp
        | some other => simp
      by_cases hnone : (manager.stale D).objects = []
      · rw [hnone, List.append_nil] at hmem
        simpa [hnone] using hmem
      · simpa [hnone] using hmem

theorem nodup_signalAccountsAfter (shouldClearStaleCache : Bool) :
    ((manager.signalAccountsAfter D shouldClearStaleCache).map (·.recipientId)).Nodup := by
  rw [signalAccountsAfter]
  split
  · exact manager.nodup_builtIds
  · refine ((List.perm_insertionSort _ _).map _).nodup_iff.mpr ?_
    rw [List.map_append]
    refine manager.nodup_builtIds.append (manager.stale D).nodup fun id hbuilt hstale => ?_
    have hsome := (mem_builtIds_iff manager).mp hbuilt
    rw [((mem_staleIds_iff manager).mp hstale).2] at hsome
    cases hsome

/-! ## Another run -/

/-- The manager afterwards. -/
theorem build_fields (shouldClearStaleCache : Bool) :
    (manager.buildSignalAccountsAndClearStaleCache D shouldClearStaleCache).recipients =
        manager.recipients ∧
      (manager.buildSignalAccountsAndClearStaleCache D shouldClearStaleCache).allContacts =
        manager.allContacts ∧
      (manager.buildSignalAccountsAndClearStaleCache D shouldClearStaleCache).accounts =
        manager.accountsAfter D shouldClearStaleCache ∧
      (manager.buildSignalAccountsAndClearStaleCache D shouldClearStaleCache).signalAccounts =
        manager.signalAccountsAfter D shouldClearStaleCache := by
  rw [build_eq, updateSignalAccounts]
  split
  · rename_i hsame
    exact ⟨rfl, rfl, rfl, hsame.symm⟩
  · exact ⟨rfl, rfl, rfl, rfl⟩

/-- A run that would store and show what there is changes nothing. -/
theorem build_eq_self {shouldClearStaleCache : Bool}
    (haccounts : manager.accountsAfter D shouldClearStaleCache = manager.accounts)
    (hshown : manager.signalAccountsAfter D shouldClearStaleCache = manager.signalAccounts) :
    manager.buildSignalAccountsAndClearStaleCache D shouldClearStaleCache = manager := by
  rw [build_eq, haccounts, hshown]
  exact if_pos rfl

/-- **Running it again changes nothing.** -/
theorem build_again (shouldClearStaleCache : Bool) :
    (manager.buildSignalAccountsAndClearStaleCache D
      shouldClearStaleCache).buildSignalAccountsAndClearStaleCache D shouldClearStaleCache =
        manager.buildSignalAccountsAndClearStaleCache D shouldClearStaleCache := by
  obtain ⟨hrecipients, hcontacts, haccounts, hshown⟩ :=
    @build_fields D manager shouldClearStaleCache
  generalize manager.buildSignalAccountsAndClearStaleCache D shouldClearStaleCache = after at *
  have hbuilt : after.built D = manager.built D := by rw [built, built, hrecipients, hcontacts]
  have hids : after.builtIds D = manager.builtIds D := by rw [builtIds, builtIds, hbuilt]
  have hchanged : after.changed D = [] := by
    refine List.filter_eq_nil_iff.mpr fun account haccount => ?_
    rw [hbuilt] at haccount
    have hfound := (manager.builtCollection D).find_key haccount
    simp [haccounts, accounts_find, hfound]
  have hstale : after.stale D = if shouldClearStaleCache then .empty else manager.stale D := by
    rw [stale, hids, haccounts]
    cases shouldClearStaleCache with
    | true =>
        ext1
        refine List.filter_eq_nil_iff.mpr fun account haccount => ?_
        have hfind := (Collection.mem_iff_find).mp haccount
        simp only [accounts_find, if_true, Option.or_none] at hfind
        have hmem : account.recipientId ∈ manager.builtIds D := by
          rw [mem_builtIds_iff, hfind]
          rfl
        simpa using hmem
    | false =>
        refine Collection.without_saveEach fun account haccount => ?_
        exact List.mem_map_of_mem (List.mem_filter.mp haccount).1
  refine build_eq_self after ?_ ?_
  · rw [accountsAfter, hchanged, hstale]
    cases shouldClearStaleCache with
    | true => exact Collection.without_eq_self fun _ _ => List.not_mem_nil
    | false => rfl
  · rw [hshown, signalAccountsAfter, signalAccountsAfter, hbuilt, hstale]
    cases shouldClearStaleCache with
    | true => simp
    | false => rfl

end ContactsManager

/-! ## The mirror -/

def freshAccount (D : AccountDisplay) (recipients : RecipientCollection) (contact : Contact)
    (id : String) : SignalAccount :=
  newSignalAccount D recipients contact
    (2 ≤ (textSecureIdentifiers recipients contact).toFinset.card) id

/-- **The accounts mirror the contacts.** -/
structure Mirrors (D : AccountDisplay) (shouldClearStaleCache : Bool)
    (before after : ContactsManager) : Prop where
  /-- What is in memory is what is stored. -/
  sameAccounts : ∀ account, account ∈ after.signalAccounts ↔ account ∈ after.accounts.objects
  mapped : ∀ id, after.signalAccountMap.find id = after.accounts.find id
  once : (after.signalAccounts.map (·.recipientId)).Nodup
  /-- Each registered number has the account of the first contact with it. -/
  fresh : ∀ id contact,
    firstContact before.recipients before.allContacts.contacts id = some contact →
      freshAccount D before.recipients contact id ∈ after.signalAccounts
  /-- Other accounts are removed, or kept. -/
  stale : ∀ id, firstContact before.recipients before.allContacts.contacts id = none →
    after.accounts.find id = if shouldClearStaleCache then none else before.accounts.find id
  again : after.buildSignalAccountsAndClearStaleCache D shouldClearStaleCache = after

/-- No contact that accounts are bound to has one registered number only, but several times. -/
def ContactsManager.ListsOnce (manager : ContactsManager) : Prop :=
  ∀ id contact, firstContact manager.recipients manager.allContacts.contacts id = some contact →
    2 ≤ (textSecureIdentifiers manager.recipients contact).length →
      2 ≤ (textSecureIdentifiers manager.recipients contact).toFinset.card

variable {D}

/-- An account is as it is to be exactly when counting the numbers counts different ones. -/
theorem madeAccount_eq_freshAccount_iff {recipients : RecipientCollection} {contact : Contact}
    {id : String} :
    madeAccount D recipients contact id = freshAccount D recipients contact id ↔
      (2 ≤ (textSecureIdentifiers recipients contact).length →
        2 ≤ (textSecureIdentifiers recipients contact).toFinset.card) := by
  have hle := (textSecureIdentifiers recipients contact).toFinset_card_le
  constructor
  · intro heq hlength
    have hflag : 1 < (textSecureIdentifiers recipients contact).length ↔
        2 ≤ (textSecureIdentifiers recipients contact).toFinset.card :=
      decide_eq_decide.mp (congrArg SignalAccount.hasMultipleAccountContact heq)
    exact hflag.mp hlength
  · intro hcount
    have hiff : 1 < (textSecureIdentifiers recipients contact).length ↔
        2 ≤ (textSecureIdentifiers recipients contact).toFinset.card :=
      ⟨hcount, fun hcard => hcard.trans hle⟩
    rw [madeAccount, freshAccount, decide_eq_decide.mpr hiff]

/-- **Accounts mirror the contacts exactly when a number counts once.**  Which accounts there are,
in memory and in the database, is right in any case. -/
theorem mirrors_iff (D : AccountDisplay) (shouldClearStaleCache : Bool)
    (manager : ContactsManager) :
    Mirrors D shouldClearStaleCache manager
        (manager.buildSignalAccountsAndClearStaleCache D shouldClearStaleCache) ↔
      manager.ListsOnce := by
  obtain ⟨-, -, haccounts, hshown⟩ := @ContactsManager.build_fields D manager shouldClearStaleCache
  have hfind : ∀ id, (manager.builtCollection D).find id =
      (firstContact manager.recipients manager.allContacts.contacts id).map
        (madeAccount D manager.recipients · id) :=
    (@find_builtAccounts D manager.recipients _ manager.allContacts.distinct).2
  have hmem : ∀ account, account ∈
      (manager.buildSignalAccountsAndClearStaleCache D shouldClearStaleCache).signalAccounts ↔
        account ∈ (manager.accountsAfter D shouldClearStaleCache).objects := by
    intro account
    rw [hshown]
    exact manager.mem_signalAccountsAfter shouldClearStaleCache
  -- Only that an account is fresh is in question: whether it says how often its number counts.
  constructor
  · intro mirrors id contact hfirst
    have hfresh := (hmem _).mp (mirrors.fresh id contact hfirst)
    have hstored := Collection.mem_iff_find.mp hfresh
    have hid : (freshAccount D manager.recipients contact id).recipientId = id := rfl
    rw [hid, manager.accounts_find, hfind, hfirst] at hstored
    exact madeAccount_eq_freshAccount_iff.mp (Option.some_inj.mp hstored)
  · intro listsOnce
    refine ⟨?_, ?_, ?_, ?_, ?_, manager.build_again shouldClearStaleCache⟩
    · intro account
      rw [hmem, haccounts]
    · intro id
      have hnodup := manager.nodup_signalAccountsAfter (D := D) shouldClearStaleCache
      rw [← hshown] at hnodup
      rw [ContactsManager.map_eq, Collection.find_saveEach hnodup, haccounts]
      refine (Option.or_none).trans (Option.ext fun account => ?_)
      refine (@Collection.find_eq_some_iff _ _ _ _ ⟨_, hnodup⟩ account id).trans ?_
      rw [Collection.find_eq_some_iff, hmem]
    · rw [hshown]
      exact manager.nodup_signalAccountsAfter shouldClearStaleCache
    · intro id contact hfirst
      rw [hmem, Collection.mem_iff_find]
      have hid : (freshAccount D manager.recipients contact id).recipientId = id := rfl
      rw [hid, manager.accounts_find, hfind, hfirst]
      exact congrArg some (madeAccount_eq_freshAccount_iff.mpr (listsOnce id contact hfirst))
    · intro id hfirst
      rw [haccounts, manager.accounts_find, hfind, hfirst]
      rfl

/-! ## A number in two formats -/

/-- Ann, whose only number is in the address book twice. -/
def sampleTwice : CNMutableContact :=
  { sampleContact "+14155550100" with
    phoneNumbers := [{ label := some .home, value := "+14155550100" },
      { label := some .home, value := "+1 (415) 555-0100" }] }

/-- Her number is registered, and nothing has been built yet. -/
def sampleManager : ContactsManager where
  recipients :=
    ⟨[{ recipientId := "+14155550100", devices := .singleton 1 }], List.nodup_singleton _⟩
  accounts := .empty
  allContacts := ⟨[Contact.initWithSystemContact sampleEnvironment sampleTwice],
    List.nodup_singleton _⟩
  signalAccounts := []
  signalAccountMap := .empty
  map_eq := rfl

/-- Texts in English. -/
def sampleDisplay : AccountDisplay where
  phoneNumberTypeUnknown := "Unknown"
  phoneNumberTypeAndIndex label index := label ++ " " ++ toString index
  filterStringForDisplay text := text
  signalAccountComparator left right := compare left.recipientId right.recipientId

/-- **Her account is marked as one of several.** -/
theorem one_of_several :
    ¬Mirrors sampleDisplay true sampleManager
      (sampleManager.buildSignalAccountsAndClearStaleCache sampleDisplay true) := by
  intro mirrors
  have hfresh := mirrors.fresh "+14155550100"
    (Contact.initWithSystemContact sampleEnvironment sampleTwice) (by decide)
  revert hfresh
  decide

end ObjcSwiftLearning.SignalMessaging
