import Mathlib.Algebra.Order.Group.Unbundled.Abs
import Mathlib.Algebra.Order.Ring.Rat
import ObjcSwiftLearning.Library.Collection
import ObjcSwiftLearning.Library.Pruning

/-!
# Old signed prekeys

`clearSignedPreKeyRecordsWithKeyId:` removes signed prekeys other than the current one, oldest
first, once they are a week away, as long as more than three of them are left, and more than three
accepted ones when one of these is removed.

* `clearLoop_eq` — **the loop is a pruning**: it removes from the store what `Pruning.removed`
  lists.
* `clearSignedPreKeyRecords_spec` — what stays.
-/

namespace ObjcSwiftLearning.SignalServiceKit

/-! ## Records -/

structure SignedPreKeyRecord where
  id : Int32
  generatedAt : ℚ
  wasAcceptedByService : Bool
  deriving DecidableEq

/-- `OWSPrimaryStorageSignedPreKeyStoreCollection`: a record is stored under its id. -/
abbrev SignedPreKeyStore := Collection SignedPreKeyRecord.id

/-- `sortedArrayUsingComparator:` by `generatedAt`, which need not be stable. -/
structure SignedPreKeySort where
  sort : List SignedPreKeyRecord → List SignedPreKeyRecord
  perm : ∀ records, (sort records).Perm records
  sorted : ∀ records, (sort records).Pairwise fun left right =>
    left.generatedAt ≤ right.generatedAt

def kSignedPreKeysDeletionTime : ℚ := 7 * (24 * (60 * 60))

/-- `fabs([generatedAt timeIntervalSinceNow]) < kSignedPreKeysDeletionTime`, at a time. -/
def SignedPreKeyRecord.isRecent (record : SignedPreKeyRecord) (now : ℚ) : Bool :=
  |record.generatedAt - now| < kSignedPreKeysDeletionTime

/-! ## The loop -/

/-- The two counters and the store. -/
structure ClearState where
  oldSignedPreKeyCount : ℕ
  oldAcceptedSignedPreKeyCount : ℕ
  store : SignedPreKeyStore

/-- The body of the loop; `now` is what the clock says at a record. -/
def clearRecord (now : SignedPreKeyRecord → ℚ) (state : ClearState)
    (signedPrekey : SignedPreKeyRecord) : ClearState :=
  if state.oldSignedPreKeyCount ≤ 3 then state
  else if signedPrekey.isRecent (now signedPrekey) then state
  else if signedPrekey.wasAcceptedByService then
    if state.oldAcceptedSignedPreKeyCount ≤ 3 then state
    else
      { oldSignedPreKeyCount := state.oldSignedPreKeyCount - 1
        oldAcceptedSignedPreKeyCount := state.oldAcceptedSignedPreKeyCount - 1
        store := state.store.remove signedPrekey.id }
  else
    { state with
      oldSignedPreKeyCount := state.oldSignedPreKeyCount - 1
      store := state.store.remove signedPrekey.id }

def removeCurrentRecord (currentRecord : SignedPreKeyRecord)
    (allRecords : List SignedPreKeyRecord) : List SignedPreKeyRecord :=
  allRecords.filter (currentRecord.id ≠ ·.id)

/-- `loadSignedPrekeyOrNil:` with the `intValue` of a number. -/
def currentRecord (keyId : ℤ) (store : SignedPreKeyStore) : Option SignedPreKeyRecord :=
  store.find (.ofInt keyId)

def oldSignedPrekeys (keyId : ℤ) (store : SignedPreKeyStore) : List SignedPreKeyRecord :=
  match currentRecord keyId store with
  | some current => removeCurrentRecord current store.objects
  | none => store.objects

def clearSignedPreKeyRecordsWithKeyId (sort : SignedPreKeySort) (now : SignedPreKeyRecord → ℚ)
    (keyId : Option ℤ) (store : SignedPreKeyStore) : SignedPreKeyStore :=
  match keyId with
  | none => store
  | some keyId =>
      let oldSignedPrekeys := sort.sort (oldSignedPrekeys keyId store)
      (oldSignedPrekeys.foldl (clearRecord now)
        { oldSignedPreKeyCount := oldSignedPrekeys.length
          oldAcceptedSignedPreKeyCount := oldSignedPrekeys.countP (·.wasAcceptedByService)
          store := store }).store

/-! ## The loop is a pruning -/

/-- What the loop removes of some records. -/
def clearedRecords (now : SignedPreKeyRecord → ℚ) (count acceptedCount : ℕ)
    (records : List SignedPreKeyRecord) : List SignedPreKeyRecord :=
  Pruning.removed 3 (fun record => !record.isRecent (now record)) (·.wasAcceptedByService)
    count acceptedCount records

variable {sort : SignedPreKeySort} {now : SignedPreKeyRecord → ℚ} {store : SignedPreKeyStore}

/-- **The loop is a pruning.** -/
theorem clearLoop_eq (count acceptedCount : ℕ) (records : List SignedPreKeyRecord)
    (store : SignedPreKeyStore) :
    (records.foldl (clearRecord now) ⟨count, acceptedCount, store⟩).store =
      store.removeEach ((clearedRecords now count acceptedCount records).map (·.id)) := by
  induction records generalizing count acceptedCount store with
  | nil => rfl
  | cons record records ih =>
      have hremove : ∀ cleared : List SignedPreKeyRecord,
          (store.remove record.id).removeEach (cleared.map (·.id)) =
            store.removeEach ((record :: cleared).map (·.id)) := fun _ => rfl
      rw [List.foldl_cons, clearedRecords, Pruning.removed, clearRecord]
      dsimp only
      by_cases hcount : count ≤ 3
      · rw [if_pos hcount, if_pos hcount]
        exact ih _ _ _
      · rw [if_neg hcount, if_neg hcount]
        cases hrecent : record.isRecent (now record) with
        | true =>
            rw [if_pos rfl, if_pos (show (!true) = false from rfl)]
            exact ih _ _ _
        | false =>
            rw [if_neg Bool.false_ne_true, if_neg (show ¬(!false) = false by decide)]
            by_cases haccepted : record.wasAcceptedByService = true
            · rw [if_pos haccepted, if_pos haccepted]
              by_cases hfew : acceptedCount ≤ 3
              · rw [if_pos hfew, if_pos hfew]
                exact ih _ _ _
              · rw [if_neg hfew, if_neg hfew, ih, ← hremove]
                rfl
            · rw [if_neg haccepted, if_neg haccepted, ih, ← hremove]
              rfl

def cleared (sort : SignedPreKeySort) (now : SignedPreKeyRecord → ℚ) (keyId : ℤ)
    (store : SignedPreKeyStore) : List SignedPreKeyRecord :=
  clearedRecords now (oldSignedPrekeys keyId store).length
    ((oldSignedPrekeys keyId store).countP (·.wasAcceptedByService))
    (sort.sort (oldSignedPrekeys keyId store))

theorem clearSignedPreKeyRecordsWithKeyId_some (sort : SignedPreKeySort)
    (now : SignedPreKeyRecord → ℚ) (keyId : ℤ) (store : SignedPreKeyStore) :
    clearSignedPreKeyRecordsWithKeyId sort now (some keyId) store =
      store.without ((cleared sort now keyId store).map (·.id)) := by
  have hperm := sort.perm (oldSignedPrekeys keyId store)
  rw [clearSignedPreKeyRecordsWithKeyId, clearLoop_eq, Collection.removeEach_eq_without,
    hperm.length_eq, hperm.countP_eq, cleared]

variable {keyId : ℤ} {record older newer : SignedPreKeyRecord}

theorem oldSignedPrekeys_sublist (keyId : ℤ) (store : SignedPreKeyStore) :
    (oldSignedPrekeys keyId store).Sublist store.objects := by
  rw [oldSignedPrekeys]
  cases currentRecord keyId store with
  | none => exact List.Sublist.refl _
  | some current => exact List.filter_sublist

theorem cleared_subset (h : record ∈ cleared sort now keyId store) :
    record ∈ oldSignedPrekeys keyId store :=
  (sort.perm _).mem_iff.mp ((Pruning.removed_sublist _ _ _).subset h)

theorem mem_clearSignedPreKeyRecords :
    record ∈ (clearSignedPreKeyRecordsWithKeyId sort now (some keyId) store).objects ↔
      record ∈ store.objects ∧ record ∉ cleared sort now keyId store := by
  rw [clearSignedPreKeyRecordsWithKeyId_some, Collection.mem_without]
  refine and_congr_right fun hrecord => not_congr ⟨fun hid => ?_, List.mem_map_of_mem⟩
  obtain ⟨other, hother, hsame⟩ := List.mem_map.mp hid
  have hstored := (oldSignedPrekeys_sublist keyId store).subset (cleared_subset hother)
  exact Collection.eq_of_key hstored hrecord hsame ▸ hother

theorem isRecent_of_mem_cleared (h : record ∈ cleared sort now keyId store) :
    record.isRecent (now record) = false := by
  simpa using Pruning.expired_of_mem_removed h

theorem nodup_oldSignedPrekeys (keyId : ℤ) (store : SignedPreKeyStore) :
    (oldSignedPrekeys keyId store).Nodup :=
  (List.Nodup.of_map _ store.nodup).sublist (oldSignedPrekeys_sublist keyId store)

/-- **The older one goes first.** -/
theorem mem_cleared_of_older (holder : older ∈ oldSignedPrekeys keyId store)
    (hlike : older.wasAcceptedByService = newer.wasAcceptedByService)
    (hearlier : older.generatedAt < newer.generatedAt)
    (hexpired : older.isRecent (now older) = false)
    (hremoved : newer ∈ cleared sort now keyId store) : older ∈ cleared sort now keyId store := by
  have hperm := sort.perm (oldSignedPrekeys keyId store)
  have hsorted := sort.sorted (oldSignedPrekeys keyId store)
  have hnewer := (Pruning.removed_sublist _ _ _).subset hremoved
  have hnodup := hperm.nodup_iff.mpr (nodup_oldSignedPrekeys keyId store)
  rw [cleared, clearedRecords] at hremoved ⊢
  obtain ⟨before, after, hsplit⟩ := List.append_of_mem (hperm.mem_iff.mpr holder)
  rw [hsplit] at hsorted hnewer hnodup hremoved ⊢
  have hafter : newer ∈ after := by
    rcases List.mem_append.mp hnewer with hbefore | hrest
    · have hle := (List.pairwise_append.mp hsorted).2.2 newer hbefore older List.mem_cons_self
      exact absurd hearlier (not_lt.mpr hle)
    · rcases List.mem_cons.mp hrest with rfl | hafter
      · exact absurd hearlier (lt_irrefl _)
      · exact hafter
  exact Pruning.mem_removed_of_before hnodup hafter (by simpa using hexpired) hlike hremoved

/-! ## What stays -/

def keptOf (old : List SignedPreKeyRecord) (store : SignedPreKeyStore) : List SignedPreKeyRecord :=
  old.filter (· ∈ store.objects)

theorem keptOf_append_cleared_perm (sort : SignedPreKeySort) (now : SignedPreKeyRecord → ℚ)
    (keyId : ℤ) (store : SignedPreKeyStore) :
    (keptOf (oldSignedPrekeys keyId store)
        (clearSignedPreKeyRecordsWithKeyId sort now (some keyId) store) ++
      cleared sort now keyId store).Perm (oldSignedPrekeys keyId store) := by
  have hold := nodup_oldSignedPrekeys keyId store
  have hcleared : (cleared sort now keyId store).Nodup :=
    ((sort.perm _).nodup_iff.mpr hold).sublist (Pruning.removed_sublist _ _ _)
  have hkept : ∀ record, record ∈ keptOf (oldSignedPrekeys keyId store)
      (clearSignedPreKeyRecordsWithKeyId sort now (some keyId) store) ↔
        record ∈ oldSignedPrekeys keyId store ∧ record ∉ cleared sort now keyId store := by
    intro record
    rw [keptOf, List.mem_filter, decide_eq_true_iff, mem_clearSignedPreKeyRecords]
    refine and_congr_right fun hrecord => and_iff_right ?_
    exact (oldSignedPrekeys_sublist keyId store).subset hrecord
  refine (List.perm_ext_iff_of_nodup ?_ hold).mpr fun record => ?_
  · refine (hold.filter _).append hcleared fun record hrecord hremoved => ?_
    exact ((hkept record).mp hrecord).2 hremoved
  · rw [List.mem_append, hkept]
    constructor
    · rintro (hrecord | hremoved)
      · exact hrecord.1
      · exact cleared_subset hremoved
    · intro hrecord
      by_cases hremoved : record ∈ cleared sort now keyId store
      · exact .inr hremoved
      · exact .inl ⟨hrecord, hremoved⟩

theorem length_keptOf (sort : SignedPreKeySort) (now : SignedPreKeyRecord → ℚ) (keyId : ℤ)
    (store : SignedPreKeyStore) :
    min 3 (oldSignedPrekeys keyId store).length ≤
        (keptOf (oldSignedPrekeys keyId store)
          (clearSignedPreKeyRecordsWithKeyId sort now (some keyId) store)).length ∧
      min 3 ((oldSignedPrekeys keyId store).countP (·.wasAcceptedByService)) ≤
        (keptOf (oldSignedPrekeys keyId store)
          (clearSignedPreKeyRecordsWithKeyId sort now (some keyId) store)).countP
            (·.wasAcceptedByService) := by
  have hperm := keptOf_append_cleared_perm sort now keyId store
  have hlength := hperm.length_eq
  have haccepted := hperm.countP_eq (·.wasAcceptedByService)
  rw [List.length_append] at hlength
  rw [List.countP_append] at haccepted
  have hremoved : (cleared sort now keyId store).length ≤
      (oldSignedPrekeys keyId store).length - 3 := Pruning.length_removed_le _ _ _
  have hremovedAccepted : (cleared sort now keyId store).countP (·.wasAcceptedByService) ≤
      (oldSignedPrekeys keyId store).countP (·.wasAcceptedByService) - 3 :=
    Pruning.countP_removed_le _ _ _
  omega

/-- **Cleaning up signed prekeys.**  Without a key id nothing happens, and nothing is ever added.
The current record stays, as do those less than a week away, three of the old ones and three of the
accepted ones, or all if there are fewer; and of two old records that were both accepted or both
not, the newer does not go while the older stays, unless that is recent. -/
theorem clearSignedPreKeyRecords_spec (sort : SignedPreKeySort) (now : SignedPreKeyRecord → ℚ)
    (store : SignedPreKeyStore) :
    clearSignedPreKeyRecordsWithKeyId sort now none store = store ∧
    ∀ keyId, let after := clearSignedPreKeyRecordsWithKeyId sort now (some keyId) store
      let old := oldSignedPrekeys keyId store
      (∀ record ∈ after.objects, record ∈ store.objects) ∧
      (∀ current, currentRecord keyId store = some current → current ∈ after.objects) ∧
      (∀ record ∈ store.objects,
        |record.generatedAt - now record| < kSignedPreKeysDeletionTime →
          record ∈ after.objects) ∧
      min 3 old.length ≤ (keptOf old after).length ∧
      min 3 (old.countP (·.wasAcceptedByService)) ≤
        (keptOf old after).countP (·.wasAcceptedByService) ∧
      ∀ older ∈ old, ∀ newer ∈ old,
        older.wasAcceptedByService = newer.wasAcceptedByService →
        older.generatedAt < newer.generatedAt →
        kSignedPreKeysDeletionTime ≤ |older.generatedAt - now older| →
        older ∈ after.objects → newer ∈ after.objects := by
  refine ⟨rfl, fun keyId => ?_⟩
  obtain ⟨hlength, haccepted⟩ := length_keptOf sort now keyId store
  refine ⟨fun record hrecord => (mem_clearSignedPreKeyRecords.mp hrecord).1,
    fun current hcurrent => ?_, fun record hrecord hrecent => ?_, hlength, haccepted,
    fun older holder newer hnewer hlike hearlier hexpired hkept => ?_⟩
  · refine mem_clearSignedPreKeyRecords.mpr
      ⟨(Collection.find_eq_some_iff.mp hcurrent).1, fun hremoved => ?_⟩
    have hold := cleared_subset hremoved
    rw [oldSignedPrekeys, hcurrent] at hold
    simp [removeCurrentRecord] at hold
  · refine mem_clearSignedPreKeyRecords.mpr ⟨hrecord, fun hremoved => ?_⟩
    have hfar := isRecent_of_mem_cleared hremoved
    rw [SignedPreKeyRecord.isRecent, decide_eq_false_iff_not] at hfar
    exact hfar hrecent
  · refine mem_clearSignedPreKeyRecords.mpr
      ⟨(oldSignedPrekeys_sublist keyId store).subset hnewer, fun hremoved => ?_⟩
    have hfar : older.isRecent (now older) = false := by
      rw [SignedPreKeyRecord.isRecent, decide_eq_false_iff_not, not_lt]
      exact hexpired
    exact (mem_clearSignedPreKeyRecords.mp hkept).2
      (mem_cleared_of_older holder hlike hearlier hfar hremoved)

def mergeByDate : SignedPreKeySort where
  sort records := records.mergeSort fun left right => decide (left.generatedAt ≤ right.generatedAt)
  perm records := List.mergeSort_perm _ _
  sorted records := by
    refine (List.pairwise_mergeSort ?_ ?_ records).imp fun hle => by simpa using hle
    · intro a b c hab hbc
      simp only [decide_eq_true_eq] at hab hbc ⊢
      exact hab.trans hbc
    · intro a b
      simpa using le_total a.generatedAt b.generatedAt

/-- A prekey a day; prekey `5` is the current one. -/
def sampleSignedPreKeys : SignedPreKeyStore where
  objects :=
    [⟨0, 0, true⟩, ⟨1, 86400, false⟩, ⟨2, 172800, true⟩, ⟨3, 259200, true⟩, ⟨4, 345600, true⟩,
      ⟨5, 432000, true⟩]
  nodup := by decide

/-- A month later three of the five old prekeys are left, and the current one. -/
theorem clearSignedPreKeyRecords_spec_sample :
    3 ≤ (keptOf (oldSignedPrekeys 5 sampleSignedPreKeys)
        (clearSignedPreKeyRecordsWithKeyId mergeByDate (fun _ => 2592000) (some 5)
          sampleSignedPreKeys)).length ∧
      ⟨5, 432000, true⟩ ∈ (clearSignedPreKeyRecordsWithKeyId mergeByDate (fun _ => 2592000)
        (some 5) sampleSignedPreKeys).objects := by
  obtain ⟨-, hspec⟩ := clearSignedPreKeyRecords_spec mergeByDate (fun _ => 2592000)
    sampleSignedPreKeys
  obtain ⟨-, hcurrent, -, hlength, -⟩ := hspec 5
  have hold : (oldSignedPrekeys 5 sampleSignedPreKeys).length = 5 := by decide
  rw [hold] at hlength
  exact ⟨hlength, hcurrent _ (by decide)⟩

end ObjcSwiftLearning.SignalServiceKit
