import ObjcSwiftLearning.AxolotlKit.AdditivePrimitives
import ObjcSwiftLearning.Library.WrappingCounter

/-!
# The ids of one-time prekeys

`generatePreKeyRecords` makes a batch of prekeys with consecutive ids, beginning at an id kept in
the database from batch to batch.  `nextPreKeyId` takes a random one if there is none, and begins
again at `1` where a batch would reach the id of the prekey of last resort.

* `PreKeyStep` — a call, with the id it found, the id it began with and its records.
* `PreKeyStep.simulates` — **a batch is steps of a `WrappingCounter`**: a seed or a wrap, if any,
  and as many issues as there are records.
* `preKeyIds_spec` — the ids over every run of calls.
-/

namespace ObjcSwiftLearning.SignalServiceKit

open AxolotlKit WrappingCounter

/-! ## Generating prekeys -/

structure PreKeyRecord where
  id : Int32
  keyPair : ECKeyPair

def preKeyBatchSize : ℕ := 100

/-- What the method reads and writes: the int for `TSNextPrekeyIdKey`, zero if there is none, and
the number of key pairs generated so far. -/
structure PreKeyStorage where
  nextPrekeyId : Int32
  generated : ℕ

def randomBound : Int32 := kPreKeyOfLastResortId - (.ofNat preKeyBatchSize + 1)

def lastFirstId : Int32 := kPreKeyOfLastResortId - .ofNat preKeyBatchSize

/-- `nextPreKeyId`, where `random` is the answer of `arc4random_uniform`. -/
def nextPreKeyId (random : ℕ) (lastPreKeyId : Int32) : Int32 :=
  if lastPreKeyId < 1 then 1 + .ofNat random
  else if lastFirstId < lastPreKeyId then 1
  else lastPreKeyId

/-- The loop: the records, and `preKeyId` after it. -/
def buildPreKeyRecords (P : Primitives) :
    (count : ℕ) → (preKeyId : Int32) → (generated : ℕ) → List PreKeyRecord × Int32
  | 0, preKeyId, _ => ([], preKeyId)
  | count + 1, preKeyId, generated =>
      let rest := buildPreKeyRecords P count (preKeyId + 1) (generated + 1)
      (⟨preKeyId, P.generatedKeyPair generated⟩ :: rest.1, rest.2)

def generatePreKeyRecords (P : Primitives) (random : ℕ) (storage : PreKeyStorage) :
    List PreKeyRecord × PreKeyStorage :=
  let preKeyId := nextPreKeyId random storage.nextPrekeyId
  let built := buildPreKeyRecords P preKeyBatchSize preKeyId storage.generated
  (built.1, { nextPrekeyId := built.2, generated := storage.generated + preKeyBatchSize })

/-- A call: the id it found, the id it began with, and the records it returned. -/
structure PreKeyBatch where
  lastPreKeyId : Int32
  preKeyId : Int32
  records : List PreKeyRecord

/-- A call of `generatePreKeyRecords`. -/
inductive PreKeyStep (P : Primitives) : PreKeyStorage → PreKeyBatch → PreKeyStorage → Prop
  | generate {storage : PreKeyStorage} {random : ℕ} (hrandom : (random : ℤ) < randomBound.toInt) :
      PreKeyStep P storage
        ⟨storage.nextPrekeyId, nextPreKeyId random storage.nextPrekeyId,
          (generatePreKeyRecords P random storage).1⟩
        (generatePreKeyRecords P random storage).2

def PreKeyBatch.ids (batch : PreKeyBatch) : List Int32 := batch.records.map (·.id)

def generatedIds (batches : List PreKeyBatch) : List Int32 := batches.flatMap (·.ids)

variable {P : Primitives} {random count generated : ℕ} {preKeyId lastPreKeyId : Int32}

/-! ## The ids of a batch -/

theorem toInt_lastFirstId : lastFirstId.toInt = 16777115 := by decide

theorem toInt_randomBound : randomBound.toInt = 16777114 := by decide

/-- Where a batch begins: at a seed, after a wrap, or where the last one ended. -/
theorem nextPreKeyId_cases (hrandom : (random : ℤ) < randomBound.toInt) (lastPreKeyId : Int32) :
    (lastPreKeyId.toInt < 1 ∧ (nextPreKeyId random lastPreKeyId).toInt = 1 + random) ∨
    (lastFirstId < lastPreKeyId ∧ nextPreKeyId random lastPreKeyId = 1) ∨
    (1 ≤ lastPreKeyId.toInt ∧ lastPreKeyId.toInt ≤ 16777115 ∧
      nextPreKeyId random lastPreKeyId = lastPreKeyId) := by
  rw [toInt_randomBound] at hrandom
  unfold nextPreKeyId
  split
  · rename_i hnone
    have hone : (1 : Int32).toInt = 1 := rfl
    rw [Int32.lt_iff_toInt_lt, hone] at hnone
    refine .inl ⟨hnone, ?_⟩
    rw [Int32.toInt_add, hone, Int32.toInt_ofNat_of_lt (by omega)]
    exact Int.bmod_eq_of_le (by omega) (by omega)
  · rename_i hsome
    have hone : (1 : Int32).toInt = 1 := rfl
    rw [Int32.lt_iff_toInt_lt, hone] at hsome
    split
    · rename_i hwrap
      exact .inr (.inl ⟨hwrap, rfl⟩)
    · rename_i hwrap
      rw [Int32.lt_iff_toInt_lt, toInt_lastFirstId] at hwrap
      exact .inr (.inr ⟨by omega, by omega, rfl⟩)

/-- A batch begins low enough. -/
theorem nextPreKeyId_bounds (hrandom : (random : ℤ) < randomBound.toInt) (lastPreKeyId : Int32) :
    1 ≤ (nextPreKeyId random lastPreKeyId).toInt ∧
      (nextPreKeyId random lastPreKeyId).toInt ≤ 16777115 := by
  rw [toInt_randomBound] at hrandom
  rcases nextPreKeyId_cases (by rwa [toInt_randomBound]) lastPreKeyId with
    ⟨-, hid⟩ | ⟨-, hid⟩ | ⟨hlow, hhigh, hid⟩
  · omega
  · rw [hid]
    decide
  · rw [hid]
    exact ⟨hlow, hhigh⟩

theorem toInt_add_one (h : preKeyId.toInt + 1 < 2 ^ 31) :
    (preKeyId + 1).toInt = preKeyId.toInt + 1 := by
  have hlow := preKeyId.le_toInt
  have hone : (1 : Int32).toInt = 1 := rfl
  rw [Int32.toInt_add, hone]
  exact Int.bmod_eq_of_le (by omega) (by omega)

/-- **The loop counts up.** -/
theorem buildPreKeyRecords_spec (count : ℕ) (preKeyId : Int32) (generated : ℕ)
    (h : preKeyId.toInt + count < 2 ^ 31) :
    (buildPreKeyRecords P count preKeyId generated).2.toInt = preKeyId.toInt + count ∧
      (buildPreKeyRecords P count preKeyId generated).1.map (·.id.toInt) =
        (List.range count).map fun i : ℕ => preKeyId.toInt + i := by
  induction count generalizing preKeyId generated with
  | zero => simp [buildPreKeyRecords]
  | succ count ih =>
      push_cast at h
      have hnext : (preKeyId + 1).toInt = preKeyId.toInt + 1 := toInt_add_one (by omega)
      obtain ⟨hlast, hids⟩ := ih (preKeyId + 1) (generated + 1) (by omega)
      constructor
      · rw [buildPreKeyRecords, hlast, hnext]
        push_cast
        omega
      · rw [buildPreKeyRecords, List.map_cons, hids, hnext, List.range_succ_eq_map, List.map_cons,
          List.map_map]
        refine congrArg₂ _ (by simp) (List.map_congr_left fun i _ => ?_)
        simp only [Function.comp_apply]
        push_cast
        omega

variable {storage storage' : PreKeyStorage} {batch : PreKeyBatch} {batches : List PreKeyBatch}
  {id : Int32} {start : PreKeyStorage}

/-- What a call has done, and what it leaves. -/
structure PreKeyStep.Spec (storage : PreKeyStorage) (batch : PreKeyBatch)
    (storage' : PreKeyStorage) : Prop where
  found : batch.lastPreKeyId = storage.nextPrekeyId
  first : (storage.nextPrekeyId.toInt < 1 ∧ 1 ≤ batch.preKeyId.toInt) ∨
    (lastFirstId < storage.nextPrekeyId ∧ batch.preKeyId = 1) ∨
    (1 ≤ storage.nextPrekeyId.toInt ∧ batch.preKeyId = storage.nextPrekeyId)
  low : 1 ≤ batch.preKeyId.toInt
  high : batch.preKeyId.toInt ≤ 16777115
  ids : batch.ids.map (·.toInt) = (List.range 100).map fun i : ℕ => batch.preKeyId.toInt + i
  next : storage'.nextPrekeyId.toInt = batch.preKeyId.toInt + 100

theorem PreKeyStep.spec (h : PreKeyStep P storage batch storage') :
    PreKeyStep.Spec storage batch storage' := by
  obtain ⟨hrandom⟩ := h
  rename_i random
  obtain ⟨hlow, hhigh⟩ := nextPreKeyId_bounds hrandom storage.nextPrekeyId
  obtain ⟨hnext, hids⟩ := buildPreKeyRecords_spec (P := P) preKeyBatchSize
    (nextPreKeyId random storage.nextPrekeyId) storage.generated (by rw [preKeyBatchSize]; omega)
  refine ⟨rfl, ?_, hlow, hhigh, ?_, hnext⟩
  · rcases nextPreKeyId_cases hrandom storage.nextPrekeyId with
      ⟨hnone, -⟩ | hwrap | ⟨hsome, -, hsame⟩
    · exact .inl ⟨hnone, hlow⟩
    · exact .inr (.inl hwrap)
    · exact .inr (.inr ⟨hsome, hsame⟩)
  · rw [PreKeyBatch.ids, List.map_map]
    exact hids

def valueOf (id : Int32) : ℕ := id.toInt.toNat

/-- How a batch comes to its first id. -/
def PreKeyBatch.opening (batch : PreKeyBatch) : List Label :=
  if batch.lastPreKeyId.toInt < 1 then [.seed (valueOf batch.preKeyId)]
  else if lastFirstId < batch.lastPreKeyId then [.wrap]
  else []

def PreKeyBatch.labels (batch : PreKeyBatch) : List Label :=
  batch.opening ++ batch.ids.map fun id => .issue (valueOf id)

theorem PreKeyStep.Spec.map_valueOf (h : PreKeyStep.Spec storage batch storage') :
    batch.ids.map valueOf = List.range' (valueOf batch.preKeyId) 100 := by
  have hlow := h.low
  calc
    batch.ids.map valueOf = (batch.ids.map (·.toInt)).map Int.toNat := by
      rw [List.map_map]
      rfl
    _ = (List.range 100).map (valueOf batch.preKeyId + ·) := by
      rw [h.ids, List.map_map]
      refine List.map_congr_left fun i _ => ?_
      simp only [Function.comp_apply, valueOf]
      omega
    _ = List.range' (valueOf batch.preKeyId) 100 := (List.range'_eq_map_range).symm

/-- Issuing one value after the other. -/
theorem run_issue (top next count : ℕ) (hnext : 0 < next) :
    LabelledRun (Step top) next ((List.range' next count).map .issue) (next + count) := by
  induction count generalizing next with
  | zero => exact .refl
  | succ count ih =>
      have hrest := ih (next + 1) (by omega)
      rw [List.range'_succ, List.map_cons, ← List.singleton_append,
        show next + (count + 1) = next + 1 + count by omega]
      exact (LabelledRun.single (.issue hnext)).trans hrest

/-- **A batch is steps of the counter**: a seed or a wrap, if any, and its issues. -/
theorem PreKeyStep.simulates (h : PreKeyStep P storage batch storage') :
    LabelledRun (Step 16777115) (valueOf storage.nextPrekeyId) batch.labels
      (valueOf storage'.nextPrekeyId) := by
  have spec := h.spec
  have hlow := spec.low
  have hissues : LabelledRun (Step 16777115) (valueOf batch.preKeyId)
      (batch.ids.map fun id => .issue (valueOf id)) (valueOf storage'.nextPrekeyId) := by
    have hrun := run_issue 16777115 (valueOf batch.preKeyId) 100 (by rw [valueOf]; omega)
    rw [← spec.map_valueOf, List.map_map] at hrun
    have hend : valueOf batch.preKeyId + 100 = valueOf storage'.nextPrekeyId := by
      have hnext := spec.next
      simp only [valueOf]
      omega
    rw [← hend]
    exact hrun
  refine LabelledRun.trans ?_ hissues
  rw [PreKeyBatch.opening, spec.found]
  rcases spec.first with ⟨hnone, -⟩ | ⟨hwrap, hone⟩ | ⟨hsome, hsame⟩
  · rw [if_pos hnone]
    have hzero : valueOf storage.nextPrekeyId = 0 := by
      rw [valueOf]
      omega
    rw [hzero]
    exact .single (.seed (by rw [valueOf]; omega))
  · have hbeyond : 16777115 < storage.nextPrekeyId.toInt := by
      rwa [← toInt_lastFirstId, ← Int32.lt_iff_toInt_lt]
    rw [if_neg (by omega), if_pos hwrap, hone]
    exact .single (.wrap (by rw [valueOf]; omega))
  · have hhigh := spec.high
    rw [hsame] at hhigh
    have hwithin : ¬lastFirstId < storage.nextPrekeyId := by
      rw [Int32.lt_iff_toInt_lt, toInt_lastFirstId]
      omega
    rw [if_neg (by omega), if_neg hwithin, hsame]
    exact .refl

/-! ## The ids of a run -/

theorem PreKeyStep.Spec.mem_ids (h : PreKeyStep.Spec storage batch storage')
    (hid : id ∈ batch.ids) :
    batch.preKeyId.toInt ≤ id.toInt ∧ id.toInt < batch.preKeyId.toInt + 100 := by
  have hmem : id.toInt ∈ batch.ids.map (·.toInt) := List.mem_map_of_mem hid
  rw [h.ids] at hmem
  obtain ⟨i, hi, heq⟩ := List.mem_map.mp hmem
  have := List.mem_range.mp hi
  omega

theorem PreKeyStep.Spec.nodup_ids (h : PreKeyStep.Spec storage batch storage') :
    batch.ids.Nodup := by
  refine List.Nodup.of_map valueOf ?_
  rw [h.map_valueOf]
  exact List.nodup_range'

/-- A batch that wraps begins at `1`. -/
theorem PreKeyStep.Spec.preKeyId_eq_one (h : PreKeyStep.Spec storage batch storage')
    (hwrap : lastFirstId < batch.lastPreKeyId) : batch.preKeyId = 1 := by
  have hhigh := h.high
  rw [h.found, Int32.lt_iff_toInt_lt, toInt_lastFirstId] at hwrap
  rcases h.first with ⟨hnone, -⟩ | ⟨-, hone⟩ | ⟨-, hsame⟩
  · omega
  · exact hone
  · rw [hsame] at hhigh
    omega

theorem exists_spec (run : LabelledRun (PreKeyStep P) start batches storage)
    (hbatch : batch ∈ batches) : ∃ before after, PreKeyStep.Spec before batch after := by
  induction run with
  | refl => cases hbatch
  | tail run last ih =>
      rcases List.mem_append.mp hbatch with hearlier | hlast
      · exact ih hearlier
      · obtain rfl := List.mem_singleton.mp hlast
        exact ⟨_, _, last.spec⟩

theorem lt_of_wrap_mem_labels (h : .wrap ∈ batch.labels) : lastFirstId < batch.lastPreKeyId := by
  rw [PreKeyBatch.labels, List.mem_append] at h
  rcases h with hfirst | hissue
  · rw [PreKeyBatch.opening] at hfirst
    split at hfirst
    · simp at hfirst
    · split at hfirst
      · assumption
      · cases hfirst
  · simp at hissue

theorem exists_labels_eq (h : id ∈ batch.ids) :
    ∃ earlier later, batch.labels = earlier ++ .issue (valueOf id) :: later ∧ .wrap ∉ later := by
  obtain ⟨left, right, hids⟩ := List.append_of_mem h
  refine ⟨batch.opening ++ left.map fun id => .issue (valueOf id),
    right.map fun id => .issue (valueOf id), ?_, by simp⟩
  rw [PreKeyBatch.labels, hids, List.map_append, List.map_cons, ← List.append_assoc]

/-- **An id comes again only after a wrap.** -/
theorem exists_wrap {earlier between later : List PreKeyBatch} {batch' : PreKeyBatch}
    (run : LabelledRun (PreKeyStep P) start
      (earlier ++ batch :: (between ++ batch' :: later)) storage) (hid : id ∈ batch.ids)
    (hid' : id ∈ batch'.ids) :
    ∃ wrapping ∈ between ++ [batch'],
      lastFirstId < wrapping.lastPreKeyId ∧ wrapping.preKeyId = 1 := by
  have hcounter := run.map (fun storage => valueOf storage.nextPrekeyId) PreKeyBatch.labels
    fun _ _ _ step => step.simulates
  obtain ⟨left, right, hlabels, hright⟩ := exists_labels_eq hid
  obtain ⟨left', right', hlabels', -⟩ := exists_labels_eq hid'
  have hsplit : (earlier ++ batch :: (between ++ batch' :: later)).flatMap PreKeyBatch.labels =
      (earlier.flatMap PreKeyBatch.labels ++ left) ++ .issue (valueOf id) ::
        ((right ++ between.flatMap PreKeyBatch.labels ++ left') ++ .issue (valueOf id) ::
          (right' ++ later.flatMap PreKeyBatch.labels)) := by
    simp [hlabels, hlabels']
  rw [hsplit] at hcounter
  have hwrap := wrap_mem_of_issue_twice hcounter
  have hfound : ∃ wrapping ∈ between ++ [batch'], .wrap ∈ wrapping.labels := by
    rcases List.mem_append.mp hwrap with hwrap | hwrap
    · rcases List.mem_append.mp hwrap with hwrap | hwrap
      · exact absurd hwrap hright
      · obtain ⟨wrapping, hmem, hlabel⟩ := List.mem_flatMap.mp hwrap
        exact ⟨wrapping, List.mem_append_left _ hmem, hlabel⟩
    · refine ⟨batch', List.mem_append_right _ List.mem_cons_self, ?_⟩
      rw [hlabels']
      exact List.mem_append_left _ hwrap
  obtain ⟨wrapping, hmem, hlabel⟩ := hfound
  have hbeyond := lt_of_wrap_mem_labels hlabel
  have hmade : wrapping ∈ earlier ++ batch :: (between ++ batch' :: later) := by
    rcases List.mem_append.mp hmem with hmem | hmem
    · simp [hmem]
    · simp [List.mem_singleton.mp hmem]
  obtain ⟨before, after, spec⟩ := exists_spec run hmade
  exact ⟨wrapping, hmem, hbeyond, spec.preKeyId_eq_one hbeyond⟩

theorem issued_append (labels labels' : List Label) :
    issued (labels ++ labels') = issued labels ++ issued labels' :=
  List.filterMap_append

theorem issued_labels (batch : PreKeyBatch) : issued batch.labels = batch.ids.map valueOf := by
  have hopening : issued batch.opening = [] := by
    rw [PreKeyBatch.opening]
    split
    · rfl
    · split
      · rfl
      · rfl
  rw [PreKeyBatch.labels, issued_append, hopening, List.nil_append, issued, List.filterMap_map]
  exact congrFun List.filterMap_eq_map batch.ids

theorem issued_flatMap_labels (batches : List PreKeyBatch) :
    issued (batches.flatMap PreKeyBatch.labels) = (generatedIds batches).map valueOf := by
  induction batches with
  | nil => rfl
  | cons batch batches ih =>
      rw [List.flatMap_cons, issued_append, issued_labels, ih, generatedIds, generatedIds,
        List.flatMap_cons, List.map_append]

/-- **Between an id and itself** lie almost all the others. -/
theorem card_between_ids {earlier between later : List Int32}
    (run : LabelledRun (PreKeyStep P) start batches storage)
    (hsplit : generatedIds batches = earlier ++ id :: (between ++ id :: later)) :
    16777114 ≤ (between.toFinset.erase id).card := by
  have hcounter := run.map (fun storage => valueOf storage.nextPrekeyId) PreKeyBatch.labels
    fun _ _ _ step => step.simulates
  have hissued : issued (batches.flatMap PreKeyBatch.labels) =
      earlier.map valueOf ++ valueOf id :: (between.map valueOf ++ valueOf id ::
        later.map valueOf) := by
    rw [issued_flatMap_labels, hsplit]
    simp
  have hsub : (between.map valueOf).toFinset.erase (valueOf id) ⊆
      (between.toFinset.erase id).image valueOf := by
    intro value hvalue
    rw [Finset.mem_erase, List.mem_toFinset, List.mem_map] at hvalue
    obtain ⟨hne, other, hother, rfl⟩ := hvalue
    refine Finset.mem_image_of_mem _ (Finset.mem_erase.mpr ⟨?_, List.mem_toFinset.mpr hother⟩)
    rintro rfl
    exact hne rfl
  calc
    16777114 ≤ ((between.map valueOf).toFinset.erase (valueOf id)).card :=
      card_between hcounter hissued
    _ ≤ ((between.toFinset.erase id).image valueOf).card := Finset.card_le_card hsub
    _ ≤ (between.toFinset.erase id).card := Finset.card_image_le

/-- **The ids of one-time prekeys** are positive and below that of the prekey of last resort, from
whatever the database holds.  An id comes again in a later batch only, after a batch has begun again
at `1`, and after at least `0xFFFFFF - 200` others. -/
theorem preKeyIds_spec (P : Primitives) (start storage : PreKeyStorage)
    (batches : List PreKeyBatch) (run : LabelledRun (PreKeyStep P) start batches storage) :
    (∀ batch ∈ batches, ∀ id ∈ batch.ids,
      1 ≤ id ∧ id ≤ 0xFFFFFE ∧ id ≠ kPreKeyOfLastResortId) ∧
    (∀ batch ∈ batches, batch.ids.Nodup) ∧
    (∀ earlier batch between batch' later id,
      batches = earlier ++ batch :: (between ++ batch' :: later) →
      id ∈ batch.ids → id ∈ batch'.ids →
      ∃ wrapping ∈ between ++ [batch'],
        lastFirstId < wrapping.lastPreKeyId ∧ wrapping.preKeyId = 1) ∧
    (∀ earlier id between later,
      generatedIds batches = earlier ++ id :: (between ++ id :: later) →
      0xFFFFFF - 200 ≤ (between.toFinset.erase id).card) := by
  refine ⟨?_, ?_, ?_, ?_⟩
  · intro batch hbatch id hid
    obtain ⟨before, after, spec⟩ := exists_spec run hbatch
    obtain ⟨hlow, hhigh⟩ := spec.mem_ids hid
    have hfirst := spec.low
    have hlast := spec.high
    have hone : (1 : Int32).toInt = 1 := rfl
    have htop : (0xFFFFFE : Int32).toInt = 0xFFFFFE := by decide
    have hresort : kPreKeyOfLastResortId.toInt = 0xFFFFFF := by decide
    refine ⟨?_, ?_, ?_⟩
    · rw [Int32.le_iff_toInt_le]
      omega
    · rw [Int32.le_iff_toInt_le]
      omega
    · intro heq
      rw [heq] at hhigh
      omega
  · intro batch hbatch
    obtain ⟨before, after, spec⟩ := exists_spec run hbatch
    exact spec.nodup_ids
  · rintro earlier batch between batch' later id rfl hid hid'
    exact exists_wrap run hid hid'
  · intro earlier id between later hsplit
    exact le_trans (by decide) (card_between_ids run hsplit)

/-- Fifteen ids below the last resort the next batch begins at `1`. -/
theorem preKeyIds_spec_sample :
    nextPreKeyId 0 0xFFFFF0 = 1 ∧
      ∀ record ∈ (generatePreKeyRecords additivePrimitives 0 ⟨0xFFFFF0, 0⟩).1,
        1 ≤ record.id ∧ record.id ≤ 0xFFFFFE ∧ record.id ≠ kPreKeyOfLastResortId := by
  have step : PreKeyStep additivePrimitives ⟨0xFFFFF0, 0⟩ _ _ :=
    @PreKeyStep.generate additivePrimitives ⟨0xFFFFF0, 0⟩ 0 (by decide)
  obtain ⟨hids, -⟩ := preKeyIds_spec additivePrimitives _ _ _ (.single step)
  refine ⟨by decide, fun record hrecord => ?_⟩
  exact hids _ List.mem_cons_self _ (List.mem_map_of_mem hrecord)

end ObjcSwiftLearning.SignalServiceKit
