import ObjcSwiftLearning.Library.LabelledRun
import ObjcSwiftLearning.SignalServiceKit.SignedPreKeys

/-!
# The signed prekey that the service hands out

Prekey operations run one at a time.  Each that uploads a signed prekey stores it first, and marks
it as accepted and current only when the service has answered; a request that fails may have taken
effect all the same.  Failures with a status of the service are counted until an upload succeeds.

* `PreKeyAccount.Step` — an operation, with what the network makes of it.
* `published_is_stored` — **the signed prekey that the service hands out is in the store**, after
  any operations.
* `isAppLocked_iff` — **what locks the app**: five failures since an upload succeeded, the first of
  them ten days away.
-/

namespace ObjcSwiftLearning.SignalServiceKit

/-! ## The operations -/

inductive PreKeyError where
  | networkError
  | statusCode (statusCode : ℤ)
  | other

/-- What becomes of an upload; one that fails may have taken effect. -/
inductive UploadOutcome where
  | accepted
  | failed (tookEffect : Bool) (error : PreKeyError)

/-- What is stored of signed prekeys and of failures to update them, and the signed prekey that the
service hands out. -/
structure PreKeyAccount where
  signedPreKeys : SignedPreKeyStore
  currentSignedPrekeyId : Option ℤ
  prekeyUpdateFailureCount : ℕ
  firstPrekeyUpdateFailureDate : Option ℚ
  published : Option SignedPreKeyRecord

/-- An operation: what it generates and reads from the clock, and what it is answered. -/
inductive PreKeyEvent where
  | createPreKeys (record : SignedPreKeyRecord) (outcome : UploadOutcome)
  | refreshPreKeys (preKeysCount : Except PreKeyError ℤ) (record : SignedPreKeyRecord)
      (outcome : UploadOutcome) (clock : SignedPreKeyRecord → ℚ) (now : ℚ)
  | rotateSignedPreKey (record : SignedPreKeyRecord) (outcome : UploadOutcome)
      (clock : SignedPreKeyRecord → ℚ) (now : ℚ)

/-- What an operation reports in the end. -/
inductive PreKeyResult where
  | uploaded
  | sufficient
  | failed (error : PreKeyError)

def UploadOutcome.result : UploadOutcome → PreKeyResult
  | accepted => .uploaded
  | failed _ error => .failed error

/-- The signed prekey an operation generates, if it comes to it. -/
def PreKeyEvent.record : PreKeyEvent → SignedPreKeyRecord
  | createPreKeys record _ | refreshPreKeys _ record _ _ _ | rotateSignedPreKey record _ _ _ =>
      record

def kEphemeralPreKeysMinimumCount : ℤ := 35

def kMaxPrekeyUpdateFailureCount : ℕ := 5

def kSignedPreKeyUpdateFailureMaxFailureDuration : ℚ := 10 * (24 * (60 * 60))

/-- `didFail(error:)`: which errors are reported. -/
def PreKeyError.isReported : PreKeyError → Bool
  | statusCode code => decide (400 ≤ code) && decide (code ≤ 599)
  | _ => false

namespace PreKeyAccount

variable (sort : SignedPreKeySort) (account : PreKeyAccount)

def incrementPreKeyUpdateFailureCount (now : ℚ) : PreKeyAccount :=
  let failureCount := account.prekeyUpdateFailureCount + 1
  { account with
    prekeyUpdateFailureCount := failureCount
    firstPrekeyUpdateFailureDate :=
      if failureCount = 1 ∨ account.firstPrekeyUpdateFailureDate = none then some now
      else account.firstPrekeyUpdateFailureDate }

def clearPreKeyUpdateFailureCount : PreKeyAccount :=
  { account with
    prekeyUpdateFailureCount := 0
    firstPrekeyUpdateFailureDate := none }

def didFail (error : PreKeyError) (now : ℚ) : PreKeyAccount :=
  if error.isReported then account.incrementPreKeyUpdateFailureCount now else account

def clearSignedPreKeyRecords (clock : SignedPreKeyRecord → ℚ) : PreKeyAccount :=
  { account with
    signedPreKeys := clearSignedPreKeyRecordsWithKeyId sort clock account.currentSignedPrekeyId
      account.signedPreKeys }

/-- What the operations have in common: the record is stored, uploaded, and marked as accepted. -/
def upload (record : SignedPreKeyRecord) : UploadOutcome → PreKeyAccount
  | .accepted =>
      { account with
        signedPreKeys := (account.signedPreKeys.save record).save
          { record with wasAcceptedByService := true }
        currentSignedPrekeyId := some record.id.toInt
        published := some record }
  | .failed tookEffect _ =>
      { account with
        signedPreKeys := account.signedPreKeys.save record
        published := if tookEffect then some record else account.published }

/-- `RotateSignedPreKeyOperation`. -/
def rotateSignedPreKey (record : SignedPreKeyRecord) (outcome : UploadOutcome)
    (clock : SignedPreKeyRecord → ℚ) (now : ℚ) : PreKeyAccount :=
  match outcome with
  | .accepted => ((account.upload record outcome).clearPreKeyUpdateFailureCount
      ).clearSignedPreKeyRecords sort clock
  | .failed _ error => (account.upload record outcome).didFail error now

/-- `RefreshPreKeysOperation`: the same where prekeys are running out, or none was accepted. -/
def refreshPreKeys (preKeysCount : Except PreKeyError ℤ) (record : SignedPreKeyRecord)
    (outcome : UploadOutcome) (clock : SignedPreKeyRecord → ℚ) (now : ℚ) : PreKeyAccount :=
  match preKeysCount with
  | .error error => account.didFail error now
  | .ok preKeysCount =>
      if preKeysCount < kEphemeralPreKeysMinimumCount ∨ account.currentSignedPrekeyId = none then
        account.rotateSignedPreKey sort record outcome clock now
      else account

def apply : PreKeyEvent → PreKeyAccount
  | .createPreKeys record outcome => account.upload record outcome
  | .refreshPreKeys preKeysCount record outcome clock now =>
      account.refreshPreKeys sort preKeysCount record outcome clock now
  | .rotateSignedPreKey record outcome clock now =>
      account.rotateSignedPreKey sort record outcome clock now

def result : PreKeyEvent → PreKeyResult
  | .createPreKeys _ outcome | .rotateSignedPreKey _ outcome _ _ => outcome.result
  | .refreshPreKeys (.error error) _ _ _ _ => .failed error
  | .refreshPreKeys (.ok preKeysCount) _ outcome _ _ =>
      if preKeysCount < kEphemeralPreKeysMinimumCount ∨ account.currentSignedPrekeyId = none then
        outcome.result
      else .sufficient

def isAppLockedDueToPreKeyUpdateFailures (now : ℚ) : Prop :=
  kMaxPrekeyUpdateFailureCount ≤ account.prekeyUpdateFailureCount ∧
    ∃ date, account.firstPrekeyUpdateFailureDate = some date ∧
      kSignedPreKeyUpdateFailureMaxFailureDuration ≤ |date - now|

/-- An operation and its result; the id it generates is not in use. -/
def Step (account : PreKeyAccount) (label : PreKeyEvent × PreKeyResult)
    (account' : PreKeyAccount) : Prop :=
  account.signedPreKeys.find label.1.record.id = none ∧ label.2 = account.result label.1 ∧
    account' = account.apply sort label.1

/-- Before registration. -/
def initial : PreKeyAccount where
  signedPreKeys := .empty
  currentSignedPrekeyId := none
  prekeyUpdateFailureCount := 0
  firstPrekeyUpdateFailureDate := none
  published := none

/-! ## What is in the store -/

variable {sort account}

/-- The signed prekey the service hands out is stored, and so is the current one. -/
structure IsStored (account : PreKeyAccount) : Prop where
  published : ∀ record, account.published = some record → ∃ stored ∈ account.signedPreKeys.objects,
    stored.id = record.id ∧ stored.generatedAt = record.generatedAt
  current : ∀ keyId, account.currentSignedPrekeyId = some keyId →
    ∃ stored ∈ account.signedPreKeys.objects, stored.id.toInt = keyId ∧
      stored.wasAcceptedByService = true

theorem mem_clearSignedPreKeyRecords_current {clock : SignedPreKeyRecord → ℚ} {keyId : ℤ}
    {store : SignedPreKeyStore} {current : SignedPreKeyRecord}
    (h : currentRecord keyId store = some current) :
    current ∈ (clearSignedPreKeyRecordsWithKeyId sort clock (some keyId) store).objects := by
  refine mem_clearSignedPreKeyRecords.mpr
    ⟨(Collection.find_eq_some_iff.mp h).1, fun hremoved => ?_⟩
  have hold := cleared_subset hremoved
  rw [oldSignedPrekeys, h] at hold
  simp [removeCurrentRecord] at hold

variable {record : SignedPreKeyRecord} {outcome : UploadOutcome}
  {clock : SignedPreKeyRecord → ℚ} {now : ℚ}

theorem IsStored.didFail (h : account.IsStored) (error : PreKeyError) :
    (account.didFail error now).IsStored := by
  unfold PreKeyAccount.didFail
  split
  · exact ⟨h.published, h.current⟩
  · exact h

/-- A new record takes the place of none. -/
theorem mem_save_of_find_eq_none {store : SignedPreKeyStore} (hnew : store.find record.id = none)
    {stored : SignedPreKeyRecord} (h : stored ∈ store.objects) :
    stored ∈ (store.save record).objects :=
  Collection.mem_save.mpr (.inl ⟨h, Collection.find_eq_none_iff.mp hnew stored h⟩)

/-- After an upload that succeeded its record is the current one and the one handed out. -/
theorem isStored_of_accepted {stored : SignedPreKeyRecord}
    (hpublished : account.published = some record)
    (hcurrent : account.currentSignedPrekeyId = some record.id.toInt)
    (hmem : stored ∈ account.signedPreKeys.objects)
    (hstored : stored = { record with wasAcceptedByService := true }) : account.IsStored := by
  subst hstored
  constructor
  · intro published hsome
    obtain rfl := Option.some.inj (hpublished.symm.trans hsome)
    exact ⟨_, hmem, rfl, rfl⟩
  · intro keyId hkeyId
    obtain rfl := Option.some.inj (hcurrent.symm.trans hkeyId)
    exact ⟨_, hmem, rfl, rfl⟩

theorem IsStored.upload (h : account.IsStored)
    (hnew : account.signedPreKeys.find record.id = none) :
    (account.upload record outcome).IsStored := by
  cases outcome with
  | accepted => exact isStored_of_accepted rfl rfl (Collection.mem_save.mpr (.inr rfl)) rfl
  | failed tookEffect error =>
      refine ⟨fun published hpublished => ?_, fun keyId hkeyId => ?_⟩
      · simp only [PreKeyAccount.upload] at hpublished
        split at hpublished
        · cases hpublished
          exact ⟨record, Collection.mem_save.mpr (.inr rfl), rfl, rfl⟩
        · obtain ⟨stored, hstored, hsame⟩ := h.published published hpublished
          exact ⟨stored, mem_save_of_find_eq_none hnew hstored, hsame⟩
      · obtain ⟨stored, hstored, hsame⟩ := h.current keyId hkeyId
        exact ⟨stored, mem_save_of_find_eq_none hnew hstored, hsame⟩

theorem IsStored.rotateSignedPreKey (h : account.IsStored)
    (hnew : account.signedPreKeys.find record.id = none) :
    (account.rotateSignedPreKey sort record outcome clock now).IsStored := by
  cases outcome with
  | accepted =>
      refine isStored_of_accepted rfl rfl (mem_clearSignedPreKeyRecords_current ?_) rfl
      rw [currentRecord, Int32.ofInt_toInt]
      exact Collection.find_key (Collection.mem_save.mpr (.inr rfl))
  | failed tookEffect error => exact (h.upload hnew).didFail error

/-- Every operation keeps them. -/
theorem IsStored.apply (h : account.IsStored) (event : PreKeyEvent)
    (hnew : account.signedPreKeys.find event.record.id = none) :
    (account.apply sort event).IsStored := by
  cases event with
  | createPreKeys record outcome => exact h.upload hnew
  | refreshPreKeys preKeysCount record outcome clock now =>
      cases preKeysCount with
      | error error => exact h.didFail error
      | ok preKeysCount =>
          simp only [PreKeyAccount.apply, refreshPreKeys]
          split
          · exact h.rotateSignedPreKey hnew
          · exact h
  | rotateSignedPreKey record outcome clock now => exact h.rotateSignedPreKey hnew

/-! ## What locks the app -/

/-- Whether an upload succeeded after which failures are counted anew. -/
def clearsFailures : PreKeyEvent × PreKeyResult → Bool
  | (.createPreKeys _ _, _) => false
  | (_, .uploaded) => true
  | _ => false

/-- When a failure was counted. -/
def failureDate : PreKeyEvent × PreKeyResult → Option ℚ
  | (.refreshPreKeys _ _ _ _ now, .failed error) | (.rotateSignedPreKey _ _ _ now, .failed error) =>
      if error.isReported then some now else none
  | _ => none

/-- The failures counted since an upload succeeded, oldest first. -/
def failureDates (labels : List (PreKeyEvent × PreKeyResult)) : List ℚ :=
  (LabelledRun.since clearsFailures labels).filterMap failureDate

/-- The count and the date are those of the failures. -/
structure CountsFailures (dates : List ℚ) (account : PreKeyAccount) : Prop where
  count : account.prekeyUpdateFailureCount = dates.length
  date : account.firstPrekeyUpdateFailureDate = dates.head?

theorem CountsFailures.didFail {dates : List ℚ} (h : CountsFailures dates account)
    (error : PreKeyError) :
    CountsFailures (dates ++ (if error.isReported then some now else none).toList)
      (account.didFail error now) := by
  unfold PreKeyAccount.didFail
  split
  · constructor
    · simp [incrementPreKeyUpdateFailureCount, h.count]
    · cases dates with
      | nil => simp [incrementPreKeyUpdateFailureCount, h.count]
      | cons date dates => simp [incrementPreKeyUpdateFailureCount, h.count, h.date]
  · simpa using h

theorem failureDates_concat (labels : List (PreKeyEvent × PreKeyResult))
    (label : PreKeyEvent × PreKeyResult) : failureDates (labels ++ [label]) =
      if clearsFailures label then [] else failureDates labels ++ (failureDate label).toList := by
  unfold failureDates
  split
  · rename_i hclears
    rw [LabelledRun.since_concat_of_pos hclears]
    rfl
  · rename_i hclears
    rw [LabelledRun.since_concat_of_neg (Bool.eq_false_iff.mpr hclears), List.filterMap_append]
    cases hdate : failureDate label <;> simp [hdate]

theorem CountsFailures.step {labels : List (PreKeyEvent × PreKeyResult)} {event : PreKeyEvent}
    {result : PreKeyResult} (h : CountsFailures (failureDates labels) account)
    (hresult : result = account.result event) :
    CountsFailures (failureDates (labels ++ [(event, result)])) (account.apply sort event) := by
  have hupload : ∀ record outcome, CountsFailures (failureDates labels)
      (account.upload record outcome) := by
    intro record outcome
    cases outcome <;> exact ⟨h.count, h.date⟩
  subst hresult
  rw [failureDates_concat]
  cases event with
  | createPreKeys record outcome =>
      show CountsFailures (failureDates labels ++ []) _
      rw [List.append_nil]
      exact hupload record outcome
  | refreshPreKeys preKeysCount record outcome clock now =>
      cases preKeysCount with
      | error error => exact h.didFail error
      | ok preKeysCount =>
          simp only [PreKeyAccount.apply, refreshPreKeys, PreKeyAccount.result]
          split
          · cases outcome with
            | accepted => exact ⟨rfl, rfl⟩
            | failed tookEffect error => exact (hupload record _).didFail error
          · show CountsFailures (failureDates labels ++ []) _
            rw [List.append_nil]
            exact h
  | rotateSignedPreKey record outcome clock now =>
      cases outcome with
      | accepted => exact ⟨rfl, rfl⟩
      | failed tookEffect error => exact (hupload record _).didFail error

end PreKeyAccount

open PreKeyAccount

variable {sort : SignedPreKeySort} {labels : List (PreKeyEvent × PreKeyResult)}
  {account : PreKeyAccount}

/-- **The signed prekey that the service hands out is in the store,** and so is the current one,
which the service has accepted. -/
theorem published_is_stored (run : LabelledRun (Step sort) initial labels account) :
    account.IsStored := by
  refine run.invariant (I := fun _ account => account.IsStored) ⟨nofun, nofun⟩ ?_
  rintro labels account ⟨event, result⟩ _ h ⟨hnew, -, rfl⟩
  exact h.apply event hnew

/-- **The app is locked** when five failures have been counted since an upload succeeded, the first
of them ten days away. -/
theorem isAppLocked_iff (run : LabelledRun (Step sort) initial labels account) (now : ℚ) :
    account.isAppLockedDueToPreKeyUpdateFailures now ↔
      kMaxPrekeyUpdateFailureCount ≤ (failureDates labels).length ∧
        ∃ date, (failureDates labels).head? = some date ∧
          kSignedPreKeyUpdateFailureMaxFailureDuration ≤ |date - now| := by
  have hcounts : CountsFailures (failureDates labels) account := by
    refine run.invariant (I := fun labels account => CountsFailures (failureDates labels) account)
      ⟨rfl, rfl⟩ ?_
    rintro labels account ⟨event, result⟩ _ h ⟨-, hresult, rfl⟩
    exact h.step hresult
  rw [isAppLockedDueToPreKeyUpdateFailures, hcounts.count, hcounts.date]

/-! ### A first signed prekey -/

/-- An upload that the service answers with an error, though it took effect, and one that it
refuses. -/
def sampleRotations : List PreKeyEvent :=
  [.rotateSignedPreKey ⟨1, 0, false⟩ (.failed true (.statusCode 500)) (fun _ => 0) 0,
    .refreshPreKeys (.ok 0) ⟨2, 1, false⟩ (.failed false (.statusCode 503)) (fun _ => 1) 1]

theorem run_sampleRotations :
    LabelledRun (Step mergeByDate) initial
      [(sampleRotations[0], .failed (.statusCode 500)),
        (sampleRotations[1], .failed (.statusCode 503))]
      (sampleRotations.foldl (apply mergeByDate) initial) :=
  (LabelledRun.single ⟨rfl, rfl, rfl⟩).tail ⟨rfl, rfl, rfl⟩

theorem published_is_stored_sample :
    (sampleRotations.foldl (apply mergeByDate) initial).IsStored ∧
      (sampleRotations.foldl (apply mergeByDate) initial).published = some ⟨1, 0, false⟩ :=
  ⟨published_is_stored run_sampleRotations, rfl⟩

theorem isAppLocked_iff_sample :
    ¬(sampleRotations.foldl (apply mergeByDate)
      initial).isAppLockedDueToPreKeyUpdateFailures 864000 := by
  rw [isAppLocked_iff run_sampleRotations]
  exact fun h => absurd h.1 (by decide)

end ObjcSwiftLearning.SignalServiceKit
