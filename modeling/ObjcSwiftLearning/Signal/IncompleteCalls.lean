import ObjcSwiftLearning.Library.Collection
import ObjcSwiftLearning.Signal.CallService

/-!
# Incomplete calls

A call that had not been connected when the app was terminated stays incomplete, until
`OWSIncompleteCallsJob` marks it as missed after the next launch.  What it may not touch are the
calls since that launch.

* `runIncompleteCallsJob`, `find_runIncompleteCallsJob` — the job, and what it makes of each call.
* `MarksMissed` — its purpose.
* `marksMissed_iff` — when it serves it.
-/

namespace ObjcSwiftLearning.Signal

/-! ## The job -/

/-- A saved `TSCall`, with its timestamp in milliseconds. -/
structure CallRecord where
  uniqueId : String
  timestamp : UInt64
  callType : RPRecentCallType
  wasRead : Bool
deriving DecidableEq

abbrev CallStore := Collection CallRecord.uniqueId

/-- The types for which the query of `fetchIncompleteCallIdsWithTransaction:` asks. -/
def RPRecentCallType.IsIncomplete (callType : RPRecentCallType) : Prop :=
  callType = .outgoingIncomplete ∨ callType = .incomingIncomplete

instance (callType : RPRecentCallType) : Decidable callType.IsIncomplete :=
  inferInstanceAs (Decidable (_ ∨ _))

def fetchIncompleteCallIds (store : CallStore) : List String :=
  (store.objects.filter fun call => call.callType.IsIncomplete).map (·.uniqueId)

def CallRecord.updateCallType (call : CallRecord) (callType : RPRecentCallType)
    (store : CallStore) : CallStore :=
  store.save { call with callType }

/-- The block of `run`. -/
def markIncompleteCall (cutoffTimestamp : UInt64) (call : CallRecord) (store : CallStore) :
    CallStore :=
  if call.timestamp ≤ cutoffTimestamp then store
  else if call.callType = .outgoingIncomplete then call.updateCallType .outgoingMissed store
  else if call.callType = .incomingIncomplete then call.updateCallType .incomingMissed store
  else store

/-- `enumerateIncompleteCallsWithBlock:transaction:`, for one of the ids. -/
def processIncompleteCall (cutoffTimestamp : UInt64) (store : CallStore) (callId : String) :
    CallStore :=
  match store.find callId with
  | none => store
  | some call => markIncompleteCall cutoffTimestamp call store

def runIncompleteCallsJob (cutoffTimestamp : UInt64) (store : CallStore) : CallStore :=
  (fetchIncompleteCallIds store).foldl (processIncompleteCall cutoffTimestamp) store

/-! ## What it makes of a call -/

def RPRecentCallType.asMissed : RPRecentCallType → RPRecentCallType
  | .outgoingIncomplete => .outgoingMissed
  | .incomingIncomplete => .incomingMissed
  | callType => callType

/-- What the job makes of a call. -/
def CallRecord.marked (cutoffTimestamp : UInt64) (call : CallRecord) : CallRecord :=
  if call.timestamp ≤ cutoffTimestamp then call
  else { call with callType := call.callType.asMissed }

variable {cutoffTimestamp : UInt64} {store : CallStore} {call : CallRecord}
  {callType : RPRecentCallType}

theorem asMissed_of_not_isIncomplete (h : ¬ callType.IsIncomplete) :
    callType.asMissed = callType := by
  cases callType with
  | outgoingIncomplete => exact absurd (.inl rfl) h
  | incomingIncomplete => exact absurd (.inr rfl) h
  | _ => rfl

theorem not_isIncomplete_asMissed (callType : RPRecentCallType) :
    ¬ callType.asMissed.IsIncomplete := by
  cases callType <;> decide

theorem CallRecord.marked_of_not_isIncomplete (h : ¬ call.callType.IsIncomplete) :
    call.marked cutoffTimestamp = call := by
  rw [marked, asMissed_of_not_isIncomplete h, ite_self]

@[simp] theorem CallRecord.marked_marked :
    (call.marked cutoffTimestamp).marked cutoffTimestamp = call.marked cutoffTimestamp := by
  by_cases hrecent : call.timestamp ≤ cutoffTimestamp
  · have hsame : call.marked cutoffTimestamp = call := if_pos hrecent
    rw [hsame, hsame]
  · refine marked_of_not_isIncomplete ?_
    rw [marked, if_neg hrecent]
    exact not_isIncomplete_asMissed call.callType

theorem find_markIncompleteCall (hfind : store.find call.uniqueId = some call) (id : String) :
    (markIncompleteCall cutoffTimestamp call store).find id =
      if id = call.uniqueId then some (call.marked cutoffTimestamp) else store.find id := by
  have hkept : call.marked cutoffTimestamp = call →
      store.find id = if id = call.uniqueId then some (call.marked cutoffTimestamp)
        else store.find id := by
    intro hsame
    split
    · rename_i hid
      rw [hsame, hid, hfind]
    · rfl
  rw [markIncompleteCall]
  split
  · rename_i hrecent
    exact hkept (if_pos hrecent)
  rename_i hold
  split
  · rename_i hout
    have hmarked : call.marked cutoffTimestamp = { call with callType := .outgoingMissed } := by
      rw [CallRecord.marked, if_neg hold, hout]
      rfl
    rw [CallRecord.updateCallType, Collection.find_save, hmarked]
  split
  · rename_i hin
    have hmarked : call.marked cutoffTimestamp = { call with callType := .incomingMissed } := by
      rw [CallRecord.marked, if_neg hold, hin]
      rfl
    rw [CallRecord.updateCallType, Collection.find_save, hmarked]
  · rename_i hout hin
    exact hkept (CallRecord.marked_of_not_isIncomplete (not_or.mpr ⟨hout, hin⟩))

/-- One of the calls is marked, and the others are left. -/
theorem find_processIncompleteCall (callId id : String) :
    (processIncompleteCall cutoffTimestamp store callId).find id =
      if id = callId then (store.find id).map (CallRecord.marked cutoffTimestamp)
      else store.find id := by
  rw [processIncompleteCall]
  cases hfind : store.find callId with
  | none =>
      change store.find id = _
      split
      · rename_i hid
        rw [hid, hfind, Option.map_none]
      · rfl
  | some call =>
      obtain ⟨-, rfl⟩ := Collection.find_eq_some_iff.mp hfind
      change (markIncompleteCall cutoffTimestamp call store).find id = _
      rw [find_markIncompleteCall hfind]
      split
      · rename_i hid
        rw [hid, hfind, Option.map_some]
      · rfl

theorem find_foldl_processIncompleteCall (ids : List String) (id : String) :
    (ids.foldl (processIncompleteCall cutoffTimestamp) store).find id =
      if id ∈ ids then (store.find id).map (CallRecord.marked cutoffTimestamp)
      else store.find id := by
  induction ids generalizing store with
  | nil => rfl
  | cons callId ids ih =>
      rw [List.foldl_cons, ih, find_processIncompleteCall]
      by_cases hid : id = callId
      · cases hcall : store.find id with
        | none => simp [hid]
        | some call => simp [hid]
      · simp [hid]

/-- **What the job makes of the calls**: the incomplete ones that are newer than the launch are
marked. -/
theorem find_runIncompleteCallsJob (id : String) :
    (runIncompleteCallsJob cutoffTimestamp store).find id =
      (store.find id).map (CallRecord.marked cutoffTimestamp) := by
  rw [runIncompleteCallsJob, find_foldl_processIncompleteCall]
  split
  · rfl
  · rename_i hnot
    cases hfind : store.find id with
    | none => rfl
    | some call =>
        obtain ⟨hmem, rfl⟩ := Collection.find_eq_some_iff.mp hfind
        have hcomplete : ¬ call.callType.IsIncomplete := fun hincomplete =>
          hnot (List.mem_map.mpr ⟨call, List.mem_filter.mpr ⟨hmem, by simpa using hincomplete⟩, rfl⟩)
        rw [Option.map_some, CallRecord.marked_of_not_isIncomplete hcomplete]

/-! ## Its purpose -/

/-- A call that was started at the launch or later is saved, when it is started, answered or
ended. -/
inductive CallActivity (launch : UInt64) : CallStore → CallRecord → CallStore → Prop
  | save {store : CallStore} {call : CallRecord} (hnew : launch ≤ call.timestamp)
      (hsame : ∀ old, store.find call.uniqueId = some old → old.timestamp = call.timestamp) :
      CallActivity launch store call (store.save call)

/-- What is left over from before the launch becomes missed and stays so; nothing else is
touched. -/
structure MarksMissed (launch : UInt64) (before after later : CallStore) : Prop where
  noneLeft : ∀ call ∈ later.objects, call.timestamp < launch → ¬ call.callType.IsIncomplete
  missed : ∀ call ∈ before.objects, call.timestamp < launch → call.callType.IsIncomplete →
    after.find call.uniqueId = some { call with callType := call.callType.asMissed }
  others : ∀ call ∈ before.objects,
    ¬ (call.timestamp < launch ∧ call.callType.IsIncomplete) →
      after.find call.uniqueId = some call
  nothingNew : ∀ id, before.find id = none → after.find id = none

theorem find_of_callActivity {launch : UInt64} {calls : List CallRecord} {later : CallStore}
    (hrun : LabelledRun (CallActivity launch) store calls later) (hold : call.timestamp < launch) :
    later.find call.uniqueId = some call ↔ store.find call.uniqueId = some call := by
  induction hrun with
  | refl => exact Iff.rfl
  | tail _ last ih =>
      rw [← ih]
      cases last with
      | save hnew hsame =>
          rw [Collection.find_save]
          split
          · rename_i hid
            constructor
            · intro heq
              cases heq
              exact absurd hold (UInt64.not_lt.mpr hnew)
            · intro hfind
              have htimestamp := hsame call (hid ▸ hfind)
              exact absurd hold (UInt64.not_lt.mpr (htimestamp ▸ hnew))
          · exact Iff.rfl

theorem marked_ne_of_isIncomplete (h : call.callType.IsIncomplete) :
    { call with callType := call.callType.asMissed } ≠ call := fun heq =>
  not_isIncomplete_asMissed call.callType
    ((congrArg (RPRecentCallType.IsIncomplete ∘ CallRecord.callType) heq).mpr h)

/-- **Leftover calls become missed, and no others,** if and only if no call is incomplete that was
started before the launch or after it: only ones of the very millisecond. -/
theorem marksMissed_iff {launch : UInt64} {calls : List CallRecord} {later : CallStore}
    (hrun : LabelledRun (CallActivity launch) (runIncompleteCallsJob launch store) calls later) :
    MarksMissed launch store (runIncompleteCallsJob launch store) later ↔
      ∀ call ∈ store.objects, call.callType.IsIncomplete → call.timestamp = launch := by
  have hfind : ∀ call ∈ store.objects, (runIncompleteCallsJob launch store).find call.uniqueId =
      some (call.marked launch) := fun call hcall => by
    rw [find_runIncompleteCallsJob, Collection.find_key hcall, Option.map_some]
  constructor
  · intro hmarks call hcall hincomplete
    have hmarked := hfind call hcall
    by_contra hne
    by_cases hold : call.timestamp < launch
    · -- A leftover call is taken for a new one.
      have hsame : call.marked launch = call := if_pos (UInt64.le_of_lt hold)
      rw [hmarks.missed call hcall hold hincomplete, hsame] at hmarked
      exact marked_ne_of_isIncomplete hincomplete (Option.some.inj hmarked)
    · -- A new one is marked.
      have hnew : ¬ call.timestamp ≤ launch := fun hle =>
        hne (UInt64.le_antisymm hle (UInt64.not_lt.mp hold))
      have hmissed : call.marked launch = { call with callType := call.callType.asMissed } :=
        if_neg hnew
      rw [hmarks.others call hcall fun h => hold h.1, hmissed] at hmarked
      exact marked_ne_of_isIncomplete hincomplete (Option.some.inj hmarked).symm
  · intro hnone
    have hsame : ∀ call ∈ store.objects, call.marked launch = call := by
      intro call hcall
      by_cases hincomplete : call.callType.IsIncomplete
      · exact if_pos (UInt64.le_of_eq (hnone call hcall hincomplete))
      · exact CallRecord.marked_of_not_isIncomplete hincomplete
    refine ⟨?_, ?_, fun call hcall _ => ?_, fun id hid => ?_⟩
    · intro call hlater hold hincomplete
      have hafter := (find_of_callActivity hrun hold).mp (Collection.find_key hlater)
      rw [find_runIncompleteCallsJob, Option.map_eq_some_iff] at hafter
      obtain ⟨before, hbefore, rfl⟩ := hafter
      have hmem := (Collection.find_eq_some_iff.mp hbefore).1
      rw [hsame before hmem] at hold hincomplete
      exact absurd (hnone before hmem hincomplete) (UInt64.ne_of_lt hold)
    · intro call hcall hold hincomplete
      exact absurd (hnone call hcall hincomplete) (UInt64.ne_of_lt hold)
    · rw [hfind call hcall, hsame call hcall]
    · rw [find_runIncompleteCallsJob, hid, Option.map_none]

/-- A call of one hour before a launch, which was never connected. -/
def leftoverCall : CallRecord where
  uniqueId := "call"
  timestamp := 1000
  callType := .outgoingIncomplete
  wasRead := true

/-- The job leaves it incomplete. -/
theorem not_marksMissed_leftover :
    ¬ MarksMissed 3601000 ⟨[leftoverCall], by decide⟩
      (runIncompleteCallsJob 3601000 ⟨[leftoverCall], by decide⟩)
      (runIncompleteCallsJob 3601000 ⟨[leftoverCall], by decide⟩) := by
  intro hmarks
  exact hmarks.noneLeft leftoverCall (by decide) (by decide) (by decide)

/-- A call that was connected. -/
def connectedCall : CallRecord :=
  { leftoverCall with uniqueId := "connected", callType := .outgoing }

/-- One of the launch's millisecond. -/
def callOfTheLaunch : CallRecord :=
  { leftoverCall with uniqueId := "launch", timestamp := 3601000 }

/-- One that is begun later. -/
def laterCall : CallRecord :=
  { leftoverCall with uniqueId := "later", timestamp := 3700000 }

/-- Neither the connected call nor the other two are touched. -/
theorem marksMissed_sample :
    MarksMissed 3601000 ⟨[connectedCall, callOfTheLaunch], by decide⟩
      (runIncompleteCallsJob 3601000 ⟨[connectedCall, callOfTheLaunch], by decide⟩)
      ((runIncompleteCallsJob 3601000 ⟨[connectedCall, callOfTheLaunch], by decide⟩).save
        laterCall) :=
  (marksMissed_iff (.single (.save (by decide) fun old hold => by cases hold))).mpr
    fun call hcall hincomplete => by
      rcases List.mem_cons.mp hcall with rfl | hcall
      · exact absurd hincomplete (by decide)
      · rw [List.mem_singleton.mp hcall]
        rfl

end ObjcSwiftLearning.Signal
