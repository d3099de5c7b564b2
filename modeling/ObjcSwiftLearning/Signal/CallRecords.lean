import ObjcSwiftLearning.Signal.CallChanges

/-!
# Records of calls

A call gets its record from the handler that first needs one, and later handlers look for it in the
call.  So a call has one record as long as no handler saves another or forgets to save one.

* `CallService.Linked` — the record of a call is the one saved record that was made for it.
* `CallService.typeOf` — its type; `CallService.typeOf_setState`, `typeOf_saveCallRecord`, … say
  what the operations make of it.
-/

namespace ObjcSwiftLearning.Signal

/-- The type that `handleMissedCall` makes of that of a call, or of none. -/
def RPRecentCallType.missed : Option RPRecentCallType → RPRecentCallType
  | none | some .incoming => .incomingMissed
  | some callType => callType

/-- The type that `updateCallRecordType` makes of another. -/
def RPRecentCallType.completed : RPRecentCallType → RPRecentCallType
  | .outgoingIncomplete => .outgoing
  | .incomingIncomplete => .incoming
  | callType => callType

namespace CallService

variable {s s' : CallService} {call other record : ℕ} {state : CallState} {error : CallError}
  {callType : RPRecentCallType}

/-! ## The record of a call -/

/-- The call that a record was made for. -/
def owner (s : CallService) (record : ℕ) : Option ℕ :=
  (s.callRecords[record]?).map TSCall.call

/-- Calls and records point at each other. -/
structure Linked (s : CallService) : Prop where
  owner : ∀ call < s.callCount, ∀ record,
    (s.calls call).callRecord = some record ↔ s.owner record = some call
  known : ∀ record call, s.owner record = some call → call < s.callCount

/-- The type of the record of a call. -/
def typeOf (s : CallService) (call : ℕ) : Option RPRecentCallType :=
  (s.calls call).callRecord.bind s.callType

theorem owner_updateCallType : (s.updateCallType record callType).owner = s.owner := by
  funext index
  rw [owner, owner, updateCallType]
  change ((s.callRecords.modify record _)[index]?).map TSCall.call = _
  by_cases heq : record = index
  · rw [heq, List.getElem?_modify_eq]
    cases s.callRecords[index]? <;> rfl
  · rw [List.getElem?_modify_ne _ _ heq]

/-- The operations on types leave the links alone. -/
theorem Linked.of_eq (h : s.Linked) (howner : s'.owner = s.owner)
    (hrecord : ∀ call, (s'.calls call).callRecord = (s.calls call).callRecord)
    (hcount : s'.callCount = s.callCount) : s'.Linked where
  owner call hlt record := by
    rw [hrecord, howner]
    exact h.owner call (hcount ▸ hlt) record
  known record call hrecord' := by
    rw [howner] at hrecord'
    rw [hcount]
    exact h.known record call hrecord'

/-- A record has one call. -/
theorem Linked.ne_of_ne (h : s.Linked) (hlt : call < s.callCount) (hlt' : other < s.callCount)
    (hne : other ≠ call) (hrecord : (s.calls call).callRecord = some record) :
    (s.calls other).callRecord ≠ some record := by
  intro hother
  have hcall := (h.owner call hlt record).mp hrecord
  rw [(h.owner other hlt' record).mp hother] at hcall
  exact hne (Option.some.inj hcall)

/-- The record of a call is there. -/
theorem Linked.callType_isSome (h : s.Linked) (hlt : call < s.callCount)
    (hrecord : (s.calls call).callRecord = some record) :
    ∃ callType, s.callType record = some callType := by
  have howner := (h.owner call hlt record).mp hrecord
  rw [CallService.owner] at howner
  obtain ⟨saved, hsaved, -⟩ := Option.map_eq_some_iff.mp howner
  exact ⟨saved.callType, by rw [CallService.callType, hsaved, Option.map_some]⟩

theorem typeOf_of_some (hrecord : (s.calls call).callRecord = some record) :
    s.typeOf call = s.callType record := by
  rw [typeOf, hrecord, Option.bind_some]

theorem Linked.typeOf_eq_none_iff (h : s.Linked) (hlt : call < s.callCount) :
    s.typeOf call = none ↔ (s.calls call).callRecord = none := by
  constructor
  · intro hnone
    cases hrecord : (s.calls call).callRecord with
    | none => rfl
    | some record =>
        obtain ⟨callType, hcallType⟩ := h.callType_isSome hlt hrecord
        rw [typeOf_of_some hrecord, hcallType] at hnone
        exact nomatch hnone
  · intro hnone
    rw [typeOf, hnone, Option.bind_none]

theorem typeOf_congr (hrecord : (s'.calls call).callRecord = (s.calls call).callRecord)
    (hrecords : s'.callRecords = s.callRecords) : s'.typeOf call = s.typeOf call := by
  have hcallType : s'.callType = s.callType := by
    funext record
    rw [CallService.callType, CallService.callType, hrecords]
  rw [typeOf, typeOf, hrecord, hcallType]

/-! ## Types -/

theorem callType_updateCallType_self (hrecord : s.callType record = some callType)
    {newType : RPRecentCallType} :
    (s.updateCallType record newType).callType record = some newType := by
  obtain ⟨saved, hsaved, -⟩ := Option.map_eq_some_iff.mp hrecord
  rw [CallService.callType, updateCallType]
  change ((s.callRecords.modify record _)[record]?).map TSCall.callType = _
  rw [List.getElem?_modify_eq, hsaved]
  rfl

theorem callType_updateCallType_of_ne (hne : record ≠ other) {newType : RPRecentCallType} :
    (s.updateCallType record newType).callType other = s.callType other := by
  rw [CallService.callType, updateCallType]
  change ((s.callRecords.modify record _)[other]?).map TSCall.callType = _
  rw [List.getElem?_modify_ne _ _ hne]
  rfl

/-- The record of a call gets another type. -/
theorem Linked.typeOf_updateCallType (h : s.Linked) (hlt : call < s.callCount)
    (hrecord : (s.calls call).callRecord = some record) :
    (s.updateCallType record callType).typeOf call = some callType := by
  obtain ⟨oldType, holdType⟩ := h.callType_isSome hlt hrecord
  have hrecord' : ((s.updateCallType record callType).calls call).callRecord = some record :=
    hrecord
  rw [typeOf_of_some hrecord', callType_updateCallType_self holdType]

/-- No other call does. -/
theorem Linked.typeOf_updateCallType_of_ne (h : s.Linked) (hlt : call < s.callCount)
    (hlt' : other < s.callCount) (hne : other ≠ call)
    (hrecord : (s.calls call).callRecord = some record) :
    (s.updateCallType record callType).typeOf other = s.typeOf other := by
  cases hother : (s.calls other).callRecord with
  | none =>
      have hother' : ((s.updateCallType record callType).calls other).callRecord = none := hother
      rw [typeOf, hother', typeOf, hother, Option.bind_none, Option.bind_none]
  | some otherRecord =>
      have hother' : ((s.updateCallType record callType).calls other).callRecord =
          some otherRecord := hother
      have hne' : record ≠ otherRecord := fun heq =>
        h.ne_of_ne hlt hlt' hne hrecord (heq ▸ hother)
      rw [typeOf_of_some hother', typeOf_of_some hother, callType_updateCallType_of_ne hne']

theorem Linked.updateCallType (h : s.Linked) : (s.updateCallType record callType).Linked :=
  h.of_eq owner_updateCallType (fun _ => rfl) rfl

/-! ### When a call connects -/

theorem owner_updateCallRecordType : (s.updateCallRecordType call).owner = s.owner := by
  rw [updateCallRecordType]
  split
  · rfl
  · split
    · split
      · exact owner_updateCallType
      · exact owner_updateCallType
      · rfl
    · rfl

theorem Linked.updateCallRecordType (h : s.Linked) : (s.updateCallRecordType call).Linked :=
  h.of_eq owner_updateCallRecordType (fun _ => by rw [calls_updateCallRecordType])
    (callCount_of_rest rest_updateCallRecordType)

theorem Linked.typeOf_updateCallRecordType (h : s.Linked) (hlt : call < s.callCount) :
    (s.updateCallRecordType call).typeOf call =
      if (s.calls call).state = .connected then
        (s.typeOf call).map RPRecentCallType.completed
      else s.typeOf call := by
  rw [CallService.updateCallRecordType]
  cases hrecord : (s.calls call).callRecord with
  | none => rw [typeOf, hrecord, Option.bind_none, Option.map_none, ite_self]
  | some record =>
      dsimp only
      split
      · obtain ⟨callType, hcallType⟩ := h.callType_isSome hlt hrecord
        rw [typeOf_of_some hrecord, hcallType, Option.map_some]
        split
        · next hincomplete =>
            obtain rfl := Option.some.inj hincomplete
            exact h.typeOf_updateCallType hlt hrecord
        · next hincomplete =>
            obtain rfl := Option.some.inj hincomplete
            exact h.typeOf_updateCallType hlt hrecord
        · next hout hin =>
            rw [typeOf_of_some hrecord, hcallType]
            cases callType <;> first | rfl | exact absurd rfl hout | exact absurd rfl hin
      · rfl

theorem Linked.typeOf_updateCallRecordType_of_ne (h : s.Linked) (hlt : call < s.callCount)
    (hlt' : other < s.callCount) (hne : other ≠ call) :
    (s.updateCallRecordType call).typeOf other = s.typeOf other := by
  rw [CallService.updateCallRecordType]
  split
  · rfl
  · next record hrecord =>
      split
      · split
        · exact h.typeOf_updateCallType_of_ne hlt hlt' hne hrecord
        · exact h.typeOf_updateCallType_of_ne hlt hlt' hne hrecord
        · rfl
      · rfl

/-! ### The operations -/

theorem Linked.modifyCall (f : SignalCall → SignalCall) (h : s.Linked)
    (hf : ∀ a, (f a).callRecord = a.callRecord) : (s.modifyCall call f).Linked := by
  refine h.of_eq rfl (fun other => ?_) rfl
  by_cases heq : other = call
  · rw [heq, calls_modifyCall_self, hf]
  · rw [calls_modifyCall_of_ne heq]

theorem typeOf_modifyCall (f : SignalCall → SignalCall)
    (hf : ∀ a, (f a).callRecord = a.callRecord) :
    (s.modifyCall call f).typeOf other = s.typeOf other := by
  refine typeOf_congr ?_ rfl
  by_cases heq : other = call
  · rw [heq, calls_modifyCall_self, hf]
  · rw [calls_modifyCall_of_ne heq]

theorem Linked.setState (h : s.Linked) : (s.setState call state).Linked := by
  have hmodified : (s.modifyCall call (·.withState state)).Linked := h.modifyCall _ fun _ => rfl
  have hchanged : ((s.modifyCall call (·.withState state)).updateCallRecordType call).Linked :=
    hmodified.updateCallRecordType
  refine hchanged.of_eq ?_ (fun other => ?_) ?_
  · funext record
    rw [CallService.owner, callRecords_setState, CallService.owner]
  · rw [calls_setState, calls_updateCallRecordType]
    rfl
  · rw [callCount_setState, callCount_of_rest rest_updateCallRecordType]
    rfl

theorem typeOf_setState_eq : (s.setState call state).typeOf other =
    ((s.modifyCall call (·.withState state)).updateCallRecordType call).typeOf other := by
  refine typeOf_congr ?_ callRecords_setState
  rw [calls_setState, calls_updateCallRecordType]
  rfl

/-- A call that gets connected has its record completed. -/
theorem Linked.typeOf_setState (h : s.Linked) (hlt : call < s.callCount) :
    (s.setState call state).typeOf call =
      if state = .connected then (s.typeOf call).map RPRecentCallType.completed
      else s.typeOf call := by
  have hmodified : (s.modifyCall call (·.withState state)).Linked := h.modifyCall _ fun _ => rfl
  rw [typeOf_setState_eq, hmodified.typeOf_updateCallRecordType hlt, calls_modifyCall_self,
    typeOf_modifyCall (·.withState state) fun _ => rfl]
  rfl

theorem Linked.typeOf_setState_of_ne (h : s.Linked) (hlt : call < s.callCount)
    (hlt' : other < s.callCount) (hne : other ≠ call) :
    (s.setState call state).typeOf other = s.typeOf other := by
  have hmodified : (s.modifyCall call (·.withState state)).Linked := h.modifyCall _ fun _ => rfl
  rw [typeOf_setState_eq, hmodified.typeOf_updateCallRecordType_of_ne hlt hlt' hne,
    typeOf_modifyCall (·.withState state) fun _ => rfl]

/-- A record that has been saved and set, before its type is looked at. -/
def saved (s : CallService) (call : ℕ) (callType : RPRecentCallType) : CallService :=
  let record : TSCall := { callNumber := (s.calls call).remotePhoneNumber, callType, call }
  let saved := { s with callRecords := s.callRecords ++ [record] }
  saved.modifyCall call fun signalCall =>
    { signalCall with callRecord := some s.callRecords.length }

theorem saveCallRecord_eq :
    s.saveCallRecord call callType = (s.saved call callType).updateCallRecordType call :=
  rfl

theorem owner_saved : (s.saved call callType).owner record =
    if record = s.callRecords.length then some call else s.owner record := by
  change ((s.callRecords ++ [_])[record]?).map TSCall.call = _
  split
  · next heq =>
      rw [heq, List.getElem?_append_right (Nat.le_refl _), Nat.sub_self]
      rfl
  · next hne =>
      rcases Nat.lt_or_ge record s.callRecords.length with hlt | hge
      · rw [List.getElem?_append_left hlt]
        rfl
      · have hout : s.callRecords.length + 1 ≤ record := by omega
        rw [CallService.owner, List.getElem?_eq_none hge,
          List.getElem?_eq_none (by simpa using hout)]

theorem callRecord_saved_of_ne (hne : other ≠ call) :
    ((s.saved call callType).calls other).callRecord = (s.calls other).callRecord := by
  rw [saved, calls_modifyCall_of_ne hne]

theorem callRecord_saved :
    ((s.saved call callType).calls call).callRecord = some s.callRecords.length := by
  rw [saved, calls_modifyCall_self]

/-- The next record is nobody's. -/
theorem owner_length : s.owner s.callRecords.length = none := by
  rw [owner, List.getElem?_eq_none (Nat.le_refl _), Option.map_none]

/-- **A call without a record gets one.** -/
theorem Linked.saved (h : s.Linked) (hlt : call < s.callCount)
    (hnone : (s.calls call).callRecord = none) : (s.saved call callType).Linked where
  owner other hother record := by
    rw [owner_saved]
    by_cases heq : other = call
    · subst heq
      rw [callRecord_saved]
      split
      · next hrecord =>
          rw [hrecord]
          exact iff_of_true rfl rfl
      · next hrecord =>
          have hnot : s.owner record ≠ some other := fun howner => by
            rw [(h.owner other hlt record).mpr howner] at hnone
            exact nomatch hnone
          exact iff_of_false (fun hsome => hrecord (Option.some.inj hsome).symm) hnot
    · rw [callRecord_saved_of_ne heq]
      split
      · next hrecord =>
          have hnot : (s.calls other).callRecord ≠ some record := fun hsome => by
            rw [hrecord, h.owner other hother, owner_length] at hsome
            exact nomatch hsome
          exact iff_of_false hnot fun hsome => heq (Option.some.inj hsome).symm
      · exact h.owner other hother record
  known record other hrecord := by
    rw [owner_saved] at hrecord
    split at hrecord
    · exact Option.some.inj hrecord ▸ hlt
    · exact h.known record other hrecord

theorem Linked.saveCallRecord (h : s.Linked) (hlt : call < s.callCount)
    (hnone : (s.calls call).callRecord = none) : (s.saveCallRecord call callType).Linked := by
  rw [saveCallRecord_eq]
  exact (h.saved hlt hnone).updateCallRecordType

theorem Linked.typeOf_saveCallRecord (h : s.Linked) (hlt : call < s.callCount)
    (hnone : (s.calls call).callRecord = none) :
    (s.saveCallRecord call callType).typeOf call =
      some (if (s.calls call).state = .connected then callType.completed else callType) := by
  have htype : (s.saved call callType).typeOf call = some callType := by
    rw [typeOf_of_some callRecord_saved]
    change ((s.callRecords ++ [_])[s.callRecords.length]?).map TSCall.callType = _
    rw [List.getElem?_append_right (Nat.le_refl _), Nat.sub_self]
    rfl
  have hstate : ((s.saved call callType).calls call).state = (s.calls call).state := by
    rw [CallService.saved, calls_modifyCall_self]
  rw [saveCallRecord_eq, (h.saved hlt hnone).typeOf_updateCallRecordType hlt, htype, hstate]
  split <;> rfl

theorem Linked.typeOf_saveCallRecord_of_ne (h : s.Linked) (hlt : call < s.callCount)
    (hlt' : other < s.callCount) (hne : other ≠ call)
    (hnone : (s.calls call).callRecord = none) :
    (s.saveCallRecord call callType).typeOf other = s.typeOf other := by
  rw [saveCallRecord_eq, (h.saved hlt hnone).typeOf_updateCallRecordType_of_ne hlt hlt' hne]
  cases hrecord : (s.calls other).callRecord with
  | none => rw [typeOf, callRecord_saved_of_ne hne, hrecord, typeOf, hrecord, Option.bind_none,
      Option.bind_none]
  | some record =>
      have hsome : ((s.saved call callType).calls other).callRecord = some record := by
        rw [callRecord_saved_of_ne hne, hrecord]
      rw [typeOf_of_some hsome, typeOf_of_some hrecord]
      have howner := (h.owner other hlt' record).mp hrecord
      have hlength : record < s.callRecords.length := by
        by_contra hge
        rw [CallService.owner, List.getElem?_eq_none (Nat.not_lt.mp hge)] at howner
        exact nomatch howner
      change ((s.callRecords ++ [_])[record]?).map TSCall.callType = _
      rw [List.getElem?_append_left hlength]
      rfl

/-! ### Missed calls -/

theorem Linked.handleMissedCall (h : s.Linked) (hlt : call < s.callCount) :
    (s.handleMissedCall call).Linked := by
  rw [CallService.handleMissedCall]
  split
  · next hnone => exact h.saveCallRecord hlt hnone
  · split
    · exact h.updateCallType
    · exact h

theorem callCount_handleMissedIfFailed : (s.handleMissedIfFailed call).callCount = s.callCount :=
  callCount_of_rest rest_handleMissedIfFailed

section

variable (h : s.Linked) (hlt : call < s.callCount)
include h hlt

theorem Linked.typeOf_handleMissedCall :
    (s.handleMissedCall call).typeOf call = some (.missed (s.typeOf call)) := by
  rw [CallService.handleMissedCall]
  cases hrecord : (s.calls call).callRecord with
  | none =>
      dsimp only
      rw [h.typeOf_saveCallRecord hlt hrecord, (h.typeOf_eq_none_iff hlt).mpr hrecord]
      split <;> rfl
  | some record =>
      obtain ⟨callType, hcallType⟩ := h.callType_isSome hlt hrecord
      dsimp only
      rw [typeOf_of_some hrecord, hcallType]
      split
      · next hincoming =>
          obtain rfl := Option.some.inj hincoming
          exact h.typeOf_updateCallType hlt hrecord
      · next hincoming =>
          rw [typeOf_of_some hrecord, hcallType]
          cases callType <;> first | rfl | exact absurd rfl hincoming

theorem Linked.typeOf_handleMissedCall_of_ne (hlt' : other < s.callCount) (hne : other ≠ call) :
    (s.handleMissedCall call).typeOf other = s.typeOf other := by
  rw [CallService.handleMissedCall]
  split
  · next hnone => exact h.typeOf_saveCallRecord_of_ne hlt hlt' hne hnone
  · next record hrecord =>
      split
      · exact h.typeOf_updateCallType_of_ne hlt hlt' hne hrecord
      · rfl

theorem Linked.handleMissedIfFailed : (s.handleMissedIfFailed call).Linked := by
  rw [CallService.handleMissedIfFailed]
  split
  · exact h.handleMissedCall hlt
  · exact h.handleMissedCall hlt
  · exact h

theorem Linked.typeOf_handleMissedIfFailed_of_ne (hlt' : other < s.callCount) (hne : other ≠ call) :
    (s.handleMissedIfFailed call).typeOf other = s.typeOf other := by
  rw [CallService.handleMissedIfFailed]
  split
  · exact h.typeOf_handleMissedCall_of_ne hlt hlt' hne
  · exact h.typeOf_handleMissedCall_of_ne hlt hlt' hne
  · rfl

theorem Linked.failing :
    ((s.handleMissedIfFailed call).modifyCall call fun signalCall =>
      { signalCall with error := some error }).Linked :=
  (h.handleMissedIfFailed hlt).modifyCall _ fun _ => rfl

theorem Linked.failed : (s.failed call error).Linked := by
  rw [CallService.failed]
  exact (h.failing hlt).setState

theorem Linked.typeOf_failed_of_ne (hlt' : other < s.callCount) (hne : other ≠ call) :
    (s.failed call error).typeOf other = s.typeOf other := by
  have hltMissed : call < (s.handleMissedIfFailed call).callCount := by
    rwa [callCount_handleMissedIfFailed]
  have hltMissed' : other < (s.handleMissedIfFailed call).callCount := by
    rwa [callCount_handleMissedIfFailed]
  rw [CallService.failed, (h.failing hlt).typeOf_setState_of_ne hltMissed hltMissed' hne]
  refine Eq.trans ?_ (h.typeOf_handleMissedIfFailed_of_ne hlt hlt' hne)
  exact typeOf_modifyCall _ fun _ => rfl

end

end CallService

end ObjcSwiftLearning.Signal
