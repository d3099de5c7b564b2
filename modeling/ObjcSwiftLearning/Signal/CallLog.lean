import ObjcSwiftLearning.Signal.CallRecords

/-!
# Ended calls are terminal and logged once

A call ends in many handlers, and each has to see to its state and to its record.

* `CallService.Logged` — every call that is not the current one has a record whose type says whether
  it has connected; the current one has one unless it is still ringing here.
* `CallService.Loses` — an event that ends a call without a terminal state, or makes, forgets or
  spoils a record.
* `CallService.Outcome` — the log is kept, and a current call that is gone has ended.
* `CallService.Ready.outcome` — every other step comes to that.
-/

namespace ObjcSwiftLearning.Signal

/-- Whether the type of a record agrees with whether its call has connected. -/
def RPRecentCallType.agrees (hasConnected : Bool) : RPRecentCallType → Bool
  | .incoming | .outgoing => hasConnected
  | .incomingIncomplete => false
  | .incomingMissed | .outgoingIncomplete | .incomingMissedBecauseOfChangedIdentity
  | .incomingDeclined | .outgoingMissed => !hasConnected

namespace CallService

variable {s t s' : CallService} {callData : SignalCallData} {call other client : ℕ}
  {state : CallState} {error : CallError} {callType : RPRecentCallType} {event : Event}
  {events : List Event} {a : SignalCall} {contact : String} {callId : UInt64}

/-! ## The log -/

/-- A call has a record, and its type agrees with the call. -/
def Recorded (s : CallService) (call : ℕ) : Prop :=
  ∃ callType, s.typeOf call = some callType ∧
    callType.agrees (s.calls call).hasConnected = true

/-- An incoming call that waits for an answer here has no record. -/
structure Ringing (s : CallService) (call : ℕ) : Prop where
  typeOf : s.typeOf call = none
  direction : (s.calls call).direction = .incoming
  state : (s.calls call).state = .answering ∨ (s.calls call).state = .localRinging

/-- A call under way rings here, or is recorded as incomplete or as connected. -/
def Ongoing (s : CallService) (call : ℕ) : Prop :=
  s.Ringing call ∨
    ((s.calls call).hasConnected = false ∧ s.typeOf call = some .outgoingIncomplete) ∨
    ((s.calls call).hasConnected = true ∧
      (s.typeOf call = some .incoming ∨ s.typeOf call = some .outgoing))

theorem Ongoing.recorded (h : s.Ongoing call) (hsome : s.typeOf call ≠ none) :
    s.Recorded call := by
  rcases h with hringing | ⟨hnever, htype⟩ | ⟨hconnected, htype | htype⟩
  · exact absurd hringing.typeOf hsome
  · exact ⟨_, htype, by rw [hnever]; rfl⟩
  · exact ⟨_, htype, by rw [hconnected]; rfl⟩
  · exact ⟨_, htype, by rw [hconnected]; rfl⟩

/-- Whether a call is under way is a matter of its record and of itself. -/
theorem Ongoing.of_eq (h : s.Ongoing call) (htype : s'.typeOf call = s.typeOf call)
    (hdirection : (s'.calls call).direction = (s.calls call).direction)
    (hstate : (s'.calls call).state = (s.calls call).state)
    (hconnected : (s'.calls call).hasConnected = (s.calls call).hasConnected) :
    s'.Ongoing call := by
  rw [Ongoing, htype, hconnected]
  exact h.imp_left fun hringing => ⟨htype.trans hringing.typeOf,
    hdirection.trans hringing.direction, by rw [hstate]; exact hringing.state⟩

/-- The log of calls. -/
structure Logged (s : CallService) : Prop where
  linked : s.Linked
  ended : ∀ call < s.callCount, s.call ≠ some call → s.Recorded call
  ongoing : ∀ call, s.call = some call → s.Ongoing call
  current : ∀ call, s.call = some call → (s.calls call).state.isTerminated = false

/-- All that is known of a state between two steps. -/
structure Ready (s : CallService) : Prop where
  coherent : s.Coherent
  sound : ∀ call < s.callCount, (s.calls call).Sound
  logged : s.Logged

/-- What a step comes to: the log is kept, and a current call that is gone has ended. -/
structure Outcome (s s' : CallService) : Prop where
  logged : s'.Logged
  cleared : ∀ call, s.call = some call → s'.call ≠ some call →
    (s'.calls call).state.isTerminated = true

/-! ## One call and its record -/

/-- Nothing but one call and its record changes. -/
structure Touches (call : ℕ) (s s' : CallService) : Prop where
  linked : s'.Linked
  callCount : s'.callCount = s.callCount
  calls : ∀ other, other ≠ call → s'.calls other = s.calls other
  typeOf : ∀ other < s.callCount, other ≠ call → s'.typeOf other = s.typeOf other

theorem Touches.trans (h : Touches call s t) (h' : Touches call t s') : Touches call s s' where
  linked := h'.linked
  callCount := h'.callCount.trans h.callCount
  calls other hne := (h'.calls other hne).trans (h.calls other hne)
  typeOf other hlt hne :=
    (h'.typeOf other (h.callCount ▸ hlt) hne).trans (h.typeOf other hlt hne)

theorem Linked.of_same (h : s.Linked) (hcalls : s'.calls = s.calls)
    (hrecords : s'.callRecords = s.callRecords) (hcount : s'.callCount = s.callCount) :
    s'.Linked :=
  h.of_eq (by funext record; rw [CallService.owner, hrecords, CallService.owner])
    (fun _ => by rw [hcalls]) hcount

theorem typeOf_of_same (hcalls : s'.calls = s.calls) (hrecords : s'.callRecords = s.callRecords) :
    s'.typeOf call = s.typeOf call :=
  typeOf_congr (by rw [hcalls]) hrecords

/-- No call and no record changes. -/
theorem Touches.of_same (h : s.Linked) (hcalls : s'.calls = s.calls)
    (hrecords : s'.callRecords = s.callRecords) (hcount : s'.callCount = s.callCount) :
    Touches call s s' where
  linked := h.of_same hcalls hrecords hcount
  callCount := hcount
  calls other _ := by rw [hcalls]
  typeOf _ _ _ := typeOf_of_same hcalls hrecords

section

variable (h : s.Linked) (hlt : call < s.callCount)
include h hlt

theorem Linked.touches_setState : Touches call s (s.setState call state) where
  linked := h.setState
  callCount := callCount_setState
  calls other hne := by rw [calls_setState, Function.update_of_ne hne]
  typeOf _ hlt' hne := h.typeOf_setState_of_ne hlt hlt' hne

theorem Linked.touches_saveCallRecord (hnone : (s.calls call).callRecord = none) :
    Touches call s (s.saveCallRecord call callType) where
  linked := h.saveCallRecord hlt hnone
  callCount := callCount_of_rest rest_saveCallRecord
  calls other hne := by rw [calls_saveCallRecord, Function.update_of_ne hne]
  typeOf _ hlt' hne := h.typeOf_saveCallRecord_of_ne hlt hlt' hne hnone

theorem Linked.touches_updateCallType {record : ℕ}
    (hrecord : (s.calls call).callRecord = some record) :
    Touches call s (s.updateCallType record callType) where
  linked := h.updateCallType
  callCount := rfl
  calls _ _ := rfl
  typeOf _ hlt' hne := h.typeOf_updateCallType_of_ne hlt hlt' hne hrecord

theorem Linked.touches_handleMissedCall : Touches call s (s.handleMissedCall call) where
  linked := h.handleMissedCall hlt
  callCount := callCount_of_rest rest_handleMissedCall
  calls other hne := by rw [calls_handleMissedCall, Function.update_of_ne hne]
  typeOf _ hlt' hne := h.typeOf_handleMissedCall_of_ne hlt hlt' hne

theorem Linked.touches_failed : Touches call s (s.failed call error) where
  linked := h.failed hlt
  callCount := callCount_of_rest rest_failed
  calls _ hne := calls_failed_of_ne hne
  typeOf _ hlt' hne := h.typeOf_failed_of_ne hlt hlt' hne

theorem Linked.touches_updateHungUpCallRecord :
    Touches call s (s.updateHungUpCallRecord call) := by
  rw [updateHungUpCallRecord]
  split
  · exact .of_same h rfl rfl rfl
  · next record hrecord =>
      split
      · exact h.touches_updateCallType hlt hrecord
      · exact .of_same h rfl rfl rfl

end

/-! ## What a step comes to -/

theorem Recorded.of_touches (h : s.Recorded other) (ht : Touches call s s')
    (hlt : other < s.callCount) (hne : other ≠ call) : s'.Recorded other := by
  rw [Recorded, ht.typeOf other hlt hne, ht.calls other hne]
  exact h

theorem Ongoing.of_touches (h : s.Ongoing other) (ht : Touches call s s')
    (hlt : other < s.callCount) (hne : other ≠ call) : s'.Ongoing other := by
  have hcall := ht.calls other hne
  exact h.of_eq (ht.typeOf other hlt hne) (by rw [hcall]) (by rw [hcall]) (by rw [hcall])

/-- The current call ends, with a record and in a terminal state. -/
theorem Ready.outcome_of_end (h : s.Ready) (hcall : s.call = some call) (ht : Touches call s t)
    (hrecorded : t.Recorded call) (hterminated : (t.calls call).state.isTerminated = true) :
    Outcome s t.terminateCall := by
  have htouches : Touches call s t.terminateCall :=
    ht.trans (.of_same ht.linked calls_terminateCall callRecords_terminateCall
      callCount_terminateCall)
  have hnone : t.terminateCall.call = none := by
    rw [CallService.call, callData_terminateCall, Option.map_none]
  have hno : ∀ other, t.terminateCall.call ≠ some other := by simp [hnone]
  refine ⟨⟨htouches.linked, fun other hlt _ => ?_, fun other hother => absurd hother (hno other),
    fun other hother => absurd hother (hno other)⟩, fun other hother _ => ?_⟩
  · by_cases heq : other = call
    · rw [heq, Recorded, typeOf_of_same calls_terminateCall callRecords_terminateCall,
        calls_terminateCall]
      exact hrecorded
    · rw [htouches.callCount] at hlt
      refine Recorded.of_touches (h.logged.ended other hlt fun hother => heq ?_) htouches hlt heq
      exact Option.some.inj (hother.symm.trans hcall)
  · rw [Option.some.inj (hother.symm.trans hcall), calls_terminateCall]
    exact hterminated

/-- The current call goes on. -/
theorem Ready.outcome_of_current (h : s.Ready) (hcall : s.call = some call)
    (ht : Touches call s s') (hcall' : s'.call = s.call) (hongoing : s'.Ongoing call)
    (hterminated : (s'.calls call).state.isTerminated = false) : Outcome s s' := by
  refine ⟨⟨ht.linked, fun other hlt hne => ?_, fun other hother => ?_, fun other hother => ?_⟩,
    fun other hother hgone => absurd (hcall'.trans hother) hgone⟩
  · rw [ht.callCount] at hlt
    rw [hcall'] at hne
    exact Recorded.of_touches (h.logged.ended other hlt hne) ht hlt fun heq => hne (heq ▸ hcall)
  · rw [hcall', hcall] at hother
    exact Option.some.inj hother ▸ hongoing
  · rw [hcall', hcall] at hother
    exact Option.some.inj hother ▸ hterminated

/-- Another call changes, and stays recorded. -/
theorem Ready.outcome_of_other (h : s.Ready) (hne : s.call ≠ some call) (ht : Touches call s s')
    (hcall' : s'.call = s.call) (hrecorded : s'.Recorded call) : Outcome s s' := by
  have hother : ∀ other, s.call = some other → other ≠ call := fun other hother heq =>
    hne (heq ▸ hother)
  refine ⟨⟨ht.linked, fun other hlt hended => ?_, fun other hcall => ?_, fun other hcall => ?_⟩,
    fun other hother hgone => absurd (hcall'.trans hother) hgone⟩
  · by_cases heq : other = call
    · exact heq ▸ hrecorded
    · rw [ht.callCount] at hlt
      rw [hcall'] at hended
      exact Recorded.of_touches (h.logged.ended other hlt hended) ht hlt heq
  · rw [hcall'] at hcall
    exact Ongoing.of_touches (h.logged.ongoing other hcall) ht (h.coherent.current other hcall)
      (hother other hcall)
  · rw [hcall'] at hcall
    rw [ht.calls other (hother other hcall)]
    exact h.logged.current other hcall

/-- No call and no record changes. -/
theorem Logged.of_same (h : s.Logged) (hcalls : s'.calls = s.calls)
    (hrecords : s'.callRecords = s.callRecords) (hcount : s'.callCount = s.callCount)
    (hcall : s'.call = s.call) : s'.Logged := by
  have htype : ∀ call, s'.typeOf call = s.typeOf call := fun _ => typeOf_of_same hcalls hrecords
  refine ⟨h.linked.of_same hcalls hrecords hcount, fun call hlt hne => ?_,
    fun call hcurrent => ?_, fun call hcurrent => ?_⟩
  · rw [Recorded, htype, hcalls]
    exact h.ended call (hcount ▸ hlt) (hcall ▸ hne)
  · exact (h.ongoing call (hcall ▸ hcurrent)).of_eq (htype call) (by rw [hcalls])
      (by rw [hcalls]) (by rw [hcalls])
  · rw [hcalls]
    exact h.current call (hcall ▸ hcurrent)

/-- Nothing about calls changes after a step. -/
theorem Outcome.of_same (h : Outcome s t) (hcalls : s'.calls = t.calls)
    (hrecords : s'.callRecords = t.callRecords) (hcount : s'.callCount = t.callCount)
    (hcall : s'.call = t.call) : Outcome s s' where
  logged := h.logged.of_same hcalls hrecords hcount hcall
  cleared call hcurrent hgone := by
    rw [hcalls]
    exact h.cleared call hcurrent (hcall ▸ hgone)

theorem Ready.outcome_of_same (h : s.Ready) (hcalls : s'.calls = s.calls)
    (hrecords : s'.callRecords = s.callRecords) (hcount : s'.callCount = s.callCount)
    (hcall : s'.call = s.call) : Outcome s s' where
  logged := h.logged.of_same hcalls hrecords hcount hcall
  cleared _ hcurrent hgone := absurd (hcall.trans hcurrent) hgone

/-! ## Calls that end -/

theorem Recorded.setState (h : s.Recorded call) (hlinked : s.Linked) (hlt : call < s.callCount)
    (hstate : state ≠ .connected) : (s.setState call state).Recorded call := by
  obtain ⟨callType, htype, hagrees⟩ := h
  refine ⟨callType, by rw [hlinked.typeOf_setState hlt, if_neg hstate, htype], ?_⟩
  rw [calls_setState, Function.update_self, SignalCall.withState, decide_eq_false hstate,
    Bool.or_false]
  exact hagrees

/-- A call that has not connected is missed. -/
theorem recorded_handleMissedCall (hlinked : s.Linked) (hlt : call < s.callCount)
    (hnever : (s.calls call).hasConnected = false)
    (hor : s.Recorded call ∨ s.typeOf call = none) : (s.handleMissedCall call).Recorded call := by
  refine ⟨_, hlinked.typeOf_handleMissedCall hlt, ?_⟩
  rw [calls_handleMissedCall, Function.update_self]
  change (RPRecentCallType.missed (s.typeOf call)).agrees (s.calls call).hasConnected = true
  rw [hnever]
  rcases hor with ⟨callType, htype, hagrees⟩ | hnone
  · rw [hnever] at hagrees
    rw [htype]
    cases callType <;> first | rfl | exact nomatch hagrees
  · rw [hnone]
    rfl

/-- A call that fails is recorded, and if it was still ringing, as missed. -/
theorem recorded_failed (hlinked : s.Linked) (hlt : call < s.callCount)
    (hsound : (s.calls call).Sound) (hor : s.Recorded call ∨ s.Ringing call) :
    (s.failed call error).Recorded call := by
  have hmissed : (s.handleMissedIfFailed call).Recorded call := by
    rw [handleMissedIfFailed]
    split
    · next hstate =>
        exact recorded_handleMissedCall hlinked hlt
          (hsound.never (by rw [hstate]; rfl) (by rw [hstate]; rfl)) (hor.imp_right (·.typeOf))
    · next hstate =>
        exact recorded_handleMissedCall hlinked hlt
          (hsound.never (by rw [hstate]; rfl) (by rw [hstate]; rfl)) (hor.imp_right (·.typeOf))
    · next hanswering hringing =>
        refine hor.resolve_right fun h => ?_
        exact h.state.elim hanswering hringing
  obtain ⟨callType, htype, hagrees⟩ := hmissed
  have herror : ((s.handleMissedIfFailed call).modifyCall call fun signalCall =>
      { signalCall with error := some error }).Recorded call := by
    refine ⟨callType, ?_, ?_⟩
    · rw [← htype]
      exact typeOf_modifyCall _ fun _ => rfl
    · rw [calls_modifyCall_self]
      exact hagrees
  rw [failed]
  refine herror.setState (hlinked.failing hlt) ?_ (by decide)
  change call < (s.handleMissedIfFailed call).callCount
  rwa [callCount_handleMissedIfFailed]

theorem isTerminated_state_failed :
    ((s.failed call error).calls call).state.isTerminated = true := by
  rw [failed, calls_setState, Function.update_self]
  rfl

theorem not_ringing (hstate : (s.calls call).state = state)
    (hneither : ¬(state = .answering ∨ state = .localRinging)) : ¬s.Ringing call :=
  fun hringing => hneither (hstate ▸ hringing.state)

/-- The call is recorded, or rings here. -/
theorem Ready.recorded_or_ringing (h : s.Ready) (hlt : call < s.callCount) :
    s.Recorded call ∨ s.Ringing call := by
  by_cases hcall : s.call = some call
  · have hongoing := h.logged.ongoing call hcall
    by_cases hnone : s.typeOf call = none
    · rcases hongoing with hringing | ⟨-, htype⟩ | ⟨-, htype | htype⟩
      · exact .inr hringing
      all_goals
        rw [htype] at hnone
        exact nomatch hnone
    · exact .inl (hongoing.recorded hnone)
  · exact .inl (h.logged.ended call hlt hcall)

theorem Ready.handleFailedCall (h : s.Ready) (hlt : call < s.callCount) :
    Outcome s (s.handleFailedCall (some call) error) := by
  have hlinked := h.logged.linked
  have hrecorded : (s.failed call error).Recorded call :=
    recorded_failed hlinked hlt (h.sound call hlt) (h.recorded_or_ringing hlt)
  rw [handleFailedCall_some]
  split
  · next hcall =>
      exact h.outcome_of_end hcall (hlinked.touches_failed hlt) hrecorded
        isTerminated_state_failed
  · next hne =>
      exact h.outcome_of_other hne (hlinked.touches_failed hlt)
        (call_of_callData (callData_of_rest rest_failed)) hrecorded

theorem Ready.terminateCall_of_none (h : s.Ready) (hnone : s.callData = none) :
    Outcome s s.terminateCall := by
  rw [CallService.terminateCall_of_none hnone]
  exact h.outcome_of_same rfl rfl rfl rfl

theorem Ready.remoteBusy (h : s.Ready) (hcall : s.call = some call)
    (hrecord : (s.calls call).callRecord ≠ none) :
    Outcome s (s.setState call .remoteBusy).terminateCall := by
  have hlt := h.coherent.current call hcall
  have hlinked := h.logged.linked
  have hsome : s.typeOf call ≠ none := fun hnone =>
    hrecord ((hlinked.typeOf_eq_none_iff hlt).mp hnone)
  refine h.outcome_of_end hcall (hlinked.touches_setState hlt)
    (((h.logged.ongoing call hcall).recorded hsome).setState hlinked hlt (by decide)) ?_
  rw [calls_setState, Function.update_self]
  rfl

theorem Linked.touches_handleMissedIfHungUp (h : s.Linked) (hlt : call < s.callCount) :
    Touches call s (s.handleMissedIfHungUp call) := by
  rw [handleMissedIfHungUp]
  split
  all_goals first | exact .of_same h rfl rfl rfl | exact h.touches_handleMissedCall hlt

/-- The current call is recorded when the remote party has hung up. -/
theorem Ready.recorded_handleMissedIfHungUp (h : s.Ready) (hcall : s.call = some call) :
    (s.handleMissedIfHungUp call).Recorded call := by
  have hlt := h.coherent.current call hcall
  have hor := h.recorded_or_ringing hlt
  rw [handleMissedIfHungUp]
  split
  case h_5 hconnected hreconnecting _ _ =>
    have hlive : (s.calls call).state.isLive = false :=
      Bool.eq_false_iff.mpr fun hlive =>
        (CallState.isLive_iff.mp hlive).elim hconnected hreconnecting
    exact recorded_handleMissedCall h.logged.linked hlt
      ((h.sound call hlt).never hlive (h.logged.current call hcall)) (hor.imp_right (·.typeOf))
  all_goals
    next hstate => exact hor.resolve_right (not_ringing hstate (by decide))

theorem Ready.remoteHangup (h : s.Ready) (hcall : s.call = some call) :
    Outcome s ((s.handleMissedIfHungUp call).setState call .remoteHangup).terminateCall := by
  have hlt := h.coherent.current call hcall
  have ht := @Linked.touches_handleMissedIfHungUp s call h.logged.linked hlt
  have hlt' : call < (s.handleMissedIfHungUp call).callCount := by rwa [ht.callCount]
  refine h.outcome_of_end hcall (ht.trans (ht.linked.touches_setState hlt'))
    ((h.recorded_handleMissedIfHungUp hcall).setState ht.linked hlt' (by decide)) ?_
  rw [calls_setState, Function.update_self]
  rfl

/-! ## Calls that go on -/

/-- The current call moves on to a state that is not terminal. -/
theorem Ready.outcome_setState (h : s.Ready) (hcall : s.call = some call)
    (hterminated : state.isTerminated = false)
    (hringing : s.Ringing call → state = .answering ∨ state = .localRinging)
    (hconnected : state = .connected → (s.calls call).hasConnected = true) :
    Outcome s (s.setState call state) := by
  have hlt := h.coherent.current call hcall
  have hlinked := h.logged.linked
  have hcalls : (s.setState call state).calls call = (s.calls call).withState state := by
    rw [calls_setState, Function.update_self]
  have htype := @Linked.typeOf_setState s call state hlinked hlt
  refine h.outcome_of_current hcall (hlinked.touches_setState hlt)
    (call_of_callData callData_setState) ?_ (by rw [hcalls]; exact hterminated)
  rw [Ongoing, htype, hcalls]
  rcases h.logged.ongoing call hcall with hring | ⟨hnever, htypeOf⟩ | ⟨hbefore, htypeOf⟩
  · have hstate := hringing hring
    have hne : state ≠ .connected := by rcases hstate with rfl | rfl <;> exact nofun
    refine .inl ⟨by rw [htype, if_neg hne, hring.typeOf], ?_, ?_⟩
    · rw [hcalls]
      exact hring.direction
    · rw [hcalls]
      exact hstate
  · have hne : state ≠ .connected := fun heq => by
      rw [hconnected heq] at hnever
      exact nomatch hnever
    refine .inr (.inl ⟨?_, by rw [if_neg hne, htypeOf]⟩)
    rw [SignalCall.withState, hnever, decide_eq_false hne, Bool.or_false]
  · refine .inr (.inr ⟨by rw [SignalCall.withState, hbefore, Bool.true_or], ?_⟩)
    rcases htypeOf with htypeOf | htypeOf
    · exact .inl (by rw [htypeOf]; exact ite_self _)
    · exact .inr (by rw [htypeOf]; exact ite_self _)

/-- What the user sets in the current call has nothing to do with the log. -/
theorem Ready.outcome_modifyCall (f : SignalCall → SignalCall) (h : s.Ready)
    (hcall : s.call = some call) (hf : ∀ a, (f a).callRecord = a.callRecord)
    (hdirection : ∀ a, (f a).direction = a.direction) (hstate : ∀ a, (f a).state = a.state)
    (hconnected : ∀ a, (f a).hasConnected = a.hasConnected)
    (hcalls : s'.calls = (s.modifyCall call f).calls)
    (hrecords : s'.callRecords = s.callRecords) (hrest : s'.rest = s.rest) : Outcome s s' := by
  have hlinked : (s.modifyCall call f).Linked := h.logged.linked.modifyCall f hf
  have hself : s'.calls call = f (s.calls call) := by rw [hcalls, calls_modifyCall_self]
  have htypeOf : ∀ other, s'.typeOf other = s.typeOf other := fun other =>
    (typeOf_of_same hcalls hrecords).trans (typeOf_modifyCall f hf)
  refine h.outcome_of_current hcall
    ⟨hlinked.of_same hcalls hrecords (callCount_of_rest hrest), callCount_of_rest hrest,
      fun other hne => by rw [hcalls, calls_modifyCall_of_ne hne], fun other _ _ => htypeOf other⟩
    (call_of_callData (callData_of_rest hrest)) ?_ ?_
  · exact (h.logged.ongoing call hcall).of_eq (htypeOf call) (by rw [hself, hdirection])
      (by rw [hself, hstate]) (by rw [hself, hconnected])
  · rw [hself, hstate]
    exact h.logged.current call hcall

/-- What is not about calls leaves the service ready. -/
theorem Ready.of_same (h : s.Ready) (hcoherent : s'.Coherent) (hcalls : s'.calls = s.calls)
    (hrecords : s'.callRecords = s.callRecords) (hcount : s'.callCount = s.callCount)
    (hcall : s'.call = s.call) : s'.Ready where
  coherent := hcoherent
  sound call hlt := by
    rw [hcalls]
    exact h.sound call (hcount ▸ hlt)
  logged := (h.outcome_of_same hcalls hrecords hcount hcall).logged

/-- What has been done before does not matter to how the current call ends. -/
theorem Outcome.of_call_eq (h : Outcome t s') (hcall : t.call = s.call) : Outcome s s' :=
  ⟨h.logged, fun call hcurrent => h.cleared call (hcall.trans hcurrent)⟩

/-- **What most handlers do keeps the log.** -/
theorem Ready.ordinary (h : s.Ready) (hordinary : Ordinary s s') : Outcome s s' := by
  cases hordinary with
  | quiet hquiet =>
      exact h.outcome_of_same hquiet.calls hquiet.callRecords hquiet.callCount hquiet.call_eq
  | failed before hlt after =>
      have hbefore := h.of_same (h.coherent.minor before.minor) before.calls before.callRecords
        before.callCount before.call_eq
      exact ((hbefore.handleFailedCall (before.callCount ▸ hlt)).of_same after.calls
        after.callRecords after.callCount after.call_eq).of_call_eq before.call_eq
  | @advanced call state hcall hadvances =>
      refine h.outcome_setState hcall hadvances.isTerminated.2 (fun hringing => ?_) fun hstate => ?_
      · generalize hbefore : (s.calls call).state = before at hadvances
        cases hadvances with
        | localRinging => exact .inr rfl
        | _ => exact absurd hringing (not_ringing hbefore (by decide))
      · subst hstate
        exact (h.sound call (h.coherent.current call hcall)).live hadvances.isLive.symm
  | hungUp hcall => exact h.remoteHangup hcall
  | video hasLocalVideo hcall =>
      exact h.outcome_modifyCall (fun a => { a with hasLocalVideo }) hcall (fun _ => rfl)
        (fun _ => rfl) (fun _ => rfl) (fun _ => rfl) calls_updateIsVideoEnabled
        callRecords_updateIsVideoEnabled rest_updateIsVideoEnabled

/-! ### The user hangs up or declines -/

theorem Recorded.updateHungUpCallRecord (h : s.Recorded call) (hlinked : s.Linked)
    (hlt : call < s.callCount) : (s.updateHungUpCallRecord call).Recorded call := by
  obtain ⟨callType, htype, hagrees⟩ := h
  rw [CallService.updateHungUpCallRecord]
  split
  · exact ⟨callType, htype, hagrees⟩
  · next record hrecord =>
      split
      · next hincomplete =>
          rw [typeOf_of_some hrecord, hincomplete] at htype
          obtain rfl := Option.some.inj htype
          exact ⟨_, hlinked.typeOf_updateCallType hlt hrecord, hagrees⟩
      · exact ⟨callType, htype, hagrees⟩

/-- The user hangs up the current call, once it has a record. -/
theorem Ready.outcome_of_hangUp (h : s.Ready) (hcall : s.call = some call)
    (ht : Touches call s t) (hdata : t.callData = s.callData) (hrecorded : t.Recorded call) :
    Outcome s (t.handleLocalHungupCall call) := by
  have hlt : call < t.callCount := by
    rw [ht.callCount]
    exact h.coherent.current call hcall
  have hstate : Touches call t (t.setState call .localHangup) := ht.linked.touches_setState hlt
  have hlt' : call < (t.setState call .localHangup).callCount := by rwa [callCount_setState]
  have hhungUp := hstate.linked.touches_updateHungUpCallRecord hlt'
  have hended : (t.setState call .localHangup).Recorded call :=
    hrecorded.setState ht.linked hlt nofun
  have hends := hended.updateHungUpCallRecord hstate.linked hlt'
  have hterminated : (((t.setState call .localHangup).updateHungUpCallRecord
      call).calls call).state.isTerminated = true := by
    rw [calls_updateHungUpCallRecord, calls_setState, Function.update_self]
    rfl
  have htouches := (ht.trans hstate).trans hhungUp
  obtain ⟨callData, hsome, rfl⟩ := Option.map_eq_some_iff.mp hcall
  rw [handleLocalHungupCall, hdata, hsome]
  dsimp only
  rw [if_neg (not_not_intro rfl)]
  split
  · exact h.outcome_of_end hcall htouches hends hterminated
  · next client _ =>
      have hensured : Touches callData.call
          ((t.setState callData.call .localHangup).updateHungUpCallRecord callData.call)
          (((t.setState callData.call .localHangup).updateHungUpCallRecord
            callData.call).ensureAudioState callData.call client) :=
        .of_same htouches.linked rfl rfl rfl
      refine h.outcome_of_end hcall (htouches.trans hensured) ?_ ?_
      · rw [Recorded, typeOf_of_same calls_ensureAudioState callRecords_ensureAudioState,
          calls_ensureAudioState]
        exact hends
      · rw [calls_ensureAudioState]
        exact hterminated

theorem Ready.handleLocalHungupCall (h : s.Ready) (hcall : s.call = some call)
    (hrecord : (s.calls call).callRecord ≠ none) : Outcome s (s.handleLocalHungupCall call) := by
  have hsome : s.typeOf call ≠ none := fun hnone =>
    hrecord ((h.logged.linked.typeOf_eq_none_iff (h.coherent.current call hcall)).mp hnone)
  exact h.outcome_of_hangUp hcall (.of_same h.logged.linked rfl rfl rfl) rfl
    ((h.logged.ongoing call hcall).recorded hsome)

theorem Ready.handleDeclineCall (h : s.Ready) (hlt : call < s.callCount)
    (hnever : (s.calls call).hasConnected = false) :
    Outcome s (s.handleDeclineCall call) := by
  have hlinked := h.logged.linked
  rw [CallService.handleDeclineCall]
  cases hrecord : (s.calls call).callRecord with
  | none =>
      have hnone := (hlinked.typeOf_eq_none_iff hlt).mpr hrecord
      have hcall : s.call = some call := by
        by_contra hne
        obtain ⟨callType, htype, -⟩ := h.logged.ended call hlt hne
        rw [hnone] at htype
        cases htype
      refine h.outcome_of_hangUp hcall (hlinked.touches_saveCallRecord hlt hrecord)
        callData_saveCallRecord ⟨.incomingDeclined, ?_, ?_⟩
      · rw [hlinked.typeOf_saveCallRecord hlt hrecord]
        split <;> rfl
      · rw [calls_saveCallRecord, Function.update_self]
        change RPRecentCallType.incomingDeclined.agrees (s.calls call).hasConnected = true
        rw [hnever]
        rfl
  | some record =>
      have htouches := @Linked.touches_updateCallType s call .incomingDeclined hlinked hlt record
        hrecord
      have hdeclined : (s.updateCallType record .incomingDeclined).Recorded call := by
        refine ⟨_, hlinked.typeOf_updateCallType hlt hrecord, ?_⟩
        change RPRecentCallType.incomingDeclined.agrees (s.calls call).hasConnected = true
        rw [hnever]
        rfl
      by_cases hcall : s.call = some call
      · exact h.outcome_of_hangUp hcall htouches rfl hdeclined
      · have hready : (s.updateCallType record .incomingDeclined).Ready :=
          ⟨h.coherent.minor (.of_rest rfl fun _ => rfl), h.sound,
            (h.outcome_of_other hcall htouches rfl hdeclined).logged⟩
        exact (hready.ordinary (ordinary_handleLocalHungupCall hlt hcall)).of_call_eq rfl

/-! ### Calls that connect -/

/-- What connecting makes of the call and its record. -/
theorem touches_handleConnectedCall (hlinked : s.Linked) (hlt : callData.call < s.callCount)
    (hclient : callData.peerConnectionClient.isSome) :
    Touches callData.call s (s.handleConnectedCall callData) ∧
      (s.handleConnectedCall callData).typeOf callData.call =
        (s.typeOf callData.call).map RPRecentCallType.completed := by
  obtain ⟨client, hclient⟩ := Option.isSome_iff_exists.mp hclient
  rw [handleConnectedCall, hclient]
  dsimp only
  have hfulfilled : Touches callData.call s (s.fulfillCallConnected callData) :=
    .of_same hlinked calls_fulfillCallConnected callRecords_fulfillCallConnected
      callCount_fulfillCallConnected
  have hlt' : callData.call < (s.fulfillCallConnected callData).callCount := by
    rwa [callCount_fulfillCallConnected]
  have hstate : Touches callData.call (s.fulfillCallConnected callData)
      ((s.fulfillCallConnected callData).setState callData.call .connected) :=
    hfulfilled.linked.touches_setState hlt'
  refine ⟨(hfulfilled.trans hstate).trans (.of_same hstate.linked rfl rfl rfl), ?_⟩
  have hsame : ∀ t' : CallService, t'.calls = ((s.fulfillCallConnected callData).setState
      callData.call .connected).calls → t'.callRecords = ((s.fulfillCallConnected
        callData).setState callData.call .connected).callRecords →
      t'.typeOf callData.call = (s.typeOf callData.call).map RPRecentCallType.completed := by
    intro t' hcalls hrecords
    rw [typeOf_of_same hcalls hrecords, hfulfilled.linked.typeOf_setState hlt', if_pos rfl,
      typeOf_of_same calls_fulfillCallConnected callRecords_fulfillCallConnected]
  exact hsame _ rfl rfl

theorem call_handleConnectedCall (hdata : s.callData = some callData)
    (hclient : callData.peerConnectionClient.isSome) :
    (s.handleConnectedCall callData).call = s.call := by
  obtain ⟨client, hclient⟩ := Option.isSome_iff_exists.mp hclient
  rw [handleConnectedCall, hclient, CallService.call]
  dsimp only
  rw [callData_of_rest rest_setLocalVideoEnabled, callData_of_rest rest_ensureAudioState,
    callData_setState, callData_fulfillCallConnected, CallService.call, hdata]
  rfl

/-- A call whose record is completed when it connects goes on. -/
theorem Ready.outcome_connected (h : s.Ready) (hcall : s.call = some callData.call)
    (ht : Touches callData.call s t) (hdata : t.callData = some callData)
    (hclient : callData.peerConnectionClient.isSome)
    (htype : (t.typeOf callData.call).map RPRecentCallType.completed = some .incoming ∨
      (t.typeOf callData.call).map RPRecentCallType.completed = some .outgoing) :
    Outcome s (t.handleConnectedCall callData) := by
  have hlt : callData.call < t.callCount := by
    rw [ht.callCount]
    exact h.coherent.current _ hcall
  obtain ⟨htouches, hcompleted⟩ := touches_handleConnectedCall ht.linked hlt hclient
  have hcalls : (t.handleConnectedCall callData).calls callData.call =
      (t.calls callData.call).withState .connected := by
    rw [calls_handleConnectedCall hclient, Function.update_self]
  refine h.outcome_of_current hcall (ht.trans htouches) ?_ (.inr (.inr ⟨?_, ?_⟩)) ?_
  · rw [call_handleConnectedCall hdata hclient, hcall, call_of_some hdata]
  · rw [hcalls]
    exact Bool.or_true _
  · rwa [hcompleted]
  · rw [hcalls]
    rfl

theorem Ready.connected (h : s.Ready) (hdata : s.callData = some callData)
    (hclient : callData.peerConnectionClient.isSome)
    (hrecord : (s.calls callData.call).callRecord ≠ none) :
    Outcome s (s.handleConnectedCall callData) := by
  have hcall := call_of_some hdata
  refine h.outcome_connected hcall (.of_same h.logged.linked rfl rfl rfl) hdata hclient ?_
  have hsome : s.typeOf callData.call ≠ none := fun hnone =>
    hrecord ((h.logged.linked.typeOf_eq_none_iff (h.coherent.current _ hcall)).mp hnone)
  rcases h.logged.ongoing _ hcall with hringing | ⟨-, htype⟩ | ⟨-, htype | htype⟩
  · exact absurd hringing.typeOf hsome
  · exact .inr (by rw [htype]; rfl)
  · exact .inl (by rw [htype]; rfl)
  · exact .inr (by rw [htype]; rfl)

theorem Ready.answered (h : s.Ready) (hdata : s.callData = some callData)
    (hclient : callData.peerConnectionClient.isSome)
    (hnone : (s.calls callData.call).callRecord = none) :
    Outcome s ((s.saveCallRecord callData.call .incomingIncomplete).handleConnectedCall
      callData) := by
  have hcall := call_of_some hdata
  have hlt := h.coherent.current _ hcall
  have hlinked := h.logged.linked
  refine h.outcome_connected hcall (hlinked.touches_saveCallRecord hlt hnone)
    (callData_saveCallRecord.trans hdata) hclient (.inl ?_)
  rw [hlinked.typeOf_saveCallRecord hlt hnone]
  split <;> rfl

/-! ### Options -/

theorem Ready.setAudioOption {f : SignalCall → SignalCall} (h : s.Ready)
    (hf : ∀ a, (f a).callRecord = a.callRecord) (hdirection : ∀ a, (f a).direction = a.direction)
    (hstate : ∀ a, (f a).state = a.state)
    (hconnected : ∀ a, (f a).hasConnected = a.hasConnected) :
    Outcome s (s.setAudioOption call f) := by
  rw [CallService.setAudioOption]
  split
  · exact h.outcome_of_same rfl rfl rfl rfl
  · next hcall =>
      rw [not_not] at hcall
      split
      · exact h.outcome_modifyCall f hcall hf hdirection hstate hconnected rfl rfl rfl
      · exact h.outcome_modifyCall f hcall hf hdirection hstate hconnected rfl rfl rfl

/-! ## New calls -/

theorem Linked.created {a : SignalCall} (h : s.Linked) (hnone : a.callRecord = none) :
    (s.created a).Linked where
  owner call hlt record := by
    rcases Nat.lt_succ_iff_lt_or_eq.mp hlt with hearlier | rfl
    · rw [calls_created_of_lt hearlier]
      exact h.owner call hearlier record
    · rw [calls_created, hnone]
      exact iff_of_false nofun fun howner => Nat.lt_irrefl _ (h.known record _ howner)
  known record call howner := Nat.lt_succ_of_lt (h.known record call howner)

theorem typeOf_created_of_lt (hlt : other < s.callCount) :
    (s.created a).typeOf other = s.typeOf other :=
  typeOf_congr (by rw [calls_created_of_lt hlt]) rfl

theorem typeOf_created (hnone : a.callRecord = none) : (s.created a).typeOf s.callCount = none := by
  rw [typeOf, calls_created, hnone, Option.bind_none]

/-- The calls there were are what they were. -/
theorem Ready.recorded_of_created (h : s.Ready) (ht : Touches s.callCount (s.created a) s')
    (hlt : other < s.callCount) (hne : s.call ≠ some other) : s'.Recorded other := by
  rw [Recorded, ht.typeOf other (Nat.lt_succ_of_lt hlt) (Nat.ne_of_lt hlt),
    ht.calls other (Nat.ne_of_lt hlt), typeOf_created_of_lt hlt, calls_created_of_lt hlt]
  exact h.logged.ended other hlt hne

/-- A new call is recorded, and the current one stays. -/
theorem Ready.logged_recorded (h : s.Ready) (ht : Touches s.callCount (s.created a) s')
    (hcall : s'.call = s.call) (hrecorded : s'.Recorded s.callCount) : s'.Logged := by
  have hcurrent : ∀ other, s.call = some other → other < s.callCount := h.coherent.current
  refine ⟨ht.linked, fun other hlt hne => ?_, fun other hother => ?_, fun other hother => ?_⟩
  · rw [ht.callCount] at hlt
    rw [hcall] at hne
    rcases Nat.lt_succ_iff_lt_or_eq.mp hlt with hearlier | rfl
    · exact h.recorded_of_created ht hearlier hne
    · exact hrecorded
  · rw [hcall] at hother
    have hlt := hcurrent other hother
    have hsame : (s.created a).calls other = s.calls other := calls_created_of_lt hlt
    have hongoing : (s.created a).Ongoing other := (h.logged.ongoing other hother).of_eq
      (typeOf_created_of_lt hlt) (by rw [hsame]) (by rw [hsame]) (by rw [hsame])
    exact hongoing.of_touches ht (Nat.lt_succ_of_lt hlt) (Nat.ne_of_lt hlt)
  · rw [hcall] at hother
    have hlt := hcurrent other hother
    rw [ht.calls other (Nat.ne_of_lt hlt), calls_created_of_lt hlt]
    exact h.logged.current other hother

/-- A new call is the current one. -/
theorem Ready.logged_current (h : s.Ready) (hnone : s.call = none)
    (ht : Touches s.callCount (s.created a) s') (hcall : s'.call = some s.callCount)
    (hongoing : s'.Ongoing s.callCount)
    (hterminated : (s'.calls s.callCount).state.isTerminated = false) : s'.Logged := by
  refine ⟨ht.linked, fun other hlt hne => ?_, fun other hother => ?_, fun other hother => ?_⟩
  · rw [ht.callCount] at hlt
    rcases Nat.lt_succ_iff_lt_or_eq.mp hlt with hearlier | rfl
    · exact h.recorded_of_created ht hearlier (by rw [hnone]; exact nofun)
    · exact absurd hcall hne
  · rw [hcall] at hother
    exact Option.some.inj hother ▸ hongoing
  · rw [hcall] at hother
    exact Option.some.inj hother ▸ hterminated

/-- Without a current call there is none to end. -/
theorem Outcome.of_none (hlogged : s'.Logged) (hnone : s.call = none) : Outcome s s' :=
  ⟨hlogged, fun call hcall => absurd hcall (by rw [hnone]; exact nofun)⟩

theorem Ready.touches_opened (h : s.Ready) (hnone : a.callRecord = none) :
    Touches s.callCount (s.created a) (s.opened a) :=
  .of_same (h.logged.linked.created hnone) rfl rfl rfl

theorem Ready.dialed (h : s.Ready) (hcall : s.call = none) (hnone : a.callRecord = none)
    (hstate : a.state = .dialing) (hnever : a.hasConnected = false) :
    Outcome s (((s.opened a).saveCallRecord s.callCount .outgoingIncomplete).wait s.callCount
      (some .iceServers)) := by
  have hopened := h.touches_opened hnone
  have hlt : s.callCount < (s.opened a).callCount := Nat.lt_succ_self _
  have hself : (s.opened a).calls s.callCount = a := calls_created
  have hnone' : ((s.opened a).calls s.callCount).callRecord = none := by rw [hself, hnone]
  have hsaved := @Linked.touches_saveCallRecord (s.opened a) s.callCount .outgoingIncomplete
    hopened.linked hlt hnone'
  have hcalls : ((s.opened a).saveCallRecord s.callCount .outgoingIncomplete).calls
      s.callCount = { a with callRecord := some s.callRecords.length } := by
    rw [calls_saveCallRecord, Function.update_self, hself]
    rfl
  have htype := @Linked.typeOf_saveCallRecord (s.opened a) s.callCount .outgoingIncomplete
    hopened.linked hlt hnone'
  rw [hself, hstate] at htype
  refine .of_none (h.logged_current hcall ((hopened.trans hsaved).trans
    (.of_same hsaved.linked rfl rfl rfl)) ?_ (.inr (.inl ⟨?_, ?_⟩)) ?_) hcall
  · exact call_of_callData callData_saveCallRecord
  · exact (congrArg SignalCall.hasConnected hcalls).trans hnever
  · exact (typeOf_of_same rfl rfl).trans htype
  · exact (congrArg (·.state.isTerminated) hcalls).trans (congrArg CallState.isTerminated hstate)

/-- An offer while no call is current rings. -/
theorem Ready.outcome_ringing {tasks : List ℕ} (h : s.Ready) (hcall : s.call = none) :
    Outcome s ({ s.opened (.incomingCall contact callId) with
      backgroundTasks := tasks }.wait s.callCount (some .iceServers)) := by
  have hself : (s.opened (.incomingCall contact callId)).calls s.callCount =
      .incomingCall contact callId := calls_created
  have hopened : Touches s.callCount (s.created (.incomingCall contact callId))
      ({ s.opened (.incomingCall contact callId) with
        backgroundTasks := tasks }.wait s.callCount (some .iceServers)) :=
    .of_same (h.logged.linked.created rfl) rfl rfl rfl
  have htype : (s.created (.incomingCall contact callId)).typeOf s.callCount = none :=
    typeOf_created rfl
  refine .of_none (h.logged_current hcall hopened rfl (.inl ⟨?_, ?_, .inl ?_⟩) ?_) hcall
  · exact (typeOf_of_same rfl rfl).trans htype
  · exact congrArg SignalCall.direction hself
  · exact congrArg SignalCall.state hself
  · exact congrArg (·.state.isTerminated) hself

/-- An offer from somebody whose identity has changed is recorded as missed for that. -/
theorem Ready.outcome_untrusted (h : s.Ready) (hcall : s.call = none) :
    Outcome s ((s.created (.incomingCall contact callId)).saveCallRecord s.callCount
      .incomingMissedBecauseOfChangedIdentity).terminateCall := by
  have hcreated : (s.created (.incomingCall contact callId)).Linked :=
    h.logged.linked.created rfl
  have hlt : s.callCount < (s.created (.incomingCall contact callId)).callCount :=
    Nat.lt_succ_self _
  have hself : (s.created (.incomingCall contact callId)).calls s.callCount =
      .incomingCall contact callId := calls_created
  have hnone : ((s.created (.incomingCall contact callId)).calls s.callCount).callRecord =
      none := by
    rw [hself]
    rfl
  have hdata : ((s.created (.incomingCall contact callId)).saveCallRecord s.callCount
      .incomingMissedBecauseOfChangedIdentity).callData = none :=
    callData_saveCallRecord.trans (callData_of_call_none hcall)
  rw [CallService.terminateCall_of_none hdata]
  refine .of_none (h.logged_recorded (hcreated.touches_saveCallRecord hlt hnone) ?_
    ⟨.incomingMissedBecauseOfChangedIdentity, ?_, ?_⟩) hcall
  · exact call_of_callData callData_saveCallRecord
  · rw [hcreated.typeOf_saveCallRecord hlt hnone, hself]
    rfl
  · rw [calls_saveCallRecord, Function.update_self, hself]
    rfl

theorem Ready.missed (h : s.Ready) : (s.missed contact callId).Ready := by
  have hcreated : (s.created (.incomingCall contact callId)).Linked :=
    h.logged.linked.created rfl
  have hlt : s.callCount < (s.created (.incomingCall contact callId)).callCount :=
    Nat.lt_succ_self _
  have hself : (s.created (.incomingCall contact callId)).calls s.callCount =
      .incomingCall contact callId := calls_created
  refine ⟨h.coherent.missed, (callRule_sound.missed).all (fun _ => sound_of_isNew) h.sound,
    h.logged_recorded (hcreated.touches_handleMissedCall hlt) call_missed
      (recorded_handleMissedCall hcreated hlt ?_ (.inr (typeOf_created rfl)))⟩
  rw [hself]
  rfl

/-- A call that is dialed or rings elsewhere is an outgoing one, and has its record. -/
theorem Ready.callRecord_ne_none (h : s.Ready) (hcall : s.call = some call)
    (hstate : (s.calls call).state = .idle ∨ (s.calls call).state = .dialing ∨
      (s.calls call).state = .remoteRinging) : (s.calls call).callRecord ≠ none := by
  have hlt := h.coherent.current call hcall
  have hsound := h.sound call hlt
  intro hnone
  rcases h.recorded_or_ringing hlt with ⟨_, htype, -⟩ | hringing
  · rw [(h.logged.linked.typeOf_eq_none_iff hlt).mpr hnone] at htype
    exact nomatch htype
  · rcases hstate with hidle | hdialing | hremote
    · exact hsound.notIdle hidle
    · exact (hsound.incoming hringing.direction).1 hdialing
    · exact (hsound.incoming hringing.direction).2 hremote

/-! ## What happens -/

/-- An event that ends the current call without a terminal state, or makes, forgets or spoils the
record of a call. -/
def Loses (s : CallService) : Event → Prop
  -- `terminateCall`, whatever the state of the current call.
  | .createCallUIAdapter => s.call ≠ none
  | .receivedOffer contact _ isUntrusted => ∃ call, s.call = some call ∧
      (isUntrusted = true ∨ (s.calls call).remotePhoneNumber = contact ∧
        (s.calls call).state ≠ .idle ∧ (s.calls call).state ≠ .dialing ∧
          (s.calls call).state ≠ .remoteRinging)
  -- The call that cannot be made has no record yet.
  | .outgoingCall .. => s.call ≠ none
  -- Nor has the one that ends while it rings here.
  | .localHangup call => s.call = some call ∧ (s.calls call).callRecord = none
  | .receivedBusy contact callId => ∃ call, s.call = some call ∧
      (s.calls call).signalingId = callId ∧ contact = (s.calls call).remotePhoneNumber ∧
        (s.calls call).callRecord = none
  -- Or the one that connects without having been answered.
  | .clientEvent _ (.receivedDataChannelMessage message) => ∃ callData,
      s.callData = some callData ∧ message.connected = some (s.calls callData.call).signalingId ∧
        (s.calls callData.call).callRecord = none
  -- Another record is saved.
  | .answerCall call | .answerLocalId call => ∃ callData, s.callData = some callData ∧
      callData.call = call ∧ callData.peerConnectionClient.isSome ∧
        (s.calls call).callRecord ≠ none
  -- The record of a call that has connected becomes that of a declined one.
  | .declineCall call => (s.calls call).hasConnected = true
  | .declineLocalId localId => s.call = some localId ∧ (s.calls localId).hasConnected = true
  -- No handler is called for the call that rings here, and it rings on.
  | .promiseSettled call _ .cancelled => s.call = some call ∧
      (s.calls call).direction = .incoming ∧ (s.calls call).hasConnected = false
  | _ => False

theorem Ready.fulfilled {promise : CallPromise} (h : s.Ready)
    (hfulfilled : Fulfilled s call promise s') : Outcome s s' := by
  cases hfulfilled with
  | rejected error => exact h.outcome_of_same rfl rfl rfl rfl
  | client hpromise hdata hcall =>
      exact h.outcome_of_same rfl rfl rfl (call_of_some hdata).symm
  | waits hnext before =>
      exact h.outcome_of_same before.calls before.callRecords before.callCount before.call_eq
  | raced before hdata hcall hconnected =>
      exact h.outcome_of_same before.calls before.callRecords before.callCount before.call_eq
  | connected hpromise hquiet => exact h.ordinary (.quiet hquiet)

theorem Ready.settle {promise : CallPromise} {settlement : Settlement} (h : s.Ready) :
    Outcome s (s.settle call promise settlement) := by
  cases settlement with
  | fulfilled | rejected error => exact h.outcome_of_same rfl rfl rfl rfl
  | cancelled =>
      rw [CallService.settle]
      split
      · exact h.outcome_of_same rfl rfl rfl rfl
      · exact h.outcome_of_same rfl rfl rfl rfl

/-- **A step that does not lose the log keeps it.** -/
theorem Ready.outcome (h : s.Ready) (hstep : Step s event s') (hkeeps : ¬ s.Loses event) :
    Outcome s s' := by
  have hpop : ∀ {block}, s.mainQueue.head? = some block → s.popped.Ready := fun hhead =>
    h.of_same (h.coherent.pop hhead) rfl rfl rfl rfl
  cases effect_of_step h.coherent.current h.coherent.known hstep with
  | ordinary hevent hordinary => exact h.ordinary hordinary
  | notified hevent =>
      exact h.outcome_of_same calls_updateIsVideoEnabled callRecords_updateIsVideoEnabled
        (callCount_of_rest rest_updateIsVideoEnabled)
        (call_of_callData (callData_of_rest rest_updateIsVideoEnabled))
  | applicationStateChanged isInBackground => exact h.outcome_of_same rfl rfl rfl rfl
  | untrusted contact callId =>
      refine h.outcome_untrusted ?_
      by_contra hsome
      obtain ⟨call, hcall⟩ := Option.ne_none_iff_exists'.mp hsome
      exact hkeeps ⟨call, hcall, .inl rfl⟩
  | rang contact callId hcall => exact h.outcome_ringing hcall
  | missed contact callId hcall =>
      exact ⟨h.missed.logged, fun _ hother hgone => absurd (call_missed.trans hother) hgone⟩
  | @collided call callId hcall hstate =>
      have hsame := @calls_missed_of_lt s (s.calls call).remotePhoneNumber callId call
        (h.coherent.current call hcall)
      refine (h.missed.remoteBusy (call_missed.trans hcall) ?_).of_call_eq call_missed
      rw [hsame]
      exact h.callRecord_ne_none hcall hstate
  | replaced callId hcall hidle hdialing hringing =>
      exact absurd ⟨_, hcall, .inr ⟨rfl, hidle, hdialing, hringing⟩⟩ hkeeps
  | refused contact signalingId hasLocalVideo hdata =>
      obtain ⟨callData, hdata⟩ := Option.isSome_iff_exists.mp hdata
      exact absurd (fun hnone => nomatch (call_of_some hdata).symm.trans hnone) hkeeps
  | dialed contact signalingId hasLocalVideo hcall => exact h.dialed hcall rfl rfl rfl
  | busy hcall =>
      exact h.remoteBusy hcall fun hnone => hkeeps ⟨_, hcall, rfl, rfl, hnone⟩
  | connected hdata hclient hid =>
      exact h.connected hdata hclient fun hnone => hkeeps ⟨_, hdata, hid, hnone⟩
  | answered hdata hclient hevent =>
      refine h.answered hdata hclient (not_not.mp fun hrecord => hkeeps ?_)
      rcases hevent with rfl | rfl <;> exact ⟨_, hdata, rfl, hclient, hrecord⟩
  | declined hlt hevent =>
      refine h.handleDeclineCall hlt (Bool.eq_false_iff.mpr fun hconnected => hkeeps ?_)
      rcases hevent with rfl | ⟨rfl, hcall⟩
      · exact hconnected
      · exact ⟨hcall, hconnected⟩
  | hungUpHere hcall =>
      exact h.handleLocalHungupCall hcall fun hnone => hkeeps ⟨hcall, hnone⟩
  | muted call isMuted =>
      exact h.setAudioOption (fun _ => rfl) (fun _ => rfl) (fun _ => rfl) fun _ => rfl
  | held call isOnHold =>
      exact h.setAudioOption (fun _ => rfl) (fun _ => rfl) (fun _ => rfl) fun _ => rfl
  | terminated => exact h.terminateCall_of_none (callData_of_call_none (not_not.mp hkeeps))
  | settled hpromise hsettle => exact h.settle
  | fulfilled hhead hfulfilled => exact ((hpop hhead).fulfilled hfulfilled).of_call_eq rfl
  | rejected hhead hordinary => exact ((hpop hhead).ordinary hordinary).of_call_eq rfl
  | blockRun hhead hblock hordinary => exact ((hpop hhead).ordinary hordinary).of_call_eq rfl

end CallService

end ObjcSwiftLearning.Signal
