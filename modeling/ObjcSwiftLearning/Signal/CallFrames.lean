import ObjcSwiftLearning.Signal.CallService

/-!
# What the handlers leave alone

Every handler is put together from a few operations, and each of these changes a part of the
service only.

* `CallService.rest` — what is neither a call nor a record nor a client; the operations on these
  leave it alone.
* `CallService.calls_setState`, `CallService.calls_saveCallRecord`, … — what they make of the calls.
* `CallService.callData_terminateCall` — after which there is no current call.
* `CallService.SameCurrent` — the current call, its data and its client are what they were.
-/

namespace ObjcSwiftLearning.Signal

namespace CallService

variable {s s' : CallService} {call client : ℕ} {state : CallState} {error : CallError}
  {callType : RPRecentCallType} {f : PeerConnectionClient → PeerConnectionClient}
  {callData : SignalCallData} {other : ℕ} {enabled : Bool}

/-- What is neither a call nor a record nor a client. -/
def rest (s : CallService) : CallService :=
  { s with
    calls := fun _ => default
    clients := fun _ => default
    callRecords := [] }

section

variable (h : s'.rest = s.rest)
include h

/-- The current call is part of the rest. -/
theorem callData_of_rest : s'.callData = s.callData :=
  (congrArg CallService.callData h :)

theorem callCount_of_rest : s'.callCount = s.callCount :=
  (congrArg CallService.callCount h :)

theorem clientCount_of_rest : s'.clientCount = s.clientCount :=
  (congrArg CallService.clientCount h :)

theorem promises_of_rest : s'.promises = s.promises :=
  (congrArg CallService.promises h :)

theorem mainQueue_of_rest : s'.mainQueue = s.mainQueue :=
  (congrArg CallService.mainQueue h :)

theorem isInBackground_of_rest : s'.isInBackground = s.isInBackground :=
  (congrArg CallService.isInBackground h :)

end

/-- One call waits, and no other. -/
theorem promises_wait_self {promise : Option CallPromise} :
    (s.wait call promise).promises call = promise :=
  Function.update_self _ _ _

theorem promises_wait_of_ne {promise : Option CallPromise} (h : other ≠ call) :
    (s.wait call promise).promises other = s.promises other :=
  Function.update_of_ne h _ _

/-- One call is modified, and no other. -/
@[simp] theorem calls_modifyCall_self {f : SignalCall → SignalCall} :
    (s.modifyCall call f).calls call = f (s.calls call) :=
  Function.update_self _ _ _

theorem calls_modifyCall_of_ne {f : SignalCall → SignalCall} (h : other ≠ call) :
    (s.modifyCall call f).calls other = s.calls other :=
  Function.update_of_ne h _ _

/-- One client is modified, and no other. -/
@[simp] theorem clients_modifyClient_self :
    (s.modifyClient client f).clients client = f (s.clients client) :=
  Function.update_self _ _ _

theorem clients_modifyClient_of_ne (h : other ≠ client) :
    (s.modifyClient client f).clients other = s.clients other :=
  Function.update_of_ne h _ _

/-- The data tells which call is current, and its client. -/
theorem call_of_callData (h : s'.callData = s.callData) : s'.call = s.call := by
  rw [CallService.call, CallService.call, h]

theorem peerConnectionClient_of_callData (h : s'.callData = s.callData) :
    s'.peerConnectionClient = s.peerConnectionClient := by
  rw [CallService.peerConnectionClient, CallService.peerConnectionClient, h]

theorem call_of_some (hdata : s.callData = some callData) : s.call = some callData.call := by
  rw [CallService.call, hdata, Option.map_some]

theorem peerConnectionClient_of_some (hdata : s.callData = some callData) :
    s.peerConnectionClient = callData.peerConnectionClient := by
  rw [CallService.peerConnectionClient, hdata, Option.bind_some]

/-! ## Clients -/

@[simp] theorem rest_modifyClient : (s.modifyClient client f).rest = s.rest :=
  rfl

/-- Whether video is sent is a matter of the client. -/
@[simp] theorem rest_updateIsVideoEnabled : s.updateIsVideoEnabled.rest = s.rest := by
  rw [updateIsVideoEnabled]
  split <;> rfl

@[simp] theorem calls_updateIsVideoEnabled : s.updateIsVideoEnabled.calls = s.calls := by
  rw [updateIsVideoEnabled]
  split <;> rfl

@[simp] theorem callRecords_updateIsVideoEnabled :
    s.updateIsVideoEnabled.callRecords = s.callRecords := by
  rw [updateIsVideoEnabled]
  split <;> rfl

/-- So is whether audio is. -/
@[simp] theorem rest_ensureAudioState : (s.ensureAudioState call client).rest = s.rest :=
  rfl

@[simp] theorem calls_ensureAudioState : (s.ensureAudioState call client).calls = s.calls :=
  rfl

@[simp] theorem callRecords_ensureAudioState :
    (s.ensureAudioState call client).callRecords = s.callRecords :=
  rfl

@[simp] theorem rest_setLocalVideoEnabled : (s.setLocalVideoEnabled client enabled).rest = s.rest :=
  rfl

@[simp] theorem calls_setLocalVideoEnabled :
    (s.setLocalVideoEnabled client enabled).calls = s.calls :=
  rfl

/-- Only `terminateCall` terminates a client. -/
theorem isTerminated_modifyClient (hf : ∀ client, (f client).isTerminated = client.isTerminated) :
    ((s.modifyClient client f).clients other).isTerminated = (s.clients other).isTerminated := by
  by_cases hother : other = client
  · subst hother
    rw [clients_modifyClient_self, hf]
  · rw [clients_modifyClient_of_ne hother]

@[simp] theorem isTerminated_setLocalVideoEnabled :
    ((s.setLocalVideoEnabled client enabled).clients other).isTerminated =
      (s.clients other).isTerminated :=
  isTerminated_modifyClient fun _ => rfl

@[simp] theorem isTerminated_ensureAudioState :
    ((s.ensureAudioState call client).clients other).isTerminated =
      (s.clients other).isTerminated := by
  rw [ensureAudioState]
  exact isTerminated_modifyClient fun _ => rfl

@[simp] theorem isTerminated_updateIsVideoEnabled :
    (s.updateIsVideoEnabled.clients other).isTerminated = (s.clients other).isTerminated := by
  rw [updateIsVideoEnabled]
  split
  · rfl
  · exact isTerminated_setLocalVideoEnabled

/-! ## Records -/

/-- It writes to the records only. -/
theorem updateCallRecordType_eq :
    s.updateCallRecordType call =
      { s with callRecords := (s.updateCallRecordType call).callRecords } := by
  rw [updateCallRecordType]
  split
  · rfl
  · split
    · split <;> rfl
    · rfl

@[simp] theorem rest_updateCallRecordType : (s.updateCallRecordType call).rest = s.rest := by
  rw [updateCallRecordType_eq]
  rfl

@[simp] theorem calls_updateCallRecordType : (s.updateCallRecordType call).calls = s.calls := by
  rw [updateCallRecordType_eq]

@[simp] theorem clients_updateCallRecordType :
    (s.updateCallRecordType call).clients = s.clients := by
  rw [updateCallRecordType_eq]

@[simp] theorem rest_saveCallRecord : (s.saveCallRecord call callType).rest = s.rest := by
  rw [saveCallRecord, rest_updateCallRecordType]
  rfl

@[simp] theorem callData_saveCallRecord :
    (s.saveCallRecord call callType).callData = s.callData :=
  callData_of_rest rest_saveCallRecord

@[simp] theorem isInBackground_saveCallRecord :
    (s.saveCallRecord call callType).isInBackground = s.isInBackground :=
  isInBackground_of_rest rest_saveCallRecord

/-- The call gets the new record. -/
@[simp] theorem calls_saveCallRecord :
    (s.saveCallRecord call callType).calls = Function.update s.calls call
      { s.calls call with callRecord := some s.callRecords.length } := by
  rw [saveCallRecord, calls_updateCallRecordType]
  rfl

@[simp] theorem clients_saveCallRecord :
    (s.saveCallRecord call callType).clients = s.clients := by
  rw [saveCallRecord, clients_updateCallRecordType]
  rfl

@[simp] theorem rest_handleMissedCall : (s.handleMissedCall call).rest = s.rest := by
  rw [handleMissedCall]
  split
  · exact rest_saveCallRecord
  · split <;> rfl

/-- A missed call keeps its record, or gets one. -/
@[simp] theorem calls_handleMissedCall :
    (s.handleMissedCall call).calls = Function.update s.calls call
      { s.calls call with
        callRecord := some ((s.calls call).callRecord.getD s.callRecords.length) } := by
  rw [handleMissedCall]
  split
  · next hnone => rw [calls_saveCallRecord, hnone, Option.getD_none]
  · next record hrecord =>
      have hself : Function.update s.calls call
          { s.calls call with callRecord := some record } = s.calls := by
        rw [← hrecord]
        exact Function.update_eq_self call s.calls
      rw [hrecord, Option.getD_some, hself]
      split <;> rfl

@[simp] theorem callData_handleMissedCall : (s.handleMissedCall call).callData = s.callData :=
  callData_of_rest rest_handleMissedCall

@[simp] theorem isInBackground_handleMissedCall :
    (s.handleMissedCall call).isInBackground = s.isInBackground :=
  isInBackground_of_rest rest_handleMissedCall

@[simp] theorem clients_handleMissedCall : (s.handleMissedCall call).clients = s.clients := by
  rw [handleMissedCall]
  split
  · exact clients_saveCallRecord
  · split <;> rfl

/-- Hanging up changes the type of a record. -/
@[simp] theorem rest_updateHungUpCallRecord : (s.updateHungUpCallRecord call).rest = s.rest := by
  rw [updateHungUpCallRecord]
  split
  · rfl
  · split <;> rfl

@[simp] theorem calls_updateHungUpCallRecord :
    (s.updateHungUpCallRecord call).calls = s.calls := by
  rw [updateHungUpCallRecord]
  split
  · rfl
  · split <;> rfl

@[simp] theorem clients_updateHungUpCallRecord :
    (s.updateHungUpCallRecord call).clients = s.clients := by
  rw [updateHungUpCallRecord]
  split
  · rfl
  · split <;> rfl

/-! ## States -/

/-- The call, its record and its client follow the state. -/
@[simp] theorem rest_setState : (s.setState call state).rest = s.rest := by
  rw [setState]
  split
  · rw [rest_updateIsVideoEnabled, rest_updateCallRecordType]
    rfl
  · rw [rest_updateCallRecordType]
    rfl

/-- Only the call itself changes its state. -/
@[simp] theorem calls_setState :
    (s.setState call state).calls =
      Function.update s.calls call ((s.calls call).withState state) := by
  rw [setState]
  split
  · rw [calls_updateIsVideoEnabled, calls_updateCallRecordType]
    rfl
  · rw [calls_updateCallRecordType]
    rfl

/-- The service does not observe a call that is not the current one. -/
theorem clients_setState_of_ne (h : s.call ≠ some call) :
    (s.setState call state).clients = s.clients := by
  rw [setState, if_neg h, clients_updateCallRecordType]
  rfl

/-- No state terminates a client. -/
@[simp] theorem isTerminated_setState :
    ((s.setState call state).clients other).isTerminated = (s.clients other).isTerminated := by
  rw [setState]
  split
  · rw [isTerminated_updateIsVideoEnabled, clients_updateCallRecordType]
    rfl
  · rw [clients_updateCallRecordType]
    rfl

/-- The record is updated after the state. -/
theorem callRecords_setState :
    (s.setState call state).callRecords = ((s.modifyCall call
      (·.withState state)).updateCallRecordType call).callRecords := by
  rw [setState]
  split
  · rw [callRecords_updateIsVideoEnabled]
  · rfl

@[simp] theorem callData_setState : (s.setState call state).callData = s.callData :=
  callData_of_rest rest_setState

@[simp] theorem isInBackground_setState :
    (s.setState call state).isInBackground = s.isInBackground :=
  isInBackground_of_rest rest_setState

@[simp] theorem callCount_setState : (s.setState call state).callCount = s.callCount :=
  callCount_of_rest rest_setState

/-! ## Calls that end -/

/-- A failure at most records a missed call. -/
@[simp] theorem rest_handleMissedIfFailed : (s.handleMissedIfFailed call).rest = s.rest := by
  rw [handleMissedIfFailed]
  split
  · exact rest_handleMissedCall
  · exact rest_handleMissedCall
  · rfl

@[simp] theorem clients_handleMissedIfFailed :
    (s.handleMissedIfFailed call).clients = s.clients := by
  rw [handleMissedIfFailed]
  split
  · exact clients_handleMissedCall
  · exact clients_handleMissedCall
  · rfl

@[simp] theorem clients_handleMissedIfHungUp :
    (s.handleMissedIfHungUp call).clients = s.clients := by
  rw [handleMissedIfHungUp]
  split
  all_goals first | rfl | exact clients_handleMissedCall

@[simp] theorem rest_handleMissedIfHungUp : (s.handleMissedIfHungUp call).rest = s.rest := by
  rw [handleMissedIfHungUp]
  split
  all_goals first | rfl | exact rest_handleMissedCall

/-- **After `terminateCall` there is no current call.** -/
@[simp] theorem callData_terminateCall : s.terminateCall.callData = none := by
  rw [terminateCall]
  split
  · assumption
  · split <;> split <;> rfl

@[simp] theorem calls_terminateCall : s.terminateCall.calls = s.calls := by
  rw [terminateCall]
  split
  · rfl
  · split <;> split <;> rfl

@[simp] theorem callRecords_terminateCall : s.terminateCall.callRecords = s.callRecords := by
  rw [terminateCall]
  split
  · rfl
  · split <;> split <;> rfl

@[simp] theorem callCount_terminateCall : s.terminateCall.callCount = s.callCount := by
  rw [terminateCall]
  split
  · rfl
  · split <;> split <;> rfl

/-- Without a current call nothing is terminated. -/
theorem terminateCall_of_none (h : s.callData = none) : s.terminateCall = s := by
  rw [terminateCall, h]

/-- A call that fails, where it does not terminate. -/
def failed (s : CallService) (call : ℕ) (error : CallError) : CallService :=
  ((s.handleMissedIfFailed call).modifyCall call fun signalCall =>
    { signalCall with error := some error }).setState call .localFailure

/-- The call fails, and is terminated if it is current. -/
theorem handleFailedCall_some :
    s.handleFailedCall (some call) error =
      if s.call = some call then (s.failed call error).terminateCall else s.failed call error :=
  rfl

@[simp] theorem rest_failed : (s.failed call error).rest = s.rest := by
  rw [failed, rest_setState]
  exact rest_handleMissedIfFailed

@[simp] theorem isTerminated_failed :
    ((s.failed call error).clients other).isTerminated = (s.clients other).isTerminated := by
  rw [failed, isTerminated_setState]
  exact congrArg (fun clients => (clients other).isTerminated) clients_handleMissedIfFailed

/-- The current call fails, and there is none. -/
theorem callData_handleFailedCurrentCall : (s.handleFailedCurrentCall error).callData = none := by
  rw [handleFailedCurrentCall]
  cases hcall : s.call with
  | none => exact callData_terminateCall
  | some call => rw [handleFailedCall_some, if_pos hcall, callData_terminateCall]

/-- No client notices that another call fails. -/
theorem clients_failed_of_ne (h : s.call ≠ some call) :
    (s.failed call error).clients = s.clients := by
  have hmodified : ((s.handleMissedIfFailed call).modifyCall call fun signalCall =>
      { signalCall with error := some error }).call ≠ some call := by
    have hcall : (s.handleMissedIfFailed call).call = s.call :=
      call_of_callData (callData_of_rest rest_handleMissedIfFailed)
    change (s.handleMissedIfFailed call).call ≠ some call
    rwa [hcall]
  rw [failed, clients_setState_of_ne hmodified]
  exact clients_handleMissedIfFailed

/-- No other call is touched. -/
theorem calls_failed_of_ne (h : other ≠ call) :
    (s.failed call error).calls other = s.calls other := by
  rw [failed, calls_setState, Function.update_of_ne h]
  rw [calls_modifyCall_of_ne h, handleMissedIfFailed]
  split
  · rw [calls_handleMissedCall, Function.update_of_ne h]
  · rw [calls_handleMissedCall, Function.update_of_ne h]
  · rfl

/-! ## Calls that connect -/

/-- The promise is fulfilled, and no call changes. -/
@[simp] theorem calls_fulfillCallConnected : (s.fulfillCallConnected callData).calls = s.calls := by
  rw [fulfillCallConnected]
  split <;> rfl

@[simp] theorem callRecords_fulfillCallConnected :
    (s.fulfillCallConnected callData).callRecords = s.callRecords := by
  rw [fulfillCallConnected]
  split <;> rfl

@[simp] theorem callData_fulfillCallConnected :
    (s.fulfillCallConnected callData).callData =
      some { callData with isCallConnected := true } := by
  rw [fulfillCallConnected]
  split <;> rfl

@[simp] theorem callCount_fulfillCallConnected :
    (s.fulfillCallConnected callData).callCount = s.callCount := by
  rw [fulfillCallConnected]
  split <;> rfl

/-- The call is connected. -/
theorem calls_handleConnectedCall (hclient : callData.peerConnectionClient.isSome) :
    (s.handleConnectedCall callData).calls = Function.update s.calls callData.call
      ((s.calls callData.call).withState .connected) := by
  obtain ⟨client, hclient⟩ := Option.isSome_iff_exists.mp hclient
  rw [handleConnectedCall, hclient]
  dsimp only
  rw [calls_setLocalVideoEnabled, calls_ensureAudioState, calls_setState,
    calls_fulfillCallConnected]

theorem callCount_handleConnectedCall (hclient : callData.peerConnectionClient.isSome) :
    (s.handleConnectedCall callData).callCount = s.callCount := by
  obtain ⟨client, hclient⟩ := Option.isSome_iff_exists.mp hclient
  rw [handleConnectedCall, hclient]
  dsimp only
  rw [callCount_of_rest rest_setLocalVideoEnabled, callCount_of_rest rest_ensureAudioState,
    callCount_setState, callCount_fulfillCallConnected]

/-- A client is heard or not. -/
theorem handle_clientEvent_eq_or_eq {event : ClientEvent} :
    s.handle (.clientEvent client event) = s ∨
      s.handle (.clientEvent client event) = s.handleCurrentClientEvent event := by
  rw [handle]
  split
  · exact .inl rfl
  · exact ite_eq_or_eq _ _ _

/-! ## The current call -/

/-- The current call, its data and its client. -/
def currentCall (s : CallService) :
    Option (SignalCallData × SignalCall × Option PeerConnectionClient) :=
  s.callData.map fun callData =>
    (callData, s.calls callData.call, callData.peerConnectionClient.map s.clients)

/-- Nothing of it has changed. -/
def SameCurrent (s s' : CallService) : Prop :=
  s'.currentCall = s.currentCall

/-- A step that leaves its data, its call and the clients alone. -/
theorem SameCurrent.of_eq (hdata : s'.callData = s.callData)
    (hcall : ∀ callData, s.callData = some callData →
      s'.calls callData.call = s.calls callData.call)
    (hclients : s'.clients = s.clients) : SameCurrent s s' := by
  rw [SameCurrent, currentCall, currentCall, hdata, hclients]
  cases hs : s.callData with
  | none => rfl
  | some callData => simp only [Option.map_some, hcall callData hs]

end CallService

end ObjcSwiftLearning.Signal
