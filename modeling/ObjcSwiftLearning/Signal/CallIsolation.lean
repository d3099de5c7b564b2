import ObjcSwiftLearning.Signal.CallCoherence

/-!
# What does not belong to the current call

Messages of other parties, messages about other calls, events of earlier clients and what was
under way for earlier calls are foreign to the current call.  Most handlers look at the call id and
the sender before they do anything; three do not.

* `CallService.Foreign` — what should leave the current call alone.
* `CallService.Heeded` — what is foreign and moves it all the same: an offer from an untrusted
  identity, an answer with the id of the current call from somebody else, and a local ICE candidate
  of an earlier call.
* `CallService.current_call_isolated` — in every reachable state a foreign event leaves the current
  call as it was, if and only if it is none of these.
-/

namespace ObjcSwiftLearning.Signal

namespace CallService

variable {s s' : CallService} {callData : SignalCallData} {call client : ℕ} {event : Event}
  {events : List Event} {error : CallError} {callId : UInt64} {contact : String}

/-! ## Foreign events -/

/-- A message is not of this call: its sender is not the remote party, or its id is another. -/
def ForeignMessage (signalCall : SignalCall) (contact : String) (callId : UInt64) : Prop :=
  contact ≠ signalCall.remotePhoneNumber ∨ callId ≠ signalCall.signalingId

/-- The guards of the handlers that look at both. -/
theorem ForeignMessage.guard {α : Type} {signalCall : SignalCall}
    (h : ForeignMessage signalCall contact callId) (ignored heeded : α) :
    (if signalCall.signalingId ≠ callId then ignored
      else if contact ≠ signalCall.remotePhoneNumber then ignored else heeded) = ignored := by
  rcases h with hcontact | hid
  · rw [if_pos hcontact, ite_self]
  · rw [if_pos (Ne.symm hid)]

def ForeignBlock (s : CallService) (call : ℕ) : CallBlock → Prop
  | .remoteIceUpdate update =>
      update.call ≠ call ∨ ForeignMessage (s.calls call) update.contact update.callId
  | block => block.call ≠ call

/-- An event is not of the current call. -/
def Foreign (s : CallService) (callData : SignalCallData) : Event → Prop
  | .receivedOffer contact _ _ => contact ≠ (s.calls callData.call).remotePhoneNumber
  | .receivedAnswer contact callId _ | .receivedIceUpdate contact callId _
  | .receivedHangup contact callId | .receivedBusy contact callId =>
      ForeignMessage (s.calls callData.call) contact callId
  | .clientEvent client _ => callData.peerConnectionClient ≠ some client
  | .promiseSettled call _ _ | .remoteDescriptionSet call _ | .backgroundTaskExpired call =>
      call ≠ callData.call
  | .blockRun block => s.ForeignBlock callData.call block
  | _ => False

/-- The foreign events that nobody recognizes as such. -/
def Heeded (s : CallService) (callData : SignalCallData) : Event → Prop
  | .receivedOffer _ _ isUntrusted => isUntrusted = true
  | .receivedAnswer _ callId _ => callId = (s.calls callData.call).signalingId
  | .blockRun (.localIceCandidate _) => True
  | _ => False

/-! ## The current call stays -/

theorem call_ne (hdata : s.callData = some callData) (hne : call ≠ callData.call) :
    s.call ≠ some call := by
  rw [call_of_some hdata]
  exact fun heq => hne (Option.some.inj heq).symm

theorem not_sameCurrent_of_none (hdata : s.callData = some callData) (hnone : s'.callData = none) :
    ¬SameCurrent s s' := by
  rw [SameCurrent, currentCall, currentCall, hdata, hnone]
  exact Option.some_ne_none _ ∘ Eq.symm

theorem SameCurrent.of_under_way (hdata : s'.callData = s.callData) (hcalls : s'.calls = s.calls)
    (hclients : s'.clients = s.clients) : SameCurrent s s' :=
  .of_eq hdata (fun _ _ => by rw [hcalls]) hclients

section

variable (hdata : s.callData = some callData) (hne : call ≠ callData.call)
include hdata hne

theorem sameCurrent_handleFailedCall : SameCurrent s (s.handleFailedCall (some call) error) := by
  have hcall := call_ne hdata hne
  rw [handleFailedCall_some, if_neg hcall]
  refine .of_eq (callData_of_rest rest_failed) (fun current hcurrent => ?_)
    (clients_failed_of_ne hcall)
  rw [hdata] at hcurrent
  obtain rfl := Option.some.inj hcurrent
  exact calls_failed_of_ne hne.symm

theorem sameCurrent_handleFulfilled {promise : CallPromise} :
    SameCurrent s (s.handleFulfilled call promise) := by
  have hcall := call_ne hdata hne
  rw [CallService.handleFulfilled.eq_def]
  dsimp only
  split
  · have hobsolete : SameCurrent s (s.dispatch (.rejected call .obsoleteCall)) :=
      .of_under_way rfl rfl rfl
    rw [hdata]
    dsimp only
    rwa [if_pos hne.symm]
  · rw [if_pos (.inl hcall)]
    exact .of_under_way rfl rfl rfl
  · rw [if_pos hcall]
    exact .of_under_way rfl rfl rfl
  · exact .of_under_way rfl rfl rfl
  · rw [if_pos hcall]
    exact .of_under_way rfl rfl rfl
  · exact .of_under_way rfl rfl rfl
  · exact .of_under_way rfl rfl rfl

theorem sameCurrent_handleRejected : SameCurrent s (s.handleRejected call error) := by
  rw [handleRejected]
  split
  · exact sameCurrent_handleFailedCall hdata hne
  · rw [if_neg (call_ne hdata hne)]
    exact .of_under_way rfl rfl rfl

end

/-- A new call from somebody else is missed. -/
theorem sameCurrent_handleReceivedOffer (h : s.Coherent) (hdata : s.callData = some callData)
    (hcontact : contact ≠ (s.calls callData.call).remotePhoneNumber) :
    SameCurrent s (s.handleReceivedOffer contact callId false) := by
  have hcurrent := call_of_some hdata
  have hne : callData.call ≠ s.callCount := Nat.ne_of_lt (h.current _ hcurrent)
  rw [handleReceivedOffer, hcurrent]
  dsimp only
  rw [if_neg Bool.false_ne_true, if_neg (Ne.symm hcontact)]
  refine .of_eq callData_handleMissedCall (fun current hsome => ?_) clients_handleMissedCall
  rw [hdata] at hsome
  obtain rfl := Option.some.inj hsome
  rw [calls_handleMissedCall, Function.update_of_ne hne]
  exact Function.update_of_ne hne _ _

theorem callData_handleReceivedOffer :
    (s.handleReceivedOffer contact callId true).callData = none :=
  callData_terminateCall

theorem sameCurrent_addRemoteIceCandidate {update : RemoteIceUpdate}
    (hdata : s.callData = some callData)
    (hforeign : callData.peerConnectionClient = none ∨
      ForeignMessage (s.calls callData.call) update.contact update.callId) :
    SameCurrent s (s.addRemoteIceCandidate update) := by
  rw [addRemoteIceCandidate, call_of_some hdata]
  dsimp only
  rcases hforeign with hnone | hforeign
  · have hclient : s.peerConnectionClient = none := by
      rw [peerConnectionClient_of_some hdata, hnone]
    rw [hclient, ite_self, ite_self]
    exact .of_under_way rfl rfl rfl
  · rw [hforeign.guard]
    exact .of_under_way rfl rfl rfl

theorem sameCurrent_handleReceivedAnswer_iff {sessionDescription : String}
    (hdata : s.callData = some callData) :
    SameCurrent s (s.handleReceivedAnswer callId sessionDescription) ↔
      callId ≠ (s.calls callData.call).signalingId := by
  rw [handleReceivedAnswer, call_of_some hdata]
  dsimp only
  by_cases hid : (s.calls callData.call).signalingId = callId
  · rw [if_neg (not_not_intro hid)]
    refine ⟨fun hsame => ?_, fun hne => absurd hid.symm hne⟩
    exfalso
    have hclient := peerConnectionClient_of_some hdata
    cases hsome : callData.peerConnectionClient with
    | none =>
        rw [hclient, hsome] at hsame
        dsimp only at hsame
        rw [handleFailedCall_some, if_pos (call_of_some hdata)] at hsame
        exact not_sameCurrent_of_none hdata callData_terminateCall hsame
    | some client =>
        rw [hclient, hsome] at hsame
        simp only [SameCurrent, currentCall, modifyClient, hdata, Option.map_some, hsome,
          Function.update_self, Option.some.injEq, Prod.mk.injEq, true_and] at hsame
        have hlength := congrArg
          (fun client => client.remoteSessionDescriptions.length) hsame
        simp at hlength
  · rw [if_pos hid]
    exact ⟨fun _ heq => hid heq.symm, fun _ => .of_under_way rfl rfl rfl⟩

/-! ## Isolation -/

theorem sameCurrent_blockRun_iff {block : CallBlock} (h : s.Coherent)
    (hdata : s.callData = some callData) (hhead : s.mainQueue.head? = some block)
    (hforeign : s.ForeignBlock callData.call block) :
    SameCurrent s ({ s with mainQueue := s.mainQueue.tail }.runBlock block) ↔
      ¬s.Heeded callData (.blockRun block) := by
  change SameCurrent { s with mainQueue := s.mainQueue.tail } _ ↔ _
  have hpop : { s with mainQueue := s.mainQueue.tail }.callData = some callData := hdata
  cases block with
  | fulfilled call promise =>
      exact iff_of_true (sameCurrent_handleFulfilled hpop hforeign) id
  | rejected call error =>
      exact iff_of_true (sameCurrent_handleRejected hpop hforeign) id
  | setUpEnded call => exact iff_of_true (.of_under_way rfl rfl rfl) id
  | remoteIceUpdate update =>
      refine iff_of_true (sameCurrent_addRemoteIceCandidate hpop ?_) id
      refine hforeign.imp_left fun hcall => ?_
      -- No ICE update of an earlier call is left once there is a client.
      cases hclient : callData.peerConnectionClient with
      | none => rfl
      | some client =>
          have hsome : s.peerConnectionClient.isSome := by
            rw [peerConnectionClient_of_some hdata, hclient]
            rfl
          exact absurd (h.arrived _ (call_of_some hdata) hsome _ (List.mem_of_head? hhead)
            update rfl) hcall
  | localIceCandidate call =>
      refine iff_of_false ?_ (not_not_intro trivial)
      have hne : { s with mainQueue := s.mainQueue.tail }.call ≠ some call :=
        call_ne hpop hforeign
      change ¬SameCurrent _ (CallService.sendLocalIceCandidate _ call)
      rw [sendLocalIceCandidate, if_pos hne]
      exact not_sameCurrent_of_none hpop callData_handleFailedCurrentCall
  | remoteDescriptionFailed call error =>
      exact iff_of_true (sameCurrent_handleFailedCall hpop hforeign) id

theorem sameCurrent_settle {promise : CallPromise} {settlement : Settlement} :
    SameCurrent s (s.settle call promise settlement) := by
  cases settlement with
  | fulfilled => exact .of_under_way rfl rfl rfl
  | rejected error => exact .of_under_way rfl rfl rfl
  | cancelled =>
      rw [settle]
      split <;> exact .of_under_way rfl rfl rfl

/-- **Only its own events move the current call.**  In every reachable state a foreign event leaves
the current call, its data and its client as they were, if and only if it is not one of those that
nobody recognizes. -/
theorem current_call_isolated (run : LabelledRun Step initial events s)
    (hdata : s.callData = some callData) (hstep : Step s event s')
    (hforeign : s.Foreign callData event) :
    SameCurrent s s' ↔ ¬s.Heeded callData event := by
  have h := coherent_of_run run
  have hcall := call_of_some hdata
  obtain ⟨henabled, rfl⟩ := hstep
  -- Most handlers find that the event is about another call; those that do not are the heeded ones.
  cases event with
  | receivedOffer contact callId isUntrusted =>
      cases isUntrusted with
      | false => exact iff_of_true (sameCurrent_handleReceivedOffer h hdata hforeign) nofun
      | true =>
          refine iff_of_false ?_ (not_not_intro rfl)
          exact not_sameCurrent_of_none hdata callData_handleReceivedOffer
  | receivedAnswer contact callId sessionDescription =>
      exact sameCurrent_handleReceivedAnswer_iff hdata
  | receivedIceUpdate contact callId candidate =>
      refine iff_of_true ?_ id
      change SameCurrent s (s.handleRemoteAddedIceCandidate contact callId candidate)
      rw [handleRemoteAddedIceCandidate]
      split
      · exact .of_under_way rfl rfl rfl
      · split <;> exact .of_under_way rfl rfl rfl
  | receivedHangup contact callId =>
      refine iff_of_true ?_ id
      change SameCurrent s (s.handleRemoteHangup contact callId)
      rw [handleRemoteHangup, hcall]
      dsimp only
      rw [hforeign.guard]
      exact .of_under_way rfl rfl rfl
  | receivedBusy contact callId =>
      refine iff_of_true ?_ id
      change SameCurrent s (s.handleRemoteBusy contact callId)
      rw [handleRemoteBusy, hcall]
      dsimp only
      rw [hforeign.guard]
      exact .of_under_way rfl rfl rfl
  | clientEvent client clientEvent =>
      refine iff_of_true ?_ id
      rcases h.handle_clientEvent henabled with hsame | ⟨hclient, -⟩
      · rw [hsame]
        exact .of_under_way rfl rfl rfl
      · rw [peerConnectionClient_of_some hdata] at hclient
        exact absurd hclient hforeign
  | promiseSettled call promise settlement => exact iff_of_true sameCurrent_settle id
  | remoteDescriptionSet call error =>
      refine iff_of_true ?_ id
      cases error <;> exact .of_under_way rfl rfl rfl
  | backgroundTaskExpired call =>
      refine iff_of_true ?_ id
      change SameCurrent s (s.backgroundTaskExpired call)
      rw [backgroundTaskExpired, if_neg (call_ne hdata hforeign)]
      exact .of_under_way rfl rfl rfl
  | blockRun block => exact sameCurrent_blockRun_iff h hdata henabled hforeign
  | _ => exact hforeign.elim

/-- A call comes. -/
theorem run_receivedOffer :
    LabelledRun Step initial [.receivedOffer contact callId false]
      (initial.handle (.receivedOffer contact callId false)) :=
  .single ⟨trivial, rfl⟩

theorem hangup_of_another_party_spares_call :
    SameCurrent (initial.handle (.receivedOffer "+1" 7 false))
      ((initial.handle (.receivedOffer "+1" 7 false)).handle (.receivedHangup "+2" 7)) := by
  have hstep : Step (initial.handle (.receivedOffer "+1" 7 false)) (.receivedHangup "+2" 7)
      ((initial.handle (.receivedOffer "+1" 7 false)).handle (.receivedHangup "+2" 7)) :=
    ⟨trivial, rfl⟩
  have hforeign : ForeignMessage (.incomingCall "+1" 7) "+2" 7 := .inl (by decide)
  exact (current_call_isolated run_receivedOffer rfl hstep hforeign).mpr nofun

theorem untrusted_offer_ends_another_call :
    ¬∀ (events : List Event) (s s' : CallService) (callData : SignalCallData) (event : Event),
      LabelledRun Step initial events s → s.callData = some callData → Step s event s' →
        s.Foreign callData event → SameCurrent s s' := by
  intro isolated
  have hstep : Step (initial.handle (.receivedOffer "+1" 7 false)) (.receivedOffer "+2" 8 true)
      ((initial.handle (.receivedOffer "+1" 7 false)).handle (.receivedOffer "+2" 8 true)) :=
    ⟨trivial, rfl⟩
  have hforeign : "+2" ≠ (SignalCall.incomingCall "+1" 7).remotePhoneNumber := by decide
  have hsame := isolated _ _ _ _ _ run_receivedOffer rfl hstep hforeign
  have hnone : ((initial.handle (.receivedOffer "+1" 7 false)).handleReceivedOffer
      "+2" 8 true).callData = none := callData_handleReceivedOffer
  exact not_sameCurrent_of_none rfl hnone hsame

end CallService

end ObjcSwiftLearning.Signal
