import ObjcSwiftLearning.Signal.CallMedia

/-!
# Calls connect by consent

An incoming call should connect when the user has answered it, an outgoing one when the remote party
has sent a Connected message.  One handler connects both, and neither of those who call it looks at
the direction.

* `CallService.Consented` — who should have agreed to a call has.
* `CallService.Unasked` — an event that connects a call without asking whom it should.
* `CallService.connected_by_consent` — in a run without such events, every call that connects was
  consented to, and no microphone is on for another.
-/

namespace ObjcSwiftLearning.Signal

namespace CallService

variable {s s' : CallService} {callData : SignalCallData} {call client : ℕ} {event : Event}
  {events : List Event}

/-! ## Consent -/

/-- An event is the consent to a call: the user answers an incoming one, or the remote party sends
a Connected message with the id of an outgoing one. -/
def Consents (call : ℕ) (signalCall : SignalCall) (event : Event) : Prop :=
  match signalCall.direction with
  | .incoming => event = .answerCall call ∨ event = .answerLocalId call
  | .outgoing => ∃ client message,
      event = .clientEvent client (.receivedDataChannelMessage message) ∧
        message.connected = some signalCall.signalingId

def Consented (events : List Event) (call : ℕ) (signalCall : SignalCall) : Prop :=
  ∃ event ∈ events, Consents call signalCall event

theorem consents_congr {a b : SignalCall} (hdirection : b.direction = a.direction)
    (hid : b.signalingId = a.signalingId) : Consents call b event ↔ Consents call a event := by
  rw [Consents, Consents, hdirection, hid]

/-- The event would connect the current call, which has not connected yet, without being the
consent to it. -/
def Unasked (s : CallService) (callData : SignalCallData) (event : Event) : Prop :=
  s.Connects callData event ∧ (s.calls callData.call).hasConnected = false ∧
    ¬Consents callData.call (s.calls callData.call) event

/-! ## Calls that have connected -/

structure Asked (event : Event) (call : ℕ) (a b : SignalCall) : Prop where
  direction : b.direction = a.direction
  signalingId : b.signalingId = a.signalingId
  connected : b.hasConnected = true ∨ b.state.isLive = true →
    a.hasConnected = true ∨ a.state.isLive = true ∨ Consents call a event

theorem Asked.withState {a : SignalCall} {state : CallState} (hlive : state.isLive = true →
    a.hasConnected = true ∨ a.state.isLive = true ∨ Consents call a event) :
    Asked event call a (a.withState state) where
  direction := rfl
  signalingId := rfl
  connected h := by
    rcases h with hconnected | hstate
    · rcases Bool.or_eq_true_iff.mp hconnected with hbefore | hnow
      · exact .inl hbefore
      · exact hlive (by rw [of_decide_eq_true hnow]; rfl)
    · exact hlive hstate

/-- Nothing but `handleConnectedCall` connects a call that has not connected. -/
theorem callRule_asked (event : Event) : CallRule (Asked event) where
  refl _ _ := ⟨rfl, rfl, fun h => h.imp_right .inl⟩
  trans _ _ _ _ h h' :=
    { direction := h'.direction.trans h.direction
      signalingId := h'.signalingId.trans h.signalingId
      connected := fun hc => by
        rcases h'.connected hc with hconnected | hlive | hconsents
        · exact h.connected (.inl hconnected)
        · exact h.connected (.inr hlive)
        · exact .inr (.inr ((consents_congr h.direction h.signalingId).mp hconsents)) }
  callRecord _ _ _ := ⟨rfl, rfl, fun h => h.imp_right .inl⟩
  error _ _ _ := ⟨rfl, rfl, fun h => h.imp_right .inl⟩
  options _ _ _ _ _ := ⟨rfl, rfl, fun h => h.imp_right .inl⟩
  terminated _ _ _ hstate := .withState fun hlive => by
    rw [CallState.isLive_of_isTerminated hstate] at hlive
    exact nomatch hlive
  advances _ _ _ hadvances := .withState fun hlive => .inr (.inl (hadvances.isLive.symm.trans hlive))

def AllConsented (events : List Event) (s : CallService) : Prop :=
  ∀ call < s.callCount, (s.calls call).hasConnected = true ∨ (s.calls call).state.isLive = true →
    Consented events call (s.calls call)

theorem AllConsented.step (h : s.AllConsented events) (hs : s.Coherent) (hstep : Step s event s')
    (hasked : ∀ callData, s.callData = some callData → ¬s.Unasked callData event) :
    s'.AllConsented (events ++ [event]) := by
  have hevolves : Evolves (Asked event) s s' :=
    (callRule_asked event).step hs hstep fun callData hdata hconnects _ => .withState fun _ => by
      by_contra hnone
      rw [not_or, not_or] at hnone
      exact hasked callData hdata
        ⟨hconnects, Bool.eq_false_iff.mpr hnone.1, hnone.2.2⟩
  intro call hlt hconnected
  by_cases hearlier : call < s.callCount
  · have hcall := hevolves.earlier call hearlier
    have hsame := fun event => @consents_congr call event _ _ hcall.direction hcall.signalingId
    rcases hcall.connected hconnected with hbefore | hlive | hconsents
    · obtain ⟨earlier, hmem, hearlier⟩ := h call hearlier (.inl hbefore)
      exact ⟨earlier, List.mem_append_left _ hmem, (hsame _).mpr hearlier⟩
    · obtain ⟨earlier, hmem, hearlier⟩ := h call hearlier (.inr hlive)
      exact ⟨earlier, List.mem_append_left _ hmem, (hsame _).mpr hearlier⟩
    · exact ⟨event, List.mem_append_right _ (List.mem_singleton_self _), (hsame _).mpr hconsents⟩
  · obtain ⟨a, hnew, hcall⟩ := hevolves.new call (Nat.not_lt.mp hearlier) hlt
    have hsame := @consents_congr call event _ _ hcall.direction hcall.signalingId
    rcases hcall.connected hconnected with hbefore | hlive | hconsents
    · cases hnew <;> exact nomatch hbefore
    · cases hnew <;> exact nomatch hlive
    · exact ⟨event, List.mem_append_right _ (List.mem_singleton_self _), hsame.mpr hconsents⟩

/-! ## Every run -/

/-- **A call is connected only by consent.**  In every run in which no event connects a call
unasked, every call that is connected was consented to before: an incoming one was answered by the
user, and for an outgoing one there was a Connected message with its id.  Nor is the microphone on
for a call without consent. -/
theorem connected_by_consent (run : LabelledRun Step initial events s)
    (asked : LabelledRun.EveryStep Step initial events fun s event _ =>
      ∀ callData, s.callData = some callData → ¬s.Unasked callData event) :
    (∀ call < s.callCount, (s.calls call).state = .connected →
        Consented events call (s.calls call)) ∧
      ∀ callData client, s.callData = some callData →
        callData.peerConnectionClient = some client → (s.clients client).audioEnabled = true →
          Consented events callData.call (s.calls callData.call) := by
  have hall : s.AllConsented events :=
    ((run.restrict asked).invariant (I := fun events s => s.Coherent ∧ s.AllConsented events)
      ⟨coherent_initial, fun _ hlt => absurd hlt (Nat.not_lt_zero _)⟩
      fun _ _ _ _ h hstep => ⟨h.1.step hstep.1, h.2.step h.1 hstep.1 hstep.2⟩).2
  refine ⟨fun call hlt hstate => hall call hlt (.inr (by rw [hstate]; rfl)),
    fun callData client hdata hclient haudio => hall callData.call ?_ (.inr ?_)⟩
  · exact (coherent_of_run run).current callData.call (call_of_some hdata)
  · have hmedia := @media_of_run False s events run False.elim
    exact (hmedia.audio callData client hdata hclient haudio).1

/-- An incoming call that the user answers. -/
def answering : List Event :=
  ringing ++ [.clientEvent 0 .iceConnected, .answerCall 0]

theorem answered_call_consented :
    Consented answering 0 ((answering.foldl handle initial).calls 0) := by
  have run : LabelledRun Step initial answering (answering.foldl handle initial) :=
    run_of_enabled _ (by decide)
  have asked : LabelledRun.EveryStep Step initial answering fun s event _ =>
      ∀ callData, s.callData = some callData → ¬s.Unasked callData event := by
    refine everyStep_of_along _ ⟨fun _ _ h => h.1, fun _ _ h => h.1, fun _ _ h => h.1,
      fun _ _ h => h.1, fun callData hdata h => ?_, trivial⟩
    obtain rfl := Option.some.inj hdata
    exact h.2.2 (.inl rfl)
  exact (connected_by_consent run asked).1 0 (by decide) (by decide)

/-- The caller sends a Connected message while the call rings. -/
def connectedByCaller : List Event :=
  ringing ++ [.clientEvent 0 .iceConnected,
    .clientEvent 0 (.receivedDataChannelMessage ⟨some 7, none, none⟩)]

/-- **The caller connects the call**, and the microphone is on. -/
theorem caller_connects_unanswered_call :
    ¬∀ (events : List Event) (s : CallService), LabelledRun Step initial events s →
      ∀ call < s.callCount, (s.calls call).state = .connected →
        Consented events call (s.calls call) := by
  intro consented
  have run : LabelledRun Step initial connectedByCaller
      (connectedByCaller.foldl handle initial) := run_of_enabled _ (by decide)
  obtain ⟨event, hmem, hconsents⟩ := consented _ _ run 0 (by decide) (by decide)
  have hanswered : event = .answerCall 0 ∨ event = .answerLocalId 0 := hconsents
  rcases hanswered with rfl | rfl
  · exact absurd hmem (by decide)
  · exact absurd hmem (by decide)

end CallService

end ObjcSwiftLearning.Signal
