import ObjcSwiftLearning.Signal.CallCoherence

/-!
# How calls change

Whatever happens, a call changes in a few ways only: it gets a record, an error, options, an end, or
the next state on its way to being connected.

* `CallService.CallRule` — a relation that allows all of these.
* `CallService.Evolves` — the calls of two services are related so, and those that are new are
  related to a call as it is made.
* `CallService.CallRule.step` — every step is such, if it may connect the call that it connects.
* `CallService.CallRule.invariant` — what is true of new calls and respects the rule is true of all.
-/

namespace ObjcSwiftLearning.Signal

inductive SignalCall.IsNew : SignalCall → Prop
  | outgoing (contact : String) (signalingId : UInt64) (hasLocalVideo : Bool) :
      IsNew { SignalCall.outgoingCall contact signalingId with hasLocalVideo }
  | incoming (contact : String) (callId : UInt64) : IsNew (.incomingCall contact callId)

namespace CallService

variable {s s' s'' : CallService} {call client : ℕ} {error : CallError} {state : CallState}
  {event : Event} {R : ℕ → SignalCall → SignalCall → Prop}

/-- What handlers do to calls, but for connecting them, is allowed. -/
structure CallRule (R : ℕ → SignalCall → SignalCall → Prop) : Prop where
  refl : ∀ call a, R call a a
  trans : ∀ call a b c, R call a b → R call b c → R call a c
  callRecord : ∀ call a callRecord, R call a { a with callRecord }
  error : ∀ call a error, R call a { a with error }
  options : ∀ call a hasLocalVideo isMuted isOnHold,
    R call a { a with hasLocalVideo, isMuted, isOnHold }
  terminated : ∀ call a state, state.isTerminated = true → R call a (a.withState state)
  advances : ∀ call (a : SignalCall) state, a.state.Advances state → R call a (a.withState state)

/-- The calls have changed as allowed, and there may be new ones. -/
structure Evolves (R : ℕ → SignalCall → SignalCall → Prop) (s s' : CallService) : Prop where
  callCount : s.callCount ≤ s'.callCount
  earlier : ∀ call < s.callCount, R call (s.calls call) (s'.calls call)
  new : ∀ call, s.callCount ≤ call → call < s'.callCount →
    ∃ a : SignalCall, a.IsNew ∧ R call a (s'.calls call)

namespace CallRule

variable (hR : CallRule R) {contact : String} {callId : UInt64}
include hR

theorem of_calls (hcalls : s'.calls = s.calls) (hcount : s'.callCount = s.callCount) :
    Evolves R s s' where
  callCount := Nat.le_of_eq hcount.symm
  earlier call _ := by
    rw [hcalls]
    exact hR.refl call _
  new call hle hlt := absurd (hcount ▸ hlt) (Nat.not_lt.mpr hle)

theorem evolves_trans (h : Evolves R s s') (h' : Evolves R s' s'') : Evolves R s s'' where
  callCount := Nat.le_trans h.callCount h'.callCount
  earlier call hlt := hR.trans call _ _ _ (h.earlier call hlt)
    (h'.earlier call (Nat.lt_of_lt_of_le hlt h.callCount))
  new call hle hlt := by
    by_cases hcall : call < s'.callCount
    · obtain ⟨a, hnew, ha⟩ := h.new call hle hcall
      exact ⟨a, hnew, hR.trans call _ _ _ ha (h'.earlier call hcall)⟩
    · exact h'.new call (Nat.not_lt.mp hcall) hlt

theorem of_update {a : SignalCall} (hcalls : s'.calls = Function.update s.calls call a)
    (hcount : s'.callCount = s.callCount) (ha : R call (s.calls call) a) : Evolves R s s' where
  callCount := Nat.le_of_eq hcount.symm
  earlier other _ := by
    rw [hcalls]
    by_cases heq : other = call
    · subst heq
      rwa [Function.update_self]
    · rw [Function.update_of_ne heq]
      exact hR.refl other _
  new call hle hlt := absurd (hcount ▸ hlt) (Nat.not_lt.mpr hle)

theorem of_new {a : SignalCall} (hcalls : s'.calls = Function.update s.calls s.callCount a)
    (hcount : s'.callCount = s.callCount + 1) (ha : a.IsNew) : Evolves R s s' where
  callCount := by omega
  earlier call hlt := by
    rw [hcalls, Function.update_of_ne (Nat.ne_of_lt hlt)]
    exact hR.refl call _
  new call hle hlt := by
    obtain rfl : call = s.callCount := by omega
    refine ⟨a, ha, ?_⟩
    rw [hcalls, Function.update_self]
    exact hR.refl _ _

/-! ### The operations -/

theorem modifyCall {f : SignalCall → SignalCall} (hf : R call (s.calls call) (f (s.calls call))) :
    Evolves R s (s.modifyCall call f) :=
  hR.of_update rfl rfl hf

theorem setState (h : R call (s.calls call) ((s.calls call).withState state)) :
    Evolves R s (s.setState call state) :=
  hR.of_update calls_setState callCount_setState h

theorem ensureAudioState : Evolves R s (s.ensureAudioState call client) :=
  hR.of_calls rfl rfl

theorem updateCallType {record : ℕ} {callType : RPRecentCallType} :
    Evolves R s (s.updateCallType record callType) :=
  hR.of_calls rfl rfl

theorem saveCallRecord {callType : RPRecentCallType} :
    Evolves R s (s.saveCallRecord call callType) :=
  hR.of_update calls_saveCallRecord (callCount_of_rest rest_saveCallRecord)
    (hR.callRecord call _ _)

theorem handleMissedCall : Evolves R s (s.handleMissedCall call) :=
  hR.of_update calls_handleMissedCall (callCount_of_rest rest_handleMissedCall)
    (hR.callRecord call _ _)

theorem handleMissedIfFailed : Evolves R s (s.handleMissedIfFailed call) := by
  rw [CallService.handleMissedIfFailed]
  split
  · exact hR.handleMissedCall
  · exact hR.handleMissedCall
  · exact hR.of_calls rfl rfl

theorem handleMissedIfHungUp : Evolves R s (s.handleMissedIfHungUp call) := by
  rw [CallService.handleMissedIfHungUp]
  split
  all_goals first | exact hR.of_calls rfl rfl | exact hR.handleMissedCall

theorem terminateCall : Evolves R s s.terminateCall :=
  hR.of_calls calls_terminateCall callCount_terminateCall

theorem updateIsVideoEnabled : Evolves R s s.updateIsVideoEnabled :=
  hR.of_calls calls_updateIsVideoEnabled (callCount_of_rest rest_updateIsVideoEnabled)

theorem failed : Evolves R s (s.failed call error) :=
  hR.evolves_trans (hR.evolves_trans hR.handleMissedIfFailed (hR.modifyCall (hR.error call _ _)))
    (hR.setState (hR.terminated call _ _ rfl))

theorem handleFailedCall : Evolves R s (s.handleFailedCall (some call) error) := by
  rw [handleFailedCall_some]
  split
  · exact hR.evolves_trans hR.failed hR.terminateCall
  · exact hR.failed

theorem ordinary (h : Ordinary s s') : Evolves R s s' := by
  cases h with
  | quiet hquiet => exact hR.of_calls hquiet.calls hquiet.callCount
  | failed before hlt after =>
      exact hR.evolves_trans (hR.evolves_trans (hR.of_calls before.calls before.callCount)
        hR.handleFailedCall) (hR.of_calls after.calls after.callCount)
  | advanced hcall hadvances => exact hR.setState (hR.advances _ _ _ hadvances)
  | hungUp hcall =>
      exact hR.evolves_trans (hR.evolves_trans hR.handleMissedIfHungUp
        (hR.setState (hR.terminated _ _ _ rfl))) hR.terminateCall
  | video hasLocalVideo hcall =>
      exact hR.evolves_trans (hR.modifyCall (hR.options _ _ _ _ _)) hR.updateIsVideoEnabled

/-- The handler of a promise changes no call. -/
theorem fulfilled {promise : CallPromise} (h : Fulfilled s call promise s') : Evolves R s s' := by
  cases h with
  | rejected error => exact hR.of_calls rfl rfl
  | client hpromise hdata hcall => exact hR.of_calls rfl rfl
  | waits hnext before => exact hR.of_calls before.calls before.callCount
  | raced before hdata hcall hconnected => exact hR.of_calls before.calls before.callCount
  | connected hpromise hquiet => exact hR.of_calls hquiet.calls hquiet.callCount

theorem created {a : SignalCall} (ha : a.IsNew) : Evolves R s (s.created a) :=
  hR.of_new rfl rfl ha

theorem missed : Evolves R s (s.missed contact callId) :=
  hR.evolves_trans (hR.created (.incoming contact callId)) hR.handleMissedCall

theorem handleConnectedCall {callData : SignalCallData}
    (hclient : callData.peerConnectionClient.isSome)
    (hconnected : R callData.call (s.calls callData.call)
      ((s.calls callData.call).withState .connected)) :
    Evolves R s (s.handleConnectedCall callData) :=
  hR.of_update (calls_handleConnectedCall hclient) (callCount_handleConnectedCall hclient)
    hconnected

/-- The record does not matter to whether the call may connect. -/
theorem answered {callData : SignalCallData} {callType : RPRecentCallType}
    (hclient : callData.peerConnectionClient.isSome)
    (hconnected : R callData.call (s.calls callData.call)
      ((s.calls callData.call).withState .connected)) :
    Evolves R s ((s.saveCallRecord callData.call callType).handleConnectedCall callData) := by
  have hcalls : ((s.saveCallRecord callData.call callType).handleConnectedCall callData).calls =
      Function.update s.calls callData.call
        { (s.calls callData.call).withState .connected with
          callRecord := some s.callRecords.length } := by
    rw [calls_handleConnectedCall hclient, calls_saveCallRecord, Function.update_self,
      Function.update_idem]
    rfl
  refine hR.of_update hcalls ?_ (hR.trans _ _ _ _ hconnected (hR.callRecord _ _ _))
  rw [callCount_handleConnectedCall hclient, callCount_of_rest rest_saveCallRecord]

theorem handleLocalHungupCall : Evolves R s (s.handleLocalHungupCall call) := by
  rw [CallService.handleLocalHungupCall]
  split
  · exact hR.terminateCall
  · split
    · exact hR.handleFailedCall
    · have hhungUp : Evolves R s ((s.setState call .localHangup).updateHungUpCallRecord call) :=
        hR.evolves_trans (hR.setState (hR.terminated _ _ _ rfl))
          (hR.of_calls calls_updateHungUpCallRecord
            (callCount_of_rest rest_updateHungUpCallRecord))
      dsimp only
      split
      · exact hR.evolves_trans hhungUp hR.terminateCall
      · exact hR.evolves_trans (hR.evolves_trans hhungUp hR.ensureAudioState) hR.terminateCall

theorem handleDeclineCall : Evolves R s (s.handleDeclineCall call) := by
  rw [CallService.handleDeclineCall]
  split
  · exact hR.evolves_trans hR.saveCallRecord hR.handleLocalHungupCall
  · exact hR.evolves_trans hR.updateCallType hR.handleLocalHungupCall

theorem setAudioOption {f : SignalCall → SignalCall}
    (hf : R call (s.calls call) (f (s.calls call))) : Evolves R s (s.setAudioOption call f) := by
  rw [CallService.setAudioOption]
  split
  · exact hR.of_calls rfl rfl
  · split
    · exact hR.modifyCall hf
    · exact hR.evolves_trans (hR.modifyCall hf) (hR.of_calls rfl rfl)

theorem settle {promise : CallPromise} {settlement : Settlement} :
    Evolves R s (s.settle call promise settlement) := by
  cases settlement with
  | fulfilled | rejected error => exact hR.of_calls rfl rfl
  | cancelled =>
      rw [CallService.settle]
      split
      · exact hR.of_calls rfl rfl
      · exact hR.of_calls rfl rfl

end CallRule

/-! ## Steps -/

def Connects (s : CallService) (callData : SignalCallData) : Event → Prop
  | .answerCall call | .answerLocalId call => call = callData.call
  | .clientEvent _ (.receivedDataChannelMessage message) =>
      message.connected = some (s.calls callData.call).signalingId
  | _ => False

namespace CallRule

variable (hR : CallRule R)
include hR

/-- **Every step changes calls as allowed**, if it may connect the call that it connects. -/
theorem step (hs : s.Coherent) (hstep : Step s event s')
    (hconnected : ∀ callData, s.callData = some callData → s.Connects callData event →
      callData.peerConnectionClient.isSome →
        R callData.call (s.calls callData.call)
          ((s.calls callData.call).withState .connected)) : Evolves R s s' := by
  have hpop : Evolves R s s.popped := hR.of_calls rfl rfl
  cases effect_of_step hs.current hs.known hstep with
  | ordinary hevent hordinary => exact hR.ordinary hordinary
  | notified hevent => exact hR.updateIsVideoEnabled
  | applicationStateChanged isInBackground => exact hR.of_calls rfl rfl
  | untrusted contact callId =>
      exact hR.evolves_trans (hR.created (.incoming contact callId))
        (hR.evolves_trans hR.saveCallRecord hR.terminateCall)
  | rang contact callId hcall =>
      exact hR.evolves_trans (hR.created (.incoming contact callId)) (hR.of_calls rfl rfl)
  | missed contact callId hcall => exact hR.missed
  | collided callId hcall hstate =>
      exact hR.evolves_trans (hR.evolves_trans hR.missed (hR.setState (hR.terminated _ _ _ rfl)))
        hR.terminateCall
  | replaced callId hcall hidle hdialing hringing =>
      exact hR.evolves_trans hR.missed hR.terminateCall
  | refused contact signalingId hasLocalVideo hdata =>
      exact hR.evolves_trans (hR.created (.outgoing contact signalingId hasLocalVideo))
        (hR.setState (hR.terminated _ _ _ rfl))
  | dialed contact signalingId hasLocalVideo hcall =>
      have hopened : Evolves R s (s.opened { SignalCall.outgoingCall contact signalingId with
          hasLocalVideo }) := hR.of_new rfl rfl (.outgoing contact signalingId hasLocalVideo)
      exact hR.evolves_trans (hR.evolves_trans hopened hR.saveCallRecord) (hR.of_calls rfl rfl)
  | busy hcall =>
      exact hR.evolves_trans (hR.setState (hR.terminated _ _ _ rfl)) hR.terminateCall
  | connected hdata hclient hid =>
      exact hR.handleConnectedCall hclient (hconnected _ hdata hid hclient)
  | answered hdata hclient hevent =>
      refine hR.answered hclient (hconnected _ hdata ?_ hclient)
      rcases hevent with rfl | rfl <;> exact rfl
  | declined hlt hevent => exact hR.handleDeclineCall
  | hungUpHere hcall => exact hR.handleLocalHungupCall
  | muted call isMuted => exact hR.setAudioOption (hR.options call _ _ _ _)
  | held call isOnHold => exact hR.setAudioOption (hR.options call _ _ _ _)
  | terminated => exact hR.terminateCall
  | settled hpromise hsettle => exact hR.settle
  | fulfilled hhead hfulfilled => exact hR.evolves_trans hpop (hR.fulfilled hfulfilled)
  | rejected hhead hordinary => exact hR.evolves_trans hpop (hR.ordinary hordinary)
  | blockRun hhead hblock hordinary => exact hR.evolves_trans hpop (hR.ordinary hordinary)

end CallRule

/-! ## What is true of every call -/

theorem Evolves.all {P : SignalCall → Prop} (h : Evolves (fun _ a b => P a → P b) s s')
    (hnew : ∀ a : SignalCall, a.IsNew → P a) (hall : ∀ call < s.callCount, P (s.calls call)) :
    ∀ call < s'.callCount, P (s'.calls call) := by
  intro call hlt
  by_cases hearlier : call < s.callCount
  · exact h.earlier call hearlier (hall call hearlier)
  · obtain ⟨a, ha, hP⟩ := h.new call (Nat.not_lt.mp hearlier) hlt
    exact hP (hnew a ha)

end CallService

/-- Whether the state is that of a call that is connected, or was until the network went. -/
def CallState.isLive (state : CallState) : Bool :=
  state = .connected || state = .reconnecting

theorem CallState.isLive_iff {state : CallState} :
    state.isLive = true ↔ state = .connected ∨ state = .reconnecting := by
  cases state <;> decide

theorem CallState.isLive_of_isTerminated {state : CallState} (h : state.isTerminated = true) :
    state.isLive = false := by
  cases state <;> first | rfl | exact nomatch h

/-- A call that the network moves on is live after it as it was before. -/
theorem CallState.Advances.isLive {state next : CallState} (h : state.Advances next) :
    next.isLive = state.isLive := by
  cases h <;> rfl

theorem CallState.Advances.isTerminated {state next : CallState} (h : state.Advances next) :
    state.isTerminated = false ∧ next.isTerminated = false := by
  cases h <;> exact ⟨rfl, rfl⟩

/-- The state, the direction and `connectedDate` agree. -/
structure SignalCall.Sound (a : SignalCall) : Prop where
  incoming : a.direction = .incoming → a.state ≠ .dialing ∧ a.state ≠ .remoteRinging
  outgoing : a.direction = .outgoing → a.state ≠ .answering ∧ a.state ≠ .localRinging
  live : a.state.isLive = true → a.hasConnected = true
  hasConnected : a.hasConnected = true → a.state.isLive = true ∨ a.state.isTerminated = true
  notIdle : a.state ≠ .idle

/-- A call that is neither live nor over has not connected. -/
theorem SignalCall.Sound.never {a : SignalCall} (h : a.Sound) (hlive : a.state.isLive = false)
    (hterminated : a.state.isTerminated = false) : a.hasConnected = false := by
  refine Bool.eq_false_iff.mpr fun hconnected => ?_
  rcases h.hasConnected hconnected with hstate | hstate
  · rw [hlive] at hstate
    exact nomatch hstate
  · rw [hterminated] at hstate
    exact nomatch hstate

namespace CallService

theorem sound_of_isNew {a : SignalCall} (h : a.IsNew) : a.Sound := by
  cases h with
  | outgoing contact signalingId hasLocalVideo =>
      exact ⟨nofun, fun _ => ⟨nofun, nofun⟩, nofun, nofun, nofun⟩
  | incoming contact callId => exact ⟨fun _ => ⟨nofun, nofun⟩, nofun, nofun, nofun, nofun⟩

theorem sound_connected {a : SignalCall} : (a.withState .connected).Sound := by
  refine ⟨fun _ => ⟨nofun, nofun⟩, fun _ => ⟨nofun, nofun⟩, fun _ => ?_, fun _ => .inl rfl, nofun⟩
  rw [SignalCall.withState]
  exact Bool.or_true _

theorem callRule_sound : CallRule fun _ a b => a.Sound → b.Sound where
  refl _ _ := id
  trans _ _ _ _ h h' := h' ∘ h
  callRecord _ _ _ h := { h with }
  error _ _ _ h := { h with }
  options _ _ _ _ _ h := { h with }
  terminated _ a state hstate h := by
    cases state <;> first | exact absurd hstate Bool.false_ne_true | skip
    all_goals
      exact ⟨fun _ => ⟨nofun, nofun⟩, fun _ => ⟨nofun, nofun⟩, nofun, fun _ => .inr rfl, nofun⟩
  advances _ a state hadvances h := by
    generalize hstate : a.state = before at hadvances
    cases hadvances with
    | remoteRinging =>
        have hnever := h.never (by rw [hstate]; rfl) (by rw [hstate]; rfl)
        refine ⟨fun hin => absurd hstate (h.incoming hin).1, fun _ => ⟨nofun, nofun⟩, nofun,
          fun hconnected => ?_, nofun⟩
        simp [SignalCall.withState, hnever] at hconnected
    | localRinging =>
        have hnever := h.never (by rw [hstate]; rfl) (by rw [hstate]; rfl)
        refine ⟨fun _ => ⟨nofun, nofun⟩, fun hout => absurd hstate (h.outgoing hout).1, nofun,
          fun hconnected => ?_, nofun⟩
        simp [SignalCall.withState, hnever] at hconnected
    | reconnecting =>
        have hconnected : a.hasConnected = true := h.live (by rw [hstate]; rfl)
        refine ⟨fun _ => ⟨nofun, nofun⟩, fun _ => ⟨nofun, nofun⟩, fun _ => ?_, fun _ => .inl rfl,
          nofun⟩
        rw [SignalCall.withState, hconnected, Bool.true_or]
    | reconnected => exact sound_connected

/-- **Every call is sound**, in every run. -/
theorem sound_of_run {events : List Event} (run : LabelledRun Step initial events s) :
    ∀ call < s.callCount, (s.calls call).Sound :=
  (run.invariant (I := fun _ s => s.Coherent ∧ ∀ call < s.callCount, (s.calls call).Sound)
    ⟨coherent_initial, fun _ hlt => absurd hlt (Nat.not_lt_zero _)⟩ fun _ _ _ _ h hstep =>
      ⟨h.1.step hstep, (callRule_sound.step h.1 hstep fun _ _ _ _ _ => sound_connected).all
        (fun _ => sound_of_isNew) h.2⟩).2

end CallService

end ObjcSwiftLearning.Signal
