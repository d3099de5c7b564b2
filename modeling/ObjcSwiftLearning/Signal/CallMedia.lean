import ObjcSwiftLearning.Signal.CallChanges

/-!
# Media follow the call

Audio is asked of the client of the current call when the call connects and when the user mutes it
or puts it on hold; video whenever its state or the user's wish changes, and when the service is
notified that the application is in the background or active.

* `CallService.Media` — audio is enabled for live calls only, and all that are to be heard where no
  reconnecting call is unmuted; video is what it was to be when the application was last looked at.
* `CallService.Still` — nothing of this has changed, or the call is over.
* `CallService.Media.step` — every step keeps it.
* `CallService.media_follow_call` — what follows for every run.
-/

namespace ObjcSwiftLearning.Signal

/-- Whether a call in this state should be heard. -/
def SignalCall.wantsAudio (a : SignalCall) : Bool :=
  a.state = .connected && !a.isMuted && !a.isOnHold

/-- Whether a call in this state should be seen. -/
def SignalCall.wantsVideo (isInBackground : Bool) (a : SignalCall) : Bool :=
  !isInBackground && a.state = .connected && a.hasLocalVideo

theorem SignalCall.wantsAudio_iff {a : SignalCall} :
    a.wantsAudio = true ↔ a.state = .connected ∧ a.isMuted = false ∧ a.isOnHold = false := by
  simp [wantsAudio, and_assoc]

theorem SignalCall.wantsVideo_iff {isInBackground : Bool} {a : SignalCall} :
    a.wantsVideo isInBackground = true ↔
      a.state = .connected ∧ a.hasLocalVideo = true ∧ isInBackground = false := by
  simp only [wantsVideo, Bool.and_eq_true, Bool.not_eq_true', decide_eq_true_iff]
  exact ⟨fun ⟨⟨hbackground, hstate⟩, hvideo⟩ => ⟨hstate, hvideo, hbackground⟩,
    fun ⟨hstate, hvideo, hbackground⟩ => ⟨⟨hbackground, hstate⟩, hvideo⟩⟩

namespace CallService

variable {kept : Prop} {told : Bool} {s s' : CallService} {callData : SignalCallData}
  {call client : ℕ} {error : CallError} {state : CallState} {event : Event} {events : List Event}
  {contact : String} {callId : UInt64}

/-! ## The invariant -/

/-- Video is asked for as it was wanted when the application was last looked at; whether it has said
so if that has changed since is `told`. -/
def AsksVideo (told isInBackground : Bool) (a : SignalCall) (videoEnabled : Bool) : Prop :=
  ∃ wasInBackground, videoEnabled = a.wantsVideo wasInBackground ∧
    (told = true → wasInBackground = isInBackground)

/-- What is asked of the client of the current call.  Whether no reconnecting call was unmuted is
`kept`. -/
structure Media (kept : Prop) (told : Bool) (s : CallService) : Prop where
  audio : ∀ callData client, s.callData = some callData →
    callData.peerConnectionClient = some client → (s.clients client).audioEnabled = true →
      (s.calls callData.call).state.isLive = true ∧ (s.calls callData.call).isMuted = false ∧
        (s.calls callData.call).isOnHold = false
  video : ∀ callData client, s.callData = some callData →
    callData.peerConnectionClient = some client →
      AsksVideo told s.isInBackground (s.calls callData.call) (s.clients client).videoEnabled
  noClient : ∀ callData, s.callData = some callData → callData.peerConnectionClient = none →
    (s.calls callData.call).state.isLive = false
  heard : kept → ∀ callData client, s.callData = some callData →
    callData.peerConnectionClient = some client → (s.calls callData.call).state.isLive = true →
      (s.calls callData.call).isMuted = false → (s.calls callData.call).isOnHold = false →
        (s.clients client).audioEnabled = true

/-- Without a current call nothing is asked. -/
theorem Media.of_none (hnone : s.callData = none) : s.Media kept told := by
  refine ⟨fun callData _ hdata => ?_, fun callData _ hdata => ?_, fun callData hdata => ?_,
    fun _ callData _ hdata => ?_⟩
  all_goals
    rw [hnone] at hdata
    exact nomatch hdata

theorem media_initial : initial.Media kept told :=
  .of_none rfl

structure SameMedia (a b : SignalCall) : Prop where
  state : b.state = a.state
  isMuted : b.isMuted = a.isMuted
  isOnHold : b.isOnHold = a.isOnHold
  hasLocalVideo : b.hasLocalVideo = a.hasLocalVideo

theorem SameMedia.refl {a : SignalCall} : SameMedia a a :=
  ⟨rfl, rfl, rfl, rfl⟩

/-- The current call is over, or as it was. -/
structure Still (s s' : CallService) : Prop where
  isInBackground : s'.isInBackground = s.isInBackground
  audio : ∀ client, (s'.clients client).audioEnabled = (s.clients client).audioEnabled
  video : ∀ client, (s'.clients client).videoEnabled = (s.clients client).videoEnabled
  current : ∀ callData', s'.callData = some callData' → ∃ callData, s.callData = some callData ∧
    callData'.call = callData.call ∧
      callData'.peerConnectionClient = callData.peerConnectionClient ∧
        SameMedia (s.calls callData.call) (s'.calls callData.call)

/-- Neither calls nor clients nor the current call have changed. -/
theorem Still.of_eq (hdata : s'.callData = s.callData) (hcalls : s'.calls = s.calls)
    (hclients : s'.clients = s.clients) (hbackground : s'.isInBackground = s.isInBackground) :
    Still s s' where
  isInBackground := hbackground
  audio client := by rw [hclients]
  video client := by rw [hclients]
  current callData' hdata' := ⟨callData', hdata ▸ hdata', rfl, rfl, hcalls ▸ .refl⟩

theorem Quiet.still (h : Quiet s s') : Still s s' where
  isInBackground := h.isInBackground
  audio client := congrArg (·.2.1) (h.tracks client)
  video client := congrArg (·.2.2) (h.tracks client)
  current callData' hdata' := by
    obtain ⟨callData, hdata, hcall, -, hclient⟩ := h.current hdata'
    exact ⟨callData, hdata, hcall, hclient, h.calls ▸ .refl⟩

theorem Media.still (h : s.Media kept told) (hstill : Still s s') : s'.Media kept told := by
  refine ⟨fun callData' client hdata' hclient haudio => ?_,
    fun callData' client hdata' hclient => ?_, fun callData' hdata' hclient => ?_,
    fun hkept callData' client hdata' hclient hlive hmuted honHold => ?_⟩
  all_goals
    obtain ⟨callData, hdata, hcall, hsame, hmedia⟩ := hstill.current callData' hdata'
    rw [hsame] at hclient
  · rw [hstill.audio] at haudio
    rw [hcall, hmedia.state, hmedia.isMuted, hmedia.isOnHold]
    exact h.audio callData client hdata hclient haudio
  · rw [hstill.video, hstill.isInBackground, hcall]
    obtain ⟨wasInBackground, hvideo, htold⟩ := h.video callData client hdata hclient
    refine ⟨wasInBackground, hvideo.trans ?_, htold⟩
    rw [SignalCall.wantsVideo, SignalCall.wantsVideo, hmedia.state, hmedia.hasLocalVideo]
  · rw [hcall, hmedia.state]
    exact h.noClient callData hdata hclient
  · rw [hcall, hmedia.state] at hlive
    rw [hcall, hmedia.isMuted] at hmuted
    rw [hcall, hmedia.isOnHold] at honHold
    rw [hstill.audio]
    exact h.heard hkept callData client hdata hclient hlive hmuted honHold

/-! ## Calls that end -/

theorem Media.terminateCall : s.terminateCall.Media kept told :=
  .of_none callData_terminateCall

theorem Media.handleFailedCall (h : s.Media kept told) :
    (s.handleFailedCall (some call) error).Media kept told := by
  rw [handleFailedCall_some]
  split
  · exact .terminateCall
  · next hne =>
      refine h.still ⟨?_, fun _ => by rw [clients_failed_of_ne hne],
        fun _ => by rw [clients_failed_of_ne hne], fun callData hdata => ?_⟩
      · exact isInBackground_of_rest rest_failed
      · rw [callData_of_rest rest_failed] at hdata
        refine ⟨callData, hdata, rfl, rfl, ?_⟩
        have hother : callData.call ≠ call := fun heq =>
          hne (by rw [call_of_some hdata, heq])
        rw [calls_failed_of_ne hother]
        exact .refl

/-! ## Video and states -/

theorem shouldHaveLocalVideoTrack_eq (hdata : s.callData = some callData) :
    s.shouldHaveLocalVideoTrack = (s.calls callData.call).wantsVideo s.isInBackground := by
  rw [shouldHaveLocalVideoTrack, hdata]
  rfl

theorem clients_updateIsVideoEnabled (hdata : s.callData = some callData)
    (hclient : callData.peerConnectionClient = some client) :
    s.updateIsVideoEnabled.clients = Function.update s.clients client
      { s.clients client with
        videoEnabled := (s.calls callData.call).wantsVideo s.isInBackground } := by
  have hcurrent : s.peerConnectionClient = some client := by
    rw [peerConnectionClient_of_some hdata, hclient]
  rw [updateIsVideoEnabled, hcurrent, ← shouldHaveLocalVideoTrack_eq hdata]
  rfl

theorem Media.updateIsVideoEnabled
    (haudio : ∀ callData client, s.callData = some callData →
      callData.peerConnectionClient = some client → (s.clients client).audioEnabled = true →
        (s.calls callData.call).state.isLive = true ∧ (s.calls callData.call).isMuted = false ∧
          (s.calls callData.call).isOnHold = false)
    (hnoClient : ∀ callData, s.callData = some callData → callData.peerConnectionClient = none →
      (s.calls callData.call).state.isLive = false)
    (hheard : kept → ∀ callData client, s.callData = some callData →
      callData.peerConnectionClient = some client → (s.calls callData.call).state.isLive = true →
        (s.calls callData.call).isMuted = false → (s.calls callData.call).isOnHold = false →
          (s.clients client).audioEnabled = true) : s.updateIsVideoEnabled.Media kept told := by
  have hdata' := callData_of_rest (@rest_updateIsVideoEnabled s)
  have hbackground := isInBackground_of_rest (@rest_updateIsVideoEnabled s)
  refine ⟨fun callData client hdata hclient haudioEnabled => ?_,
    fun callData client hdata hclient => ?_, fun callData hdata hclient => ?_,
    fun hkept callData client hdata hclient hlive hmuted honHold => ?_⟩
  all_goals rw [hdata'] at hdata
  · rw [clients_updateIsVideoEnabled hdata hclient, Function.update_self] at haudioEnabled
    rw [calls_updateIsVideoEnabled]
    exact haudio callData client hdata hclient haudioEnabled
  · rw [clients_updateIsVideoEnabled hdata hclient, Function.update_self,
      calls_updateIsVideoEnabled, hbackground]
    exact ⟨_, rfl, fun _ => rfl⟩
  · rw [calls_updateIsVideoEnabled]
    exact hnoClient callData hdata hclient
  · rw [calls_updateIsVideoEnabled] at hlive hmuted honHold
    rw [clients_updateIsVideoEnabled hdata hclient, Function.update_self]
    exact hheard hkept callData client hdata hclient hlive hmuted honHold

theorem Media.setState (h : s.Media kept told) (hcall : s.call = some call)
    (hlive : state.isLive = (s.calls call).state.isLive) :
    (s.setState call state).Media kept told := by
  have hcurrent : ∀ callData, s.callData = some callData → callData.call = call := by
    intro callData hdata
    rw [call_of_some hdata] at hcall
    exact Option.some.inj hcall
  have hdata' : ((s.modifyCall call (·.withState state)).updateCallRecordType call).callData =
      s.callData := callData_of_rest rest_updateCallRecordType
  rw [CallService.setState, if_pos hcall]
  refine .updateIsVideoEnabled (fun callData client hdata hclient haudio => ?_)
    (fun callData hdata hclient => ?_)
    (fun hkept callData client hdata hclient hlive' hmuted honHold => ?_)
  all_goals
    rw [hdata'] at hdata
    obtain rfl := hcurrent callData hdata
  · rw [clients_updateCallRecordType] at haudio
    rw [calls_updateCallRecordType, calls_modifyCall_self]
    obtain ⟨hlive', hmuted, honHold⟩ := h.audio callData client hdata hclient haudio
    exact ⟨hlive.trans hlive', hmuted, honHold⟩
  · rw [calls_updateCallRecordType, calls_modifyCall_self]
    exact hlive.trans (h.noClient callData hdata hclient)
  · rw [calls_updateCallRecordType, calls_modifyCall_self] at hlive' hmuted honHold
    rw [clients_updateCallRecordType]
    exact h.heard hkept callData client hdata hclient (hlive.symm.trans hlive') hmuted honHold

/-! ## Audio -/

@[simp] theorem audioEnabled_ensureAudioState :
    ((s.ensureAudioState call client).clients client).audioEnabled =
      (s.calls call).wantsAudio := by
  rw [ensureAudioState, clients_modifyClient_self]
  rfl

@[simp] theorem videoEnabled_ensureAudioState {other : ℕ} :
    ((s.ensureAudioState call client).clients other).videoEnabled =
      (s.clients other).videoEnabled := by
  rw [ensureAudioState]
  by_cases heq : other = client
  · subst heq
    rw [clients_modifyClient_self]
  · rw [clients_modifyClient_of_ne heq]

@[simp] theorem audioEnabled_setLocalVideoEnabled {enabled : Bool} :
    ((s.setLocalVideoEnabled client enabled).clients client).audioEnabled =
      (s.clients client).audioEnabled := by
  rw [setLocalVideoEnabled, clients_modifyClient_self]

@[simp] theorem videoEnabled_setLocalVideoEnabled {enabled : Bool} :
    ((s.setLocalVideoEnabled client enabled).clients client).videoEnabled = enabled := by
  rw [setLocalVideoEnabled, clients_modifyClient_self]

/-! ## The handlers -/

/-- The current call is not left neither muted nor on hold while it is reconnecting. -/
def KeepsAudio (s : CallService) : Event → Prop
  | .setIsMuted call isMuted => s.call = some call → (s.calls call).state = .reconnecting →
      isMuted = true ∨ (s.calls call).isOnHold = true
  | .setIsOnHold call isOnHold => s.call = some call → (s.calls call).state = .reconnecting →
      (s.calls call).isMuted = true ∨ isOnHold = true
  | _ => True

theorem callData_of_call (hcall : s.call = some call) :
    ∃ callData, s.callData = some callData ∧ callData.call = call :=
  Option.map_eq_some_iff.mp hcall

theorem Media.of_client (hdata : s.callData = some callData)
    (hclient : callData.peerConnectionClient = some client)
    (haudio : (s.clients client).audioEnabled = (s.calls callData.call).wantsAudio)
    (hvideo : AsksVideo told s.isInBackground (s.calls callData.call)
      (s.clients client).videoEnabled)
    (hkeeps : kept → (s.calls callData.call).state = .reconnecting →
      (s.calls callData.call).isMuted = true ∨ (s.calls callData.call).isOnHold = true) :
    s.Media kept told := by
  refine ⟨fun callData' client' hdata' hclient' henabled => ?_,
    fun callData' client' hdata' hclient' => ?_, fun callData' hdata' hnone => ?_,
    fun hkept callData' client' hdata' hclient' hlive hmuted honHold => ?_⟩
  all_goals obtain rfl := Option.some.inj (hdata.symm.trans hdata')
  · obtain rfl := Option.some.inj (hclient.symm.trans hclient')
    rw [haudio] at henabled
    obtain ⟨hstate, hmuted, honHold⟩ := SignalCall.wantsAudio_iff.mp henabled
    exact ⟨by rw [hstate]; rfl, hmuted, honHold⟩
  · obtain rfl := Option.some.inj (hclient.symm.trans hclient')
    exact hvideo
  · rw [hclient] at hnone
    exact nomatch hnone
  · obtain rfl := Option.some.inj (hclient.symm.trans hclient')
    rw [haudio, SignalCall.wantsAudio_iff]
    refine ⟨(CallState.isLive_iff.mp hlive).resolve_right fun hstate => ?_, hmuted, honHold⟩
    rcases hkeeps hkept hstate with hmuted' | honHold'
    · exact Bool.false_ne_true (hmuted.symm.trans hmuted')
    · exact Bool.false_ne_true (honHold.symm.trans honHold')

/-- **A call that connects** is asked for what is wanted. -/
theorem media_handleConnectedCall (hclient : callData.peerConnectionClient.isSome) :
    (s.handleConnectedCall callData).Media kept told := by
  obtain ⟨client, hclient⟩ := Option.isSome_iff_exists.mp hclient
  rw [CallService.handleConnectedCall, hclient]
  have hconnected : ((s.fulfillCallConnected callData).setState callData.call
      .connected).callData = some { callData with isCallConnected := true } := by
    rw [callData_setState, callData_fulfillCallConnected]
  refine .of_client hconnected hclient ?_ ?_ fun _ hstate => ?_
  · rw [audioEnabled_setLocalVideoEnabled, audioEnabled_ensureAudioState]
    rfl
  · rw [videoEnabled_setLocalVideoEnabled]
    exact ⟨_, shouldHaveLocalVideoTrack_eq hconnected, fun _ => rfl⟩
  · change ((((s.fulfillCallConnected callData).setState callData.call
      .connected)).calls callData.call).state = .reconnecting at hstate
    rw [calls_setState, Function.update_self] at hstate
    cases hstate

theorem Media.saveCallRecord {callType : RPRecentCallType} (h : s.Media kept told) :
    (s.saveCallRecord call callType).Media kept told := by
  refine h.still ⟨isInBackground_saveCallRecord, fun _ => by rw [clients_saveCallRecord],
    fun _ => by rw [clients_saveCallRecord], fun callData hdata => ?_⟩
  rw [callData_saveCallRecord] at hdata
  refine ⟨callData, hdata, rfl, rfl, ?_⟩
  rw [calls_saveCallRecord]
  by_cases heq : callData.call = call
  · rw [← heq, Function.update_self]
    exact ⟨rfl, rfl, rfl, rfl⟩
  · rw [Function.update_of_ne heq]
    exact .refl

theorem Media.of_noClient (hdata : s.callData = some callData)
    (hclient : callData.peerConnectionClient = none)
    (hlive : (s.calls callData.call).state.isLive = false) : s.Media kept told := by
  have hnot : ∀ callData' client, s.callData = some callData' →
      callData'.peerConnectionClient = some client → False := by
    intro callData' client hdata' hclient'
    obtain rfl := Option.some.inj (hdata.symm.trans hdata')
    rw [hclient] at hclient'
    exact nomatch hclient'
  refine ⟨fun callData' client hdata' hclient' => (hnot callData' client hdata' hclient').elim,
    fun callData' client hdata' hclient' => (hnot callData' client hdata' hclient').elim,
    fun callData' hdata' _ => ?_,
    fun _ callData' client hdata' hclient' => (hnot callData' client hdata' hclient').elim⟩
  obtain rfl := Option.some.inj (hdata.symm.trans hdata')
  exact hlive

theorem Media.setAudioOption {f : SignalCall → SignalCall} (h : s.Media kept told)
    (hstate : ∀ a, (f a).state = a.state) (hvideo : ∀ a, (f a).hasLocalVideo = a.hasLocalVideo)
    (hkeeps : kept → s.call = some call → (s.calls call).state = .reconnecting →
      (f (s.calls call)).isMuted = true ∨ (f (s.calls call)).isOnHold = true) :
    (s.setAudioOption call f).Media kept told := by
  rw [CallService.setAudioOption]
  split
  · exact h
  · next hcall =>
      rw [not_not] at hcall
      obtain ⟨callData, hdata, rfl⟩ := callData_of_call hcall
      rw [peerConnectionClient_of_some hdata]
      cases hsome : callData.peerConnectionClient with
      | none =>
          refine .of_noClient hdata hsome ?_
          rw [calls_modifyCall_self, hstate]
          exact h.noClient callData hdata hsome
      | some client =>
          refine .of_client hdata hsome audioEnabled_ensureAudioState ?_ ?_
          · rw [videoEnabled_ensureAudioState, calls_ensureAudioState, calls_modifyCall_self]
            obtain ⟨wasInBackground, hasked, htold⟩ := h.video callData client hdata hsome
            refine ⟨wasInBackground, hasked.trans ?_, htold⟩
            rw [SignalCall.wantsVideo, SignalCall.wantsVideo, hstate, hvideo]
          · rw [calls_ensureAudioState, calls_modifyCall_self, hstate]
            exact fun hkept hreconnecting => hkeeps hkept hcall hreconnecting

theorem Media.hasLocalVideo {hasLocalVideo : Bool} (h : s.Media kept told)
    (hcall : s.call = some call) : (s.modifyCall call fun signalCall =>
      { signalCall with hasLocalVideo }).updateIsVideoEnabled.Media kept told := by
  obtain ⟨callData, hdata, rfl⟩ := callData_of_call hcall
  refine .updateIsVideoEnabled (fun callData' client hdata' hclient henabled => ?_)
    (fun callData' hdata' hclient => ?_)
    (fun hkept callData' client hdata' hclient hlive hmuted honHold => ?_)
  all_goals obtain rfl := Option.some.inj (hdata.symm.trans hdata')
  · rw [calls_modifyCall_self]
    exact h.audio callData client hdata hclient henabled
  · rw [calls_modifyCall_self]
    exact h.noClient callData hdata hclient
  · rw [calls_modifyCall_self] at hlive hmuted honHold
    exact h.heard hkept callData client hdata hclient hlive hmuted honHold

/-- A new client is asked for nothing, and nothing is wanted yet. -/
theorem Media.setPeerConnectionClient (h : s.Media kept told) (hdata : s.callData = some callData)
    (hclient : callData.peerConnectionClient = none) :
    (s.setPeerConnectionClient callData).Media kept told := by
  have hlive := h.noClient callData hdata hclient
  have hstate : (s.calls callData.call).state ≠ .connected := by
    intro hstate
    rw [hstate] at hlive
    exact nomatch hlive
  have hmake : (s.setPeerConnectionClient callData).clients s.clientCount = .make :=
    Function.update_self _ _ _
  refine @of_client kept told _ { callData with peerConnectionClient := some s.clientCount }
    s.clientCount rfl rfl ?_ ⟨s.isInBackground, ?_, fun _ => rfl⟩ fun _ hreconnecting => ?_
  · rw [hmake]
    change false = (s.calls callData.call).wantsAudio
    rw [SignalCall.wantsAudio, decide_eq_false hstate, Bool.false_and, Bool.false_and]
  · rw [hmake]
    change false = (s.calls callData.call).wantsVideo s.isInBackground
    rw [SignalCall.wantsVideo, decide_eq_false hstate, Bool.and_false, Bool.false_and]
  · change (s.calls callData.call).state = .reconnecting at hreconnecting
    rw [hreconnecting] at hlive
    exact nomatch hlive

theorem Media.of_eq (h : s.Media kept told) (hdata : s'.callData = s.callData)
    (hcalls : s'.calls = s.calls) (hclients : s'.clients = s.clients)
    (hbackground : s'.isInBackground = s.isInBackground) : s'.Media kept told :=
  h.still (.of_eq hdata hcalls hclients hbackground)

theorem Media.of_otherCall (h : s.Media kept told) (hcall : s.call ≠ some call)
    (hdata : s'.callData = s.callData)
    (hcalls : ∀ other, other ≠ call → s'.calls other = s.calls other)
    (hclients : s'.clients = s.clients) (hbackground : s'.isInBackground = s.isInBackground) :
    s'.Media kept told := by
  refine h.still ⟨hbackground, fun _ => by rw [hclients], fun _ => by rw [hclients],
    fun callData hdata' => ?_⟩
  rw [hdata] at hdata'
  refine ⟨callData, hdata', rfl, rfl, ?_⟩
  have hne : callData.call ≠ call := fun heq =>
    hcall (by rw [call_of_some hdata', heq])
  rw [hcalls callData.call hne]
  exact .refl

theorem Coherent.call_ne_callCount (h : s.Coherent) : s.call ≠ some s.callCount :=
  fun hcall => Nat.lt_irrefl _ (h.current _ hcall)

section

variable (h : s.Media kept told)
include h

theorem Media.ordinary (hordinary : Ordinary s s') : s'.Media kept told := by
  cases hordinary with
  | quiet hquiet => exact h.still hquiet.still
  | failed before hlt after =>
      exact (h.still before.still).handleFailedCall.still after.still
  | advanced hcall hadvances => exact h.setState hcall hadvances.isLive
  | hungUp hcall => exact .terminateCall
  | video hasLocalVideo hcall => exact h.hasLocalVideo hcall

theorem Media.fulfilled {promise : CallPromise} (hfulfilled : Fulfilled s call promise s')
    (hfirst : promise = .iceServers → ∀ callData, s.callData = some callData →
      callData.call = call → callData.peerConnectionClient = none) : s'.Media kept told := by
  cases hfulfilled with
  | rejected error => exact h.of_eq rfl rfl rfl rfl
  | client hpromise hdata hcall =>
      exact (h.setPeerConnectionClient hdata (hfirst hpromise _ hdata hcall)).of_eq rfl rfl rfl rfl
  | waits hnext before => exact (h.still before.still).of_eq rfl rfl rfl rfl
  | raced before hdata hcall hconnected => exact (h.still before.still).of_eq rfl rfl rfl rfl
  | connected hpromise hquiet => exact h.still hquiet.still

/-- A call that comes while another is current changes nothing of that. -/
theorem Media.missed (hs : s.Coherent) : (s.missed contact callId).Media kept told := by
  refine h.of_otherCall hs.call_ne_callCount callData_handleMissedCall (fun other hne => ?_)
    clients_handleMissedCall isInBackground_handleMissedCall
  rw [CallService.missed, calls_handleMissedCall, Function.update_of_ne hne]
  exact Function.update_of_ne hne _ _

theorem Media.handleLocalHungupCall : (s.handleLocalHungupCall call).Media kept told := by
  rw [CallService.handleLocalHungupCall]
  split
  · exact .terminateCall
  · split
    · exact h.handleFailedCall
    · dsimp only
      split
      · exact .terminateCall
      · exact .terminateCall

theorem Media.handleDeclineCall : (s.handleDeclineCall call).Media kept told := by
  rw [CallService.handleDeclineCall]
  refine Media.handleLocalHungupCall ?_
  split
  · exact h.saveCallRecord
  · exact h.of_eq rfl rfl rfl rfl

end

/-- Whether the service has been notified since the application went to or came from the
background. -/
def toldAfter (told : Bool) : Event → Bool
  | .applicationStateChanged _ => false
  | .didEnterBackground | .didBecomeActive => true
  | _ => told

def isTold (events : List Event) : Bool :=
  events.foldl toldAfter true

/-- What is not a notification tells nothing. -/
theorem told_of_toldAfter (hevent : ¬event.Notifies) (h : toldAfter told event = true) :
    told = true := by
  cases event with
  | didEnterBackground | didBecomeActive => exact absurd trivial hevent
  | applicationStateChanged isInBackground => exact nomatch h
  | _ => exact h

theorem Media.of_told {told' : Bool} (h : s.Media kept told) (htold : told' = true → told = true) :
    s.Media kept told' :=
  { h with
    video := fun callData client hdata hclient => by
      obtain ⟨wasInBackground, hasked, hsaid⟩ := h.video callData client hdata hclient
      exact ⟨wasInBackground, hasked, hsaid ∘ htold⟩ }

/-- **Every step keeps media with the call**, and where no reconnecting call is unmuted, all
audio. -/
theorem Media.step (h : s.Media kept told) (hs : s.Coherent) (hstep : Step s event s')
    (hkeeps : kept → s.KeepsAudio event) : s'.Media kept (toldAfter told event) := by
  have hpop : s.popped.Media kept told := h.of_eq rfl rfl rfl rfl
  cases effect_of_step hs.current hs.known hstep with
  | ordinary hevent hordinary => exact (h.ordinary hordinary).of_told (told_of_toldAfter hevent)
  | notified hevent => exact .updateIsVideoEnabled h.audio h.noClient h.heard
  | applicationStateChanged isInBackground =>
      refine ⟨h.audio, fun callData client hdata hclient => ?_, h.noClient, h.heard⟩
      obtain ⟨wasInBackground, hasked, -⟩ := h.video callData client hdata hclient
      exact ⟨wasInBackground, hasked, fun htold => nomatch htold⟩
  | untrusted contact callId => exact .terminateCall
  | rang contact callId hcall =>
      refine .of_noClient rfl rfl ?_
      simp only [wait, opened, created, Function.update_self]
      rfl
  | missed contact callId hcall => exact h.missed hs
  | collided callId hcall hstate => exact .terminateCall
  | replaced callId hcall hidle hdialing hringing => exact .terminateCall
  | refused contact signalingId hasLocalVideo hdata =>
      refine h.of_otherCall hs.call_ne_callCount callData_setState (fun other hne => ?_)
        (clients_setState_of_ne hs.call_ne_callCount) isInBackground_setState
      rw [calls_setState, Function.update_of_ne hne]
      exact Function.update_of_ne hne _ _
  | dialed contact signalingId hasLocalVideo hcall =>
      refine .of_noClient callData_saveCallRecord rfl ?_
      simp only [wait, calls_saveCallRecord, Function.update_self, opened, created]
      rfl
  | busy hcall => exact .terminateCall
  | connected hdata hclient hid => exact media_handleConnectedCall hclient
  | answered hdata hclient hevent => exact media_handleConnectedCall hclient
  | declined hlt hevent =>
      rcases hevent with rfl | ⟨rfl, -⟩ <;> exact h.handleDeclineCall
  | hungUpHere hcall => exact h.handleLocalHungupCall
  | muted call isMuted => exact h.setAudioOption (fun _ => rfl) (fun _ => rfl) hkeeps
  | held call isOnHold => exact h.setAudioOption (fun _ => rfl) (fun _ => rfl) hkeeps
  | terminated => exact .terminateCall
  | @settled call promise settlement hpromise hsettle =>
      change (s.settle call promise settlement).Media kept told
      cases settlement with
      | fulfilled | rejected error => exact h.of_eq rfl rfl rfl rfl
      | cancelled =>
          rw [settle]
          split <;> exact h.of_eq rfl rfl rfl rfl
  | fulfilled hhead hfulfilled =>
      refine hpop.fulfilled hfulfilled ?_
      rintro rfl callData hdata rfl
      exact hs.client_none hdata hhead
  | rejected hhead hordinary => exact hpop.ordinary hordinary
  | blockRun hhead hblock hordinary => exact hpop.ordinary hordinary

/-! ## Every run -/

/-- What is asked of the client agrees with the call in every run; where no reconnecting call is
unmuted, entirely. -/
theorem media_of_run (run : LabelledRun Step initial events s)
    (hkept : kept → LabelledRun.EveryStep Step initial events fun s event _ => s.KeepsAudio event) :
    s.Media kept (isTold events) := by
  have restricted := run.restrict (p := fun s event _ => kept → s.KeepsAudio event)
    fun earlier event later before after hevents run hstep hkept' =>
      hkept hkept' earlier event later before after hevents run hstep
  refine (restricted.invariant (I := fun events s => s.Coherent ∧ s.Media kept (isTold events))
    ⟨coherent_initial, media_initial⟩ fun events s event s' h hstep => ?_).2
  refine ⟨h.1.step hstep.1, ?_⟩
  rw [isTold, List.foldl_append]
  exact h.2.step h.1 hstep.1 hstep.2

/-- **Media follow the call.**  In every run in which no reconnecting call is left neither muted nor
on hold, the client of the current call is asked for audio just when the call is connected, not
muted and not on hold, and for video just when it is connected, has local video and the application
is, as the service was notified, not in the background; for neither before. -/
theorem media_follow_call (run : LabelledRun Step initial events s)
    (hkept : LabelledRun.EveryStep Step initial events fun s event _ => s.KeepsAudio event)
    (hdata : s.callData = some callData) (hclient : callData.peerConnectionClient = some client) :
    ((s.calls callData.call).state ≠ .reconnecting →
        ((s.clients client).audioEnabled = true ↔ (s.calls callData.call).state = .connected ∧
          (s.calls callData.call).isMuted = false ∧ (s.calls callData.call).isOnHold = false)) ∧
      ((isTold events = true ∨ (s.calls callData.call).state ≠ .connected ∨
          (s.calls callData.call).hasLocalVideo = false) →
        ((s.clients client).videoEnabled = true ↔ (s.calls callData.call).state = .connected ∧
          (s.calls callData.call).hasLocalVideo = true ∧ s.isInBackground = false)) ∧
      ((s.calls callData.call).hasConnected = false →
        (s.clients client).audioEnabled = false ∧ (s.clients client).videoEnabled = false) := by
  have hmedia := @media_of_run True s events run fun _ => hkept
  obtain ⟨wasInBackground, hvideo, htold⟩ := hmedia.video callData client hdata hclient
  refine ⟨fun hstate => ⟨fun henabled => ?_, fun ⟨hstate, hmuted, honHold⟩ => ?_⟩,
    fun hcurrent => ?_, fun hnever => ?_⟩
  · obtain ⟨hlive, hmuted, honHold⟩ := hmedia.audio callData client hdata hclient henabled
    exact ⟨(CallState.isLive_iff.mp hlive).resolve_right hstate, hmuted, honHold⟩
  · exact hmedia.heard trivial callData client hdata hclient
      (CallState.isLive_iff.mpr (.inl hstate)) hmuted honHold
  · rw [hvideo, SignalCall.wantsVideo_iff]
    rcases hcurrent with hnotified | hstate | hnone
    · rw [htold hnotified]
    · exact iff_of_false (fun h => hstate h.1) fun h => hstate h.1
    · rw [hnone]
      exact iff_of_false (fun h => nomatch h.2.1) fun h => nomatch h.2.1
  · have hlt := (coherent_of_run run).current callData.call
      (call_of_some hdata)
    have hdead : (s.calls callData.call).state.isLive ≠ true := fun hlive => by
      rw [(sound_of_run run callData.call hlt).live hlive] at hnever
      cases hnever
    refine ⟨Bool.eq_false_iff.mpr fun henabled => hdead ?_,
      Bool.eq_false_iff.mpr fun henabled => hdead ?_⟩
    · exact (hmedia.audio callData client hdata hclient henabled).1
    · rw [hvideo] at henabled
      exact CallState.isLive_iff.mpr (.inl (SignalCall.wantsVideo_iff.mp henabled).1)

/-- An incoming call whose client has been made. -/
def ringing : List Event :=
  [.receivedOffer "+1" 7 false, .promiseSettled 0 .iceServers .fulfilled,
    .blockRun (.fulfilled 0 .iceServers)]

/-- It is answered, and loses its network. -/
def reconnecting : List Event :=
  ringing ++ [.clientEvent 0 .iceConnected, .answerCall 0, .clientEvent 0 .iceDisconnected]

/-- It is muted and reconnects, is unmuted, and gets video; the application goes to the background
and comes back. -/
def thereAndBack : List Event :=
  reconnecting ++ [.setIsMuted 0 true, .clientEvent 0 .iceConnected, .setIsMuted 0 false,
    .setHasLocalVideo true, .applicationStateChanged true, .didEnterBackground,
    .applicationStateChanged false, .didBecomeActive]

theorem heard_and_seen_again :
    ((thereAndBack.foldl handle initial).clients 0).audioEnabled = true ∧
      ((thereAndBack.foldl handle initial).clients 0).videoEnabled = true := by
  have run : LabelledRun Step initial thereAndBack (thereAndBack.foldl handle initial) :=
    run_of_enabled _ (by decide)
  have hkept : LabelledRun.EveryStep Step initial thereAndBack
      fun s event _ => s.KeepsAudio event :=
    everyStep_of_along _ ⟨trivial, trivial, trivial, trivial, trivial, trivial,
      fun _ _ => .inl rfl, trivial, fun _ hstate => absurd hstate (by decide), trivial, trivial,
      trivial, trivial, trivial, trivial⟩
  have hmedia := media_follow_call run hkept rfl rfl
  exact ⟨(hmedia.1 (by decide)).mpr (by decide), (hmedia.2.1 (.inl (by decide))).mpr (by decide)⟩

/-- The reconnecting call is muted and unmuted before it reconnects. -/
def unmuted : List Event :=
  reconnecting ++ [.setIsMuted 0 true, .setIsMuted 0 false, .clientEvent 0 .iceConnected]

/-- After that it is connected, not muted and not on hold, and cannot be heard. -/
theorem reconnected_call_not_heard :
    ¬∀ (events : List Event) (s : CallService) (callData : SignalCallData) (client : ℕ),
      LabelledRun Step initial events s → s.callData = some callData →
        callData.peerConnectionClient = some client →
          (s.calls callData.call).state ≠ .reconnecting →
            ((s.clients client).audioEnabled = true ↔
              (s.calls callData.call).state = .connected ∧
                (s.calls callData.call).isMuted = false ∧
                  (s.calls callData.call).isOnHold = false) := by
  intro follows
  have run : LabelledRun Step initial unmuted (unmuted.foldl handle initial) :=
    run_of_enabled _ (by decide)
  have hheard := (follows _ _ _ 0 run rfl rfl (by decide)).mpr (by decide)
  exact absurd hheard (by decide)

end CallService

end ObjcSwiftLearning.Signal
